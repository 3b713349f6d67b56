import MysqlMetrics.Connection.Targets
import MysqlMetrics.Proofs.Connection.OptionFile
/-!
# Who insists on encryption

A connection that prefers encryption goes on in the clear where the server has none. A data source
name may ask for more (`Dsn.sslMode_parse`), and so may a target that names an authority or waives
the check of names (`Target.refusesPlaintext_iff`), and an option file that names an authority
(`ClientConfig.refusesPlaintext_iff`). A certificate or key of the client asks for nothing: with
these alone the mode stays what it was, in targets and option files alike
(`encryption_demanded_iff`).
-/
namespace MysqlMetrics

/-! ## Data source names -/

namespace Dsn

variable {o o' : ConnectOptions} {key value : String}

/-- The mode that a parameter of the query names, if it is one for that. -/
def modeOf (parameter : String × String) : Option SslMode :=
  if parameter.1 = "sslmode" ∨ parameter.1 = "ssl-mode" then sslMode? parameter.2 else none

/-- The mode that a URL asks for by the last parameter that names one. -/
def namedMode (u : Url) : SslMode :=
  ((Percent.formPairs (u.query.getD "")).reverse.findSome? modeOf).getD .preferred

theorem sslMode_setParameter (h : setParameter o key value = some o') :
    o'.sslMode = (modeOf (key, value)).getD o.sslMode := by
  unfold setParameter at h
  split at h
  case h_1 | h_2 =>
    obtain ⟨mode, hmode, rfl⟩ := Option.map_eq_some_iff.1 h
    simp [modeOf, hmode]
  case h_3 | h_4 | h_5 =>
    cases h
    simp [modeOf]
  case h_6 =>
    split at h <;> cases h
    simp [modeOf]
  case h_7 hmode hssl _ _ _ _ =>
    have hother : ¬ (key = "sslmode" ∨ key = "ssl-mode") := fun hk => hk.elim hmode hssl
    cases h
    rw [modeOf, if_neg hother]
    rfl

/-- Of several parameters for the mode the last one counts. -/
theorem sslMode_foldlM : ∀ {pairs : List (String × String)} {o : ConnectOptions},
    pairs.foldlM (fun o (key, value) => setParameter o key value) o = some o' →
      o'.sslMode = (pairs.reverse.findSome? modeOf).getD o.sslMode
  | [], o, h => by
    cases h
    rfl
  | (key, value) :: pairs, o, h => by
    rw [List.foldlM_cons] at h
    obtain ⟨next, hnext, hrest⟩ := Option.bind_eq_some_iff.1 h
    rw [sslMode_foldlM hrest, sslMode_setParameter hnext, List.reverse_cons, List.findSome?_append]
    cases pairs.reverse.findSome? modeOf <;> cases hmode : modeOf (key, value) <;> simp [hmode]

theorem sslMode_ofUrl {u : Url} (h : ofUrl u = some o) : o.sslMode = namedMode u := by
  unfold ofUrl at h
  split at h
  · exact sslMode_foldlM h
  · cases h

theorem sslMode_parse {dsn : String} (h : parse dsn = some o) :
    ∃ u, Url.parse dsn = some u ∧ o.sslMode = namedMode u := by
  obtain ⟨u, hu, hofUrl⟩ := Option.bind_eq_some_iff.1 h
  exact ⟨u, hu, sslMode_ofUrl hofUrl⟩

end Dsn

/-! ## Targets -/

theorem TlsConfig.refusesPlaintext_sslMode (tls : TlsConfig) (named : SslMode) :
    (tls.sslMode named).refusesPlaintext ↔
      tls.insecureSkipVerify ∨ tls.ca.isSome ∨ named.refusesPlaintext := by
  unfold sslMode
  by_cases hskip : tls.insecureSkipVerify
  · simp [hskip, SslMode.refusesPlaintext]
  · by_cases hca : tls.ca.isSome
    · simp [hskip, hca, SslMode.refusesPlaintext]
    · simp [hskip, hca]

theorem Target.refusesPlaintext_iff {t : Target} {tls : TlsConfig} {o : ConnectOptions}
    (htls : t.tls = some tls) (h : t.connectOptions? = some o) :
    ∃ u, Url.parse t.dsn = some u ∧
      (o.sslMode.refusesPlaintext ↔
        tls.insecureSkipVerify ∨ tls.ca.isSome ∨ (Dsn.namedMode u).refusesPlaintext) := by
  obtain ⟨named, hnamed, rfl⟩ := Option.map_eq_some_iff.1 h
  obtain ⟨u, hu, hmode⟩ := Dsn.sslMode_parse hnamed
  refine ⟨u, hu, ?_⟩
  rw [htls, ← hmode]
  exact tls.refusesPlaintext_sslMode named.sslMode

/-- Every target of a file whose names are all well-formed has its options. -/
theorem Targets.exists_connectOptions {targets : Targets}
    {options : SortedTable String ConnectOptions} (h : targets.connectOptions = .ok options)
    {name : String} {t : Target} (ht : (name, t) ∈ targets) :
    ∃ o, (name, o) ∈ options ∧ t.connectOptions? = some o := by
  obtain ⟨entry, hentry, hstep⟩ := exists_of_mapM_eq_ok h ht
  cases ho : t.connectOptions? with
  | none => simp [ho] at hstep
  | some o =>
    have hentryEq : (name, o) = entry := by simpa [ho] using hstep
    exact ⟨o, hentryEq ▸ hentry, rfl⟩

/-! ## Option files -/

namespace ClientConfig

theorem sslCa_parse {content : String} {c : ClientConfig} (h : parse content = .ok c) :
    c.sslCa.isSome ↔ Sets content "ssl-ca" := by
  rw [follows_sslCa.eq_assigned h, isSome_assigned]

theorem sslMode_connectOptions (c : ClientConfig) :
    c.connectOptions.sslMode = if c.sslCa.isSome then .verifyCa else .preferred := by
  unfold connectOptions
  cases c.socket <;> rfl

theorem refusesPlaintext_iff {content : String} {c : ClientConfig} (h : parse content = .ok c)
    (env : Environment) :
    (c.withEnvironment env).connectOptions.sslMode.refusesPlaintext ↔ Sets content "ssl-ca" := by
  rw [sslMode_connectOptions, ← sslCa_parse h]
  show (if c.sslCa.isSome then SslMode.verifyCa else .preferred).refusesPlaintext ↔ _
  split
  · rename_i hca
    simp [hca, SslMode.refusesPlaintext]
  · rename_i hca
    simp [hca, SslMode.refusesPlaintext]

end ClientConfig

/-! ## Both -/

/-- **Who refuses a connection in the clear.** A target with a section on encryption does exactly if
the section waives the check of names or gives an authority, or if the data source name asks for it
by itself; the options of an option file do exactly if a line gives an authority, whatever the
environment adds. Certificates and keys of the client change nothing in either. -/
theorem encryption_demanded_iff (env : Environment) :
    (∀ (targets : Targets) (options : SortedTable String ConnectOptions),
      targets.connectOptions = .ok options →
      ∀ (name : String) (t : Target) (tls : TlsConfig), (name, t) ∈ targets → t.tls = some tls →
        ∃ u o, Url.parse t.dsn = some u ∧ (name, o) ∈ options ∧
          (o.sslMode.refusesPlaintext ↔
            tls.insecureSkipVerify ∨ tls.ca.isSome ∨ (Dsn.namedMode u).refusesPlaintext)) ∧
    ∀ (content : String) (c : ClientConfig),
      ClientConfig.parse content = .ok c →
        ((c.withEnvironment env).connectOptions.sslMode.refusesPlaintext ↔
          ClientConfig.Sets content "ssl-ca") := by
  constructor
  · intro targets options hoptions name t tls ht htls
    obtain ⟨o, ho, hconnect⟩ := Targets.exists_connectOptions hoptions ht
    obtain ⟨u, hu, hiff⟩ := Target.refusesPlaintext_iff htls hconnect
    exact ⟨u, o, hu, ho, hiff⟩
  · intro content c hparse
    exact ClientConfig.refusesPlaintext_iff hparse env

namespace Certified

/-- A target that shows a certificate of its own, by a name that asks for nothing. -/
def target : Target := ⟨"mysql://u@h/", some { cert := some "/c.pem", key := some "/k.pem" }⟩

def options : ConnectOptions := { host := "h", user := "u" }

/-- An option file that gives only a certificate. -/
def file : String := "[client]\nuser=u\nssl_cert=/c.pem\n"

def client : ClientConfig := { user := some "u", sslCert := some "/c.pem" }

end Certified

open Certified in
/-- A certificate alone leaves either connection in the clear if the server has nothing better. -/
theorem encryption_not_demanded_of_certificate :
    Targets.connectOptions [("a", target)] = .ok [("a", options)] ∧
    ClientConfig.parse file = .ok client ∧
    (∃ u o, Url.parse target.dsn = some u ∧ ("a", o) ∈ [("a", options)] ∧
      ¬ o.sslMode.refusesPlaintext) ∧
    ¬ (client.withEnvironment []).connectOptions.sslMode.refusesPlaintext := by
  have htargets : Targets.connectOptions [("a", target)] = .ok [("a", options)] := rfl
  have hfile : ClientConfig.parse file = .ok client := rfl
  refine ⟨htargets, hfile, ?_, ?_⟩
  · obtain ⟨u, o, hu, ho, hiff⟩ := (encryption_demanded_iff []).1 _ _ htargets "a" target
      { cert := some "/c.pem", key := some "/k.pem" } (by simp) rfl
    have hurl : u = ⟨"mysql", "u", none, some "h", none, "/", none⟩ := by
      have hparse :
          Url.parse target.dsn = some ⟨"mysql", "u", none, some "h", none, "/", none⟩ := rfl
      exact Option.some.inj (hu.symm.trans hparse)
    refine ⟨u, o, hu, ho, ?_⟩
    rw [hiff, hurl]
    decide
  · rw [(encryption_demanded_iff []).2 file client hfile]
    unfold ClientConfig.Sets
    decide

end MysqlMetrics
