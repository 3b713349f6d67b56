import MysqlMetrics.Http.Traffic
import MysqlMetrics.Proofs.Base64
import MysqlMetrics.Proofs.Lists
import MysqlMetrics.Proofs.Text
/-!
# Credentials

A request is entitled to pass if it presents the name of a user and a password of which that user
has the hash (`Guard.Entitled`). That is what the guard finds out, at a look or by a check
(`Guard.look_spec`, `Guard.confirms_iff`); what it remembers makes no difference, as it remembers
only what it has confirmed (`Guard.authorize_iff`).
-/
namespace MysqlMetrics

/-! ## Text in headers -/

namespace Request

/-- A character that the text of a header may have. -/
def IsPlain (c : Char) : Prop := c.toNat = 9 ∨ 32 ≤ c.toNat ∧ c.toNat < 127

instance : DecidablePred IsPlain := fun _ => inferInstanceAs (Decidable (_ ∨ _))

theorem IsPlain.lt {c : Char} (h : IsPlain c) : c.toNat < 128 := by
  unfold IsPlain at h
  omega

/-- A byte that may be shown is the byte of a plain character. -/
theorem isPlain_of_isVisible {b : UInt8} (h : isVisible b = true) :
    IsPlain (Char.ofNat b.toNat) ∧ UInt8.ofNat (Char.ofNat b.toNat).toNat = b := by
  have h9 : b = 9 ↔ b.toNat = 9 := UInt8.toNat_inj.symm
  simp only [isVisible, Bool.or_eq_true, beq_iff_eq, h9, Bool.and_eq_true, decide_eq_true_eq,
    UInt8.le_iff_toNat_le, UInt8.lt_iff_toNat_lt] at h
  have h : b.toNat = 9 ∨ 32 ≤ b.toNat ∧ b.toNat < 127 := h
  have hn : (Char.ofNat b.toNat).toNat = b.toNat := Utf8.toNat_ofNat (by omega)
  exact ⟨by rw [IsPlain, hn]; exact h, by rw [hn, UInt8.ofNat_toNat]⟩

theorem isVisible_of_isPlain {c : Char} (h : IsPlain c) :
    isVisible (UInt8.ofNat c.toNat) = true ∧ Char.ofNat (UInt8.ofNat c.toNat).toNat = c := by
  have hlt := h.lt
  have hn : (UInt8.ofNat c.toNat).toNat = c.toNat := by
    rw [UInt8.toNat_ofNat']
    omega
  refine ⟨?_, by rw [hn, Char.ofNat_toNat]⟩
  have h9 : UInt8.ofNat c.toNat = 9 ↔ (UInt8.ofNat c.toNat).toNat = 9 := UInt8.toNat_inj.symm
  simp only [isVisible, Bool.or_eq_true, beq_iff_eq, h9, Bool.and_eq_true, decide_eq_true_eq,
    UInt8.le_iff_toNat_le, UInt8.lt_iff_toNat_lt, hn]
  exact h

/-- The text of a header is plain, and its bytes encode it. -/
theorem headerText?_eq_some {r : Request} {name text : String} : r.headerText? name = some text ↔
    r.header? name = some (Utf8.encode text) ∧ ∀ c ∈ text.toList, IsPlain c := by
  unfold headerText?
  rw [Option.bind_eq_some_iff]
  constructor
  · rintro ⟨bs, hbs, h⟩
    split at h
    · rename_i hv
      cases h
      have hb : ∀ b ∈ bs, IsPlain (Char.ofNat b.toNat) ∧
          UInt8.ofNat (Char.ofNat b.toNat).toNat = b :=
        fun b hb => isPlain_of_isVisible (List.all_eq_true.1 hv b hb)
      have hplain : ∀ c ∈ (String.ofList (bs.map fun b => Char.ofNat b.toNat)).toList,
          IsPlain c := by
        intro c hc
        rw [String.toList_ofList] at hc
        obtain ⟨b, hmem, rfl⟩ := List.mem_map.1 hc
        exact (hb b hmem).1
      refine ⟨?_, hplain⟩
      rw [hbs, Utf8.encode_ascii fun c hc => (hplain c hc).lt, String.toList_ofList]
      exact congrArg some
        (map_back (f := fun b : UInt8 => Char.ofNat b.toNat) fun b hmem => (hb b hmem).2).symm
    · cases h
  · rintro ⟨hbs, hplain⟩
    refine ⟨_, hbs, ?_⟩
    have hvisible : (Utf8.encode text).all isVisible = true := by
      rw [Utf8.encode_ascii fun c hc => (hplain c hc).lt]
      refine List.all_eq_true.2 fun b hb => ?_
      obtain ⟨c, hc, rfl⟩ := List.mem_map.1 hb
      exact (isVisible_of_isPlain (hplain c hc)).1
    have hback : (Utf8.encode text).map (fun b => Char.ofNat b.toNat) = text.toList := by
      rw [Utf8.encode_ascii fun c hc => (hplain c hc).lt]
      exact map_back (f := fun c : Char => UInt8.ofNat c.toNat) fun c hc =>
        (isVisible_of_isPlain (hplain c hc)).2
    rw [if_pos hvisible, hback, String.ofList_toList]

end Request

/-! ## Who is entitled -/

namespace Guard

open SortedTable

/-- A text of nothing but the blanks that a header may have. -/
def IsPadding (s : String) : Prop := ∀ c ∈ s.toList, c = ' ' ∨ c = '\t'

/-- Does the request present what a user has? Its first header of this name has to be `Basic ` and,
between blanks, a text in base 64: the name of a user, a colon, and a password of which the user has
the hash. A name has no colon. -/
def Entitled (users : SortedTable String String) (r : Request) : Prop :=
  ∃ before after user password hash : String,
    r.header? "authorization" = some (Utf8.encode ("Basic " ++
      (before ++ Base64.encode (Utf8.encode (user ++ ":" ++ password)) ++ after))) ∧
    IsPadding before ∧ IsPadding after ∧ ':' ∉ user.toList ∧
    find? user users = some hash ∧ Bcrypt.verify password hash = true

theorem presented?_eq_some {r : Request} {p : String} : presented? r = some p ↔
    r.header? "authorization" = some (Utf8.encode ("Basic " ++ p)) ∧
      ∀ c ∈ p.toList, Request.IsPlain c := by
  have hall : ("Basic ").toList.all (fun c => decide (Request.IsPlain c)) = true := by decide
  have hstart : ∀ c ∈ ("Basic ").toList, Request.IsPlain c := by simpa using hall
  unfold presented?
  simp only [Option.bind_eq_some_iff, Request.headerText?_eq_some, Text.after?_eq_some]
  constructor
  · rintro ⟨text, ⟨hh, hp⟩, rfl⟩
    exact ⟨hh, fun c hc => hp c (by simp [hc])⟩
  · rintro ⟨hh, hp⟩
    refine ⟨_, ⟨hh, fun c hc => ?_⟩, rfl⟩
    rw [String.toList_append, List.mem_append] at hc
    exact hc.elim (hstart c) (hp c)

theorem credentials?_eq_some {p user password : String} : credentials? p = some (user, password) ↔
    Text.trim p = Base64.encode (Utf8.encode (user ++ ":" ++ password)) ∧ ':' ∉ user.toList := by
  unfold credentials?
  simp only [Option.bind_eq_some_iff, Base64.decode_eq_some, Utf8.decode_eq_some, Text.cut_eq_some]
  constructor
  · rintro ⟨text, ⟨bs, hbs, rfl⟩, rfl, hn⟩
    exact ⟨hbs, hn⟩
  · rintro ⟨hbs, hn⟩
    exact ⟨_, ⟨_, hbs, rfl⟩, rfl, hn⟩

theorem padding_iff {c : Char} :
    (c = ' ' ∨ c = '\t') ↔ Request.IsPlain c ∧ Text.isBlank c = true := by
  constructor
  · rintro (rfl | rfl) <;> decide
  · rintro ⟨hp, hb⟩
    have hn : c.toNat = 32 ∨ c.toNat = 9 := by
      unfold Request.IsPlain at hp
      simp [Text.isBlank] at hb
      omega
    exact hn.imp (fun h => Char.toNat_inj.1 h) fun h => Char.toNat_inj.1 h

theorem encode_spec (bs : Bytes) : ∀ c ∈ (Base64.encode bs).toList,
    Request.IsPlain c ∧ Text.isBlank c = false := by
  have halphabet : ('=' :: Base64.standardAlphabet).all
      (fun c => decide (Request.IsPlain c) && !Text.isBlank c) = true := by decide +kernel
  intro c hc
  have hc := List.all_eq_true.1 halphabet c (Base64.mem_encode hc)
  simpa using hc

/-- Being entitled is to present what the guard accepts. -/
theorem entitled_iff {g : Guard} {r : Request} :
    Entitled g.users r ↔ ∃ p, presented? r = some p ∧ g.accepts p = true := by
  constructor
  · rintro ⟨before, after, user, password, hash, hh, hb, ha, hn, hf, hv⟩
    refine ⟨_, presented?_eq_some.2 ⟨hh, fun c hc => ?_⟩, ?_⟩
    · simp only [String.toList_append, List.mem_append] at hc
      rcases hc with (hc | hc) | hc
      · exact (padding_iff.1 (hb c hc)).1
      · exact (encode_spec _ c hc).1
      · exact (padding_iff.1 (ha c hc)).1
    · have htrim := Text.trim_between (fun c hc => (padding_iff.1 (hb c hc)).2)
        (fun c hc => (padding_iff.1 (ha c hc)).2)
        (fun c hc => (encode_spec (Utf8.encode (user ++ ":" ++ password)) c hc).2)
      have hcred := credentials?_eq_some.2 ⟨htrim, hn⟩
      simp only [accepts, hcred, hf, hv]
  · rintro ⟨p, hp, hacc⟩
    obtain ⟨hh, hplain⟩ := presented?_eq_some.1 hp
    unfold accepts at hacc
    split at hacc
    · cases hacc
    · rename_i user password hcred
      obtain ⟨htrim, hn⟩ := credentials?_eq_some.1 hcred
      split at hacc
      · cases hacc
      · rename_i hash hf
        obtain ⟨before, after, hb, ha, hs⟩ := Text.exists_between p
        rw [htrim] at hs
        subst hs
        refine ⟨before, after, user, password, hash, hh, fun c hc => ?_, fun c hc => ?_, hn,
          hf, hacc⟩
        · exact padding_iff.2 ⟨hplain c (by simp [hc]), hb c hc⟩
        · exact padding_iff.2 ⟨hplain c (by simp [hc]), ha c hc⟩

/-! ## What the guard finds out -/

/-- A guard of a web file that remembers nothing but what it accepts. -/
structure Of (c : WebConfig) (g : Guard) : Prop where
  users : g.users = c.users
  headers : g.headers = c.responseHeaders
  verified : ∀ p ∈ g.verified, g.accepts p = true

theorem of_new (c : WebConfig) : Of c (.new c) := ⟨rfl, rfl, fun _ hp => by cases hp⟩

/-- The check is that of what the request presents. -/
structure Check.Fits (k : Check) (users : SortedTable String String) (r : Request) : Prop where
  presented : presented? r = some k.presented
  credentials : credentials? k.presented = some (k.user, k.password)
  hash : k.hash = (find? k.user users).getD unknownUserHash

variable {c : WebConfig} {g : Guard} {r : Request} {k : Check}

/-- A check confirms what the guard accepts, of a name without a user nothing. -/
theorem confirms_eq (hf : k.Fits g.users r) : g.confirms k = g.accepts k.presented := by
  unfold confirms accepts SortedTable.has
  rw [hf.credentials, hf.hash]
  dsimp only
  cases find? k.user g.users with
  | none => rw [Option.isSome_none, Bool.and_false]
  | some hash => rw [Option.isSome_some, Bool.and_true, Option.getD_some]

theorem entitled_of_presented {p : String} (hp : presented? r = some p) :
    Entitled g.users r ↔ g.accepts p = true := by
  rw [entitled_iff, hp]
  refine ⟨fun ⟨q, hq, h⟩ => ?_, fun h => ⟨p, rfl, h⟩⟩
  cases hq
  exact h

theorem confirms_iff (hg : g.Of c) (hf : k.Fits c.users r) :
    g.confirms k = true ↔ Entitled c.users r := by
  rw [← hg.users] at hf ⊢
  rw [confirms_eq hf, entitled_of_presented hf.presented]

theorem accepts_remember (g : Guard) (presented p : String) :
    (g.remember presented).accepts p = g.accepts p := by
  simp only [accepts, remember]

theorem Of.remember (hg : g.Of c) (hf : k.Fits c.users r) (h : g.confirms k = true) :
    (g.remember k.presented).Of c := by
  rw [← hg.users] at hf
  refine ⟨hg.users, hg.headers, fun p hp => ?_⟩
  rw [accepts_remember]
  rcases List.mem_cons.1 hp with rfl | hp
  · rw [← confirms_eq hf]
    exact h
  · exact hg.verified p hp

/-- What the guard may find at a look. -/
inductive Looks (g : Guard) (r : Request) : Verdict → Prop
  | unguarded (h : g.users.isEmpty = true) : Looks g r .pass
  | silent (h : g.users.isEmpty = false) (hp : presented? r = none) : Looks g r .refuse
  | known {p : String} (h : g.users.isEmpty = false) (hp : presented? r = some p)
    (hv : p ∈ g.verified) : Looks g r .pass
  | garbled {p : String} (h : g.users.isEmpty = false) (hp : presented? r = some p)
    (hv : p ∉ g.verified) (hc : credentials? p = none) : Looks g r .refuse
  | doubtful {k : Check} (h : g.users.isEmpty = false) (hv : k.presented ∉ g.verified)
    (hf : k.Fits g.users r) : Looks g r (.check k)

theorem looks (g : Guard) (r : Request) : g.Looks r (g.look r) := by
  unfold look
  split
  · rename_i h
    exact .unguarded h
  · rename_i h
    have h : g.users.isEmpty = false := by simpa using h
    split
    · rename_i hp
      exact .silent h hp
    · rename_i p hp
      split
      · rename_i hv
        exact .known h hp (List.contains_iff_mem.1 hv)
      · rename_i hv
        have hv : p ∉ g.verified := fun hm => hv (List.contains_iff_mem.2 hm)
        split
        · rename_i hc
          exact .garbled h hp hv hc
        · rename_i user password hc
          exact .doubtful h hv ⟨hp, hc, rfl⟩

/-- A verdict decides as is right, or leads to the check that will. -/
def Verdict.Right (c : WebConfig) (r : Request) : Verdict → Prop
  | .pass => Entitled c.users r
  | .refuse => ¬ Entitled c.users r
  | .check k => k.Fits c.users r

theorem look_spec (hg : g.Of c) (hu : c.hasUsers = true) {verdict : Verdict}
    (h : g.Looks r verdict) : verdict.Right c r := by
  have hsome : g.users.isEmpty = false := by simpa [hg.users, WebConfig.hasUsers] using hu
  unfold Verdict.Right
  rw [← hg.users]
  cases h with
  | unguarded h => rw [hsome] at h; cases h
  | silent _ hp =>
    rw [entitled_iff, hp]
    rintro ⟨p, hp, -⟩
    cases hp
  | known _ hp hv => exact (entitled_of_presented hp).2 (hg.verified _ hv)
  | garbled _ hp _ hc =>
    rw [entitled_of_presented hp, accepts, hc]
    exact Bool.false_ne_true
  | doubtful _ _ hf => exact hf

/-- A request that nobody hurries or delays is looked at, and checked where need be. -/
theorem authorize_eq (g : Guard) (r : Request) : g.authorize r =
    match g.look r with
    | .pass => (true, g)
    | .refuse => (false, g)
    | .check k => if g.confirms k then (true, g.remember k.presented) else (false, g) := by
  have hl := looks g r
  generalize g.look r = verdict at hl
  unfold authorize
  cases hl with
  | unguarded h => rw [h]; rfl
  | silent h hp => rw [h, hp]; rfl
  | known h hp hv =>
    have hv := List.contains_iff_mem.2 hv
    rw [h, hp]
    simp only [hv, Bool.false_eq_true, if_false, if_true]
  | @garbled p h hp hv hc =>
    have hv : g.verified.contains p = false := by simpa using hv
    have ha : g.accepts p = false := by rw [accepts, hc]
    rw [h, hp]
    simp only [hv, ha, Bool.false_eq_true, if_false]
  | @doubtful k h hv hf =>
    have hv : g.verified.contains k.presented = false := by simpa using hv
    rw [h, hf.presented]
    simp only [hv, confirms_eq hf, Bool.false_eq_true, if_false]
    rfl

/-- **No memory is needed.** Whatever the guard remembers, it lets those pass who are entitled. -/
theorem authorize_iff (hg : g.Of c) (hu : c.hasUsers = true) :
    (g.authorize r).1 = true ↔ Entitled c.users r := by
  have hlook := look_spec hg hu (looks g r)
  rw [authorize_eq]
  generalize g.look r = verdict at hlook ⊢
  cases verdict with
  | pass => exact iff_of_true rfl hlook
  | refuse => exact iff_of_false Bool.false_ne_true hlook
  | check k =>
    rw [← confirms_iff hg hlook]
    dsimp only
    split
    · rename_i h
      exact iff_of_true rfl h
    · rename_i h
      exact iff_of_false Bool.false_ne_true h

end Guard
end MysqlMetrics
