import MysqlMetrics.Connection.OptionFile
import MysqlMetrics.Proofs.Results
/-!
# What option files say

Of the lines of client sections that set a key the last one counts (`ClientConfig.assigned`), and a
field of the settings that were read holds what that line says, or nothing if there is none
(`ClientConfig.Follows.parse`).
-/
namespace MysqlMetrics.ClientConfig

variable {α : Type} {content key name value : String} {c c' : ClientConfig}

/-- A line of a client section sets the key. -/
def Sets (content key : String) : Prop :=
  ∃ line ∈ clientLines false (Text.splitList (· == '\n') content.toList), (assignment line).1 = key

/-- What the lines of client sections set, in their order. -/
def assignments (content : String) : List (String × String) :=
  (clientLines false (Text.splitList (· == '\n') content.toList)).map assignment

/-- What the last line for a key sets it to. -/
def assigned (content key : String) : Option String := (assignments content).reverse.lookup key

theorem isSome_assigned : (assigned content key).isSome = true ↔ Sets content key := by
  rw [assigned, List.lookup_isSome_iff]
  unfold Sets assignments
  simp only [List.mem_reverse, List.mem_map, beq_iff_eq]
  constructor
  · rintro ⟨_, ⟨line, hline, rfl⟩, hkey⟩
    exact ⟨line, hline, hkey.symm⟩
  · rintro ⟨line, hline, hkey⟩
    exact ⟨_, ⟨line, hline, rfl⟩, hkey.symm⟩

/-! ## One line after the other -/

theorem assign_eq_ok (h : c.assign name value = .ok c') : c' =
    { user := if name = "user" then some value else c.user
      password := if name = "password" then some value else c.password
      host := if name = "host" then some value else c.host
      port := if name = "port" then (Decimal.readU16 value).toOption else c.port
      socket := if name = "socket" then some value else c.socket
      sslCa := if name = "ssl-ca" then some value else c.sslCa
      sslCert := if name = "ssl-cert" then some value else c.sslCert
      sslKey := if name = "ssl-key" then some value else c.sslKey } ∧
    (name = "port" → ∃ n, Decimal.readU16 value = .ok n) := by
  unfold assign at h
  split at h
  case h_4 =>
    split at h
    · rename_i n hn
      cases h
      simp [hn, Except.toOption]
    · cases h
  case h_9 huser hpassword hhost hport hsocket hca hcert hkey =>
    cases h
    rw [if_neg huser, if_neg hpassword, if_neg hhost, if_neg hport, if_neg hsocket, if_neg hca,
      if_neg hcert, if_neg hkey]
    exact ⟨rfl, fun hn => (hport hn).elim⟩
  all_goals
    cases h
    simp

/-- A field changes with the lines of one key only. It then holds what is read of the value, and
something can be read of it. -/
structure Follows (field : ClientConfig → Option α) (key : String) (read : String → Option α) :
    Prop where
  start : field {} = none
  step : ∀ {c c' name value}, assign c name value = .ok c' →
    (field c').map some = if name = key then some (read value) else (field c).map some

variable {field : ClientConfig → Option α} {read : String → Option α}

theorem lookup_one (a : String × String) :
    [a].lookup key = if a.1 = key then some a.2 else none := by
  obtain ⟨k, v⟩ := a
  rw [List.lookup_cons]
  by_cases hkey : k = key
  · simp [hkey]
  · simp [hkey, beq_false_of_ne (Ne.symm hkey)]

theorem Follows.foldlM (h : Follows field key read) :
    ∀ {lines : List (List Char)} {c c' : ClientConfig},
    lines.foldlM (fun c line => let (key, value) := assignment line; c.assign key value) c =
      .ok c' →
    (field c').map some =
      (((lines.map assignment).reverse.lookup key).map read).or ((field c).map some)
  | [], c, c', hok => by
    cases hok
    rfl
  | line :: lines, c, c', hok => by
    rw [List.foldlM_cons] at hok
    obtain ⟨next, hnext, hrest⟩ := bind_eq_ok.1 hok
    have hstep : c.assign (assignment line).1 (assignment line).2 = .ok next := hnext
    rw [h.foldlM hrest, h.step hstep, List.map_cons, List.reverse_cons, List.lookup_append,
      lookup_one]
    cases (lines.map assignment).reverse.lookup key with
    | some value => rfl
    | none => by_cases hkey : (assignment line).1 = key <;> simp [hkey]

theorem Follows.parse (h : Follows field key read) (hok : parse content = .ok c) :
    (field c).map some = (assigned content key).map read := by
  rw [h.foldlM hok, h.start]
  exact Option.or_none

/-! ## Fields -/

/-- A field of text holds the value as it is. -/
theorem follows_text {field : ClientConfig → Option String} (hstart : field {} = none)
    (hstep : ∀ {c c' name value}, assign c name value = .ok c' →
      field c' = if name = key then some value else field c) : Follows field key some := by
  refine ⟨hstart, fun h => ?_⟩
  rw [hstep h]
  split <;> rfl

theorem Follows.eq_assigned {field : ClientConfig → Option String} (h : Follows field key some)
    (hok : ClientConfig.parse content = .ok c) : field c = assigned content key :=
  (Option.map_inj_right fun _ _ => Option.some.inj).1 (h.parse hok)

theorem follows_user : Follows user "user" some :=
  follows_text rfl fun h => by rw [(assign_eq_ok h).1]

theorem follows_host : Follows host "host" some :=
  follows_text rfl fun h => by rw [(assign_eq_ok h).1]

theorem follows_socket : Follows socket "socket" some :=
  follows_text rfl fun h => by rw [(assign_eq_ok h).1]

theorem follows_sslCa : Follows sslCa "ssl-ca" some :=
  follows_text rfl fun h => by rw [(assign_eq_ok h).1]

theorem follows_port : Follows port "port" fun value => (Decimal.readU16 value).toOption := by
  refine ⟨rfl, fun {c c' name value} h => ?_⟩
  obtain ⟨hc, hread⟩ := assign_eq_ok h
  rw [hc]
  by_cases hname : name = "port"
  · obtain ⟨n, hn⟩ := hread hname
    simp [hname, hn, Except.toOption]
  · simp [hname]

/-- The last line for the port has a number. -/
theorem port_eq_of_assigned (h : ClientConfig.parse content = .ok c)
    (hport : assigned content "port" = some value) :
    ∃ n, c.port = some n ∧ Decimal.readU16 value = .ok n := by
  have hfield := follows_port.parse h
  rw [hport] at hfield
  obtain ⟨n, hn, hread⟩ := Option.map_eq_some_iff.1 hfield
  refine ⟨n, hn, ?_⟩
  cases hvalue : Decimal.readU16 value with
  | error e => simp [hvalue, Except.toOption] at hread
  | ok m =>
    obtain rfl : n = m := by simpa [hvalue, Except.toOption] using hread
    rfl

end MysqlMetrics.ClientConfig
