import Mathlib.Data.List.GetD
import Mathlib.Data.List.TakeWhile
import MysqlMetrics.Text.Base64
/-!
# Base 64 is read in one form only

What is read as some bytes is the written form of these bytes, and nothing else is
(`Base64.decode_eq_some`): bytes have one form, and no form has two readings.
-/
namespace MysqlMetrics.Base64

/-! ## Writing -/

/-- The digits of bytes: three bytes make four digits, and the rest as many as it needs. -/
def digitsOf : Bytes → List Nat
  | [] => []
  | [x] => [x.toNat / 4, x.toNat % 4 * 16]
  | [x, y] => [x.toNat / 4, x.toNat % 4 * 16 + y.toNat / 16, y.toNat % 16 * 4]
  | x :: y :: z :: rest =>
    x.toNat / 4 :: (x.toNat % 4 * 16 + y.toNat / 16) :: (y.toNat % 16 * 4 + z.toNat / 64) ::
      z.toNat % 64 :: digitsOf rest

def charOf (d : Nat) : Char := standardAlphabet.getD d '='

/-- How many characters are missing to a multiple of four. -/
def padding (bs : Bytes) : Nat := (3 - bs.length % 3) % 3

/-- Bytes in the standard alphabet, padded. -/
def encode (bs : Bytes) : String :=
  String.ofList ((digitsOf bs).map charOf ++ List.replicate (padding bs) '=')

/-! ## Digits -/

theorem digits_lt : ∀ bs : Bytes, ∀ d ∈ digitsOf bs, d < 64
  | [], _, h => by simp [digitsOf] at h
  | [x], d, h => by
    have := x.toNat_lt
    simp only [digitsOf, List.mem_cons, List.not_mem_nil, or_false] at h
    omega
  | [x, y], d, h => by
    have := x.toNat_lt
    have := y.toNat_lt
    simp only [digitsOf, List.mem_cons, List.not_mem_nil, or_false] at h
    omega
  | x :: y :: z :: rest, d, h => by
    have := x.toNat_lt
    have := y.toNat_lt
    have := z.toNat_lt
    simp only [digitsOf, List.mem_cons] at h
    rcases h with h | h | h | h | h
    · omega
    · omega
    · omega
    · omega
    · exact digits_lt rest d h

theorem length_digitsOf : ∀ bs : Bytes, (digitsOf bs).length + padding bs = (bs.length + 2) / 3 * 4
  | [] => rfl
  | [_] => by simp [digitsOf, padding]
  | [_, _] => by simp [digitsOf, padding]
  | x :: y :: z :: rest => by
    have ih := length_digitsOf rest
    simp only [digitsOf, padding, List.length_cons] at ih ⊢
    omega

theorem toUInt8_toNat (x : UInt8) {n : Nat} (h : n = x.toNat) : n.toUInt8 = x := by
  rw [h]
  exact UInt8.ofNat_toNat

theorem bytes?_digitsOf : ∀ bs : Bytes, bytes? (digitsOf bs) = some bs
  | [] => rfl
  | [x] => by
    have := x.toNat_lt
    have h0 : x.toNat % 4 * 16 % 16 = 0 := by omega
    simp only [digitsOf, bytes?, h0, if_true, Option.some.injEq, List.cons.injEq, and_true]
    exact toUInt8_toNat x (by omega)
  | [x, y] => by
    have := x.toNat_lt
    have := y.toNat_lt
    have h0 : y.toNat % 16 * 4 % 4 = 0 := by omega
    simp only [digitsOf, bytes?, h0, if_true, Option.some.injEq, List.cons.injEq, and_true]
    exact ⟨toUInt8_toNat x (by omega), toUInt8_toNat y (by omega)⟩
  | x :: y :: z :: rest => by
    have := x.toNat_lt
    have := y.toNat_lt
    have := z.toNat_lt
    simp only [digitsOf, bytes?, bytes?_digitsOf rest, Option.map_some, Option.some.injEq,
      List.cons.injEq, and_true]
    exact ⟨toUInt8_toNat x (by omega), toUInt8_toNat y (by omega), toUInt8_toNat z (by omega)⟩

theorem digitsOf_bytes? : ∀ {ds : List Nat} {bs : Bytes}, (∀ d ∈ ds, d < 64) →
    bytes? ds = some bs → ds = digitsOf bs
  | [], bs, _, h => by
    cases h
    rfl
  | [_], bs, _, h => by cases h
  | [a, b], bs, hlt, h => by
    have := hlt a (by simp)
    have := hlt b (by simp)
    simp only [bytes?] at h
    split at h
    · cases h
      simp only [digitsOf, UInt8.toNat_ofNat', List.cons.injEq, and_true]
      omega
    · cases h
  | [a, b, c], bs, hlt, h => by
    have := hlt a (by simp)
    have := hlt b (by simp)
    have := hlt c (by simp)
    simp only [bytes?] at h
    split at h
    · cases h
      simp only [digitsOf, UInt8.toNat_ofNat', List.cons.injEq, and_true]
      omega
    · cases h
  | a :: b :: c :: d :: rest, bs, hlt, h => by
    have := hlt a (by simp)
    have := hlt b (by simp)
    have := hlt c (by simp)
    have := hlt d (by simp)
    obtain ⟨bs', hr, rfl⟩ := Option.map_eq_some_iff.1 h
    have hrest := digitsOf_bytes? (fun x hx => hlt x (by simp [hx])) hr
    simp only [digitsOf, ← hrest, UInt8.toNat_ofNat', List.cons.injEq, and_true]
    omega

/-! ## Characters -/

theorem charOf_spec : ∀ d < 64, standardAlphabet.idxOf? (charOf d) = some d ∧ charOf d ≠ '=' := by
  decide

theorem charOf_mem {d : Nat} (h : d < 64) : charOf d ∈ standardAlphabet := by
  have hd : d < standardAlphabet.length := h
  rw [charOf, List.getD_eq_getElem _ _ hd]
  exact List.getElem_mem hd

theorem charOf_of_idxOf? {c : Char} {d : Nat} (h : standardAlphabet.idxOf? c = some d) :
    d < 64 ∧ charOf d = c := by
  obtain ⟨hd, hc, -⟩ := List.idxOf?_eq_some_iff.1 h
  rw [charOf, List.getD_eq_getElem _ _ hd]
  exact ⟨hd, hc⟩

theorem digits?_map {ds : List Nat} (h : ∀ d ∈ ds, d < 64) :
    digits? standardAlphabet (ds.map charOf) = some ds := by
  induction ds with
  | nil => rfl
  | cons d ds ih =>
    have ih := ih fun x hx => h x (List.mem_cons_of_mem _ hx)
    have hd := (charOf_spec d (h d List.mem_cons_self)).1
    simp only [digits?] at ih ⊢
    simp [hd, ih]

theorem map_of_digits? {cs : List Char} {ds : List Nat}
    (h : digits? standardAlphabet cs = some ds) : cs = ds.map charOf ∧ ∀ d ∈ ds, d < 64 := by
  induction cs generalizing ds with
  | nil =>
    cases h
    simp
  | cons c cs ih =>
    simp only [digits?, List.mapM_cons, Option.bind_eq_bind, Option.bind_eq_some_iff,
      Option.pure_def, Option.some.injEq] at h
    obtain ⟨d, hd, ds', hs, rfl⟩ := h
    obtain ⟨rfl, hlt⟩ := ih hs
    obtain ⟨hlt', rfl⟩ := charOf_of_idxOf? hd
    refine ⟨rfl, fun x hx => ?_⟩
    rcases List.mem_cons.1 hx with rfl | hx
    · exact hlt'
    · exact hlt x hx

/-! ## Reading -/

theorem decode_encode (bs : Bytes) : decode (encode bs) = some bs := by
  have hlt := digits_lt bs
  have hlen := length_digitsOf bs
  have hpad : padding bs ≤ 2 := by unfold padding; omega
  -- no digit is written as padding is
  have hnot : ((digitsOf bs).map charOf).reverse.takeWhile (· == '=') = [] := by
    rw [← List.map_reverse]
    cases hr : (digitsOf bs).reverse with
    | nil => rfl
    | cons d ds =>
      have hd : d ∈ digitsOf bs := List.mem_reverse.1 (hr ▸ List.mem_cons_self)
      simp [(charOf_spec d (hlt d hd)).2]
  unfold decode encode
  simp only [String.toList_ofList, List.reverse_append, List.reverse_replicate, List.length_append,
    List.length_map, List.length_replicate]
  rw [List.takeWhile_append_of_pos (by simp), hnot]
  simp only [List.append_nil, List.length_replicate, Nat.add_sub_cancel]
  rw [if_pos ⟨by omega, hpad⟩, List.take_left' (by simp), digits?_map hlt]
  exact bytes?_digitsOf bs

theorem encode_of_decode {s : String} {bs : Bytes} (h : decode s = some bs) : s = encode bs := by
  unfold decode at h
  simp only at h
  split at h
  · rename_i hc
    obtain ⟨hmod, hpad⟩ := hc
    generalize hp : (s.toList.reverse.takeWhile (· == '=')).length = p at h hpad
    obtain ⟨ds, hds, hbs⟩ := Option.bind_eq_some_iff.1 h
    obtain ⟨htake, hlt⟩ := map_of_digits? hds
    obtain rfl := digitsOf_bytes? hlt hbs
    -- the text is its digits and its padding
    have hle : p ≤ s.toList.length := by
      have := (List.takeWhile_prefix (· == '=') (l := s.toList.reverse)).length_le
      rwa [hp, List.length_reverse] at this
    have hdrop : s.toList.drop (s.toList.length - p) = List.replicate p '=' := by
      have hrev : s.toList.reverse.take p = List.replicate p '=' := by
        rw [← hp, ← List.prefix_iff_eq_take.1 (List.takeWhile_prefix _)]
        refine List.eq_replicate_iff.2 ⟨rfl, fun c hc => ?_⟩
        simpa using List.mem_takeWhile_imp hc
      rw [List.take_reverse] at hrev
      rw [← List.reverse_reverse (s.toList.drop _), hrev, List.reverse_replicate]
    have hlen := length_digitsOf bs
    have hcount : (digitsOf bs).length = s.toList.length - p := by
      have := congrArg List.length htake
      simp only [List.length_map, List.length_take] at this
      omega
    have hpadding : p = padding bs := by
      have : padding bs ≤ 2 := by unfold padding; omega
      omega
    have hlist : s.toList = (digitsOf bs).map charOf ++ List.replicate (padding bs) '=' := by
      rw [← htake, ← hpadding, ← hdrop, List.take_append_drop]
    rw [encode, ← hlist, String.ofList_toList]
  · cases h

/-- **One form.** A text is read as some bytes if it is their written form. -/
theorem decode_eq_some {s : String} {bs : Bytes} : decode s = some bs ↔ s = encode bs :=
  ⟨encode_of_decode, fun h => h ▸ decode_encode bs⟩

/-- What is written has no other characters than those of the alphabet and of the padding. -/
theorem mem_encode {bs : Bytes} {c : Char} (h : c ∈ (encode bs).toList) :
    c ∈ '=' :: standardAlphabet := by
  simp only [encode, String.toList_ofList, List.mem_append] at h
  rcases h with h | h
  · obtain ⟨d, hd, rfl⟩ := List.mem_map.1 h
    exact List.mem_cons_of_mem _ (charOf_mem (digits_lt bs d hd))
  · rw [List.eq_of_mem_replicate h]
    exact List.mem_cons_self

example : encode [77, 97] = "TWE=" := by decide

end MysqlMetrics.Base64
