import Mathlib.Data.List.Forall2
import MysqlMetrics.Proofs.Text
import MysqlMetrics.Text.Percent
/-!
# Forms as they may be written

A text of a form may be written in many ways: most bytes may stand for themselves, a plus sign for a
blank, and an escape for any byte at all (`Percent.Writes`). All of them are read alike, so that a
form gives back the pairs it was written for (`Percent.formPairs_of_isForm`). `Percent.formString`
is the way that browsers and libraries write them.
-/
namespace MysqlMetrics.Percent

/-! ## Ways to write -/

/-- May a byte stand for itself? Percent, plus, ampersand and equals signs mean something else. -/
def isPlain (b : UInt8) : Bool := b != 0x25 && b != 0x2B && b != 0x26 && b != 0x3D

/-- The ways to write bytes in a form. -/
inductive Writes : Bytes → Bytes → Prop
  | nil : Writes [] []
  | plain {b : UInt8} {bs ws : Bytes} (hb : isPlain b = true) (h : Writes bs ws) :
    Writes (b :: bs) (b :: ws)
  | blank {bs ws : Bytes} (h : Writes bs ws) : Writes (0x20 :: bs) (0x2B :: ws)
  | escape {high low x y : UInt8} {bs ws : Bytes} (hx : hexValue high = some x)
    (hy : hexValue low = some y) (h : Writes bs ws) :
    Writes ((16 * x + y) :: bs) (0x25 :: high :: low :: ws)

/-- The ways to write a pair. Where the value is empty the equals sign may be left out. -/
inductive WritesPair : String × String → Bytes → Prop
  | full {p : String × String} {ks vs : Bytes} (hk : Writes (Utf8.encode p.1) ks)
    (hv : Writes (Utf8.encode p.2) vs) : WritesPair p (ks ++ 0x3D :: vs)
  | bare {key : String} {ks : Bytes} (hne : key ≠ "") (hk : Writes (Utf8.encode key) ks) :
    WritesPair (key, "") ks

/-- A text is a form of pairs if it writes each of them, with ampersands between. -/
def IsForm (pairs : List (String × String)) (query : String) : Prop :=
  ∃ pieces, List.Forall₂ WritesPair pairs pieces ∧ Utf8.encode query = [0x26].intercalate pieces

/-! ## Reading back -/

/-- A plus sign stands for a blank. -/
def unplus (b : UInt8) : UInt8 := if b == 0x2B then 0x20 else b

theorem decodeBytes_cons_ne {b : UInt8} (hb : b ≠ 0x25) (rest : Bytes) :
    decodeBytes (b :: rest) = b :: decodeBytes rest := by
  rw [decodeBytes]
  intro high low rest' heq
  exact absurd heq hb

theorem decodeBytes_escape {high low x y : UInt8} (hx : hexValue high = some x)
    (hy : hexValue low = some y) (rest : Bytes) :
    decodeBytes (0x25 :: high :: low :: rest) = (16 * x + y) :: decodeBytes rest := by
  rw [decodeBytes, hx, hy]

theorem hexValue_ne {b x : UInt8} (h : hexValue b = some x) : b ≠ 0x2B ∧ b ≠ 0x26 ∧ b ≠ 0x3D := by
  refine ⟨?_, ?_, ?_⟩ <;> rintro rfl <;> cases h

variable {bs ws : Bytes} {p : String × String} {piece : Bytes}

theorem Writes.decodeBytes_eq (h : Writes bs ws) : decodeBytes (ws.map unplus) = bs := by
  induction h with
  | nil => rfl
  | @plain b bs ws hb _ ih =>
    simp only [isPlain, Bool.and_eq_true, bne_iff_ne] at hb
    have hplus : unplus b = b := by simp [unplus, hb.1.1.2]
    rw [List.map_cons, hplus, decodeBytes_cons_ne hb.1.1.1, ih]
  | blank _ ih =>
    rw [List.map_cons, show unplus 0x2B = 0x20 from rfl, decodeBytes_cons_ne (by decide), ih]
  | @escape high low x y bs ws hx hy _ ih =>
    have hhigh : unplus high = high := by simp [unplus, (hexValue_ne hx).1]
    have hlow : unplus low = low := by simp [unplus, (hexValue_ne hy).1]
    rw [List.map_cons, List.map_cons, List.map_cons, hhigh, hlow, show unplus 0x25 = 0x25 from rfl,
      decodeBytes_escape hx hy, ih]

/-- However a text is written, it is read back. -/
theorem Writes.formText_eq {s : String} (h : Writes (Utf8.encode s) ws) : formText ws = s := by
  have hbytes : decodeBytes (ws.map fun b => if b == 0x2B then 0x20 else b) = Utf8.encode s :=
    h.decodeBytes_eq
  rw [Percent.formText, hbytes, Utf8.decodeLossy, Utf8.decode_eq_some.2 rfl]

/-- The signs between and within pairs are never written for anything else. -/
theorem Writes.not_mem (h : Writes bs ws) : 0x26 ∉ ws ∧ 0x3D ∉ ws := by
  induction h with
  | nil => simp
  | plain hb _ ih =>
    simp only [isPlain, Bool.and_eq_true, bne_iff_ne] at hb
    simp [ih, Ne.symm hb.1.2, Ne.symm hb.2]
  | blank _ ih => simp [ih]
  | escape hx hy _ ih =>
    obtain ⟨-, hx26, hx3D⟩ := hexValue_ne hx
    obtain ⟨-, hy26, hy3D⟩ := hexValue_ne hy
    simp [ih, hx26.symm, hx3D.symm, hy26.symm, hy3D.symm]

theorem Writes.ne_nil (h : Writes bs ws) (hne : bs ≠ []) : ws ≠ [] := by
  cases h with
  | nil => exact absurd rfl hne
  | plain | blank | escape => simp

theorem encode_ne_nil {s : String} (h : s ≠ "") : Utf8.encode s ≠ [] := by
  intro hnil
  have hs : Utf8.decode (Utf8.encode s) = some s := Utf8.decode_eq_some.2 rfl
  rw [hnil] at hs
  exact h (Option.some.inj (hs.symm.trans (Utf8.decode_eq_some.2 rfl : Utf8.decode [] = some "")))

/-- What stands up to the first equals sign is the key, and the rest the value. -/
theorem WritesPair.formPair_eq (h : WritesPair p piece) : formPair piece = p := by
  cases h with
  | @full _ ks vs hk hv =>
    have hkey : ∀ b ∈ ks, (b != 0x3D) = true := by
      intro b hb
      exact bne_iff_ne.2 fun heq => hk.not_mem.2 (heq ▸ hb)
    have htake : (ks ++ 0x3D :: vs).takeWhile (· != 0x3D) = ks := by
      rw [List.takeWhile_append_of_pos hkey]
      simp
    have hdrop : (ks ++ 0x3D :: vs).dropWhile (· != 0x3D) = 0x3D :: vs := by
      rw [List.dropWhile_append_of_pos hkey]
      simp
    rw [Percent.formPair, htake, hdrop, List.drop_succ_cons, List.drop_zero, hk.formText_eq,
      hv.formText_eq]
  | @bare key _ hne hk =>
    have hkey : ∀ b ∈ piece, (b != 0x3D) = true := by
      intro b hb
      exact bne_iff_ne.2 fun heq => hk.not_mem.2 (heq ▸ hb)
    have hempty : Percent.formText [] = "" := Writes.formText_eq (s := "") .nil
    rw [Percent.formPair, List.takeWhile_eq_self_iff.2 hkey, List.dropWhile_eq_nil_iff.2 hkey,
      List.drop_nil, hk.formText_eq, hempty]

theorem WritesPair.not_mem (h : WritesPair p piece) : 0x26 ∉ piece := by
  cases h with
  | full hk hv => simp [hk.not_mem.1, hv.not_mem.1]
  | bare _ hk => exact hk.not_mem.1

theorem WritesPair.ne_nil (h : WritesPair p piece) : piece ≠ [] := by
  cases h with
  | full => simp
  | bare hne hk => exact hk.ne_nil (encode_ne_nil hne)

theorem splitBytes_eq_splitOn (sep : UInt8) : ∀ bs : Bytes, splitBytes sep bs = bs.splitOn sep
  | [] => rfl
  | b :: bs => by
    have ih := splitBytes_eq_splitOn sep bs
    have hcons : (b :: bs).splitOn sep =
        if b == sep then [] :: bs.splitOn sep else (bs.splitOn sep).modifyHead (b :: ·) :=
      List.splitOnP_cons_eq_if_modifyHead b bs
    rw [hcons, ← ih, splitBytes]
    cases hs : splitBytes sep bs with
    | nil =>
      rw [hs] at ih
      exact absurd ih.symm (List.splitOn_ne_nil sep bs)
    | cons piece pieces => by_cases hb : (b == sep) = true <;> simp [hb]

/-- **Forms are read back.** A form gives the pairs it was written for, in their order and however
it was written. -/
theorem formPairs_of_isForm {pairs : List (String × String)} {query : String}
    (h : IsForm pairs query) : formPairs query = pairs := by
  obtain ⟨pieces, hpieces, hquery⟩ := h
  have hplain : ∀ piece ∈ pieces, 0x26 ∉ piece ∧ (!piece.isEmpty) = true := by
    clear hquery
    induction hpieces with
    | nil => simp
    | cons hp _ ih => exact List.forall_mem_cons.2 ⟨⟨hp.not_mem, by simpa using hp.ne_nil⟩, ih⟩
  have hread : pieces.map formPair = pairs := by
    clear hquery hplain
    induction hpieces with
    | nil => rfl
    | cons hp _ ih => rw [List.map_cons, hp.formPair_eq, ih]
  rw [formPairs, hquery, splitBytes_eq_splitOn]
  by_cases hne : pieces = []
  · subst hne
    exact hread
  · rw [List.splitOn_intercalate 0x26 (fun piece hpiece => (hplain piece hpiece).1) hne,
      List.filter_eq_self.2 fun piece hpiece => (hplain piece hpiece).2, hread]

/-! ## The usual way -/

def hexDigit (n : UInt8) : UInt8 := if n < 10 then 0x30 + n else 0x37 + n

/-- Letters and digits of ASCII, the star, the hyphen, the dot and the underscore. -/
def isUnreserved (b : UInt8) : Bool :=
  (0x30 ≤ b && b ≤ 0x39) || (0x41 ≤ b && b ≤ 0x5A) || (0x61 ≤ b && b ≤ 0x7A) || b == 0x2A ||
    b == 0x2D || b == 0x2E || b == 0x5F

def formByte (b : UInt8) : Bytes :=
  if isUnreserved b then [b]
  else if b == 0x20 then [0x2B]
  else [0x25, hexDigit (b / 16), hexDigit (b % 16)]

def formBytes (p : String × String) : Bytes :=
  (Utf8.encode p.1).flatMap formByte ++ 0x3D :: (Utf8.encode p.2).flatMap formByte

/-- The form of pairs: what is unreserved stands for itself, a plus sign for a blank, and escapes
for all else. -/
def formString (pairs : List (String × String)) : String :=
  String.ofList (([0x26].intercalate (pairs.map formBytes)).map fun b => Char.ofNat b.toNat)

theorem forall_byte {P : UInt8 → Prop} (h : ∀ n : Fin 256, P (UInt8.ofNat n.val)) (b : UInt8) :
    P b := by
  have hb := h ⟨b.toNat, b.toNat_lt⟩
  rwa [UInt8.ofNat_toNat] at hb

theorem formByte_cases (b : UInt8) :
    (isPlain b = true ∧ formByte b = [b]) ∨ (b = 0x20 ∧ formByte b = [0x2B]) ∨
      ∃ high low x y, hexValue high = some x ∧ hexValue low = some y ∧ b = 16 * x + y ∧
        formByte b = [0x25, high, low] := by
  have hdigits : ∀ b : UInt8, hexValue (hexDigit (b / 16)) = some (b / 16) ∧
      hexValue (hexDigit (b % 16)) = some (b % 16) ∧ b = 16 * (b / 16) + b % 16 ∧
      (isUnreserved b = true → isPlain b = true) := by
    refine forall_byte ?_
    decide +kernel
  obtain ⟨hhigh, hlow, hb, hplain⟩ := hdigits b
  unfold formByte
  by_cases hu : isUnreserved b = true
  · exact .inl ⟨hplain hu, if_pos hu⟩
  · rw [if_neg hu]
    by_cases h20 : b = 0x20
    · subst h20
      exact .inr (.inl ⟨rfl, rfl⟩)
    · refine .inr (.inr ⟨_, _, _, _, hhigh, hlow, hb, ?_⟩)
      rw [if_neg (by simpa using h20)]

theorem writes_formBytes : ∀ bs : Bytes, Writes bs (bs.flatMap formByte)
  | [] => .nil
  | b :: bs => by
    have ih := writes_formBytes bs
    rw [List.flatMap_cons]
    rcases formByte_cases b with ⟨hp, hf⟩ | ⟨rfl, hf⟩ | ⟨high, low, x, y, hx, hy, rfl, hf⟩
    · rw [hf]
      exact .plain hp ih
    · rw [hf]
      exact .blank ih
    · rw [hf]
      exact .escape hx hy ih

theorem formByte_ascii (b : UInt8) : ∀ w ∈ formByte b, w.toNat < 128 := by
  have hall : ∀ b : UInt8, (formByte b).all (fun w => w.toNat < 128) = true := by
    refine forall_byte ?_
    decide +kernel
  intro w hw
  simpa using List.all_eq_true.1 (hall b) w hw

theorem formBytes_ascii (p : String × String) : ∀ b ∈ formBytes p, b.toNat < 128 := by
  have hpart : ∀ bs : Bytes, ∀ b ∈ bs.flatMap formByte, b.toNat < 128 := by
    intro bs b hb
    obtain ⟨c, -, hc⟩ := List.mem_flatMap.1 hb
    exact formByte_ascii c b hc
  intro b hb
  rcases List.mem_append.1 hb with hb | hb
  · exact hpart _ b hb
  · rcases List.mem_cons.1 hb with rfl | hb
    · decide
    · exact hpart _ b hb

theorem intercalate_ascii {pieces : List Bytes} (h : ∀ piece ∈ pieces, ∀ b ∈ piece, b.toNat < 128) :
    ∀ b ∈ [0x26].intercalate pieces, b.toNat < 128 := by
  induction pieces with
  | nil => simp
  | cons piece pieces ih =>
    obtain ⟨hpiece, hpieces⟩ := List.forall_mem_cons.1 h
    cases pieces with
    | nil => simpa using hpiece
    | cons next pieces =>
      intro b hb
      rw [List.intercalate_cons_cons, List.append_assoc] at hb
      rcases List.mem_append.1 hb with hb | hb
      · exact hpiece b hb
      · rcases List.mem_cons.1 hb with rfl | hb
        · decide
        · exact ih hpieces b hb

/-- Bytes of ASCII are those of a text. -/
theorem encode_ofBytes {bs : Bytes} (h : ∀ b ∈ bs, b.toNat < 128) :
    Utf8.encode (String.ofList (bs.map fun b => Char.ofNat b.toNat)) = bs := by
  have hchar : ∀ b ∈ bs, (Char.ofNat b.toNat).toNat = b.toNat := by
    intro b hb
    exact Utf8.toNat_ofNat (h b hb)
  rw [Utf8.encode_ascii, String.toList_ofList, List.map_map]
  · refine (List.map_congr_left fun b hb => ?_).trans (List.map_id bs)
    rw [Function.comp_apply, hchar b hb, UInt8.ofNat_toNat]
    rfl
  · intro c hc
    rw [String.toList_ofList] at hc
    obtain ⟨b, hb, rfl⟩ := List.mem_map.1 hc
    rw [hchar b hb]
    exact h b hb

theorem isForm_formString (pairs : List (String × String)) : IsForm pairs (formString pairs) := by
  refine ⟨pairs.map formBytes, ?_, ?_⟩
  · induction pairs with
    | nil => exact .nil
    | cons p pairs ih => exact .cons (.full (writes_formBytes _) (writes_formBytes _)) ih
  · apply encode_ofBytes
    apply intercalate_ascii
    intro piece hpiece b hb
    obtain ⟨p, -, rfl⟩ := List.mem_map.1 hpiece
    exact formBytes_ascii p b hb

end MysqlMetrics.Percent
