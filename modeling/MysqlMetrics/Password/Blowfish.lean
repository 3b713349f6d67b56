/-!
# The Blowfish cipher

A block of two words passes sixteen rounds under a table of 18 round keys and four boxes of 256
words. The table starts as the digits of π after the point, and a key is mixed in by encrypting
over and over while the results replace the table.
-/
namespace MysqlMetrics.Blowfish

/-- The sum of `± t / (2k + 1) / x ^ 2k` as long as the terms, at most `fuel`, do not vanish: the
arc tangent of `1 / x`, where `t` is `1 / x` on the scale used. -/
def arcTangentSum (x : Nat) : Nat → Nat → Nat → Int
  | 0, _, _ => 0
  | fuel + 1, t, k =>
    if t = 0 then 0 else (t / (2 * k + 1) : Nat) - arcTangentSum x fuel (t / (x * x)) (k + 1)

/-- The number of words in the table. -/
def tableSize : Nat := 18 + 4 * 256

/-- The digits of π after the point, as many as the table has bits, by Machin's formula with 64
bits to spare. -/
def piDigits : Nat :=
  let bits := 32 * tableSize + 64
  let scale := 1 <<< bits
  let pi := 4 * (4 * arcTangentSum 5 bits (scale / 5) 0 - arcTangentSum 239 bits (scale / 239) 0)
  (pi.toNat % scale) >>> 64

def initialTable : Array UInt32 :=
  ((List.range tableSize).map fun i =>
    (piDigits >>> (32 * (tableSize - 1 - i))).toUInt32).toArray

/-- The round keys, then the four boxes. -/
abbrev Table := Array UInt32

namespace Table

def word (t : Table) (i : Nat) : UInt32 := t.getD i 0

/-- What a round makes of one half of the block. -/
def mix (t : Table) (x : UInt32) : UInt32 :=
  let box (n : Nat) (b : UInt32) : UInt32 := t.word (18 + 256 * n + (b &&& 0xFF).toNat)
  ((box 0 (x >>> 24) + box 1 (x >>> 16)) ^^^ box 2 (x >>> 8)) + box 3 x

/-- The rounds `i` to 15; each exchanges the halves. -/
def rounds (t : Table) : Nat → UInt32 → UInt32 → UInt32 × UInt32
  | 0, l, r => (l, r)
  | n + 1, l, r =>
    let l := l ^^^ t.word (15 - n)
    rounds t n (r ^^^ t.mix l) l

def encrypt (t : Table) (l r : UInt32) : UInt32 × UInt32 :=
  let (l, r) := t.rounds 16 l r
  (r ^^^ t.word 17, l ^^^ t.word 16)

/-- Replaces two words at a time, from the pair `i` on, by the running block, into which the words
of `salt` go in turn. -/
def refill (salt : Array UInt32) (pairs : Nat) (t : Table) : Table :=
  (Nat.fold pairs (fun i _ (state : Table × UInt32 × UInt32) =>
    let (t, l, r) := state
    let at0 := 2 * i % 4
    let (l, r) := t.encrypt (l ^^^ salt.getD at0 0) (r ^^^ salt.getD (at0 + 1) 0)
    ((t.setIfInBounds (2 * i) l).setIfInBounds (2 * i + 1) r, l, r)) (t, 0, 0)).1

/-- Mixes a key, repeated over the round keys, and a salt of four words into the table. -/
def expand (salt key : Array UInt32) (t : Table) : Table :=
  refill salt (tableSize / 2) (Nat.fold 18 (fun i _ (t : Table) =>
    t.setIfInBounds i (t.word i ^^^ key.getD i 0)) t)

end Table
end MysqlMetrics.Blowfish
