import MysqlMetrics.Decimal.Whole
import MysqlMetrics.Password.Blowfish
import MysqlMetrics.Text.Base64
import MysqlMetrics.Text.Split
/-!
# Hashes of passwords

A hash `$2b$cost$…` holds 16 bytes of salt and 23 bytes of digest in a base 64 of its own. The
digest is a fixed text under the Blowfish cipher, whose table is mixed with password and salt
`2 ^ cost` times. Of a password, with a zero byte after it, only the first 72 bytes count.
-/
namespace MysqlMetrics.Bcrypt

def alphabet : List Char :=
  "./ABCDEFGHIJKLMNOPQRSTUVWXYZabcdefghijklmnopqrstuvwxyz0123456789".toList

structure Hash where
  cost : Nat
  salt : Bytes
  digest : Bytes
deriving DecidableEq, Repr

/-- Reads a hash in one of its four versions, which differ in name only. -/
def Hash.parse? (s : String) : Option Hash :=
  match (Text.split '$' s).filter (!·.isEmpty) with
  | [version, cost, data] =>
    match Decimal.readU32 cost with
    | .error _ => none
    | .ok cost =>
      let cs := data.toList
      if ["2a", "2b", "2x", "2y"].contains version && cs.length == 53 && 4 ≤ cost && cost ≤ 31 then
        match Base64.decodeBare alphabet (String.ofList (cs.take 22)),
            Base64.decodeBare alphabet (String.ofList (cs.drop 22)) with
        | some salt, some digest => some ⟨cost, salt, digest⟩
        | _, _ => none
      else none
  | _ => none

/-- The words of bytes, highest byte first. -/
def words : Bytes → List UInt32
  | a :: b :: c :: d :: rest =>
    ((a.toUInt32 <<< 24) ||| (b.toUInt32 <<< 16) ||| (c.toUInt32 <<< 8) ||| d.toUInt32) ::
      words rest
  | _ => []

/-- As many words as the table has round keys, the bytes repeated. -/
def cyclicWords (bytes : Bytes) : Array UInt32 :=
  (words ((List.replicate 72 bytes).flatten.take 72)).toArray

def wordBytes (w : UInt32) : Bytes :=
  [(w >>> 24).toUInt8, (w >>> 16).toUInt8, (w >>> 8).toUInt8, w.toUInt8]

/-- The text that is encrypted. -/
def plainWords : List UInt32 := words ("OrpheanBeholderScryDoubt".toUTF8.toList)

/-- The two words under the table, 64 times over. -/
def scramble (t : Blowfish.Table) : List UInt32 → List UInt32
  | l :: r :: rest =>
    let (l, r) := Nat.fold 64 (fun _ _ (p : UInt32 × UInt32) => t.encrypt p.1 p.2) (l, r)
    l :: r :: scramble t rest
  | _ => []

def digest (cost : Nat) (salt : Bytes) (password : String) : Bytes :=
  let key := cyclicWords ((Utf8.encode password ++ [0]).take 72)
  let saltKey := cyclicWords salt
  let start := Blowfish.Table.expand (words salt).toArray key Blowfish.initialTable
  let table := Nat.fold (1 <<< cost) (fun _ _ (t : Blowfish.Table) =>
    (t.expand #[] key).expand #[] saltKey) start
  ((scramble table plainWords).flatMap wordBytes).take 23

/-- Is this the password of the hash? A text that is no hash has none. -/
def verify (password hash : String) : Bool :=
  match Hash.parse? hash with
  | some h => digest h.cost h.salt password == h.digest
  | none => false

end MysqlMetrics.Bcrypt
