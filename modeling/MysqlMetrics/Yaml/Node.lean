import MysqlMetrics.Text.Split
import MysqlMetrics.Yaml.Token
/-!
# Nodes

What a document says: a scalar, a sequence or a mapping. An alias is the node it stands for.
-/
namespace MysqlMetrics.Yaml

inductive Node where
  | scalar (plain : Bool) (tag : Option String) (text : String)
  | sequence (items : List Node)
  | mapping (tag : Option String) (entries : List (Node × Node))
deriving Repr, Inhabited

namespace Node

/-- The node of nothing at all. -/
def empty : Node := .scalar true none ""

/-- The tokens still to be read, and the nodes that have a name. -/
structure Source where
  tokens : List Token
  anchors : List (String × Node)
  handles : List String

abbrev Reader := StateT Source Option

def peek : Reader (Option Token) := do return (← get).tokens.head?

def skip : Reader Unit := modify fun s => { s with tokens := s.tokens.drop 1 }

/-- Is the next token one of these? -/
def peekIs (ts : List Token) : Reader Bool := do
  match ← peek with
  | some t => return ts.contains t
  | none => return false

/-- Takes the next token if it is this one. -/
def accept (t : Token) : Reader Bool := do
  let here ← peekIs [t]
  if here then skip
  return here

/-- A shorthand tag may use only a handle that is known. -/
def tagIsKnown (handles : List String) (tag : String) : Bool :=
  match Text.split '!' tag with
  | ["", handle, _] => handle.isEmpty || handles.contains handle
  | _ => true

/-- The anchor and the tag before a node, in either order and each at most once. -/
def properties : Nat → Option String → Option String → Reader (Option String × Option String)
  | 0, a, t => return (a, t)
  | fuel + 1, a, t => do
    match ← peek, a, t with
    | some (.anchor n), none, t => skip; properties fuel (some n) t
    | some (.tag n), a, none =>
      skip
      if tagIsKnown (← get).handles n then properties fuel a (some n) else failure
    | _, a, t => return (a, t)

mutual

/-- A node. `block` admits block collections, `bare` also a sequence whose dashes stand in the
column of the key before it. -/
def node (block bare : Bool) : Nat → Reader Node
  | 0 => failure
  | fuel + 1 => do
    match ← peek with
    | some (.alias name) =>
      skip
      match (← get).anchors.lookup name with
      | some n => return n
      | none => failure
    | _ =>
      let (anchor, tag) ← properties 2 none none
      let n ← content block bare tag anchor.isSome fuel
      match anchor with
      | some name => modify fun s => { s with anchors := (name, n) :: s.anchors }
      | none => pure ()
      return n

def content (block bare : Bool) (tag : Option String) (anchored : Bool) : Nat → Reader Node
  | 0 => failure
  | fuel + 1 => do
    match ← peek with
    | some (.scalar plain text) => skip; return .scalar plain tag text
    | some .flowSequence => skip; return .sequence (← flowItems true fuel)
    | some .flowMapping => skip; return .mapping tag (← flowEntries true fuel)
    | some .item => if bare then return .sequence (← bareItems fuel) else orEmpty
    | some .blockSequence => if block then skip; return .sequence (← blockItems fuel) else orEmpty
    | some .blockMapping =>
      if block then skip; return .mapping tag (← blockEntries fuel) else orEmpty
    | _ => orEmpty
where
  orEmpty : Reader Node := if anchored || tag.isSome then return .scalar true tag "" else failure

/-- A node, or the empty one before any of these tokens. -/
def nodeUnless (ends : List Token) (block bare : Bool) : Nat → Reader Node
  | 0 => failure
  | fuel + 1 => do if ← peekIs ends then return empty else node block bare fuel

def blockItems : Nat → Reader (List Node)
  | 0 => failure
  | fuel + 1 => do
    if ← accept .blockEnd then return []
    else if ← accept .item then
      let n ← nodeUnless [.item, .blockEnd] true false fuel
      return n :: (← blockItems fuel)
    else failure

def bareItems : Nat → Reader (List Node)
  | 0 => failure
  | fuel + 1 => do
    if ← accept .item then
      let n ← nodeUnless [.item, .key, .value, .blockEnd] true false fuel
      return n :: (← bareItems fuel)
    else return []

def blockEntries : Nat → Reader (List (Node × Node))
  | 0 => failure
  | fuel + 1 => do
    if ← accept .blockEnd then return []
    else if ← accept .key then
      let k ← nodeUnless [.key, .value, .blockEnd] true true fuel
      let v ← if ← accept .value then nodeUnless [.key, .value, .blockEnd] true true fuel
        else pure empty
      return (k, v) :: (← blockEntries fuel)
    else failure

def flowItems (first : Bool) : Nat → Reader (List Node)
  | 0 => failure
  | fuel + 1 => do
    if ← accept .flowSequenceEnd then return []
    else if !first && !(← accept .comma) then failure
    else if ← accept .flowSequenceEnd then return []
    else if ← accept .key then
      let k ← nodeUnless [.value, .comma, .flowSequenceEnd] false false fuel
      let v ← if ← accept .value then nodeUnless [.comma, .flowSequenceEnd] false false fuel
        else pure empty
      return .mapping none [(k, v)] :: (← flowItems false fuel)
    else
      let n ← node false false fuel
      return n :: (← flowItems false fuel)

def flowEntries (first : Bool) : Nat → Reader (List (Node × Node))
  | 0 => failure
  | fuel + 1 => do
    if ← accept .flowMappingEnd then return []
    else if !first && !(← accept .comma) then failure
    else if ← accept .flowMappingEnd then return []
    else if ← accept .key then
      let k ← nodeUnless [.value, .comma, .flowMappingEnd] false false fuel
      let v ← if ← accept .value then nodeUnless [.comma, .flowMappingEnd] false false fuel
        else pure empty
      return (k, v) :: (← flowEntries false fuel)
    else
      let k ← node false false fuel
      return (k, empty) :: (← flowEntries false fuel)

end

/-- The directives of a document, each kind in its one form. -/
def directives : Bool → List String → List Token → Option (List String × List Token)
  | versioned, handles, .directive words :: rest =>
    match words with
    | ["YAML", v] =>
      if !versioned && (v == "1.1" || v == "1.2") then directives true handles rest else none
    | ["TAG", handle, _] =>
      match Text.split '!' handle with
      | ["", ""] => directives versioned handles rest
      | ["", name, ""] =>
        if handles.contains name then none else directives versioned (name :: handles) rest
      | _ => none
    | _ => none
  | _, handles, ts => some (handles, ts)

/-- The node of a stream of one document; a stream without any has none. -/
def ofTokens? (ts : List Token) : Option (Option Node) :=
  match ts with
  | [] => some none
  | first :: _ =>
    let isMarked := match first with
      | .directive _ | .documentStart => true
      | _ => false
    if isMarked then
      match directives false [] ts with
      | some (handles, .documentStart :: rest) =>
        match rest with
        | [] => some (some empty)
        | .documentEnd :: rest => if rest.all (· == .documentEnd) then some (some empty) else none
        | _ => single handles rest
      | _ => none
    else single [] ts
where
  single (handles : List String) (ts : List Token) : Option (Option Node) :=
    match (node true false (3 * ts.length + 3)).run ⟨ts, [], handles⟩ with
    | some (n, s) => if s.tokens.all (· == .documentEnd) then some (some n) else none
    | none => none

/-- The document of a text: none at all, or its node; an error if it is not well-formed. -/
def ofText? (s : String) : Option (Option Node) := (Token.ofText? s).bind ofTokens?

end Node
end MysqlMetrics.Yaml
