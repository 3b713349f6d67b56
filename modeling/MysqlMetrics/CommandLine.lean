import MysqlMetrics.Decimal.Reading
import MysqlMetrics.Decimal.Whole
import MysqlMetrics.Environment
/-!
# Command lines

A command knows flags: switches, counters and options with a value. Arguments are read from the
left; the first one that cannot be accepted decides. What the command line leaves open is taken
from the environment, and then from the defaults.

An option takes its value after an equals sign or from the next argument, unless that looks like a
flag. Such a value is examined only when the next flag is met or the line ends; an unknown flag is
reported before it.
-/
namespace MysqlMetrics.CommandLine

/-! ## Flags and values -/

inductive Value where
  | bool (b : Bool)
  | int (i : Int)
  | real (x : Float)
  | text (s : String)

/-- How the text of a value is read. -/
inductive Reader where
  | text
  /-- A text that is not empty. -/
  | path
  | real
  | natural
  /-- A number from 1 to the largest of 32 bits. -/
  | count
  | integer
  | bool
  | oneOf (words : List String)

inductive Action where
  /-- A flag without value; the later of two that override each other counts. -/
  | switch (overrides : Option String)
  | counter
  /-- An option; one that is `lenient` may stand without value and then means `true`. -/
  | value (reader : Reader) (lenient : Bool)
  | help
  | version

structure Flag where
  name : String
  help : String := ""
  short : Option Char := none
  action : Action
  valueName : Option String := none
  fromEnv : Option String := none
  default : Option String := none

/-- Why a command line is refused. -/
inductive Refusal where
  | unknownArgument
  | invalidValue
  | valueValidation
  | argumentConflict
  | tooManyValues
  | displayHelp
  | displayVersion
deriving DecidableEq, Repr

def Refusal.word : Refusal → String
  | .unknownArgument => "UnknownArgument"
  | .invalidValue => "InvalidValue"
  | .valueValidation => "ValueValidation"
  | .argumentConflict => "ArgumentConflict"
  | .tooManyValues => "TooManyValues"
  | .displayHelp => "DisplayHelp"
  | .displayVersion => "DisplayVersion"

/-- Help and version are shown on request; all else is an error. -/
def Refusal.exitCode : Refusal → Nat
  | .displayHelp | .displayVersion => 0
  | _ => 2

def Reader.read (r : Reader) (s : String) : Except Refusal Value :=
  let valid {ε α : Type} (e : Except ε α) (f : α → Value) : Except Refusal Value :=
    match e with
    | .ok a => .ok (f a)
    | .error _ => .error .valueValidation
  match r with
  | .text => .ok (.text s)
  | .path => if s.isEmpty then .error .invalidValue else .ok (.text s)
  | .real =>
    match Decimal.read s with
    | some x => .ok (.real x)
    | none => .error .valueValidation
  | .natural => valid (Decimal.readU64 s) fun n => .int n
  | .count =>
    match Decimal.readI64 s with
    | .ok n => if 1 ≤ n && n ≤ Decimal.maxU32 then .ok (.int n) else .error .valueValidation
    | .error _ => .error .valueValidation
  | .integer => valid (Decimal.readI64 s) fun i => .int i
  | .bool =>
    if s == "true" then .ok (.bool true)
    else if s == "false" then .ok (.bool false)
    else .error .invalidValue
  | .oneOf words => if words.contains s then .ok (.text s) else .error .invalidValue

/-! ## What was found -/

/-- The values found, by flag; at most one for each. -/
abbrev Matches := List (String × Value)

namespace Matches

def get? (m : Matches) (name : String) : Option Value := (m.find? (·.1 == name)).map (·.2)

def remove (m : Matches) (name : String) : Matches := m.filter (·.1 != name)

def bool? (m : Matches) (name : String) : Option Bool :=
  match m.get? name with
  | some (.bool b) => some b
  | _ => none

def int? (m : Matches) (name : String) : Option Int :=
  match m.get? name with
  | some (.int i) => some i
  | _ => none

def real? (m : Matches) (name : String) : Option Float :=
  match m.get? name with
  | some (.real x) => some x
  | _ => none

def text? (m : Matches) (name : String) : Option String :=
  match m.get? name with
  | some (.text s) => some s
  | _ => none

def isSet (m : Matches) (name : String) : Bool := (m.bool? name).getD false

end Matches

/-! ## Reading -/

structure Command where
  flags : List Flag
  hasVersion : Bool := false

/-- The flags that every command has, after its own. -/
def Command.allFlags (c : Command) : List Flag :=
  c.flags ++ [{ name := "help", short := some 'h', action := .help }] ++
    if c.hasVersion then [{ name := "version", short := some 'V', action := .version }] else []

/-- An option whose value has not been examined yet. -/
structure Pending where
  flag : Flag
  reader : Reader
  lenient : Bool
  value : Option String

structure State where
  found : Matches := []
  pending : Option Pending := none
  /-- The next argument may be the value of the pending option. -/
  expecting : Bool := false

/-- The flags overridden by `name` or overriding it. -/
def overridden (flags : List Flag) (flag : Flag) : List String :=
  let direct := match flag.action with
    | .switch (some other) => [other]
    | _ => []
  direct ++ flags.filterMap fun f =>
    match f.action with
    | .switch (some other) => if other == flag.name then some f.name else none
    | _ => none

/-- Records a value; a flag that was given before is in conflict with itself. -/
def record (flags : List Flag) (flag : Flag) (value : Value) (found : Matches) :
    Except Refusal Matches :=
  if (found.get? flag.name).isSome then .error .argumentConflict
  else .ok ((overridden flags flag).foldl Matches.remove found ++ [(flag.name, value)])

/-- Examines the value of the pending option, if there is one. -/
def settle (flags : List Flag) (s : State) : Except Refusal State :=
  match s.pending with
  | none => .ok s
  | some p =>
    match p.value with
    | none =>
      if !p.lenient then .error .invalidValue
      else do
        let found ← record flags p.flag (.bool true) s.found
        .ok { s with found := found, pending := none }
    | some text => do
      if (s.found.get? p.flag.name).isSome then .error .argumentConflict
      else
        let found ← record flags p.flag (← p.reader.read text) s.found
        .ok { s with found := found, pending := none }

/-- A flag that takes no value. -/
def raise (flags : List Flag) (flag : Flag) (s : State) : Except Refusal State := do
  let s ← settle flags s
  let s := { s with expecting := false }
  match flag.action with
  | .help => .error .displayHelp
  | .version => .error .displayVersion
  | .counter =>
    let n := ((Matches.int? s.found flag.name).getD 0) + 1
    .ok { s with found := s.found.remove flag.name ++ [(flag.name, .int (min n 255))] }
  | _ =>
    let found ← record flags flag (.bool true) s.found
    .ok { s with found := found }

/-- An option met with the text attached to it, if any. -/
def raiseOption (flags : List Flag) (flag : Flag) (reader : Reader) (lenient : Bool)
    (attached : Option String) (s : State) : Except Refusal State := do
  let s ← settle flags s
  match attached with
  | some text =>
    let s ← settle flags { s with pending := some ⟨flag, reader, lenient, some text⟩ }
    .ok { s with expecting := false }
  | none => .ok { s with pending := some ⟨flag, reader, lenient, none⟩, expecting := true }

/-- `--name` or `--name=text`. -/
def readLong (flags : List Flag) (body : List Char) (s : State) : Except Refusal State :=
  let name := String.ofList (body.takeWhile (· != '='))
  let attached := match body.dropWhile (· != '=') with
    | _ :: text => some (String.ofList text)
    | [] => none
  match flags.find? (·.name == name) with
  | none => .error .unknownArgument
  | some flag =>
    match flag.action with
    | .value reader lenient => raiseOption flags flag reader lenient attached s
    | _ => if attached.isSome then .error .tooManyValues else raise flags flag s

/-- Letters behind one dash, each a flag. -/
def readShorts (flags : List Flag) : List Char → State → Except Refusal State
  | [], s => .ok s
  | c :: rest, s =>
    match flags.find? (·.short == some c) with
    | none => .error .unknownArgument
    | some flag => do readShorts flags rest (← raise flags flag s)

/-- An argument that is no flag: the value that an option waits for, or a mistake. -/
def readPlain (arg : String) (s : State) : Except Refusal State :=
  match s.pending with
  | some p =>
    if s.expecting then
      .ok { s with pending := some { p with value := some arg }, expecting := false }
    else .error .unknownArgument
  | none => .error .unknownArgument

/-- Reads the arguments; behind `--` none is accepted. -/
def readArguments (flags : List Flag) : List String → State → Except Refusal State
  | [], s => .ok s
  | arg :: rest, s =>
    match arg.toList with
    | ['-', '-'] => if rest.isEmpty then .ok s else .error .unknownArgument
    | '-' :: '-' :: body => do readArguments flags rest (← readLong flags body s)
    | '-' :: c :: body => do readArguments flags rest (← readShorts flags (c :: body) s)
    | _ => do readArguments flags rest (← readPlain arg s)

/-- The value of an option that a variable of the environment holds. -/
def Flag.fromVariable (env : Environment) (flag : Flag) : Option (Except Refusal Value) :=
  match flag.action with
  | .value reader _ => (flag.fromEnv.bind env.get?).map reader.read
  | _ => none

/-- The value of a flag that nobody gave: a switch is off, and a counter counts nothing. -/
def Flag.standing (flag : Flag) : Option (Except Refusal Value) :=
  match flag.action with
  | .value reader _ => flag.default.map reader.read
  | .switch _ => some (.ok (.bool false))
  | .counter => some (.ok (.int 0))
  | .help | .version => none

/-- Gives the flags that have no value yet the one of a source, where it has one. -/
def fill (source : Flag → Option (Except Refusal Value)) (flags : List Flag) (found : Matches) :
    Except Refusal Matches :=
  flags.foldlM (fun found flag =>
    if (found.get? flag.name).isSome then .ok found
    else
      match source flag with
      | none => .ok found
      | some value => do return found ++ [(flag.name, ← value)]) found

/-- The values of all flags, by command line, environment and default. -/
def parse (command : Command) (env : Environment) (argv : List String) :
    Except Refusal Matches := do
  let flags := command.allFlags
  let s ← settle flags (← readArguments flags argv {})
  fill Flag.standing flags (← fill (Flag.fromVariable env) flags s.found)

end MysqlMetrics.CommandLine
