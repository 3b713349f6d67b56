/-!
# Arguments of scrapers

A scraper may declare arguments, each with a default whose kind is the kind of the argument. A
change is checked as a whole before any of it is applied: every name must be declared and every
value of the declared kind.
-/
namespace MysqlMetrics

inductive ArgKind where
  | bool
  | int
  | string
deriving DecidableEq, Repr

def ArgKind.word : ArgKind → String
  | .bool => "bool"
  | .int => "int"
  | .string => "string"

inductive ArgValue where
  | bool (b : Bool)
  | int (i : Int)
  | string (s : String)
deriving DecidableEq, Repr, Inhabited

namespace ArgValue

def kind : ArgValue → ArgKind
  | .bool _ => .bool
  | .int _ => .int
  | .string _ => .string

/-- The value as it is written on a command line. -/
def toText : ArgValue → String
  | .bool b => if b then "true" else "false"
  | .int i => toString i
  | .string s => s

def bool? : ArgValue → Option Bool
  | .bool b => some b
  | _ => none

def int? : ArgValue → Option Int
  | .int i => some i
  | _ => none

def string? : ArgValue → Option String
  | .string s => some s
  | _ => none

end ArgValue

structure ArgDefinition where
  name : String
  help : String
  default : ArgValue
deriving DecidableEq, Repr, Inhabited

def ArgDefinition.kind (d : ArgDefinition) : ArgKind := d.default.kind

/-- A value for a name. -/
structure Arg where
  name : String
  value : ArgValue
deriving DecidableEq, Repr, Inhabited

inductive ArgError where
  | noArgsAllowed (scraper name : String)
  | unknown (scraper name : String)
  | wrongKind (scraper name : String) (expected : ArgKind) (value : String)
  | defaultKind (name : String) (declared actual : ArgKind) (default : String)
  | duplicate (scraper name : String)
deriving DecidableEq, Repr

def ArgError.message : ArgError → String
  | .noArgsAllowed scraper name =>
    "scraper " ++ scraper ++ " does not accept arguments (got " ++ name ++ ")"
  | .unknown scraper name => "scraper " ++ scraper ++ " has no argument named " ++ name
  | .wrongKind scraper name expected value =>
    "argument " ++ name ++ " of scraper " ++ scraper ++ " expects a " ++ expected.word ++
      ", got " ++ value
  | .defaultKind name declared actual default =>
    "argument " ++ name ++ " declared as " ++ declared.word ++ " but its default " ++ default ++
      " is a " ++ actual.word
  | .duplicate scraper name =>
    "scraper " ++ scraper ++ " declares argument " ++ name ++ " more than once"

namespace ArgDefinition

/-- A definition whose kind is stated apart from its default. -/
def declare (name help : String) (kind : ArgKind) (default : ArgValue) :
    Except ArgError ArgDefinition :=
  if default.kind = kind then .ok ⟨name, help, default⟩
  else .error (.defaultKind name kind default.kind default.toText)

/-- The first name that is declared again later. -/
def repeated? : List ArgDefinition → Option String
  | [] => none
  | d :: rest => if rest.any (·.name == d.name) then some d.name else repeated? rest

/-- The names of one scraper must be distinct. -/
def validate (scraper : String) (defs : List ArgDefinition) : Except ArgError Unit :=
  match repeated? defs with
  | none => .ok ()
  | some name => .error (.duplicate scraper name)

/-- One argument for each definition, with its default. -/
def defaults (defs : List ArgDefinition) : List Arg := defs.map fun d => ⟨d.name, d.default⟩

end ArgDefinition

/-! ## The arguments of one scraper -/

/-- The declared arguments with their current values. A scraper may refuse values on grounds of its
own, beyond names and kinds. -/
structure ArgSet where
  scraper : String
  definitions : List ArgDefinition
  current : List Arg
  refuses : List Arg → Option ArgError := fun _ => none

namespace ArgSet

def new (scraper : String) (defs : List ArgDefinition) : ArgSet :=
  { scraper := scraper, definitions := defs, current := ArgDefinition.defaults defs }

/-- Is the argument declared, with a value of the declared kind? -/
def check (s : ArgSet) (arg : Arg) : Except ArgError Unit :=
  match s.definitions.find? (·.name == arg.name) with
  | none => .error (.unknown s.scraper arg.name)
  | some d =>
    if d.kind = arg.value.kind then .ok ()
    else .error (.wrongKind s.scraper arg.name d.kind arg.value.toText)

/-- Replaces the value of the first argument of that name. -/
def assign (arg : Arg) : List Arg → List Arg
  | [] => []
  | a :: rest =>
    if a.name = arg.name then { a with value := arg.value } :: rest else a :: assign arg rest

/-- Checks all arguments and then applies them in order. -/
def configure (s : ArgSet) (args : List Arg) : Except ArgError ArgSet := do
  args.forM s.check
  match s.refuses args with
  | some e => .error e
  | none => .ok { s with current := args.foldl (fun values a => assign a values) s.current }

def value? (s : ArgSet) (name : String) : Option ArgValue :=
  (s.current.find? (·.name == name)).map (·.value)

/-- The current value; `false` for what is no switch. -/
def bool (s : ArgSet) (name : String) : Bool := ((s.value? name).bind ArgValue.bool?).getD false

/-- The current value; zero for what is no number. -/
def int (s : ArgSet) (name : String) : Int := ((s.value? name).bind ArgValue.int?).getD 0

/-- The current value; the empty text for what is no text. -/
def string (s : ArgSet) (name : String) : String := ((s.value? name).bind ArgValue.string?).getD ""

end ArgSet
end MysqlMetrics
