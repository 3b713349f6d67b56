import MysqlMetrics.CommandLine
import MysqlMetrics.Scraper
import MysqlMetrics.Text.Quoted
/-!
# The registry of scrapers

Scrapers are registered first; then their flags are bound to the command line; once the command
line has been read, the flags are applied and the registry is ready. A teardown empties it for
good. Readers wait until the registry is ready or torn down, and never see a part of it.
-/
namespace MysqlMetrics

inductive Lifecycle where
  | uninitialized
  | flagsPending
  | ready
  | tornDown
deriving DecidableEq, Repr

namespace Lifecycle

def title : Lifecycle → String
  | .uninitialized => "Uninitialized"
  | .flagsPending => "FlagsPending"
  | .ready => "Ready"
  | .tornDown => "TornDown"

/-- Do readers get an answer? -/
def isSettled : Lifecycle → Bool
  | .ready | .tornDown => true
  | _ => false

/-- The position in the order of the stages. -/
def stage : Lifecycle → Nat
  | .uninitialized => 0
  | .flagsPending => 1
  | .ready => 2
  | .tornDown => 3

end Lifecycle

inductive RegistryError where
  | duplicate (name : String)
  | invalidName (name : String)
  | alreadyInitialized
  | notInitialized
  | tornDown
  | unknownScraper (name : String)
  | argument (error : ArgError)
deriving DecidableEq, Repr

def RegistryError.message : RegistryError → String
  | .duplicate name => "scraper " ++ name ++ " is already registered"
  | .invalidName name =>
    "invalid scraper name " ++ Text.quoted name ++
      ": only ASCII letters, digits, '.' and '_' are allowed"
  | .alreadyInitialized => "registry is already initialized"
  | .notInitialized => "registry flags have not been bound, call init first"
  | .tornDown => "registry has been torn down"
  | .unknownScraper name => "unknown scraper: " ++ name
  | .argument e => e.message

structure RegistryEntry where
  scraper : Scraper
  enabledDefault : Bool
  enabled : Bool
  /-- The current arguments, if the scraper takes any. -/
  args : Option ArgSet

structure Registry where
  state : Lifecycle := .uninitialized
  entries : SortedTable String RegistryEntry := []

/-- What the flags of a command line asked for. -/
structure Applied where
  enabled : List String
  /-- The arguments given, by scraper. -/
  overrides : SortedTable String (List Arg)
deriving DecidableEq, Repr

namespace Registry

def empty : Registry := {}

/-! ## Registration -/

def isNameChar (c : Char) : Bool := c.isAlphanum || c == '.' || c == '_'

def isValidName (name : String) : Bool := !name.isEmpty && name.toList.all isNameChar

def register (r : Registry) (s : Scraper) (enabledDefault : Bool) :
    Except RegistryError Registry :=
  if r.state ≠ .uninitialized then .error .alreadyInitialized
  else if !isValidName s.name then .error (.invalidName s.name)
  else if SortedTable.has s.name r.entries then .error (.duplicate s.name)
  else
    match ArgDefinition.validate s.name (s.definitions.getD []) with
    | .error e => .error (.argument e)
    | .ok () =>
      .ok { r with
        entries :=
          SortedTable.insert s.name ⟨s, enabledDefault, enabledDefault, s.argSet⟩ r.entries }

/-- What is said when a scraper that must be registered cannot be. -/
def mustRegisterMessage (name : String) (e : RegistryError) : String :=
  "failed to register scraper " ++ name ++ ": " ++ e.message

/-! ## Flags -/

def enableFlag (scraper : String) : String := "collect." ++ scraper

def disableFlag (scraper : String) : String := "no-collect." ++ scraper

def argFlag (scraper arg : String) : String := "collect." ++ scraper ++ "." ++ arg

/-- The flag of one argument. -/
def flagOfArg (scraper : String) (d : ArgDefinition) : CommandLine.Flag :=
  let help := d.help ++ " [default: " ++ d.default.toText ++ "]"
  match d.kind with
  | .bool => { name := argFlag scraper d.name, help := help, action := .value .bool true }
  | .int =>
    { name := argFlag scraper d.name, help := help, action := .value .integer false
      valueName := some "INT" }
  | .string =>
    { name := argFlag scraper d.name, help := help, action := .value .text false
      valueName := some "STRING" }

/-- The flags of one scraper: on, off, and one for each argument. -/
def flagsOf (e : RegistryEntry) : List CommandLine.Flag :=
  let name := e.scraper.name
  let state := if e.enabledDefault then "[default: enabled]" else "[default: disabled]"
  [{ name := enableFlag name, help := "Enable " ++ name ++ ": " ++ e.scraper.help ++ " " ++ state
     action := .switch (some (disableFlag name)) },
   { name := disableFlag name, help := "Disable the " ++ name ++ " scraper"
     action := .switch (some (enableFlag name)) }] ++
    (e.scraper.definitions.getD []).map (flagOfArg name)

def flags (r : Registry) : List CommandLine.Flag := (SortedTable.values r.entries).flatMap flagsOf

/-- Binds the flags of all scrapers; from now on no scraper can be registered. -/
def init (r : Registry) : Except RegistryError (List CommandLine.Flag × Registry) :=
  if r.state ≠ .uninitialized then .error .alreadyInitialized
  else .ok (r.flags, { r with state := .flagsPending })

/-! ## Applying a command line -/

/-- The value found for an argument, if there is one of its kind. -/
def argFound (m : CommandLine.Matches) (scraper : String) (d : ArgDefinition) : Option Arg :=
  let id := argFlag scraper d.name
  let value := match d.kind with
    | .bool => (m.bool? id).map ArgValue.bool
    | .int => (m.int? id).map ArgValue.int
    | .string => (m.text? id).map ArgValue.string
  value.map fun v => ⟨d.name, v⟩

/-- The arguments given for a scraper, in the order of their definitions. -/
def argsFound (m : CommandLine.Matches) (s : Scraper) : List Arg :=
  (s.definitions.getD []).filterMap (argFound m s.name)

/-- Off wins over on, and both over the default. -/
def enabledBy (m : CommandLine.Matches) (e : RegistryEntry) : Bool :=
  if m.isSet (disableFlag e.scraper.name) then false
  else if m.isSet (enableFlag e.scraper.name) then true
  else e.enabledDefault

/-- Configures one entry with the arguments given for it. -/
def configureEntry (m : CommandLine.Matches) (name : String) (e : RegistryEntry) :
    Except ArgError (RegistryEntry × Option (List Arg)) :=
  match argsFound m e.scraper with
  | [] => .ok (e, none)
  | a :: rest =>
    match e.args with
    | none => .error (.noArgsAllowed name a.name)
    | some s => (s.configure (a :: rest)).map fun s => ({ e with args := some s }, some (a :: rest))

/-- Configures the entries in order. An entry that refuses ends it; those before it keep what they
were given. -/
def configureAll (m : CommandLine.Matches) :
    SortedTable String RegistryEntry →
      SortedTable String RegistryEntry × Except ArgError (SortedTable String (List Arg))
  | [] => ([], .ok [])
  | (name, e) :: rest =>
    match configureEntry m name e with
    | .error err => ((name, e) :: rest, .error err)
    | .ok (e, given) =>
      let (rest, result) := configureAll m rest
      ((name, e) :: rest, result.map fun overrides =>
        match given with
        | some args => (name, args) :: overrides
        | none => overrides)

/-- Applies a command line. The registry becomes ready, unless an argument is refused. -/
def onParsed (r : Registry) (m : CommandLine.Matches) : Except RegistryError Applied × Registry :=
  match r.state with
  | .uninitialized => (.error .notInitialized, r)
  | .ready => (.error .alreadyInitialized, r)
  | .tornDown => (.error .tornDown, r)
  | .flagsPending =>
    match configureAll m r.entries with
    | (entries, .error e) => (.error (.argument e), { r with entries := entries })
    | (entries, .ok overrides) =>
      let entries := entries.map fun (name, e) => (name, { e with enabled := enabledBy m e })
      let enabled := entries.filterMap fun (name, e) => if e.enabled then some name else none
      (.ok ⟨enabled, overrides⟩, ⟨.ready, entries⟩)

/-! ## Use -/

def lookup (r : Registry) (name : String) : Option RegistryEntry := SortedTable.find? name r.entries

def isEnabled (r : Registry) (name : String) : Bool := ((r.lookup name).map (·.enabled)).getD false

/-- Changes the arguments of one scraper. -/
def configure (r : Registry) (name : String) (args : List Arg) : Except RegistryError Registry :=
  match r.lookup name with
  | none => .error (.unknownScraper name)
  | some e =>
    match e.args, args with
    | some s, _ =>
      match s.configure args with
      | .error err => .error (.argument err)
      | .ok s =>
        .ok { r with
          entries := SortedTable.adjust name (fun e => { e with args := some s }) r.entries }
    | none, [] => .ok r
    | none, a :: _ => .error (.argument (.noArgsAllowed name a.name))

def setEnabled (r : Registry) (name : String) (enabled : Bool) : Except RegistryError Registry :=
  if r.state = .tornDown then .error .tornDown
  else if !SortedTable.has name r.entries then .error (.unknownScraper name)
  else
    .ok { r with
      entries := SortedTable.adjust name (fun e => { e with enabled := enabled }) r.entries }

/-- All scrapers by name; `none` while the reader would have to wait. -/
def all (r : Registry) : Option (List RegistryEntry) :=
  if r.state.isSettled then some (SortedTable.values r.entries) else none

/-- The enabled scrapers by name; `none` while the reader would have to wait. -/
def enabled (r : Registry) : Option (List RegistryEntry) :=
  r.all.map fun es => es.filter (·.enabled)

def isReady (r : Registry) : Bool := r.state.isSettled

/-- Drops everything, for good. -/
def teardown (_ : Registry) : Registry := ⟨.tornDown, []⟩

/-- Names with their default and their present state. -/
def describe (r : Registry) : List (String × Bool × Bool) :=
  r.entries.map fun (name, e) => (name, e.enabledDefault, e.enabled)

/-- The registry in one line. -/
def summary (r : Registry) : String :=
  "ScraperRegistry \x7b state: " ++ r.state.title ++ ", scrapers: " ++
    Text.quotedList (SortedTable.keys r.entries) ++ " \x7d"

end Registry
end MysqlMetrics
