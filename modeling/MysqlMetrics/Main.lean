import MysqlMetrics.Collector.Builtin
import MysqlMetrics.Http.Wire
import MysqlMetrics.Startup.Launch
/-!
# The program

Reads the command line, the variables and the files, starts, and then answers the requests that
come in on standard input, each with a blank line behind its head. No driver for the protocol of
the database is built in: every attempt to connect fails, and scrapes say that the server is down.
-/
namespace MysqlMetrics.Program

open Startup

/-- Nothing is read of the machine. -/
def noUsage : Collector.SelfUsage.Usage := ⟨none, ⟨1, 0, 0⟩⟩

def noNetwork : Network := fun _ => none

def readEnvironment : IO Environment := do
  variableNames.foldlM (fun env name => do
    match ← IO.getEnv name with
    | some value => return env.set name value
    | none => return env) []

def readFiles (paths : List String) : IO Files := do
  let entries ← paths.filterMapM fun (path : String) => do
    try return some (path, FileEntry.file (← IO.FS.readFile path))
    catch
      | .noFileOrDirectory .. => return none
      | _ => return some (path, .directory)
  return .ofList (some (← IO.currentDir).toString) entries

/-- The lines up to a blank one; none at the end of the input. -/
partial def readHead (input : IO.FS.Stream) (seen : List String) : IO (List String) := do
  let line ← input.getLine
  if (Text.trim line).isEmpty then return seen.reverse
  else readHead input (Text.trim line :: seen)

/-- Answers requests until there is none. -/
partial def answerAll (service : Service Pools) (input : IO.FS.Stream) (count : Nat)
    (state : Serving Pools) : IO Unit := do
  match Request.ofLines? (← readHead input []) with
  | none => return ()
  | some request =>
    let state := { state with now := max state.now (← IO.monoMsNow) }
    match service.respond (toString count) request state with
    | (.response r, state) =>
      IO.print r.write
      (← IO.getStdout).flush
      answerAll service input (count + 1) state
    | (.panicked message, _) => IO.eprintln message

/-- Runs the program and gives the code that it ends with. -/
def run (argv : List String) : IO UInt32 := do
  let env ← readEnvironment
  let registry := Collector.defaultRegistry noUsage
  let found := do
    let (flags, _) ← registry.init.toOption
    (CommandLine.parse (command flags) env argv).toOption
  let files ← readFiles ((found.map (filePaths env)).getD [])
  match launch env files noNetwork registry argv with
  | .error fault =>
    match fault.message? with
    | some message => IO.eprintln ("Error: " ++ message)
    | none => pure ()
    return fault.exitCode.toUInt32
  | .ok launched =>
    IO.eprint launched.banner
    answerAll (launched.service noNetwork "0000000") (← IO.getStdin) 0 launched.serving
    return 0

end MysqlMetrics.Program

/-- The exporter. -/
def main (argv : List String) : IO UInt32 := MysqlMetrics.Program.run argv
