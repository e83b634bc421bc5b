import Rulebook.CommandLine

/-!
The program itself: collects what it was called with, runs the command line and writes what it did.
-/

namespace Rulebook.Program

def parseEnvironment (block : String) : Variables.Environment :=
  (block.splitOn "\x00").filterMap fun entry =>
    match entry.splitOn "=" with
    | name :: value@(_ :: _) => some (name, "=".intercalate value)
    | _ => none

def readFile? (path : String) : IO (Option String) := do
  try
    let text ← IO.FS.readFile path
    return some text
  catch _ => return none

def logLine (asJson : Bool) (entry : Log.Entry) : String :=
  if asJson then
    let fields := ("message", Json.string entry.message) ::
      entry.fields.map fun (name, value) => (name, Json.string value)
    (Json.object [("level", .string entry.level.name), ("fields", .object fields)]).compact
  else
    let fields := entry.fields.map fun (name, value) => " " ++ name ++ "=" ++ value
    entry.level.name ++ " " ++ entry.message ++ String.join fields

def run (arguments : List String) : IO UInt32 := do
  let environment := parseEnvironment ((← readFile? "/proc/self/environ").getD "")
  let directory := CommandLine.settingsDirectory environment
  let stems := ["default", Settings.environmentName environment, CommandLine.service]
  let paths := stems.map (fun stem => CommandLine.joinPath directory (stem ++ ".toml")) ++
    arguments.take 1
  let files ← paths.filterMapM fun path => do return (← readFile? path).map (path, ·)
  let standardInput ← if arguments.isEmpty then (← IO.getStdin).readToEnd else pure ""
  let outcome := CommandLine.run
    { arguments, environment, fileText? := fun path => files.lookup path, standardInput }
  if outcome.settingsError.isSome then
    IO.eprintln "Failed to load config, using defaults"
  for entry in outcome.log do
    IO.eprintln (logLine outcome.jsonLogs entry)
  if let .error failure := outcome.result then
    IO.eprintln ("Error: " ++ failure.message)
  if let some text := outcome.output? then
    IO.println text
  return UInt32.ofNat outcome.exitCode

end Rulebook.Program

def main (arguments : List String) : IO UInt32 := Rulebook.Program.run arguments
