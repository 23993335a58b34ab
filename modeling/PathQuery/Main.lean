import PathQuery.Codec.Standard
import PathQuery.Command.Program

namespace PathQuery

def readVariables (names : List String) : IO (String → Option String) := do
  let texts ← names.filterMapM fun name => do
    return (← IO.getEnv name).map (name, ·)
  return fun name => (texts.find? fun t => t.1 == name).map (·.2)

def systemReason (code : UInt32) (details : String) : String :=
  details ++ " (os error " ++ toString code ++ ")"

def reason : IO.Error → String
  | .noFileOrDirectory _ code details => systemReason code details
  | .permissionDenied _ code details => systemReason code details
  | .inappropriateType _ code details => systemReason code details
  | e => toString e

def readFile (path : String) : IO FileText :=
  try
    return .ok (← IO.FS.readFile path)
  catch e => return .error (reason e)

def readFileOf (c : Command) : IO (String → FileText) :=
  match c.file? with
  | some path => do
    let text ← readFile path
    return fun _ => text
  | none => return fun _ => .error ""

def readInput? : IO (Option String) := do
  let stdin ← IO.getStdin
  if ← stdin.isTty then return none
  else
    try
      return some (← stdin.readToEnd)
    catch _ => return none

def settingNames : List String :=
  ["MPATH_QUERY_CACHE_CAPACITY", "MPATH_SCHEMA_CACHE_CAPACITY", "MPATH_QUOTE_DECIMALS", "LOG_LEVEL"]

def runProgram (arguments : List String) : IO Outcome := do
  let setting? ← readVariables settingNames
  match Invocation.ofArguments arguments with
  | .ok i =>
    let input? ← if i.command.awaitsInput then readInput? else pure none
    let file ← readFileOf i.command
    return Program.run arguments setting? input? .standard file
  | .error s => return .stopped s

end PathQuery

def main (arguments : List String) : IO UInt32 := do
  let outcome ← PathQuery.runProgram arguments
  IO.print outcome.output
  IO.eprint outcome.complaint
  return outcome.code.toUInt32
