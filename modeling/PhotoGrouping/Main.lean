import PhotoGrouping.CommandLine.Plan

open PhotoGrouping PhotoGrouping.CommandLine

/-- The number and the words of the system for an error. -/
def systemError? : IO.Error → Option (Nat × String)
  | .noFileOrDirectory _ code details | .noSuchThing (some _) code details
  | .permissionDenied _ code details | .inappropriateType _ code details
  | .invalidArgument _ code details | .resourceExhausted _ code details =>
    some (code.toNat, details)
  | .noSuchThing none code details | .unsupportedOperation code details
  | .hardwareFault code details | .otherError code details => some (code.toNat, details)
  | _ => none

def systemReport (e : IO.Error) : String :=
  match systemError? e with
  | some (code, words) => words ++ " (os error " ++ toString code ++ ")"
  | none => toString e

/-- Whether a path leads to an entry of the file system. -/
def leadsSomewhere (path : String) : IO Bool := do
  try
    discard <| IO.FS.realPath path
    return true
  catch _ => return false

def readConfigFile (path : String) : IO ConfigFile := do
  if ← leadsSomewhere path then
    try
      let handle ← IO.FS.Handle.mk path .read
      return .bytes (← handle.readBinToEnd).toList
    catch e => return .unreadable (systemReport e)
  else
    return .missing

def carryOut : Plan → IO Reply
  | .reply r => return r
  | .write path text written refused => do
    try
      IO.FS.writeFile path text
      return written
    catch e => return refused (systemReport e)

def runInvocation (i : Invocation) : IO UInt32 := do
  let file ← match i.command.configPath? with
    | some path => readConfigFile path
    | none => pure .missing
  let reply ← carryOut (i.plan file)
  let filters := LogFilters.of (← IO.getEnv "RUST_LOG") i.verbose
  IO.print reply.output.text
  for line in reply.errorLines filters i.logTail (toString (← IO.monoMsNow) ++ "ms") do
    IO.eprintln line
  return reply.exitCode.toUInt32

def main (args : List String) : IO UInt32 := do
  match Invocation.parse args with
  | .ok i => runInvocation i
  | .error .help =>
    for line in usage do IO.println line
    return 0
  | .error .misuse =>
    for line in usage do IO.eprintln line
    return misuseCode.toUInt32
