import PhotoGrouping.CommandLine.Group
import PhotoGrouping.CommandLine.Infer
import PhotoGrouping.CommandLine.Segments
import PhotoGrouping.CommandLine.Validate

namespace PhotoGrouping.CommandLine

/-- The path of the configuration that a command names. -/
def Command.configPath? : Command → Option String
  | .infer r => r.config
  | .segments r => r.config
  | .validate r => some r.config
  | .group r => some r.config

/-- What to do for an invocation, given what the path of its configuration leads to. -/
def Invocation.plan (i : Invocation) (file : ConfigFile) : Plan :=
  match i.command with
  | .infer r => r.plan i.json file
  | .segments r => .reply (r.reply i.json file)
  | .validate r => .reply (r.reply i.json file)
  | .group r => .reply (r.reply i.json file)

def misuseCode : Nat := 2

def usage : List String := [
  "Group vehicle photos by filename pattern", "",
  "Usage: lineup [--verbose] [--log-tail <N>] <COMMAND>", "",
  "  infer <FILES>... --group-token <VALUE> [--config <PATH>] [--write] [--json]",
  "  segments <FILES>... [--config <PATH>] [--json]",
  "  validate --config <PATH> [--samples <FILES>...] [--json]",
  "  group <FILES>... --config <PATH> [--json]"]

end PhotoGrouping.CommandLine
