import PhotoGrouping.CommandLine.CommandError

namespace PhotoGrouping.CommandLine

/-- What a path leads to. -/
inductive ConfigFile
  | missing
  /-- Something that cannot be read; the system says why. -/
  | unreadable (report : String)
  | bytes (content : List UInt8)
  deriving Repr, DecidableEq

namespace ConfigFile

def load (path : String) : ConfigFile → Except CommandError Config
  | .missing => .error (.configMissing path)
  | .unreadable report => .error (.configUnusable path (.unreadable report))
  | .bytes content =>
    match Config.ofBytes content with
    | .ok c => .ok c
    | .error failure => .error (.configUnusable path failure)

/-- The configuration at a path, or the default one without a path. -/
def loadOptional (path : Option String) (file : ConfigFile) : Except CommandError Config :=
  match path with
  | some path => file.load path
  | none => .ok {}

/-- The last name on a path; the whole path where it ends in none. -/
def filename (path : String) : String :=
  match ((path.splitOn "/").filter fun part => part != "" && part != ".").getLast? with
  | some name => if name = ".." then path else name
  | none => path

/-- The filenames that a command looks at under a configuration. -/
def sampledNames (c : Config) (paths : List String) : List String :=
  (c.sample paths).map filename

end ConfigFile

end PhotoGrouping.CommandLine
