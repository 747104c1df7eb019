import StreamPolicy.App
import StreamPolicy.Cli.Failure

/-!
# Configuration files

Where the configuration of a run comes from (`load`): the file that was asked for, or else the first
of `usualPaths` that exists. `Files.updateRules` writes rules back to it.
-/

namespace StreamPolicy.Cli

inductive FileState
  | missing
  | unreadable (reason : String)
  | text (content : String)
  deriving DecidableEq, Repr

abbrev Files := String → FileState

/-- The files after `content` has been written to `path`. -/
def Files.write (files : Files) (path content : String) : Files :=
  fun p => if p = path then .text content else files p

/-- The text of the document at `path`, which is empty where nothing is. -/
def Files.documentText (files : Files) (path : String) : Except Failure String :=
  match files path with
  | .missing => .ok ""
  | .unreadable reason => .error (.unreadable path reason)
  | .text content => .ok content

/-- Writes lists of rules to the document at `path`. What is no document stays as it is. -/
def Files.updateRules (files : Files) (path : String) (clientRules : List ClientRule)
    (relayMappings : List RelayMapping) : Except Failure Unit × Files :=
  match files.documentText path with
  | .error f => (.error f, files)
  | .ok content =>
    match Config.updatedText? content clientRules relayMappings with
    | none => (.error (.noConfig path), files)
    | some content => (.ok (), files.write path content)

/-- What a run depends on beside its arguments. -/
structure Surroundings where
  files : Files
  home : Option String
  issuer : Issuer

/-- The paths at which a configuration is looked for. -/
def usualPaths (home : Option String) : List String :=
  ["./tvforge.toml", "./config.toml", home.getD "~" ++ "/.config/tvforge/config.toml",
    "/etc/tvforge/config.toml"]

/-- The paths that a run looks at: the `given` one only, if there is one. -/
def pathsOf (home given : Option String) : List String :=
  match given with
  | some path => [path]
  | none => usualPaths home

structure Loaded where
  config : Config := {}
  file : Option (String × String) := none
  issuer : Issuer

namespace Loaded

def path? (l : Loaded) : Option String := l.file.map (·.1)

end Loaded

namespace Surroundings

/-- The path of the configuration. One that is `given` need not exist. -/
def configPath? (s : Surroundings) (given : Option String) : Option String :=
  match given with
  | some path => some path
  | none => (usualPaths s.home).find? fun path => s.files path != .missing

def loadFile (s : Surroundings) (path : String) : Except Failure Loaded :=
  match s.files path with
  | .missing => .error (.unreadable path "No such file or directory (os error 2)")
  | .unreadable reason => .error (.unreadable path reason)
  | .text content =>
    match Config.parse? s.issuer content with
    | some (config, issuer) => .ok { config, file := some (path, content), issuer }
    | none => .error (.noConfig path)

/-- Loads the configuration of a run, which is empty when there is no file. -/
def load (s : Surroundings) (given : Option String) : Except Failure Loaded :=
  match s.configPath? given with
  | some path => s.loadFile path
  | none => .ok { issuer := s.issuer }

end Surroundings

end StreamPolicy.Cli
