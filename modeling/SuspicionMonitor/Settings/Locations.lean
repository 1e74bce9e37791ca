/-!
# Where settings are kept

A user has settings below the configuration home, a project has two files in
its directory.
-/

namespace SuspicionMonitor

namespace Locations

/-- A slash is put in between unless the directory ends with one or is
empty. -/
def join (directory name : String) : String :=
  if directory.isEmpty || directory.endsWith "/" then directory ++ name
  else directory ++ "/" ++ name

/-- A relative configuration home is ignored. -/
def configurationHome (home : String) (configured : Option String) : String :=
  match configured with
  | some directory => if directory.startsWith "/" then directory else join home ".config"
  | none => join home ".config"

def userDirectory (home : String) (configured : Option String) : String :=
  join (configurationHome home configured) "warden"

def userFile (home : String) (configured : Option String) : String :=
  join (userDirectory home configured) "config.toml"

def projectFile (directory : String) : String := join directory "warden.toml"

/-- Overrides that are not shared with others. -/
def overrideFile (directory : String) : String := join directory "warden.local.toml"

end Locations

end SuspicionMonitor
