/-!
# Places in the home directory

Where the program keeps its settings and its data, below the user's home directory.
-/

namespace Tuner.Places

/-- The name of the program's own directories. -/
def appName : String := "patio"

/-- The path of a name inside a directory. A directory that is empty or ends in a slash needs no
slash before the name. -/
def join (directory name : String) : String :=
  if directory.toList.getLast?.all (· == '/') then directory ++ name
  else directory ++ "/" ++ name

def settingsDirectory (home : String) : String :=
  join (join home ".config") appName

def dataDirectory (home : String) : String :=
  join (join (join home ".local") "share") appName

def settingsFile (home : String) : String :=
  join (settingsDirectory home) "config.toml"

end Tuner.Places
