/-
# Where the configuration lies

The directory for configurations is given by the environment; a relative one does not count.
-/
namespace PluginArbiter.ConfigLocation

/-- The place of the file below the directory for configurations. -/
def fileName : String := "plugin-resolver/config.yaml"

/-- Whether a path begins at the root. -/
def isAbsolute (path : String) : Bool := path.toList.head? == some '/'

/-- A path below another.  A slash is added only where there is none; an absolute path stands for
itself. -/
def join (above below : String) : String :=
  if isAbsolute below then below
  else if above.toList.isEmpty || above.toList.getLast? == some '/' then above ++ below
  else above ++ "/" ++ below

/-- The standard place: below `configHome` if that is absolute, else below the home directory. -/
def standard (home : String) (configHome : Option String) : String :=
  let directory :=
    match configHome with
    | some d => if isAbsolute d then d else join home ".config"
    | none => join home ".config"
  join directory fileName

end PluginArbiter.ConfigLocation
