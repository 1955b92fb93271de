import ScriptBridge.Files.Path
import ScriptBridge.Text.Lowercase
import ScriptBridge.Text.Blank
import ScriptBridge.Table

/-!
# Directories of an application

Where an application keeps its configuration, data and caches for one user: below the base directories that the
environment names, or below the usual places in the home directory. A base directory that is not absolute is ignored.
-/
namespace ScriptBridge

abbrev Environment := List (String × String)

structure AppDirectories where
  config : Path
  data : Path
  cache : Path
  deriving Repr

namespace AppDirectories

/-- The name of an application as a directory name: in lower case and without white space. -/
def directoryName (name : String) : String :=
  String.ofList ((Text.words name.toList).flatMap Text.lowercase)

/-- A base directory: what the variable names, if that is absolute, and otherwise a place in the home directory. -/
def base (environment : Environment) (home : Path) (variableName : String) (usual : String) : Path :=
  let named := (Table.get? variableName environment).map Path.ofString
  match named with
  | some path => if path.isAbsolute then path else home.join (.ofString usual)
  | none => home.join (.ofString usual)

/-- The directories of an application. There are none without a home directory. -/
def ofName? (environment : Environment) (name : String) : Option AppDirectories :=
  match Table.get? "HOME" environment with
  | none | some "" => none
  | some home =>
    let home := Path.ofString home
    let below := Path.ofString (directoryName name)
    some
      { config := (base environment home "XDG_CONFIG_HOME" ".config").join below
        data := (base environment home "XDG_DATA_HOME" ".local/share").join below
        cache := (base environment home "XDG_CACHE_HOME" ".cache").join below }

end AppDirectories
end ScriptBridge
