import ScriptBridge.Files.Path

/-!
# Script identities

A loaded script has an identity, taken from the file name it was loaded under.
-/
namespace ScriptBridge

/-- The stable name of one loaded script. -/
structure ScriptId where
  name : String
  deriving DecidableEq, Repr

/-- The identity that a load path gives: the stem of its file name, if that is UTF-8 and not empty. -/
def ScriptId.ofPath? (path : Path) : Option ScriptId :=
  (path.fileStem?.bind Utf8.decode?).bind fun stem => if stem = "" then none else some ⟨stem⟩

end ScriptBridge
