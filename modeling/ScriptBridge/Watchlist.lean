import ScriptBridge.QualifiedName
import ScriptBridge.Property

/-!
# Observed properties

Which properties a script has asked to observe. Observing a property again replaces the earlier request.
-/
namespace ScriptBridge

structure Watch where
  key : QualifiedName
  replyToken : UInt64
  format : PropertyFormat
  deriving DecidableEq, Repr

/-- The observed properties of one script, by qualified name. -/
structure Watchlist where
  identity : ScriptId
  entries : List (QualifiedName × Watch) := []

namespace Watchlist

def watch (list : Watchlist) (name : String) (format : PropertyFormat) (token : UInt64) : Watch :=
  ⟨⟨list.identity, name⟩, token, format⟩

def observe (list : Watchlist) (name : String) (format : PropertyFormat) (token : UInt64) :
    Watchlist :=
  let entry := list.watch name format token
  { list with entries := Table.insert entry.key entry list.entries }

def get? (list : Watchlist) (name : String) : Option Watch :=
  Table.get? ⟨list.identity, name⟩ list.entries

def size (list : Watchlist) : Nat := list.entries.length

def isEmpty (list : Watchlist) : Bool := list.entries.isEmpty

/-- The observed properties in the order of their keys. -/
def toList (list : Watchlist) : List Watch := list.entries.map Prod.snd

end Watchlist
end ScriptBridge
