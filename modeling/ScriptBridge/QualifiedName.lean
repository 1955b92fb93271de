import ScriptBridge.ScriptId

/-!
# Qualified names

A name that a script uses on a shared channel is qualified by the script's identity. The wire form joins the two by three
underscores and is cut at the first place where three underscores stand.
-/
namespace ScriptBridge

/-- A local name together with the script that owns it. -/
structure QualifiedName where
  owner : ScriptId
  name : String
  deriving DecidableEq, Repr

namespace QualifiedName

/-- What stands between owner and name on the wire. -/
def separator : List Char := ['_', '_', '_']

def encode (key : QualifiedName) : String :=
  String.ofList (key.owner.name.toList ++ separator ++ key.name.toList)

/-- The text in front of the first separator and the text behind it. -/
def split? : List Char → Option (List Char × List Char)
  | [] => none
  | c :: rest =>
    if separator.isPrefixOf (c :: rest) then some ([], rest.drop 2)
    else (split? rest).map fun parts => (c :: parts.1, parts.2)

def parse? (raw : String) : Option QualifiedName :=
  (split? raw.toList).map fun parts => ⟨⟨String.ofList parts.1⟩, String.ofList parts.2⟩

def isOwnedBy (key : QualifiedName) (owner : ScriptId) : Bool := key.owner = owner

/-- Qualified names are ordered by owner, then by name. -/
instance : LT QualifiedName :=
  ⟨fun a b => a.owner.name < b.owner.name ∨ (a.owner = b.owner ∧ a.name < b.name)⟩

instance : DecidableLT QualifiedName :=
  fun a b => inferInstanceAs (Decidable (a.owner.name < b.owner.name ∨ (a.owner = b.owner ∧ a.name < b.name)))

end QualifiedName
end ScriptBridge
