import ScriptBridge.Text.Utf8

/-!
# Paths

A path is a string of bytes in which slashes separate components. Repeated slashes, trailing slashes and inner dots do
not count: paths are compared, ordered and taken apart by their components.
-/
namespace ScriptBridge

/-- A file name, or a piece of one, as bytes. -/
abbrev FileName := List UInt8

/-- A path, as the bytes it was written with. -/
structure Path where
  bytes : List UInt8
  deriving DecidableEq, Repr, Inhabited

namespace Path

def separator : UInt8 := 0x2F

def dot : UInt8 := 0x2E

/-- One component of a path. A dot counts only at the start of a relative path. -/
inductive Component where
  | root
  | current
  | parent
  | name (name : FileName)
  deriving DecidableEq, Repr

def ofString (text : String) : Path := ⟨Utf8.encode text⟩

/-- The path as text; ill-formed pieces are replaced. -/
def display (p : Path) : String := String.ofList (Utf8.decodeLossy p.bytes)

/-- Cuts bytes at every separator. -/
def pieces : List UInt8 → List FileName
  | [] => [[]]
  | byte :: rest =>
    if byte = separator then [] :: pieces rest
    else match pieces rest with
      | piece :: more => (byte :: piece) :: more
      | [] => [[byte]]

def isAbsolute (p : Path) : Bool := p.bytes.head? = some separator

/-- The component that a piece stands for inside a path; empty pieces and dots stand for none. -/
def component? (piece : FileName) : Option Component :=
  if piece = [] ∨ piece = [dot] then none
  else if piece = [dot, dot] then some .parent
  else some (.name piece)

def components (p : Path) : List Component :=
  let parts := pieces p.bytes
  let inner := parts.filterMap component?
  if p.isAbsolute then .root :: inner
  else if parts.head? = some [dot] then .current :: inner
  else inner

/-- The name in the last component, if that is a name. -/
def fileName? (p : Path) : Option FileName :=
  match p.components.getLast? with
  | some (.name name) => some name
  | _ => none

/-- A file name cut at its last dot, when that is not its first byte; the part behind the dot is the extension. -/
def splitName (name : FileName) : FileName × Option FileName :=
  let extension := (name.reverse.takeWhile (· ≠ dot)).reverse
  let stem := ((name.reverse.dropWhile (· ≠ dot)).drop 1).reverse
  if stem = [] then (name, none) else (stem, some extension)

def fileStem? (p : Path) : Option FileName := p.fileName?.map fun name => (splitName name).1

def extension? (p : Path) : Option FileName := p.fileName?.bind fun name => (splitName name).2

/-- Appends one path to another; an absolute one takes its place. -/
def join (base tail : Path) : Path :=
  if tail.isAbsolute then tail
  else if base.bytes = [] ∨ base.bytes.getLast? = some separator then ⟨base.bytes ++ tail.bytes⟩
  else ⟨base.bytes ++ separator :: tail.bytes⟩

/-- The bytes of components written with single separators. -/
def ofComponents : List Component → Path
  | [] => ⟨[]⟩
  | .root :: rest => ⟨separator :: (ofComponents rest).bytes⟩
  | [.current] => ⟨[dot]⟩
  | [.parent] => ⟨[dot, dot]⟩
  | [.name name] => ⟨name⟩
  | .current :: rest => ⟨dot :: separator :: (ofComponents rest).bytes⟩
  | .parent :: rest => ⟨dot :: dot :: separator :: (ofComponents rest).bytes⟩
  | .name name :: rest => ⟨name ++ separator :: (ofComponents rest).bytes⟩

/-- The path without its last component; the root and the empty path have none. -/
def parent? (p : Path) : Option Path :=
  match p.components.getLast? with
  | none | some .root => none
  | some _ => some (ofComponents p.components.dropLast)

/-- The place of a component among others: the root, the dot, two dots, then names. -/
def Component.rank : Component → Nat
  | .root => 0
  | .current => 1
  | .parent => 2
  | .name _ => 3

/-- Bytes in lexicographic order. -/
def compareNames : FileName → FileName → Ordering
  | [], [] => .eq
  | [], _ :: _ => .lt
  | _ :: _, [] => .gt
  | a :: as, b :: bs => if a < b then .lt else if b < a then .gt else compareNames as bs

def compareComponent : Component → Component → Ordering
  | .name a, .name b => compareNames a b
  | a, b => compare a.rank b.rank

def compareComponents : List Component → List Component → Ordering
  | [], [] => .eq
  | [], _ :: _ => .lt
  | _ :: _, [] => .gt
  | a :: as, b :: bs => (compareComponent a b).then (compareComponents as bs)

/-- The order of paths, component by component. -/
def compareTo (a b : Path) : Ordering := compareComponents a.components b.components

/-- Two paths with the same components. -/
def same (a b : Path) : Bool := a.components = b.components

end Path
end ScriptBridge
