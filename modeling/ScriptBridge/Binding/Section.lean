import ScriptBridge.Binding.Keymap

/-!
# Input sections of a script

The input lines of a keymap make up two sections: the builtin bindings, which the user may override, and the regular
ones. A section without lines is absent. The lines of a section are in byte order.
-/
namespace ScriptBridge

namespace ScriptId

def builtinSectionName (identity : ScriptId) : String := "py_" ++ identity.name ++ "_kbs_builtin"

def sectionName (identity : ScriptId) : String := "py_" ++ identity.name ++ "_kbs"

/-- The location that both sections give. -/
def sectionLocation (identity : ScriptId) : String := "py_" ++ identity.name ++ "_bs"

end ScriptId

structure SectionPair where
  builtin : Option InputSection
  regular : Option InputSection
  deriving DecidableEq, Repr

namespace SectionPair

def isEmpty (compiled : SectionPair) : Bool := compiled.builtin.isNone && compiled.regular.isNone

/-- The sections that are present, the builtin one first. -/
def sections (compiled : SectionPair) : List InputSection :=
  compiled.builtin.toList ++ compiled.regular.toList

/-- Defines one section and puts it before others. -/
def applyOne (s : InputSection) : Program Unit := do
  Program.ask (.defineSection s)
  Program.ask (.enableSection s.name .top)

def apply (compiled : SectionPair) : Program Unit := compiled.sections.forM applyOne

end SectionPair

/-- Lines in byte order. -/
def sortLines (lines : List String) : List String := lines.mergeSort fun a b => decide (a ≤ b)

namespace Keymap

/-- The input lines of the bindings with a flag, in the order of their ids. -/
def inputLines (keymap : Keymap) (builtin : Bool) : List String :=
  (keymap.bindings.filter (·.builtin = builtin)).filterMap (·.input)

/-- The section of the bindings with a flag; absent when it would have no lines. -/
def compileSection (keymap : Keymap) (name : String) (builtin : Bool) : Option InputSection :=
  let lines := keymap.inputLines builtin
  if lines.isEmpty then none
  else some
    { name := name
      location := keymap.identity.sectionLocation
      lines := sortLines lines
      builtin := builtin
      owner := keymap.identity.name }

def compile (keymap : Keymap) : SectionPair :=
  { builtin := keymap.compileSection keymap.identity.builtinSectionName true
    regular := keymap.compileSection keymap.identity.sectionName false }

end Keymap
end ScriptBridge
