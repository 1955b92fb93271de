import Mathlib.Data.List.Basic
import ScriptBridge.Files.Path

/-!
# The order of paths

Paths are compared component by component, and components by their kind and then by their bytes. This is a linear order
on lists of components; as an order of paths it does not tell apart those that are written differently but have the
same components.
-/
namespace ScriptBridge.Path
open Std (TransCmp LawfulEqCmp OrientedCmp ReflCmp)

/-- The bytes of a component that is a name. -/
def Component.bytes : Component → FileName
  | .name own => own
  | _ => []

theorem compareNames_eq (first second : FileName) : compareNames first second = compare first second := by
  change compareNames first second = List.compareLex compare first second
  fun_induction compareNames first second with
  | case1 | case2 | case3 => rfl
  | case4 a as b bs less =>
    have before : compare a b = .lt := Std.compare_eq_lt.mpr less
    rw [List.compareLex_cons_cons, before]
    rfl
  | case5 a as b bs _ more =>
    have behind : compare a b = .gt := Std.compare_eq_gt.mpr more
    rw [List.compareLex_cons_cons, behind]
    rfl
  | case6 a as b bs notLess notMore ih =>
    have same : a = b := UInt8.le_antisymm (UInt8.not_lt.mp notMore) (UInt8.not_lt.mp notLess)
    rw [List.compareLex_cons_cons, Std.compare_eq_iff_eq.mpr same, ih]
    rfl

/-- Components are compared by their kind, and those of one kind by their bytes. -/
theorem compareComponent_eq :
    compareComponent = compareLex (compareOn Component.rank) (compareOn Component.bytes) := by
  funext first second
  cases first <;> cases second
  case name.name own other => exact compareNames_eq own other
  all_goals rfl

theorem compareComponents_eq : compareComponents = List.compareLex compareComponent := by
  funext first second
  fun_induction compareComponents first second with
  | case1 | case2 | case3 => rfl
  | case4 a as b bs ih => rw [List.compareLex_cons_cons, ih]

instance : TransCmp compareComponent := by
  rw [compareComponent_eq]
  infer_instance

instance : LawfulEqCmp compareComponent where
  compare_self := ReflCmp.compare_self
  eq_of_compare {first second} same := by
    rw [compareComponent_eq] at same
    obtain ⟨kinds, bytes⟩ := Ordering.then_eq_eq.mp same
    have kinds : first.rank = second.rank := Std.compare_eq_iff_eq.mp kinds
    have bytes : first.bytes = second.bytes := Std.compare_eq_iff_eq.mp bytes
    cases first <;> cases second
    case name.name own other => exact congrArg Component.name bytes
    all_goals first | rfl | cases kinds

instance : TransCmp compareComponents := by
  rw [compareComponents_eq]
  infer_instance

instance : LawfulEqCmp compareComponents := by
  rw [compareComponents_eq]
  infer_instance

instance : TransCmp compareTo where
  eq_swap := by
    intro first second
    rw [compareTo, compareTo]
    exact OrientedCmp.eq_swap
  isLE_trans := by
    intro first second third early late
    rw [compareTo] at early late ⊢
    exact TransCmp.isLE_trans early late

variable {first second third : Path}

/-- Paths stand at one place of the order exactly when they have the same components. -/
theorem compareTo_eq_eq_iff : first.compareTo second = .eq ↔ first.components = second.components := by
  rw [compareTo]
  exact LawfulEqCmp.compare_eq_iff_eq

theorem compareTo_ne_gt_trans (early : (first.compareTo second != .gt) = true)
    (late : (second.compareTo third != .gt) = true) : (first.compareTo third != .gt) = true := by
  simp only [bne_iff_ne, ne_eq, Ordering.ne_gt_iff_isLE] at early late ⊢
  exact TransCmp.isLE_trans early late

theorem compareTo_ne_gt_total (first second : Path) :
    ((first.compareTo second != .gt) || (second.compareTo first != .gt)) = true := by
  have turned : second.compareTo first = (first.compareTo second).swap := OrientedCmp.eq_swap
  rw [turned]
  cases first.compareTo second <;> rfl

/-- Paths in order are strictly in order unless they have the same components. -/
theorem compareTo_eq_lt_of_ne (ordered : (first.compareTo second != .gt) = true)
    (different : first.components ≠ second.components) : first.compareTo second = .lt := by
  cases place : first.compareTo second with
  | lt => rfl
  | eq => exact absurd (compareTo_eq_eq_iff.mp place) different
  | gt =>
    rw [place] at ordered
    cases ordered

/-- Strictly ascending lists of the same paths are equal. -/
theorem eq_of_ascending {paths others : List Path} (ascending : paths.Pairwise fun a b => a.compareTo b = .lt)
    (otherwise : others.Pairwise fun a b => a.compareTo b = .lt) (same : ∀ path, path ∈ paths ↔ path ∈ others) :
    paths = others := by
  have apart : ∀ {given : List Path}, given.Pairwise (fun a b => a.compareTo b = .lt) → given.Nodup := by
    intro given ordered
    refine ordered.imp fun less => ?_
    rintro rfl
    rw [compareTo_eq_eq_iff.mpr rfl] at less
    cases less
  have permuted := (List.perm_ext_iff_of_nodup (apart ascending) (apart otherwise)).mpr same
  refine permuted.eq_of_pairwise (fun a b _ _ before after => ?_) ascending otherwise
  have around := TransCmp.lt_trans before after
  rw [compareTo_eq_eq_iff.mpr rfl] at around
  cases around

end ScriptBridge.Path
