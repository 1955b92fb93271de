import Mathlib.Data.List.Perm.Basic
import ScriptBridge.Proofs.ByteOrder
import ScriptBridge.Proofs.Keymap.SectionOrder

/-!
# What the sections hold

The bindings of a keymap fall into two groups by their flag, and each group makes up one section: nothing of a binding
without a key, and one line of any other. The lines of a section are put in order, and it does not matter that two
bindings may have lines that read the same; each line still stands for a binding of its own. A script reaches no keymap
that a history of registrations does not lead to as well, so its bindings have different names.
-/
namespace ScriptBridge

/-- Whatever a script has done, its records are those that a history of registrations leaves. -/
theorem ScriptState.Reachable.exists_history {identity : ScriptId} {script : ScriptState}
    (reachable : script.Reachable identity) :
    ∃ history : History, script.keymap.records = (Keymap.ofHistory identity history).records ∧
      script.keymap.lastId = (Keymap.ofHistory identity history).lastId := by
  induction reachable with
  | fresh => exact ⟨[], rfl, rfl⟩
  | @register script before request callback ih =>
    obtain ⟨history, records, lastId⟩ := ih
    have drawn : script.keymap.nextId = (Keymap.ofHistory identity history).nextId :=
      congrArg (· + 1) lastId
    have named : script.keymap.effectiveName request = (Keymap.ofHistory identity history).effectiveName request := by
      rw [Keymap.effectiveName, Keymap.effectiveName, drawn]
    have left : script.keymap.recordOf request = (Keymap.ofHistory identity history).recordOf request := by
      rw [Keymap.recordOf, Keymap.recordOf, named, drawn, before.coherent.keymap_identity, Keymap.identity_ofHistory]
    refine ⟨history ++ [⟨request, callback⟩], ?_, ?_⟩
    · rw [Keymap.ofHistory_concat, ScriptState.register, Keymap.records_register, Keymap.records_register, records, named, left]
    · rw [Keymap.ofHistory_concat, ScriptState.register, Keymap.lastId_register, Keymap.lastId_register, drawn]
  | observe _ name format token ih => exact ih
  | @answer script _ event host state ih =>
    have same := script.answer_sameRegistrations event host state
    obtain ⟨history, records, lastId⟩ := ih
    exact ⟨history, same.records.trans records, same.lastId.trans lastId⟩

theorem ScriptState.Reachable.nodup_bindings {identity : ScriptId} {script : ScriptState}
    (reachable : script.Reachable identity) : script.keymap.bindings.Nodup := by
  obtain ⟨history, records, _⟩ := reachable.exists_history
  rw [Keymap.bindings, records]
  exact (Keymap.nodup_names identity history).of_map

/-- The section with a flag, if it is there. -/
def SectionPair.withFlag (compiled : SectionPair) : Bool → Option InputSection
  | true => compiled.builtin
  | false => compiled.regular

/-- The lines of the section with a flag; none when it is absent. -/
def SectionPair.linesWith (compiled : SectionPair) (builtin : Bool) : List String :=
  (compiled.withFlag builtin).elim [] InputSection.lines

def Binding.HasLine (binding : Binding) (line : String) : Prop := binding.input = some line

theorem forall₂_hasLine (bindings : List Binding) :
    List.Forall₂ Binding.HasLine (bindings.filter (·.input.isSome)) (bindings.filterMap (·.input)) := by
  induction bindings with
  | nil => exact .nil
  | cons binding rest ih =>
    cases input : binding.input with
    | none => simpa [input] using ih
    | some line => simpa [input, Binding.HasLine] using ih

/-- In whatever order their lines are put, each line stands for one of the bindings. -/
theorem exists_sources {bindings : List Binding} {lines : List String}
    (permuted : lines.Perm (bindings.filterMap (·.input))) :
    ∃ sources : List Binding, sources.Perm (bindings.filter (·.input.isSome)) ∧
      List.Forall₂ Binding.HasLine sources lines := by
  have linked : Relation.Comp (List.Forall₂ Binding.HasLine) List.Perm (bindings.filter (·.input.isSome)) lines :=
    ⟨_, forall₂_hasLine bindings, permuted.symm⟩
  rw [List.forall₂_comp_perm_eq_perm_comp_forall₂] at linked
  obtain ⟨sources, rearranged, each⟩ := linked
  exact ⟨sources, rearranged.symm, each⟩

namespace Keymap

theorem withFlag_compile (keymap : Keymap) (builtin : Bool) :
    keymap.compile.withFlag builtin =
      if keymap.inputLines builtin = [] then none else some (keymap.sectionWith builtin) := by
  rw [compile_eq]
  cases builtin <;> rfl

theorem linesWith_compile (keymap : Keymap) (builtin : Bool) :
    keymap.compile.linesWith builtin = sortLines (keymap.inputLines builtin) := by
  rw [SectionPair.linesWith, withFlag_compile]
  by_cases vacant : keymap.inputLines builtin = []
  · rw [if_pos vacant, vacant, Option.elim_none]
    exact List.eq_nil_of_length_eq_zero (sortLines_perm []).length_eq |>.symm
  · rw [if_neg vacant]
    rfl

theorem inputLines_eq_nil_iff {keymap : Keymap} {builtin : Bool} :
    keymap.inputLines builtin = [] ↔
      ∀ binding ∈ keymap.bindings, binding.builtin = builtin → binding.input = none := by
  rw [inputLines, List.filterMap_eq_nil_iff]
  simp only [List.mem_filter, decide_eq_true_eq, and_imp]

/-- What the sections of a keymap come to under an identity. -/
structure CompilesTo (identity : ScriptId) (keymap : Keymap) : Prop where
  /-- The section with a flag is absent exactly when no binding with this flag has an input line. -/
  absent_iff : ∀ builtin, keymap.compile.withFlag builtin = none ↔
    ∀ binding ∈ keymap.bindings, binding.builtin = builtin → binding.input = none
  /-- All but the lines of a section that is there comes from the identity and the flag. -/
  derived : ∀ builtin s, keymap.compile.withFlag builtin = some s →
    s.name = "py_" ++ identity.name ++ "_kbs" ++ (if builtin then "_builtin" else "") ∧
    s.location = "py_" ++ identity.name ++ "_bs" ∧ s.owner = identity.name ∧ s.builtin = builtin
  /-- Its lines are those of the bindings with the flag, each as often as there are bindings that have it, -/
  lines : ∀ builtin s, keymap.compile.withFlag builtin = some s →
    s.lines.Perm ((keymap.bindings.filter (·.builtin = builtin)).filterMap (·.input))
  /-- and their bytes ascend. -/
  ascending : ∀ builtin s, keymap.compile.withFlag builtin = some s →
    s.lines.Pairwise fun earlier later => Utf8.encode earlier ≤ Utf8.encode later
  /-- No binding occurs twice, and each line of a section stands for a binding with its flag so that the bindings with a
  key are each stood for exactly once, and those without a key not at all. -/
  attributed : keymap.bindings.Nodup ∧ ∃ sources : Bool → List Binding,
    (sources true ++ sources false).Perm (keymap.bindings.filter (·.key.isSome)) ∧
    ∀ builtin, (∀ binding ∈ sources builtin, binding.builtin = builtin) ∧
      List.Forall₂ Binding.HasLine (sources builtin) (keymap.compile.linesWith builtin)
  /-- The sections that are there are listed, -/
  listed : ∀ s, s ∈ keymap.compile.sections ↔ ∃ builtin, keymap.compile.withFlag builtin = some s
  /-- the builtin one in front of the regular one. -/
  ordered : keymap.compile.sections.Pairwise fun earlier later => earlier.builtin = true ∧ later.builtin = false

/-- The bindings with a key, each line of the sections standing for one of them. -/
theorem exists_attribution {identity : ScriptId} {script : ScriptState} (reachable : script.Reachable identity) :
    ∃ sources : Bool → List Binding,
      (sources true ++ sources false).Perm (script.keymap.bindings.filter (·.key.isSome)) ∧
      ∀ builtin, (∀ binding ∈ sources builtin, binding.builtin = builtin) ∧
        List.Forall₂ Binding.HasLine (sources builtin) (script.keymap.compile.linesWith builtin) := by
  have each : ∀ builtin, ∃ sources : List Binding,
      sources.Perm ((script.keymap.bindings.filter (·.builtin = builtin)).filter (·.input.isSome)) ∧
      List.Forall₂ Binding.HasLine sources (script.keymap.compile.linesWith builtin) := by
    intro builtin
    rw [linesWith_compile]
    exact exists_sources (sortLines_perm _)
  choose sources chosen stands using each
  refine ⟨sources, ?_, fun builtin => ⟨?_, stands builtin⟩⟩
  · have keyed : script.keymap.bindings.filter (·.key.isSome) = script.keymap.bindings.filter (·.input.isSome) := by
      refine List.filter_congr fun binding filed => ?_
      rw [reachable.coherent.input_eq binding filed, ScriptState.lineOf, Option.isSome_map]
    have split := List.filter_append_perm (·.builtin) (script.keymap.bindings.filter (·.input.isSome))
    rw [keyed]
    refine ((chosen true).append (chosen false)).trans (.trans (.of_eq ?_) split)
    simp [List.filter_filter, Bool.and_comm]
  · intro binding member
    have grouped := (chosen builtin).mem_iff.mp member
    exact of_decide_eq_true (List.mem_filter.mp (List.mem_filter.mp grouped).1).2

/-- The sections hold one line for each binding with a key, in the section with its flag, and nothing else; they are in
byte order and derived from the identity. -/
theorem compiles_exactly {identity : ScriptId} {script : ScriptState} (reachable : script.Reachable identity) :
    script.keymap.CompilesTo identity := by
  have present : ∀ builtin s, script.keymap.compile.withFlag builtin = some s →
      script.keymap.sectionWith builtin = s := by
    intro builtin s there
    rw [withFlag_compile] at there
    split at there
    · cases there
    · exact Option.some.inj there
  constructor
  case absent_iff =>
    intro builtin
    rw [withFlag_compile, ite_eq_left_iff, ← inputLines_eq_nil_iff]
    simp
  case derived =>
    intro builtin s there
    obtain rfl := present builtin s there
    simp only [sectionWith, reachable.coherent.keymap_identity]
    refine ⟨?_, rfl, trivial, trivial⟩
    cases builtin <;> simp [ScriptId.builtinSectionName, ScriptId.sectionName, String.append_assoc]
  case lines =>
    intro builtin s there
    obtain rfl := present builtin s there
    exact sortLines_perm _
  case ascending =>
    intro builtin s there
    obtain rfl := present builtin s there
    exact (sortLines_pairwise _).imp Utf8.encode_le_iff.mpr
  case attributed => exact ⟨reachable.nodup_bindings, exists_attribution reachable⟩
  case listed =>
    intro s
    rw [SectionPair.sections, List.mem_append, Option.mem_toList, Option.mem_toList, Bool.exists_bool, or_comm]
    rfl
  case ordered =>
    rw [compile_eq]
    by_cases builtin : script.keymap.inputLines true = [] <;> by_cases regular : script.keymap.inputLines false = [] <;>
      simp [SectionPair.sections, sectionWith, builtin, regular]

/-- Two bindings whose lines read the same, because the key of one and the name of the other hold what stands between them,
give two lines; a third gives the only line of the builtin section, and a fourth, without a key, gives none. -/
theorem compiles_exactly_twins :
    let twin : String := "a script-binding python/demo___x script-binding python/demo___y"
    let script := (((ScriptState.fresh ⟨"demo"⟩).register
      { key := some "a", name := some "x script-binding python/demo___y" } none).register
      { key := some "a script-binding python/demo___x", name := some "y" } none |>.register
      { key := some "b", name := some "z", builtin := true } none).register { name := some "w", builtin := true } none
    script.Reachable ⟨"demo"⟩ ∧ script.keymap.CompilesTo ⟨"demo"⟩ ∧
    script.keymap.compile.linesWith false = [twin, twin] ∧
    script.keymap.compile.linesWith true = ["b script-binding python/demo___z"] := by
  intro twin script
  have reachable : script.Reachable ⟨"demo"⟩ :=
    .register (.register (.register (.register .fresh _ none) _ none) _ none) _ none
  have regular : script.keymap.inputLines false = [twin, twin] := by decide +kernel
  have builtin : script.keymap.inputLines true = ["b script-binding python/demo___z"] := by decide +kernel
  refine ⟨reachable, compiles_exactly reachable, ?_, ?_⟩
  · rw [linesWith_compile, regular]
    exact List.perm_replicate.mp (sortLines_perm (List.replicate 2 twin))
  · rw [linesWith_compile, builtin]
    exact List.perm_singleton.mp (sortLines_perm _)

end Keymap

end ScriptBridge
