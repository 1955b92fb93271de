import ScriptBridge.Proofs.Keymap.Compilation

/-!
# The text of a section

The host is handed the lines of a section as one text, each behind a line feed. Cutting the text at its line feeds gives
the lines back exactly when no line holds a line feed itself; and since a line is made of a key, an identity and a name
that nobody checks, this comes down to those three. Among sections without such lines the text determines the lines.
-/
namespace ScriptBridge

/-- The pieces of a text between its line feeds. -/
def cutAtLineFeeds (text : String) : List String := (text.toList.splitOn '\n').map String.ofList

theorem not_mem_of_mem_splitOn {α : Type} [BEq α] [LawfulBEq α] {separator : α} {text piece : List α}
    (member : piece ∈ text.splitOn separator) : separator ∉ piece := by
  induction text generalizing piece with
  | nil =>
    rw [List.splitOn_nil, List.mem_singleton] at member
    rw [member]
    exact List.not_mem_nil
  | cons c rest ih =>
    rw [List.splitOn_cons_eq_if_modifyHead] at member
    obtain ⟨first, others, pieces⟩ := List.exists_cons_of_ne_nil (List.splitOn_ne_nil separator rest)
    have inner : ∀ other ∈ first :: others, separator ∉ other := fun other listed => ih (pieces ▸ listed)
    split at member
    next cut =>
      rcases List.mem_cons.mp member with rfl | later
      · exact List.not_mem_nil
      · exact ih later
    next uncut =>
      rw [pieces, List.modifyHead_cons] at member
      rcases List.mem_cons.mp member with rfl | later
      · intro inside
        rcases List.mem_cons.mp inside with rfl | behind
        · exact uncut (beq_self_eq_true _)
        · exact inner first List.mem_cons_self behind
      · exact inner piece (List.mem_cons_of_mem _ later)

theorem InputSection.toList_contents {s : InputSection} (some : s.lines ≠ []) :
    s.contents.toList = ['\n'].intercalate ([] :: s.lines.map String.toList) := by
  rw [List.intercalate_cons_of_ne_nil (mt List.map_eq_nil_iff.mp some), contents, String.toList_append,
    String.toList_intercalate]
  rfl

/-- The text of a section with lines is cut into nothing and the lines exactly when no line is cut itself. -/
theorem InputSection.cut_contents_iff {s : InputSection} (some : s.lines ≠ []) :
    cutAtLineFeeds s.contents = "" :: s.lines ↔ ∀ line ∈ s.lines, '\n' ∉ line.toList := by
  rw [cutAtLineFeeds]
  constructor
  · intro cut line listed
    have piece : line ∈ (s.contents.toList.splitOn '\n').map String.ofList :=
      cut ▸ List.mem_cons_of_mem _ listed
    obtain ⟨characters, between, rfl⟩ := List.mem_map.mp piece
    rw [String.toList_ofList]
    exact not_mem_of_mem_splitOn between
  · intro whole
    rw [toList_contents some, List.splitOn_intercalate]
    · simp [Function.comp_def]
    · intro piece listed
      rcases List.mem_cons.mp listed with rfl | inside
      · exact List.not_mem_nil
      · obtain ⟨line, member, rfl⟩ := List.mem_map.mp inside
        exact whole line member
    · exact List.cons_ne_nil _ _

/-- A line holds a line feed exactly when its key, its identity or its name does. -/
theorem lineFeed_mem_inputLine_iff {identity : ScriptId} {key name : String} :
    '\n' ∈ (inputLine key ⟨identity, name⟩).toList ↔
      '\n' ∈ key.toList ∨ '\n' ∈ identity.name.toList ∨ '\n' ∈ name.toList := by
  have joint : '\n' ∉ " script-binding python/".toList := by decide
  have separator : '\n' ∉ "___".toList := by decide
  simp only [inputLine_eq, String.toList_append, List.mem_append, joint, separator, or_false, or_assoc]

namespace ScriptState

/-- The section is one of those that the script compiles. -/
def Compiles (script : ScriptState) (s : InputSection) : Prop := s ∈ script.keymap.compile.sections

theorem Compiles.lines_ne_nil {script : ScriptState} {s : InputSection} (compiled : script.Compiles s) :
    s.lines ≠ [] := by
  obtain ⟨builtin, some, rfl⟩ := Keymap.mem_sections_iff.mp compiled
  intro vacant
  exact some (List.nil_perm.mp (vacant ▸ sortLines_perm _))

theorem Compiles.mem_lines_iff {script : ScriptState} {s : InputSection} (compiled : script.Compiles s) {line : String} :
    line ∈ s.lines ↔ ∃ binding ∈ script.keymap.bindings, binding.builtin = s.builtin ∧ binding.input = some line := by
  obtain ⟨builtin, _, rfl⟩ := Keymap.mem_sections_iff.mp compiled
  rw [← Keymap.mem_inputLines_iff]
  exact (sortLines_perm _).mem_iff

/-- Nothing that goes into the lines of a section holds a line feed: neither the identity, nor the key or the name of any
binding with a key and the section's flag. -/
def FreeOfLineFeeds (identity : ScriptId) (script : ScriptState) (s : InputSection) : Prop :=
  '\n' ∉ identity.name.toList ∧
  ∀ binding ∈ script.keymap.bindings, binding.builtin = s.builtin → ∀ key, binding.key = some key →
    '\n' ∉ key.toList ∧ '\n' ∉ binding.name.toList

/-- No line is cut in two unless the identity, or a key or name in the section, has a newline. -/
theorem Compiles.lines_uncut_iff {identity : ScriptId} {script : ScriptState} (reachable : script.Reachable identity)
    {s : InputSection} (compiled : script.Compiles s) :
    (∀ line ∈ s.lines, '\n' ∉ line.toList) ↔ FreeOfLineFeeds identity script s := by
  have input : ∀ binding ∈ script.keymap.bindings, ∀ key, binding.key = some key →
      binding.input = some (inputLine key ⟨identity, binding.name⟩) := by
    intro binding filed key keyed
    rw [reachable.coherent.input_eq binding filed, lineOf, keyed, Option.map_some]
  constructor
  · intro whole
    have clean : ∀ binding ∈ script.keymap.bindings, binding.builtin = s.builtin → ∀ key, binding.key = some key →
        '\n' ∉ key.toList ∧ '\n' ∉ identity.name.toList ∧ '\n' ∉ binding.name.toList := by
      intro binding filed flag key keyed
      have uncut := whole _ (compiled.mem_lines_iff.mpr ⟨binding, filed, flag, input binding filed key keyed⟩)
      simpa only [lineFeed_mem_inputLine_iff, not_or] using uncut
    refine ⟨?_, fun binding filed flag key keyed => ?_⟩
    · obtain ⟨line, listed⟩ := List.exists_mem_of_ne_nil _ compiled.lines_ne_nil
      obtain ⟨binding, filed, flag, shown⟩ := compiled.mem_lines_iff.mp listed
      rw [reachable.coherent.input_eq binding filed, lineOf, Option.map_eq_some_iff] at shown
      obtain ⟨key, keyed, _⟩ := shown
      exact (clean binding filed flag key keyed).2.1
    · obtain ⟨keyClean, _, nameClean⟩ := clean binding filed flag key keyed
      exact ⟨keyClean, nameClean⟩
  · rintro ⟨identityClean, clean⟩ line listed
    obtain ⟨binding, filed, flag, shown⟩ := compiled.mem_lines_iff.mp listed
    rw [reachable.coherent.input_eq binding filed, lineOf, Option.map_eq_some_iff] at shown
    obtain ⟨key, keyed, rfl⟩ := shown
    obtain ⟨keyClean, nameClean⟩ := clean binding filed flag key keyed
    rw [lineFeed_mem_inputLine_iff]
    simp only [keyClean, identityClean, nameClean, or_self, not_false_eq_true]

/-- The text of a compiled section, cut at its line feeds, is nothing followed by the section's lines exactly when no line
feed goes into these; and compiled sections of whatever scripts have the same lines if their texts are the same and no
line holds a line feed. -/
theorem section_text_cut_iff :
    (∀ (identity : ScriptId) (script : ScriptState), script.Reachable identity → ∀ s, script.Compiles s →
      (cutAtLineFeeds s.contents = "" :: s.lines ↔ FreeOfLineFeeds identity script s)) ∧
    ∀ one other : ScriptState, ∀ s t : InputSection, one.Compiles s → other.Compiles t →
      (∀ line ∈ s.lines, '\n' ∉ line.toList) → (∀ line ∈ t.lines, '\n' ∉ line.toList) →
      s.contents = t.contents → s.lines = t.lines := by
  constructor
  · intro identity script reachable s compiled
    rw [InputSection.cut_contents_iff compiled.lines_ne_nil]
    exact compiled.lines_uncut_iff reachable
  · intro one other s t compiled otherCompiled whole otherWhole same
    have cut := (InputSection.cut_contents_iff compiled.lines_ne_nil).mpr whole
    have otherCut := (InputSection.cut_contents_iff otherCompiled.lines_ne_nil).mpr otherWhole
    rw [same, otherCut] at cut
    exact (List.cons.inj cut).2.symm

/-- A key with a line feed spoils the text of the regular section and not that of the builtin one; and that text gives the
lines of a regular section of another script with the same binding. -/
theorem section_text_cut_iff_spoiled :
    let script := ((fresh ⟨"demo"⟩).register { key := some "a\nb", name := some "n" } none).register
      { key := some "c", name := some "m", builtin := true } none
    let other := (fresh ⟨"demo"⟩).register { key := some "c", name := some "m" } none
    let spoiled := script.keymap.sectionWith false
    let whole := script.keymap.sectionWith true
    let same := other.keymap.sectionWith false
    script.Reachable ⟨"demo"⟩ ∧ script.Compiles spoiled ∧ script.Compiles whole ∧ other.Compiles same ∧
    cutAtLineFeeds spoiled.contents ≠ "" :: spoiled.lines ∧ cutAtLineFeeds whole.contents = "" :: whole.lines ∧
    whole.contents = same.contents ∧ whole.lines = same.lines := by
  intro script other spoiled whole same
  have reachable : script.Reachable ⟨"demo"⟩ := .register (.register .fresh _ none) _ none
  have compiles : ∀ (current : ScriptState) (builtin : Bool), current.keymap.inputLines builtin ≠ [] →
      current.Compiles (current.keymap.sectionWith builtin) := fun _ builtin lines =>
    Keymap.mem_sections_iff.mpr ⟨builtin, lines, rfl⟩
  have spoiledCompiled : script.Compiles spoiled := compiles script false (by decide +kernel)
  have wholeCompiled : script.Compiles whole := compiles script true (by decide +kernel)
  have sameCompiled : other.Compiles same := compiles other false (by decide +kernel)
  have free : FreeOfLineFeeds ⟨"demo"⟩ script whole := by
    refine ⟨by decide +kernel, fun binding filed flag key keyed => ?_⟩
    rcases List.mem_pair.mp filed with rfl | rfl
    · cases flag
    · cases keyed
      decide +kernel
  have sameFree : FreeOfLineFeeds ⟨"demo"⟩ other same := by
    refine ⟨by decide +kernel, fun binding filed flag key keyed => ?_⟩
    obtain rfl := List.mem_singleton.mp filed
    cases keyed
    decide +kernel
  have notFree : ¬ FreeOfLineFeeds ⟨"demo"⟩ script spoiled := by
    rintro ⟨_, clean⟩
    exact (clean _ List.mem_cons_self rfl "a\nb" rfl).1 (by decide +kernel)
  have line : script.keymap.inputLines true = other.keymap.inputLines false := by decide +kernel
  have contents : whole.contents = same.contents :=
    congrArg (fun lines => "\n" ++ String.intercalate "\n" (sortLines lines)) line
  obtain ⟨cutIff, determined⟩ := section_text_cut_iff
  refine ⟨reachable, spoiledCompiled, wholeCompiled, sameCompiled, ?_, ?_, contents, ?_⟩
  · rw [Ne, cutIff ⟨"demo"⟩ script reachable spoiled spoiledCompiled]
    exact notFree
  · exact (cutIff ⟨"demo"⟩ script reachable whole wholeCompiled).mpr free
  · have uncut := (wholeCompiled.lines_uncut_iff reachable).mpr free
    have sameUncut := (sameCompiled.lines_uncut_iff (.register .fresh _ none)).mpr sameFree
    exact determined script other whole same wholeCompiled sameCompiled uncut sameUncut contents

end ScriptState
end ScriptBridge
