import ScriptBridge.Proofs.Keymap.LatestCallback

/-!
# Sections and the order of registrations

Ids, options and the order in which bindings were registered do not show in the sections: the line of a binding is made
from its name and its key, its flag chooses the section, and the text of the lines decides their order. So two
histories that leave bindings of the same names, keys and flags lead to the same sections and to the same calls that hand
them over.
-/
namespace ScriptBridge
open Registration

/-- What a section can show of a binding: its name, its key and its flag. -/
def Binding.face (binding : Binding) : String × Option String × Bool := (binding.name, binding.key, binding.builtin)

/-- What a section can show of a registration under a name of its own. -/
def Registration.face? (registration : Registration) : Option (String × Option String × Bool) :=
  registration.request.name.map fun name => (name, registration.request.key, registration.request.builtin)

/-- The line in the sections with a flag that comes from a face. -/
def faceLine? (identity : ScriptId) (builtin : Bool) : String × Option String × Bool → Option String
  | (name, key, flag) => if flag = builtin then key.map fun key => inputLine key ⟨identity, name⟩ else none

theorem sortLines_perm (lines : List String) : (sortLines lines).Perm lines := List.mergeSort_perm lines _

theorem sortLines_pairwise (lines : List String) : (sortLines lines).Pairwise (· ≤ ·) := by
  have ordered : (sortLines lines).Pairwise fun a b => decide (a ≤ b) = true := by
    apply List.pairwise_mergeSort
    · intro a b c front back
      exact decide_eq_true (String.le_trans (of_decide_eq_true front) (of_decide_eq_true back))
    · intro a b
      simpa using String.le_total a b
  exact ordered.imp of_decide_eq_true

/-- Lines in byte order are determined by which lines they are and how often each occurs. -/
theorem sortLines_eq_of_perm {first second : List String} (same : first.Perm second) :
    sortLines first = sortLines second := by
  have permuted : (sortLines first).Perm (sortLines second) :=
    (sortLines_perm first).trans (same.trans (sortLines_perm second).symm)
  exact permuted.eq_of_pairwise (fun _ _ _ _ => String.le_antisymm) (sortLines_pairwise first)
    (sortLines_pairwise second)

namespace SectionPair

/-- The calls by which the sections are handed to the host: each is defined and then put before others. -/
def requests (compiled : SectionPair) : List HostRequest :=
  compiled.sections.flatMap fun s => [.defineSection s, .enableSection s.name .top]

theorem calls_apply (compiled : SectionPair) (host : Host) (state : host.State) :
    (compiled.apply.run host state).calls = compiled.requests := by
  rw [apply, requests]
  induction compiled.sections generalizing state with
  | nil => rfl
  | cons s rest ih =>
    simp only [List.forM_eq_forM, List.forM_cons, Program.run_bind, List.flatMap_cons] at ih ⊢
    rw [ih]
    rfl

end SectionPair

theorem ScriptState.calls_defineSections (script : ScriptState) (host : Host) (state : host.State) :
    (script.defineSections.run host state).calls = script.keymap.compile.requests := by
  simp only [defineSections, Program.run_bind, Program.run_pure, List.append_nil, SectionPair.calls_apply]

namespace Keymap

/-- Two keymaps hold bindings of the same faces, under whatever ids and in whatever order. -/
def SameFaces (first second : Keymap) : Prop :=
  ∀ face, face ∈ first.bindings.map Binding.face ↔ face ∈ second.bindings.map Binding.face

/-- The order of the bindings does not show in the sections, since their lines are sorted. -/
theorem compile_eq_of_perm {first second : Keymap} (identity : first.identity = second.identity)
    (lines : ∀ builtin, (first.inputLines builtin).Perm (second.inputLines builtin)) :
    first.compile = second.compile := by
  have sections : ∀ builtin, first.sectionWith builtin = second.sectionWith builtin := by
    intro builtin
    rw [sectionWith, sectionWith, identity, sortLines_eq_of_perm (lines builtin)]
  have vacant : ∀ builtin, first.inputLines builtin = [] ↔ second.inputLines builtin = [] := fun builtin =>
    ⟨fun empty => List.nil_perm.mp (empty ▸ lines builtin), fun empty => List.perm_nil.mp (empty ▸ lines builtin)⟩
  simp only [compile_eq, sections, vacant]

variable (identity : ScriptId) (history : History)

theorem inputLines_ofHistory (builtin : Bool) :
    (ofHistory identity history).inputLines builtin =
      ((ofHistory identity history).bindings.map Binding.face).filterMap (faceLine? identity builtin) := by
  rw [inputLines, List.filterMap_filter, List.filterMap_map]
  refine List.filterMap_congr fun binding listed => ?_
  have input : binding.input = binding.key.map fun key => inputLine key ⟨identity, binding.name⟩ := by
    rw [History.input_eq ((records_sublist identity history).subset listed)]
    simp only [inputLine_eq]
  simp only [Function.comp_apply, Binding.face, faceLine?, input, decide_eq_true_eq]
  rfl

theorem nodup_faces : ((ofHistory identity history).bindings.map Binding.face).Nodup := by
  have names := nodup_names identity history
  have projected : (ofHistory identity history).records.map Binding.name =
      ((ofHistory identity history).bindings.map Binding.face).map Prod.fst := by
    rw [List.map_map]
    rfl
  rw [projected] at names
  exact List.Nodup.of_map _ names

/-- Histories that leave bindings of the same faces lead to the same sections. -/
theorem compile_eq_of_sameFaces {identity : ScriptId} {first second : History}
    (same : SameFaces (ofHistory identity first) (ofHistory identity second)) :
    (ofHistory identity first).compile = (ofHistory identity second).compile := by
  have faces : ((ofHistory identity first).bindings.map Binding.face).Perm
      ((ofHistory identity second).bindings.map Binding.face) :=
    (List.perm_ext_iff_of_nodup (nodup_faces identity first) (nodup_faces identity second)).mpr same
  apply compile_eq_of_perm
  · rw [identity_ofHistory, identity_ofHistory]
  · intro builtin
    rw [inputLines_ofHistory, inputLines_ofHistory]
    exact faces.filterMap _

/-- When no name is given twice, every registration is still there. -/
theorem records_of_nodup_names {history : History} (distinct : history.names.Nodup) :
    (ofHistory identity history).records = history.records identity := by
  induction history using List.reverseRecOn with
  | nil => rfl
  | append_singleton history registration ih =>
    rw [History.names_concat, List.nodup_append] at distinct
    obtain ⟨earlier, _, apart⟩ := distinct
    have kept : (History.records identity history).filter (·.name ≠ registration.nameAt history.length) =
        History.records identity history := by
      rw [List.filter_eq_self]
      intro binding left
      have named : binding.name ∈ History.names history := by
        rw [← History.map_name_records identity]
        exact List.mem_map_of_mem left
      exact decide_eq_true (apart _ named _ (List.mem_singleton_self _))
    rw [records_ofHistory_concat, ih earlier, kept, History.records_concat]

end Keymap

namespace History

/-- Every registration has a name of its own, and no two have the same. -/
def NamedApart (history : History) : Prop :=
  (∀ registration ∈ history, registration.request.name.isSome = true) ∧
  (history.map fun registration => registration.request.name).Nodup

variable {history : History}

theorem map_some_names (named : ∀ registration ∈ history, registration.request.name.isSome = true) :
    history.names.map some = history.map fun registration => registration.request.name := by
  refine List.ext_getElem (by simp [names]) fun index inside other => ?_
  have within : index < history.length := by simpa only [List.length_map] using other
  have own := named history[index] (List.getElem_mem within)
  obtain ⟨name, chosen⟩ := Option.isSome_iff_exists.mp own
  simp only [names, List.getElem_map, List.getElem_mapIdx, nameAt, chosen, Option.getD_some]

theorem NamedApart.nodup_names (apart : history.NamedApart) : history.names.Nodup := by
  have distinct := apart.2
  rw [← map_some_names apart.1] at distinct
  exact List.Nodup.of_map _ distinct

theorem NamedApart.of_perm {other : History} (apart : history.NamedApart) (permuted : history.Perm other) :
    other.NamedApart :=
  ⟨fun registration member => apart.1 registration (permuted.mem_iff.mpr member),
    (permuted.map _).nodup_iff.mp apart.2⟩

/-- Such a history leaves each registration's own face, in whatever place it stands. -/
theorem NamedApart.mem_faces_iff (apart : history.NamedApart) (identity : ScriptId)
    {face : String × Option String × Bool} :
    face ∈ (Keymap.ofHistory identity history).bindings.map Binding.face ↔
      ∃ registration ∈ history, registration.face? = some face := by
  have filed : ∀ (index : Nat) (inside : index < history.length),
      (history[index]).face? = some (history[index].recordAt identity index).face := by
    intro index inside
    obtain ⟨name, chosen⟩ := Option.isSome_iff_exists.mp (apart.1 history[index] (List.getElem_mem _))
    simp only [Registration.face?, Binding.face, recordAt, nameAt, chosen, Option.map_some, Option.getD_some]
  rw [Keymap.bindings, Keymap.records_of_nodup_names identity apart.nodup_names, records, List.mem_map]
  constructor
  · rintro ⟨binding, left, rfl⟩
    obtain ⟨index, inside, rfl⟩ := List.mem_mapIdx.mp left
    exact ⟨history[index], List.getElem_mem _, filed index inside⟩
  · rintro ⟨registration, member, shown⟩
    obtain ⟨index, inside, rfl⟩ := List.mem_iff_getElem.mp member
    rw [filed index inside, Option.some.injEq] at shown
    exact ⟨_, List.mem_mapIdx.mpr ⟨index, inside, rfl⟩, shown⟩

end History

namespace ScriptState

/-- Two scripts compile the same sections and hand them to the host by the same calls, in the same order. -/
structure SameSections (first second : ScriptState) : Prop where
  compiled : first.keymap.compile = second.keymap.compile
  calls : ∀ (host : Host) (state : host.State),
    (first.defineSections.run host state).calls = first.keymap.compile.requests ∧
    (second.defineSections.run host state).calls = first.keymap.compile.requests

/-- The sections of a script are determined by the names, keys and flags of the bindings that its registrations leave in
the end. This holds in particular for the registrations of a history, under names of their own that all differ, in any
other order. -/
theorem sections_forget_history (identity : ScriptId) (first second : History) :
    let one := ofHistory identity first
    let other := ofHistory identity second
    (Keymap.SameFaces one.keymap other.keymap → SameSections one other) ∧
    (first.NamedApart → first.Perm second → SameSections one other) := by
  intro one other
  have forgets : Keymap.SameFaces one.keymap other.keymap → SameSections one other := by
    intro same
    simp only [one, other, ofHistory_eq] at same
    have compiled : one.keymap.compile = other.keymap.compile := by
      simp only [one, other, ofHistory_eq]
      exact Keymap.compile_eq_of_sameFaces same
    refine ⟨compiled, fun host state => ⟨one.calls_defineSections host state, ?_⟩⟩
    rw [compiled]
    exact other.calls_defineSections host state
  refine ⟨forgets, ?_⟩
  intro apart permuted
  apply forgets
  intro face
  simp only [one, other, ofHistory_eq]
  rw [apart.mem_faces_iff, (apart.of_perm permuted).mem_faces_iff]
  simp only [permuted.mem_iff]

/-- A binding that was renewed, with an option and behind another one, shows like one that was registered once; and two
registrations under different names can change places. -/
theorem sections_forget_history_renewed :
    let seek : Registration := ⟨{ key := some "s", name := some "seek" }, none⟩
    let mute : Registration := ⟨{ key := some "m", name := some "mute", builtin := true }, none⟩
    let first : History := [seek, mute]
    let renewed : History := [⟨{ key := some "x", name := some "seek", builtin := true }, none⟩, mute,
      ⟨{ key := some "s", name := some "seek", options := [("repeat", .flag true)] }, none⟩]
    SameSections (ofHistory ⟨"demo"⟩ first) (ofHistory ⟨"demo"⟩ renewed) ∧
    SameSections (ofHistory ⟨"demo"⟩ first) (ofHistory ⟨"demo"⟩ [mute, seek]) ∧
    (ofHistory ⟨"demo"⟩ first).keymap.bindings.map Binding.id = [2, 3] ∧
    (ofHistory ⟨"demo"⟩ renewed).keymap.bindings.map Binding.id = [3, 4] := by
  intro seek mute first renewed
  have faces : ((ofHistory ⟨"demo"⟩ first).keymap.bindings.map Binding.face).Perm
      ((ofHistory ⟨"demo"⟩ renewed).keymap.bindings.map Binding.face) := by
    decide +kernel
  have apart : first.NamedApart := by
    refine ⟨?_, by decide +kernel⟩
    intro registration member
    rcases List.mem_pair.mp member with rfl | rfl <;> rfl
  refine ⟨?_, ?_, by decide +kernel, by decide +kernel⟩
  · exact (sections_forget_history ⟨"demo"⟩ first renewed).1 fun _ => faces.mem_iff
  · exact (sections_forget_history ⟨"demo"⟩ first [mute, seek]).2 apart (.swap mute seek [])

end ScriptState
end ScriptBridge
