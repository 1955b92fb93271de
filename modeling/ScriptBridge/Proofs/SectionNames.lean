import ScriptBridge.Proofs.Keymap.SectionOrder
import ScriptBridge.Proofs.Loading

/-!
# Names of sections

The names of both sections of a script and their location are made from its identity by the same prefix and an ending of
their own. The prefix and an ending determine the identity between them, and no ending is the end of a longer one; so
neither an identity that itself looks like an ending nor any other makes two of these texts meet. Whatever scripts with
different identities define on a host, sections of one name come from one script and are of one kind.
-/
namespace ScriptBridge

/-- Texts in which the shorter of two endings does not end the longer one are different. -/
theorem ne_of_endings {front ending otherFront otherEnding : String}
    (shorter : ending.toList.length ≤ otherEnding.toList.length)
    (unlike : ¬ ending.toList <:+ otherEnding.toList) : front ++ ending ≠ otherFront ++ otherEnding := by
  intro same
  have joined : front.toList ++ ending.toList = otherFront.toList ++ otherEnding.toList := by
    simpa only [String.toList_append] using congrArg String.toList same
  have ends : ending.toList <:+ otherFront.toList ++ otherEnding.toList := ⟨front.toList, joined⟩
  have endsToo : otherEnding.toList <:+ otherFront.toList ++ otherEnding.toList := ⟨otherFront.toList, rfl⟩
  exact unlike (List.suffix_of_suffix_length_le ends endsToo shorter)

namespace ScriptId

/-- What stands between one prefix and one ending can be read back. -/
theorem framed_eq_iff {before behind : String} {a b : ScriptId} :
    before ++ a.name ++ behind = before ++ b.name ++ behind ↔ a = b := by
  constructor
  · intro same
    have joined : before.toList ++ a.name.toList ++ behind.toList = before.toList ++ b.name.toList ++ behind.toList := by
      simpa only [String.toList_append] using congrArg String.toList same
    have names : a.name = b.name :=
      String.toList_inj.mp (List.append_cancel_left (List.append_cancel_right joined))
    cases a
    cases b
    exact congrArg ScriptId.mk names
  · rintro rfl
    rfl

theorem sectionName_eq_iff {a b : ScriptId} : a.sectionName = b.sectionName ↔ a = b := framed_eq_iff

theorem builtinSectionName_eq_iff {a b : ScriptId} : a.builtinSectionName = b.builtinSectionName ↔ a = b :=
  framed_eq_iff

theorem sectionLocation_eq_iff {a b : ScriptId} : a.sectionLocation = b.sectionLocation ↔ a = b := framed_eq_iff

theorem sectionName_ne_builtinSectionName (a b : ScriptId) : a.sectionName ≠ b.builtinSectionName :=
  ne_of_endings (by decide) (by decide)

theorem sectionLocation_ne_sectionName (a b : ScriptId) : a.sectionLocation ≠ b.sectionName :=
  ne_of_endings (by decide) (by decide)

theorem sectionLocation_ne_builtinSectionName (a b : ScriptId) : a.sectionLocation ≠ b.builtinSectionName :=
  ne_of_endings (by decide) (by decide)

/-- The name of the section of the bindings with a flag. -/
def sectionNameOf (identity : ScriptId) (builtin : Bool) : String :=
  if builtin then identity.builtinSectionName else identity.sectionName

theorem sectionNameOf_eq_iff {a b : ScriptId} {builtin otherBuiltin : Bool} :
    a.sectionNameOf builtin = b.sectionNameOf otherBuiltin ↔ a = b ∧ builtin = otherBuiltin := by
  cases builtin <;> cases otherBuiltin
  case false.false => simpa [sectionNameOf] using sectionName_eq_iff
  case false.true => simpa [sectionNameOf] using sectionName_ne_builtinSectionName a b
  case true.false => simpa [sectionNameOf] using (sectionName_ne_builtinSectionName b a).symm
  case true.true => simpa [sectionNameOf] using builtinSectionName_eq_iff

end ScriptId

/-- The sections that a list of requests defines are those of a keymap. -/
theorem SectionPair.defineSection_mem_requests_iff {compiled : SectionPair} {s : InputSection} :
    HostRequest.defineSection s ∈ compiled.requests ↔ s ∈ compiled.sections := by
  simp [requests]

namespace ScriptState

/-- A section that a script defines is named after its identity and the section's flag, and owned by that identity. -/
theorem defined_section {identity : ScriptId} {script : ScriptState} (reachable : script.Reachable identity)
    {host : Host} {state : host.State} {s : InputSection}
    (defined : .defineSection s ∈ (script.defineSections.run host state).calls) :
    s.name = identity.sectionNameOf s.builtin ∧ s.owner = identity.name := by
  rw [calls_defineSections, SectionPair.defineSection_mem_requests_iff] at defined
  obtain ⟨builtin, _, rfl⟩ := Keymap.mem_sections_iff.mp defined
  rw [← reachable.coherent.keymap_identity]
  exact ⟨rfl, rfl⟩

/-- Scripts hand their sections to one host, one after another and as often as they like. A build is that of the script
in a place, in the state that it is in by then. -/
def buildEach (host : Host) (state : host.State) (builds : List (Nat × ScriptState)) :
    List ((Nat × ScriptState) × Run host.State SectionPair) :=
  Program.runEach host (fun build => build.2.defineSections) state builds

/-- The texts made from identities meet only when they are of one kind and from one identity. Hence of scripts with
different identities in different places, whatever they have registered and however often they build their sections, two
sections under one name are defined by the same script, with the same flag and owner. -/
theorem section_names_never_collide :
    (∀ a b : ScriptId,
      (a.sectionName = b.sectionName ↔ a = b) ∧
      (a.builtinSectionName = b.builtinSectionName ↔ a = b) ∧
      (a.sectionLocation = b.sectionLocation ↔ a = b) ∧
      a.sectionName ≠ b.builtinSectionName ∧ a.sectionName ≠ b.sectionLocation ∧
      a.builtinSectionName ≠ b.sectionLocation) ∧
    ∀ identities : List ScriptId, identities.Nodup → ∀ builds : List (Nat × ScriptState),
      (∀ build ∈ builds, ∃ identity, identities[build.1]? = some identity ∧ build.2.Reachable identity) →
      ∀ (host : Host) (state : host.State), ∀ first ∈ buildEach host state builds,
      ∀ second ∈ buildEach host state builds, ∀ s t : InputSection,
        .defineSection s ∈ first.2.calls → .defineSection t ∈ second.2.calls → s.name = t.name →
        first.1.1 = second.1.1 ∧ s.builtin = t.builtin ∧ s.owner = t.owner := by
  refine ⟨fun a b => ⟨ScriptId.sectionName_eq_iff, ScriptId.builtinSectionName_eq_iff, ScriptId.sectionLocation_eq_iff,
    a.sectionName_ne_builtinSectionName b, (b.sectionLocation_ne_sectionName a).symm,
    (b.sectionLocation_ne_builtinSectionName a).symm⟩, ?_⟩
  intro identities distinct builds owned host state
  -- Each build is that of a known place, and what it defines is named after the identity there.
  have named : ∀ visit ∈ buildEach host state builds, ∀ s, .defineSection s ∈ visit.2.calls →
      ∃ identity, identities[visit.1.1]? = some identity ∧ s.name = identity.sectionNameOf s.builtin ∧
        s.owner = identity.name := by
    intro visit member s defined
    have built : visit.1 ∈ builds := by
      rw [← Program.map_fst_runEach host (fun build : Nat × ScriptState => build.2.defineSections) state builds]
      exact List.mem_map_of_mem member
    obtain ⟨identity, placed, reachable⟩ := owned visit.1 built
    obtain ⟨begun, ran⟩ := Program.exists_begun_of_mem_runEach member
    rw [ran] at defined
    exact ⟨identity, placed, defined_section reachable defined⟩
  intro first firstMember second secondMember s t definesS definesT same
  obtain ⟨identity, placed, nameS, ownerS⟩ := named first firstMember s definesS
  obtain ⟨other, otherPlaced, nameT, ownerT⟩ := named second secondMember t definesT
  rw [nameS, nameT, ScriptId.sectionNameOf_eq_iff] at same
  obtain ⟨rfl, flags⟩ := same
  have within : first.1.1 < identities.length := (List.getElem?_eq_some_iff.mp placed).1
  have place : first.1.1 = second.1.1 :=
    (List.getElem?_inj within distinct).mp (placed.trans otherPlaced.symm)
  exact ⟨place, flags, ownerS.trans ownerT.symm⟩

/-- The identity `seek_kbs` looks like a section of `seek`. What both define stays apart, and what `seek` defines again
after a further registration meets its own earlier section only. -/
theorem section_names_never_collide_rebuilt :
    let script := (fresh ⟨"seek"⟩).register { key := some "s", name := some "go" } none
    let grown := script.register { key := some "x", name := some "back" } none
    let other := (fresh ⟨"seek_kbs"⟩).register { key := some "s", builtin := true } none
    let builds := [(0, script), (1, other), (0, grown)]
    ∃ first ∈ buildEach SimulatedHost.host ({} : SimulatedHost) builds,
    ∃ second ∈ buildEach SimulatedHost.host ({} : SimulatedHost) builds, ∃ s t : InputSection,
      .defineSection s ∈ first.2.calls ∧ .defineSection t ∈ second.2.calls ∧ s.name = t.name ∧ s.lines ≠ t.lines ∧
      first.1.1 = second.1.1 ∧ s.builtin = t.builtin ∧ s.owner = t.owner := by
  intro script grown other builds
  have seek : script.Reachable ⟨"seek"⟩ := .register .fresh _ none
  have owned : ∀ build ∈ builds, ∃ identity, [ScriptId.mk "seek", ⟨"seek_kbs"⟩][build.1]? = some identity ∧
      build.2.Reachable identity := by
    intro build member
    simp only [builds, List.mem_cons, List.not_mem_nil, or_false] at member
    rcases member with rfl | rfl | rfl
    · exact ⟨_, rfl, seek⟩
    · exact ⟨_, rfl, .register .fresh _ none⟩
    · exact ⟨_, rfl, .register seek _ none⟩
  have apart : (script.keymap.sectionWith false).lines ≠ (grown.keymap.sectionWith false).lines := by
    intro same
    have sizes := congrArg List.length same
    simp only [Keymap.sectionWith, sortLines, List.length_mergeSort] at sizes
    exact absurd sizes (by decide +kernel)
  refine ⟨_, .head _, _, .tail _ (.tail _ (.head _)), script.keymap.sectionWith false, grown.keymap.sectionWith false,
    .head _, .head _, rfl, apart, ?_⟩
  exact section_names_never_collide.2 [⟨"seek"⟩, ⟨"seek_kbs"⟩] (by decide) builds owned SimulatedHost.host
    ({} : SimulatedHost) _ (.head _) _ (.tail _ (.tail _ (.head _))) (script.keymap.sectionWith false)
    (grown.keymap.sectionWith false) (.head _) (.head _) rfl

end ScriptState
end ScriptBridge
