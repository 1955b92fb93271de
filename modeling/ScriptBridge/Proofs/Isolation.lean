import ScriptBridge.Proofs.KeyMessages
import ScriptBridge.Proofs.ScriptSets

/-!
# Isolation of scripts from each other's messages

A message that the host writes for one script runs a callback of another one only when the wire form misleads: when the
other script is the addressee that is read from the first one's identity. Between an addressable identity and any other
script this never happens; from every other identity it happens as soon as its addressee registers a fitting name.
-/
namespace ScriptBridge
open QualifiedName

namespace ScriptSet

/-- Answering the event makes the script at the index run a callback: one of them has run more often afterwards. -/
def RunsCallbackAt (set : ScriptSet) (index : Nat) (event : Event) (host : Host) (state : host.State) : Prop :=
  ∃ before after name, set.scripts[index]? = some before ∧
    ((set.answerEvent event).run host state).value.2.scripts[index]? = some after ∧
    before.state.runsOf name < after.state.runsOf name

/-- A script runs a callback for an event of the set exactly when it would for itself. -/
theorem runsCallbackAt_iff {set : ScriptSet} {index : Nat} {loaded : LoadedScript}
    (present : set.scripts[index]? = some loaded) (event : Event) (host : Host) (state : host.State) :
    set.RunsCallbackAt index event host state ↔ ∃ name callback, loaded.state.route event = .run name callback := by
  obtain ⟨begun, _, scripts⟩ := answerEvent_getElem? event present host state
  constructor
  · rintro ⟨before, later, name, found, foundLater, more⟩
    rw [present, Option.some.injEq] at found
    rw [scripts, Option.some.injEq] at foundLater
    subst found foundLater
    cases routed : loaded.state.route event with
    | run name callback => exact ⟨name, callback, rfl⟩
    | settled answer =>
      rw [(ScriptState.settles_of_route routed host begun).1] at more
      exact absurd more (Nat.lt_irrefl _)
  · rintro ⟨name, callback, routed⟩
    refine ⟨loaded, _, name, present, scripts, ?_⟩
    have named : ((loaded.state.answer event).run host begun).value.1.callback? = some name := by
      rw [(ScriptState.fires_of_route routed host begun).1]
      exact EventAnswer.callback?_ofOutcome name _
    simp only [ScriptState.answer_runsOf, named, ↓reduceIte]
    omega

/-- The message for a key of one identity runs a callback of a script exactly when it reports a release, the script is
the addressee of that identity, and it has a callback under the name that is read. -/
theorem key_runsCallbackAt_iff {set : ScriptSet} {index : Nat} {loaded : LoadedScript}
    (present : set.scripts[index]? = some loaded) (owner : ScriptId) (name keyState : String) (host : Host)
    (state : host.State) :
    set.RunsCallbackAt index (.ofKey ⟨owner, name⟩ keyState) host state ↔
      (∃ rest, keyState = "u" ++ rest) ∧ owner.addressee = loaded.state.identity ∧
      ∃ read, parse? (encode ⟨owner, name⟩) = some ⟨owner.addressee, read⟩ ∧
        loaded.state.keymap.hasCallback read = true := by
  obtain ⟨read, parsed, decoded⟩ := KeyMessage.decode_ofKey ⟨owner, name⟩ keyState
  rw [runsCallbackAt_iff present, ← KeyMessage.isRelease_string_iff]
  simp only [ScriptState.route_eq_run_iff, decoded, Except.ok.injEq, KeyMessage.mk.injEq, QualifiedName.mk.injEq,
    parsed, Option.some.injEq, Keymap.hasCallback, Option.isSome_iff_exists]
  constructor
  · rintro ⟨_, callback, _, ⟨⟨owned, rfl⟩, released⟩, filed⟩
    exact ⟨released, owned, read, ⟨trivial, rfl⟩, callback, filed⟩
  · rintro ⟨released, owned, _, ⟨_, rfl⟩, callback, filed⟩
    exact ⟨read, callback, rfl, ⟨⟨owned, rfl⟩, released⟩, filed⟩

end ScriptSet

namespace ScriptId
open ScriptSet

/-- In no set that can come about does a key message written for the first identity run a callback of the second. -/
def IsolatedFrom (owner other : ScriptId) : Prop :=
  ∀ set : ScriptSet, set.Reachable → ∀ (ownIndex index : Nat) (own loaded : LoadedScript),
    set.scripts[ownIndex]? = some own → own.state.identity = owner →
    set.scripts[index]? = some loaded → loaded.state.identity = other →
    ∀ (name keyState : String) (host : Host) (state : host.State),
      ¬ set.RunsCallbackAt index (.ofKey ⟨owner, name⟩ keyState) host state

/-- Only the addressee of an identity can run a callback for its key messages. -/
theorem isolatedFrom_of_ne_addressee {owner other : ScriptId} (different : owner.addressee ≠ other) :
    owner.IsolatedFrom other := by
  intro set _ _ index _ loaded _ _ present identified name keyState host state runs
  have addressed := ((key_runsCallbackAt_iff present owner name keyState host state).mp runs).2.1
  exact different (addressed.trans identified)

/-- Of two scripts that can be loaded, the second one can come to stand behind the first with a callback of any name. -/
theorem exists_reachable_pair {owner other : ScriptId} (loadable : Loadable owner) (otherLoadable : Loadable other)
    (name : String) :
    ∃ (set : ScriptSet) (own loaded : LoadedScript), set.Reachable ∧
      set.scripts[0]? = some own ∧ own.state.identity = owner ∧
      set.scripts[1]? = some loaded ∧ loaded.state.identity = other ∧ loaded.state.keymap.hasCallback name = true := by
  obtain ⟨files, path, vetted⟩ := loadable
  obtain ⟨otherFiles, otherPath, otherVetted⟩ := otherLoadable
  have first := (Reachable.empty {}).push vetted {} none
  have both := first.push otherVetted { name := some name } (some { body := fun _ => pure (.ok ()) })
  refine ⟨_, _, _, both, rfl, rfl, rfl, rfl, ?_⟩
  simp only [Keymap.hasCallback, ScriptState.register, Keymap.register, Keymap.effectiveName, Option.getD_some,
    Keymap.callback?_bind, ↓reduceIte, Option.isSome_some]

/-- An identity is not isolated from its addressee: that one only has to register a callback under the name that is
read from one of the identity's names. -/
theorem not_isolatedFrom_addressee {owner : ScriptId} (loadable : Loadable owner)
    (addresseeLoadable : Loadable owner.addressee) : ¬ owner.IsolatedFrom owner.addressee := by
  intro isolated
  obtain ⟨read, parsed⟩ := parse?_encode owner ""
  obtain ⟨set, own, loaded, reachable, ownPresent, owned, present, identified, filed⟩ :=
    exists_reachable_pair loadable addresseeLoadable read
  have released : ∃ rest, "u" ++ "-" = "u" ++ rest := ⟨"-", rfl⟩
  have runs := (key_runsCallbackAt_iff present owner "" ("u" ++ "-") SimulatedHost.host ({} : SimulatedHost)).mpr
    ⟨released, identified.symm, read, parsed, filed⟩
  exact isolated set reachable 0 1 own loaded ownPresent owned present identified _ _ _ _ runs

theorem loadable_underscored : Loadable ⟨"a___b"⟩ :=
  ⟨⟨.directory [(Utf8.encode "a___b.py", .file .empty)], []⟩, .ofString "a___b.py", rfl⟩

theorem loadable_short : Loadable ⟨"a"⟩ :=
  ⟨⟨.directory [(Utf8.encode "a.py", .file .empty)], []⟩, .ofString "a.py", rfl⟩

/-- Of two scripts that can be loaded, the first one's key messages stay away from the second unless the second is
addressable and its wire form can be the beginning of the first one's. An addressable identity is isolated from every
other. -/
theorem isolatedFrom_iff {owner other : ScriptId} (loadable : Loadable owner) (otherLoadable : Loadable other)
    (different : owner ≠ other) :
    (owner.IsolatedFrom other ↔ ¬ (other.IsAddressable ∧ ∃ rest, encode ⟨owner, ""⟩ = encode ⟨other, rest⟩)) ∧
    (owner.IsAddressable → owner.IsolatedFrom other) := by
  rw [← addressee_eq_iff]
  refine ⟨⟨?_, isolatedFrom_of_ne_addressee⟩, ?_⟩
  · rintro isolated rfl
    exact not_isolatedFrom_addressee loadable otherLoadable isolated
  · intro addressable
    apply isolatedFrom_of_ne_addressee
    rw [(addressee_eq_self_iff owner).mpr addressable]
    exact different

theorem isolatedFrom_iff_underscored :
    (ScriptId.IsolatedFrom ⟨"a___b"⟩ ⟨"a"⟩ ↔
      ¬ (IsAddressable ⟨"a"⟩ ∧ ∃ rest, encode ⟨⟨"a___b"⟩, ""⟩ = encode ⟨⟨"a"⟩, rest⟩)) ∧
    (IsAddressable ⟨"a___b"⟩ → ScriptId.IsolatedFrom ⟨"a___b"⟩ ⟨"a"⟩) :=
  isolatedFrom_iff loadable_underscored loadable_short (by decide)

/-- The script `a` runs its callback `b___n` for the message that is written for the name `n` of the script `a___b`. -/
theorem message_reaches_other_script :
    ∃ (set : ScriptSet) (own loaded : LoadedScript), set.Reachable ∧
      set.scripts[0]? = some own ∧ own.state.identity = ⟨"a___b"⟩ ∧
      set.scripts[1]? = some loaded ∧ loaded.state.identity = ⟨"a"⟩ ∧
      set.RunsCallbackAt 1 (.ofKey ⟨⟨"a___b"⟩, "n"⟩ ("u" ++ "-")) SimulatedHost.host ({} : SimulatedHost) := by
  obtain ⟨set, own, loaded, reachable, ownPresent, owned, present, identified, filed⟩ :=
    exists_reachable_pair loadable_underscored loadable_short "b___n"
  have addressed : addressee ⟨"a___b"⟩ = ⟨"a"⟩ := by decide +kernel
  have parsed : parse? (encode ⟨⟨"a___b"⟩, "n"⟩) = some ⟨⟨"a"⟩, "b___n"⟩ := by decide +kernel
  refine ⟨set, own, loaded, reachable, ownPresent, owned, present, identified, ?_⟩
  refine (key_runsCallbackAt_iff present _ _ _ _ _).mpr ⟨⟨"-", rfl⟩, ?_, "b___n", ?_, filed⟩
  · rw [addressed, identified]
  · rw [parsed, addressed]

end ScriptId
end ScriptBridge
