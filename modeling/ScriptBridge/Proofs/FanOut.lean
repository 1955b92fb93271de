import ScriptBridge.Proofs.Releases
import ScriptBridge.Proofs.ScriptSets

/-!
# Fanning out events

Every script of a set is given every event, one script after another. A released key runs a callback exactly in those
scripts that are addressed and have one under its name; all others answer that they have none, or that the event is
foreign. No other event runs anything. How the callbacks of some scripts end changes nothing for the others.
-/
namespace ScriptBridge

/-- The run of a callback under a name, against the host in some state. -/
def Firing.IsRunOf (firing : Firing) (name : String) (callback : Callback) (host : Host) : Prop :=
  ∃ begun : host.State, firing =
    ⟨name, (callback.invoke.run host begun).value, (callback.invoke.run host begun).calls⟩

namespace ScriptSet
open QualifiedName

section Scripts

variable (event : Event) (scripts : List LoadedScript) (host : Host) (state : host.State)

/-- Each instance answers once, in the order of loading. -/
theorem answerAll_identities :
    ((answerAll event scripts).run host state).value.1.map Prod.fst = scripts.map (·.state.identity) := by
  induction scripts generalizing state with
  | nil => rfl
  | cons loaded rest ih =>
    have own := (loaded.state.answer_sameRegistrations event host state).identity
    simp only [answerAll, Program.run_bind, Program.run_pure, List.map_cons, ih, own]

/-- The calls of all answers are those of each script around its callback run, in the order of the scripts. -/
theorem answerAll_calls :
    ((answerAll event scripts).run host state).calls =
      (List.zipWith (fun loaded firing => loaded.state.callsAround event firing) scripts
        (deliveries host event scripts state)).flatten := by
  induction scripts generalizing state with
  | nil => rfl
  | cons loaded rest ih =>
    simp only [answerAll, Program.run_bind, Program.run_pure, List.append_nil, deliveries, List.zipWith_cons_cons,
      List.flatten_cons, ih, loaded.state.answer_calls event host state]

theorem answerAll_callback? :
    ((answerAll event scripts).run host state).value.1.map (·.2.callback?) =
      (deliveries host event scripts state).map (Option.map Firing.name) := by
  induction scripts generalizing state with
  | nil => rfl
  | cons loaded rest ih =>
    simp only [answerAll, Program.run_bind, Program.run_pure, deliveries, List.map_cons, ih,
      loaded.state.answer_callback? event host state]

/-- An event that reports no release runs nothing. -/
theorem deliveries_of_quiet {event : Event} (quiet : event.released? = none) (scripts : List LoadedScript) (host : Host)
    (state : host.State) : deliveries host event scripts state = scripts.map fun _ => none := by
  induction scripts generalizing state with
  | nil => rfl
  | cons loaded rest ih =>
    obtain ⟨answer, routed⟩ := loaded.state.exists_settled quiet
    simp only [deliveries, List.map_cons, ih, ScriptState.firing?, routed]

end Scripts

/-- What an event comes to in a set, by the scripts in their places. -/
structure FansOut (set : ScriptSet) (event : Event) (host : Host) (state : host.State) : Prop where
  /-- There is one entry for each script, under its identity. -/
  identities : ((set.answerEvent event).run host state).value.1.map Prod.fst = set.scripts.map (·.state.identity)
  /-- A script that is addressed runs the callback under the name, if it has one, and the outcome decides its answer. -/
  runs : ∀ (key : QualifiedName) (index : Nat) (loaded : LoadedScript) (callback : Callback),
    event.released? = some key → set.scripts[index]? = some loaded → loaded.state.identity = key.owner →
    loaded.state.keymap.callback? key.name = some callback →
    ∃ firing : Firing, firing.IsRunOf key.name callback host ∧
      (deliveries host event set.scripts state)[index]? = some (some firing) ∧
      ((set.answerEvent event).run host state).value.1[index]? = some (key.owner, .ofOutcome key.name firing.outcome)
  unbound : ∀ (key : QualifiedName) (index : Nat) (loaded : LoadedScript),
    event.released? = some key → set.scripts[index]? = some loaded → loaded.state.identity = key.owner →
    loaded.state.keymap.callback? key.name = none →
    (deliveries host event set.scripts state)[index]? = some none ∧
      ((set.answerEvent event).run host state).value.1[index]? = some (key.owner, .noCallback key.name)
  foreign : ∀ (key : QualifiedName) (index : Nat) (loaded : LoadedScript),
    event.released? = some key → set.scripts[index]? = some loaded → loaded.state.identity ≠ key.owner →
    (deliveries host event set.scripts state)[index]? = some none ∧
      ((set.answerEvent event).run host state).value.1[index]? = some (loaded.state.identity, .foreign)
  /-- An event that reports no release runs nothing. -/
  quiet : event.released? = none → deliveries host event set.scripts state = set.scripts.map fun _ => none
  /-- The answers name the callbacks that ran. -/
  named : ((set.answerEvent event).run host state).value.1.map (·.2.callback?) =
    (deliveries host event set.scripts state).map (Option.map Firing.name)
  /-- The host hears of each script in turn: the receipt of the event, and what its callback run came to. -/
  calls : ((set.answerEvent event).run host state).calls =
    (List.zipWith (fun loaded firing => loaded.state.callsAround event firing) set.scripts
      (deliveries host event set.scripts state)).flatten
  /-- Afterwards each script has the registrations of before, and one more run of the callback that it ran. -/
  counts : ∀ (index : Nat) (loaded : LoadedScript), set.scripts[index]? = some loaded →
    ∃ after firing, ((set.answerEvent event).run host state).value.2.scripts[index]? = some after ∧
      (deliveries host event set.scripts state)[index]? = some firing ∧ after.path = loaded.path ∧
      ScriptState.SameRegistrations loaded.state after.state ∧
      ∀ name, after.state.runsOf name = loaded.state.runsOf name + if firing.map Firing.name = some name then 1 else 0

/-- A script that settles the event runs nothing in its place. -/
theorem place_of_settled {set : ScriptSet} {event : Event} {index : Nat} {loaded : LoadedScript} {answer : EventAnswer}
    (present : set.scripts[index]? = some loaded) (routed : loaded.state.route event = .settled answer) (host : Host)
    (state : host.State) :
    (deliveries host event set.scripts state)[index]? = some none ∧
      ((set.answerEvent event).run host state).value.1[index]? = some (loaded.state.identity, answer) := by
  obtain ⟨begun, entry, _, delivered⟩ := answerAll_place event set.scripts host state present
  rw [(ScriptState.settles_of_route routed host begun).1] at entry
  simp only [ScriptState.firing?, routed] at delivered
  rw [run_answerEvent]
  exact ⟨delivered, entry⟩

/-- A script that runs a callback for the event runs it in its place. -/
theorem place_of_run {set : ScriptSet} {event : Event} {index : Nat} {loaded : LoadedScript} {name : String}
    {callback : Callback} (present : set.scripts[index]? = some loaded)
    (routed : loaded.state.route event = .run name callback) (host : Host) (state : host.State) :
    ∃ firing : Firing, firing.IsRunOf name callback host ∧
      (deliveries host event set.scripts state)[index]? = some (some firing) ∧
      ((set.answerEvent event).run host state).value.1[index]? =
        some (loaded.state.identity, .ofOutcome name firing.outcome) := by
  obtain ⟨begun, entry, _, delivered⟩ := answerAll_place event set.scripts host state present
  rw [(ScriptState.fires_of_route routed host begun).1] at entry
  simp only [ScriptState.firing?, routed] at delivered
  rw [run_answerEvent]
  exact ⟨_, ⟨_, rfl⟩, delivered, entry⟩

theorem fansOut (set : ScriptSet) (event : Event) (host : Host) (state : host.State) :
    set.FansOut event host state where
  identities := by
    rw [run_answerEvent]
    exact answerAll_identities event set.scripts host state
  runs := by
    rintro ⟨owner, name⟩ index loaded callback released present rfl filed
    exact place_of_run present (ScriptState.route_of_own released filed) host state
  unbound := by
    rintro ⟨owner, name⟩ index loaded released present rfl bare
    exact place_of_settled present (ScriptState.route_of_unbound released bare) host state
  foreign := by
    intro key index loaded released present other
    exact place_of_settled present (ScriptState.route_of_others released (Ne.symm other)) host state
  quiet := fun quiet => deliveries_of_quiet quiet set.scripts host state
  named := by
    rw [run_answerEvent]
    exact answerAll_callback? event set.scripts host state
  calls := by
    rw [run_answerEvent]
    exact answerAll_calls event set.scripts host state
  counts := by
    intro index loaded present
    obtain ⟨begun, _, after, delivered⟩ := answerAll_place event set.scripts host state present
    rw [run_answerEvent]
    refine ⟨_, _, after, delivered, rfl, loaded.state.answer_sameRegistrations event host begun, ?_⟩
    intro name
    rw [loaded.state.answer_runsOf, loaded.state.answer_callback?]

/-- Whatever the event, the scripts of a set and the ends of their callbacks, the event fans out to all of them. It
reports the release of a key when it is a client message whose second item is the key's wire form and whose third item
begins with a lower case u. -/
theorem event_fans_out (set : ScriptSet) (event : Event) (host : Host) (state : host.State) :
    (∀ key, event.released? = some key ↔
      event.isKind .clientMessage = true ∧ SetApart key.owner.name.toList ∧
      ∃ items rest, event.data = .array items ∧ items[1]? = some (.string key.encode) ∧
        items[2]? = some (.string ("u" ++ rest))) ∧
    set.FansOut event host state :=
  ⟨fun _ => Event.released?_eq_some_iff_items, set.fansOut event host state⟩

end ScriptSet
end ScriptBridge
