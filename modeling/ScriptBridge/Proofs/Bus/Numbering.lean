import Mathlib.Data.List.Induction
import Mathlib.Data.List.Nodup
import ScriptBridge.Proofs.Bus.Places

/-!
# The numbers of publications

A run of the bus takes any steps in any order: subscribers and senders come and go, senders publish, subscribers receive.
Whatever else happens, what a subscriber receives follows without gap on the last publication before it came, apart from
what is reported to it as lost, and every envelope is the publication of its number.
-/
namespace ScriptBridge
namespace Broadcast
open Receipts

/-- A step of the bus. Subscribers and senders go by their index. -/
inductive Action where
  | subscribe
  | addSender (source : EventSource)
  | publish (sender : Nat) (event : Event)
  | receive (subscriber : Nat)
  | dropSubscriber (subscriber : Nat)
  | dropSender (sender : Nat)
  | close

def Action.isSubscribe : Action → Bool
  | subscribe => true
  | _ => false

def sourceOf? (bus : Broadcast) (sender : Nat) : Option EventSource := bus.senders[sender]?.join

/-- Takes a step. A sender that is gone publishes nothing. -/
def act (bus : Broadcast) : Action → Broadcast
  | .subscribe => bus.subscribe
  | .addSender source => bus.addSender source
  | .publish sender event =>
    match bus.sourceOf? sender with
    | some source => (bus.publish source event).2
    | none => bus
  | .receive subscriber => (bus.receive subscriber).2
  | .dropSubscriber subscriber => bus.dropSubscriber subscriber
  | .dropSender sender => bus.dropSender sender
  | .close => bus.close

def after (bus : Broadcast) (actions : List Action) : Broadcast := actions.foldl act bus

/-- What the steps of a run show, in order. -/
def gather {α : Type} (show? : Broadcast → Action → Option α) (bus : Broadcast) : List Action → List α
  | [] => []
  | action :: rest => (show? bus action).toList ++ (bus.act action).gather show? rest

/-- What a step publishes, with its source. -/
def publication? (bus : Broadcast) : Action → Option (EventSource × Event)
  | .publish sender event => (bus.sourceOf? sender).map fun source => (source, event)
  | _ => none

/-- What a step gives the subscriber. -/
def receipt? (subscriber : Nat) (bus : Broadcast) : Action → Option Receipt
  | .receive receiver => if receiver = subscriber then some (bus.receive receiver).1 else none
  | _ => none

def publications (bus : Broadcast) (actions : List Action) : List (EventSource × Event) := bus.gather publication? actions

def receipts (bus : Broadcast) (subscriber : Nat) (actions : List Action) : List Receipt :=
  bus.gather (receipt? subscriber) actions

/-- A subscriber was added, and not dropped since. -/
def Subscribes (actions : List Action) (subscriber : Nat) : Prop :=
  ∃ earlier later, actions = earlier ++ .subscribe :: later ∧ earlier.countP Action.isSubscribe = subscriber ∧
    .dropSubscriber subscriber ∉ later

theorem gather_append {α : Type} (show? : Broadcast → Action → Option α) (bus : Broadcast) (earlier later : List Action) :
    bus.gather show? (earlier ++ later) = bus.gather show? earlier ++ (bus.after earlier).gather show? later := by
  induction earlier generalizing bus with
  | nil => rfl
  | cons action rest ih =>
    rw [List.cons_append, gather, ih, gather, List.append_assoc]
    rfl

theorem after_append (bus : Broadcast) (earlier later : List Action) :
    bus.after (earlier ++ later) = (bus.after earlier).after later :=
  List.foldl_append

theorem receipt?_eq_some_iff {bus : Broadcast} {subscriber : Nat} {action : Action} {receipt : Receipt} :
    receipt? subscriber bus action = some receipt ↔
      action = .receive subscriber ∧ (bus.receive subscriber).1 = receipt := by
  cases action with
  | receive receiver =>
    rw [receipt?, Action.receive.injEq]
    by_cases same : receiver = subscriber
    · simp [same]
    · simp [same]
  | subscribe | addSender | publish | dropSubscriber | dropSender | close => simp [receipt?]

/-! ### What a subscriber receives -/

/-- Every step leaves the subscriber where what it was given has been accounted for. -/
theorem Awaits.act {bus : Broadcast} {subscriber last : Nat} (awaits : bus.Awaits subscriber last) (action : Action) :
    (bus.act action).Awaits subscriber (reached last (bus.receipt? subscriber action).toList) := by
  cases action with
  | subscribe =>
    apply awaits.move
    · rw [List.length_append]
      exact Nat.lt_add_right _ awaits.known
    · intro position stands
      rwa [List.getElem?_append_left awaits.known] at stands
  | publish sender event =>
    rw [Broadcast.act]
    cases bus.sourceOf? sender with
    | none => exact awaits
    | some source => exact awaits.publish source event
  | receive receiver =>
    rw [receipt?]
    by_cases same : receiver = subscriber
    · rw [if_pos same, same]
      exact awaits.receive
    · rw [if_neg same]
      exact awaits.receive_other same
  | dropSubscriber dropped =>
    apply awaits.move
    · rw [List.length_set]
      exact awaits.known
    · intro position stands
      by_cases same : dropped = subscriber
      · rw [same, List.getElem?_set_self awaits.known] at stands
        cases stands
      · rwa [List.getElem?_set_ne same] at stands
  | addSender | dropSender | close => exact awaits.move awaits.known (fun _ stands => stands) _ _

/-- Over a run, the receipts carry a subscriber on from number to number. -/
theorem Awaits.after {bus : Broadcast} {subscriber last : Nat} (awaits : bus.Awaits subscriber last)
    (actions : List Action) : (bus.after actions).Awaits subscriber (reached last (bus.receipts subscriber actions)) := by
  induction actions generalizing bus last with
  | nil => exact awaits
  | cons action rest ih =>
    unfold receipts gather
    rw [reached_append]
    exact ih (awaits.act action)

/-- Over a run, every envelope has the number after the last one accounted for. -/
theorem Awaits.numbered {bus : Broadcast} {subscriber last : Nat} (awaits : bus.Awaits subscriber last)
    (actions : List Action) : Numbered last (bus.receipts subscriber actions) := by
  induction actions generalizing bus last with
  | nil => exact Numbered.nil last
  | cons action rest ih =>
    have later := ih (awaits.act action)
    unfold receipts gather
    cases shown : bus.receipt? subscriber action with
    | none =>
      rw [shown] at later
      exact later
    | some receipt =>
      rw [shown] at later
      apply Numbered.cons _ later
      rintro envelope rfl
      exact awaits.sequence_eq (receipt?_eq_some_iff.mp shown).2

/-! ### What an envelope carries -/

theorem published_keep (bus : Broadcast) (envelope : Envelope) : (bus.keep envelope).published = bus.published := by
  unfold keep
  split <;> rfl

/-- An envelope that is kept may push another one out, but brings in none except itself. -/
theorem mem_kept_keep {bus : Broadcast} {envelope stored : Envelope} (member : stored ∈ (bus.keep envelope).kept) :
    stored ∈ bus.kept ∨ stored = envelope := by
  unfold keep at member
  split at member
  · rcases List.mem_append.mp member with old | new
    · exact .inl old
    · exact .inr (List.mem_singleton.mp new)
  · rcases List.mem_append.mp member with old | new
    · exact .inl (List.mem_of_mem_tail old)
    · exact .inr (List.mem_singleton.mp new)

/-- What a subscriber receives is still kept. -/
theorem mem_kept_of_received {bus : Broadcast} {subscriber : Nat} {envelope : Envelope}
    (received : (bus.receive subscriber).1 = .envelope envelope) : envelope ∈ bus.kept := by
  obtain ⟨position, _, same⟩ := exists_position_of_received (by rw [received]; simp)
  rw [received] at same
  rcases bus.receiveAt_cases position with ⟨_, lagged⟩ | ⟨found, _, stored, given⟩ | ⟨_, closed | empty⟩
  · rw [lagged] at same
    cases same
  · rw [given] at same
    cases same
    exact List.mem_of_getElem? stored
  · rw [closed] at same
    cases same
  · rw [empty] at same
    cases same

/-- So many publications were counted, and every envelope that is kept is the one of its number. -/
structure Records (bus : Broadcast) (published : List (EventSource × Event)) : Prop where
  published_eq : bus.published = published.length
  kept : ∀ envelope ∈ bus.kept, 0 < envelope.sequence ∧
    published[envelope.sequence - 1]? = some (envelope.source, envelope.event)

namespace Records
variable {bus : Broadcast} {published : List (EventSource × Event)}

/-- A publication gets the next number, whether anybody is there to see it or not. -/
theorem publish (records : bus.Records published) (source : EventSource) (event : Event) :
    (bus.publish source event).2.Records (published ++ [(source, event)]) := by
  have counted := records.published_eq
  have earlier : ∀ envelope ∈ bus.kept, 0 < envelope.sequence ∧
      (published ++ [(source, event)])[envelope.sequence - 1]? = some (envelope.source, envelope.event) := by
    intro envelope member
    obtain ⟨positive, found⟩ := records.kept envelope member
    have inside : envelope.sequence - 1 < published.length := (List.getElem?_eq_some_iff.mp found).choose
    exact ⟨positive, by rw [List.getElem?_append_left inside, found]⟩
  have latest : (published ++ [(source, event)])[bus.published]? = some (source, event) := by
    rw [counted, List.getElem?_concat_length]
  unfold Broadcast.publish
  by_cases nobody : bus.subscriberCount = 0
  · rw [if_pos nobody]
    exact ⟨by simp [counted], earlier⟩
  · rw [if_neg nobody]
    refine ⟨by simp [published_keep, counted], ?_⟩
    intro envelope member
    rcases mem_kept_keep member with old | rfl
    · exact earlier envelope old
    · exact ⟨Nat.succ_pos _, latest⟩

theorem receive (records : bus.Records published) (receiver : Nat) : (bus.receive receiver).2.Records published := by
  unfold Broadcast.receive
  split
  · exact ⟨records.published_eq, records.kept⟩
  · exact records

theorem act (records : bus.Records published) (action : Action) :
    (bus.act action).Records (published ++ (bus.publication? action).toList) := by
  cases action with
  | publish sender event =>
    rw [Broadcast.act, publication?]
    cases bus.sourceOf? sender with
    | none =>
      rw [Option.map_none, Option.toList_none, List.append_nil]
      exact records
    | some source => exact records.publish source event
  | receive receiver =>
    simp only [publication?, Option.toList_none, List.append_nil]
    exact records.receive receiver
  | subscribe | addSender | dropSubscriber | dropSender | close =>
    simp only [publication?, Option.toList_none, List.append_nil]
    exact ⟨records.published_eq, records.kept⟩

/-- Over a run, the publications are recorded one behind another. -/
theorem after (records : bus.Records published) (actions : List Action) :
    (bus.after actions).Records (published ++ bus.publications actions) := by
  induction actions generalizing bus published with
  | nil =>
    unfold publications gather
    rw [List.append_nil]
    exact records
  | cons action rest ih =>
    unfold publications gather
    rw [← List.append_assoc]
    exact ih (records.act action)

/-- Over a run, a received envelope is the publication of its number. -/
theorem received (records : bus.Records published) {subscriber : Nat} {actions : List Action} {envelope : Envelope}
    (received : .envelope envelope ∈ bus.receipts subscriber actions) : 0 < envelope.sequence ∧
      (published ++ bus.publications actions)[envelope.sequence - 1]? = some (envelope.source, envelope.event) := by
  induction actions generalizing bus published with
  | nil => simp [receipts, gather] at received
  | cons action rest ih =>
    unfold receipts gather at received
    unfold publications gather
    rcases List.mem_append.mp received with now | later
    · obtain ⟨_, given⟩ := receipt?_eq_some_iff.mp (Option.mem_toList.mp now)
      obtain ⟨positive, found⟩ := records.kept envelope (mem_kept_of_received given)
      have inside : envelope.sequence - 1 < published.length := (List.getElem?_eq_some_iff.mp found).choose
      exact ⟨positive, by rw [List.getElem?_append_left inside, found]⟩
    · rw [← List.append_assoc]
      exact ih (records.act action) later

end Records

/-! ### Who is there to see a publication -/

/-- The last action opens a subscription, drops one, or leaves all of them. -/
theorem subscribes_concat {actions : List Action} {action : Action} {subscriber : Nat} :
    Subscribes (actions ++ [action]) subscriber ↔
      (action = .subscribe ∧ actions.countP Action.isSubscribe = subscriber) ∨
      (Subscribes actions subscriber ∧ action ≠ .dropSubscriber subscriber) := by
  constructor
  · rintro ⟨earlier, later, split, index, kept⟩
    rcases List.eq_nil_or_concat later with rfl | ⟨later, last, rfl⟩
    · obtain ⟨rfl, same⟩ := List.append_inj' split rfl
      exact .inl ⟨List.singleton_inj.mp same, index⟩
    · rw [List.concat_eq_append] at split kept
      rw [← List.cons_append, ← List.append_assoc] at split
      obtain ⟨rfl, same⟩ := List.append_inj' split rfl
      obtain rfl := List.singleton_inj.mp same
      refine .inr ⟨⟨earlier, later, rfl, index, ?_⟩, ?_⟩
      · exact fun dropped => kept (List.mem_append_left _ dropped)
      · rintro rfl
        exact kept (List.mem_append_right _ (List.mem_singleton_self _))
  · rintro (⟨rfl, index⟩ | ⟨⟨earlier, later, rfl, index, kept⟩, other⟩)
    · exact ⟨actions, [], rfl, index, List.not_mem_nil⟩
    · refine ⟨earlier, later ++ [action], by simp, index, ?_⟩
      intro dropped
      rcases List.mem_append.mp dropped with old | new
      · exact kept old
      · exact other (List.mem_singleton.mp new).symm

def IsThere (bus : Broadcast) (subscriber : Nat) : Prop := ∃ position, bus.cursors[subscriber]? = some (some position)

theorem length_cursors_act (bus : Broadcast) (action : Action) :
    (bus.act action).cursors.length = bus.cursors.length + [action].countP Action.isSubscribe := by
  cases action with
  | subscribe => exact List.length_append
  | publish sender event =>
    rw [act]
    cases bus.sourceOf? sender with
    | none => rfl
    | some source => exact congrArg List.length (publish_frame bus source event).2.1
  | receive receiver =>
    rw [act, receive]
    split
    · exact List.length_set
    · rfl
  | dropSubscriber => exact List.length_set
  | addSender | dropSender | close => rfl

theorem isThere_receive {bus : Broadcast} {receiver subscriber : Nat} :
    (bus.receive receiver).2.IsThere subscriber ↔ bus.IsThere subscriber := by
  unfold IsThere
  rcases cursor : bus.cursors[receiver]? with _ | _ | position
  · simp only [receive, cursor]
  · simp only [receive, cursor]
  · rw [receive_eq cursor]
    by_cases same : receiver = subscriber
    · subst same
      have known : receiver < bus.cursors.length := (List.getElem?_eq_some_iff.mp cursor).choose
      simp [List.getElem?_set_self known, cursor]
    · rw [List.getElem?_set_ne same]

/-- The same is true of the cursors on the bus. -/
theorem isThere_act {bus : Broadcast} {action : Action} {subscriber : Nat} :
    (bus.act action).IsThere subscriber ↔
      (action = .subscribe ∧ bus.cursors.length = subscriber) ∨
      (bus.IsThere subscriber ∧ action ≠ .dropSubscriber subscriber) := by
  unfold IsThere
  cases action with
  | subscribe =>
    rw [act, subscribe]
    rcases Nat.lt_trichotomy subscriber bus.cursors.length with old | rfl | unknown
    · simp [List.getElem?_append_left old, Nat.ne_of_gt old]
    · simp
    · have absent : bus.cursors[subscriber]? = none := List.getElem?_eq_none (Nat.le_of_lt unknown)
      have beyond : (bus.cursors ++ [some bus.tail])[subscriber]? = none :=
        List.getElem?_eq_none (by rw [List.length_append, List.length_singleton]; omega)
      simp [absent, beyond, Nat.ne_of_lt unknown]
  | publish sender event =>
    rw [act]
    cases bus.sourceOf? sender with
    | none => simp
    | some source => simp [(publish_frame bus source event).2.1]
  | receive receiver =>
    simp only [reduceCtorEq, false_and, ne_eq, not_false_eq_true, and_true, false_or]
    exact isThere_receive
  | dropSubscriber dropped =>
    rw [act, dropSubscriber]
    by_cases same : dropped = subscriber
    · simp [same, List.getElem?_set]
    · simp [same, List.getElem?_set_ne same]
  | addSender | dropSender | close => simp [act, addSender, dropSender, close]

/-- Over a run from a new bus, the subscribers have the indices in which they came. -/
theorem length_cursors_after {opened : Broadcast} (nobody : opened.cursors = []) (actions : List Action) :
    (opened.after actions).cursors.length = actions.countP Action.isSubscribe := by
  induction actions using List.reverseRecOn with
  | nil => exact congrArg List.length nobody
  | append_singleton actions action ih =>
    rw [after_append, List.countP_append, ← ih]
    exact length_cursors_act _ action

/-- From an empty bus on, those are there who were subscribed and never dropped. -/
theorem isThere_after {opened : Broadcast} (nobody : opened.cursors = []) (actions : List Action) (subscriber : Nat) :
    (opened.after actions).IsThere subscriber ↔ Subscribes actions subscriber := by
  induction actions using List.reverseRecOn with
  | nil => simp [after, IsThere, Subscribes, nobody]
  | append_singleton actions action ih =>
    rw [after_append, subscribes_concat, ← ih, ← length_cursors_after nobody]
    exact isThere_act

/-- The indices of the subscribers that are there. -/
def present (bus : Broadcast) : List Nat :=
  (List.range bus.cursors.length).filter fun subscriber => bus.cursors[subscriber]?.join.isSome

theorem mem_present_iff {bus : Broadcast} {subscriber : Nat} :
    subscriber ∈ bus.present ↔ bus.IsThere subscriber := by
  unfold present IsThere
  rw [List.mem_filter, List.mem_range]
  constructor
  · rintro ⟨_, there⟩
    rcases cursor : bus.cursors[subscriber]? with _ | _ | position
    · simp [cursor] at there
    · simp [cursor] at there
    · exact ⟨position, rfl⟩
  · rintro ⟨position, cursor⟩
    exact ⟨(List.getElem?_eq_some_iff.mp cursor).choose, by simp [cursor]⟩

theorem length_present (bus : Broadcast) : bus.present.length = bus.subscriberCount := by
  have listed : (List.range bus.cursors.length).map (fun subscriber => bus.cursors[subscriber]?.join) = bus.cursors := by
    apply List.ext_getElem
    · simp
    · intro place _ inside
      simp [List.getElem?_eq_getElem inside]
  have counted : bus.cursors.countP Option.isSome =
      (List.range bus.cursors.length).countP fun subscriber => bus.cursors[subscriber]?.join.isSome := by
    conv_lhs => rw [← listed, List.countP_map]
    rfl
  unfold present subscriberCount
  rw [counted, List.countP_eq_length_filter]

/-- A publication is told how many subscribers there are. -/
theorem publish_count (bus : Broadcast) (source : EventSource) (event : Event) :
    (bus.publish source event).1 = bus.subscriberCount := by
  unfold publish
  split
  · exact Eq.symm ‹_›
  · rfl

/-! ### The law of the bus -/

/-- How the bus numbers and hands on what is published, over every run of it. -/
structure NumbersPublications (opened : Broadcast) : Prop where
  /-- A publication is told how many subscribers have come and not gone. -/
  counts : ∀ (actions : List Action) (source : EventSource) (event : Event), ∃ present : List Nat, present.Nodup ∧
    (∀ subscriber, subscriber ∈ present ↔ Subscribes actions subscriber) ∧
    ((opened.after actions).publish source event).1 = present.length
  /-- A subscriber that comes after some publications receives what follows on them. -/
  inSequence : ∀ earlier later : List Action,
    InSequence (opened.publications earlier).length
      ((opened.after (earlier ++ [.subscribe])).receipts (earlier.countP Action.isSubscribe) later)
  /-- An envelope carries the event and the source of the publication that has its number. -/
  faithful : ∀ (earlier later : List Action) (envelope : Envelope),
    .envelope envelope ∈ (opened.after (earlier ++ [.subscribe])).receipts (earlier.countP Action.isSubscribe) later →
    0 < envelope.sequence ∧ (opened.publications (earlier ++ .subscribe :: later))[envelope.sequence - 1]? =
      some (envelope.source, envelope.event)
  /-- Nothing is there for a subscriber only when all that was published since it came has been accounted for. -/
  exhausted : ∀ earlier later : List Action,
    ((opened.after (earlier ++ .subscribe :: later)).receive (earlier.countP Action.isSubscribe)).1 = .empty →
    reached (opened.publications earlier).length
        ((opened.after (earlier ++ [.subscribe])).receipts (earlier.countP Action.isSubscribe) later) =
      (opened.publications (earlier ++ .subscribe :: later)).length

theorem size_act (bus : Broadcast) (action : Action) : (bus.act action).size = bus.size := by
  cases action with
  | publish sender event =>
    rw [act]
    cases bus.sourceOf? sender with
    | none => rfl
    | some source => exact (publish_frame bus source event).1
  | receive receiver =>
    rw [act, receive]
    split <;> rfl
  | subscribe | addSender | dropSubscriber | dropSender | close => rfl

theorem size_after (bus : Broadcast) (actions : List Action) : (bus.after actions).size = bus.size := by
  induction actions generalizing bus with
  | nil => rfl
  | cons action rest ih => exact (ih _).trans (size_act bus action)

/-- A bus that nobody has used yet numbers whatever is published on it. -/
theorem numbersPublications {opened : Broadcast} (roomy : 0 < opened.size) (unused : opened.published = 0)
    (nothing : opened.kept = []) (nobody : opened.cursors = []) : opened.NumbersPublications := by
  have start : opened.Records [] := ⟨unused, by simp [nothing]⟩
  have recorded : ∀ actions, (opened.after actions).Records (opened.publications actions) := fun actions =>
    start.after actions
  have whole : ∀ earlier later : List Action, earlier ++ .subscribe :: later = (earlier ++ [.subscribe]) ++ later := by
    intro earlier later
    rw [List.append_assoc, List.singleton_append]
  have begins : ∀ earlier : List Action, (opened.after (earlier ++ [.subscribe])).Awaits
      (earlier.countP Action.isSubscribe) (opened.publications earlier).length := by
    intro earlier
    rw [after_append, ← length_cursors_after nobody, ← (recorded earlier).published_eq]
    apply Awaits.subscribe
    rw [size_after]
    exact roomy
  constructor
  case counts =>
    intro actions source event
    refine ⟨(opened.after actions).present, List.Nodup.filter _ List.nodup_range, ?_, ?_⟩
    · intro subscriber
      rw [mem_present_iff, isThere_after nobody]
    · rw [publish_count, length_present]
  case inSequence =>
    intro earlier later
    exact ((begins earlier).numbered later).inSequence
  case faithful =>
    intro earlier later envelope received
    rw [whole]
    unfold publications
    rw [gather_append]
    exact (recorded (earlier ++ [.subscribe])).received received
  case exhausted =>
    intro earlier later nothing
    rw [whole earlier later, after_append] at nothing
    have awaits := (begins earlier).after later
    rw [awaits.published_eq nothing, ← after_append, whole earlier later]
    exact (recorded _).published_eq

/-- A bus can be made with every capacity from one up to the greatest. Over every run it numbers what is published, and
subscribers account for all of it. -/
theorem bus_numbers_publications {capacity : Nat} (positive : 1 ≤ capacity) :
    ((∃ opened, create capacity = .ok opened) ↔ capacity ≤ maxCapacity) ∧
    ∀ opened, create capacity = .ok opened → opened.NumbersPublications := by
  constructor
  · constructor
    · rintro ⟨opened, created⟩
      exact (create_eq_ok_iff.mp created).2.1
    · intro within
      exact ⟨_, create_eq_ok_iff.mpr ⟨positive, within, rfl⟩⟩
  · intro opened created
    obtain ⟨_, _, rfl⟩ := create_eq_ok_iff.mp created
    refine numbersPublications ?_ rfl rfl rfl
    rw [ringSize_eq]
    exact Nat.two_pow_pos _

/-- With room for one envelope: one publication before the subscriber comes and three after it, of which it receives the
last. -/
theorem bus_numbers_publications_lagging :
    1 ≤ 1 ∧ create 1 = .ok { size := 1 } ∧
    (after { size := 1 } [.addSender .host, .publish 0 .shutdown, .subscribe]).receipts 0
        [.publish 0 .shutdown, .publish 0 .shutdown, .publish 0 .shutdown, .receive 0, .receive 0, .receive 0] =
      [.lagged 2, .envelope ⟨.shutdown, 4, .host⟩, .empty] ∧
    InSequence 1 [.lagged 2, .envelope ⟨.shutdown, 4, .host⟩, .empty] :=
  ⟨Nat.le_refl 1, rfl, rfl, ((bus_numbers_publications (Nat.le_refl 1)).2 { size := 1 } rfl).inSequence
    [.addSender .host, .publish 0 .shutdown]
    [.publish 0 .shutdown, .publish 0 .shutdown, .publish 0 .shutdown, .receive 0, .receive 0, .receive 0]⟩

end Broadcast
end ScriptBridge
