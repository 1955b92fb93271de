import Mathlib.Algebra.Group.Nat.Defs
import Mathlib.Data.Nat.Log
import ScriptBridge.Bus.Broadcast

/-!
# The window of the bus

Of all events that were sent over the bus it keeps the latest, as many as it has room for. A subscriber stands at a
position among all of them: an event that is kept is received there, and where it was overwritten the subscriber is told
how many it lost and is moved to the oldest one kept.
-/
namespace ScriptBridge
namespace Broadcast

/-- The room of a bus is the least power of two that its capacity does not exceed. -/
theorem ringSize_eq (capacity : Nat) : ringSize capacity = 2 ^ Nat.clog 2 capacity := by
  have exponent : (if capacity ≤ 1 then 0 else (capacity - 1).log2 + 1) = Nat.clog 2 capacity := by
    by_cases small : capacity ≤ 1
    · rw [if_pos small, Nat.clog_of_right_le_one small]
    · rw [if_neg small]
      have above : capacity - 1 < 2 ^ ((capacity - 1).log2 + 1) := Nat.lt_log2_self
      have below : 2 ^ (capacity - 1).log2 ≤ capacity - 1 := Nat.log2_self_le (by omega)
      have least : (capacity - 1).log2 < Nat.clog 2 capacity := (Nat.lt_clog_iff_pow_lt Nat.one_lt_two).mpr (by omega)
      have enough : Nat.clog 2 capacity ≤ (capacity - 1).log2 + 1 := Nat.clog_le_of_le_pow (by omega)
      omega
  rw [ringSize, exponent]
  rfl

/-- Exactly the capacities within the bounds give a bus, and it starts out empty. -/
theorem create_eq_ok_iff {capacity : Nat} {bus : Broadcast} :
    create capacity = .ok bus ↔ 1 ≤ capacity ∧ capacity ≤ maxCapacity ∧ bus = { size := ringSize capacity } := by
  rw [create]
  by_cases zero : capacity = 0
  · rw [if_pos zero]
    simp only [reduceCtorEq, false_iff]
    omega
  · rw [if_neg zero]
    by_cases large : maxCapacity < capacity
    · rw [if_pos large]
      simp only [reduceCtorEq, false_iff]
      omega
    · rw [if_neg large, Except.ok.injEq, eq_comm]
      constructor
      · intro same
        exact ⟨by omega, by omega, same⟩
      · rintro ⟨_, _, same⟩
        exact same

theorem foldl_subscribe {α : Type} (subscribers : List α) (bus : Broadcast) :
    subscribers.foldl (fun bus _ => bus.subscribe) bus =
      { bus with cursors := bus.cursors ++ List.replicate subscribers.length (some bus.tail) } := by
  induction subscribers generalizing bus with
  | nil => simp
  | cons _ rest ih =>
    rw [List.foldl_cons, ih]
    simp only [subscribe, tail, List.append_assoc, List.singleton_append, List.length_cons, List.replicate_succ]

/-- Behind the last envelope there is nothing more, or nothing yet. -/
theorem receiveAt_of_tail_le {bus : Broadcast} {position : Nat} (atEnd : bus.tail ≤ position) :
    bus.receiveAt position = (if bus.isClosed then .closed else .empty, position) := by
  unfold tail at atEnd
  rw [receiveAt, if_neg (by omega), List.getElem?_eq_none (by omega)]

/-- The bus has room, and keeps the latest of the events that were sent. -/
structure Carries (bus : Broadcast) (sent : List Event) : Prop where
  roomy : 0 < bus.size
  overwritten_eq : bus.overwritten = sent.length - bus.size
  kept_eq : bus.kept.map Envelope.event = sent.drop bus.overwritten

namespace Carries
variable {bus : Broadcast} {sent : List Event}

theorem nil (roomy : 0 < bus.size) (overwritten : bus.overwritten = 0) (kept : bus.kept = []) : bus.Carries [] := by
  refine ⟨roomy, ?_, ?_⟩
  · rw [overwritten, List.length_nil, Nat.zero_sub]
  · rw [kept, List.map_nil, List.drop_nil]

theorem length_kept (carries : bus.Carries sent) : bus.kept.length = sent.length - bus.overwritten := by
  rw [← List.length_map Envelope.event, carries.kept_eq, List.length_drop]

/-- One more envelope is kept, at the cost of the oldest one when the window is full. -/
theorem keep (carries : bus.Carries sent) (envelope : Envelope) :
    (bus.keep envelope).Carries (sent ++ [envelope.event]) := by
  have room := carries.roomy
  have lost := carries.overwritten_eq
  have length := carries.length_kept
  rw [Broadcast.keep]
  by_cases free : bus.kept.length < bus.size
  · rw [if_pos free]
    refine ⟨room, ?_, ?_⟩
    · simp only [List.length_append, List.length_singleton]
      omega
    · simp only [List.map_append, List.map_singleton, carries.kept_eq]
      rw [List.drop_append_of_le_length (by omega)]
  · rw [if_neg free]
    refine ⟨room, ?_, ?_⟩
    · simp only [List.length_append, List.length_singleton]
      omega
    · simp only [List.map_append, List.map_singleton, List.map_tail, carries.kept_eq, List.tail_drop]
      rw [List.drop_append_of_le_length (by omega)]

/-- A publication stands behind all that the bus carries, as long as anybody is subscribed. -/
theorem publish (carries : bus.Carries sent) (subscribed : bus.subscriberCount ≠ 0) (source : EventSource)
    (event : Event) : (bus.publish source event).2.Carries (sent ++ [event]) := by
  rw [Broadcast.publish, if_neg subscribed]
  have counted : ({ bus with published := bus.published + 1 } : Broadcast).Carries sent :=
    ⟨carries.roomy, carries.overwritten_eq, carries.kept_eq⟩
  exact counted.keep ⟨event, bus.published + 1, source⟩

theorem move (carries : bus.Carries sent) (cursors : List (Option Nat)) :
    ({ bus with cursors := cursors } : Broadcast).Carries sent :=
  ⟨carries.roomy, carries.overwritten_eq, carries.kept_eq⟩

/-- Within the window a subscriber receives the event at its position. -/
theorem receiveAt_kept (carries : bus.Carries sent) {position : Nat} {event : Event}
    (kept : bus.overwritten ≤ position) (there : sent[position]? = some event) :
    ∃ envelope : Envelope, envelope.event = event ∧ bus.receiveAt position = (.envelope envelope, position + 1) := by
  have found : (bus.kept.map Envelope.event)[position - bus.overwritten]? = some event := by
    rw [carries.kept_eq, List.getElem?_drop, Nat.add_sub_cancel' kept]
    exact there
  rw [List.getElem?_map, Option.map_eq_some_iff] at found
  obtain ⟨envelope, stored, same⟩ := found
  refine ⟨envelope, same, ?_⟩
  rw [receiveAt, if_neg (by omega), stored]

/-- At the end of an open bus there is nothing to receive yet. -/
theorem receiveAt_end (carries : bus.Carries sent) (isOpen : bus.isOpen = true) :
    bus.receiveAt sent.length = (.empty, sent.length) := by
  have atEnd : bus.tail ≤ sent.length := by
    have length := carries.length_kept
    have overwritten := carries.overwritten_eq
    unfold tail
    omega
  rw [receiveAt_of_tail_le atEnd]
  simp only [isClosed, isOpen, Bool.not_true, Bool.false_and, Bool.false_eq_true, ↓reduceIte]

end Carries

/-- Behind the window a subscriber is told how many it has missed, and goes on with the oldest one kept. -/
theorem receiveAt_lagged {bus : Broadcast} {position : Nat} (behind : position < bus.overwritten) :
    bus.receiveAt position = (.lagged (bus.overwritten - position), bus.overwritten) := by
  rw [receiveAt, if_pos behind]

theorem receive_eq {bus : Broadcast} {subscriber position : Nat}
    (cursor : bus.cursors[subscriber]? = some (some position)) :
    bus.receive subscriber = ((bus.receiveAt position).1,
      { bus with cursors := bus.cursors.set subscriber (some (bus.receiveAt position).2) }) := by
  simp only [receive, cursor]

theorem publish_frame (bus : Broadcast) (source : EventSource) (event : Event) :
    (bus.publish source event).2.size = bus.size ∧ (bus.publish source event).2.cursors = bus.cursors ∧
      (bus.publish source event).2.isOpen = bus.isOpen := by
  simp only [publish, Broadcast.keep]
  split
  · exact ⟨rfl, rfl, rfl⟩
  · split <;> exact ⟨rfl, rfl, rfl⟩

theorem subscriberCount_ne_zero {bus : Broadcast} {subscriber position : Nat}
    (cursor : bus.cursors[subscriber]? = some (some position)) : bus.subscriberCount ≠ 0 := by
  have present : some position ∈ bus.cursors := List.mem_of_getElem? cursor
  have counted : 0 < bus.cursors.countP Option.isSome := List.countP_pos_iff.mpr ⟨_, present, rfl⟩
  exact Nat.ne_of_gt counted

end Broadcast
end ScriptBridge
