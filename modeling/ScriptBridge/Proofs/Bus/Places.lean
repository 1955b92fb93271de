import ScriptBridge.Proofs.Bus.Receipts
import ScriptBridge.Proofs.Bus.Window

/-!
# The place of a subscriber

A subscriber stands at a position among the envelopes that were kept, while publications are numbered whether anybody is
there to see them or not. As long as a subscriber is there every publication is kept, so its position and the number of
the last publication that it was given or told lost move on together.
-/
namespace ScriptBridge
namespace Broadcast
open Receipts

/-- What one receive at a position comes to: a report of what was overwritten, the envelope at the position, or nothing
at the end. -/
theorem receiveAt_cases (bus : Broadcast) (position : Nat) :
    (position < bus.overwritten ∧
      bus.receiveAt position = (.lagged (bus.overwritten - position), bus.overwritten)) ∨
    (∃ envelope, bus.overwritten ≤ position ∧ bus.kept[position - bus.overwritten]? = some envelope ∧
      bus.receiveAt position = (.envelope envelope, position + 1)) ∨
    (bus.tail ≤ position ∧
      (bus.receiveAt position = (.closed, position) ∨ bus.receiveAt position = (.empty, position))) := by
  by_cases behind : position < bus.overwritten
  · exact .inl ⟨behind, receiveAt_lagged behind⟩
  · right
    cases found : bus.kept[position - bus.overwritten]? with
    | some envelope =>
      left
      refine ⟨envelope, by omega, rfl, ?_⟩
      rw [receiveAt, if_neg behind, found]
    | none =>
      right
      have short : bus.kept.length ≤ position - bus.overwritten := List.getElem?_eq_none_iff.mp found
      have atEnd : bus.tail ≤ position := by
        unfold tail
        omega
      refine ⟨atEnd, ?_⟩
      rw [receiveAt_of_tail_le atEnd]
      cases bus.isClosed
      · exact .inr rfl
      · exact .inl rfl

/-- Only a subscriber that is there receives anything. -/
theorem exists_position_of_received {bus : Broadcast} {subscriber : Nat}
    (received : (bus.receive subscriber).1 ≠ .closed) :
    ∃ position, bus.cursors[subscriber]? = some (some position) ∧
      (bus.receive subscriber).1 = (bus.receiveAt position).1 := by
  rcases cursor : bus.cursors[subscriber]? with _ | _ | position
  · simp [receive, cursor] at received
  · simp [receive, cursor] at received
  · exact ⟨position, rfl, by rw [receive_eq cursor]⟩

/-- At the position exactly the publications up to the given number have been accounted for. -/
structure Standing (bus : Broadcast) (position last : Nat) : Prop where
  within : position ≤ bus.tail
  outstanding : last + (bus.tail - position) = bus.published
  numbered : ∀ place envelope, bus.kept[place]? = some envelope → position ≤ bus.overwritten + place →
    envelope.sequence + position = last + 1 + (bus.overwritten + place)

namespace Standing
variable {bus : Broadcast} {position last : Nat}

/-- A new subscriber stands behind everything that was published. -/
theorem tail (bus : Broadcast) : bus.Standing bus.tail bus.published := by
  refine ⟨Nat.le_refl _, by omega, ?_⟩
  intro place envelope stored ahead
  have inside : place < bus.kept.length := (List.getElem?_eq_some_iff.mp stored).choose
  unfold Broadcast.tail at ahead
  omega

/-- One more envelope takes the next position, and pushes out the oldest one at most. -/
theorem keep (standing : bus.Standing position last) (roomy : 0 < bus.size) (envelope : Envelope)
    (number : envelope.sequence = bus.published + 1) :
    (({ bus with published := bus.published + 1 } : Broadcast).keep envelope).Standing position last := by
  have within := standing.within
  have outstanding := standing.outstanding
  unfold Broadcast.tail at within outstanding
  unfold Broadcast.keep
  by_cases free : bus.kept.length < bus.size
  · rw [if_pos free]
    refine ⟨?_, ?_, ?_⟩
    · simp only [Broadcast.tail, List.length_append, List.length_singleton]
      omega
    · simp only [Broadcast.tail, List.length_append, List.length_singleton]
      omega
    · intro place stored found ahead
      dsimp only at found ahead ⊢
      rcases Nat.lt_trichotomy place bus.kept.length with old | rfl | outside
      · rw [List.getElem?_append_left old] at found
        exact standing.numbered place stored found ahead
      · rw [List.getElem?_concat_length, Option.some.injEq] at found
        rw [← found, number]
        omega
      · rw [List.getElem?_eq_none (by simp only [List.length_append, List.length_singleton]; omega)] at found
        cases found
  · rw [if_neg free]
    have length : bus.kept.tail.length + 1 = bus.kept.length := by
      rw [List.length_tail]
      omega
    refine ⟨?_, ?_, ?_⟩
    · simp only [Broadcast.tail, List.length_append, List.length_singleton]
      omega
    · simp only [Broadcast.tail, List.length_append, List.length_singleton]
      omega
    · intro place stored found ahead
      dsimp only at found ahead ⊢
      rcases Nat.lt_trichotomy place bus.kept.tail.length with old | rfl | outside
      · rw [List.getElem?_append_left old, List.getElem?_tail] at found
        have numbered := standing.numbered (place + 1) stored found (by omega)
        omega
      · rw [List.getElem?_concat_length, Option.some.injEq] at found
        rw [← found, number]
        omega
      · rw [List.getElem?_eq_none (by simp only [List.length_append, List.length_singleton]; omega)] at found
        cases found

/-- One more publication lies ahead of every subscriber that is there. -/
theorem publish (standing : bus.Standing position last) (roomy : 0 < bus.size) (subscribed : bus.subscriberCount ≠ 0)
    (source : EventSource) (event : Event) : (bus.publish source event).2.Standing position last := by
  unfold Broadcast.publish
  rw [if_neg subscribed]
  exact standing.keep roomy ⟨event, bus.published + 1, source⟩ rfl

/-- The next envelope has the number after the last one accounted for. -/
theorem sequence_eq (standing : bus.Standing position last) {envelope : Envelope}
    (received : (bus.receiveAt position).1 = .envelope envelope) : envelope.sequence = last + 1 := by
  rcases bus.receiveAt_cases position with ⟨_, lagged⟩ | ⟨found, kept, stored, given⟩ | ⟨_, closed | empty⟩
  · rw [lagged] at received
    cases received
  · rw [given] at received
    cases received
    have numbered := standing.numbered _ envelope stored (by omega)
    omega
  · rw [closed] at received
    cases received
  · rw [empty] at received
    cases received

/-- Nothing is there only when everything published has been accounted for. -/
theorem published_eq (standing : bus.Standing position last) (nothing : (bus.receiveAt position).1 = .empty) :
    last = bus.published := by
  have outstanding := standing.outstanding
  rcases bus.receiveAt_cases position with ⟨_, lagged⟩ | ⟨found, _, _, given⟩ | ⟨atEnd, _⟩
  · rw [lagged] at nothing
    cases nothing
  · rw [given] at nothing
    cases nothing
  · omega

/-- A receive accounts for one publication more, or for those that it reports lost. -/
theorem receiveAt (standing : bus.Standing position last) :
    bus.Standing (bus.receiveAt position).2 (reached last [(bus.receiveAt position).1]) := by
  have within := standing.within
  have outstanding := standing.outstanding
  rcases bus.receiveAt_cases position with ⟨behind, lagged⟩ | ⟨found, kept, stored, given⟩ | ⟨_, closed | empty⟩
  · rw [lagged, reached_lagged]
    have inside : bus.overwritten ≤ bus.tail := Nat.le_add_right _ _
    refine ⟨inside, by omega, ?_⟩
    intro place envelope stored _
    have numbered := standing.numbered place envelope stored (by omega)
    omega
  · rw [given, reached_envelope]
    have inside : position - bus.overwritten < bus.kept.length := (List.getElem?_eq_some_iff.mp stored).choose
    have next : position + 1 ≤ bus.tail := by
      unfold Broadcast.tail
      omega
    refine ⟨next, by omega, ?_⟩
    intro place envelope stored ahead
    have numbered := standing.numbered place envelope stored (by omega)
    omega
  · rw [closed]
    exact standing
  · rw [empty]
    exact standing

end Standing

/-- The subscriber is known, and as long as it is there it stands where exactly the publications up to the given number
have been accounted for. -/
structure Awaits (bus : Broadcast) (subscriber last : Nat) : Prop where
  roomy : 0 < bus.size
  known : subscriber < bus.cursors.length
  standing : ∀ position, bus.cursors[subscriber]? = some (some position) → bus.Standing position last

namespace Awaits
variable {bus : Broadcast} {subscriber last : Nat}

/-- A new subscriber awaits what is published from now on. -/
theorem subscribe (roomy : 0 < bus.size) : bus.subscribe.Awaits bus.cursors.length bus.published := by
  refine ⟨roomy, ?_, ?_⟩
  · simp [Broadcast.subscribe]
  · intro position stands
    unfold Broadcast.subscribe at stands
    rw [List.getElem?_concat_length] at stands
    cases stands
    have standing := Standing.tail bus
    exact ⟨standing.within, standing.outstanding, standing.numbered⟩

/-- What happens beside the subscriber and the envelopes leaves it where it is. -/
theorem move (awaits : bus.Awaits subscriber last) {cursors : List (Option Nat)} (known : subscriber < cursors.length)
    (same : ∀ position, cursors[subscriber]? = some (some position) → bus.cursors[subscriber]? = some (some position))
    (senders : List (Option EventSource)) (isOpen : Bool) :
    ({ bus with cursors := cursors, senders := senders, isOpen := isOpen } : Broadcast).Awaits subscriber last := by
  refine ⟨awaits.roomy, known, ?_⟩
  intro position stands
  have standing := awaits.standing position (same position stands)
  exact ⟨standing.within, standing.outstanding, standing.numbered⟩

theorem publish (awaits : bus.Awaits subscriber last) (source : EventSource) (event : Event) :
    (bus.publish source event).2.Awaits subscriber last := by
  obtain ⟨size, cursors, _⟩ := publish_frame bus source event
  refine ⟨?_, ?_, ?_⟩
  · rw [size]
    exact awaits.roomy
  · rw [cursors]
    exact awaits.known
  · intro position stands
    rw [cursors] at stands
    exact (awaits.standing position stands).publish awaits.roomy (subscriberCount_ne_zero stands) source event

/-- What a subscriber receives tells the number that it awaits next. -/
theorem receive (awaits : bus.Awaits subscriber last) :
    (bus.receive subscriber).2.Awaits subscriber (reached last [(bus.receive subscriber).1]) := by
  have known := awaits.known
  rcases cursor : bus.cursors[subscriber]? with _ | _ | position
  · simp only [Broadcast.receive, cursor]
    exact awaits
  · simp only [Broadcast.receive, cursor]
    exact awaits
  · have standing := (awaits.standing position cursor).receiveAt
    rw [receive_eq cursor]
    refine ⟨awaits.roomy, by rw [List.length_set]; exact known, ?_⟩
    intro next moved
    dsimp only at moved
    rw [List.getElem?_set_self known] at moved
    cases moved
    exact ⟨standing.within, standing.outstanding, standing.numbered⟩

/-- A receive of another subscriber leaves this one where it is. -/
theorem receive_other (awaits : bus.Awaits subscriber last) {receiver : Nat} (different : receiver ≠ subscriber) :
    (bus.receive receiver).2.Awaits subscriber last := by
  unfold Broadcast.receive
  split
  · apply awaits.move
    · rw [List.length_set]
      exact awaits.known
    · intro position stands
      rwa [List.getElem?_set_ne different] at stands
  · exact awaits

/-- An envelope comes with the number that its subscriber awaited. -/
theorem sequence_eq (awaits : bus.Awaits subscriber last) {envelope : Envelope}
    (received : (bus.receive subscriber).1 = .envelope envelope) : envelope.sequence = last + 1 := by
  obtain ⟨position, stands, same⟩ := exists_position_of_received (by rw [received]; simp)
  exact (awaits.standing position stands).sequence_eq (same ▸ received)

/-- Where nothing is found, everything that was published has been accounted for. -/
theorem published_eq (awaits : bus.Awaits subscriber last) (nothing : (bus.receive subscriber).1 = .empty) :
    last = bus.published := by
  obtain ⟨position, stands, same⟩ := exists_position_of_received (by rw [nothing]; simp)
  exact (awaits.standing position stands).published_eq (same ▸ nothing)

end Awaits
end Broadcast
end ScriptBridge
