import ScriptBridge.Event

/-!
# The event bus

One bounded broadcast channel from the host to every script. The bus keeps the latest envelopes, as many as its
capacity rounded up to a power of two. A subscriber that falls behind is told how many envelopes it lost and goes on
with the oldest one kept. Each operation is one atomic step.
-/
namespace ScriptBridge

inductive EventSource where
  | host
  | runner
  deriving DecidableEq, Repr

structure Envelope where
  event : Event
  /-- The number of the publication, starting at one. A number of 64 bits would be the same up to the 2 ^ 64th
  publication, and no run makes so many. -/
  sequence : Nat
  source : EventSource
  deriving Repr

inductive CapacityError where
  | zero
  | tooLarge
  deriving DecidableEq, Repr

def CapacityError.message : CapacityError → String
  | .zero => "broadcast channel capacity cannot be zero"
  | .tooLarge => "broadcast channel capacity exceeded \x60usize::MAX / 2\x60"

inductive Receipt where
  | envelope (envelope : Envelope)
  /-- So many envelopes were overwritten before they were received. -/
  | lagged (missed : Nat)
  /-- Nothing is there yet. -/
  | empty
  /-- Nothing is left, and nobody can publish any more. -/
  | closed
  deriving Repr

structure Broadcast where
  /-- How many envelopes are kept. -/
  size : Nat
  /-- How many publications there were, counted without bound like `Envelope.sequence`. -/
  published : Nat := 0
  /-- How many envelopes have been overwritten. -/
  overwritten : Nat := 0
  /-- The latest envelopes, the oldest first. -/
  kept : List Envelope := []
  /-- For each subscriber the position of the next envelope it will see, counted from the first one ever kept;
  nothing once the subscriber is gone. -/
  cursors : List (Option Nat) := []
  /-- For each sender its source; nothing once the sender is gone. -/
  senders : List (Option EventSource) := []
  /-- The bus itself can still hand out senders. -/
  isOpen : Bool := true

namespace Broadcast

/-- The least power of two that is at least the given capacity. -/
def ringSize (capacity : Nat) : Nat := Nat.pow 2 (if capacity ≤ 1 then 0 else (capacity - 1).log2 + 1)

def maxCapacity : Nat := Nat.pow 2 63 - 1

/-- A bus without subscribers and senders. -/
def create (capacity : Nat) : Except CapacityError Broadcast :=
  if capacity = 0 then .error .zero
  else if maxCapacity < capacity then .error .tooLarge
  else .ok { size := ringSize capacity }

/-- The position behind the last envelope. -/
def tail (bus : Broadcast) : Nat := bus.overwritten + bus.kept.length

def subscriberCount (bus : Broadcast) : Nat := bus.cursors.countP Option.isSome

/-- Adds a subscriber, which sees what is published from now on. Its index is the number of earlier ones. -/
def subscribe (bus : Broadcast) : Broadcast := { bus with cursors := bus.cursors ++ [some bus.tail] }

/-- Adds a sender. Its index is the number of earlier ones. -/
def addSender (bus : Broadcast) (source : EventSource) : Broadcast :=
  { bus with senders := bus.senders ++ [some source] }

/-- Keeps one more envelope, in place of the oldest when the bus is full. -/
def keep (bus : Broadcast) (envelope : Envelope) : Broadcast :=
  if bus.kept.length < bus.size then { bus with kept := bus.kept ++ [envelope] }
  else { bus with kept := bus.kept.tail ++ [envelope], overwritten := bus.overwritten + 1 }

/-- Publishes an event. The count of publications grows in any case, but an event that nobody is subscribed to is not
kept. Gives the number of subscribers that can see it. -/
def publish (bus : Broadcast) (source : EventSource) (event : Event) : Nat × Broadcast :=
  let counted := { bus with published := bus.published + 1 }
  if bus.subscriberCount = 0 then (0, counted)
  else (bus.subscriberCount, counted.keep ⟨event, bus.published + 1, source⟩)

/-- Publishes events one after another. Gives the number of subscribers that can see each. -/
def publishAll (bus : Broadcast) (source : EventSource) : List Event → List Nat × Broadcast
  | [] => ([], bus)
  | event :: rest =>
    let (count, after) := bus.publish source event
    let (counts, last) := after.publishAll source rest
    (count :: counts, last)

/-- Nobody can publish any more. -/
def isClosed (bus : Broadcast) : Bool := !bus.isOpen && bus.senders.all Option.isNone

/-- What is there for a subscriber whose next position is given, and its position afterwards. -/
def receiveAt (bus : Broadcast) (position : Nat) : Receipt × Nat :=
  if position < bus.overwritten then (.lagged (bus.overwritten - position), bus.overwritten)
  else
    match bus.kept[position - bus.overwritten]? with
    | some envelope => (.envelope envelope, position + 1)
    | none => (if bus.isClosed then .closed else .empty, position)

def receive (bus : Broadcast) (subscriber : Nat) : Receipt × Broadcast :=
  match bus.cursors[subscriber]? with
  | some (some position) =>
    let (receipt, next) := bus.receiveAt position
    (receipt, { bus with cursors := bus.cursors.set subscriber (some next) })
  | _ => (.closed, bus)

def dropSubscriber (bus : Broadcast) (subscriber : Nat) : Broadcast :=
  { bus with cursors := bus.cursors.set subscriber none }

def dropSender (bus : Broadcast) (sender : Nat) : Broadcast :=
  { bus with senders := bus.senders.set sender none }

/-- Gives up the bus itself; senders that were handed out still work. -/
def close (bus : Broadcast) : Broadcast := { bus with isOpen := false }

end Broadcast
end ScriptBridge
