import ScriptBridge.Bus.Broadcast

/-!
# The receipts of a subscriber

What a subscriber received, and how far it got: every envelope and every publication that was reported lost brings it
one publication further. Receipts follow on each other when every envelope has the number after the one reached before.
-/
namespace ScriptBridge

def Receipt.envelope? : Receipt → Option Envelope
  | .envelope carried => some carried
  | _ => none

def Receipt.missed : Receipt → Nat
  | .lagged missed => missed
  | _ => 0

theorem Receipt.envelope?_eq_some_iff {receipt : Receipt} {carried : Envelope} :
    receipt.envelope? = some carried ↔ receipt = .envelope carried := by
  cases receipt <;> simp [envelope?]

namespace Receipts

def envelopes (receipts : List Receipt) : List Envelope := receipts.filterMap Receipt.envelope?

def lost : List Receipt → Nat
  | [] => 0
  | receipt :: rest => receipt.missed + lost rest

/-- The number of the last publication that a subscriber was given or told lost, when it began after the given one. -/
def reached (start : Nat) (receipts : List Receipt) : Nat := start + (envelopes receipts).length + lost receipts

/-- Every envelope has the number after the last one reached. -/
def Numbered (start : Nat) (receipts : List Receipt) : Prop :=
  ∀ front envelope back, receipts = front ++ .envelope envelope :: back → envelope.sequence = reached start front + 1

/-- Receipts follow on the publication that they start after: the numbers increase, and between one envelope and the
next are as many publications as were reported lost. -/
structure InSequence (start : Nat) (receipts : List Receipt) : Prop where
  above : ∀ envelope ∈ envelopes receipts, start < envelope.sequence
  increasing : (envelopes receipts).Pairwise fun earlier later => earlier.sequence < later.sequence
  first : ∀ front envelope back, receipts = front ++ .envelope envelope :: back → envelopes front = [] →
    envelope.sequence = start + 1 + lost front
  next : ∀ front previous between envelope back,
    receipts = front ++ .envelope previous :: (between ++ .envelope envelope :: back) → envelopes between = [] →
    envelope.sequence = previous.sequence + 1 + lost between

theorem lost_append (front back : List Receipt) : lost (front ++ back) = lost front + lost back := by
  induction front with
  | nil => exact (Nat.zero_add _).symm
  | cons receipt rest ih => rw [List.cons_append, lost, lost, ih, Nat.add_assoc]

theorem reached_append (start : Nat) (front back : List Receipt) :
    reached start (front ++ back) = reached (reached start front) back := by
  unfold reached envelopes
  rw [List.filterMap_append, List.length_append, lost_append]
  omega

theorem reached_envelope (start : Nat) (envelope : Envelope) : reached start [.envelope envelope] = start + 1 := rfl

theorem reached_lagged (start missed : Nat) : reached start [.lagged missed] = start + missed := rfl

namespace Numbered
variable {start : Nat} {receipt : Receipt} {rest receipts : List Receipt}

theorem nil (start : Nat) : Numbered start [] := by
  intro front envelope back split
  simp at split

theorem cons (follows : ∀ envelope, receipt = .envelope envelope → envelope.sequence = start + 1)
    (numbered : Numbered (reached start [receipt]) rest) : Numbered start (receipt :: rest) := by
  intro front envelope back split
  cases front with
  | nil =>
    obtain ⟨same, _⟩ := List.cons_eq_cons.mp split
    exact follows envelope same
  | cons head front =>
    obtain ⟨rfl, remaining⟩ := List.cons_eq_cons.mp split
    rw [numbered front envelope back remaining, ← reached_append]
    rfl

theorem of_cons (numbered : Numbered start (receipt :: rest)) : Numbered (reached start [receipt]) rest := by
  intro front envelope back split
  have whole := numbered (receipt :: front) envelope back (by rw [split, List.cons_append])
  rw [whole, ← reached_append]
  rfl

/-- Numbers never fall back behind the start. -/
theorem above (numbered : Numbered start receipts) : ∀ envelope ∈ envelopes receipts, start < envelope.sequence := by
  intro envelope member
  obtain ⟨receipt, received, shown⟩ := List.mem_filterMap.mp member
  obtain rfl := Receipt.envelope?_eq_some_iff.mp shown
  obtain ⟨front, back, split⟩ := List.append_of_mem received
  have number := numbered front envelope back split
  unfold reached at number
  omega

/-- A report of a loss moves the numbers on and never back, so they increase strictly. -/
theorem increasing (numbered : Numbered start receipts) :
    (envelopes receipts).Pairwise fun earlier later => earlier.sequence < later.sequence := by
  induction receipts generalizing start with
  | nil => exact List.Pairwise.nil
  | cons receipt rest ih =>
    cases receipt with
    | envelope envelope =>
      have number : envelope.sequence = start + 1 := numbered [] envelope rest rfl
      refine List.Pairwise.cons ?_ (ih numbered.of_cons)
      intro later member
      have beyond := numbered.of_cons.above later member
      rw [reached_envelope] at beyond
      omega
    | lagged | empty | closed => exact ih numbered.of_cons

theorem inSequence (numbered : Numbered start receipts) : InSequence start receipts where
  above := numbered.above
  increasing := numbered.increasing
  first := by
    intro front envelope back split none
    have number := numbered front envelope back split
    unfold reached at number
    rw [none] at number
    simp only [List.length_nil] at number
    omega
  next := by
    intro front previous between envelope back split none
    have before := numbered front previous _ split
    have number := numbered (front ++ .envelope previous :: between) envelope back (by rw [split]; simp)
    rw [reached_append, ← List.singleton_append, reached_append, reached_envelope] at number
    unfold reached at number before
    rw [none] at number
    simp only [List.length_nil] at number
    omega

end Numbered
end Receipts
end ScriptBridge
