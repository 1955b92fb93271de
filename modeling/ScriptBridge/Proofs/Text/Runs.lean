import Mathlib.Data.List.TakeWhile
import ScriptBridge.Text.Blank

/-!
# Runs of characters

Readers take the characters of one kind from the front of a text, up to the first one of another kind. Where that one is in
sight, what is taken and what is left are known, and two texts that agree agree in both parts. Trimming takes such runs of
white space from both ends.
-/
namespace ScriptBridge.Text

section Kinds

variable {kind : Char → Bool} {front back : List Char} (inside : ∀ c ∈ front, kind c = true)
  (stops : ∀ c ∈ back.head?, kind c = false)
include inside stops

theorem takeWhile_append_of_stops : (front ++ back).takeWhile kind = front := by
  rw [List.takeWhile_append_of_pos inside]
  cases back with
  | nil => exact List.append_nil front
  | cons c rest => rw [List.takeWhile_cons_of_neg (by simp [stops c rfl]), List.append_nil]

theorem dropWhile_append_of_stops : (front ++ back).dropWhile kind = back := by
  rw [List.dropWhile_append_of_pos inside]
  cases back with
  | nil => rfl
  | cons c rest => exact List.dropWhile_cons_of_neg (by simp [stops c rfl])

/-- Two texts that go on with characters of a kind up to a character of another kind agree in both parts. -/
theorem append_inj_of_kind {otherFront otherBack : List Char} (otherInside : ∀ c ∈ otherFront, kind c = true)
    (otherStops : ∀ c ∈ otherBack.head?, kind c = false) (same : front ++ back = otherFront ++ otherBack) :
    front = otherFront ∧ back = otherBack := by
  have fronts := congrArg (List.takeWhile kind) same
  have backs := congrArg (List.dropWhile kind) same
  rw [takeWhile_append_of_stops inside stops, takeWhile_append_of_stops otherInside otherStops] at fronts
  rw [dropWhile_append_of_stops inside stops, dropWhile_append_of_stops otherInside otherStops] at backs
  exact ⟨fronts, backs⟩

end Kinds

/-- Trimming takes the white space off both ends, when there is none in between. -/
theorem trim_eq {before body after : List Char} (blankBefore : ∀ c ∈ before, isBlank c = true)
    (blankAfter : ∀ c ∈ after, isBlank c = true) (shown : ∀ c ∈ body, isBlank c = false) :
    trim (before ++ body ++ after) = body := by
  cases body with
  | nil =>
    have blank : ∀ c ∈ before ++ after, isBlank c = true := List.forall_mem_append.mpr ⟨blankBefore, blankAfter⟩
    rw [List.append_nil, trim, List.dropWhile_eq_nil_iff.mpr blank]
    rfl
  | cons c body =>
    have front : (before ++ (c :: body ++ after)).dropWhile isBlank = c :: body ++ after :=
      dropWhile_append_of_stops blankBefore (by simp [shown c List.mem_cons_self])
    have behind : ∀ d ∈ after.reverse, isBlank d = true := fun d member => blankAfter d (List.mem_reverse.mp member)
    have back : (after.reverse ++ (c :: body).reverse).dropWhile isBlank = (c :: body).reverse :=
      dropWhile_append_of_stops behind fun d last => shown d (List.mem_reverse.mp (List.mem_of_mem_head? last))
    rw [trim, List.append_assoc, front, List.reverse_append, back, List.reverse_reverse]

/-- Around what is left by trimming there was nothing but white space. -/
theorem exists_trim (text : List Char) :
    ∃ before after, text = before ++ trim text ++ after ∧ (∀ c ∈ before, isBlank c = true) ∧
      ∀ c ∈ after, isBlank c = true := by
  let rest := text.dropWhile isBlank
  refine ⟨text.takeWhile isBlank, (rest.reverse.takeWhile isBlank).reverse, ?_,
    fun c => List.mem_takeWhile_imp, fun c member => List.mem_takeWhile_imp (List.mem_reverse.mp member)⟩
  have back : trim text ++ (rest.reverse.takeWhile isBlank).reverse = rest := by
    rw [trim, ← List.reverse_append, List.takeWhile_append_dropWhile, List.reverse_reverse]
  rw [List.append_assoc, back, List.takeWhile_append_dropWhile]

end ScriptBridge.Text
