/-!
# Tables

Finite maps as lists of entries in ascending order of their keys, each key once. Looking up, inserting and erasing
keep to that form; the order is the one in which every listing of the entries appears.
-/
namespace ScriptBridge.Table

variable {κ α : Type} [DecidableEq κ]

def get? (key : κ) : List (κ × α) → Option α
  | [] => none
  | (other, value) :: rest => if key = other then some value else get? key rest

/-- Stores a value under a key, in place of an earlier one. -/
def insert [LT κ] [DecidableLT κ] (key : κ) (value : α) : List (κ × α) → List (κ × α)
  | [] => [(key, value)]
  | (other, previous) :: rest =>
    if key = other then (key, value) :: rest
    else if key < other then (key, value) :: (other, previous) :: rest
    else (other, previous) :: insert key value rest

def erase (key : κ) : List (κ × α) → List (κ × α)
  | [] => []
  | (other, value) :: rest =>
    if key = other then erase key rest else (other, value) :: erase key rest

def contains (key : κ) (entries : List (κ × α)) : Bool := (get? key entries).isSome

/-- The table of a list of entries; of two with one key the later counts. -/
def ofList [LT κ] [DecidableLT κ] (entries : List (κ × α)) : List (κ × α) :=
  entries.foldl (fun table entry => insert entry.1 entry.2 table) []

omit [DecidableEq κ] in
/-- The keys in ascending order. -/
def keys (entries : List (κ × α)) : List κ := entries.map Prod.fst

@[simp] theorem get?_nil (key : κ) : get? key ([] : List (κ × α)) = none := rfl

/-- Something is stored under each key that is listed, and under no other. -/
theorem isSome_get?_iff {key : κ} {entries : List (κ × α)} :
    (get? key entries).isSome = true ↔ key ∈ entries.map Prod.fst := by
  induction entries with
  | nil => simp
  | cons entry rest ih =>
    obtain ⟨other, value⟩ := entry
    by_cases same : key = other <;> simp [get?, same, ih]

theorem get?_insert [LT κ] [DecidableLT κ] (key other : κ) (value : α) (entries : List (κ × α)) :
    get? other (insert key value entries) = if other = key then some value else get? other entries := by
  induction entries with
  | nil => simp [insert, get?]
  | cons entry rest ih =>
    obtain ⟨head, previous⟩ := entry
    by_cases equal : key = head
    · subst equal; simp only [insert, get?, ↓reduceIte]; split <;> simp_all
    · by_cases less : key < head
      · simp [insert, get?, equal, less]
      · simp only [insert, get?, equal, less, ↓reduceIte, ih]
        by_cases h1 : other = head <;> by_cases h2 : other = key <;> simp_all

theorem get?_erase (key other : κ) (entries : List (κ × α)) :
    get? other (erase key entries) = if other = key then none else get? other entries := by
  induction entries with
  | nil => simp [erase]
  | cons entry rest ih =>
    obtain ⟨head, previous⟩ := entry
    by_cases equal : key = head
    · subst equal; simp only [erase, get?, ↓reduceIte, ih]; split <;> simp_all
    · simp only [erase, get?, equal, ↓reduceIte, ih]
      by_cases h1 : other = head <;> by_cases h2 : other = key <;> simp_all

/-- Removing a key that is not there changes nothing. -/
theorem erase_of_get?_eq_none {key : κ} {entries : List (κ × α)} (missing : get? key entries = none) :
    erase key entries = entries := by
  induction entries with
  | nil => rfl
  | cons entry rest ih =>
    obtain ⟨head, value⟩ := entry
    by_cases equal : key = head
    · simp [get?, equal] at missing
    · simp only [get?, equal, ↓reduceIte] at missing
      simp only [erase, equal, ↓reduceIte, ih missing]

end ScriptBridge.Table
