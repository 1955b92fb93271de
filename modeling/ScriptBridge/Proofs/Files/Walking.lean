import ScriptBridge.Files.FileSystem

/-!
# Walks through a file system

A path that resolves is a chain of moves: a name that stands for the place itself, a step up, a step into an entry, or a
link that is followed. `Walks` lists these moves once; everything about resolution is proved by induction on them. Where
a walk ends there is an entry and no link, and a walk that has more links to spend ends in the same place.
-/
namespace ScriptBridge

namespace Entry

def isLink : Entry → Bool
  | .link _ => true
  | _ => false

/-- Nothing lies below an entry that is no directory. -/
theorem child?_of_not_isDirectory {entry : Entry} (plain : entry.isDirectory = false) (name : FileName) :
    entry.child? name = none := by
  cases entry with
  | directory entries readable => cases plain
  | file | link | sink => rfl

theorem isDirectory_of_child? {entry child : Entry} {name : FileName} (inside : entry.child? name = some child) :
    entry.isDirectory = true := by
  cases plain : entry.isDirectory with
  | true => rfl
  | false =>
    rw [child?_of_not_isDirectory plain] at inside
    cases inside

theorem isLink_of_isDirectory {entry : Entry} (directory : entry.isDirectory = true) : entry.isLink = false := by
  cases entry with
  | directory => rfl
  | file | link | sink => cases directory

theorem descend?_append (entry : Entry) (front back : List FileName) :
    entry.descend? (front ++ back) = (entry.descend? front).bind (·.descend? back) := by
  induction front generalizing entry with
  | nil => rfl
  | cons name front ih =>
    simp only [List.cons_append, descend?]
    cases entry.child? name with
    | none => rfl
    | some child => exact ih child

end Entry

namespace FileSystem

def IsDirectoryAt (fs : FileSystem) (place : Location) : Prop :=
  ∃ entry, fs.entryAt? place = some entry ∧ entry.isDirectory = true

theorem entryAt?_concat {fs : FileSystem} {place : Location} {entry : Entry} (there : fs.entryAt? place = some entry)
    (name : FileName) : fs.entryAt? (place ++ [name]) = entry.child? name := by
  rw [entryAt?] at there ⊢
  rw [Entry.descend?_append, there, Option.bind_some, Entry.descend?]
  cases entry.child? name <;> rfl

/-- Every place on the way to a place below is a directory. -/
theorem isDirectoryAt_of_below {fs : FileSystem} {place : Location} {name : FileName} {rest : List FileName}
    {entry : Entry} (there : fs.entryAt? (place ++ name :: rest) = some entry) : fs.IsDirectoryAt place := by
  rw [entryAt?, Entry.descend?_append] at there
  obtain ⟨above, found, below⟩ := Option.bind_eq_some_iff.mp there
  obtain ⟨child, inside, -⟩ := Option.bind_eq_some_iff.mp below
  exact ⟨above, found, Entry.isDirectory_of_child? inside⟩

theorem IsDirectoryAt.of_prefix {fs : FileSystem} {front place : Location} (directory : fs.IsDirectoryAt place)
    (above : front <+: place) : fs.IsDirectoryAt front := by
  obtain ⟨back, rfl⟩ := above
  cases back with
  | nil => rwa [List.append_nil] at directory
  | cons name rest =>
    obtain ⟨entry, there, -⟩ := directory
    exact isDirectoryAt_of_below there

theorem IsDirectoryAt.dropLast {fs : FileSystem} {place : Location} (directory : fs.IsDirectoryAt place) :
    fs.IsDirectoryAt place.dropLast :=
  directory.of_prefix (List.dropLast_prefix place)

theorem IsDirectoryAt.root {fs : FileSystem} {place : Location} (directory : fs.IsDirectoryAt place) :
    fs.IsDirectoryAt [] :=
  directory.of_prefix List.nil_prefix

theorem IsDirectoryAt.not_isLink {fs : FileSystem} {place : Location} {entry : Entry}
    (directory : fs.IsDirectoryAt place) (there : fs.entryAt? place = some entry) : entry.isLink = false := by
  obtain ⟨same, found, isDirectory⟩ := directory
  rw [there, Option.some.injEq] at found
  subst found
  exact Entry.isLink_of_isDirectory isDirectory

/-- A name that is looked up in a directory: neither the place itself nor the one above it, and not too long. -/
structure IsOwnName (name : FileName) : Prop where
  notHere : ¬ (name = [] ∨ name = [Path.dot])
  notAbove : name ≠ [Path.dot, Path.dot]
  short : name.length ≤ maxName

/-- The place that a resolution ends at, whether something is there or not. -/
def Target.place : Target → Location
  | .found location _ => location
  | .missing directory name => directory ++ [name]

/-- The moves by which a walk comes to its end. -/
inductive Walks (fs : FileSystem) (purpose : Purpose) : Nat → Location → List FileName → Target → Prop where
  | arrive {links : Nat} {here : Location} {entry : Entry} (there : fs.entryAt? here = some entry) :
      Walks fs purpose links here [] (.found here entry)
  | stay {links : Nat} {here : Location} {name : FileName} {rest : List FileName} {target : Target}
      (directory : fs.IsDirectoryAt here) (idle : name = [] ∨ name = [Path.dot])
      (onward : Walks fs purpose links here rest target) : Walks fs purpose links here (name :: rest) target
  | rise {links : Nat} {here : Location} {rest : List FileName} {target : Target} (directory : fs.IsDirectoryAt here)
      (onward : Walks fs purpose links here.dropLast rest target) :
      Walks fs purpose links here ([Path.dot, Path.dot] :: rest) target
  /-- The last name is not there. -/
  | lack {links : Nat} {here : Location} {name : FileName} (directory : fs.IsDirectoryAt here) (own : IsOwnName name)
      (free : fs.entryAt? (here ++ [name]) = none) : Walks fs purpose links here [name] (.missing here name)
  /-- The last name is a link, and the walk is to the link itself. -/
  | claim {links : Nat} {here : Location} {name : FileName} {path : Path} (directory : fs.IsDirectoryAt here)
      (own : IsOwnName name) (linked : fs.entryAt? (here ++ [name]) = some (.link path)) (claims : purpose = .claim) :
      Walks fs purpose links here [name] (.found (here ++ [name]) (.link path))
  | follow {links : Nat} {here : Location} {name : FileName} {rest : List FileName} {path : Path} {target : Target}
      (directory : fs.IsDirectoryAt here) (own : IsOwnName name) (inside : ¬ (purpose = .create ∧ rest = [[]]))
      (linked : fs.entryAt? (here ++ [name]) = some (.link path)) (follows : ¬ (rest = [] ∧ purpose = .claim))
      (onward : Walks fs purpose links (if path.isAbsolute then [] else here) (steps path ++ rest) target) :
      Walks fs purpose (links + 1) here (name :: rest) target
  | enter {links : Nat} {here : Location} {name : FileName} {rest : List FileName} {entry : Entry} {target : Target}
      (directory : fs.IsDirectoryAt here) (own : IsOwnName name) (inside : ¬ (purpose = .create ∧ rest = [[]]))
      (there : fs.entryAt? (here ++ [name]) = some entry) (plain : entry.isLink = false)
      (onward : Walks fs purpose links (here ++ [name]) rest target) :
      Walks fs purpose links here (name :: rest) target

variable {fs : FileSystem} {purpose : Purpose}

theorem walk_nil {links : Nat} {here : Location} {entry : Entry} (there : fs.entryAt? here = some entry) :
    fs.walk purpose links here [] = .ok (.found here entry) := by
  cases links <;> rw [walk, walkNames, there]

section Moves
variable {links : Nat} {here : Location} {name : FileName} {rest : List FileName} (directory : fs.IsDirectoryAt here)
include directory

/-- An empty name and a dot lead nowhere. -/
theorem walk_stay (idle : name = [] ∨ name = [Path.dot]) :
    fs.walk purpose links here (name :: rest) = fs.walk purpose links here rest := by
  obtain ⟨entry, there, isDirectory⟩ := directory
  cases links <;>
    simp only [walk, walkNames, there, isDirectory, Bool.not_true, Bool.false_eq_true, idle, ↓reduceIte]

/-- Two dots lead up, and at the root they stay there. -/
theorem walk_rise :
    fs.walk purpose links here ([Path.dot, Path.dot] :: rest) = fs.walk purpose links here.dropLast rest := by
  obtain ⟨entry, there, isDirectory⟩ := directory
  cases links <;> simp [walk, walkNames, there, isDirectory]

/-- A last name that is free is where an entry is missing. -/
theorem walk_lack (own : IsOwnName name) (free : fs.entryAt? (here ++ [name]) = none) :
    fs.walk purpose links here [name] = .ok (.missing here name) := by
  obtain ⟨entry, there, isDirectory⟩ := directory
  rw [entryAt?_concat there] at free
  cases links <;> simp [walk, walkNames, there, isDirectory, own.notHere, own.notAbove, Nat.not_lt.mpr own.short, free]

/-- A claim takes a link at the end for what it is. -/
theorem walk_claim {path : Path} (own : IsOwnName name) (linked : fs.entryAt? (here ++ [name]) = some (.link path)) :
    fs.walk .claim links here [name] = .ok (.found (here ++ [name]) (.link path)) := by
  obtain ⟨entry, there, isDirectory⟩ := directory
  rw [entryAt?_concat there] at linked
  cases links <;>
    simp [walk, walkNames, there, isDirectory, own.notHere, own.notAbove, Nat.not_lt.mpr own.short, linked]

/-- A link in the way is replaced by the names of its own path, and one link less may follow. -/
theorem walk_follow {path : Path} (own : IsOwnName name) (inside : ¬ (purpose = .create ∧ rest = [[]]))
    (linked : fs.entryAt? (here ++ [name]) = some (.link path)) (follows : ¬ (rest = [] ∧ purpose = .claim)) :
    fs.walk purpose (links + 1) here (name :: rest) =
      fs.walk purpose links (if path.isAbsolute then [] else here) (steps path ++ rest) := by
  obtain ⟨entry, there, isDirectory⟩ := directory
  rw [entryAt?_concat there] at linked
  rw [walk, walkNames, there]
  simp [isDirectory, own.notHere, own.notAbove, Nat.not_lt.mpr own.short, inside, linked, follows]

/-- An entry that is no link is entered. -/
theorem walk_enter {child : Entry} (own : IsOwnName name) (inside : ¬ (purpose = .create ∧ rest = [[]]))
    (entered : fs.entryAt? (here ++ [name]) = some child) (plain : child.isLink = false) :
    fs.walk purpose links here (name :: rest) = fs.walk purpose links (here ++ [name]) rest := by
  obtain ⟨entry, there, isDirectory⟩ := directory
  rw [entryAt?_concat there] at entered
  cases child with
  | link path => cases plain
  | file | directory | sink =>
    cases links <;>
      simp only [walk, walkNames, there, isDirectory, Bool.not_true, Bool.false_eq_true, own.notHere, own.notAbove,
        Nat.not_lt.mpr own.short, inside, entered, ↓reduceIte]

end Moves

/-- A walk along names is a chain of moves, up to a link that is followed. -/
theorem walks_of_walkNames {links : Nat} {follow : Location → List FileName → Except SystemError Target} {target : Target}
    (onward : ∀ here names, follow here names = .ok target →
      ∃ left, links = left + 1 ∧ Walks fs purpose left here names target)
    {here : Location} {names : List FileName} (ended : fs.walkNames purpose follow here names = .ok target) :
    Walks fs purpose links here names target := by
  fun_induction walkNames fs purpose follow here names with
  | case1 here entry there => cases ended; exact .arrive there
  | case5 here name rest entry there isDirectory idle ih =>
    exact .stay ⟨entry, there, by simpa using isDirectory⟩ idle (ih ended)
  | case6 here rest entry there isDirectory _ ih =>
    exact .rise ⟨entry, there, by simpa using isDirectory⟩ (ih ended)
  | case9 here name rest entry there isDirectory notHere notAbove _ short free last =>
    cases ended
    obtain rfl := List.isEmpty_iff.mp last
    exact .lack ⟨entry, there, by simpa using isDirectory⟩ ⟨notHere, notAbove, Nat.le_of_not_lt short⟩
      ((entryAt?_concat there name).trans free)
  | case11 here name rest entry there isDirectory notHere notAbove _ short path linked claims =>
    cases ended
    obtain ⟨last, claims⟩ := Bool.and_eq_true_iff.mp claims
    obtain rfl := List.isEmpty_iff.mp last
    exact .claim ⟨entry, there, by simpa using isDirectory⟩ ⟨notHere, notAbove, Nat.le_of_not_lt short⟩
      ((entryAt?_concat there name).trans linked) (of_decide_eq_true claims)
  | case12 here name rest entry there isDirectory notHere notAbove inside short path linked follows =>
    have follows : ¬ (rest = [] ∧ purpose = .claim) := by simpa using follows
    obtain ⟨left, rfl, walks⟩ := onward _ _ ended
    exact .follow ⟨entry, there, by simpa using isDirectory⟩ ⟨notHere, notAbove, Nat.le_of_not_lt short⟩ inside
      ((entryAt?_concat there name).trans linked) follows walks
  | case13 here name rest entry there isDirectory notHere notAbove inside short child plain entered ih =>
    have plain : child.isLink = false := by
      cases child with
      | link path => exact absurd rfl (plain path)
      | file | directory | sink => rfl
    exact .enter ⟨entry, there, by simpa using isDirectory⟩ ⟨notHere, notAbove, Nat.le_of_not_lt short⟩ inside
      ((entryAt?_concat there name).trans entered) plain (ih ended)
  | _ => cases ended

/-- A walk gives a target exactly when some chain of moves leads to it. -/
theorem walk_eq_ok_iff {links : Nat} {here : Location} {names : List FileName} {target : Target} :
    fs.walk purpose links here names = .ok target ↔ Walks fs purpose links here names target := by
  constructor
  · intro ended
    induction links generalizing here names with
    | zero => exact walks_of_walkNames (fun _ _ wrong => by cases wrong) ended
    | succ left ih => exact walks_of_walkNames (fun _ _ onward => ⟨left, rfl, ih onward⟩) ended
  · intro walks
    induction walks with
    | arrive there => exact walk_nil there
    | stay directory idle onward ih => rw [walk_stay directory idle, ih]
    | rise directory onward ih => rw [walk_rise directory, ih]
    | lack directory own free => exact walk_lack directory own free
    | claim directory own linked claims =>
      subst claims
      exact walk_claim directory own linked
    | follow directory own inside linked follows onward ih => rw [walk_follow directory own inside linked follows, ih]
    | enter directory own inside entered plain onward ih => rw [walk_enter directory own inside entered plain, ih]

/-- A path resolves when it can be one and a walk along its steps comes to an end. -/
theorem resolve_eq_ok_iff {path : Path} {target : Target} :
    fs.resolve path purpose = .ok target ↔
      0 ∉ path.bytes ∧ path.bytes ≠ [] ∧ path.bytes.length < maxPath ∧
        Walks fs purpose maxLinks (if path.isAbsolute then [] else fs.workingDirectory) (steps path) target := by
  rw [resolve, ← walk_eq_ok_iff]
  by_cases nul : 0 ∈ path.bytes
  · simp [nul]
  · by_cases empty : path.bytes = []
    · simp [empty]
    · by_cases long : maxPath ≤ path.bytes.length
      · simp [nul, empty, long, Nat.not_lt.mpr long]
      · simp [nul, empty, long, Nat.lt_of_not_le long]

/-- What a file system has where a walk ends. -/
def Target.HoldsIn (fs : FileSystem) : Target → Prop
  | .found location entry => fs.entryAt? location = some entry
  | .missing directory name => fs.IsDirectoryAt directory ∧ fs.entryAt? (directory ++ [name]) = none

/-- A walk ends on what the tree holds: an entry at its place, or a free place in a directory. -/
theorem Walks.holdsIn {links : Nat} {here : Location} {names : List FileName} {target : Target}
    (walks : Walks fs purpose links here names target) : target.HoldsIn fs := by
  induction walks with
  | arrive there => exact there
  | lack directory own free => exact ⟨directory, free⟩
  | claim directory own linked claims => exact linked
  | stay _ _ _ ih | rise _ _ ih | follow _ _ _ _ _ _ ih | enter _ _ _ _ _ _ ih => exact ih

/-- Links on the way are followed, so a walk that is not to a link itself ends at none. -/
theorem Walks.not_isLink {links : Nat} {here : Location} {names : List FileName} {target : Target}
    (walks : Walks fs purpose links here names target) (looks : purpose ≠ .claim)
    (start : names = [] → ∀ entry, fs.entryAt? here = some entry → entry.isLink = false) :
    ∀ location entry, target = .found location entry → entry.isLink = false := by
  induction walks with
  | arrive there =>
    intro location entry found
    cases found
    exact start rfl _ there
  | stay directory idle onward ih => exact ih fun _ entry there => directory.not_isLink there
  | rise directory onward ih => exact ih fun _ entry there => directory.dropLast.not_isLink there
  | lack directory own free => intro location entry found; cases found
  | claim directory own linked claims => exact absurd claims looks
  | @follow _ _ _ _ path _ directory own inside linked follows onward ih =>
    refine ih fun _ entry there => ?_
    split at there
    · exact directory.root.not_isLink there
    · exact directory.not_isLink there
  | enter directory own inside entered plain onward ih =>
    refine ih fun _ entry there => ?_
    rw [entered, Option.some.injEq] at there
    subst there
    exact plain

/-- A walk that ends does so when more links may be followed, too. -/
theorem Walks.more_links {links more : Nat} {here : Location} {names : List FileName} {target : Target}
    (walks : Walks fs purpose links here names target) (enough : links ≤ more) :
    Walks fs purpose more here names target := by
  induction walks generalizing more with
  | arrive there => exact .arrive there
  | stay directory idle onward ih => exact .stay directory idle (ih enough)
  | rise directory onward ih => exact .rise directory (ih enough)
  | lack directory own free => exact .lack directory own free
  | claim directory own linked claims => exact .claim directory own linked claims
  | follow directory own inside linked follows onward ih =>
    obtain ⟨more, rfl⟩ : ∃ left, more = left + 1 := ⟨more - 1, by omega⟩
    exact .follow directory own inside linked follows (ih (by omega))
  | enter directory own inside entered plain onward ih => exact .enter directory own inside entered plain (ih enough)

/-- A look behind a place that was reached goes on from there, with the links that are left. -/
theorem Walks.walk_append {links : Nat} {here : Location} {names : List FileName} {target : Target}
    (walks : Walks fs .visit links here names target) :
    ∀ location entry, target = .found location entry →
      ∃ left ≤ links, ∀ rest, fs.walk .visit links here (names ++ rest) = fs.walk .visit left location rest := by
  induction walks with
  | @arrive links here entry there =>
    intro location entry found
    cases found
    exact ⟨links, Nat.le_refl links, fun rest => rfl⟩
  | stay directory idle onward ih =>
    intro location entry found
    obtain ⟨left, fewer, onward⟩ := ih location entry found
    exact ⟨left, fewer, fun rest => (walk_stay directory idle).trans (onward rest)⟩
  | rise directory onward ih =>
    intro location entry found
    obtain ⟨left, fewer, onward⟩ := ih location entry found
    exact ⟨left, fewer, fun rest => (walk_rise directory).trans (onward rest)⟩
  | lack directory own free => intro location entry found; cases found
  | claim directory own linked claims => cases claims
  | follow directory own inside linked follows onward ih =>
    intro location entry found
    obtain ⟨left, fewer, onward⟩ := ih location entry found
    refine ⟨left, by omega, fun rest => ?_⟩
    rw [List.cons_append, walk_follow directory own (by simp) linked (by simp), ← List.append_assoc, onward]
  | enter directory own inside entered plain onward ih =>
    intro location entry found
    obtain ⟨left, fewer, onward⟩ := ih location entry found
    exact ⟨left, fewer, fun rest => (walk_enter directory own (by simp) entered plain).trans (onward rest)⟩

/-- The names on the way to an entry that is no link lead to it, without any link. -/
theorem walk_names {links : Nat} (here : Location) {names : List FileName} {entry : Entry}
    (own : ∀ name ∈ names, IsOwnName name) (there : fs.entryAt? (here ++ names) = some entry)
    (plain : entry.isLink = false) (rest : List FileName) :
    fs.walk .visit links here (names ++ rest) = fs.walk .visit links (here ++ names) rest := by
  induction names generalizing here with
  | nil => rw [List.nil_append, List.append_nil]
  | cons name names ih =>
    have step : here ++ name :: names = (here ++ [name]) ++ names := List.append_cons here name names
    have directory : fs.IsDirectoryAt here := isDirectoryAt_of_below there
    rw [step] at there ⊢
    have entered : ∃ child, fs.entryAt? (here ++ [name]) = some child ∧ child.isLink = false := by
      cases names with
      | nil => exact ⟨entry, by rwa [List.append_nil] at there, plain⟩
      | cons next names =>
        obtain ⟨child, entered, isDirectory⟩ := isDirectoryAt_of_below there
        exact ⟨child, entered, Entry.isLink_of_isDirectory isDirectory⟩
    obtain ⟨child, entered, childPlain⟩ := entered
    rw [List.cons_append, walk_enter directory (own name List.mem_cons_self) (by simp) entered childPlain]
    exact ih _ (fun other member => own other (List.mem_cons_of_mem name member)) there

end FileSystem
end ScriptBridge
