import ScriptBridge.Toml.Value

/-!
# Tables under construction

While a document is read, a table remembers how it came about, for that decides what may still be added to it: a table
under its own header is complete at the next header and cannot be opened again; a table that a longer header mentions on
the way can still get a header of its own; and a table made by dotted keys grows by dotted keys only. A value, an inline
table among them, never grows.
-/
namespace ScriptBridge.Toml

/-- How a table came about. -/
inductive Origin where
  /-- By a header of its own, or as the whole of a document or inline table. -/
  | header
  /-- On the way of a longer header. -/
  | passage
  /-- On the way of a dotted key. -/
  | dotted
  deriving DecidableEq, Repr

/-- What a key stands for while the document is read. -/
inductive Draft where
  | value (value : Value)
  | table (origin : Origin) (entries : List (String × Draft))
  /-- An array of tables, of which the last can still be reached. -/
  | tables (earlier : List (List (String × Draft))) (last : List (String × Draft))

/-- The entries of a table under construction, by ascending keys. -/
abbrev DraftEntries := List (String × Draft)

mutual

def Draft.finish : Draft → Value
  | .value value => value
  | .table _ entries => .table (finishEntries entries)
  | .tables earlier last => .array (finishTables earlier ++ [.table (finishEntries last)])

def finishEntries : List (String × Draft) → Entries
  | [] => []
  | (key, draft) :: rest => (key, draft.finish) :: finishEntries rest

def finishTables : List (List (String × Draft)) → List Value
  | [] => []
  | entries :: rest => .table (finishEntries entries) :: finishTables rest

end

/-- Changes the table that a path leads to, and gives what the change gives. Tables that are missing on the way are
made; an array of tables is entered at its last table. -/
def changeAt {α : Type} (dotted : Bool) (change : Origin → DraftEntries → Option (α × DraftEntries)) :
    List String → Origin → DraftEntries → Option (α × DraftEntries)
  | [], origin, entries => change origin entries
  | key :: path, _, entries =>
    match Table.get? key entries with
    | none => do
      let origin := if dotted then .dotted else .passage
      let (result, inner) ← changeAt dotted change path origin []
      some (result, Table.insert key (.table origin inner) entries)
    | some (.value _) => none
    | some (.table origin inner) => do
      if dotted && origin == .header then none
      let (result, inner) ← changeAt dotted change path origin inner
      some (result, Table.insert key (.table origin inner) entries)
    | some (.tables earlier last) => do
      let (result, last) ← changeAt dotted change path .header last
      some (result, Table.insert key (.tables earlier last) entries)

/-- Puts a value under a key that is still free. -/
def putNew (key : String) (draft : Draft) (entries : DraftEntries) : Option DraftEntries :=
  if Table.contains key entries then none else some (Table.insert key draft entries)

/-- Adds a value under a dotted key, given by the keys in front of the last one and the last one. -/
def addValue (path : List String) (key : String) (value : Value) (entries : DraftEntries) :
    Option DraftEntries := do
  let ((), entries) ← changeAt true (fun origin inner =>
    if (origin == .dotted) == path.isEmpty then none
    else (putNew key (.value value) inner).map fun inner => ((), inner)) path .header entries
  some entries

/-- A document under construction: the finished tables, and the one that is being filled. -/
structure DocumentDraft where
  root : DraftEntries := []
  current : DraftEntries := []
  /-- Where the current table belongs: the keys in front of the last one, the last one, and whether it is a new table
  of an array. Nothing while no header has been read. -/
  place : Option (List String × String × Bool) := none

namespace DocumentDraft

/-- Takes a table that may get a header of its own out of its parent. -/
def takeTable (key : String) (entries : DraftEntries) : Option (DraftEntries × DraftEntries) :=
  match Table.get? key entries with
  | none => some ([], entries)
  | some (.table .passage inner) => some (inner, Table.erase key entries)
  | some _ => none

/-- Adds a table to an array of tables, which starts with it if there is none. -/
def pushTable (key : String) (table : DraftEntries) (entries : DraftEntries) : Option (Unit × DraftEntries) :=
  match Table.get? key entries with
  | none => some ((), Table.insert key (.tables [] table) entries)
  | some (.tables earlier last) => some ((), Table.insert key (.tables (earlier ++ [last]) table) entries)
  | some _ => none

/-- Whether a table can be added to an array of tables under a key. -/
def admitsTable (key : String) (entries : DraftEntries) : Option (Unit × DraftEntries) :=
  match Table.get? key entries with
  | none | some (.tables ..) => some ((), entries)
  | some _ => none

/-- Files the current table where it belongs. -/
def fileCurrent (draft : DocumentDraft) : Option DraftEntries :=
  match draft.place with
  | none => some draft.current
  | some (path, key, isArray) => do
    let ((), root) ← changeAt false (fun _ entries =>
      if isArray then pushTable key draft.current entries
      else some ((), Table.insert key (.table .header draft.current) entries)) path .header draft.root
    some root

/-- Goes on to the table of a header. -/
def openTable (draft : DocumentDraft) (path : List String) (key : String) : Option DocumentDraft := do
  let root ← draft.fileCurrent
  let (inner, root) ← changeAt false (fun _ entries => takeTable key entries) path .header root
  some { root := root, current := inner, place := some (path, key, false) }

/-- Goes on to a new table of an array. -/
def openArrayTable (draft : DocumentDraft) (path : List String) (key : String) : Option DocumentDraft := do
  let root ← draft.fileCurrent
  let ((), root) ← changeAt false (fun _ entries => admitsTable key entries) path .header root
  some { root := root, current := [], place := some (path, key, true) }

def add (draft : DocumentDraft) (path : List String) (key : String) (value : Value) : Option DocumentDraft :=
  (addValue path key value draft.current).map fun entries => { draft with current := entries }

def finish (draft : DocumentDraft) : Option Entries := draft.fileCurrent.map finishEntries

end DocumentDraft
end ScriptBridge.Toml
