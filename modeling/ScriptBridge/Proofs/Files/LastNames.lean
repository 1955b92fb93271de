import Mathlib.Data.List.Basic
import Mathlib.Data.List.TakeWhile
import ScriptBridge.Proofs.Files.Canonical

/-!
# The last name of a path

A path ends in a name when nothing but slashes and dots follows it. `EndsIn` says so by the bytes alone, and taking a
path apart by its components comes to the same. What is left of a name without its extension is its stem.
-/
namespace ScriptBridge

namespace Path

/-- A component that is a name. -/
structure IsName (name : FileName) : Prop where
  nonempty : name ≠ []
  notHere : name ≠ [dot]
  notAbove : name ≠ [dot, dot]
  slashless : separator ∉ name

/-- The bytes of a path end in a name: they are the name, or it stands behind a slash, and what follows it are slashes
and dots that count for nothing. -/
inductive EndsIn : List UInt8 → FileName → Prop where
  | alone {name : FileName} (proper : IsName name) : EndsIn name name
  | behind (front : List UInt8) {name : FileName} (proper : IsName name) : EndsIn (front ++ separator :: name) name
  | closed {bytes : List UInt8} {name : FileName} (ends : EndsIn bytes name) : EndsIn (bytes ++ [separator]) name
  | here {bytes : List UInt8} {name : FileName} (ends : EndsIn bytes name) : EndsIn (bytes ++ [separator, dot]) name

theorem EndsIn.isName {bytes : List UInt8} {name : FileName} (ends : EndsIn bytes name) : IsName name := by
  induction ends with
  | alone proper | behind _ proper => exact proper
  | closed _ ih | here _ ih => exact ih

theorem component?_eq_none_iff {piece : FileName} : component? piece = none ↔ piece = [] ∨ piece = [dot] := by
  rw [component?]
  split
  next idle => exact ⟨fun _ => idle, fun _ => rfl⟩
  next counts =>
    refine ⟨?_, fun idle => absurd idle counts⟩
    split <;> exact nofun

/-- A piece is a name unless it is empty, a dot or two dots. -/
theorem component?_eq_name_iff {piece name : FileName} :
    component? piece = some (.name name) ↔
      piece = name ∧ name ≠ [] ∧ name ≠ [dot] ∧ name ≠ [dot, dot] := by
  rw [component?]
  split
  next idle =>
    refine ⟨nofun, ?_⟩
    rintro ⟨rfl, nonempty, notHere, -⟩
    exact absurd idle (by simp [nonempty, notHere])
  next counts =>
    rw [not_or] at counts
    split
    next above =>
      refine ⟨nofun, ?_⟩
      rintro ⟨rfl, -, -, notAbove⟩
      exact absurd above notAbove
    next notAbove =>
      simp only [Option.some.injEq, Component.name.injEq]
      constructor
      · rintro rfl
        exact ⟨rfl, counts.1, counts.2, notAbove⟩
      · exact fun named => named.1

theorem IsName.component? {name : FileName} (proper : IsName name) : component? name = some (.name name) :=
  component?_eq_name_iff.mpr ⟨rfl, proper.nonempty, proper.notHere, proper.notAbove⟩

theorem fileName?_eq_some_iff_components {path : Path} {name : FileName} :
    path.fileName? = some name ↔ path.components.getLast? = some (.name name) := by
  rw [fileName?]
  split <;> simp_all

/-- Neither the root nor a dot in front is a name, so the last piece that stands for a component decides. -/
theorem fileName?_eq_some_iff_pieces {path : Path} {name : FileName} :
    path.fileName? = some name ↔ ((pieces path.bytes).filterMap component?).getLast? = some (.name name) := by
  rw [fileName?_eq_some_iff_components]
  simp only [components]
  rcases List.eq_nil_or_concat' ((pieces path.bytes).filterMap component?) with none | ⟨before, final, some⟩
  · rw [none]
    split
    · simp
    · split <;> simp
  · rw [some]
    split
    · rw [← List.cons_append, List.getLast?_concat, List.getLast?_concat]
    · split
      · rw [← List.cons_append, List.getLast?_concat, List.getLast?_concat]
      · rfl

/-- What stands behind the last slash decides, unless it counts for nothing. -/
theorem fileName?_below (front : List UInt8) {last : FileName} (slashless : separator ∉ last) {name : FileName} :
    (⟨front ++ separator :: last⟩ : Path).fileName? = some name ↔
      component? last = some (.name name) ∨ component? last = none ∧ (⟨front⟩ : Path).fileName? = some name := by
  rw [fileName?_eq_some_iff_pieces, fileName?_eq_some_iff_pieces, pieces_append, pieces_of_slashless slashless,
    List.filterMap_append]
  cases counts : component? last with
  | none => simp [counts]
  | some final => simp [counts]

theorem fileName?_alone {last : FileName} (slashless : separator ∉ last) {name : FileName} :
    (⟨last⟩ : Path).fileName? = some name ↔ component? last = some (.name name) := by
  rw [fileName?_eq_some_iff_pieces, pieces_of_slashless slashless]
  cases counts : component? last <;> simp [counts]

/-- What occurs in a list occurs in it for a last time. -/
theorem exists_last_of_mem {byte : UInt8} {bytes : List UInt8} (inside : byte ∈ bytes) :
    ∃ front last, bytes = front ++ byte :: last ∧ byte ∉ last := by
  obtain ⟨behind, before, reversed, absent⟩ := List.eq_append_cons_of_mem (List.mem_reverse.mpr inside)
  refine ⟨before.reverse, behind.reverse, ?_, fun again => absent (List.mem_reverse.mp again)⟩
  have turned := congrArg List.reverse reversed
  simpa using turned

/-- Slashes, dots and empty pieces behind the last name do not hide it. -/
theorem fileName?_of_endsIn {bytes : List UInt8} {name : FileName} (ends : EndsIn bytes name) :
    (⟨bytes⟩ : Path).fileName? = some name := by
  induction ends with
  | alone proper => exact (fileName?_alone proper.slashless).mpr proper.component?
  | behind front proper => exact (fileName?_below front proper.slashless).mpr (.inl proper.component?)
  | @closed bytes name ends ih => exact (fileName?_below bytes (by simp)).mpr (.inr ⟨rfl, ih⟩)
  | @here bytes name ends ih => exact (fileName?_below bytes (by decide)).mpr (.inr ⟨rfl, ih⟩)

/-- A path has no name but the one that it ends in. -/
theorem endsIn_of_fileName? (bytes : List UInt8) {name : FileName}
    (named : (⟨bytes⟩ : Path).fileName? = some name) : EndsIn bytes name := by
  -- what stands behind the last slash is the name, or is left off
  induction size : bytes.length using Nat.strongRecOn generalizing bytes with
  | ind count ih =>
    by_cases slash : separator ∈ bytes
    case neg =>
      obtain ⟨rfl, nonempty, notHere, notAbove⟩ := component?_eq_name_iff.mp ((fileName?_alone slash).mp named)
      exact .alone ⟨nonempty, notHere, notAbove, slash⟩
    case pos =>
      obtain ⟨front, last, rfl, slashless⟩ := exists_last_of_mem slash
      rcases (fileName?_below front slashless).mp named with final | ⟨idle, earlier⟩
      · obtain ⟨rfl, nonempty, notHere, notAbove⟩ := component?_eq_name_iff.mp final
        exact .behind front ⟨nonempty, notHere, notAbove, slashless⟩
      · have shorter : front.length < count := by
          rw [← size, List.length_append, List.length_cons]
          omega
        have ends := ih front.length shorter front earlier rfl
        rcases component?_eq_none_iff.mp idle with rfl | rfl
        · exact .closed ends
        · exact .here ends

/-- The file name of a path is the name that its bytes end in. -/
theorem fileName?_eq_some_iff {path : Path} {name : FileName} : path.fileName? = some name ↔ EndsIn path.bytes name :=
  ⟨endsIn_of_fileName? path.bytes, fileName?_of_endsIn⟩

/-! ### Names behind a path -/

/-- A name behind a path is the last piece of what they make together. -/
theorem bytes_join (base : Path) {name : FileName} (slashless : separator ∉ name) :
    ∃ front, (base.join ⟨name⟩).bytes = front ++ name ∧
      ∃ before, pieces (base.join ⟨name⟩).bytes = before ++ [name] := by
  rw [join, isAbsolute_of_slashless slashless, if_neg Bool.false_ne_true]
  split
  next closed =>
    refine ⟨base.bytes, rfl, ?_⟩
    obtain empty | last := closed
    · exact ⟨[], by rw [empty]; exact pieces_of_slashless slashless⟩
    · obtain ⟨front, ends⟩ := List.getLast?_eq_some_iff.mp last
      refine ⟨pieces front, ?_⟩
      rw [ends, List.append_assoc, List.singleton_append, pieces_append, pieces_of_slashless slashless]
  next =>
    refine ⟨base.bytes ++ [separator], by simp, pieces base.bytes, ?_⟩
    rw [pieces_append, pieces_of_slashless slashless]

theorem fileName?_join (base : Path) {name : FileName} (proper : IsName name) :
    (base.join ⟨name⟩).fileName? = some name := by
  obtain ⟨_, -, before, cut⟩ := bytes_join base proper.slashless
  rw [fileName?_eq_some_iff_pieces, cut, List.filterMap_append]
  simp [proper.component?]

/-! ### Stems -/

/-- The stem of a name: all of it when it has no dot behind its first byte, and else what stands in front of its last
dot. -/
def IsStem (name stem : FileName) : Prop :=
  (dot ∉ name.tail ∧ stem = name) ∨ ∃ extension, name = stem ++ dot :: extension ∧ stem ≠ [] ∧ dot ∉ extension

theorem splitName_fst_of_dotless {name : FileName} (dotless : dot ∉ name) : (splitName name).1 = name := by
  have dropped : name.reverse.dropWhile (· ≠ dot) = [] := by
    rw [List.dropWhile_eq_nil_iff]
    intro byte inside
    exact decide_eq_true fun same => dotless (same ▸ List.mem_reverse.mp inside)
  simp only [splitName, dropped, List.drop_nil, List.reverse_nil, ↓reduceIte]

/-- A dot at the very front cuts off nothing. -/
theorem splitName_fst_of_dot (stem : FileName) {extension : FileName} (dotless : dot ∉ extension) :
    (splitName (stem ++ dot :: extension)).1 = if stem = [] then dot :: extension else stem := by
  have kept : ∀ byte ∈ extension.reverse, decide (byte ≠ dot) = true := by
    intro byte inside
    exact decide_eq_true fun same => dotless (same ▸ List.mem_reverse.mp inside)
  have dropped : (stem ++ dot :: extension).reverse.dropWhile (· ≠ dot) = dot :: stem.reverse := by
    rw [List.reverse_append, List.reverse_cons, List.append_assoc, List.dropWhile_append_of_pos kept]
    simp
  simp only [splitName, dropped, List.drop_succ_cons, List.drop_zero, List.reverse_reverse]
  split
  next empty => rw [empty, List.nil_append]
  next => rfl

theorem IsStem.splitName_eq {name stem : FileName} (cut : IsStem name stem) : (splitName name).1 = stem := by
  rcases cut with ⟨dotless, rfl⟩ | ⟨extension, rfl, nonempty, dotless⟩
  · cases stem with
    | nil => rfl
    | cons first rest =>
      by_cases hidden : first = dot
      · have whole := splitName_fst_of_dot [] dotless
        rw [List.nil_append, if_pos rfl] at whole
        rwa [hidden]
      · exact splitName_fst_of_dotless fun inside => (List.mem_cons.mp inside).elim (hidden ·.symm) dotless
  · rw [splitName_fst_of_dot stem dotless, if_neg nonempty]

theorem exists_isStem (name : FileName) : ∃ stem, IsStem name stem := by
  cases name with
  | nil => exact ⟨[], .inl ⟨List.not_mem_nil, rfl⟩⟩
  | cons first rest =>
    by_cases dotted : dot ∈ rest
    · obtain ⟨front, extension, rfl, dotless⟩ := exists_last_of_mem dotted
      exact ⟨first :: front, .inr ⟨extension, rfl, List.cons_ne_nil _ _, dotless⟩⟩
    · exact ⟨first :: rest, .inl ⟨dotted, rfl⟩⟩

theorem isStem_splitName (name : FileName) : IsStem name (splitName name).1 := by
  obtain ⟨stem, cut⟩ := exists_isStem name
  rwa [cut.splitName_eq]

theorem IsStem.nonempty {name stem : FileName} (cut : IsStem name stem) (named : name ≠ []) : stem ≠ [] := by
  rcases cut with ⟨-, rfl⟩ | ⟨extension, -, nonempty, -⟩
  · exact named
  · exact nonempty

theorem IsStem.begins {name stem : FileName} (cut : IsStem name stem) : stem <+: name := by
  rcases cut with ⟨-, rfl⟩ | ⟨extension, rfl, -, -⟩
  · exact List.prefix_rfl
  · exact List.prefix_append stem _

end Path

theorem FileSystem.IsFileName.isName {name : FileName} (proper : IsFileName name) : Path.IsName name where
  nonempty := proper.nonempty
  notHere here := proper.notHere (.inr here)
  notAbove := proper.notAbove
  slashless := proper.slashless

end ScriptBridge
