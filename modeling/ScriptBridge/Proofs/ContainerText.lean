import ScriptBridge.Node.Text
import ScriptBridge.Proofs.Number.IntegerNumerals
import ScriptBridge.Proofs.Text.Quoting

/-!
# The text of a container names one container

Inside a container the first character of a node's text tells its kind, and the text shows where it ends: a number goes on as
long as there are digits, a string up to its closing quote, a list or a map up to its closing bracket. So two texts that
begin with such pieces can only agree when the nodes are the same and what follows is the same; by induction over the node
nothing inside a string can stand for structure. Doubles are left out, because some are written as integers are.
-/
namespace ScriptBridge

namespace Node

/-- No double stands anywhere in the node. -/
inductive DoubleFree : Node → Prop where
  | none : DoubleFree .none
  | flag (value : Bool) : DoubleFree (.flag value)
  | int64 (value : Int64) : DoubleFree (.int64 value)
  | string (value : String) : DoubleFree (.string value)
  | array {items : List Node} (inside : ∀ item ∈ items, DoubleFree item) : DoubleFree (.array items)
  | map {entries : List (String × Node)} (inside : ∀ entry ∈ entries, DoubleFree entry.2) :
      DoubleFree (.map entries)

def isContainer : Node → Bool
  | .array _ | .map _ => true
  | _ => false

/-- The characters of written integers. -/
def isNumeric (c : Char) : Bool := c.isDigit || c == '-'

/-- A number in front of the text does not go on in it. -/
def EndsNumber (text : List Char) : Prop := ∀ c ∈ text.head?, isNumeric c = false

theorem endsNumber_cons {c : Char} (other : isNumeric c = false) (text : List Char) : EndsNumber (c :: text) := by
  simp [EndsNumber, other]

theorem isNumeric_signed (n : ℤ) : ∀ c ∈ Numeral.signed n, isNumeric c = true := by
  have digits : ∀ c ∈ Numeral.decimal n.natAbs, isNumeric c = true := fun c member => by
    simp [isNumeric, Numeral.isDigit_of_mem_decimal _ c member]
  rw [Numeral.signed]
  split
  · exact List.forall_mem_cons.mpr ⟨rfl, digits⟩
  · exact digits

/-- A number ends where the next character cannot belong to one, so it can be told from what follows it. -/
theorem signed_append_inj {m n : ℤ} {rest left : List Char} (ends : EndsNumber rest) (leftEnds : EndsNumber left)
    (same : Numeral.signed m ++ rest = Numeral.signed n ++ left) : m = n ∧ rest = left := by
  obtain ⟨numerals, rests⟩ := Text.append_inj_of_kind (isNumeric_signed m) ends (isNumeric_signed n) leftEnds same
  have read := Numeral.readInt?_eq_some_iff.mpr (Numeral.isNumeral_signed m)
  rw [numerals, Numeral.readInt?_eq_some_iff.mpr (Numeral.isNumeral_signed n)] at read
  exact ⟨(Option.some.inj read).symm, rests⟩

end Node

section Pieces
open Node

variable {α : Type}

/-- In front of texts that end a number, the written form of the value is told apart from that of any other value in the
domain, and from what follows it. -/
def SelfDelimiting (domain : α → Prop) (write : α → List Char) (value : α) : Prop :=
  ∀ other, domain other → ∀ rest left, EndsNumber rest → EndsNumber left →
    write value ++ rest = write other ++ left → value = other ∧ rest = left

/-- Values with commas between them. -/
def listed (write : α → List Char) : List α → List Char
  | [] => []
  | first :: rest => write first ++ rest.flatMap fun value => ',' :: write value

variable {domain : α → Prop} {write : α → List Char} {close : Char}

theorem endsNumber_commas (closes : isNumeric close = false) (values : List α) (rest : List Char) :
    EndsNumber ((values.flatMap fun value => ',' :: write value) ++ close :: rest) := by
  cases values with
  | nil => exact endsNumber_cons closes rest
  | cons value values => exact endsNumber_cons (by decide) _

/-- Values behind commas, up to the closing bracket. -/
theorem commas_append_inj (closes : isNumeric close = false) (notComma : close ≠ ',') {values others : List α}
    (delimited : ∀ value ∈ values, SelfDelimiting domain write value) (within : ∀ other ∈ others, domain other)
    {rest left : List Char}
    (same : (values.flatMap fun value => ',' :: write value) ++ close :: rest =
      (others.flatMap fun value => ',' :: write value) ++ close :: left) : values = others ∧ rest = left := by
  induction values generalizing others with
  | nil =>
    cases others with
    | nil => exact ⟨rfl, (List.cons.inj same).2⟩
    | cons other others => exact absurd (List.cons.inj same).1 notComma
  | cons value values ih =>
    cases others with
    | nil => exact absurd (List.cons.inj same).1.symm notComma
    | cons other others =>
      obtain ⟨firstDelimited, restDelimited⟩ := List.forall_mem_cons.mp delimited
      obtain ⟨firstWithin, restWithin⟩ := List.forall_mem_cons.mp within
      rw [List.flatMap_cons, List.flatMap_cons, List.append_assoc, List.append_assoc] at same
      obtain ⟨rfl, tails⟩ := firstDelimited other firstWithin _ _ (endsNumber_commas closes values rest)
        (endsNumber_commas closes others left) (List.cons.inj same).2
      obtain ⟨rfl, rests⟩ := ih restDelimited restWithin tails
      exact ⟨rfl, rests⟩

/-- Listed values, up to the closing bracket, with which no value begins. -/
theorem listed_append_inj (closes : isNumeric close = false) (notComma : close ≠ ',')
    (opens : ∀ value, domain value → ∀ rest left, close :: rest ≠ write value ++ left) {values others : List α}
    (delimited : ∀ value ∈ values, domain value ∧ SelfDelimiting domain write value)
    (within : ∀ other ∈ others, domain other) {rest left : List Char}
    (same : listed write values ++ close :: rest = listed write others ++ close :: left) :
    values = others ∧ rest = left := by
  cases values with
  | nil =>
    cases others with
    | nil => exact ⟨rfl, (List.cons.inj same).2⟩
    | cons other others =>
      rw [listed, listed, List.append_assoc] at same
      exact absurd same (opens other (within other List.mem_cons_self) _ _)
  | cons value values =>
    rw [listed, List.append_assoc] at same
    cases others with
    | nil => exact absurd same.symm (opens value (delimited value List.mem_cons_self).1 _ _)
    | cons other others =>
      rw [listed, List.append_assoc] at same
      obtain ⟨firstDelimited, restDelimited⟩ := List.forall_mem_cons.mp delimited
      obtain ⟨firstWithin, restWithin⟩ := List.forall_mem_cons.mp within
      obtain ⟨rfl, tails⟩ := firstDelimited.2 other firstWithin _ _ (endsNumber_commas closes values rest)
        (endsNumber_commas closes others left) same
      obtain ⟨rfl, rests⟩ :=
        commas_append_inj closes notComma (fun value member => (restDelimited value member).2) restWithin tails
      exact ⟨rfl, rests⟩

end Pieces

namespace Node

/-- An entry of a map: the quoted key, a colon, the value. -/
def entryText (entry : String × Node) : List Char := Text.quote entry.1.toList ++ ':' :: nestedText entry.2

theorem itemsText_eq (items : List Node) : itemsText items = listed nestedText items := by
  induction items with
  | nil => rfl
  | cons item items ih =>
    cases items with
    | nil => simp [itemsText, listed]
    | cons next items =>
      rw [itemsText, ih, listed, listed, List.flatMap_cons, List.cons_append]

theorem entriesText_eq (entries : List (String × Node)) : entriesText entries = listed entryText entries := by
  induction entries with
  | nil => rfl
  | cons entry entries ih =>
    obtain ⟨key, value⟩ := entry
    cases entries with
    | nil => simp [entriesText, listed, entryText]
    | cons next entries =>
      simp only [entriesText, ih, listed, entryText, List.flatMap_cons, List.cons_append, List.append_assoc]

/-- The kind of the nodes whose text inside a container begins with a character. -/
def kindAhead (c : Char) : Option String :=
  if isNumeric c then some "int64"
  else match c with
    | 'n' => some "none"
    | 't' | 'f' => some "flag"
    | '"' => some "string"
    | '[' => some "array"
    | '\x7b' => some "map"
    | _ => Option.none

/-- The first character of its text tells the kind of a node. -/
theorem exists_head {node : Node} (plain : node.DoubleFree) :
    ∃ c rest, nestedText node = c :: rest ∧ kindAhead c = some node.kind := by
  cases plain with
  | none | string _ | array _ | map _ => exact ⟨_, _, rfl, rfl⟩
  | flag value => cases value <;> exact ⟨_, _, rfl, rfl⟩
  | int64 value =>
    obtain ⟨c, rest, text⟩ := List.exists_cons_of_ne_nil (Numeral.isNumeral_signed value.toInt).ne_nil
    have numeric : isNumeric c = true := isNumeric_signed value.toInt c (by rw [text]; exact List.mem_cons_self)
    exact ⟨c, rest, text, if_pos numeric⟩

/-- The text of a node tells its kind, whatever follows. -/
theorem kind_eq_of_append_eq {node other : Node} (plain : node.DoubleFree) (otherPlain : other.DoubleFree)
    {rest left : List Char} (same : nestedText node ++ rest = nestedText other ++ left) : node.kind = other.kind := by
  obtain ⟨c, _, text, kind⟩ := exists_head plain
  obtain ⟨d, _, otherText, otherKind⟩ := exists_head otherPlain
  rw [text, otherText] at same
  obtain ⟨rfl, _⟩ := List.cons.inj same
  exact Option.some.inj (kind.symm.trans otherKind)

/-- No node begins with a closing bracket. -/
theorem cons_ne_nestedText_append {close : Char} (closes : kindAhead close = Option.none) {node : Node}
    (plain : node.DoubleFree) (rest left : List Char) : close :: rest ≠ nestedText node ++ left := by
  intro same
  obtain ⟨c, _, text, kind⟩ := exists_head plain
  rw [text] at same
  obtain ⟨rfl, _⟩ := List.cons.inj same
  cases closes.symm.trans kind

theorem flagWord_append_inj {value other : Bool} {rest left : List Char}
    (same : flagWord value ++ rest = flagWord other ++ left) : value = other ∧ rest = left := by
  cases value <;> cases other
  case true.true | false.false => exact ⟨rfl, List.append_cancel_left same⟩
  case true.false | false.true => simp [flagWord] at same

/-- A key is quoted and the value behind the colon is told apart, so an entry is. -/
theorem selfDelimiting_entryText {entry : String × Node} (value : SelfDelimiting DoubleFree nestedText entry.2) :
    SelfDelimiting (fun entry => entry.2.DoubleFree) entryText entry := by
  intro other otherPlain rest left ends leftEnds same
  simp only [entryText, List.append_assoc, List.cons_append] at same
  obtain ⟨keys, tails⟩ := Text.quote_append_inj same
  obtain ⟨values, rests⟩ := value other.2 otherPlain rest left ends leftEnds (List.cons.inj tails).2
  exact ⟨Prod.ext (String.toList_inj.mp keys) values, rests⟩

/-- Inside a container the text of a node without doubles is told apart from that of any other, and from what follows it. -/
theorem selfDelimiting_nestedText {node : Node} (plain : node.DoubleFree) :
    SelfDelimiting DoubleFree nestedText node := by
  -- By induction over the node. The first character decides its kind, so only nodes of one kind are compared further.
  induction plain with
  | none =>
    intro other otherPlain rest left _ _ same
    have kinds := kind_eq_of_append_eq .none otherPlain same
    cases otherPlain with
    | none => exact ⟨rfl, List.append_cancel_left same⟩
    | flag _ | int64 _ | string _ | array _ | map _ => simp [kind] at kinds
  | flag value =>
    intro other otherPlain rest left _ _ same
    have kinds := kind_eq_of_append_eq (.flag value) otherPlain same
    cases otherPlain with
    | flag _ =>
      obtain ⟨rfl, rests⟩ := flagWord_append_inj same
      exact ⟨rfl, rests⟩
    | none | int64 _ | string _ | array _ | map _ => simp [kind] at kinds
  | int64 value =>
    intro other otherPlain rest left ends leftEnds same
    have kinds := kind_eq_of_append_eq (.int64 value) otherPlain same
    cases otherPlain with
    | int64 _ =>
      obtain ⟨values, rests⟩ := signed_append_inj ends leftEnds same
      exact ⟨congrArg Node.int64 (Int64.toInt_inj.mp values), rests⟩
    | none | flag _ | string _ | array _ | map _ => simp [kind] at kinds
  | string value =>
    intro other otherPlain rest left _ _ same
    have kinds := kind_eq_of_append_eq (.string value) otherPlain same
    cases otherPlain with
    | string _ =>
      obtain ⟨texts, rests⟩ := Text.quote_append_inj same
      exact ⟨congrArg Node.string (String.toList_inj.mp texts), rests⟩
    | none | flag _ | int64 _ | array _ | map _ => simp [kind] at kinds
  | array inside ih =>
    intro other otherPlain rest left _ _ same
    have kinds := kind_eq_of_append_eq (.array inside) otherPlain same
    cases otherPlain with
    | array otherInside =>
      simp only [nestedText, itemsText_eq, List.cons_append, List.append_assoc, List.cons.injEq, true_and,
        List.nil_append] at same
      obtain ⟨rfl, rests⟩ := listed_append_inj (by decide) (by decide)
        (fun _ => cons_ne_nestedText_append (by decide)) (fun item member => ⟨inside item member, ih item member⟩)
        otherInside same
      exact ⟨rfl, rests⟩
    | none | flag _ | int64 _ | string _ | map _ => simp [kind] at kinds
  | map inside ih =>
    intro other otherPlain rest left _ _ same
    have kinds := kind_eq_of_append_eq (.map inside) otherPlain same
    cases otherPlain with
    | map otherInside =>
      simp only [nestedText, entriesText_eq, List.cons_append, List.append_assoc, List.cons.injEq, true_and,
        List.nil_append] at same
      obtain ⟨rfl, rests⟩ := listed_append_inj (by decide) (by decide) (fun _ _ _ _ => by simp [entryText, Text.quote])
        (fun entry member => ⟨inside entry member, selfDelimiting_entryText (ih entry member)⟩) otherInside same
      exact ⟨rfl, rests⟩
    | none | flag _ | int64 _ | string _ | array _ => simp [kind] at kinds

theorem chars_of_isContainer {node : Node} (container : node.isContainer = true) : node.chars = nestedText node := by
  cases node with
  | array _ | map _ => rfl
  | none | flag _ | int64 _ | double _ | string _ => cases container

/-- The text of a container names one container: two lists or maps without doubles that read alike are the same, whatever
their strings and keys hold. -/
theorem container_text_unambiguous {node other : Node} (container : node.isContainer = true)
    (otherContainer : other.isContainer = true) (plain : node.DoubleFree) (otherPlain : other.DoubleFree) :
    node.text = other.text ↔ node = other := by
  refine ⟨fun same => ?_, congrArg text⟩
  have alike : nestedText node = nestedText other := by
    rw [← chars_of_isContainer container, ← chars_of_isContainer otherContainer]
    exact String.ofList_injective same
  have none : EndsNumber [] := by simp [EndsNumber]
  exact (selfDelimiting_nestedText plain other otherPlain [] [] none none (congrArg (· ++ []) alike)).1

/-- A key that spells an entry does not read like that entry. -/
theorem container_text_unambiguous_hostile :
    (map [("a\":1,\"b", none)]).text ≠ (map [("a", int64 1), ("b", none)]).text := by
  have hostile : (map [("a\":1,\"b", none)]).DoubleFree := .map (List.forall_mem_singleton.mpr .none)
  have honest : (map [("a", int64 1), ("b", none)]).DoubleFree :=
    .map (List.forall_mem_cons.mpr ⟨.int64 1, List.forall_mem_singleton.mpr .none⟩)
  intro same
  have nodes := (container_text_unambiguous rfl rfl hostile honest).mp same
  simp at nodes

end Node
end ScriptBridge
