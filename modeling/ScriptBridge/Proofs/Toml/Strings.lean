import ScriptBridge.Toml.Text
import ScriptBridge.Toml.Writing

/-!
# Strings read back

Each character is written so that it is read as itself: as it stands, or by an escape of which nothing else begins the
same way. Between single quotes nothing is escaped, so a text is written there only when it holds no control character
and no quotes that would close it early. Whatever follows the closing quote is left, as long as it is no quote itself.
-/
namespace ScriptBridge.Toml

/-- A text that can stand between tripled single quotes. -/
structure SuitsLong (text : List Char) : Prop where
  shown : ∀ c ∈ text, isText c = true ∨ c = '\n'
  untripled : hasTripleQuote text = false
  ending : text.getLast? ≠ some '\''

theorem SuitsLong.tail {c : Char} {text : List Char} (suits : SuitsLong (c :: text)) : SuitsLong text where
  shown := (List.forall_mem_cons.mp suits.shown).2
  untripled := (Bool.or_eq_false_iff.mp suits.untripled).2
  ending := by
    cases text with
    | nil => simp
    | cons next text => simpa using suits.ending

/-- The quotes that close the text do not begin inside it. -/
theorem SuitsLong.unclosed {c : Char} {text : List Char} (suits : SuitsLong (c :: text)) {behind rest : List Char}
    (quote : c = '\'') : text ++ behind ≠ '\'' :: '\'' :: rest := by
  have untripled := (Bool.or_eq_false_iff.mp suits.untripled).1
  have ending := suits.ending
  subst quote
  intro closes
  -- With one or two characters left the last of them is a quote; with more the text itself has three in a row.
  match text with
  | [] => exact ending rfl
  | [next] =>
    have closes : next = '\'' := (List.cons.inj closes).1
    exact ending (closes ▸ rfl)
  | next :: third :: text =>
    obtain ⟨rfl, rest⟩ := List.cons.inj closes
    obtain ⟨rfl, -⟩ := List.cons.inj rest
    cases untripled

end ScriptBridge.Toml
