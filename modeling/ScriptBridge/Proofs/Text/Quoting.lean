import ScriptBridge.Proofs.Numerals
import ScriptBridge.Proofs.Text.Runs
import ScriptBridge.Text.Quoted

/-!
# Quoted text shows where it ends

What stands between two quotes is read off piece by piece: each character has one form, no form begins another, and none
begins with the closing quote. So a quoted text is told apart from every other one, and from what follows it.
-/
namespace ScriptBridge.Text

/-- The form of a character between the quotes. -/
inductive HasForm (c : Char) : List Char → Prop where
  | short {letter : Char} (escape : shortEscape? c = some letter) : HasForm c ['\\', letter]
  | itself (bare : shortEscape? c = none) : HasForm c [c]
  | code : HasForm c (codeEscape c)

theorem hasForm_quoteChar (c : Char) : HasForm c (quoteChar c) := by
  rw [quoteChar]
  split
  next letter escape => exact .short escape
  next bare =>
    split
    · exact .itself bare
    · exact .code

/-- The characters with a short escape, each with its letter. -/
def shortEscapes : List (Char × Char) :=
  [('\x00', '0'), ('\t', 't'), ('\r', 'r'), ('\n', 'n'), ('\\', '\\'), ('"', '"')]

theorem mem_shortEscapes {c letter : Char} (escape : shortEscape? c = some letter) : (c, letter) ∈ shortEscapes := by
  grind [shortEscape?, shortEscapes]

theorem shortEscape?_injective {c other letter : Char} (escape : shortEscape? c = some letter)
    (otherEscape : shortEscape? other = some letter) : c = other := by
  have apart : ∀ one ∈ shortEscapes, ∀ two ∈ shortEscapes, one.2 = two.2 → one.1 = two.1 := by decide
  exact apart _ (mem_shortEscapes escape) _ (mem_shortEscapes otherEscape) rfl

/-- The letter of the escape by a code point is that of no short escape. -/
theorem shortEscape?_ne_u (c : Char) : shortEscape? c ≠ some 'u' := by
  have apart : ∀ one ∈ shortEscapes, one.2 ≠ 'u' := by decide
  exact fun escape => apart _ (mem_shortEscapes escape) rfl

theorem codeEscape_append_inj {c other : Char} {rest left : List Char}
    (same : codeEscape c ++ rest = codeEscape other ++ left) : c = other ∧ rest = left := by
  have digits : ∀ n, ∀ c ∈ Numeral.hexadecimal n, (c != '\x7d') = true := fun n =>
    Numeral.forall_mem_digitsOnto (by decide) (by decide) n (by simp)
  have tails : Numeral.hexadecimal c.toNat ++ '\x7d' :: rest = Numeral.hexadecimal other.toNat ++ '\x7d' :: left := by
    simpa [codeEscape] using same
  obtain ⟨codes, closed⟩ := append_inj_of_kind (digits _) (by simp) (digits _) (by simp) tails
  exact ⟨Char.toNat_inj.mp (Numeral.hexadecimal_injective codes), List.cons.inj closed |>.2⟩

/-- No form of a character begins the form of another. -/
theorem HasForm.append_inj {c other : Char} {form otherForm rest left : List Char} (has : HasForm c form)
    (otherHas : HasForm other otherForm) (same : form ++ rest = otherForm ++ left) : c = other ∧ rest = left := by
  have backslash : shortEscape? '\\' = some '\\' := rfl
  cases has with
  | short escape =>
    cases otherHas with
    | short otherEscape =>
      obtain ⟨rfl, rfl⟩ : _ = _ ∧ rest = left := by simpa using same
      exact ⟨shortEscape?_injective escape otherEscape, rfl⟩
    | itself bare =>
      cases same
      cases backslash.symm.trans bare
    | code =>
      cases same
      exact absurd escape (shortEscape?_ne_u c)
  | itself bare =>
    cases otherHas with
    | short otherEscape =>
      cases same
      cases backslash.symm.trans bare
    | itself otherBare =>
      cases same
      exact ⟨rfl, rfl⟩
    | code =>
      cases same
      cases backslash.symm.trans bare
  | code =>
    cases otherHas with
    | short otherEscape =>
      cases same
      exact absurd otherEscape (shortEscape?_ne_u other)
    | itself otherBare =>
      cases same
      cases backslash.symm.trans otherBare
    | code => exact codeEscape_append_inj same

theorem HasForm.not_quote {c : Char} {form : List Char} (has : HasForm c form) (rest left : List Char) :
    '"' :: rest ≠ form ++ left := by
  intro same
  cases has with
  | short escape => cases same
  | itself bare =>
    cases same
    cases bare
  | code => cases same

/-- The closing quote is the first one that stands for itself, so the quoted text can be told from what follows it. -/
theorem quoteBody_append_inj {text other rest left : List Char}
    (same : quoteBody text ++ '"' :: rest = quoteBody other ++ '"' :: left) : text = other ∧ rest = left := by
  induction text generalizing other with
  | nil =>
    cases other with
    | nil => exact ⟨rfl, (List.cons.inj same).2⟩
    | cons c other =>
      rw [quoteBody, quoteBody, List.flatMap_cons, List.append_assoc] at same
      exact absurd same ((hasForm_quoteChar c).not_quote _ _)
  | cons c text ih =>
    rw [quoteBody, List.flatMap_cons, List.append_assoc] at same
    cases other with
    | nil => exact absurd same.symm ((hasForm_quoteChar c).not_quote _ _)
    | cons d other =>
      rw [quoteBody, List.flatMap_cons, List.append_assoc] at same
      obtain ⟨rfl, tails⟩ := (hasForm_quoteChar c).append_inj (hasForm_quoteChar d) same
      obtain ⟨rfl, rests⟩ := ih tails
      exact ⟨rfl, rests⟩

/-- Quoted text is told apart from every other quoted text, and from what follows it. -/
theorem quote_append_inj {text other rest left : List Char} (same : quote text ++ rest = quote other ++ left) :
    text = other ∧ rest = left := by
  simp only [quote, List.cons_append, List.append_assoc, List.cons.injEq, true_and, List.nil_append] at same
  exact quoteBody_append_inj same

end ScriptBridge.Text
