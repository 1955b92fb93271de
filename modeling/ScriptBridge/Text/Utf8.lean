/-!
# UTF-8

Strict decoding keeps a byte string only when all of it is well formed. Lossy decoding always answers: each maximal
ill-formed piece becomes one replacement character.
-/
namespace ScriptBridge.Utf8

def encode (text : String) : List UInt8 := text.toUTF8.data.toList

/-- The string whose bytes these are, if they are well formed. -/
def decode? (bytes : List UInt8) : Option String := String.fromUTF8? ⟨bytes.toArray⟩

/-- Strict decoding undoes encoding, and nothing else. -/
theorem decode?_eq_some_iff {bytes : List UInt8} {text : String} : decode? bytes = some text ↔ encode text = bytes := by
  rw [decode?, encode, String.fromUTF8?, String.toUTF8_eq_toByteArray]
  constructor
  · intro decoded
    split at decoded
    · cases decoded
      rfl
    · cases decoded
  · rintro rfl
    rw [Array.toArray_toList]
    exact dif_pos text.isValidUTF8

def replacement : Char := Char.ofNat 0xFFFD

/-- What a leading byte of a longer sequence announces: its payload bits, the number of bytes that follow, and the
bounds of the first of them. -/
def lead? (byte : Nat) : Option (Nat × Nat × Nat × Nat) :=
  if 0xC2 ≤ byte ∧ byte ≤ 0xDF then some (byte % 32, 1, 0x80, 0xBF)
  else if byte = 0xE0 then some (byte % 16, 2, 0xA0, 0xBF)
  else if byte = 0xED then some (byte % 16, 2, 0x80, 0x9F)
  else if 0xE1 ≤ byte ∧ byte ≤ 0xEF then some (byte % 16, 2, 0x80, 0xBF)
  else if byte = 0xF0 then some (byte % 8, 3, 0x90, 0xBF)
  else if byte = 0xF4 then some (byte % 8, 3, 0x80, 0x8F)
  else if 0xF1 ≤ byte ∧ byte ≤ 0xF3 then some (byte % 8, 3, 0x80, 0xBF)
  else none

/-- Reads the announced continuation bytes; stops in front of the first byte that is none. -/
def continuation (payload : Nat) : (count low high : Nat) → List UInt8 → Option Nat × List UInt8
  | 0, _, _, rest => (some payload, rest)
  | _ + 1, _, _, [] => (none, [])
  | count + 1, low, high, byte :: rest =>
    if low ≤ byte.toNat ∧ byte.toNat ≤ high then
      continuation (payload * 64 + byte.toNat % 64) count 0x80 0xBF rest
    else (none, byte :: rest)

theorem continuation_length (payload count low high : Nat) (bytes : List UInt8) :
    (continuation payload count low high bytes).2.length ≤ bytes.length := by
  induction count generalizing payload low high bytes with
  | zero => simp [continuation]
  | succ count ih =>
    cases bytes with
    | nil => simp [continuation]
    | cons byte rest =>
      simp only [continuation]
      split
      · exact Nat.le_trans (ih _ _ _ _) (by simp)
      · simp

/-- Decodes bytes, with a replacement character for each maximal ill-formed piece. -/
def decodeLossy : List UInt8 → List Char
  | [] => []
  | byte :: rest =>
    if byte.toNat < 0x80 then Char.ofNat byte.toNat :: decodeLossy rest
    else
      match lead? byte.toNat with
      | none => replacement :: decodeLossy rest
      | some (payload, count, low, high) =>
        let step := continuation payload count low high rest
        (match step.1 with
          | some code => Char.ofNat code
          | none => replacement) :: decodeLossy step.2
termination_by bytes => bytes.length
decreasing_by
  · simp only [List.length_cons]; omega
  · simp only [List.length_cons]; omega
  · exact Nat.lt_of_le_of_lt (continuation_length ..) (by simp only [List.length_cons]; omega)

end ScriptBridge.Utf8
