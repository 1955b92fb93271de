import ScriptBridge.Toml.Value
import ScriptBridge.Files.Path

/-!
# Decoding values

A structure is written as a table of its fields, in which unknown keys do not count, or as an array of its fields in
order, in which surplus items do not count. A date or time counts as a table with one reserved key.
-/
namespace ScriptBridge.Toml

/-- The key under which a date or time is an entry of a table. -/
def datetimeKey : String := "$__toml_private_datetime"

namespace Value

def string? : Value → Option String
  | .string value => some value
  | _ => none

def boolean? : Value → Option Bool
  | .boolean value => some value
  | _ => none

/-- An integer that is not negative. -/
def natural? : Value → Option UInt64
  | .integer value => if 0 ≤ value then some value.toUInt64 else none
  | _ => none

def path? (value : Value) : Option Path := value.string?.map Path.ofString

def list? {α : Type} (decode : Value → Option α) : Value → Option (List α)
  | .array items => items.mapM decode
  | _ => none

def entries? : Value → Option Entries
  | .table entries => some entries
  | .datetime value => some [(datetimeKey, .string (String.ofList value.text))]
  | _ => none

end Value

/-- The fields of a structure. -/
inductive Fields where
  | named (entries : Entries)
  | positional (items : List Value)

def Value.fields? : Value → Option Fields
  | .array items => some (.positional items)
  | value => value.entries?.map .named

namespace Fields

/-- The value of a field, given by its position and its name. -/
def get? (fields : Fields) (index : Nat) (name : String) : Option Value :=
  match fields with
  | .named entries => Table.get? name entries
  | .positional items => items[index]?

def required {α : Type} (fields : Fields) (index : Nat) (name : String) (decode : Value → Option α) : Option α :=
  (fields.get? index name).bind decode

/-- A field with a value for the case that it is missing. -/
def withDefault {α : Type} (fields : Fields) (index : Nat) (name : String) (decode : Value → Option α)
    (default : α) : Option α :=
  match fields.get? index name with
  | some value => decode value
  | none => some default

/-- A field that may be missing among named fields, but not among the first items of an array. -/
def optional {α : Type} (fields : Fields) (index : Nat) (name : String) (decode : Value → Option α) :
    Option (Option α) :=
  match fields.get? index name, fields with
  | some value, _ => (decode value).map some
  | none, .named _ => some none
  | none, .positional _ => none

end Fields
end ScriptBridge.Toml
