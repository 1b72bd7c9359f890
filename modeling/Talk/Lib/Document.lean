import Mathlib.Data.List.Basic

/-!
# Reading records from documents

A document is a tree of values, and a record is read from the fields of an object: each field under
its own key, a field with a default also where the key is missing, and a key that stands twice is
refused. Fields under other keys are skipped. A record is also read from an array of its fields in
their order.
-/

namespace Talk.Document

variable {α β : Type}

/-- A value of a document. -/
inductive Value where
  /-- `null`. -/
  | null
  /-- A truth value. -/
  | boolean (value : Bool)
  /-- A number without a fraction. -/
  | integer (value : Int)
  /-- Another number, as it is written. -/
  | decimal (text : String)
  /-- A text. -/
  | string (text : String)
  /-- A list. -/
  | array (items : List Value)
  /-- An object: its fields as they stand. -/
  | object (fields : List (String × Value))

/-- What stands under a key. -/
def valuesOf (key : String) (fields : List (String × Value)) : List Value :=
  (fields.filter fun field => field.1 == key).map Prod.snd

/-- Read a field that has to be there. -/
def required (read : Value → Option α) (key : String) (fields : List (String × Value)) :
    Option α :=
  match valuesOf key fields with
  | [value] => read value
  | _ => none

/-- Read a field that has a default. -/
def defaulted (default : α) (read : Value → Option α) (key : String)
    (fields : List (String × Value)) : Option α :=
  match valuesOf key fields with
  | [] => some default
  | [value] => read value
  | _ => none

/-- Read a signed 32-bit integer. -/
def readI32 : Value → Option Int
  | .integer value => if -2147483648 ≤ value ∧ value < 2147483648 then some value else none
  | _ => none

/-- Read a text. -/
def readString : Value → Option String
  | .string text => some text
  | _ => none

/-- Read a list. -/
def readList (read : Value → Option α) : Value → Option (List α)
  | .array items => items.mapM read
  | _ => none

/-- A key that is missing leaves the default. -/
theorem defaulted_missing {key : String} {fields : List (String × Value)}
    (missing : valuesOf key fields = []) (default : α) (read : Value → Option α) :
    defaulted default read key fields = some default := by
  rw [defaulted, missing]

end Talk.Document
