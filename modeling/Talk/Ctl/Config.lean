import Talk.Core.Config
import Talk.Lib.Paths
import Talk.Lib.Utf8

/-!
# `talkctl config`

The commands that read and edit the daemon's configuration file by dotted keys. The TOML reader and
writer live outside the repository and are parameters, and so is what the operating system does to
a read and to a write. The display of the whole file is not modelled.
-/

namespace Talk.Ctl

open Text Talk.Core Paths
open Utf8 (bytes fromUtf8)

namespace Toml

/-- `toml::Value`. A table is the list of its entries, a float its bits and a datetime its text. -/
inductive Value where
  /-- A text. -/
  | string (text : String)
  /-- An integer. -/
  | integer (value : Int64)
  /-- A float. -/
  | float (bits : UInt64)
  /-- A truth value. -/
  | boolean (value : Bool)
  /-- A date, a time or both. -/
  | datetime (text : String)
  /-- A list. -/
  | array (items : List Value)
  /-- A table. -/
  | table (fields : List (String × Value))

namespace Value

mutual

/-- `PartialEq`, on values without NaN. -/
def same : Value → Value → Bool
  | string left, string right => left == right
  | integer left, integer right => left == right
  | float left, float right => left == right
  | boolean left, boolean right => left == right
  | datetime left, datetime right => left == right
  | array left, array right => sameItems left right
  | table left, table right => sameFields left right
  | _, _ => false

/-- Two lists have the same values. -/
def sameItems : List Value → List Value → Bool
  | [], [] => true
  | left :: lefts, right :: rights => same left right && sameItems lefts rights
  | _, _ => false

/-- Two tables have the same entries. -/
def sameFields : List (String × Value) → List (String × Value) → Bool
  | [], [] => true
  | (name, left) :: lefts, (other, right) :: rights =>
    name == other && same left right && sameFields lefts rights
  | _, _ => false

end

mutual

/-- Values that are the same are equal. -/
theorem eq_of_same (left right : Value) (equal : same left right = true) : left = right := by
  cases left with
  | array left => cases right with
    | array right => rw [eq_of_sameItems left right (by simpa only [same] using equal)]
    | _ => simp [same] at equal
  | table left => cases right with
    | table right => rw [eq_of_sameFields left right (by simpa only [same] using equal)]
    | _ => simp [same] at equal
  | _ => cases right <;> simp_all [same]

/-- Lists with the same values are equal. -/
theorem eq_of_sameItems (left right : List Value) (equal : sameItems left right = true) :
    left = right := by
  match left, right with
  | [], [] => rfl
  | first :: lefts, second :: rights =>
    rw [sameItems, Bool.and_eq_true] at equal
    rw [eq_of_same first second equal.1, eq_of_sameItems lefts rights equal.2]
  | [], _ :: _ => simp [sameItems] at equal
  | _ :: _, [] => simp [sameItems] at equal

/-- Tables with the same entries are equal. -/
theorem eq_of_sameFields (left right : List (String × Value))
    (equal : sameFields left right = true) : left = right := by
  match left, right with
  | [], [] => rfl
  | (name, first) :: lefts, (other, second) :: rights =>
    simp only [sameFields, Bool.and_eq_true, beq_iff_eq] at equal
    rw [equal.1.1, eq_of_same first second equal.1.2, eq_of_sameFields lefts rights equal.2]
  | [], _ :: _ => simp [sameFields] at equal
  | _ :: _, [] => simp [sameFields] at equal

end

mutual

/-- A value is the same as itself. -/
theorem same_self (value : Value) : same value value = true := by
  cases value with
  | array items =>
    rw [same]
    exact sameItems_self items
  | table fields =>
    rw [same]
    exact sameFields_self fields
  | _ => simp [same]

/-- A list has the same values as itself. -/
theorem sameItems_self (items : List Value) : sameItems items items = true := by
  match items with
  | [] => rfl
  | item :: items =>
    rw [sameItems, same_self item, sameItems_self items]
    rfl

/-- A table has the same entries as itself. -/
theorem sameFields_self (fields : List (String × Value)) : sameFields fields fields = true := by
  match fields with
  | [] => rfl
  | (name, value) :: fields =>
    rw [sameFields, same_self value, sameFields_self fields, beq_self_eq_true]
    rfl

end

end Value

instance : DecidableEq Value := fun left right =>
  decidable_of_iff (Value.same left right = true)
    ⟨Value.eq_of_same left right, fun equal => equal ▸ Value.same_self left⟩

/-- `Value::as_table`. -/
def Value.asTable : Value → Option (List (String × Value))
  | table fields => some fields
  | _ => none

instance : Nested Value := ⟨Value.asTable, .table, fun _ => rfl⟩

end Toml

/-- The TOML crate, with the texts of its errors. -/
structure Toml where
  /-- `from_str` at `Value`. -/
  parse : String → Except String Toml.Value
  /-- `to_string_pretty`. -/
  pretty : Toml.Value → Except String String
  /-- `from_str` at `Config`. -/
  config : String → Except String Core.Config

/-- What a write ends with. -/
inductive Written where
  /-- The file holds the text. -/
  | whole
  /-- The file was not opened, and is as it was. -/
  | refused (error : String)
  /-- The file was opened, which empties it, and holds so many bytes of the text. -/
  | cut (count : Nat) (error : String)
  deriving DecidableEq

/-- What the operating system does to the calls of one command. -/
structure Io where
  /-- The error of the read, where it fails for another reason than the contents. -/
  reading : Option String
  /-- The end of the write. -/
  writing : Written

/-- A file, unless it is missing. -/
abbrev File := Option (List UInt8)

/-- `std::fs::read_to_string`. -/
def Io.readToString (io : Io) (file : File) : Except String String :=
  match io.reading with
  | some error => .error error
  | none =>
    match file with
    | none => .error "No such file or directory (os error 2)"
    | some contents =>
      match fromUtf8 contents with
      | none => .error "stream did not contain valid UTF-8"
      | some text => .ok text

/-- `std::fs::write`. -/
def Io.write (io : Io) (file : File) (text : String) : Except String Unit × File :=
  match io.writing with
  | .whole => (.ok (), some (bytes text))
  | .refused error => (.error error, file)
  | .cut count error => (.error error, some ((bytes text).take count))

/-- `CtlError`, as far as these commands return it. -/
inductive ConfigFailure where
  /-- `CtlError::msg`. -/
  | message (text : String)
  /-- The message `refusing to write invalid config`, with the error. -/
  | refusing (error : ConfigError String)
  /-- `CtlError::Config`. -/
  | config (error : ConfigError String)
  /-- `CtlError::Io`. -/
  | io (error : String)
  deriving DecidableEq

/-- `read_toml`. -/
def readToml (toml : Toml) (io : Io) (path : String) (file : File) :
    Except ConfigFailure Toml.Value :=
  match io.readToString file with
  | .error error => .error (.message ("cannot read config " ++ path ++ ": " ++ error))
  | .ok raw =>
    match toml.parse raw with
    | .error error => .error (.message ("malformed config: " ++ error))
    | .ok root => .ok root

/-- `get_path`. -/
def getPath (root : Toml.Value) (path : String) : Except String Toml.Value :=
  match getAt root (split '.' path) with
  | .error (.notTable part) => .error (path ++ ": '" ++ part ++ "' is not a table")
  | .error .missing => .error ("no such key: " ++ path)
  | .ok value => .ok value

/-- `set_path`, with the tables it passes updated. -/
def setPath (root : Toml.Value) (path : String) (value : Toml.Value) :
    Except ConfigFailure Toml.Value :=
  match setAt value root (split '.' path) with
  | .error (.notTable part) => .error (.message (path ++ ": '" ++ part ++ "' is not a table"))
  | .error .missing => .error (.message ("unknown key: " ++ path))
  | .ok root => .ok root

/-- `parse_value`: a value that is a TOML document is its table. -/
def parseValue (toml : Toml) (text : String) : Toml.Value :=
  if trim text = "" then .string ""
  else match toml.parse text with
  | .error _ => .string text
  | .ok value => value

/-- The `get` action of `run`. -/
def configGet (toml : Toml) (io : Io) (path : String) (file : File) (key : String) :
    Except ConfigFailure Toml.Value :=
  match readToml toml io path file with
  | .error error => .error error
  | .ok root =>
    match getPath root key with
    | .error error => .error (.message error)
    | .ok value => .ok value

/-- The `validate` action of `run`. -/
def configValidate (toml : Toml) (io : Io) (path : String) (file : File) :
    Except ConfigFailure Unit :=
  match Core.Config.load toml.config path (io.readToString file).toOption with
  | .error error => .error (.config error)
  | .ok _ => .ok ()

/-- The `set` action of `run`. -/
def configSet (toml : Toml) (io : Io) (path : String) (file : File) (key value : String) :
    Except ConfigFailure Unit × File :=
  match readToml toml io path file with
  | .error error => (.error error, file)
  | .ok root =>
    match setPath root key (parseValue toml value) with
    | .error error => (.error error, file)
    | .ok root =>
      match toml.pretty root with
      | .error error => (.error (.message error), file)
      | .ok out =>
        match Core.Config.parse toml.config out with
        | .error error => (.error (.refusing error), file)
        | .ok _ =>
          match io.write file out with
          | (.error error, file) => (.error (.io error), file)
          | (.ok (), file) => (.ok (), file)

end Talk.Ctl
