import Talk.Lib.Hex
import Talk.Lib.Text

/-!
# Compact JSON

Strings and arrays of bytes as a compact JSON writer puts them out, with a bound on the size of
the text, and the strict reader of that output.
-/

namespace Talk.Json

open Utf8 (bytes)
open Text

/-! ## Writing -/

/-- One character inside a JSON string, with its escape. -/
def jsonChar (c : Char) : List Char :=
  if c = '"' then ['\\', '"']
  else if c = '\\' then ['\\', '\\']
  else if c.toNat = 8 then ['\\', 'b']
  else if c.toNat = 12 then ['\\', 'f']
  else if c = '\n' then ['\\', 'n']
  else if c = '\r' then ['\\', 'r']
  else if c = '\t' then ['\\', 't']
  else if c.toNat < 32 then
    ['\\', 'u', '0', '0', Nat.digitChar (c.toNat / 16), Nat.digitChar (c.toNat % 16)]
  else [c]

/-- A JSON string. -/
def jsonString (text : String) : String :=
  "\"" ++ String.ofList (text.toList.flatMap jsonChar) ++ "\""

/-- A JSON array of bytes. -/
def jsonBytes (data : List UInt8) : String :=
  "[" ++ ",".intercalate (data.map fun byte => toString byte.toNat) ++ "]"

/-! ## The size of the text -/

/-- A character is written as it is, or as at most six bytes. -/
theorem jsonChar_short (c : Char) :
    jsonChar c = [c] ∨ ((jsonChar c).flatMap String.utf8EncodeChar).length ≤ 6 := by
  by_cases control : c.toNat < 32
  · have table : ∀ value < 32,
        ((jsonChar (Char.ofNat value)).flatMap String.utf8EncodeChar).length ≤ 6 := by decide
    exact .inr (Char.ofNat_toNat c ▸ table c.toNat control)
  · have plain : c ≠ '\n' ∧ c ≠ '\r' ∧ c ≠ '\t' := by
      refine ⟨?_, ?_, ?_⟩ <;> rintro rfl <;> exact control (by decide)
    by_cases quote : c = '"'
    · exact .inr (quote ▸ by decide)
    by_cases slash : c = '\\'
    · exact .inr (slash ▸ by decide)
    exact .inl (by simp only [jsonChar, quote, slash, plain, control, ↓reduceIte,
      show ¬c.toNat = 8 by omega, show ¬c.toNat = 12 by omega])

/-- One character takes at most six times its own bytes in a JSON string. -/
theorem length_jsonChar (c : Char) :
    ((jsonChar c).flatMap String.utf8EncodeChar).length ≤
      6 * (String.utf8EncodeChar c).length := by
  have positive : 0 < c.utf8Size := Char.utf8Size_pos c
  have size := String.length_utf8EncodeChar c
  rcases jsonChar_short c with same | short
  · rw [same, List.flatMap_singleton]
    omega
  · omega

/-- A JSON string takes at most six times the bytes of its text, and its quotes. -/
theorem length_jsonString (text : String) :
    (bytes (jsonString text)).length ≤ 6 * (bytes text).length + 2 := by
  have body : ∀ chars : List Char, ((chars.flatMap jsonChar).flatMap String.utf8EncodeChar).length
      ≤ 6 * (chars.flatMap String.utf8EncodeChar).length := by
    intro chars
    induction chars with
    | nil => simp
    | cons c chars ih =>
      have first := length_jsonChar c
      simp only [List.flatMap_cons, List.flatMap_append, List.length_append]
      omega
  have quotes : (bytes "\"").length = 1 := by decide
  have inner := body text.toList
  simp only [jsonString, Utf8.bytes_append, List.length_append, quotes]
  rw [bytes, String.toList_ofList, bytes]
  omega

/-- A JSON array of bytes takes at most four bytes for each element, and its brackets. -/
theorem length_jsonBytes (data : List UInt8) :
    (bytes (jsonBytes data)).length ≤ 4 * data.length + 2 := by
  have element : ∀ byte : UInt8, (bytes (toString byte.toNat)).length ≤ 3 := by
    intro byte
    rw [length_bytes_toString]
    exact (Nat.length_toDigits_le_iff (by decide) (by decide)).mpr
      (lt_trans byte.toNat_lt (by decide))
  have comma : (bytes ",").length = 1 := by decide
  have body : ∀ data : List UInt8,
      (bytes (",".intercalate (data.map fun byte => toString byte.toNat))).length ≤
        4 * data.length := by
    intro data
    induction data with
    | nil => simp [bytes]
    | cons byte data ih =>
      have first := element byte
      cases data with
      | nil =>
        simp only [List.map_cons, List.map_nil, String.intercalate_singleton, List.length_cons,
          List.length_nil]
        omega
      | cons next data =>
        simp only [List.map_cons, String.intercalate_cons_cons, Utf8.bytes_append,
          List.length_append, List.length_cons] at ih ⊢
        omega
  have inner := body data
  have brackets : (bytes "[").length = 1 ∧ (bytes "]").length = 1 := by decide
  simp only [jsonBytes, Utf8.bytes_append, List.length_append]
  omega

/-! ## Reading -/

/-- The value of a lowercase hexadecimal digit. -/
def hexValue (c : Char) : Nat := if c.isDigit then c.toNat - 48 else c.toNat - 87

/-- The character an escape stands for, once its backslash is read. -/
def unescape (c : Char) (rest : List Char) : Option (Char × List Char) :=
  if c = 'u' then
    match rest with
    | _ :: _ :: high :: low :: rest => some (Char.ofNat (16 * hexValue high + hexValue low), rest)
    | _ => none
  else if c = 'b' then some (Char.ofNat 8, rest)
  else if c = 'f' then some (Char.ofNat 12, rest)
  else if c = 'n' then some ('\n', rest)
  else if c = 'r' then some ('\r', rest)
  else if c = 't' then some ('\t', rest)
  else some (c, rest)

/-- The next character of a string; none at its closing quote. -/
def nextChar : List Char → Option (Option Char × List Char)
  | [] => none
  | c :: rest =>
    if c = '"' then some (none, rest)
    else if c = '\\' then
      match rest with
      | [] => none
      | c :: rest => (unescape c rest).map fun (value, rest) => (some value, rest)
    else some (some c, rest)

/-- The characters up to the closing quote, for at most `fuel` characters. -/
def readChars : Nat → List Char → Option (List Char × List Char)
  | 0, _ => none
  | fuel + 1, text =>
    match nextChar text with
    | none => none
    | some (none, rest) => some ([], rest)
    | some (some c, rest) => (readChars fuel rest).map fun (chars, rest) => (c :: chars, rest)

/-- A fixed text. -/
def expect (literal : String) (text : List Char) : Option (List Char) :=
  if literal.toList.isPrefixOf text then some (text.drop literal.toList.length) else none

/-- A string. -/
def readString (text : List Char) : Option (String × List Char) := do
  let inside ← expect "\"" text
  let (chars, rest) ← readChars inside.length inside
  some (String.ofList chars, rest)

/-- The numbers between the brackets of an array. -/
def readNumbers (inside : List Char) : Option (List UInt8) :=
  if inside = [] then some []
  else (inside.splitOn ',').mapM fun piece =>
    (parseUnsigned 256 (String.ofList piece)).map UInt8.ofNat

/-- An array of bytes. -/
def readBytes (text : List Char) : Option (List UInt8 × List Char) := do
  let inside ← expect "[" text
  let (inside, rest) ← splitFirst ']' inside
  let data ← readNumbers inside
  some (data, rest)

/-! ## Reading what was written -/

/-- A fixed text is read. -/
theorem expect_append (literal : String) (rest : List Char) :
    expect literal (literal.toList ++ rest) = some rest := by
  simp [expect]

/-- A written character is read back. -/
theorem nextChar_jsonChar (c : Char) (rest : List Char) :
    nextChar (jsonChar c ++ rest) = some (some c, rest) := by
  by_cases control : c.toNat < 32
  · have table : ∀ value < 32, nextChar (jsonChar (Char.ofNat value) ++ rest) =
        some (some (Char.ofNat value), rest) := by
      intro value small
      interval_cases value <;> rfl
    exact Char.ofNat_toNat c ▸ table c.toNat control
  · by_cases quote : c = '"'
    · subst quote
      rfl
    by_cases slash : c = '\\'
    · subst slash
      rfl
    have plain : c ≠ '\n' ∧ c ≠ '\r' ∧ c ≠ '\t' := by
      refine ⟨?_, ?_, ?_⟩ <;> rintro rfl <;> exact control (by decide)
    have same : jsonChar c = [c] := by
      simp only [jsonChar, quote, slash, plain, control, ↓reduceIte,
        show ¬c.toNat = 8 by omega, show ¬c.toNat = 12 by omega]
    simp only [same, List.singleton_append, nextChar, quote, slash, ↓reduceIte]

/-- Written characters are read back up to the closing quote. -/
theorem readChars_jsonChar (text rest : List Char) {fuel : Nat} (enough : text.length < fuel) :
    readChars fuel (text.flatMap jsonChar ++ '"' :: rest) = some (text, rest) := by
  induction text generalizing fuel with
  | nil =>
    obtain ⟨fuel, rfl⟩ := Nat.exists_eq_succ_of_ne_zero (Nat.ne_zero_of_lt enough)
    rfl
  | cons c text ih =>
    obtain ⟨fuel, rfl⟩ := Nat.exists_eq_succ_of_ne_zero (Nat.ne_zero_of_lt enough)
    rw [List.length_cons, Nat.succ_lt_succ_iff] at enough
    rw [List.flatMap_cons, List.append_assoc, readChars, nextChar_jsonChar]
    simp only [ih enough, Option.map_some]

/-- Every character is written as at least one. -/
theorem length_le_jsonChar (text : List Char) : text.length ≤ (text.flatMap jsonChar).length := by
  have positive : ∀ c, 1 ≤ (jsonChar c).length := by
    intro c
    unfold jsonChar
    split_ifs <;> simp
  induction text with
  | nil => simp
  | cons c text ih =>
    have first := positive c
    simp only [List.flatMap_cons, List.length_append, List.length_cons]
    omega

/-- A written string is read back. -/
theorem readString_jsonString (text : String) (rest : List Char) :
    readString ((jsonString text).toList ++ rest) = some (text, rest) := by
  have shape : (jsonString text).toList ++ rest =
      "\"".toList ++ (text.toList.flatMap jsonChar ++ '"' :: rest) := by
    simp [jsonString]
  have enough : text.toList.length < (text.toList.flatMap jsonChar ++ '"' :: rest).length := by
    have length := length_le_jsonChar text.toList
    rw [List.length_append, List.length_cons]
    omega
  have read := readChars_jsonChar text.toList rest enough
  rw [shape, readString, expect_append]
  simp only [Option.bind_eq_bind, Option.bind_some, read, String.ofList_toList]

/-- Written numbers are read back. -/
theorem readNumbers_intercalate (data : List UInt8) :
    readNumbers (",".intercalate (data.map fun byte => toString byte.toNat)).toList =
      some data := by
  by_cases empty : data = []
  · rw [empty]
    rfl
  have numbers : ∀ piece ∈ data.map fun byte => (toString byte.toNat).toList,
      piece ≠ [] ∧ ∀ c ∈ piece, c.isDigit = true := by
    intro piece member
    obtain ⟨byte, -, rfl⟩ := List.mem_map.mp member
    exact ⟨toString_ne_nil byte.toNat, fun c inside => isDigit_toString inside⟩
  have split : (",".intercalate (data.map fun byte => toString byte.toNat)).toList.splitOn ',' =
      data.map fun byte => (toString byte.toNat).toList := by
    rw [String.toList_intercalate, List.map_map]
    exact List.splitOn_intercalate ','
      (fun piece member comma => absurd ((numbers piece member).2 ',' comma) (by decide))
      (by simpa using empty)
  have some : (",".intercalate (data.map fun byte => toString byte.toNat)).toList ≠ [] := by
    intro none
    rw [none] at split
    exact (numbers [] (split ▸ List.mem_singleton_self [])).1 rfl
  have each : (fun piece => (parseUnsigned 256 (String.ofList piece)).map UInt8.ofNat) ∘
      (fun byte : UInt8 => (toString byte.toNat).toList) = fun byte => pure (id byte) := by
    funext byte
    rw [Function.comp_apply, String.ofList_toList, parseUnsigned_toString byte.toNat_lt,
      Option.map_some, UInt8.ofNat_toNat]
    rfl
  rw [readNumbers, if_neg some, split, List.mapM_map, each, List.mapM_pure, List.map_id]
  rfl

/-- Written numbers hold no bracket. -/
theorem bracket_free (data : List UInt8) :
    ']' ∉ (",".intercalate (data.map fun byte => toString byte.toNat)).toList := by
  induction data with
  | nil => simp
  | cons byte data ih =>
    have digits : ']' ∉ (toString byte.toNat).toList :=
      fun bracket => absurd (isDigit_toString bracket) (by decide)
    cases data with
    | nil => simpa using digits
    | cons next data =>
      simp only [List.map_cons, String.intercalate_cons_cons, String.toList_append,
        List.mem_append, not_or] at ih ⊢
      exact ⟨⟨digits, by decide⟩, ih⟩

/-- A written array of bytes is read back. -/
theorem readBytes_jsonBytes (data : List UInt8) (rest : List Char) :
    readBytes ((jsonBytes data).toList ++ rest) = some (data, rest) := by
  have shape : (jsonBytes data).toList ++ rest = "[".toList ++
      ((",".intercalate (data.map fun byte => toString byte.toNat)).toList ++ ']' :: rest) := by
    simp [jsonBytes]
  rw [shape, readBytes, expect_append]
  simp only [Option.bind_eq_bind, Option.bind_some, splitFirst_join (bracket_free data),
    readNumbers_intercalate]

end Talk.Json
