import Mathlib.Tactic.IntervalCases
import Talk.Lib.Text
import Talk.Lib.Utf8

/-!
# Base64 with padding

The standard alphabet, written with padding and read strictly: a text is refused unless it
consists of whole groups of four characters, padded only at its end, with the unused bits of a
padded group all zero.
-/

namespace Talk.Base64

open Utf8 (bytes)

/-- The character of a six-bit value in the standard alphabet. -/
def symbol (value : Nat) : Char :=
  if value < 26 then Char.ofNat (65 + value)
  else if value < 52 then Char.ofNat (97 + (value - 26))
  else if value < 62 then Char.ofNat (48 + (value - 52))
  else if value = 62 then '+'
  else '/'

/-- The six-bit value of a character of the standard alphabet. -/
def symbolValue (c : Char) : Option Nat :=
  if 'A' ≤ c ∧ c ≤ 'Z' then some (c.toNat - 65)
  else if 'a' ≤ c ∧ c ≤ 'z' then some (c.toNat - 97 + 26)
  else if '0' ≤ c ∧ c ≤ '9' then some (c.toNat - 48 + 52)
  else if c = '+' then some 62
  else if c = '/' then some 63
  else none

/-- Write three bytes as four characters, and pad the last group. -/
def encodeChars : List UInt8 → List Char
  | [] => []
  | [a] => [symbol (a.toNat / 4), symbol (a.toNat % 4 * 16), '=', '=']
  | [a, b] =>
    [symbol (a.toNat / 4), symbol (a.toNat % 4 * 16 + b.toNat / 16), symbol (b.toNat % 16 * 4), '=']
  | a :: b :: c :: rest =>
    symbol (a.toNat / 4) :: symbol (a.toNat % 4 * 16 + b.toNat / 16) ::
      symbol (b.toNat % 16 * 4 + c.toNat / 64) :: symbol (c.toNat % 64) :: encodeChars rest

/-- Read groups of four characters; only the last one may be padded. -/
def decodeChars : List Char → Option (List UInt8)
  | [] => some []
  | [a, b, '=', '='] => do
    let a ← symbolValue a
    let b ← symbolValue b
    if b % 16 = 0 then some [UInt8.ofNat (a * 4 + b / 16)] else none
  | [a, b, c, '='] => do
    let a ← symbolValue a
    let b ← symbolValue b
    let c ← symbolValue c
    if c % 4 = 0 then some [UInt8.ofNat (a * 4 + b / 16), UInt8.ofNat (b % 16 * 16 + c / 4)]
    else none
  | a :: b :: c :: d :: rest => do
    let a ← symbolValue a
    let b ← symbolValue b
    let c ← symbolValue c
    let d ← symbolValue d
    let rest ← decodeChars rest
    some (UInt8.ofNat (a * 4 + b / 16) :: UInt8.ofNat (b % 16 * 16 + c / 4) ::
      UInt8.ofNat (c % 4 * 64 + d) :: rest)
  | _ => none

/-- `base64::engine::general_purpose::STANDARD.encode`. -/
def encode (data : List UInt8) : String := String.ofList (encodeChars data)

/-- `base64::engine::general_purpose::STANDARD.decode`. -/
def decode (text : String) : Option (List UInt8) := decodeChars text.toList

/-- What is used of the alphabet: a symbol is read back, and is neither
padding nor whitespace. -/
structure Symbol (value : Nat) : Prop where
  /-- A symbol is read back. -/
  read : symbolValue (symbol value) = some value
  /-- No symbol is the padding character. -/
  padding : symbol value ≠ '='
  /-- No symbol is whitespace. -/
  whitespace : Text.isWhitespace (symbol value) = false

/-- Every six-bit value has its symbol. -/
theorem symbol_spec {value : Nat} (small : value < 64) : Symbol value := by
  interval_cases value <;> exact ⟨by decide, by decide, by decide⟩

/-- A group of four symbols is read as three bytes. -/
theorem decodeChars_group {a b c d : Nat} (as : Symbol a) (bs : Symbol b) (cs : Symbol c)
    (ds : Symbol d) (rest : List Char) :
    decodeChars (symbol a :: symbol b :: symbol c :: symbol d :: rest) =
      (decodeChars rest).map fun rest => UInt8.ofNat (a * 4 + b / 16) ::
        UInt8.ofNat (b % 16 * 16 + c / 4) :: UInt8.ofNat (c % 4 * 64 + d) :: rest := by
  -- The fourth character is no padding, so neither padded form matches.
  have last := ds.padding
  rw [decodeChars.eq_4]
  · simp only [as.read, bs.read, cs.read, ds.read, bind, Option.bind]
    cases decodeChars rest <;> rfl
  · intro _ fourth _
    exact last fourth
  · intro fourth _
    exact last fourth

/-- Joining the bits that were split off leaves the byte. -/
theorem ofNat_joined {byte : UInt8} {value : Nat} (same : value = byte.toNat) :
    UInt8.ofNat value = byte := by
  rw [same, UInt8.ofNat_toNat]

/-- Base64 text is read back. -/
theorem decodeChars_encodeChars (data : List UInt8) :
    decodeChars (encodeChars data) = some data := by
  induction data using encodeChars.induct with
  | case1 => rfl
  | case2 a =>
    have ha := a.toNat_lt
    have first := symbol_spec (by omega : a.toNat / 4 < 64)
    have second := symbol_spec (by omega : a.toNat % 4 * 16 < 64)
    have whole : a.toNat / 4 * 4 + a.toNat % 4 * 16 / 16 = a.toNat := by omega
    simp only [encodeChars, decodeChars, first.read, second.read, bind, Option.bind,
      show a.toNat % 4 * 16 % 16 = 0 by omega, ↓reduceIte, ofNat_joined whole]
  | case3 a b =>
    have ha := a.toNat_lt
    have hb := b.toNat_lt
    have first := symbol_spec (by omega : a.toNat / 4 < 64)
    have second := symbol_spec (by omega : a.toNat % 4 * 16 + b.toNat / 16 < 64)
    have third := symbol_spec (by omega : b.toNat % 16 * 4 < 64)
    have one : a.toNat / 4 * 4 + (a.toNat % 4 * 16 + b.toNat / 16) / 16 = a.toNat := by omega
    have two : (a.toNat % 4 * 16 + b.toNat / 16) % 16 * 16 + b.toNat % 16 * 4 / 4 = b.toNat := by
      omega
    rw [encodeChars, decodeChars.eq_3 _ _ _ third.padding]
    simp only [first.read, second.read, third.read, bind, Option.bind,
      show b.toNat % 16 * 4 % 4 = 0 by omega, ↓reduceIte, ofNat_joined one, ofNat_joined two]
  | case4 a b c rest ih =>
    have ha := a.toNat_lt
    have hb := b.toNat_lt
    have hc := c.toNat_lt
    have one : a.toNat / 4 * 4 + (a.toNat % 4 * 16 + b.toNat / 16) / 16 = a.toNat := by omega
    have two : (a.toNat % 4 * 16 + b.toNat / 16) % 16 * 16
        + (b.toNat % 16 * 4 + c.toNat / 64) / 4 = b.toNat := by omega
    have three : (b.toNat % 16 * 4 + c.toNat / 64) % 4 * 64 + c.toNat % 64 = c.toNat := by omega
    rw [encodeChars, decodeChars_group (symbol_spec (by omega)) (symbol_spec (by omega))
      (symbol_spec (by omega)) (symbol_spec (by omega)), ih, Option.map_some, ofNat_joined one,
      ofNat_joined two, ofNat_joined three]

/-- Base64 text is read back. -/
theorem decode_encode (data : List UInt8) : decode (encode data) = some data := by
  simp only [decode, encode, String.toList_ofList, decodeChars_encodeChars]

/-- Every character written is a symbol or padding. -/
theorem mem_encodeChars {data : List UInt8} {c : Char} (member : c ∈ encodeChars data) :
    c = '=' ∨ ∃ value < 64, c = symbol value := by
  induction data using encodeChars.induct with
  | case1 => simp [encodeChars] at member
  | case2 a =>
    have ha := a.toNat_lt
    simp only [encodeChars, List.mem_cons, List.not_mem_nil, or_false] at member
    rcases member with rfl | rfl | rfl | rfl
    · exact .inr ⟨_, by omega, rfl⟩
    · exact .inr ⟨_, by omega, rfl⟩
    · exact .inl rfl
    · exact .inl rfl
  | case3 a b =>
    have ha := a.toNat_lt
    have hb := b.toNat_lt
    simp only [encodeChars, List.mem_cons, List.not_mem_nil, or_false] at member
    rcases member with rfl | rfl | rfl | rfl
    · exact .inr ⟨_, by omega, rfl⟩
    · exact .inr ⟨_, by omega, rfl⟩
    · exact .inr ⟨_, by omega, rfl⟩
    · exact .inl rfl
  | case4 a b c' rest ih =>
    have ha := a.toNat_lt
    have hb := b.toNat_lt
    have hc := c'.toNat_lt
    simp only [encodeChars, List.mem_cons] at member
    rcases member with rfl | rfl | rfl | rfl | later
    · exact .inr ⟨_, by omega, rfl⟩
    · exact .inr ⟨_, by omega, rfl⟩
    · exact .inr ⟨_, by omega, rfl⟩
    · exact .inr ⟨_, by omega, rfl⟩
    · exact ih later

/-- Base64 text holds no whitespace. -/
theorem whitespace_encode {data : List UInt8} {c : Char} (member : c ∈ (encode data).toList) :
    Text.isWhitespace c = false := by
  rw [encode, String.toList_ofList] at member
  rcases mem_encodeChars member with rfl | ⟨value, small, rfl⟩
  · decide
  · exact (symbol_spec small).whitespace

/-- Base64 text is at least as long as the data it carries. -/
theorem length_le_encode (data : List UInt8) : data.length ≤ (bytes (encode data)).length := by
  have chars : ∀ data : List UInt8, data.length ≤ (encodeChars data).length := by
    intro data
    induction data using encodeChars.induct with
    | case1 => simp
    | case2 a => simp [encodeChars]
    | case3 a b => simp [encodeChars]
    | case4 a b c rest ih =>
      simp only [encodeChars, List.length_cons]
      omega
  refine le_trans ?_ (Utf8.length_le_bytes (encode data))
  simpa only [encode, String.toList_ofList] using chars data

/-- Decoded data is at most as long as its text. -/
theorem length_decode {text : String} {data : List UInt8} (decoded : decode text = some data) :
    data.length ≤ text.toList.length := by
  have chars : ∀ (text : List Char) (data : List UInt8), decodeChars text = some data →
      data.length ≤ text.length := by
    intro text
    induction text using decodeChars.induct with
    | case1 => simp [decodeChars]
    | case2 a b =>
      intro data decoded
      simp only [decodeChars, bind, Option.bind_eq_some_iff] at decoded
      obtain ⟨_, -, _, -, decoded⟩ := decoded
      split at decoded
      · cases decoded
        simp
      · cases decoded
    | case3 a b c =>
      intro data decoded
      simp only [decodeChars, bind, Option.bind_eq_some_iff] at decoded
      obtain ⟨_, -, _, -, _, -, decoded⟩ := decoded
      split at decoded
      · cases decoded
        simp
      · cases decoded
    | case4 a b c d rest _ _ ih =>
      intro data decoded
      rw [decodeChars] at decoded
      · simp only [bind, Option.bind_eq_some_iff] at decoded
        obtain ⟨_, -, _, -, _, -, _, -, later, found, decoded⟩ := decoded
        cases decoded
        have shorter := ih later found
        simp only [List.length_cons]
        omega
      · assumption
      · assumption
    | case5 text _ _ _ _ =>
      intro data decoded
      rw [decodeChars] at decoded
      · cases decoded
      all_goals assumption
  exact chars text.toList data decoded

end Talk.Base64
