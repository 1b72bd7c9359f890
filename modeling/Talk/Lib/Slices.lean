import Talk.Lib.Text

/-!
# Slices of a text by byte positions

A text is sliced at positions in its UTF-8 bytes, and a position inside a character is none a
slice can begin or end at. The bytes of a character below 128 are that character; all bytes of
any other are above, so that a scan for an ASCII byte stops at a character, and a position next
to it is a boundary.
-/

namespace Talk.Slices

open Utf8 (bytes)

/-- The bytes of a list of characters. -/
def encode (chars : List Char) : List UInt8 := chars.flatMap String.utf8EncodeChar

/-- A text is encoded character by character. -/
theorem encode_toList (text : String) : encode text.toList = bytes text := rfl

/-- The empty list has no bytes. -/
@[simp] theorem encode_nil : encode [] = [] := rfl

/-- The first character's bytes come first. -/
@[simp] theorem encode_cons (c : Char) (chars : List Char) :
    encode (c :: chars) = String.utf8EncodeChar c ++ encode chars := rfl

/-- Two lists are encoded one behind the other. -/
@[simp] theorem encode_append (left right : List Char) :
    encode (left ++ right) = encode left ++ encode right := List.flatMap_append

/-! ## Cutting at a position -/

/-- The characters before and after a byte position; none for a position inside a character or
behind the end. -/
def cutAt : Nat → List Char → Option (List Char × List Char)
  | 0, chars => some ([], chars)
  | _ + 1, [] => none
  | position + 1, c :: chars =>
    if c.utf8Size ≤ position + 1 then
      (cutAt (position + 1 - c.utf8Size) chars).map fun parts => (c :: parts.1, parts.2)
    else none

/-- `&text[start..]`; none where the source panics. -/
def sliceFrom (text : String) (start : Nat) : Option String :=
  (cutAt start text.toList).map fun parts => String.ofList parts.2

/-- `&text[start..stop]`; none where the source panics. -/
def slice (text : String) (start stop : Nat) : Option String :=
  (cutAt stop text.toList).bind fun outer =>
    (cutAt start outer.1).map fun parts => String.ofList parts.2

/-- Behind so many bytes as some first characters have, the rest follows. -/
theorem cutAt_encode (before rest : List Char) :
    cutAt (encode before).length (before ++ rest) = some (before, rest) := by
  induction before with
  | nil => simp [cutAt]
  | cons c before ih =>
    have positive := Char.utf8Size_pos c
    have size : (encode (c :: before)).length = c.utf8Size + (encode before).length := by
      rw [encode_cons, List.length_append, String.length_utf8EncodeChar]
    obtain ⟨position, shape⟩ : ∃ position, (encode (c :: before)).length = position + 1 :=
      ⟨_, (Nat.succ_pred_eq_of_pos (by omega)).symm⟩
    have left : position + 1 - c.utf8Size = (encode before).length := by omega
    rw [shape, List.cons_append, cutAt, if_pos (by omega), left, ih]
    rfl

/-- The text from the end of some first characters on. -/
theorem sliceFrom_encode {text : String} {before rest : List Char}
    (shape : text.toList = before ++ rest) :
    sliceFrom text (encode before).length = some (String.ofList rest) := by
  rw [sliceFrom, shape, cutAt_encode]
  rfl

/-- The text between two positions next to characters. -/
theorem slice_encode {text : String} {before inside after : List Char}
    (shape : text.toList = before ++ inside ++ after) :
    slice text (encode before).length (encode (before ++ inside)).length =
      some (String.ofList inside) := by
  rw [slice, shape, cutAt_encode, Option.bind_some, cutAt_encode]
  rfl

/-! ## The bytes of a character -/

/-- A character is one byte of its own value, or bytes above 127 only. -/
theorem utf8EncodeChar_cases (c : Char) :
    (c.toNat < 128 ∧ String.utf8EncodeChar c = [UInt8.ofNat c.toNat]) ∨
      (128 ≤ c.toNat ∧ ∀ byte ∈ String.utf8EncodeChar c, 128 ≤ byte.toNat) := by
  by_cases ascii : c.toNat < 128
  · refine .inl ⟨ascii, ?_⟩
    have small : c.val.toNat ≤ 127 := Nat.le_of_lt_succ ascii
    simp only [String.utf8EncodeChar, small, ↓reduceIte]
    rfl
  · refine .inr ⟨Nat.le_of_not_lt ascii, fun byte member => ?_⟩
    by_contra low
    have same := Utf8.ascii_mem_utf8EncodeChar (Nat.lt_of_not_le low) member
    omega

/-- ASCII characters take one byte each. -/
theorem length_encode_ascii {chars : List Char} (ascii : ∀ c ∈ chars, c.toNat < 128) :
    (encode chars).length = chars.length := by
  induction chars with
  | nil => rfl
  | cons c chars ih =>
    rcases utf8EncodeChar_cases c with ⟨-, one⟩ | ⟨high, -⟩
    · have rest := ih fun other member => ascii other (List.mem_cons_of_mem c member)
      rw [encode_cons, one, List.length_append, rest, List.length_singleton, List.length_cons,
        Nat.add_comm]
    · exact absurd (ascii c List.mem_cons_self) (Nat.not_lt.mpr high)

/-- A byte below 128 is the character with its value. -/
theorem ofNat_eq_iff {c : Char} {byte : UInt8} (ascii : c.toNat < 128) :
    UInt8.ofNat c.toNat = byte ↔ c = Char.ofNat byte.toNat := by
  have value : (UInt8.ofNat c.toNat).toNat = c.toNat := Utf8.toNat_ofNat (by omega)
  constructor
  · intro same
    rw [← same, value, Char.ofNat_toNat]
  · intro same
    have small := byte.toNat_lt
    have number : (Char.ofNat byte.toNat).toNat = byte.toNat :=
      Utf8.toNat_ofNat_scalar (by omega)
    rw [same, number, UInt8.ofNat_toNat]

end Talk.Slices
