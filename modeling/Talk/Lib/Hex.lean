import Mathlib.Tactic.IntervalCases
import Talk.Lib.Utf8

/-!
# Hexadecimal text

Two lowercase digits for each byte when writing; either case when reading. The reader works on
the bytes of its text, as Rust's readers do, so a text outside ASCII is refused.
-/

namespace Talk.Hex

open Utf8 (bytes)

/-- A byte array of a fixed length. -/
abbrev Block (size : Nat) := { block : List UInt8 // block.length = size }

/-- The two digits of one byte. -/
def digitPair (byte : UInt8) : List Char :=
  [Nat.digitChar (byte.toNat / 16), Nat.digitChar (byte.toNat % 16)]

/-- Lowercase hexadecimal, `format!("{b:02x}")` for each byte. -/
def encode (data : List UInt8) : String := String.ofList (data.flatMap digitPair)

/-- The value of one digit, `to_digit(16)`. -/
def digitValue (byte : UInt8) : Option Nat :=
  if 0x30 ≤ byte ∧ byte ≤ 0x39 then some (byte.toNat - 0x30)
  else if 0x61 ≤ byte ∧ byte ≤ 0x66 then some (byte.toNat - 0x61 + 10)
  else if 0x41 ≤ byte ∧ byte ≤ 0x46 then some (byte.toNat - 0x41 + 10)
  else none

/-- Read digits in pairs. -/
def decodePairs : List UInt8 → Option (List UInt8)
  | [] => some []
  | [_] => none
  | high :: low :: rest => do
    let high ← digitValue high
    let low ← digitValue low
    let rest ← decodePairs rest
    some (UInt8.ofNat (high * 16 + low) :: rest)

/-- `hex::decode`. -/
def decode (text : String) : Option (List UInt8) := decodePairs (bytes text)

/-- Read a block of exactly `size` bytes. -/
def decodeBlock (size : Nat) (text : String) : Option (Block size) :=
  (decode text).bind fun data => if h : data.length = size then some ⟨data, h⟩ else none

/-- A block of one byte, repeated. -/
def Block.replicate (size : Nat) (byte : UInt8) : Block size :=
  ⟨List.replicate size byte, List.length_replicate⟩

/-- A digit is read back from its byte. -/
theorem digitValue_digitChar {value : Nat} (small : value < 16) :
    ∃ byte, String.utf8EncodeChar (Nat.digitChar value) = [byte] ∧
      digitValue byte = some value := by
  interval_cases value <;> exact ⟨_, rfl, by decide⟩

/-- Reading the digits of one byte, followed by others, returns the byte first. -/
theorem decodePairs_digitPair (byte : UInt8) (rest : List UInt8) :
    decodePairs ((digitPair byte).flatMap String.utf8EncodeChar ++ rest) =
      (decodePairs rest).map (byte :: ·) := by
  have bound := byte.toNat_lt
  obtain ⟨high, highText, highValue⟩ :=
    digitValue_digitChar (by omega : byte.toNat / 16 < 16)
  obtain ⟨low, lowText, lowValue⟩ := digitValue_digitChar (by omega : byte.toNat % 16 < 16)
  have joined : byte.toNat / 16 * 16 + byte.toNat % 16 = byte.toNat := by omega
  simp only [digitPair, List.flatMap_cons, List.flatMap_nil, highText, lowText,
    List.append_nil, List.cons_append, List.nil_append, decodePairs, highValue, lowValue,
    joined, UInt8.ofNat_toNat, bind, Option.bind]
  cases decodePairs rest <;> rfl

/-- Hexadecimal text is read back. -/
theorem decode_encode (data : List UInt8) : decode (encode data) = some data := by
  have pairs : ∀ data : List UInt8,
      decodePairs ((data.flatMap digitPair).flatMap String.utf8EncodeChar) = some data := by
    intro data
    induction data with
    | nil => rfl
    | cons byte data ih =>
      rw [List.flatMap_cons, List.flatMap_append, decodePairs_digitPair, ih, Option.map_some]
  simpa only [decode, encode, bytes, String.toList_ofList] using pairs data

/-- What is read has one byte for two digits, and every byte of its text is a digit. -/
theorem digits_of_decodePairs {text data : List UInt8} (read : decodePairs text = some data) :
    text.length = 2 * data.length ∧ ∀ byte ∈ text, digitValue byte ≠ none := by
  induction text using decodePairs.induct generalizing data with
  | case1 =>
    cases read
    exact ⟨rfl, nofun⟩
  | case2 => cases read
  | case3 high low rest ih =>
    rw [decodePairs] at read
    obtain ⟨first, highRead, read⟩ := Option.bind_eq_some_iff.mp read
    obtain ⟨second, lowRead, read⟩ := Option.bind_eq_some_iff.mp read
    obtain ⟨others, restRead, same⟩ := Option.bind_eq_some_iff.mp read
    obtain rfl := Option.some.inj same
    obtain ⟨length, digits⟩ := ih restRead
    refine ⟨by rw [List.length_cons, List.length_cons, List.length_cons]; omega, ?_⟩
    intro byte member
    rcases List.mem_cons.mp member with rfl | member
    · rw [highRead]
      exact Option.some_ne_none first
    · rcases List.mem_cons.mp member with rfl | member
      · rw [lowRead]
        exact Option.some_ne_none second
      · exact digits byte member

/-- Two bytes of text were read for each byte. -/
theorem length_of_decode {text : String} {data : List UInt8} (read : decode text = some data) :
    (bytes text).length = 2 * data.length :=
  (digits_of_decodePairs read).1

/-- Two bytes of text for each byte written. -/
theorem length_bytes_encode (data : List UInt8) :
    (bytes (encode data)).length = 2 * data.length :=
  length_of_decode (decode_encode data)

/-- A text that is read holds no ASCII character that is not a digit, such as a separator. -/
theorem free_of_decode {text : String} {data : List UInt8} (read : decode text = some data)
    {c : Char} (ascii : c.toNat < 128) (other : digitValue (UInt8.ofNat c.toNat) = none) :
    c ∉ text.toList := fun member =>
  (digits_of_decodePairs read).2 _ (Utf8.ascii_byte member ascii) other

/-- A block is read where its bytes are. -/
theorem decodeBlock_eq_some_iff {size : Nat} {text : String} {block : Block size} :
    decodeBlock size text = some block ↔ decode text = some block.val := by
  rw [decodeBlock]
  constructor
  · intro read
    obtain ⟨data, found, fits⟩ := Option.bind_eq_some_iff.mp read
    split at fits
    · obtain rfl := Option.some.inj fits
      exact found
    · cases fits
  · intro read
    rw [read, Option.bind_some, dif_pos block.property]

end Talk.Hex
