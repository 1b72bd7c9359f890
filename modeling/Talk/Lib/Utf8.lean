import Mathlib.Data.List.Basic

/-!
# UTF-8 text as bytes

Text is a Lean `String`, a list of Unicode scalar values; on a byte stream it is its UTF-8
encoding. `scan` reads a byte list from the front one scalar value at a time. Where no scalar
value can be read it reports one maximal invalid subsequence instead, so that the strict and
the lossy decoder are two readings of the same scan: the strict one refuses as soon as an
invalid subsequence appears, the lossy one writes U+FFFD in its place.
-/

namespace Talk.Utf8

/-- The UTF-8 encoding of a text. -/
def bytes (text : String) : List UInt8 := text.toList.flatMap String.utf8EncodeChar

/-- A continuation byte, `10xxxxxx`. -/
def isTail (byte : UInt8) : Bool := 0x80 ≤ byte && byte ≤ 0xBF

/-- The second bytes admitted after the first byte of a three-byte or four-byte sequence;
the bounds exclude overlong forms, surrogates and values above U+10FFFF. -/
def isSecond (first second : UInt8) : Bool :=
  if first = 0xE0 then 0xA0 ≤ second && second ≤ 0xBF
  else if first = 0xED then 0x80 ≤ second && second ≤ 0x9F
  else if first = 0xF0 then 0x90 ≤ second && second ≤ 0xBF
  else if first = 0xF4 then 0x80 ≤ second && second ≤ 0x8F
  else isTail second

/-- The payload of a byte above the marker bits of its position. -/
def payload (byte : UInt8) (marker : Nat) : Nat := byte.toNat - marker

/-- Read one scalar value that starts with `first`: the value, or `none` for a maximal invalid
subsequence, and the number of bytes it takes after `first`. -/
def next (first : UInt8) (rest : List UInt8) : Option Char × Nat :=
  if first < 0x80 then (some (Char.ofNat first.toNat), 0)
  else if 0xC2 ≤ first ∧ first ≤ 0xDF then
    match rest with
    | second :: _ =>
      if isTail second then
        (some (Char.ofNat (payload first 0xC0 * 64 + payload second 0x80)), 1)
      else (none, 0)
    | [] => (none, 0)
  else if 0xE0 ≤ first ∧ first ≤ 0xEF then
    match rest with
    | second :: third :: _ =>
      if isSecond first second then
        if isTail third then
          (some (Char.ofNat (payload first 0xE0 * 4096 + payload second 0x80 * 64
            + payload third 0x80)), 2)
        else (none, 1)
      else (none, 0)
    | [second] => (none, if isSecond first second then 1 else 0)
    | [] => (none, 0)
  else if 0xF0 ≤ first ∧ first ≤ 0xF4 then
    match rest with
    | second :: third :: fourth :: _ =>
      if isSecond first second then
        if isTail third then
          if isTail fourth then
            (some (Char.ofNat (payload first 0xF0 * 262144 + payload second 0x80 * 4096
              + payload third 0x80 * 64 + payload fourth 0x80)), 3)
          else (none, 2)
        else (none, 1)
      else (none, 0)
    | [second, third] =>
      (none, if isSecond first second then if isTail third then 2 else 1 else 0)
    | [second] => (none, if isSecond first second then 1 else 0)
    | [] => (none, 0)
  else (none, 0)

/-- Read a byte list from the front, after skipping the bytes of the value read last. -/
def scan : Nat → List UInt8 → List (Option Char)
  | _, [] => []
  | skip + 1, _ :: rest => scan skip rest
  | 0, first :: rest => (next first rest).1 :: scan (next first rest).2 rest

/-- Decode with U+FFFD for each maximal invalid subsequence, `String::from_utf8_lossy`. -/
def fromUtf8Lossy (input : List UInt8) : String :=
  String.ofList ((scan 0 input).map fun value => value.getD (Char.ofNat 0xFFFD))

/-- Decode, refusing invalid input, `String::from_utf8`. -/
def fromUtf8 (input : List UInt8) : Option String :=
  if (scan 0 input).all Option.isSome then some (fromUtf8Lossy input) else none

/-! ## Reading back an encoded scalar value

A byte of an encoded scalar value is a small number with its marker bits added, so every
comparison `next` makes is a comparison of numbers. -/

/-- A number below 256 is kept by the conversion to a byte. -/
theorem toNat_ofNat {value : Nat} (small : value < 256) : (UInt8.ofNat value).toNat = value := by
  simp only [UInt8.toNat_ofNat']
  omega

/-- A byte made of a small number is compared as that number. -/
theorem within_iff {value : Nat} (small : value < 256) (low high : UInt8) :
    (low ≤ UInt8.ofNat value ∧ UInt8.ofNat value ≤ high) ↔
      low.toNat ≤ value ∧ value ≤ high.toNat := by
  simp only [UInt8.le_iff_toNat_le, toNat_ofNat small]

/-- The byte `10xxxxxx` of six payload bits is a continuation byte. -/
theorem isTail_ofNat (value : Nat) : isTail (UInt8.ofNat (value % 64 + 128)) = true := by
  have within := (within_iff (by omega : value % 64 + 128 < 256) 0x80 0xBF).mpr
    ⟨by simp, by simp only [UInt8.toNat_ofNat]; omega⟩
  simp only [isTail, within.1, within.2, decide_true, Bool.and_self]

/-- Removing the marker bits leaves the payload. -/
theorem payload_ofNat {value marker : Nat} (small : value + marker < 256) :
    payload (UInt8.ofNat (value + marker)) marker = value := by
  rw [payload, toNat_ofNat small]
  omega

/-- A value below U+0080 is read back from its one byte. -/
theorem next_one {value : Nat} (rest : List UInt8) (high : value < 128) :
    next (UInt8.ofNat value) rest = (some (Char.ofNat value), 0) := by
  have exact : (UInt8.ofNat value).toNat = value := toNat_ofNat (by omega)
  have narrow : UInt8.ofNat value < 0x80 := by
    simp only [UInt8.lt_iff_toNat_lt, exact, UInt8.toNat_ofNat]
    omega
  simp only [next, narrow, exact, ↓reduceIte]

/-- A first byte that carries marker bits is not an ASCII byte. -/
theorem not_ascii {value : Nat} (low : 128 ≤ value) (small : value < 256) :
    ¬UInt8.ofNat value < 0x80 := by
  simp only [UInt8.lt_iff_toNat_lt, toNat_ofNat small, UInt8.toNat_ofNat]
  omega

/-- A value below U+0800 is read back from its two bytes. -/
theorem next_two {value : Nat} (rest : List UInt8) (low : 128 ≤ value) (high : value < 2048) :
    next (UInt8.ofNat (value / 64 % 32 + 192)) (UInt8.ofNat (value % 64 + 128) :: rest) =
      (some (Char.ofNat value), 1) := by
  have small : value / 64 % 32 + 192 < 256 := by omega
  have two := (within_iff small 0xC2 0xDF).mpr (by simp only [UInt8.toNat_ofNat]; omega)
  have joined : value / 64 % 32 * 64 + value % 64 = value := by omega
  simp only [next, not_ascii (by omega) small, two, isTail_ofNat, payload_ofNat small,
    payload_ofNat (by omega : value % 64 + 128 < 256), joined, ↓reduceIte, and_self]

/-- A value below U+10000 that is no surrogate is read back from its three bytes. -/
theorem next_three {value : Nat} (rest : List UInt8) (low : 2048 ≤ value) (high : value < 65536)
    (scalar : value < 0xD800 ∨ 0xDFFF < value) :
    next (UInt8.ofNat (value / 4096 % 16 + 224)) (UInt8.ofNat (value / 64 % 64 + 128) ::
      UInt8.ofNat (value % 64 + 128) :: rest) = (some (Char.ofNat value), 2) := by
  have small : value / 4096 % 16 + 224 < 256 := by omega
  have notTwo := mt (within_iff small 0xC2 0xDF).mp (by simp only [UInt8.toNat_ofNat]; omega)
  have three := (within_iff small 0xE0 0xEF).mpr (by simp only [UInt8.toNat_ofNat]; omega)
  have admitted : isSecond (UInt8.ofNat (value / 4096 % 16 + 224))
      (UInt8.ofNat (value / 64 % 64 + 128)) = true := by
    simp only [isSecond, isTail, ← UInt8.toNat_inj, UInt8.le_iff_toNat_le, toNat_ofNat small,
      toNat_ofNat (by omega : value / 64 % 64 + 128 < 256), UInt8.toNat_ofNat]
    split_ifs <;> simp <;> omega
  have joined : value / 4096 % 16 * 4096 + value / 64 % 64 * 64 + value % 64 = value := by omega
  simp only [next, not_ascii (by omega) small, notTwo, three, admitted, isTail_ofNat,
    payload_ofNat small, payload_ofNat (by omega : value / 64 % 64 + 128 < 256),
    payload_ofNat (by omega : value % 64 + 128 < 256), joined, ↓reduceIte, and_self]

/-- A value from U+10000 on is read back from its four bytes. -/
theorem next_four {value : Nat} (rest : List UInt8) (low : 65536 ≤ value)
    (high : value < 0x110000) :
    next (UInt8.ofNat (value / 262144 % 8 + 240)) (UInt8.ofNat (value / 4096 % 64 + 128) ::
      UInt8.ofNat (value / 64 % 64 + 128) :: UInt8.ofNat (value % 64 + 128) :: rest) =
      (some (Char.ofNat value), 3) := by
  have small : value / 262144 % 8 + 240 < 256 := by omega
  have notTwo := mt (within_iff small 0xC2 0xDF).mp (by simp only [UInt8.toNat_ofNat]; omega)
  have notThree := mt (within_iff small 0xE0 0xEF).mp (by simp only [UInt8.toNat_ofNat]; omega)
  have four := (within_iff small 0xF0 0xF4).mpr (by simp only [UInt8.toNat_ofNat]; omega)
  have admitted : isSecond (UInt8.ofNat (value / 262144 % 8 + 240))
      (UInt8.ofNat (value / 4096 % 64 + 128)) = true := by
    simp only [isSecond, isTail, ← UInt8.toNat_inj, UInt8.le_iff_toNat_le, toNat_ofNat small,
      toNat_ofNat (by omega : value / 4096 % 64 + 128 < 256), UInt8.toNat_ofNat]
    split_ifs <;> simp <;> omega
  have joined : value / 262144 % 8 * 262144 + value / 4096 % 64 * 4096 + value / 64 % 64 * 64
      + value % 64 = value := by omega
  simp only [next, not_ascii (by omega) small, notTwo, notThree, four, admitted, isTail_ofNat,
    payload_ofNat small, payload_ofNat (by omega : value / 4096 % 64 + 128 < 256),
    payload_ofNat (by omega : value / 64 % 64 + 128 < 256),
    payload_ofNat (by omega : value % 64 + 128 < 256), joined, ↓reduceIte, and_self]

/-- Skipping a byte list leaves the scan of what follows it. -/
theorem scan_skip (skipped rest : List UInt8) :
    scan skipped.length (skipped ++ rest) = scan 0 rest := by
  induction skipped with
  | nil => rfl
  | cons byte tail ih => simpa [scan] using ih

/-- A scan of one byte and the bytes its value takes reports the value and goes on. -/
theorem scan_value {first : UInt8} (tail : List UInt8) {rest : List UInt8} {value : Char}
    (read : next first (tail ++ rest) = (some value, tail.length)) :
    scan 0 (first :: tail ++ rest) = some value :: scan 0 rest := by
  simp only [List.cons_append, scan, read, scan_skip]

/-- A scalar value lies outside the surrogates. -/
theorem scalar_range (value : Char) :
    value.toNat < 0xD800 ∨ (0xDFFF < value.toNat ∧ value.toNat < 0x110000) := by
  have valid := value.valid
  simpa [UInt32.isValidChar, Nat.isValidChar] using valid

/-- The scan reads back an encoded scalar value, whatever follows it. -/
theorem scan_utf8EncodeChar (value : Char) (rest : List UInt8) :
    scan 0 (String.utf8EncodeChar value ++ rest) = some value :: scan 0 rest := by
  have range := scalar_range value
  have back := Char.ofNat_toNat value
  have number : value.val.toNat = value.toNat := rfl
  simp only [String.utf8EncodeChar, number]
  split_ifs with one two three
  · exact scan_value [] (by rw [next_one _ (by omega), back]; rfl)
  · exact scan_value [_] (by
      rw [List.singleton_append, next_two _ (by omega) (by omega), back]; rfl)
  · exact scan_value [_, _] (by
      rw [List.cons_append, List.singleton_append,
        next_three _ (by omega) (by omega) (by omega), back]; rfl)
  · exact scan_value [_, _, _] (by
      rw [List.cons_append, List.cons_append, List.singleton_append,
        next_four _ (by omega) (by omega), back]; rfl)

/-! ## Whole texts -/

/-- The encoding of two texts in order. -/
@[simp] theorem bytes_append (left right : String) :
    bytes (left ++ right) = bytes left ++ bytes right := by
  simp only [bytes, String.toList_append, List.flatMap_append]

/-- The scan of an encoded text reports its scalar values. -/
theorem scan_bytes (values : List Char) :
    scan 0 (values.flatMap String.utf8EncodeChar) = values.map some := by
  induction values with
  | nil => rfl
  | cons value values ih => rw [List.flatMap_cons, scan_utf8EncodeChar, ih, List.map_cons]

/-- Lossy decoding of an encoded text loses nothing. -/
@[simp] theorem fromUtf8Lossy_bytes (text : String) : fromUtf8Lossy (bytes text) = text := by
  have kept : (fun value : Option Char => value.getD (Char.ofNat 0xFFFD)) ∘ some = id := rfl
  simp [fromUtf8Lossy, bytes, scan_bytes, kept]

/-- Strict decoding accepts every encoded text. -/
@[simp] theorem fromUtf8_bytes (text : String) : fromUtf8 (bytes text) = some text := by
  have valid : (scan 0 (bytes text)).all Option.isSome = true := by
    simp [bytes, scan_bytes]
  rw [fromUtf8, if_pos valid, fromUtf8Lossy_bytes]

/-- Different texts have different encodings. -/
theorem bytes_injective {left right : String} (same : bytes left = bytes right) : left = right := by
  rw [← fromUtf8Lossy_bytes left, same, fromUtf8Lossy_bytes]

/-- An ASCII byte occurs in the encoding of a scalar value only as that value itself. -/
theorem ascii_mem_utf8EncodeChar {byte : UInt8} {value : Char} (ascii : byte.toNat < 128)
    (member : byte ∈ String.utf8EncodeChar value) : value.toNat = byte.toNat := by
  have number : value.val.toNat = value.toNat := rfl
  simp only [String.utf8EncodeChar, number] at member
  -- Outside the one-byte form every byte has its high bit set.
  have wide : ∀ payload marker, 128 ≤ marker → payload + marker < 256 →
      byte ≠ UInt8.ofNat (payload + marker) := by
    intro payload marker high small same
    rw [same, toNat_ofNat small] at ascii
    omega
  split_ifs at member with one two three
  · rw [List.mem_singleton] at member
    rw [member, toNat_ofNat (by omega)]
  · simp only [List.mem_cons, List.not_mem_nil, or_false] at member
    rcases member with same | same <;> exact absurd same (wide _ _ (by omega) (by omega))
  · simp only [List.mem_cons, List.not_mem_nil, or_false] at member
    rcases member with same | same | same <;> exact absurd same (wide _ _ (by omega) (by omega))
  · simp only [List.mem_cons, List.not_mem_nil, or_false] at member
    rcases member with same | same | same | same <;>
      exact absurd same (wide _ _ (by omega) (by omega))

/-- The byte of an ASCII scalar value occurs in an encoded text only where the value does. -/
theorem ascii_mem_bytes {byte : UInt8} {text : String} (ascii : byte.toNat < 128)
    (member : byte ∈ bytes text) : Char.ofNat byte.toNat ∈ text.toList := by
  obtain ⟨value, found, inside⟩ := List.mem_flatMap.mp member
  rw [← ascii_mem_utf8EncodeChar ascii inside, Char.ofNat_toNat]
  exact found

/-! ## Encoding what was decoded -/

/-- A character made from a scalar value has its number. -/
theorem toNat_ofNat_scalar {value : Nat}
    (scalar : value < 0xD800 ∨ 0xDFFF < value ∧ value < 0x110000) :
    (Char.ofNat value).val.toNat = value := by
  have valid : value.isValidChar := scalar
  unfold Char.ofNat
  rw [dif_pos valid]
  rfl

/-- A byte is made from its number. -/
theorem ofNat_eq {value : Nat} (byte : UInt8) (same : value = byte.toNat) :
    UInt8.ofNat value = byte := by
  rw [same, UInt8.ofNat_toNat]

/-- The bounds of a continuation byte. -/
theorem isTail_bounds {byte : UInt8} (tail : isTail byte = true) :
    128 ≤ byte.toNat ∧ byte.toNat ≤ 191 := by
  simpa [isTail, UInt8.le_iff_toNat_le] using tail

/-- The bounds of a second byte. -/
theorem isSecond_bounds {first second : UInt8} (admitted : isSecond first second = true) :
    128 ≤ second.toNat ∧ second.toNat ≤ 191 ∧ (first.toNat = 0xE0 → 0xA0 ≤ second.toNat) ∧
      (first.toNat = 0xED → second.toNat ≤ 0x9F) ∧ (first.toNat = 0xF0 → 0x90 ≤ second.toNat) ∧
      (first.toNat = 0xF4 → second.toNat ≤ 0x8F) := by
  unfold isSecond isTail at admitted
  simp only [← UInt8.toNat_inj, UInt8.reduceToNat] at admitted
  split_ifs at admitted <;>
    simp only [Bool.and_eq_true, decide_eq_true_eq, UInt8.le_iff_toNat_le,
      UInt8.reduceToNat] at admitted <;>
    omega

/-- One byte is encoded as it was. -/
theorem encode_one {first : UInt8} (low : first.toNat < 128) :
    String.utf8EncodeChar (Char.ofNat first.toNat) = [first] := by
  rw [String.utf8EncodeChar, toNat_ofNat_scalar (by omega), if_pos (by omega), ofNat_eq first rfl]

/-- Two bytes are encoded as they were. -/
theorem encode_two {first second : UInt8} (low : 194 ≤ first.toNat) (high : first.toNat ≤ 223)
    (tail : isTail second = true) :
    String.utf8EncodeChar (Char.ofNat (payload first 0xC0 * 64 + payload second 0x80)) =
      [first, second] := by
  have bounds := isTail_bounds tail
  unfold payload
  rw [String.utf8EncodeChar, toNat_ofNat_scalar (by omega), if_neg (by omega), if_pos (by omega),
    ofNat_eq first (by omega), ofNat_eq second (by omega)]

/-- Three bytes are encoded as they were. -/
theorem encode_three {first second third : UInt8} (low : 224 ≤ first.toNat)
    (high : first.toNat ≤ 239) (admitted : isSecond first second = true)
    (tail : isTail third = true) :
    String.utf8EncodeChar (Char.ofNat (payload first 0xE0 * 4096 + payload second 0x80 * 64 +
      payload third 0x80)) = [first, second, third] := by
  have bounds := isSecond_bounds admitted
  have last := isTail_bounds tail
  unfold payload
  rw [String.utf8EncodeChar, toNat_ofNat_scalar (by omega), if_neg (by omega), if_neg (by omega),
    if_pos (by omega), ofNat_eq first (by omega), ofNat_eq second (by omega),
    ofNat_eq third (by omega)]

/-- Four bytes are encoded as they were. -/
theorem encode_four {first second third fourth : UInt8} (low : 240 ≤ first.toNat)
    (high : first.toNat ≤ 244) (admitted : isSecond first second = true)
    (tail : isTail third = true) (tail' : isTail fourth = true) :
    String.utf8EncodeChar (Char.ofNat (payload first 0xF0 * 262144 + payload second 0x80 * 4096 +
      payload third 0x80 * 64 + payload fourth 0x80)) = [first, second, third, fourth] := by
  have bounds := isSecond_bounds admitted
  have middle := isTail_bounds tail
  have last := isTail_bounds tail'
  unfold payload
  rw [String.utf8EncodeChar, toNat_ofNat_scalar (by omega), if_neg (by omega), if_neg (by omega),
    if_neg (by omega), ofNat_eq first (by omega), ofNat_eq second (by omega),
    ofNat_eq third (by omega), ofNat_eq fourth (by omega)]

/-- A scalar value that is read is encoded in the bytes it was read from. -/
theorem next_exact {first : UInt8} {rest : List UInt8} {c : Char}
    (found : (next first rest).1 = some c) :
    ∃ tail after, rest = tail ++ after ∧ tail.length = (next first rest).2 ∧
      first :: tail = String.utf8EncodeChar c := by
  revert found
  fun_cases next first rest with
  | case1 rest ascii =>
    rintro same
    rw [← Option.some.inj same]
    exact ⟨[], rest, rfl, rfl, (encode_one (UInt8.lt_iff_toNat_lt.mp ascii)).symm⟩
  | case2 _ two second after tail =>
    intro same
    simp only [UInt8.le_iff_toNat_le, UInt8.reduceToNat] at two
    rw [← Option.some.inj same]
    exact ⟨[second], after, rfl, rfl, (encode_two two.1 two.2 tail).symm⟩
  | case5 _ _ three second third after admitted tail =>
    intro same
    simp only [UInt8.le_iff_toNat_le, UInt8.reduceToNat] at three
    rw [← Option.some.inj same]
    exact ⟨[second, third], after, rfl, rfl, (encode_three three.1 three.2 admitted tail).symm⟩
  | case10 _ _ _ four second third fourth after admitted tail tail' =>
    intro same
    simp only [UInt8.le_iff_toNat_le, UInt8.reduceToNat] at four
    rw [← Option.some.inj same]
    exact ⟨[second, third, fourth], after, rfl, rfl,
      (encode_four four.1 four.2 admitted tail tail').symm⟩
  | _ => nofun

/-- U+FFFD, which stands for bytes that are no scalar value. -/
def replacement : Char := Char.ofNat 0xFFFD

/-- Bytes that are all decoded are the encoding of their text. -/
theorem bytes_of_scan {input : List UInt8} (whole : none ∉ scan 0 input) :
    bytes (fromUtf8Lossy input) = input := by
  have scanned : ∀ (size : Nat) (input : List UInt8), input.length ≤ size →
      none ∉ scan 0 input →
      ((scan 0 input).map fun value => value.getD replacement).flatMap String.utf8EncodeChar =
        input := by
    intro size
    induction size with
    | zero =>
      intro input short _
      rw [List.length_eq_zero_iff.mp (Nat.le_zero.mp short)]
      rfl
    | succ size ih =>
      intro input short whole
      cases input with
      | nil => rfl
      | cons first rest =>
        rw [scan, List.mem_cons, not_or] at whole
        obtain ⟨c, read⟩ := Option.ne_none_iff_exists'.mp (Ne.symm whole.1)
        obtain ⟨tail, after, rfl, length, encoded⟩ := next_exact read
        have later := whole.2
        rw [← length, scan_skip] at later
        have rest := ih after (by simp at short; omega) later
        rw [scan, read, ← length, scan_skip, List.map_cons, List.flatMap_cons, rest,
          Option.getD_some, ← encoded, List.cons_append]
  rw [bytes, fromUtf8Lossy, String.toList_ofList]
  exact scanned input.length input (Nat.le_refl _) whole

/-- Bytes that are decoded without U+FFFD are the encoding of the text. -/
theorem bytes_fromUtf8Lossy {input : List UInt8}
    (free : replacement ∉ (fromUtf8Lossy input).toList) : bytes (fromUtf8Lossy input) = input := by
  refine bytes_of_scan fun found => free ?_
  rw [fromUtf8Lossy, String.toList_ofList]
  exact List.mem_map.mpr ⟨none, found, rfl⟩

/-- Lossy decoding can be undone exactly on valid bytes. -/
theorem bytes_fromUtf8Lossy_iff {input : List UInt8} :
    bytes (fromUtf8Lossy input) = input ↔ (fromUtf8 input).isSome := by
  constructor
  · intro same
    rw [← same, fromUtf8_bytes]
    rfl
  · intro valid
    refine bytes_of_scan fun found => ?_
    unfold fromUtf8 at valid
    split at valid
    next whole => exact absurd (List.all_eq_true.mp whole none found) (by decide)
    next => cases valid

/-- Bytes that decode are the encoding of their text. -/
theorem bytes_fromUtf8 {input : List UInt8} {text : String} (decoded : fromUtf8 input = some text) :
    bytes text = input := by
  have whole : bytes (fromUtf8Lossy input) = input :=
    bytes_fromUtf8Lossy_iff.mpr (by rw [decoded]; rfl)
  unfold fromUtf8 at decoded
  split at decoded
  next => rw [← Option.some.inj decoded, whole]
  next => cases decoded

/-- An ASCII character of a text is a byte of its encoding. -/
theorem ascii_byte {text : String} {c : Char} (member : c ∈ text.toList) (ascii : c.toNat < 128) :
    UInt8.ofNat c.toNat ∈ bytes text := by
  apply List.mem_flatMap.mpr
  refine ⟨c, member, ?_⟩
  have low : c.val.toNat ≤ 127 := Nat.le_of_lt_succ ascii
  rw [String.utf8EncodeChar, if_pos low]
  exact List.mem_singleton_self _

/-- An ASCII character of decoded text is a byte of the input. -/
theorem ascii_mem_fromUtf8 {input : List UInt8} {text : String} {c : Char}
    (decoded : fromUtf8 input = some text) (member : c ∈ text.toList) (ascii : c.toNat < 128) :
    UInt8.ofNat c.toNat ∈ input := by
  rw [← bytes_fromUtf8 decoded]
  exact ascii_byte member ascii

/-- The scan of an encoded text goes on behind it. -/
theorem scan_bytes_append (values : List Char) (rest : List UInt8) :
    scan 0 (values.flatMap String.utf8EncodeChar ++ rest) = values.map some ++ scan 0 rest := by
  induction values with
  | nil => rfl
  | cons value values ih =>
    rw [List.flatMap_cons, List.append_assoc, scan_utf8EncodeChar, ih, List.map_cons,
      List.cons_append]

/-- A text with U+FFFD is also the reading of bytes that are not its encoding. -/
theorem exists_other_bytes {text : String} (member : replacement ∈ text.toList) :
    ∃ input, input ≠ bytes text ∧ fromUtf8Lossy input = text := by
  obtain ⟨before, after, split⟩ := List.append_of_mem member
  refine ⟨before.flatMap String.utf8EncodeChar ++
    0xFF :: after.flatMap String.utf8EncodeChar, fun same => ?_, ?_⟩
  · rw [bytes, split, List.flatMap_append, List.flatMap_cons] at same
    have tails := List.append_cancel_left same
    exact absurd (List.cons.inj tails).1 (by decide)
  · have invalid : scan 0 (0xFF :: after.flatMap String.utf8EncodeChar) =
        none :: after.map some := by
      rw [scan, show next 0xFF (after.flatMap String.utf8EncodeChar) = (none, 0) from rfl]
      exact congrArg _ (scan_bytes after)
    have kept : (fun value : Option Char => value.getD (Char.ofNat 0xFFFD)) ∘ some = id := rfl
    rw [fromUtf8Lossy, scan_bytes_append, invalid, List.map_append, List.map_map, List.map_cons,
      List.map_map, kept, List.map_id, List.map_id, ← @String.ofList_toList text, split]
    rfl

/-! ## Parts of an input -/

/-- Skipping bytes is dropping them. -/
theorem scan_drop (skip : Nat) (input : List UInt8) :
    scan skip input = scan 0 (input.drop skip) := by
  induction input generalizing skip with
  | nil => cases skip <;> rfl
  | cons first rest ih =>
    cases skip with
    | zero => rfl
    | succ skip => exact ih skip

/-- What is decoded without U+FFFD at the end of the input is the encoding of its end. -/
theorem bytes_of_suffix {input : List UInt8} {front back : List Char}
    (text : (fromUtf8Lossy input).toList = front ++ back) (free : replacement ∉ back) :
    ∃ before, input = before ++ bytes (String.ofList back) := by
  induction front generalizing input with
  | nil =>
    have same : fromUtf8Lossy input = String.ofList back := by
      rw [← String.toList_inj, text, String.toList_ofList, List.nil_append]
    rw [← same]
    refine ⟨[], (bytes_fromUtf8Lossy ?_).symm⟩
    rwa [text, List.nil_append]
  | cons c front ih =>
    cases input with
    | nil => cases text
    | cons first rest =>
      rw [fromUtf8Lossy, String.toList_ofList, scan, scan_drop, List.map_cons] at text
      have later := (List.cons.inj text).2
      obtain ⟨before, shape⟩ := @ih (rest.drop (next first rest).2) (by
        rw [fromUtf8Lossy, String.toList_ofList]
        exact later)
      refine ⟨first :: rest.take (next first rest).2 ++ before, ?_⟩
      rw [List.append_assoc, ← shape, List.cons_append, List.take_append_drop]

/-- An ASCII byte does not continue a sequence. -/
theorem ascii_ends {byte : UInt8} (ascii : byte.toNat < 128) :
    isTail byte = false ∧ ∀ first, isSecond first byte = false := by
  constructor
  · cases tail : isTail byte with
    | false => rfl
    | true =>
      have bounds := isTail_bounds tail
      omega
  · intro first
    cases admitted : isSecond first byte with
    | false => rfl
    | true =>
      have bounds := isSecond_bounds admitted
      omega

/-- The bytes that a value takes are there. -/
theorem next_length (first : UInt8) (rest : List UInt8) : (next first rest).2 ≤ rest.length := by
  fun_cases next first rest <;> grind

/-- What is read before an ASCII byte does not depend on it. -/
theorem next_ascii {byte : UInt8} (ascii : byte.toNat < 128) (first : UInt8)
    (rest more : List UInt8) : next first (rest ++ byte :: more) = next first rest := by
  obtain ⟨tail, admitted⟩ := ascii_ends ascii
  -- An unfinished sequence has its length as a condition inside the pair.
  have inside (condition : Bool) (here there : Nat) :
      ((none : Option Char), if condition = true then here else there) =
        if condition = true then (none, here) else (none, there) := by
    cases condition <;> rfl
  rcases rest with _ | ⟨second, _ | ⟨third, _ | ⟨fourth, rest⟩⟩⟩
  · rcases more with _ | ⟨second, _ | ⟨third, more⟩⟩ <;>
      simp only [next, tail, admitted, List.nil_append, Bool.false_eq_true, ↓reduceIte]
  · rcases more with _ | ⟨third, more⟩ <;>
      simp only [next, tail, inside, List.cons_append, List.nil_append, Bool.false_eq_true,
        ↓reduceIte]
  · simp only [next, tail, inside, List.cons_append, List.nil_append, Bool.false_eq_true,
      ↓reduceIte]
  · rfl

/-- The scan starts again at an ASCII byte. -/
theorem scan_ascii {byte : UInt8} (ascii : byte.toNat < 128) (before rest : List UInt8) :
    scan 0 (before ++ byte :: rest) = scan 0 before ++ scan 0 (byte :: rest) := by
  induction size : before.length using Nat.strongRecOn generalizing before with
  | ind size ih =>
    cases before with
    | nil => rfl
    | cons first before =>
      have short := next_length first before
      rw [List.length_cons] at size
      have later := ih (before.drop (next first before).2).length
        (by rw [List.length_drop]; omega) (before.drop (next first before).2) rfl
      rw [List.cons_append, scan, next_ascii ascii, scan, scan_drop, scan_drop _ before,
        List.drop_append_of_le_length short, List.cons_append, later]

/-- Decoding starts again at an ASCII character. -/
theorem fromUtf8Lossy_append {text : String} {c : Char} {rest : List Char}
    (starts : text.toList = c :: rest) (ascii : c.toNat < 128) (before : List UInt8) :
    fromUtf8Lossy (before ++ bytes text) = fromUtf8Lossy before ++ text := by
  have narrow : c.val.toNat ≤ 127 := Nat.le_of_lt_succ ascii
  have one : bytes text = UInt8.ofNat c.val.toNat :: rest.flatMap String.utf8EncodeChar := by
    rw [bytes, starts, List.flatMap_cons, String.utf8EncodeChar, if_pos narrow]
    rfl
  have low : (UInt8.ofNat c.val.toNat).toNat < 128 := by
    rw [toNat_ofNat (by omega)]
    exact ascii
  have whole := fromUtf8Lossy_bytes text
  rw [one] at whole ⊢
  unfold fromUtf8Lossy at whole ⊢
  rw [scan_ascii low, List.map_append, String.ofList_append, whole]
/-! ## Sizes -/

/-- Every scalar value is written as one to four bytes. -/
theorem length_utf8EncodeChars (chars : List Char) :
    chars.length ≤ (chars.flatMap String.utf8EncodeChar).length ∧
      (chars.flatMap String.utf8EncodeChar).length ≤ 4 * chars.length := by
  induction chars with
  | nil => simp
  | cons c chars ih =>
    have positive := Char.utf8Size_pos c
    have small := Char.utf8Size_le_four c
    rw [List.flatMap_cons, List.length_append, String.length_utf8EncodeChar, List.length_cons]
    omega

/-- A text has at most as many scalar values as bytes. -/
theorem length_le_bytes (text : String) : text.toList.length ≤ (bytes text).length :=
  (length_utf8EncodeChars text.toList).1

/-- A text has at most four bytes for each scalar value. -/
theorem bytes_le_length (text : String) : (bytes text).length ≤ 4 * text.toList.length :=
  (length_utf8EncodeChars text.toList).2

/-- Scanning finds at most one value for each byte. -/
theorem length_scan (skip : Nat) (input : List UInt8) :
    (scan skip input).length ≤ input.length := by
  induction input generalizing skip with
  | nil => simp [scan]
  | cons first rest ih =>
    cases skip with
    | zero => simpa [scan] using ih _
    | succ skip => exact Nat.le_trans (ih skip) (by simp)

/-- A maximal invalid subsequence has at most three bytes. -/
theorem next_invalid {first : UInt8} {rest : List UInt8} (invalid : (next first rest).1 = none) :
    (next first rest).2 ≤ 2 := by
  revert invalid
  fun_cases next first rest <;> grind

/-- Decoding puts one value, or U+FFFD, before what is decoded behind it. -/
theorem bytes_fromUtf8Lossy_cons (first : UInt8) (rest : List UInt8) :
    bytes (fromUtf8Lossy (first :: rest)) =
      String.utf8EncodeChar ((next first rest).1.getD replacement) ++
        bytes (fromUtf8Lossy (rest.drop (next first rest).2)) := by
  rw [fromUtf8Lossy, scan, scan_drop, List.map_cons, bytes, String.toList_ofList, List.flatMap_cons,
    fromUtf8Lossy, bytes, String.toList_ofList]
  rfl

/-- Lossy decoding shortens no input: U+FFFD is written as three bytes. -/
theorem length_le_fromUtf8Lossy (input : List UInt8) :
    input.length ≤ (bytes (fromUtf8Lossy input)).length := by
  induction size : input.length using Nat.strongRecOn generalizing input with
  | ind size ih =>
    cases input with
    | nil =>
      rw [← size]
      exact Nat.zero_le _
    | cons first rest =>
      rw [List.length_cons] at size
      have within := next_length first rest
      have later := ih (rest.drop (next first rest).2).length (by rw [List.length_drop]; omega)
        (rest.drop (next first rest).2) rfl
      rw [List.length_drop] at later
      have written : (next first rest).2 + 1 ≤
          (String.utf8EncodeChar ((next first rest).1.getD replacement)).length := by
        cases read : (next first rest).1 with
        | none =>
          have short := next_invalid read
          have three : (String.utf8EncodeChar replacement).length = 3 := by decide
          rw [Option.getD_none, three]
          omega
        | some c =>
          obtain ⟨tail, -, -, length, encoded⟩ := next_exact read
          have size : (String.utf8EncodeChar c).length = (next first rest).2 + 1 := by
            rw [← encoded, List.length_cons, length]
          rw [Option.getD_some]
          exact Nat.le_of_eq size.symm
      rw [bytes_fromUtf8Lossy_cons, List.length_append]
      omega

/-- Decoded text has at most as many scalar values as its input has bytes. -/
theorem length_fromUtf8Lossy (input : List UInt8) :
    (fromUtf8Lossy input).toList.length ≤ input.length := by
  simpa [fromUtf8Lossy] using length_scan 0 input

end Talk.Utf8
