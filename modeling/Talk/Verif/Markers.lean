import Talk.Verif.Chunking

/-!
# Literal markers

A marker is looked for in a lossy copy of the line, but measured and cut off in its bytes. The two
agree: a marker holds no U+FFFD, so its characters in the copy are its bytes at the end of the line,
whatever invalid bytes stand before them.
-/

namespace Talk.Verif.Markers

open Imap Text Incremental ReaderSteps Chunking
open Utf8 (bytes)

/-! ## Spellings -/

/-- The bytes of a marker with this text between its braces. -/
def marker (inner : String) : List UInt8 := bytes ("\x7b" ++ inner ++ "\x7d")

/-- A text of a number: its digits behind so many zeros, perhaps with a plus sign before them, and
whitespace around all. -/
def Spells (zeros count : Nat) (inner : String) : Prop :=
  ∃ before sign after, (∀ c ∈ before ++ after, isWhitespace c = true) ∧
    (sign = [] ∨ sign = ['+']) ∧ inner.toList =
      before ++ (sign ++ (List.replicate zeros '0' ++ (toString count).toList)) ++ after

/-- What stands between whitespace in a text of a number. -/
theorem mem_number {zeros count : Nat} {sign : List Char} (signed : sign = [] ∨ sign = ['+'])
    {c : Char} (member : c ∈ sign ++ (List.replicate zeros '0' ++ (toString count).toList)) :
    c = '+' ∨ c.isDigit = true := by
  rw [List.mem_append, List.mem_append] at member
  rcases member with here | zero | digit
  · rcases signed with rfl | rfl
    · cases here
    · exact .inl (List.mem_singleton.mp here)
  · rw [List.eq_of_mem_replicate zero]
    exact .inr rfl
  · exact .inr (isDigit_toString digit)

/-- A text of a number has whitespace, a plus sign and digits. -/
theorem Spells.mem {zeros count : Nat} {inner : String} (spells : Spells zeros count inner)
    {c : Char} (member : c ∈ inner.toList) :
    isWhitespace c = true ∨ c = '+' ∨ c.isDigit = true := by
  obtain ⟨before, sign, after, blank, signed, shape⟩ := spells
  rw [shape, List.mem_append, List.mem_append] at member
  rcases member with (first | number) | last
  · exact .inl (blank c (List.mem_append_left after first))
  · exact .inr (mem_number signed number)
  · exact .inl (blank c (List.mem_append_right before last))

/-- The decimal text of a number is one of its texts. -/
theorem spells_toString (count : Nat) : Spells 0 count (toString count) :=
  ⟨[], [], [], by simp, .inl rfl, by simp⟩

/-- The texts of a number are those that are trimmed and parsed to it. -/
theorem spells_iff {count : Nat} (small : count < 2 ^ 64) {inner : String} :
    parseUnsigned (2 ^ 64) (trim inner) = some count ↔ ∃ zeros, Spells zeros count inner := by
  constructor
  · intro read
    obtain ⟨-, sign, zeros, signed, core⟩ := parseUnsigned_iff.mp read
    obtain ⟨before, after, shape, blank⟩ := trim_split inner
    rw [core] at shape
    exact ⟨zeros, before, sign, after, blank, signed, shape⟩
  · rintro ⟨zeros, before, sign, after, blank, signed, shape⟩
    generalize number :
      sign ++ (List.replicate zeros '0' ++ (toString count).toList) = core at shape
    have solid : ∀ c ∈ (String.ofList core).toList, isWhitespace c = false := by
      intro c member
      rw [String.toList_ofList, ← number] at member
      rcases mem_number signed member with rfl | digit
      · decide
      · exact (whitespace_of_isDigit digit).1
    have trimmed : trim inner = String.ofList core :=
      trim_blanks (by rw [shape, String.toList_ofList]) blank solid
    rw [trimmed, parseUnsigned_iff, String.toList_ofList]
    exact ⟨small, sign, zeros, signed, number.symm⟩

/-! ## The end of a line -/

/-- The characters of a marker are those of its text between braces. -/
theorem toList_marker (inner : String) :
    ("\x7b" ++ inner ++ "\x7d").toList = '\x7b' :: (inner.toList ++ ['\x7d']) := by
  simp

/-- A marker has its text and two braces. -/
theorem length_marker (inner : String) : (marker inner).length = 2 + (bytes inner).length := by
  have braces : (bytes "\x7b").length = 1 ∧ (bytes "\x7d").length = 1 := by decide
  rw [marker, Utf8.bytes_append, Utf8.bytes_append, List.length_append, List.length_append,
    braces.1, braces.2]
  omega

/-- A literal is announced just when the last bytes of the line are a marker, and the number in it
is not above the limit. -/
theorem literalCount_eq_some_iff {line : List UInt8} {count len : Nat} :
    literalCount line = some (count, len) ↔ count ≤ 2 ^ 20 ∧
      ∃ front inner zeros, line = front ++ marker inner ∧ (marker inner).length = len ∧
        Spells zeros count inner := by
  constructor
  · intro found
    unfold literalCount at found
    cases cut : splitLast '\x7b' (Utf8.fromUtf8Lossy line).toList with
    | none =>
      rw [cut] at found
      cases found
    | some parts =>
      obtain ⟨left, rest⟩ := parts
      rw [cut] at found
      dsimp only at found
      by_cases ends : rest.getLast? = some '\x7d'
      swap
      · rw [if_neg ends] at found
        cases found
      obtain ⟨chars, rfl⟩ := List.getLast?_eq_some_iff.mp ends
      rw [if_pos ends, List.dropLast_concat] at found
      cases read : parseUnsigned (2 ^ 64) (trim (String.ofList chars)) with
      | none =>
        rw [read] at found
        cases found
      | some number =>
        rw [read] at found
        dsimp only at found
        by_cases large : 2 ^ 20 < number
        · rw [if_pos large] at found
          cases found
        rw [if_neg large] at found
        obtain ⟨rfl, rfl⟩ := Prod.mk.inj (Option.some.inj found)
        obtain ⟨zeros, spells⟩ := (spells_iff (by omega)).mp read
        have free : Utf8.replacement ∉ '\x7b' :: (chars ++ ['\x7d']) := by
          intro member
          rcases List.mem_cons.mp member with same | later
          · exact absurd same (by decide)
          rcases List.mem_append.mp later with here | last
          · rw [← @String.toList_ofList chars] at here
            exact absurd (spells.mem here) (by decide)
          · exact absurd (List.mem_singleton.mp last) (by decide)
        obtain ⟨front, shape⟩ := Utf8.bytes_of_suffix (splitLast_eq cut) free
        have text : String.ofList ('\x7b' :: (chars ++ ['\x7d'])) =
            "\x7b" ++ String.ofList chars ++ "\x7d" := by
          rw [← String.toList_inj, toList_marker, String.toList_ofList, String.toList_ofList]
        refine ⟨Nat.le_of_not_lt large, front, String.ofList chars, zeros, ?_, length_marker _,
          spells⟩
        rw [shape, text]
        rfl
  · rintro ⟨small, front, inner, zeros, rfl, rfl, spells⟩
    have free : '\x7b' ∉ inner.toList ++ ['\x7d'] := by
      intro member
      rcases List.mem_append.mp member with here | last
      · exact absurd (spells.mem here) (by decide)
      · exact absurd (List.mem_singleton.mp last) (by decide)
    have decoded := Utf8.fromUtf8Lossy_append (toList_marker inner) (by decide) front
    have read := (spells_iff (by omega : count < 2 ^ 64)).mpr ⟨zeros, spells⟩
    rw [literalCount, marker, decoded, String.toList_append, toList_marker, splitLast_join _ free]
    dsimp only
    rw [List.getLast?_concat, if_pos rfl, List.dropLast_concat, String.ofList_toList, read]
    dsimp only
    rw [if_neg (Nat.not_lt.mpr small), ← length_marker, marker]

/-- A text that ends with the bytes of a marker ends with its characters. -/
theorem chars_of_marked {line : String} {front : List UInt8} {inner : String}
    (shape : bytes line = front ++ marker inner) :
    ∃ before, line.toList = before ++ '\x7b' :: (inner.toList ++ ['\x7d']) := by
  have decoded := Utf8.fromUtf8Lossy_append (toList_marker inner) (by decide) front
  rw [marker] at shape
  rw [← shape, Utf8.fromUtf8Lossy_bytes] at decoded
  refine ⟨(Utf8.fromUtf8Lossy front).toList, ?_⟩
  rw [decoded, String.toList_append, toList_marker]

/-! ## The line that is kept -/

/-- A line ends with a marker that is so many bytes long, with a text of the number that is allowed,
and a feed that comes to the line keeps what stands before the marker. -/
structure Measured (allowed : Nat → String → Prop) (line : List UInt8) (count len : Nat) :
    Prop where
  /-- The marker is not longer than the line. -/
  fits : len ≤ line.length
  /-- The literal is not longer than 1 MiB. -/
  capped : count ≤ 2 ^ 20
  /-- The last bytes of the line are the marker, and a feed strips it. -/
  stripped : ∃ front inner, line = front ++ marker inner ∧ (marker inner).length = len ∧
    allowed count inner ∧ ∀ rounds rest pending, 10 ∉ line →
      feedLoop (rounds + 1) ⟨line ++ 13 :: 10 :: rest, pending, none⟩ =
        (.ok [], ⟨rest, pending ++ front, some count⟩)

/-- What a line has before its marker is the line without the length of the marker. -/
theorem take_marker {line front : List UInt8} {inner : String} {len : Nat}
    (shape : line = front ++ marker inner) (length : (marker inner).length = len) :
    line.take (line.length - len) = front := by
  rw [shape, ← length, List.length_append, Nat.add_sub_cancel, List.take_left]

/-- A literal is announced just when the line ends with its marker: the length is that of the marker
in the bytes of the line, and a feed strips these bytes and no others. -/
theorem marker_measured_iff (line : List UInt8) (count len : Nat) :
    literalCount line = some (count, len) ↔
      Measured (fun count inner => ∃ zeros, Spells zeros count inner) line count len := by
  constructor
  · intro found
    obtain ⟨small, front, inner, zeros, shape, length, spells⟩ := literalCount_eq_some_iff.mp found
    have size := congrArg List.length shape
    rw [List.length_append, length] at size
    refine ⟨by omega, small, front, inner, shape, length, ⟨zeros, spells⟩, ?_⟩
    intro rounds rest pending oneLine
    rw [Pipelining.feedLoop_marker oneLine found, take_marker shape length]
  · rintro ⟨-, small, front, inner, shape, length, ⟨zeros, spells⟩, -⟩
    exact literalCount_eq_some_iff.mpr ⟨small, front, inner, zeros, shape, length, spells⟩

/-- Bytes before the marker that are no text do not change its length. -/
example : literalCount [0xFF, 0xE2, 0x82, 0x7B, 0x33, 0x7D] = some (3, 3) := by decide +kernel

/-- The marker of a number with a zero before it is taken too. -/
theorem padded_marker_taken :
    ¬∀ line count len, literalCount line = some (count, len) →
      Measured (Spells 0) line count len := by
  intro plain
  have padded : marker "007" = [123, 48, 48, 55, 125] := by decide
  have found : literalCount (marker "007") = some (7, 5) := by decide +kernel
  obtain ⟨front, inner, shape, length, ⟨before, sign, after, blank, signed, text⟩, -⟩ :=
    (plain _ _ _ found).stripped
  have size := congrArg List.length shape
  rw [List.length_append, length, padded] at size
  obtain rfl : front = [] := List.eq_nil_of_length_eq_zero (by simpa using size)
  have same : "\x7b007\x7d" = "\x7b" ++ inner ++ "\x7d" := Utf8.bytes_injective shape
  rw [← String.toList_inj, toList_marker] at same
  have digits : ['0', '0', '7'] = inner.toList := List.append_cancel_right (List.cons.inj same).2
  have zero : '0' ∈ inner.toList := digits ▸ List.mem_cons_self
  rw [text, List.mem_append, List.mem_append, List.mem_append] at zero
  rcases zero with (first | sign | seven) | last
  · exact absurd (blank '0' (List.mem_append_left after first)) (by decide)
  · rcases signed with rfl | rfl
    · cases sign
    · exact absurd (List.mem_singleton.mp sign) (by decide)
  · exact absurd seven (by decide)
  · exact absurd (blank '0' (List.mem_append_right before last)) (by decide)

end Talk.Verif.Markers
