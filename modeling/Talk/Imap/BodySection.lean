import Talk.Imap.Fetch
import Talk.Lib.Slices

/-!
# Body sections by byte positions

`extract_body_section` as the source computes it: scans over the bytes of the items, with
positions at which the text is sliced and a signed 32-bit bracket depth. A slice inside a
character panics, and so does a depth that overflows in a build with overflow checks.
-/

namespace Talk.Imap

open Text Slices
open Utf8 (bytes)

/-- A panic of the extraction. -/
inductive Panic where
  /-- A slice does not begin or end at a character. -/
  | boundary
  /-- The depth of the brackets is no `i32`. -/
  | overflow
  deriving DecidableEq

/-- An `i32` result in a build with overflow checks. -/
def checkedI32 (value : Int) : Except Panic Int :=
  if -2 ^ 31 ≤ value ∧ value < 2 ^ 31 then .ok value else .error .overflow

/-- A slice that has to succeed. -/
def sliced (part : Option String) : Except Panic String :=
  match part with
  | none => .error .boundary
  | some part => .ok part

/-- A body item may begin after this byte: `is_ascii_whitespace`, `(` or `[`. -/
def startsItemByte (byte : UInt8) : Bool :=
  byte = 32 || byte = 9 || byte = 10 || byte = 12 || byte = 13 || byte = 40 || byte = 91

/-- The loop over `j`: the position of the first `[` in the bytes from `j` on, or the end. -/
def openingFrom : Nat → List UInt8 → Nat
  | j, [] => j
  | j, byte :: rest => if byte = 91 then j else openingFrom (j + 1) rest

/-- The loop over `k`: where the bytes from `k` on bring the depth to zero, or the end, with the
depth reached. -/
def closingFrom : Int → Nat → List UInt8 → Except Panic (Nat × Int)
  | depth, k, [] => .ok (k, depth)
  | depth, k, byte :: rest =>
    if byte = 91 then do
      let depth ← checkedI32 (depth + 1)
      closingFrom depth (k + 1) rest
    else if byte = 93 then do
      let depth ← checkedI32 (depth - 1)
      if depth = 0 then .ok (k, depth) else closingFrom depth (k + 1) rest
    else closingFrom depth (k + 1) rest

/-- The two inner loops behind BODY at `start`, and the slices: the result to return, if the item's
section is closed. -/
def sectionBehind (items : String) (start : Nat) :
    Except Panic (Option (String × Option String)) := do
  let size := (bytes items).length
  let j := openingFrom (start + 4) ((bytes items).drop (start + 4))
  if j < size then
    let (k, depth) ← closingFrom 0 j ((bytes items).drop j)
    if k < size ∧ depth = 0 then
      let inside ← sliced (slice items (j + 1) k)
      let before ← sliced (slice items 0 start)
      let after ← sliced (sliceFrom items (k + 1))
      .ok (some (before ++ after, some inside))
    else .ok none
  else .ok none

/-- The body of the outer loop for a position at an item's boundary. -/
def sectionFrom (items : String) (start : Nat) :
    Except Panic (Option (String × Option String)) := do
  let here ← sliced (sliceFrom items start)
  if startsWith (toAsciiUppercase here) "BODY" then sectionBehind items start else .ok none

/-- The outer loop over `i`, with the byte before `i` and the bytes from `i` on. -/
def extractFrom (items : String) :
    Option UInt8 → Nat → List UInt8 → Except Panic (String × Option String)
  | _, _, [] => .ok (items, none)
  | previous, i, byte :: rest => do
    let found ← if previous.all startsItemByte then sectionFrom items i else .ok none
    match found with
    | some result => .ok result
    | none => extractFrom items (some byte) (i + 1) rest

/-- `extract_body_section`, over bytes. -/
def extractBodySectionBytes (items : String) : Except Panic (String × Option String) :=
  extractFrom items none 0 (bytes items)

end Talk.Imap
