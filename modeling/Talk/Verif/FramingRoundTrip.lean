import Talk.Protocol.Framing

/-!
# Frames written and read back

A frame is a line or a blob, and frames follow each other on the stream without separators. A
reader that knows the kinds reads each frame from its own bytes, whatever follows, as long as it
is within the reader's limit. The two limits on a line are the same number, but `read_line`
counts the line end and `write_line` does not, so the longest lines that are written are not
read.
-/

namespace Talk.Verif.FramingRoundTrip

open Protocol ByteStream
open Utf8 (bytes)

/-! ## Frames -/

/-- A frame as the writer is given it. -/
inductive Frame where
  /-- A line without its end. -/
  | line (text : String)
  /-- A blob. -/
  | blob (data : List UInt8)
  deriving DecidableEq

/-- What the reader has to know of a frame. -/
inductive Kind where
  /-- A line follows. -/
  | line
  /-- A blob follows. -/
  | blob
  deriving DecidableEq

/-- The kind of a frame. -/
def Frame.kind : Frame → Kind
  | .line _ => .line
  | .blob _ => .blob

/-- The writer's call for a frame. -/
def Frame.write : Frame → EStateM FramingError Conn Unit
  | .line text => writeLine text
  | .blob data => writeBlob data

/-- The reader's call for a kind of frame. -/
def Kind.read : Kind → EStateM FramingError Conn Frame
  | .line => do
    let text ← readLine
    pure (.line text)
  | .blob => do
    let data ← readBlob
    pure (.blob data)

/-- Write frames in order. -/
def writeFrames : List Frame → EStateM FramingError Conn Unit
  | [] => pure ()
  | frame :: frames => do
    frame.write
    writeFrames frames

/-- Read frames of the given kinds in order. -/
def readFrames : List Kind → EStateM FramingError Conn (List Frame)
  | [] => pure []
  | kind :: kinds => do
    let frame ← kind.read
    let frames ← readFrames kinds
    pure (frame :: frames)

/-- A frame the writer accepts; a line has no LF inside. -/
structure Frame.Accepted (frame : Frame) : Prop where
  /-- A line is one line. -/
  single : ∀ text, frame = .line text → '\n' ∉ text.toList
  /-- The writer takes the frame. -/
  written : ∃ after, frame.write.run ⟨[], []⟩ = .ok () after

/-- A frame within the writer's limits. -/
def Frame.Small : Frame → Prop
  | .line text => (bytes text).length ≤ maxLine
  | .blob data => data.length ≤ maxBlob

/-- A line that fits the reader's limit with its end. -/
def Frame.Fits : Frame → Prop
  | .line text => (bytes text).length + 2 ≤ maxLine
  | .blob _ => True

/-- The bytes of a frame on the stream. -/
def Frame.wire : Frame → List UInt8
  | .line text => bytes text ++ crlf
  | .blob data => blobBytes data

/-- Frames written in order and read in the same order come back, and nothing is left. -/
def RoundTrips (frames : List Frame) : Prop :=
  ∃ wire, (writeFrames frames).run ⟨[], []⟩ = .ok () ⟨[], wire⟩ ∧
    (readFrames (frames.map Frame.kind)).run ⟨wire, []⟩ = .ok frames ⟨[], []⟩

/-! ## One frame -/

/-- What the writer accepts is within its limits. -/
theorem Frame.Accepted.small {frame : Frame} (accepted : frame.Accepted) : frame.Small := by
  obtain ⟨after, written⟩ := accepted.written
  cases frame with
  | line text => exact (writeLine_ok_iff.mp written).1
  | blob data =>
    by_contra large
    have refused := writeBlob_large (Nat.lt_of_not_le large) ⟨[], []⟩
    rw [Frame.write, refused] at written
    cases written

/-- A frame that is accepted once is accepted on every stream. -/
theorem Frame.Accepted.write_run {frame : Frame} (accepted : frame.Accepted) (conn : Conn) :
    frame.write.run conn = .ok () (conn.write frame.wire) := by
  have small := accepted.small
  cases frame with
  | line text => exact writeLine_fits small conn
  | blob data => exact writeBlob_fits small conn

/-- A frame that fits is read from its bytes, whatever follows them. -/
theorem Frame.Accepted.read_fits {frame : Frame} (accepted : frame.Accepted) (fits : frame.Fits)
    (rest output : List UInt8) :
    frame.kind.read.run ⟨frame.wire ++ rest, output⟩ = .ok frame ⟨rest, output⟩ := by
  have small := accepted.small
  cases frame with
  | line text =>
    have read := readLine_text (accepted.single text rfl) fits rest output
    simp only [Frame.kind, Kind.read, Frame.wire, EStateM.run_bind, read, EStateM.run_pure]
  | blob data =>
    have read := readBlob_data small rest output
    simp only [Frame.kind, Kind.read, Frame.wire, EStateM.run_bind, read, EStateM.run_pure]

/-- A line that does not fit is refused by the reader. -/
theorem Frame.Accepted.read_long {frame : Frame} (accepted : frame.Accepted)
    (long : ¬frame.Fits) (rest output : List UInt8) :
    frame.kind.read.run ⟨frame.wire ++ rest, output⟩ =
      .error (.lineTooLong maxLine) ⟨rest, output⟩ := by
  cases frame with
  | line text =>
    have free : 10 ∉ bytes text ++ [13] := by
      simpa using lf_free (accepted.single text rfl)
    have above : maxLine < (bytes text ++ [13]).length + 1 := by
      rw [Frame.Fits] at long
      rw [List.length_append, List.length_singleton]
      omega
    have shape : bytes text ++ crlf ++ rest = bytes text ++ [13] ++ 10 :: rest := by
      simp [crlf]
    have read := readLine_long free above rest output
    simp only [Frame.kind, Kind.read, Frame.wire, shape, EStateM.run_bind, read]
  | blob data => exact absurd trivial long

/-! ## All frames -/

/-- The writer writes one frame behind the other. -/
theorem writeFrames_run {frames : List Frame} (accepted : ∀ frame ∈ frames, frame.Accepted)
    (conn : Conn) :
    (writeFrames frames).run conn = .ok () (conn.write (frames.flatMap Frame.wire)) := by
  induction frames generalizing conn with
  | nil => simp [writeFrames, Conn.write]
  | cons frame frames ih =>
    have first := (accepted frame List.mem_cons_self).write_run conn
    have others := ih (fun other member => accepted other (List.mem_cons_of_mem _ member))
      (conn.write frame.wire)
    rw [writeFrames, run_bind_of_ok first, others]
    simp only [Conn.write, List.flatMap_cons, List.append_assoc]

/-- The reader reads back exactly the lists in which every frame fits. -/
theorem readFrames_ok_iff {frames : List Frame} (accepted : ∀ frame ∈ frames, frame.Accepted)
    (output : List UInt8) :
    (readFrames (frames.map Frame.kind)).run ⟨frames.flatMap Frame.wire, output⟩ =
      .ok frames ⟨[], output⟩ ↔ ∀ frame ∈ frames, frame.Fits := by
  induction frames with
  | nil => simp [readFrames]
  | cons frame frames ih =>
    have head := accepted frame List.mem_cons_self
    have others := ih fun other member => accepted other (List.mem_cons_of_mem _ member)
    rw [List.map_cons, List.flatMap_cons, readFrames, List.forall_mem_cons]
    by_cases fits : frame.Fits
    · rw [run_bind_of_ok (head.read_fits fits _ output), ← others]
      constructor
      · intro read
        obtain ⟨found, after, read, same⟩ := run_bind_ok.mp read
        cases same
        exact ⟨fits, read⟩
      · intro ⟨_, read⟩
        rw [run_bind_of_ok read]
        rfl
    · -- The reader stops at the first line above its limit.
      rw [run_bind_of_error (head.read_long fits _ output)]
      constructor
      · intro read
        cases read
      · intro both
        exact absurd both.1 fits

/-- Accepted frames come back exactly when each line has at most 4094 bytes. -/
theorem frames_roundTrip_iff (frames : List Frame)
    (accepted : ∀ frame ∈ frames, frame.Accepted) :
    RoundTrips frames ↔ ∀ text, .line text ∈ frames → (bytes text).length ≤ 4094 := by
  have written := writeFrames_run accepted ⟨[], []⟩
  have read := readFrames_ok_iff accepted []
  have limit : (∀ frame ∈ frames, frame.Fits) ↔
      ∀ text, .line text ∈ frames → (bytes text).length ≤ 4094 := by
    have bound : maxLine = 4096 := rfl
    constructor
    · intro fits text member
      have within : (bytes text).length + 2 ≤ maxLine := fits _ member
      omega
    · intro short frame member
      cases frame with
      | line text =>
        have within := short text member
        change (bytes text).length + 2 ≤ maxLine
        omega
      | blob data => trivial
  rw [← limit, ← read]
  constructor
  · intro ⟨wire, wrote, read⟩
    rw [written] at wrote
    cases wrote
    exact read
  · intro read
    exact ⟨_, written, read⟩

/-- A line that looks like a blob header, a blob that holds a line end, an empty blob and an
empty line come back. -/
theorem mixed_frames_roundTrip :
    RoundTrips [.line "BLOB 3", .blob [66, 76, 79, 66, 32, 57, 13, 10], .blob [], .line ""] := by
  have accepted : ∀ frame ∈ [Frame.line "BLOB 3", .blob [66, 76, 79, 66, 32, 57, 13, 10],
      .blob [], .line ""], frame.Accepted := by
    simp only [List.forall_mem_cons, List.not_mem_nil, false_implies, implies_true, and_true]
    refine ⟨⟨?_, _, writeLine_fits (by decide) _⟩, ⟨?_, _, writeBlob_fits (by decide) _⟩,
      ⟨?_, _, writeBlob_fits (by decide) _⟩, ⟨?_, _, writeLine_fits (by decide) _⟩⟩
    · intro text same
      cases same
      decide
    · intro text same
      cases same
    · intro text same
      cases same
    · intro text same
      cases same
      decide
  refine (frames_roundTrip_iff _ accepted).mpr fun text member => ?_
  simp only [List.mem_cons, Frame.line.injEq, reduceCtorEq, List.not_mem_nil, or_false,
    false_or] at member
  rcases member with rfl | rfl <;> decide

/-- There are lines of every length. -/
theorem exists_line (size : Nat) : ∃ text : String, (bytes text).length = size ∧
    '\n' ∉ text.toList := by
  have letters : (String.ofList (List.replicate size 'a')).toList = List.replicate size 'a' :=
    String.toList_ofList
  have one : 'a'.utf8Size = 1 := by decide
  refine ⟨String.ofList (List.replicate size 'a'), ?_, ?_⟩
  · simp [bytes, letters, List.length_flatMap, one]
  · rw [letters]
    exact fun member => absurd (List.eq_of_mem_replicate member) (by decide)

/-- A line of 4095 bytes is written and not read back. -/
theorem longest_line_lost :
    ¬∀ frames : List Frame, (∀ frame ∈ frames, frame.Accepted) → RoundTrips frames := by
  intro always
  obtain ⟨text, size, single⟩ := exists_line 4095
  have accepted : ∀ frame ∈ [Frame.line text], frame.Accepted := by
    intro frame member
    cases List.mem_singleton.mp member
    refine ⟨fun other same => ?_, _, writeLine_fits (by rw [size]; decide) _⟩
    cases same
    exact single
  obtain ⟨wire, wrote, read⟩ := always [Frame.line text] accepted
  rw [writeFrames_run accepted ⟨[], []⟩] at wrote
  cases wrote
  have fits : (bytes text).length + 2 ≤ maxLine :=
    (readFrames_ok_iff accepted []).mp read _ List.mem_cons_self
  rw [size] at fits
  exact absurd fits (by decide)

end Talk.Verif.FramingRoundTrip
