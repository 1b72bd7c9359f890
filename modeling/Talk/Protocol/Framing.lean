import Talk.Lib.ByteStream
import Talk.Lib.Text

/-!
# Line and blob framing

Commands are lines ended by CRLF; binary payloads are a `BLOB <n>` line and then `n` bytes. The
reader and the writer hold a line to the same limit, but the reader counts the line end and the
writer does not.
-/

namespace Talk.Protocol

open ByteStream Utf8 Text

/-- `FramingError`. -/
inductive FramingError where
  /-- The transport ended inside a read of known length. -/
  | io
  /-- The peer broke the framing, or closed the stream. -/
  | protocol (message : String)
  /-- A line above the limit. -/
  | lineTooLong (max : Nat)
  /-- A blob above the limit. -/
  | blobTooLarge (max : Nat)
  deriving DecidableEq

/-- `MAX_LINE`. -/
def maxLine : Nat := 4096

/-- `MAX_BLOB`, 1 MiB. -/
def maxBlob : Nat := 2 ^ 20

/-- The bytes of a line end. -/
def crlf : List UInt8 := [13, 10]

/-- A line without its end: CRLF, or LF alone. -/
def stripEnd (line : List UInt8) : Option (List UInt8) :=
  if crlf <:+ line then some (line.take (line.length - 2))
  else if [10] <:+ line then some (line.take (line.length - 1))
  else none

/-- `read_line`: a line without its end, as UTF-8 text. -/
def readLine : EStateM FramingError Conn String := do
  let conn ← get
  let (line, rest) := readUntil 10 conn.input
  set { conn with input := rest }
  if line.length = 0 then throw (.protocol "connection closed")
  else if maxLine < line.length then throw (.lineTooLong maxLine)
  else match stripEnd line with
  | none => throw (.protocol "line not newline-terminated")
  | some line =>
    match fromUtf8 line with
    | none => throw (.protocol "line not utf-8")
    | some text => pure text

/-- `write_line`. -/
def writeLine (line : String) : EStateM FramingError Conn Unit := do
  if maxLine < (bytes line).length then throw (.lineTooLong maxLine)
  else modify fun conn => conn.write (bytes line ++ crlf)

/-- The size a blob header announces. -/
def blobSize (header : String) : Except FramingError Nat :=
  match stripStart "BLOB " header with
  | none => .error (.protocol "expected BLOB header")
  | some size =>
    match parseUnsigned (2 ^ 64) (trim size) with
    | none => .error (.protocol "malformed BLOB size")
    | some size => if maxBlob < size then .error (.blobTooLarge maxBlob) else .ok size

/-- `read_blob`: a header line, then exactly the announced bytes. -/
def readBlob : EStateM FramingError Conn (List UInt8) := do
  let header ← readLine
  match blobSize header with
  | .error error => throw error
  | .ok size =>
    let conn ← get
    if conn.input.length < size then
      -- `read_exact` takes what there is before it reports the end of the stream.
      set { conn with input := [] }
      throw .io
    else
      set { conn with input := conn.input.drop size }
      pure (conn.input.take size)

/-- `write_blob`. -/
def writeBlob (data : List UInt8) : EStateM FramingError Conn Unit := do
  if maxBlob < data.length then throw (.blobTooLarge maxBlob)
  else
    writeLine ("BLOB " ++ toString data.length)
    modify fun conn => conn.write data

/-! ## What the reader accepts

A line on the wire is a list of bytes whose only LF is its last byte. `LineWire` carries the
text it is read as, so that every list of this type is a line `readLine` accepts. -/

/-- A line as it stands on the wire, with the text it is read as. -/
structure LineWire where
  /-- The bytes before the final LF. -/
  body : List UInt8
  /-- The text without the line end. -/
  text : String
  /-- The final LF is the only one. -/
  free : 10 ∉ body
  /-- The limit of the reader. -/
  fits : body.length + 1 ≤ maxLine
  /-- The bytes before the line end are the text. -/
  decodes : (stripEnd (body ++ [10])).bind fromUtf8 = some text

/-- The bytes of a line. -/
def LineWire.wire (line : LineWire) : List UInt8 := line.body ++ [10]

/-- The bytes a line is read from stand before its final LF. -/
theorem LineWire.stripped (line : LineWire) :
    ∃ stripped, stripped <+: line.body ∧ fromUtf8 stripped = some line.text := by
  obtain ⟨stripped, stripWire, decoded⟩ := Option.bind_eq_some_iff.mp line.decodes
  refine ⟨stripped, ?_, decoded⟩
  unfold stripEnd at stripWire
  split_ifs at stripWire with windows unix
  · cases stripWire
    rw [List.take_append_of_le_length (by simp)]
    exact List.take_prefix _ _
  · cases stripWire
    rw [List.take_append_of_le_length (by simp)]
    exact List.take_prefix _ _

/-- The text of a line holds no LF. -/
theorem LineWire.text_free (line : LineWire) : '\n' ∉ line.text.toList := by
  obtain ⟨stripped, start, decoded⟩ := line.stripped
  intro member
  exact line.free (start.subset (ascii_mem_fromUtf8 decoded member (by decide)))

/-- The text of a line has at most as many characters as the limit. -/
theorem LineWire.text_short (line : LineWire) : line.text.toList.length ≤ maxLine := by
  obtain ⟨stripped, start, decoded⟩ := line.stripped
  have text : fromUtf8Lossy stripped = line.text := by
    unfold fromUtf8 at decoded
    split at decoded
    · exact Option.some.inj decoded
    · cases decoded
  have chars := length_fromUtf8Lossy stripped
  have shorter := start.length_le
  have fits := line.fits
  rw [text] at chars
  omega

/-- A line is read as its text, whatever follows it. -/
theorem readLine_wire (line : LineWire) (rest output : List UInt8) :
    readLine.run ⟨line.wire ++ rest, output⟩ = .ok line.text ⟨rest, output⟩ := by
  obtain ⟨stripped, stripWire, decoded⟩ := Option.bind_eq_some_iff.mp line.decodes
  have split : readUntil 10 (line.wire ++ rest) = (line.body ++ [10], rest) := by
    rw [LineWire.wire, List.append_assoc]
    exact readUntil_delim line.free rest
  have short : ¬maxLine < line.body.length + 1 := Nat.not_lt.mpr line.fits
  simp only [readLine, EStateM.run_bind, EStateM.run_get, EStateM.run_set, split, short,
    List.length_append, List.length_singleton, Nat.add_one_ne_zero, ↓reduceIte, stripWire,
    decoded, EStateM.run_pure]

/-- The end of the stream inside a line is a protocol error, after which nothing is left. -/
theorem readLine_truncated {input : List UInt8} (free : 10 ∉ input)
    (short : input.length ≤ maxLine) (output : List UInt8) :
    ∃ message, readLine.run ⟨input, output⟩ = .error (.protocol message) ⟨[], output⟩ := by
  have split := readUntil_free free
  by_cases empty : input.length = 0
  · exact ⟨"connection closed", by simp only [readLine, EStateM.run_bind, EStateM.run_get,
      EStateM.run_set, split, empty, ↓reduceIte, run_throw]⟩
  · have unended : stripEnd input = none := by
      have noEnd : ¬[10] <:+ input := fun ended => free (ended.subset List.mem_cons_self)
      have noCrlf : ¬crlf <:+ input := fun ended => free (ended.subset (by simp [crlf]))
      rw [stripEnd, if_neg noCrlf, if_neg noEnd]
    refine ⟨"line not newline-terminated", ?_⟩
    simp only [readLine, EStateM.run_bind, EStateM.run_get, EStateM.run_set, split, empty,
      show ¬maxLine < input.length by omega, unended, ↓reduceIte, run_throw]

/-- The line end is recognised behind any bytes. -/
theorem stripEnd_crlf (body : List UInt8) : stripEnd (body ++ crlf) = some body := by
  have ended : crlf <:+ body ++ crlf := List.suffix_append body crlf
  rw [stripEnd, if_pos ended, List.length_append, show crlf.length = 2 from rfl,
    Nat.add_sub_cancel, List.take_left]

/-- No byte of an LF-free text is LF. -/
theorem lf_free {text : String} (free : '\n' ∉ text.toList) : 10 ∉ bytes text :=
  fun member => free (ascii_mem_bytes (by decide : (10 : UInt8).toNat < 128) member)

/-- A text as `writeLine` puts it on the wire, when the reader's limit allows it. -/
def LineWire.ofText (text : String) (free : '\n' ∉ text.toList)
    (fits : (bytes text).length + 2 ≤ maxLine) : LineWire where
  body := bytes text ++ [13]
  text := text
  free := by simpa using lf_free free
  fits := by
    rw [List.length_append, List.length_singleton]
    omega
  decodes := by
    have shape : bytes text ++ [13] ++ [10] = bytes text ++ crlf := by simp [crlf]
    rw [shape, stripEnd_crlf, Option.bind_some, fromUtf8_bytes]

/-- A written line is the text and CRLF. -/
theorem LineWire.wire_ofText (text : String) (free : '\n' ∉ text.toList)
    (fits : (bytes text).length + 2 ≤ maxLine) :
    (LineWire.ofText text free fits).wire = bytes text ++ crlf := by
  simp [LineWire.wire, LineWire.ofText, crlf]

/-- A line `writeLine` wrote is read back. -/
theorem readLine_text {text : String} (free : '\n' ∉ text.toList)
    (fits : (bytes text).length + 2 ≤ maxLine) (rest output : List UInt8) :
    readLine.run ⟨bytes text ++ crlf ++ rest, output⟩ = .ok text ⟨rest, output⟩ := by
  have read := readLine_wire (LineWire.ofText text free fits) rest output
  rwa [LineWire.wire_ofText] at read

/-- A text that ends in the byte of CR ends in CR. -/
theorem ends_in_cr {text : String} {before : List UInt8} (ended : before ++ [13] = bytes text) :
    ∃ rest : String, text = rest ++ "\x0d" ∧ bytes rest = before := by
  rcases List.eq_nil_or_concat' text.toList with empty | ⟨rest, c, shape⟩
  · rw [bytes, empty] at ended
    simp at ended
  · have whole : bytes text = bytes (String.ofList rest) ++ String.utf8EncodeChar c := by
      simp [bytes, shape]
    have last : 13 ∈ String.utf8EncodeChar c := by
      have position := congrArg List.getLast? (ended.trans whole)
      rw [List.getLast?_concat, List.getLast?_append_of_ne_nil _ String.utf8EncodeChar_ne_nil]
        at position
      exact List.mem_of_getLast? position.symm
    have carriage : c = '\x0d' :=
      Char.toNat_inj.mp (ascii_mem_utf8EncodeChar (by decide) last)
    subst carriage
    refine ⟨String.ofList rest, String.ext (by simp [shape]), ?_⟩
    exact (List.append_inj_left' (ended.trans whole) rfl).symm

/-- An LF alone ends a line too; a CR before it is part of the line end. -/
theorem stripEnd_lf (text : String) :
    ∃ read : String, (stripEnd (bytes text ++ [10])).bind fromUtf8 = some read ∧
      (read = text ∨ text = read ++ "\x0d") := by
  by_cases windows : crlf <:+ bytes text ++ [10]
  · obtain ⟨before, shape⟩ := windows
    have whole : before ++ [13] ++ [10] = bytes text ++ [10] := by
      rw [← shape]
      simp [crlf]
    have ended : before ++ [13] = bytes text := List.append_inj_left' whole rfl
    obtain ⟨read, split, same⟩ := ends_in_cr ended
    refine ⟨read, ?_, .inr split⟩
    rw [← shape, stripEnd_crlf, ← same, Option.bind_some, fromUtf8_bytes]
  · have unix : [10] <:+ bytes text ++ [10] := List.suffix_append _ _
    refine ⟨text, ?_, .inl rfl⟩
    rw [stripEnd, if_neg windows, if_pos unix, List.length_append, List.length_singleton,
      Nat.add_sub_cancel, List.take_left, Option.bind_some, fromUtf8_bytes]

/-- A line above the reader's limit is consumed and refused. -/
theorem readLine_long {line : List UInt8} (free : 10 ∉ line) (long : maxLine < line.length + 1)
    (rest output : List UInt8) :
    readLine.run ⟨line ++ 10 :: rest, output⟩ = .error (.lineTooLong maxLine) ⟨rest, output⟩ := by
  simp only [readLine, EStateM.run_bind, EStateM.run_get, EStateM.run_set,
    readUntil_delim free rest, List.length_append, List.length_singleton, Nat.add_one_ne_zero,
    long, ↓reduceIte, run_throw]

/-- From a written text that breaks the line one line is read, which starts as the text does. -/
theorem readLine_broken {start tail : String}
    (free : '\n' ∉ start.toList ∧ '\x0d' ∉ start.toList) (breaks : '\n' ∈ tail.toList)
    (fits : (bytes (start ++ tail)).length ≤ maxLine) (rest output : List UInt8) :
    ∃ line after, readLine.run ⟨bytes (start ++ tail) ++ crlf ++ rest, output⟩ = .ok line after ∧
      after.output = output ∧ startsWith line start = true ∧ '\n' ∉ line.toList := by
  obtain ⟨before, behind, shape, first⟩ := List.eq_append_cons_of_mem breaks
  have text : start ++ tail = start ++ String.ofList before ++ "\n" ++ String.ofList behind :=
    String.ext (by simp [shape])
  have single : '\n' ∉ (start ++ String.ofList before).toList := by
    simp [free.1, first]
  obtain ⟨read, decodes, known⟩ := stripEnd_lf (start ++ String.ofList before)
  have lf : bytes "\n" = [10] := by decide
  have short : (bytes (start ++ String.ofList before)).length + 1 ≤ maxLine := by
    rw [text] at fits
    simp only [bytes_append, List.length_append, lf] at fits ⊢
    simp only [List.length_singleton] at fits
    omega
  let line : LineWire := ⟨bytes (start ++ String.ofList before), read, lf_free single, short,
    decodes⟩
  have heard := readLine_wire line (bytes (String.ofList behind) ++ crlf ++ rest) output
  refine ⟨read, ⟨bytes (String.ofList behind) ++ crlf ++ rest, output⟩, ?_, rfl, ?_,
    line.text_free⟩
  · rw [text, bytes_append, bytes_append _ "\n", lf]
    simpa only [line, LineWire.wire, List.append_assoc] using heard
  · rcases known with rfl | carriage
    · exact startsWith_append _ _
    · have longer : start.toList <+: read.toList ++ ['\x0d'] := by
        have whole := congrArg String.toList carriage
        simp only [String.toList_append] at whole
        rw [show ['\x0d'] = "\x0d".toList from rfl, ← whole]
        exact List.prefix_append _ _
      rcases List.prefix_concat_iff.mp longer with same | shorter
      · exact absurd (same ▸ by simp) free.2
      · exact List.isPrefixOf_iff_prefix.mpr shorter

/-- The line that is read from a written text starts as the text does, even if the text breaks
the line further on. -/
theorem readLine_start {start tail : String}
    (free : '\n' ∉ start.toList ∧ '\x0d' ∉ start.toList)
    (fits : (bytes (start ++ tail)).length + 2 ≤ maxLine) (rest output : List UInt8) :
    ∃ line after, readLine.run ⟨bytes (start ++ tail) ++ crlf ++ rest, output⟩ = .ok line after ∧
      after.output = output ∧ startsWith line start = true := by
  by_cases breaks : '\n' ∈ tail.toList
  · have within : (bytes (start ++ tail)).length ≤ maxLine := by omega
    obtain ⟨line, after, read, same, starts, -⟩ :=
      readLine_broken free breaks within rest output
    exact ⟨line, after, read, same, starts⟩
  · have single : '\n' ∉ (start ++ tail).toList := by simp [free.1, breaks]
    exact ⟨_, _, readLine_text single fits rest output, rfl, startsWith_append _ _⟩

/-- A blob as it stands on the wire: a header line and the bytes it announces. -/
structure BlobWire where
  /-- The header line. -/
  header : LineWire
  /-- The content. -/
  data : List UInt8
  /-- The header announces the content's length. -/
  sized : blobSize header.text = .ok data.length

/-- The bytes of a blob frame. -/
def BlobWire.wire (blob : BlobWire) : List UInt8 := blob.header.wire ++ blob.data

/-- A blob frame is read as its content, whatever follows it. -/
theorem readBlob_wire (blob : BlobWire) (rest output : List UInt8) :
    readBlob.run ⟨blob.wire ++ rest, output⟩ = .ok blob.data ⟨rest, output⟩ := by
  have read := readLine_wire blob.header (blob.data ++ rest) output
  have enough : ¬(blob.data ++ rest).length < blob.data.length := by
    rw [List.length_append]
    omega
  simp only [BlobWire.wire, List.append_assoc, readBlob, EStateM.run_bind, read, blob.sized,
    EStateM.run_get, enough, ↓reduceIte, EStateM.run_set, EStateM.run_pure, List.take_left,
    List.drop_left]

/-- The size in a written header is read back. -/
theorem blobSize_header {size : Nat} (small : size ≤ maxBlob) :
    blobSize ("BLOB " ++ toString size) = .ok size := by
  have word : size < 2 ^ 64 := lt_of_le_of_lt small (by decide)
  have within : ¬maxBlob < size := Nat.not_lt.mpr small
  simp only [blobSize, stripStart_append, trim_toString, parseUnsigned_toString word, within,
    ↓reduceIte]

/-- The bytes `writeBlob` writes. -/
def blobBytes (data : List UInt8) : List UInt8 :=
  bytes ("BLOB " ++ toString data.length) ++ crlf ++ data

/-- The header of a blob within the limit fits a line. -/
theorem header_fits {size : Nat} (small : size ≤ maxBlob) :
    (bytes ("BLOB " ++ toString size)).length + 2 ≤ maxLine := by
  have digits : (bytes (toString size)).length ≤ 7 := by
    have ascii := length_bytes_toString size
    have few := (Nat.length_toDigits_le_iff (by decide : 1 < 10) (by decide : 0 < 7)).mpr
      (lt_of_le_of_lt small (by decide : maxBlob < 10 ^ 7))
    omega
  rw [bytes_append, List.length_append]
  have five : (bytes "BLOB ").length = 5 := by decide
  have limit : maxLine = 4096 := rfl
  omega

/-- A written blob header holds no LF. -/
theorem header_free (size : Nat) : '\n' ∉ ("BLOB " ++ toString size).toList := by
  rw [String.toList_append, List.mem_append, not_or]
  exact ⟨by decide, fun member => absurd (isDigit_toString member) (by decide)⟩

/-- A blob as `writeBlob` puts it on the wire. -/
def BlobWire.ofData (data : List UInt8) (small : data.length ≤ maxBlob) : BlobWire where
  header := LineWire.ofText _ (header_free data.length) (header_fits small)
  data := data
  sized := blobSize_header small

/-- A blob `writeBlob` wrote is read back. -/
theorem readBlob_data {data : List UInt8} (small : data.length ≤ maxBlob)
    (rest output : List UInt8) :
    readBlob.run ⟨blobBytes data ++ rest, output⟩ = .ok data ⟨rest, output⟩ := by
  have read := readBlob_wire (BlobWire.ofData data small) rest output
  rwa [BlobWire.wire, BlobWire.ofData, LineWire.wire_ofText] at read

/-- A blob that is read is within the limit. -/
theorem readBlob_small {conn after : Conn} {blob : List UInt8}
    (read : readBlob.run conn = .ok blob after) : blob.length ≤ maxBlob := by
  obtain ⟨header, middle, -, read⟩ := run_bind_ok.mp read
  cases sized : blobSize header with
  | error error => simp only [sized, run_throw, reduceCtorEq] at read
  | ok size =>
    have small : size ≤ maxBlob := by
      unfold blobSize at sized
      split at sized
      · cases sized
      · split at sized
        · cases sized
        · split at sized
          · cases sized
          · rename_i within
            obtain rfl : _ = size := by simpa using sized
            exact Nat.not_lt.mp within
    simp only [sized, EStateM.run_bind, EStateM.run_get] at read
    split at read
    · simp only [EStateM.run_bind, EStateM.run_set, run_throw, reduceCtorEq] at read
    · simp only [EStateM.run_bind, EStateM.run_set, EStateM.run_pure, EStateM.Result.ok.injEq]
        at read
      rw [← read.1]
      exact le_trans (List.length_take_le _ _) small

/-! ## What the writer accepts -/

/-- A line within the limit is written with its end. -/
theorem writeLine_fits {line : String} (fits : (bytes line).length ≤ maxLine) (conn : Conn) :
    (writeLine line).run conn = .ok () (conn.write (bytes line ++ crlf)) := by
  simp only [writeLine, Nat.not_lt.mpr fits, ↓reduceIte]
  rfl

/-- A line above the limit is refused and nothing is written. -/
theorem writeLine_long {line : String} (long : maxLine < (bytes line).length) (conn : Conn) :
    (writeLine line).run conn = .error (.lineTooLong maxLine) conn := by
  simp only [writeLine, long, ↓reduceIte, run_throw]

/-- A line is written when it is within the limit. -/
theorem writeLine_ok_iff {line : String} {conn after : Conn} {value : Unit} :
    (writeLine line).run conn = .ok value after ↔
      (bytes line).length ≤ maxLine ∧ after = conn.write (bytes line ++ crlf) := by
  by_cases fits : (bytes line).length ≤ maxLine
  · rw [writeLine_fits fits]
    simp [fits, eq_comm]
  · rw [writeLine_long (Nat.lt_of_not_le fits)]
    simp [fits]

/-- A blob within the limit is written behind its header. -/
theorem writeBlob_fits {data : List UInt8} (small : data.length ≤ maxBlob) (conn : Conn) :
    (writeBlob data).run conn = .ok () (conn.write (blobBytes data)) := by
  have header := header_fits small
  simp only [writeBlob, Nat.not_lt.mpr small, ↓reduceIte, EStateM.run_bind,
    writeLine_fits (by omega : (bytes ("BLOB " ++ toString data.length)).length ≤ maxLine),
    EStateM.run_modify, Conn.write, blobBytes, List.append_assoc]

/-- A blob above the limit is refused and nothing is written. -/
theorem writeBlob_large {data : List UInt8} (large : maxBlob < data.length) (conn : Conn) :
    (writeBlob data).run conn = .error (.blobTooLarge maxBlob) conn := by
  simp only [writeBlob, large, ↓reduceIte, run_throw]

/-! ## Reads do not look at the end -/

/-- A line that is read stood on the wire. -/
theorem readLine_line {conn after : Conn} {text : String}
    (done : readLine.run conn = .ok text after) :
    ∃ line : LineWire, line.text = text ∧
      conn = ⟨line.wire ++ after.input, after.output⟩ := by
  by_cases ended : 10 ∈ conn.input
  · obtain ⟨body, rest, same, free⟩ := List.eq_append_cons_of_mem ended
    have split : readUntil 10 conn.input = (body ++ [10], rest) := by
      rw [same]
      exact readUntil_delim free rest
    simp only [readLine, EStateM.run_bind, EStateM.run_get, EStateM.run_set, split] at done
    split_ifs at done with empty long
    · cases done
    · cases done
    · cases stripped : stripEnd (body ++ [10]) with
      | none =>
        rw [stripped] at done
        cases done
      | some content =>
        rw [stripped] at done
        dsimp only at done
        cases decoded : fromUtf8 content with
        | none =>
          rw [decoded] at done
          cases done
        | some found =>
          rw [decoded] at done
          cases done
          have fits : body.length + 1 ≤ maxLine := by simpa using long
          have decodes : (stripEnd (body ++ [10])).bind fromUtf8 = some text := by
            rw [stripped, Option.bind_some, decoded]
          refine ⟨⟨body, text, free, fits, decodes⟩, rfl, ?_⟩
          cases conn
          simpa [LineWire.wire] using same
  · -- Without a line end nothing is returned.
    by_cases short : conn.input.length ≤ maxLine
    · obtain ⟨message, failed⟩ := readLine_truncated ended short conn.output
      rw [failed] at done
      cases done
    · have long : maxLine < conn.input.length := Nat.lt_of_not_le short
      have empty : conn.input.length ≠ 0 := by omega
      simp only [readLine, EStateM.run_bind, EStateM.run_get, EStateM.run_set,
        readUntil_free ended, empty, long, ↓reduceIte, run_throw, reduceCtorEq] at done

/-- A line that is read ends the same when more follows. -/
theorem stable_readLine : Stable Conn.extend readLine := by
  intro conn after text done more
  obtain ⟨line, rfl, rfl⟩ := readLine_line done
  have extended : (Conn.mk (line.wire ++ after.input) after.output).extend more =
      ⟨line.wire ++ (after.input ++ more), after.output⟩ := by
    rw [Conn.extend, List.append_assoc]
  rw [extended]
  exact readLine_wire line _ _

/-- A blob that is read ends the same when more follows. -/
theorem stable_readBlob : Stable Conn.extend readBlob := by
  refine stable_bind stable_readLine fun header => ?_
  cases blobSize header with
  | error error => exact stable_throw error
  | ok size =>
    intro conn after data done more
    simp only [EStateM.run_bind, EStateM.run_get] at done ⊢
    split_ifs at done with short
    · cases done
    · have enough : ¬(conn.extend more).input.length < size := by
        rw [Conn.extend, List.length_append]
        omega
      rw [if_neg enough]
      cases done
      simp only [Conn.extend, EStateM.run_bind, EStateM.run_set, EStateM.run_pure,
        List.take_append_of_le_length (Nat.not_lt.mp short),
        List.drop_append_of_le_length (Nat.not_lt.mp short)]

/-- Writing a line reads nothing. -/
theorem stable_writeLine (line : String) : Stable Conn.extend (writeLine line) :=
  stable_ite (stable_throw _) (stable_modify fun _ _ => rfl)

/-- Writing a blob reads nothing. -/
theorem stable_writeBlob (data : List UInt8) : Stable Conn.extend (writeBlob data) :=
  stable_ite (stable_throw _)
    (stable_bind (stable_writeLine _) fun _ => stable_modify fun _ _ => rfl)

/-! ## Every operation goes forward -/

/-- Reading a line leaves the input behind the line, and the output. -/
theorem readLine_final (conn : Conn) :
    final (readLine.run conn) = { conn with input := (readUntil 10 conn.input).2 } := by
  simp only [readLine, EStateM.run_bind, EStateM.run_get, EStateM.run_set]
  split_ifs with empty long
  · rfl
  · rfl
  · cases stripEnd (readUntil 10 conn.input).1 with
    | none => rfl
    | some line =>
      cases decoded : fromUtf8 line with
      | none =>
        simp only [decoded]
        rfl
      | some text =>
        simp only [decoded]
        rfl

/-- Reading a line goes forward. -/
theorem forward_readLine : Forward id readLine := by
  intro conn
  rw [readLine_final]
  exact ⟨⟨_, readUntil_append 10 conn.input⟩, List.prefix_rfl⟩

/-- A line that is read takes at least one byte. -/
theorem readLine_consumes {conn after : Conn} {line : String}
    (read : readLine.run conn = .ok line after) : after.input.length < conn.input.length := by
  have position := readLine_final conn
  rw [read, final_ok] at position
  have split := congrArg List.length (readUntil_append 10 conn.input)
  rw [List.length_append] at split
  have taken : (readUntil 10 conn.input).1.length ≠ 0 := by
    intro empty
    simp only [readLine, EStateM.run_bind, EStateM.run_get, EStateM.run_set, empty, ↓reduceIte,
      run_throw, reduceCtorEq] at read
  rw [position]
  change (readUntil 10 conn.input).2.length < conn.input.length
  omega

/-- Writing a line goes forward. -/
theorem forward_writeLine (line : String) : Forward id (writeLine line) := by
  intro conn
  by_cases fits : (bytes line).length ≤ maxLine
  · rw [writeLine_fits fits]
    exact ⟨List.suffix_rfl, List.prefix_append _ _⟩
  · rw [writeLine_long (Nat.lt_of_not_le fits)]
    exact ⟨List.suffix_rfl, List.prefix_rfl⟩

/-- Reading a blob goes forward. -/
theorem forward_readBlob : Forward id readBlob := by
  refine forward_bind forward_readLine fun header => ?_
  cases blobSize header with
  | error error => exact forward_throw error
  | ok size =>
    intro conn
    simp only [EStateM.run_bind, EStateM.run_get]
    split_ifs with short
    · exact ⟨List.nil_suffix, List.prefix_rfl⟩
    · exact ⟨List.drop_suffix _ _, List.prefix_rfl⟩

/-- Writing a blob goes forward. -/
theorem forward_writeBlob (data : List UInt8) : Forward id (writeBlob data) := by
  intro conn
  by_cases small : data.length ≤ maxBlob
  · rw [writeBlob_fits small]
    exact ⟨List.suffix_rfl, List.prefix_append _ _⟩
  · rw [writeBlob_large (Nat.lt_of_not_le small)]
    exact ⟨List.suffix_rfl, List.prefix_rfl⟩

/-! ## Reads leave the output alone -/

/-- Input that is put in replaces input that was put in before. -/
theorem withInput_withInput (conn : Conn) (first second : List UInt8) :
    (conn.withInput first).withInput second = conn.withInput second := rfl

/-- Reading a line takes from the input only. -/
theorem reads_readLine : Reads Conn.withInput readLine :=
  fun conn => ⟨_, readLine_final conn⟩

/-- Reading a blob takes from the input only. -/
theorem reads_readBlob : Reads Conn.withInput readBlob := by
  refine reads_bind withInput_withInput reads_readLine fun header => ?_
  cases blobSize header with
  | error error => exact reads_throw (fun conn => ⟨conn.input, rfl⟩) error
  | ok size =>
    intro conn
    simp only [EStateM.run_bind, EStateM.run_get]
    split
    · exact ⟨[], rfl⟩
    · exact ⟨conn.input.drop size, rfl⟩

end Talk.Protocol
