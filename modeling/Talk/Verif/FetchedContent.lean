import Talk.Imap.Fetch
import Talk.Lib.Crlf

/-!
# What a FETCH literal holds

The length of a literal is counted on the content of the section, and the content is sent through a
lossy decoding. For the sections made of text the two agree. For the stored body they agree
exactly when the body is UTF-8. The header block among the sections is written line by line, its
values unchecked, and ends with LF alone, so that a strict reader does not find its end; a reader
that accepts this end gets back the fields that were meant exactly when no value breaks its line.
-/

namespace Talk.Verif.FetchedContent

open Imap Mailstore Crlf
open Utf8 (bytes fromUtf8 fromUtf8Lossy)

variable (env : Environment) (info : MessageMeta) (identity : MessageIdentity)

/-! ## The literal -/

/-- The line that announces a literal, with its end. -/
def announcement (req : FetchRequest) (body : List UInt8) : String :=
  "* " ++ toString info.uid ++ " FETCH (" ++
    " ".intercalate (fetchParts env info req body identity) ++ " " ++ req.body.label ++ " \x7b" ++
    toString (req.body.content env info body identity).length ++ "\x7d" ++ "\r\n"

/-- As many octets as announced follow, the content of the section, and then the end of the
response. -/
def LiteralExact (req : FetchRequest) (body : List UInt8) : Prop :=
  bytes (render (fetchResponse env info req body identity)) =
    bytes (announcement env info identity req body) ++
      req.body.content env info body identity ++ bytes ")\r\n"

/-- The section is the stored body. -/
def servesBody : BodySection → Bool
  | .full | .text | .other _ => true
  | .none | .mime | .header | .headerFields _ | .headerFieldsNot _ => false

/-- What is sent is the announcement, the content decoded, and the end. -/
theorem render_fetchResponse {req : FetchRequest} (requested : req.body ≠ .none)
    (body : List UInt8) :
    render (fetchResponse env info req body identity) =
      announcement env info identity req body ++
        (fromUtf8Lossy (req.body.content env info body identity) ++ ")\r\n") := by
  have pair : ∀ first second : Reply, render [first, second] = first.render ++ second.render := by
    intro first second
    simp [render, String.join]
  rw [fetchResponse, if_neg requested, pair]
  simp only [Reply.render, announcement, String.append_assoc]

/-- The literal is exact when its content is UTF-8, and only then. -/
theorem exact_iff_valid {req : FetchRequest} (requested : req.body ≠ .none)
    (body : List UInt8) :
    LiteralExact env info identity req body ↔
      (fromUtf8 (req.body.content env info body identity)).isSome := by
  rw [LiteralExact, render_fetchResponse env info identity requested, Utf8.bytes_append,
    Utf8.bytes_append, List.append_assoc, List.append_cancel_left_eq,
    List.append_cancel_right_eq, Utf8.bytes_fromUtf8Lossy_iff]

/-- A section that is not the stored body is a text. -/
theorem content_text {part : BodySection} (made : servesBody part = false) (body : List UInt8) :
    ∃ text, part.content env info body identity = bytes text := by
  cases part with
  | full | text | other => cases made
  | none => exact ⟨"", rfl⟩
  | mime => exact ⟨_, rfl⟩
  | header | headerFields | headerFieldsNot => exact ⟨_, rfl⟩

/-- A section that is the stored body holds it. -/
theorem content_served {part : BodySection} (served : servesBody part = true) (body : List UInt8) :
    part.content env info body identity = body := by
  cases part with
  | full | text | other => rfl
  | none | mime | header | headerFields | headerFieldsNot => cases served

/-- What a section holds is UTF-8, unless it is a stored body that is not. -/
theorem content_valid_iff (part : BodySection) (body : List UInt8) :
    (fromUtf8 (part.content env info body identity)).isSome ↔
      (servesBody part = true → (fromUtf8 body).isSome) := by
  by_cases served : servesBody part = true
  · rw [content_served env info identity served]
    simp [served]
  · obtain ⟨text, same⟩ := content_text env info identity (by simpa using served) body
    rw [same, Utf8.fromUtf8_bytes]
    simp [served]

/-- Every literal is exact exactly when a stored body that it serves is UTF-8. -/
theorem literal_exact_iff (env : Environment) (info : MessageMeta) (identity : MessageIdentity)
    (req : FetchRequest) (body : List UInt8) :
    (req.body ≠ .none → LiteralExact env info identity req body) ↔
      (servesBody req.body = true → (fromUtf8 body).isSome) := by
  by_cases requested : req.body = .none
  · simp [requested, servesBody]
  · rw [← content_valid_iff env info identity, ← exact_iff_valid env info identity requested]
    simp [requested]

/-- An environment at the epoch, in which no password is right. -/
def epoch : Environment :=
  ⟨fun _ _ => false, fun _ _ _ => none, none, fun _ => "01-Jan-1970 00:00:00 +0000",
    fun _ => "Thu, 01 Jan 1970 00:00:00 +0000", "disk I/O error"⟩

/-- A sealed invoice of one byte. -/
def sealed : MessageMeta :=
  ⟨1, "m-1", 1, 1, 0, .default, "New sealed invoice", 1, "alice@a.org", "unverified", none, none⟩

/-- A body of the byte FF is announced as one octet and sent as three. -/
theorem sealed_literal_longer :
    ¬LiteralExact epoch sealed ⟨"alice@a.org", "bob@b.org"⟩ { body := .full } [0xFF] := by
  rw [exact_iff_valid epoch sealed _ (by decide)]
  decide

/-! ## The header block -/

/-- The filter keeps a name. -/
def keeps (filter : Option (List String × Bool)) (name : String) : Bool :=
  match filter with
  | none => true
  | some (fields, negate) => (fields.any fun field => Text.eqIgnoreAsciiCase field name) != negate

/-- The fields that are meant: those of the message that the filter keeps. -/
def intended (filter : Option (List String × Bool)) : List (String × String) :=
  (headerFields env info identity).filter fun field => keeps filter field.1

/-- A header block as a reader takes it that waits for `mark` at its end. -/
def parseHeader (mark : List Char) (block : List UInt8) : Option (List (String × String)) :=
  (fromUtf8 block).bind fun text => readFields mark text.toList

/-- The block is the lines of the fields that are meant, and LF. -/
theorem headerLines_eq (filter : Option (List String × Bool)) :
    headerLines env info filter identity =
      bytes (String.ofList (writeFields (intended env info identity filter) ++ ['\n'])) := by
  have lines : ∀ fields : List (String × String),
      (String.join (fields.map fun field => field.1 ++ ": " ++ field.2 ++ "\r\n")).toList =
        writeFields fields := by
    intro fields
    induction fields with
    | nil => rfl
    | cons field fields ih =>
      rw [List.map_cons, String.join_cons, String.toList_append, ih]
      simp [writeFields, fieldLine]
  refine congrArg bytes ?_
  rw [← String.toList_inj, String.toList_append]
  conv_rhs => rw [String.toList_ofList]
  exact congrArg (· ++ ['\n']) (lines _)

/-- The names of header fields. -/
def headerNames : List String :=
  ["Content-Type", "From", "To", "Reply-To", "Subject", "Date", "Message-ID",
    "X-Talk-Txn-Status", "X-Talk-Txn-Id"]

/-- A line can start with each of them. -/
theorem isName_headerNames {name : String} (member : name ∈ headerNames) : IsName name := by
  have checked : ∀ name ∈ headerNames, name.toList ≠ [] ∧ ':' ∉ name.toList ∧
      '\r' ∉ name.toList ∧ '\n' ∉ name.toList := by
    decide
  obtain ⟨nonempty, colon, cr, lf⟩ := checked name member
  exact ⟨nonempty, colon, cr, lf⟩

/-- The fields of a message have these names. -/
theorem name_mem_headerNames {field : String × String}
    (member : field ∈ headerFields env info identity) : field.1 ∈ headerNames := by
  unfold headerFields at member
  rcases List.mem_append.mp member with rest | status
  · rcases List.mem_append.mp rest with rest | dated
    · rcases List.mem_append.mp rest with addressed | subject
      · simp only [List.mem_cons, List.not_mem_nil, or_false] at addressed
        rcases addressed with rfl | rfl | rfl | rfl <;> simp [headerNames]
      · split at subject
        · cases subject
        · rw [List.mem_singleton.mp subject]
          simp [headerNames]
    · simp only [List.mem_cons, List.not_mem_nil, or_false] at dated
      rcases dated with rfl | rfl <;> simp [headerNames]
  · split at status
    · cases status
    · rcases List.mem_cons.mp status with here | behind
      · rw [here]
        simp [headerNames]
      · split at behind
        · cases behind
        · rw [List.mem_singleton.mp behind]
          simp [headerNames]

/-- A reader that waits for `mark` gets the fields that are meant exactly when no value of theirs
breaks its line and LF is what it waits for. -/
theorem parseHeader_iff {mark : List Char} {first : Char} (starts : mark.head? = some first)
    (control : first = '\r' ∨ first = '\n') (filter : Option (List String × Bool)) :
    parseHeader mark (headerLines env info filter identity) =
        some (intended env info identity filter) ↔
      (∀ field ∈ intended env info identity filter, ¬Broken field.2.toList) ∧
        readFields mark ['\n'] = some [] := by
  have names : ∀ field ∈ intended env info identity filter, IsName field.1 := fun field member =>
    isName_headerNames (name_mem_headerNames env info identity (List.mem_of_mem_filter member))
  rw [parseHeader, headerLines_eq, Utf8.fromUtf8_bytes, Option.bind_some, String.toList_ofList]
  exact readFields_writeFields starts control names _

/-- A reader that waits for an empty line does not find the end of the block. -/
theorem strict_unread (filter : Option (List String × Bool)) :
    parseHeader ['\r', '\n'] (headerLines env info filter identity) ≠
      some (intended env info identity filter) := by
  have unended : readFields ['\r', '\n'] ['\n'] = none := by
    rw [readFields, if_neg (by decide)]
    split
    next => rfl
    next found => simp [cut] at found
  intro read
  have strict := (parseHeader_iff env info identity rfl (.inl rfl) filter).mp read
  rw [unended] at strict
  cases strict.2

/-- The fields kept and the fields left out make up the header, each in the order of the header,
and no field is in both. -/
structure Partitions (listed : List String) : Prop where
  /-- Nothing is lost or added. -/
  whole : (intended env info identity (some (listed, false)) ++
    intended env info identity (some (listed, true))).Perm (intended env info identity none)
  /-- The fields kept are in order. -/
  kept : (intended env info identity (some (listed, false))).Sublist
    (intended env info identity none)
  /-- The fields left out are in order. -/
  left : (intended env info identity (some (listed, true))).Sublist
    (intended env info identity none)
  /-- No field is in both. -/
  apart : ∀ field ∈ intended env info identity (some (listed, false)),
    field ∉ intended env info identity (some (listed, true))

/-- HEADER.FIELDS and HEADER.FIELDS.NOT partition the header. -/
theorem partitions (listed : List String) : Partitions env info identity listed := by
  have all : intended env info identity none = headerFields env info identity := by
    simp [intended, keeps]
  have negated : ∀ name, keeps (some (listed, true)) name = !keeps (some (listed, false)) name := by
    intro name
    simp [keeps]
  have left : intended env info identity (some (listed, true)) =
      (headerFields env info identity).filter fun field =>
        !keeps (some (listed, false)) field.1 := by
    simp [intended, negated]
  refine ⟨?_, ?_, ?_, ?_⟩
  · rw [all, left]
    exact List.filter_append_perm _ _
  · rw [all]
    exact List.filter_sublist
  · rw [all]
    exact List.filter_sublist
  · intro field member other
    rw [left] at other
    have listedHere := (List.mem_filter.mp member).2
    have notHere := (List.mem_filter.mp other).2
    simp [listedHere] at notHere

/-- The status of a transaction is among the fields only of a message that has one. -/
theorem linked_of_status {filter : Option (List String × Bool)}
    (member : "X-Talk-Txn-Status" ∈ (intended env info identity filter).map Prod.fst) :
    info.txState.isSome := by
  by_contra unlinked
  have none : info.txState = .none := by simpa using unlinked
  obtain ⟨field, kept, name⟩ := List.mem_map.mp member
  have inside := List.mem_of_mem_filter kept
  simp only [headerFields, none, List.append_nil, List.mem_append, List.mem_cons,
    List.not_mem_nil, or_false] at inside
  rcases inside with (addressed | subject) | dated
  · rcases addressed with rfl | rfl | rfl | rfl <;> simp at name
  · split at subject
    · cases subject
    · rw [List.mem_singleton.mp subject] at name
      simp at name
  · rcases dated with rfl | rfl <;> simp at name

/-- A strict reader never gets the fields that are meant. One that accepts LF as the end of the
block gets them exactly when no value breaks its line. -/
theorem header_block_read (env : Environment) (info : MessageMeta) (identity : MessageIdentity)
    (filter : Option (List String × Bool)) :
    parseHeader ['\r', '\n'] (headerLines env info filter identity) ≠
      some (intended env info identity filter) ∧
    (parseHeader ['\n'] (headerLines env info filter identity) =
        some (intended env info identity filter) ↔
      ∀ field ∈ intended env info identity filter, ¬Broken field.2.toList) ∧
    ("X-Talk-Txn-Status" ∈ (intended env info identity filter).map Prod.fst →
      info.txState.isSome) ∧
    ∀ listed, Partitions env info identity listed := by
  refine ⟨strict_unread env info identity filter, ?_, linked_of_status env info identity,
    partitions env info identity⟩
  rw [parseHeader_iff env info identity rfl (.inr rfl), readFields_mark]
  simp

/-- A message whose sender's domain goes on with a line of its own. -/
def forged : MessageMeta :=
  ⟨1, "m-1", 1, 1, 0, .default, "New invoice", 1, "eve@e.org\r\nX-Talk-Txn-Status: settled",
    "unverified", none, none⟩

/-- The fields a reader finds in it. -/
def forgedFields : List (String × String) :=
  [("Content-Type", "text/html; charset=utf-8"), ("From", "eve@e.org"),
    ("X-Talk-Txn-Status", "settled"), ("To", "bob@b.org"), ("Reply-To", "eve@e.org"),
    ("X-Talk-Txn-Status", "settled"), ("Subject", "New invoice"),
    ("Date", "Thu, 01 Jan 1970 00:00:00 +0000"), ("Message-ID", "<m-1>")]

/-- The block of `forged` is not read as meant, and a reader that finds its end takes the status of
a transaction that does not exist from it. -/
theorem forged_status_read :
    parseHeader ['\r', '\n'] (headerLines epoch forged none ⟨forged.sender, "bob@b.org"⟩) ≠
      some (intended epoch forged ⟨forged.sender, "bob@b.org"⟩ none) ∧
    parseHeader ['\n'] (headerLines epoch forged none ⟨forged.sender, "bob@b.org"⟩) =
      some forgedFields ∧
    forged.txState = none := by
  refine ⟨strict_unread _ _ _ _, ?_, rfl⟩
  have same : writeFields (intended epoch forged ⟨forged.sender, "bob@b.org"⟩ none) =
      writeFields forgedFields := by
    decide +kernel
  have names : ∀ field ∈ forgedFields, field.1 ∈ headerNames := by
    decide
  rw [parseHeader, headerLines_eq, Utf8.fromUtf8_bytes, Option.bind_some, String.toList_ofList,
    same]
  exact (readFields_writeFields rfl (.inr rfl) (fun field member =>
    isName_headerNames (names field member)) _).mpr ⟨by decide, readFields_mark _⟩

end Talk.Verif.FetchedContent
