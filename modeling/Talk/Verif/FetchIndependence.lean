import Talk.Verif.FetchItems
import Talk.Verif.SequenceNumbers

/-!
# The items of two FETCH responses

What a FETCH says about a message should not depend on what else it asks for. All items but one are
made of the metadata of the message. The number of lines in a BODYSTRUCTURE is counted in the
stored body, which is read only for a section that serves it: without one the body is empty, and
the number is always 1.
-/

namespace Talk.Verif.FetchIndependence

open Imap Mailstore Text
open FetchItems ImapSteps SequenceNumbers SequenceSets SelectedMailbox StoreSteps

/-! ## Requests and their responses -/

/-- A FETCH or UID FETCH with its sequence set and its data items. -/
structure Fetch where
  /-- The command. -/
  cmd : ParsedCommand
  /-- It is a FETCH. -/
  fetch : isFetch cmd = true
  /-- The sequence set. -/
  range : String
  /-- The data items. -/
  items : String
  /-- These are its arguments. -/
  arguments : fetchArguments cmd = .ok (range, items)

/-- The data items that are asked for. -/
def Fetch.request (fetch : Fetch) : FetchRequest :=
  if fetch.cmd.name = "UID" then { parseFetchItems fetch.items with uid := true }
  else parseFetchItems fetch.items

/-- The items, in the order of a response. -/
def itemOrder : List Item := [.flags, .uid, .size, .internaldate, .envelope, .bodystructure]

variable (env : Environment) (session : Session) (db : Db)

/-- The parts of the response for a message. -/
def partsOf (fetch : Fetch) (info : MessageMeta) : List String :=
  fetchParts env info fetch.request (bodyOf session db fetch.request info)
    (messageIdentity session info)

/-- The text that is emitted for an item: the part at its place among the items asked for. -/
def emitted (fetch : Fetch) (info : MessageMeta) (item : Item) : Option String :=
  (partsOf env session db fetch info)[(itemOrder.filter (Item.asked fetch.request)).idxOf item]?

/-- A response shows these parts for a message. -/
def Shows (replies : List Reply) (info : MessageMeta) (parts : List String) : Prop :=
  ∃ rest, .untagged (toString info.uid ++ " FETCH (" ++ " ".intercalate parts ++ rest) ∈ replies

/-- The stored body of a message. -/
def storedBody (info : MessageMeta) : List UInt8 :=
  match db.fetchMessageIn session.userId session.selectedMailbox info.id with
  | .ok message => message.body
  | .error _ => []

variable {env session db}

/-- The body is the stored one, where a section needs it. -/
theorem bodyOf_eq (req : FetchRequest) (info : MessageMeta) :
    bodyOf session db req info =
      if req.body.needsStoredBody then storedBody session db info else [] := rfl

/-- A FETCH shows the parts for each message that it selects. -/
theorem shows_parts (selected : session.state = .selected) {info : MessageMeta}
    (member : info ∈ listing session db) {fetch : Fetch}
    (covered : inRange fetch.range info.uid (messageCount session db) = true) :
    Shows (handle env session db fetch.cmd).1 info (partsOf env session db fetch info) := by
  unfold listing at member
  cases list : db.listMessagesIn session.userId session.selectedMailbox with
  | error error =>
    rw [list] at member
    cases member
  | ok messages =>
    rw [list] at member
    have answer := cmdFetch_eq env selected list fetch.arguments
    rw [handle_fetch env selected db fetch.fetch]
    have place : info ∈ messages.filter fun info =>
        inRange fetch.range info.uid (messageCount session db) :=
      List.mem_filter.mpr ⟨member, covered⟩
    have within : ∀ reply ∈ numberedResponse env info.uid.toNat info fetch.request
        (bodyOf session db fetch.request info) (messageIdentity session info),
          reply ∈ cmdFetch env session db fetch.cmd := by
      intro reply inside
      rw [answer]
      exact List.mem_append_left _ (List.mem_flatMap.mpr ⟨info, place, inside⟩)
    by_cases plain : fetch.request.body = .none
    · refine ⟨")", within _ ?_⟩
      rw [numberedResponse, if_pos plain]
      exact List.mem_singleton_self _
    · refine ⟨" " ++ fetch.request.body.label ++ " \x7b" ++ toString (fetch.request.body.content
        env info (bodyOf session db fetch.request info) (messageIdentity session info)).length ++
          "\x7d", within _ ?_⟩
      rw [numberedResponse, if_neg plain]
      refine List.mem_cons.mpr (.inl (congrArg Reply.untagged ?_))
      simp only [String.append_assoc]
      rfl

/-! ## Texts -/

/-- The number of lines that a BODYSTRUCTURE gives. -/
def lineCount (body : List UInt8) : Nat := body.count 10 + 1

/-- The text of an item. -/
def itemText (env : Environment) (info : MessageMeta) (identity : MessageIdentity)
    (body : List UInt8) : Item → String
  | .flags => "FLAGS (" ++ flagsDisplay info.flags ++ ")"
  | .uid => "UID " ++ toString info.uid
  | .size => "RFC822.SIZE " ++ toString info.size
  | .internaldate => "INTERNALDATE \"" ++ env.formatInternaldate info.internaldate ++ "\""
  | .envelope => "ENVELOPE (" ++ envelopeResponse env info identity ++ ")"
  | .bodystructure => "BODYSTRUCTURE (\"text\" \"html\" NIL NIL NIL NIL " ++
      toString info.size ++ " " ++ toString (lineCount body) ++ ")"

/-- The parts of a response are the texts of the items that are asked for. -/
theorem fetchParts_eq (info : MessageMeta) (req : FetchRequest) (body : List UInt8)
    (identity : MessageIdentity) :
    fetchParts env info req body identity =
      (itemOrder.filter (Item.asked req)).map (itemText env info identity body) := by
  have lines : (if body = [] then 1 else body.count 10 + 1) = lineCount body := by
    by_cases empty : body = []
    · rw [if_pos empty, empty]
      rfl
    · rw [if_neg empty]
      rfl
  have asked (items : List Item) :
      (items.map fun item => (item.asked req, itemText env info identity body item)).filterMap
        (fun part => if part.1 then some part.2 else none) =
          (items.filter (Item.asked req)).map (itemText env info identity body) := by
    induction items with
    | nil => rfl
    | cons item items ih =>
      rw [List.map_cons, List.filter_cons]
      by_cases kept : item.asked req = true
      · rw [if_pos kept, List.map_cons, ← ih]
        exact List.filterMap_cons_some (by simp [kept])
      · rw [if_neg kept, ← ih]
        exact List.filterMap_cons_none (by simp [kept])
  rw [← asked itemOrder, fetchParts, lines]
  rfl

/-- An item that is asked for is emitted as its text, and another one is not emitted. -/
theorem emitted_eq (fetch : Fetch) (info : MessageMeta) (item : Item) :
    emitted env session db fetch info item =
      if item.asked fetch.request then some (itemText env info (messageIdentity session info)
        (bodyOf session db fetch.request info) item)
      else none := by
  have known : item ∈ itemOrder := by cases item <;> decide
  rw [emitted, partsOf, fetchParts_eq, List.getElem?_map]
  by_cases asked : item.asked fetch.request = true
  · rw [if_pos asked, List.getElem?_idxOf (List.mem_filter.mpr ⟨known, asked⟩)]
    rfl
  · have missing : item ∉ itemOrder.filter (Item.asked fetch.request) :=
      fun member => asked (List.mem_filter.mp member).2
    rw [if_neg asked, List.idxOf_of_notMem missing, List.getElem?_length]
    rfl

/-- Only the text of a BODYSTRUCTURE depends on the body, by the number of its lines. -/
theorem itemText_eq_iff (info : MessageMeta) (identity : MessageIdentity)
    (first second : List UInt8) (item : Item) :
    itemText env info identity first item = itemText env info identity second item ↔
      item ≠ .bodystructure ∨ first.count 10 = second.count 10 := by
  cases item with
  | bodystructure =>
    rw [or_iff_right (not_not.mpr rfl)]
    have texts (body : List UInt8) : itemText env info identity body .bodystructure =
        "BODYSTRUCTURE (\"text\" \"html\" NIL NIL NIL NIL " ++ toString info.size ++ " " ++
          toString (lineCount body) ++ ")" := rfl
    rw [texts, texts, String.append_left_inj, String.append_right_inj]
    constructor
    · exact fun same => Nat.succ.inj (toString_injective same)
    · exact fun same => congrArg (fun lines => toString (lines + 1)) same
  | flags | uid | size | internaldate | envelope => exact iff_of_true rfl (.inl nofun)

/-- For every message of the selected mailbox, every item, and every two FETCHes that select the
message: their responses show the parts of which the text of the item is one, and this text is the
same in both just when both ask for the item or neither does, and the item is not BODYSTRUCTURE, or
both or neither have a section that needs the stored body, or there is no LF in the stored body. -/
theorem emitted_same_iff (env : Environment) {session : Session}
    (selected : session.state = .selected) {db : Db} {info : MessageMeta}
    (member : info ∈ listing session db) {first second : Fetch}
    (covered : inRange first.range info.uid (messageCount session db) = true ∧
      inRange second.range info.uid (messageCount session db) = true) (item : Item) :
    let after := (handle env session db first.cmd).2
    Shows (handle env session db first.cmd).1 info (partsOf env session db first info) ∧
      Shows (handle env after.1 after.2 second.cmd).1 info
        (partsOf env after.1 after.2 second info) ∧
      (emitted env session db first info item = emitted env after.1 after.2 second info item ↔
        item.asked first.request = item.asked second.request ∧
          (item.asked first.request = true → item ≠ .bodystructure ∨
            first.request.body.needsStoredBody = second.request.body.needsStoredBody ∨
            10 ∉ storedBody session db info)) := by
  have unchanged : (handle env session db first.cmd).2 = (session, db) := by
    rw [handle_fetch env selected db first.fetch]
  rw [unchanged]
  refine ⟨shows_parts selected member covered.1, shows_parts selected member covered.2, ?_⟩
  have lines : (bodyOf session db first.request info).count 10 =
      (bodyOf session db second.request info).count 10 ↔
        first.request.body.needsStoredBody = second.request.body.needsStoredBody ∨
          10 ∉ storedBody session db info := by
    rw [bodyOf_eq, bodyOf_eq, ← List.count_eq_zero]
    cases first.request.body.needsStoredBody <;> cases second.request.body.needsStoredBody
    · simp
    · simp [eq_comm]
    · simp
    · simp
  rw [emitted_eq, emitted_eq]
  dsimp only
  cases asks : item.asked first.request with
  | false =>
    cases item.asked second.request with
    | false => simp
    | true => simp
  | true =>
    cases item.asked second.request with
    | false => simp
    | true =>
      rw [if_pos rfl, if_pos rfl, Option.some.injEq, itemText_eq_iff, lines]
      simp

/-- A store with one message of two lines in bob's INBOX. -/
def twoLines : Db :=
  Transition.run (apply noTemplate "b.io") .empty
    [createBob, .deliver { invoice "m1" with body := [104, 105, 10, 104, 111] } 0]

/-- `FETCH 1 BODYSTRUCTURE`. -/
def structureAlone : Fetch where
  cmd := ⟨"A1", "FETCH", ["1", "BODYSTRUCTURE"]⟩
  fetch := by decide
  range := "1"
  items := "BODYSTRUCTURE"
  arguments := by decide

/-- `FETCH 1 (BODY[] BODYSTRUCTURE)`. -/
def structureBesideBody : Fetch where
  cmd := ⟨"A2", "FETCH", ["1", "(BODY[] BODYSTRUCTURE)"]⟩
  fetch := by decide
  range := "1"
  items := "(BODY[] BODYSTRUCTURE)"
  arguments := by decide

/-- The message of a store with one message, of this many bytes. -/
def onlyMessage (size : Nat) : MessageMeta :=
  ⟨1, "m1", 1, 0, 0, ⟨0⟩, "New sealed invoice", size, "alice@a.io", "unverified",
    some "opaque", some 1⟩

/-- The first of three messages, which is seen and has one line. -/
def oneLine : MessageMeta := { onlyMessage 2 with flags := ⟨MessageFlags.seen⟩ }

/-- A message without LF has the same structure in both responses. -/
theorem one_line_same :
    emitted groupEnvironment (bobSelected inbox) threeMessages structureAlone oneLine
        .bodystructure =
      emitted groupEnvironment (bobSelected inbox) threeMessages structureBesideBody oneLine
        .bodystructure :=
  (@emitted_same_iff groupEnvironment (bobSelected inbox) rfl threeMessages oneLine
    (by decide +kernel) structureAlone structureBesideBody
    (by decide +kernel) .bodystructure).2.2.mpr
      ⟨by decide, fun _ => .inr (.inr (by decide +kernel))⟩

/-- Both commands ask for the structure of a message with two lines. The first is told that it has
one line, the second that it has two. -/
theorem lines_of_unread_body :
    listing (bobSelected inbox) twoLines = [onlyMessage 5] ∧
      Item.asked structureAlone.request .bodystructure = true ∧
      Item.asked structureBesideBody.request .bodystructure = true ∧
      emitted groupEnvironment (bobSelected inbox) twoLines structureAlone (onlyMessage 5)
          .bodystructure = some "BODYSTRUCTURE (\"text\" \"html\" NIL NIL NIL NIL 5 1)" ∧
      emitted groupEnvironment (bobSelected inbox) twoLines structureBesideBody (onlyMessage 5)
          .bodystructure = some "BODYSTRUCTURE (\"text\" \"html\" NIL NIL NIL NIL 5 2)" :=
  ⟨by decide +kernel, by decide, by decide, by decide +kernel, by decide +kernel⟩

end Talk.Verif.FetchIndependence
