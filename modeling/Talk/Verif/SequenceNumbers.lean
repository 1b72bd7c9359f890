import Mathlib.Data.List.Dedup
import Talk.Verif.SequenceSets

/-!
# Sequence numbers

The sequence number of a message is its position in the mailbox, in the order of the UIDs. The
server puts a message's UID wherever the number belongs: it reads the numbers of FETCH and STORE as
UIDs, it shows UIDs in its responses, and it answers a SEARCH with them. The answers are those that
positions would give in the mailboxes whose UIDs are 1, 2, 3 and so on without a gap.
-/

namespace Talk.Verif.SequenceNumbers

open Imap ImapSteps Mailstore SelectedMailbox SequenceSets StoreSteps Text

/-! ## Positions -/

/-- The UIDs of a list in ascending order. A message that is listed twice counts once. -/
def ascending (messages : List MessageMeta) : List UInt32 :=
  (messages.map MessageMeta.uid).dedup.insertionSort (· ≤ ·)

/-- The position of a UID, the first one being 1. -/
def position (messages : List MessageMeta) (uid : UInt32) : Nat :=
  (ascending messages).idxOf uid + 1

/-- The UIDs are 1, 2, 3 and so on. -/
def Gapless (messages : List MessageMeta) : Prop :=
  (ascending messages).map UInt32.toNat = List.range' 1 (ascending messages).length

/-- Gaps can be looked for. -/
instance Gapless.decidable (messages : List MessageMeta) : Decidable (Gapless messages) :=
  inferInstanceAs (Decidable (_ = _))

/-- The messages of a list are those that have a position. -/
theorem mem_ascending {messages : List MessageMeta} {uid : UInt32} :
    uid ∈ ascending messages ↔ ∃ info ∈ messages, info.uid = uid := by
  rw [ascending, List.mem_insertionSort, List.mem_dedup, List.mem_map]

/-- A UID has one position. -/
theorem nodup_ascending (messages : List MessageMeta) : (ascending messages).Nodup :=
  ((List.perm_insertionSort _ _).nodup_iff).mpr (List.nodup_dedup _)

/-- Positions are at most the number of messages that are listed. -/
theorem position_le {messages : List MessageMeta} {info : MessageMeta} (member : info ∈ messages) :
    1 ≤ position messages info.uid ∧ position messages info.uid ≤ messages.length := by
  have inside : info.uid ∈ ascending messages := mem_ascending.mpr ⟨info, member, rfl⟩
  have below := List.idxOf_lt_length_of_mem inside
  have length : (ascending messages).length ≤ messages.length := by
    rw [ascending, List.length_insertionSort]
    exact (List.dedup_sublist _).length_le.trans (List.length_map _).le
  unfold position
  omega

/-- Every UID is its own position just when there is no gap. -/
theorem position_eq_iff (messages : List MessageMeta) :
    (∀ info ∈ messages, position messages info.uid = info.uid.toNat) ↔ Gapless messages := by
  constructor
  · intro same
    refine List.ext_getElem (by simp) fun index inMap inRange => ?_
    have short : index < (ascending messages).length := by simpa using inMap
    obtain ⟨info, member, uid⟩ := mem_ascending.mp (List.getElem_mem short)
    have placed := same info member
    rw [uid, position, (nodup_ascending messages).idxOf_getElem index short] at placed
    rw [List.getElem_map, List.getElem_range', ← placed]
    omega
  · intro gapless info member
    have inside : info.uid ∈ ascending messages := mem_ascending.mpr ⟨info, member, rfl⟩
    have below := List.idxOf_lt_length_of_mem inside
    have found : (ascending messages)[(ascending messages).idxOf info.uid] = info.uid :=
      List.getElem_idxOf below
    have numbered := congrArg (fun numbers => numbers[(ascending messages).idxOf info.uid]?) gapless
    rw [List.getElem?_map, List.getElem?_eq_getElem below, found,
      List.getElem?_range' (by simpa using below)] at numbered
    have value : info.uid.toNat = 1 + 1 * (ascending messages).idxOf info.uid :=
      Option.some.inj numbered
    unfold position
    omega

/-! ## What the answers should be -/

/-- The response to a FETCH of a message, under a sequence number. -/
def numberedResponse (env : Environment) (number : Nat) (info : MessageMeta) (req : FetchRequest)
    (body : List UInt8) (identity : MessageIdentity) : List Reply :=
  let parts := " ".intercalate (fetchParts env info req body identity)
  if req.body = .none then [.untagged (toString number ++ " FETCH (" ++ parts ++ ")")]
  else
    let content := req.body.content env info body identity
    [.untagged (toString number ++ " FETCH (" ++ parts ++ " " ++ req.body.label ++ " \x7b" ++
      toString content.length ++ "\x7d"), .literal content]

/-- The body that a request needs of a message. -/
def bodyOf (session : Session) (db : Db) (req : FetchRequest) (info : MessageMeta) : List UInt8 :=
  if req.body.needsStoredBody then
    match db.fetchMessageIn session.userId session.selectedMailbox info.id with
    | .ok message => message.body
    | .error _ => []
  else []

/-- The responses to a FETCH of some messages, each under its number. -/
def responses (env : Environment) (session : Session) (db : Db) (number : UInt32 → Nat)
    (req : FetchRequest) (addressed : List MessageMeta) : List Reply :=
  addressed.flatMap fun info => numberedResponse env (number info.uid) info req
    (bodyOf session db req info) (messageIdentity session info)

/-- The responses to a STORE on some messages, each under its number. -/
def flagResponses (number : UInt32 → Nat) (mask : UInt32) (value : Bool)
    (addressed : List MessageMeta) : List Reply :=
  addressed.map fun info => .untagged (toString (number info.uid) ++ " FETCH (FLAGS (" ++
    flagsDisplay (changedFlags mask value info.flags) ++ "))")

/-- The data items of a plain FETCH. -/
def requested (items : List String) : FetchRequest :=
  parseFetchItems (if items = [] then "BODY[]" else " ".intercalate items)

/-- The server's sequence numbers are positions, in a mailbox that lists these messages. -/
structure NumbersArePositions (env : Environment) (session : Session) (db : Db)
    (messages : List MessageMeta) : Prop where
  /-- A plain FETCH of a number shows the message at this position, under this number. -/
  fetch : ∀ (tag : String) (items : List String) (k : UInt32), k ≠ 0 →
    (handle env session db ⟨tag, "FETCH", toString k :: items⟩).1 =
      responses env session db (position messages) (requested items)
        (messages.filter fun info => position messages info.uid = k.toNat) ++
      [.tagged tag .ok "FETCH completed"]
  /-- A plain FETCH of a set shows the messages whose positions are in the set, each under its
  position. -/
  fetchSet : ∀ (tag range : String) (items : List String),
    (handle env session db ⟨tag, "FETCH", range :: items⟩).1 =
      responses env session db (position messages) (requested items)
        (messages.filter fun info => inRange range (UInt32.ofNat (position messages info.uid))
          (messageCount session db)) ++
      [.tagged tag .ok "FETCH completed"]
  /-- A UID FETCH shows the messages it selects under their positions. -/
  uidFetch : ∀ (tag sub range item : String) (items : List String),
    toAsciiUppercase sub = "FETCH" →
      (handle env session db ⟨tag, "UID", sub :: range :: item :: items⟩).1 =
        responses env session db (position messages)
          { requested (item :: items) with uid := true }
          (messages.filter fun info => inRange range info.uid (messageCount session db)) ++
        [.tagged tag .ok "FETCH completed"]
  /-- A plain STORE on a number changes the message at this position. -/
  store : ∀ (tag mode flags : String) (more : List String) (k : UInt32), k ≠ 0 →
    parseFlags flags ≠ 0 →
      (handle env session db ⟨tag, "STORE", toString k :: mode :: flags :: more⟩).2.2.messages =
        db.messages.map fun row =>
          if inMailbox db session.userId session.selectedMailbox row &&
              position messages (UInt32.ofNat row.uid) == k.toNat
          then Db.changeFlags (parseFlags flags) (adds mode) row else row
  /-- It shows its flags under this number. -/
  stored : ∀ (tag mode flags : String) (more : List String) (k : UInt32), k ≠ 0 →
    parseFlags flags ≠ 0 →
      (handle env session db ⟨tag, "STORE", toString k :: mode :: flags :: more⟩).1 =
        flagResponses (position messages) (parseFlags flags) (adds mode)
          (messages.filter fun info => position messages info.uid = k.toNat) ++
        [.tagged tag .ok "STORE completed"]
  /-- A plain STORE on a set changes the messages whose positions are in the set. -/
  storeSet : ∀ (tag range mode flags : String) (more : List String), parseFlags flags ≠ 0 →
    (handle env session db ⟨tag, "STORE", range :: mode :: flags :: more⟩).2.2.messages =
      db.messages.map fun row =>
        if inMailbox db session.userId session.selectedMailbox row &&
            inRange range (UInt32.ofNat (position messages (UInt32.ofNat row.uid)))
              (messageCount session db)
        then Db.changeFlags (parseFlags flags) (adds mode) row else row
  /-- It shows their flags, each under its position. -/
  storedSet : ∀ (tag range mode flags : String) (more : List String), parseFlags flags ≠ 0 →
    (handle env session db ⟨tag, "STORE", range :: mode :: flags :: more⟩).1 =
      flagResponses (position messages) (parseFlags flags) (adds mode)
        (messages.filter fun info => inRange range (UInt32.ofNat (position messages info.uid))
          (messageCount session db)) ++
      [.tagged tag .ok "STORE completed"]
  /-- A UID STORE shows the flags of the messages it selects under their positions. -/
  uidStored : ∀ (tag sub range mode flags : String) (more : List String),
    toAsciiUppercase sub = "STORE" → parseFlags flags ≠ 0 →
      (handle env session db ⟨tag, "UID", sub :: range :: mode :: flags :: more⟩).1 =
        flagResponses (position messages) (parseFlags flags) (adds mode)
          (messages.filter fun info => inRange range info.uid (messageCount session db)) ++
        [.tagged tag .ok "STORE completed"]
  /-- A plain SEARCH returns the positions of the messages that match. -/
  search : ∀ (tag : String) (args : List String),
    (handle env session db ⟨tag, "SEARCH", args⟩).1 =
      [.untagged ("SEARCH " ++ " ".intercalate ((messages.filter fun info =>
          (searchCriteria args).1 || ((searchCriteria args).2 && !info.flags.isSeen)).map
            fun info => toString (position messages info.uid))),
        .tagged tag .ok "SEARCH completed"]
  /-- The numbers are those up to the number of messages. -/
  within : ∀ info ∈ messages,
    1 ≤ position messages info.uid ∧ position messages info.uid ≤ messages.length

/-! ## What the answers are -/

/-- The server reads one number as the UID. -/
theorem inRange_number {k : UInt32} (nonzero : k ≠ 0) (uid count : UInt32) :
    inRange (toString k) uid count = (uid == k) := by
  have read := inRange_text ⟨[.single (.number k nonzero)], List.cons_ne_nil _ _⟩ uid count
  have text : SequenceSet.text ⟨[.single (.number k nonzero)], List.cons_ne_nil _ _⟩ =
      toString k := by
    simp [SequenceSet.text, SeqPart.text, SeqNumber.text]
  rw [← text, read]
  simp [SequenceSet.denotes, SeqPart.denotes, SeqNumber.value]

/-- A FETCH shows the messages it selects under their UIDs. -/
theorem fetchMessages_eq (env : Environment) (session : Session) (db : Db) (range : String)
    (req : FetchRequest) (count : UInt32) (messages : List MessageMeta)
    (readable : ∀ info ∈ messages, ∃ message,
      db.fetchMessageIn session.userId session.selectedMailbox info.id = .ok message) :
    fetchMessages env session db range req count messages =
      .ok (responses env session db UInt32.toNat req
        (messages.filter fun info => inRange range info.uid count)) := by
  let selects : MessageMeta → Bool := fun info => inRange range info.uid count
  induction messages with
  | nil => rfl
  | cons info rest ih =>
    have rest := ih fun other member => readable other (List.mem_cons_of_mem _ member)
    obtain ⟨message, read⟩ := readable info List.mem_cons_self
    rw [fetchMessages, rest]
    by_cases covered : inRange range info.uid count = true
    · have body : (if req.body.needsStoredBody then
          (db.fetchMessageIn session.userId session.selectedMailbox info.id).map Message.body
        else .ok []) = Except.ok (bodyOf session db req info) := by
        unfold bodyOf
        rw [read]
        by_cases needed : req.body.needsStoredBody = true
        · rw [if_pos needed, if_pos needed]
          rfl
        · rw [if_neg needed, if_neg needed]
      rw [if_pos covered, List.filter_cons_of_pos (p := selects) covered]
      dsimp only
      rw [body]
      rfl
    · rw [if_neg covered, List.filter_cons_of_neg (p := selects) covered]

/-- A STORE shows the flags of the messages it selects under their UIDs. -/
theorem storeMessages_eq {session : Session} {db : Db} {handle : Db.Handle}
    (named : db.mailboxNamed session.userId session.selectedMailbox = .ok handle) (range : String)
    (mask : UInt32) (value : Bool) (count : UInt32) (messages : List MessageMeta) :
    (storeMessages session range mask value count messages db).1 =
      .ok (flagResponses UInt32.toNat mask value
        (messages.filter fun info => inRange range info.uid count)) := by
  let selects : MessageMeta → Bool := fun info => inRange range info.uid count
  induction messages generalizing db with
  | nil => rfl
  | cons info rest ih =>
    rw [storeMessages]
    by_cases covered : inRange range info.uid count = true
    · rw [if_pos covered, List.filter_cons_of_pos (p := selects) covered, Db.setFlagsIn, named]
      dsimp only
      rw [ih]
      · rfl
      · exact named
    · rw [if_neg covered, List.filter_cons_of_neg (p := selects) covered, ih named]

section

variable (env : Environment) {session : Session} (selected : session.state = .selected) {db : Db}
  {messages : List MessageMeta}
  (list : db.listMessagesIn session.userId session.selectedMailbox = .ok messages)
include selected list

/-- The answer to a FETCH is that for the messages it picks. -/
theorem cmdFetch_eq {cmd : ParsedCommand} {range items : String}
    (arguments : fetchArguments cmd = .ok (range, items)) :
    cmdFetch env session db cmd =
      responses env session db UInt32.toNat
        (if cmd.name = "UID" then { parseFetchItems items with uid := true }
          else parseFetchItems items)
        (messages.filter fun info => inRange range info.uid (messageCount session db)) ++
      [.tagged cmd.tag .ok "FETCH completed"] := by
  unfold cmdFetch messageCount
  rw [if_neg (not_not.mpr selected), arguments, list]
  dsimp only
  rw [fetchMessages_eq env session db range _ _ messages fun info member =>
    fetchMessageIn_listed list member]

/-- The answer to a STORE is that for the messages it picks. -/
theorem cmdStore_eq {cmd : ParsedCommand} {range mode flags : String}
    (arguments : storeArguments cmd = .ok (range, mode, flags)) (known : parseFlags flags ≠ 0) :
    (cmdStore env session db cmd).1 =
      flagResponses UInt32.toNat (parseFlags flags) (adds mode)
        (messages.filter fun info => inRange range info.uid (messageCount session db)) ++
      [.tagged cmd.tag .ok "STORE completed"] := by
  have named : ∃ handle, db.mailboxNamed session.userId session.selectedMailbox = .ok handle := by
    cases found : db.mailboxNamed session.userId session.selectedMailbox with
    | error error =>
      rw [Db.listMessagesIn, found] at list
      cases list
    | ok handle => exact ⟨handle, rfl⟩
  obtain ⟨handle, named⟩ := named
  have shown := storeMessages_eq named range (parseFlags flags) (adds mode)
    (UInt32.ofNat messages.length) messages
  unfold cmdStore messageCount
  unfold adds at shown ⊢
  rw [if_neg (not_not.mpr selected), arguments, list]
  dsimp only
  rw [if_neg known]
  cases made : storeMessages session range (parseFlags flags)
      (!startsWith (trimStart mode) "-") (UInt32.ofNat messages.length) messages db with
  | mk outcome after =>
    rw [made] at shown
    dsimp only at shown
    rw [shown]

/-- The answer to a SEARCH is that for the messages it finds. -/
theorem cmdSearch_eq {cmd : ParsedCommand} (named : cmd.name = "SEARCH") :
    cmdSearch env session db cmd =
      [.untagged ("SEARCH " ++ " ".intercalate ((messages.filter fun info =>
          (searchCriteria cmd.args).1 || ((searchCriteria cmd.args).2 && !info.flags.isSeen)).map
            fun info => toString info.uid.toNat)),
        .tagged cmd.tag .ok "SEARCH completed"] := by
  have arguments : searchArguments cmd = cmd.args := by
    unfold searchArguments
    rw [named]
    cases cmd.args with
    | nil => rfl
    | cons first rest => rfl
  unfold cmdSearch
  rw [if_neg (not_not.mpr selected), list, arguments]
  dsimp only
  rw [joinUids, List.map_map]
  rfl

end

/-! ## Mailboxes without gaps -/

/-- Numbers that agree on the messages give the same responses. -/
theorem responses_congr (env : Environment) (session : Session) (db : Db)
    {number other : UInt32 → Nat} (req : FetchRequest) {addressed : List MessageMeta}
    (same : ∀ info ∈ addressed, number info.uid = other info.uid) :
    responses env session db number req addressed =
      responses env session db other req addressed := by
  refine List.flatMap_congr fun info member => ?_
  rw [same info member]

/-- Numbers that agree on the messages give the same responses. -/
theorem flagResponses_congr {number other : UInt32 → Nat} (mask : UInt32) (value : Bool)
    {addressed : List MessageMeta} (same : ∀ info ∈ addressed, number info.uid = other info.uid) :
    flagResponses number mask value addressed = flagResponses other mask value addressed := by
  refine List.map_congr_left fun info member => ?_
  rw [same info member]

/-- Joined numbers can be told apart. -/
theorem joined_numbers {numbers others : List Nat} (length : numbers.length = others.length)
    (same : " ".intercalate (numbers.map toString) = " ".intercalate (others.map toString)) :
    numbers = others := by
  have pieces (values : List Nat) (some : values ≠ []) :
      (" ".intercalate (values.map toString)).toList.splitOn ' ' =
        (values.map toString).map String.toList := by
    rw [String.toList_intercalate]
    refine List.splitOn_intercalate ' ' ?_ (by simpa using some)
    intro piece member
    obtain ⟨text, inside, rfl⟩ := List.mem_map.mp member
    obtain ⟨value, _, rfl⟩ := List.mem_map.mp inside
    exact fun blank => absurd (isDigit_toString blank) (by decide)
  by_cases empty : numbers = []
  · subst empty
    exact (List.eq_nil_of_length_eq_zero length.symm).symm
  · have alsoSome : others ≠ [] := by
      rintro rfl
      exact empty (List.eq_nil_of_length_eq_zero length)
    have cut := congrArg (fun text : String => text.toList.splitOn ' ') same
    have both := (pieces numbers empty).symm.trans (cut.trans (pieces others alsoSome))
    rw [List.map_map, List.map_map] at both
    refine List.map_injective_iff.mpr ?_ both
    exact fun left right texts => toString_injective (String.toList_inj.mp texts)

/-- A plain STORE has these arguments. -/
theorem store_arguments (tag set mode flags : String) (more : List String) :
    isStore ⟨tag, "STORE", set :: mode :: flags :: more⟩ = true ∧
      storeArguments ⟨tag, "STORE", set :: mode :: flags :: more⟩ = .ok (set, mode, flags) := by
  simp [isStore, storeArguments]

/-- A UID STORE has these arguments. -/
theorem uidStore_arguments (tag set mode flags : String) (more : List String) {sub : String}
    (upper : toAsciiUppercase sub = "STORE") :
    isStore ⟨tag, "UID", sub :: set :: mode :: flags :: more⟩ = true ∧
      storeArguments ⟨tag, "UID", sub :: set :: mode :: flags :: more⟩ =
        .ok (set, mode, flags) := by
  simp [isStore, storeArguments, upper]

/-- A plain FETCH has these arguments. -/
theorem fetch_arguments (tag set : String) (items : List String) :
    fetchArguments ⟨tag, "FETCH", set :: items⟩ =
      .ok (set, if items = [] then "BODY[]" else " ".intercalate items) := by
  cases items with
  | nil => simp [fetchArguments]
  | cons item items => simp [fetchArguments]

/-- A UID FETCH has these arguments. -/
theorem uidFetch_arguments (tag set item : String) (items : List String) {sub : String}
    (upper : toAsciiUppercase sub = "FETCH") :
    isFetch ⟨tag, "UID", sub :: set :: item :: items⟩ = true ∧
      fetchArguments ⟨tag, "UID", sub :: set :: item :: items⟩ =
        .ok (set, " ".intercalate (item :: items)) := by
  simp [isFetch, fetchArguments, upper]

section Gapless

variable (env : Environment) {session : Session} {db : Db} {messages : List MessageMeta}

/-- The answer to a SEARCH gives the numbers away: where they are positions, the UIDs are. -/
theorem uids_of_search (selected : session.state = .selected)
    (list : db.listMessagesIn session.userId session.selectedMailbox = .ok messages)
    (answer : (handle env session db ⟨"", "SEARCH", ["ALL"]⟩).1 =
      [.untagged ("SEARCH " ++ " ".intercalate ((messages.filter fun info =>
          (searchCriteria ["ALL"]).1 ||
            ((searchCriteria ["ALL"]).2 && !info.flags.isSeen)).map
          fun info => toString (position messages info.uid))),
        .tagged "" .ok "SEARCH completed"]) :
    ∀ info ∈ messages, position messages info.uid = info.uid.toNat := by
  have handled : (handle env session db ⟨"", "SEARCH", ["ALL"]⟩).1 =
      cmdSearch env session db ⟨"", "SEARCH", ["ALL"]⟩ := rfl
  rw [handled, cmdSearch_eq env selected list rfl] at answer
  have all : (searchCriteria ["ALL"]).1 = true := by decide
  simp only [all, Bool.true_or, List.filter_true] at answer
  have texts := (List.cons.inj answer).1
  have texts := (String.append_right_inj _).mp (Reply.untagged.inj texts)
  have numbers : messages.map (fun info => info.uid.toNat) =
      messages.map fun info => position messages info.uid := by
    refine joined_numbers (by simp) ?_
    rw [List.map_map, List.map_map]
    exact texts
  exact fun info member => (List.map_inj_left.mp numbers info member).symm

/-- Where the UIDs are positions, the server reads a set as a set of positions. -/
theorem selected_by_position
    (same : ∀ info ∈ messages, position messages info.uid = info.uid.toNat) (range : String)
    (count : UInt32) :
    (messages.filter fun info => inRange range info.uid count) =
      messages.filter fun info =>
        inRange range (UInt32.ofNat (position messages info.uid)) count := by
  refine List.filter_congr fun info member => ?_
  rw [same info member, UInt32.ofNat_toNat]

/-- There it reads a number as the position of one message. -/
theorem addressed_by_position
    (same : ∀ info ∈ messages, position messages info.uid = info.uid.toNat) (k : UInt32)
    (nonzero : k ≠ 0) (count : UInt32) :
    (messages.filter fun info => inRange (toString k) info.uid count) =
      messages.filter fun info => position messages info.uid = k.toNat := by
  refine List.filter_congr fun info member => ?_
  rw [inRange_number nonzero, same info member, Bool.eq_iff_iff, beq_iff_eq, decide_eq_true_iff]
  exact UInt32.toNat_inj.symm

section Numbered

variable (selected : session.state = .selected)
  (list : db.listMessagesIn session.userId session.selectedMailbox = .ok messages)
  (same : ∀ info ∈ messages, position messages info.uid = info.uid.toNat)
include selected list same

/-- There a FETCH shows the messages that its set picks under their positions. -/
theorem fetch_numbered {cmd : ParsedCommand} {range items : String} (fetches : isFetch cmd = true)
    (arguments : fetchArguments cmd = .ok (range, items)) :
    (handle env session db cmd).1 =
      responses env session db (position messages)
        (if cmd.name = "UID" then { parseFetchItems items with uid := true }
          else parseFetchItems items)
        (messages.filter fun info => inRange range info.uid (messageCount session db)) ++
      [.tagged cmd.tag .ok "FETCH completed"] := by
  rw [handle_fetch env selected db fetches]
  dsimp only
  rw [cmdFetch_eq env selected list arguments]
  refine congrArg (· ++ _) (responses_congr env session db _ fun info member => ?_)
  exact (same info (List.mem_of_mem_filter member)).symm

/-- There a STORE shows the flags of the messages that its set picks under their positions. -/
theorem store_numbered {cmd : ParsedCommand} {range mode flags : String}
    (stores : isStore cmd = true) (arguments : storeArguments cmd = .ok (range, mode, flags))
    (named : parseFlags flags ≠ 0) :
    (handle env session db cmd).1 =
      flagResponses (position messages) (parseFlags flags) (adds mode)
        (messages.filter fun info => inRange range info.uid (messageCount session db)) ++
      [.tagged cmd.tag .ok "STORE completed"] := by
  rw [handle_store env selected db stores]
  dsimp only
  rw [cmdStore_eq env selected list arguments named]
  refine congrArg (· ++ _) (flagResponses_congr _ _ fun info member => ?_)
  exact (same info (List.mem_of_mem_filter member)).symm

/-- There a SEARCH answers with positions. -/
theorem search_numbered (tag : String) (args : List String) :
    (handle env session db ⟨tag, "SEARCH", args⟩).1 =
      [.untagged ("SEARCH " ++ " ".intercalate ((messages.filter fun info =>
          (searchCriteria args).1 || ((searchCriteria args).2 && !info.flags.isSeen)).map
            fun info => toString (position messages info.uid))),
        .tagged tag .ok "SEARCH completed"] := by
  have handled : (handle env session db ⟨tag, "SEARCH", args⟩).1 =
      cmdSearch env session db ⟨tag, "SEARCH", args⟩ := rfl
  have numbers (selects : MessageMeta → Bool) :
      ((messages.filter selects).map fun info => toString info.uid.toNat) =
        (messages.filter selects).map fun info => toString (position messages info.uid) :=
    List.map_congr_left fun info member =>
      congrArg toString (same info (List.mem_of_mem_filter member)).symm
  rw [handled, cmdSearch_eq env selected list rfl, numbers]

end Numbered

section Stored

variable (selected : session.state = .selected) (keyed : Keyed db)
  (list : db.listMessagesIn session.userId session.selectedMailbox = .ok messages)
  (same : ∀ info ∈ messages, position messages info.uid = info.uid.toNat)
include selected keyed list same

/-- Where the UIDs are positions, a STORE on a set changes the messages at the positions that a test
picks, if the test says of a UID what the set says. -/
theorem store_picked {range : String} (picks : Nat → Bool)
    (agree : ∀ uid : UInt32, inRange range uid (messageCount session db) = picks uid.toNat)
    (tag mode flags : String) (more : List String) :
    (handle env session db ⟨tag, "STORE", range :: mode :: flags :: more⟩).2.2.messages =
      db.messages.map fun row =>
        if inMailbox db session.userId session.selectedMailbox row &&
            picks (position messages (UInt32.ofNat row.uid))
        then Db.changeFlags (parseFlags flags) (adds mode) row else row := by
  have known := store_arguments tag range mode flags more
  rw [handle_store env selected db known.1, cmdStore_messages env selected keyed]
  refine List.map_congr_left fun row member => ?_
  simp only [stored, known.2, covers, agree]
  cases inside : inMailbox db session.userId session.selectedMailbox row with
  | false => rfl
  | true =>
    obtain ⟨info, shown, uid⟩ := listing_of_row keyed member inside
    have shown : info ∈ messages := by
      rw [listing, list] at shown
      exact shown
    rw [← uid, same info shown]

/-- There a STORE on a number changes the message at this position. -/
theorem store_at_position (tag mode flags : String) (more : List String) (k : UInt32)
    (nonzero : k ≠ 0) :
    (handle env session db ⟨tag, "STORE", toString k :: mode :: flags :: more⟩).2.2.messages =
      db.messages.map fun row =>
        if inMailbox db session.userId session.selectedMailbox row &&
            position messages (UInt32.ofNat row.uid) == k.toNat
        then Db.changeFlags (parseFlags flags) (adds mode) row else row := by
  have agree (uid : UInt32) : inRange (toString k) uid (messageCount session db) =
      (uid.toNat == k.toNat) := by
    rw [inRange_number nonzero, Bool.eq_iff_iff, beq_iff_eq, beq_iff_eq]
    exact UInt32.toNat_inj.symm
  exact store_picked env selected keyed list same (fun place => place == k.toNat) agree tag mode
    flags more

/-- There a STORE on a set changes the messages whose positions are in it. -/
theorem store_at_positions (tag range mode flags : String) (more : List String) :
    (handle env session db ⟨tag, "STORE", range :: mode :: flags :: more⟩).2.2.messages =
      db.messages.map fun row =>
        if inMailbox db session.userId session.selectedMailbox row &&
            inRange range (UInt32.ofNat (position messages (UInt32.ofNat row.uid)))
              (messageCount session db)
        then Db.changeFlags (parseFlags flags) (adds mode) row else row := by
  have agree (uid : UInt32) : inRange range uid (messageCount session db) =
      inRange range (UInt32.ofNat uid.toNat) (messageCount session db) := by
    rw [UInt32.ofNat_toNat]
  exact store_picked env selected keyed list same
    (fun place => inRange range (UInt32.ofNat place) (messageCount session db)) agree tag mode flags
    more

end Stored

end Gapless

/-- The server's sequence numbers are positions just when the UIDs have no gap. -/
theorem numbers_are_positions_iff (env : Environment) {session : Session}
    (selected : session.state = .selected) {db : Db} (keyed : Keyed db)
    {messages : List MessageMeta}
    (list : db.listMessagesIn session.userId session.selectedMailbox = .ok messages) :
    NumbersArePositions env session db messages ↔ Gapless messages := by
  rw [← position_eq_iff]
  constructor
  · exact fun positions => uids_of_search env selected list (positions.search "" ["ALL"])
  · intro same
    have addressed := addressed_by_position same
    have positions := selected_by_position same
    have plain (items : List String) : (if ("FETCH" : String) = "UID" then
          { parseFetchItems (if items = [] then "BODY[]" else " ".intercalate items) with
            uid := true }
        else parseFetchItems (if items = [] then "BODY[]" else " ".intercalate items)) =
        requested items := if_neg (by decide)
    constructor
    · intro tag items k nonzero
      rw [fetch_numbered env selected list same rfl (fetch_arguments tag (toString k) items),
        addressed k nonzero, plain]
    · intro tag range items
      rw [fetch_numbered env selected list same rfl (fetch_arguments tag range items),
        positions range, plain]
    · intro tag sub range item items upper
      have known := uidFetch_arguments tag range item items upper
      rw [fetch_numbered env selected list same known.1 known.2, if_pos rfl]
      rfl
    · intro tag mode flags more k nonzero _
      exact store_at_position env selected keyed list same tag mode flags more k nonzero
    · intro tag mode flags more k nonzero named
      have known := store_arguments tag (toString k) mode flags more
      rw [store_numbered env selected list same known.1 known.2 named, addressed k nonzero]
    · intro tag range mode flags more _
      exact store_at_positions env selected keyed list same tag range mode flags more
    · intro tag range mode flags more named
      have known := store_arguments tag range mode flags more
      rw [store_numbered env selected list same known.1 known.2 named, positions range]
    · intro tag sub range mode flags more upper named
      have known := uidStore_arguments tag range mode flags more upper
      exact store_numbered env selected list same known.1 known.2 named
    · exact search_numbered env selected list same
    · exact fun info member => position_le member

/-- The server's sequence numbers are positions in a mailbox with three messages, none of which is
expunged. -/
theorem three_messages_numbered :
    NumbersArePositions groupEnvironment (bobSelected inbox) threeMessages
      (listing (bobSelected inbox) threeMessages) :=
  (@numbers_are_positions_iff groupEnvironment (bobSelected inbox) rfl _ keyed_threeMessages _
    (by rfl)).mpr (by decide +kernel)

/-- After the first of two messages is expunged, the other one is the first of the mailbox, and the
server still calls it by its UID, 2. -/
theorem second_message_misnumbered :
    (listing (bobSelected inbox) expunged).map MessageMeta.uid = [2] ∧
      (listing (bobSelected inbox) expunged).map
        (fun info => position (listing (bobSelected inbox) expunged) info.uid) = [1] ∧
      ¬NumbersArePositions groupEnvironment (bobSelected inbox) expunged
        (listing (bobSelected inbox) expunged) := by
  have list : expunged.listMessagesIn 1 inbox =
      .ok (listing (bobSelected inbox) expunged) := by decide +kernel
  refine ⟨by decide +kernel, by decide +kernel, fun positions => ?_⟩
  have answer := positions.search "A1" ["ALL"]
  exact absurd answer (by decide +kernel)

end Talk.Verif.SequenceNumbers
