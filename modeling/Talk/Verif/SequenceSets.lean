import Talk.Verif.SelectedMailbox

/-!
# Sequence sets

The sequence sets that the protocol has, with the text of each and what it denotes. The server
reads the text of a set as the set denotes it, except that `*` stands for the number of messages.
From this follow the sets with which a UID FETCH and a UID STORE affect the right messages, and
the commands in which a text that is no set does nothing.
-/

namespace Talk.Verif.SequenceSets

open Imap ImapSteps Mailstore SelectedMailbox StoreSteps Text

/-! ## Sets -/

/-- A number of a sequence set. -/
inductive SeqNumber where
  /-- The largest number in use. -/
  | star
  /-- A number that is not zero. -/
  | number (value : UInt32) (nonzero : value ≠ 0)
  deriving DecidableEq

/-- One part of a sequence set. -/
inductive SeqPart where
  /-- A number. -/
  | single (number : SeqNumber)
  /-- The numbers between two numbers, in either order. -/
  | range (first last : SeqNumber)
  deriving DecidableEq

/-- A sequence set: parts, at least one. -/
structure SequenceSet where
  /-- The parts. -/
  parts : List SeqPart
  /-- There is one. -/
  nonempty : parts ≠ []

/-- The text of a number. -/
def SeqNumber.text : SeqNumber → String
  | .star => "*"
  | .number value _ => toString value

/-- The text of a part. -/
def SeqPart.text : SeqPart → String
  | .single number => number.text
  | .range first last => first.text ++ ":" ++ last.text

/-- The text of a set. -/
def SequenceSet.text (set : SequenceSet) : String :=
  ",".intercalate (set.parts.map SeqPart.text)

/-- The value of a number, for a value of `*`. -/
def SeqNumber.value (star : UInt32) : SeqNumber → UInt32
  | .star => star
  | .number value _ => value

/-- A part denotes a number, for a value of `*`. -/
def SeqPart.denotes (star uid : UInt32) : SeqPart → Bool
  | .single number => uid == number.value star
  | .range first last =>
    min (first.value star) (last.value star) ≤ uid && uid ≤ max (first.value star) (last.value star)

/-- A set denotes a number, for a value of `*`. -/
def SequenceSet.denotes (set : SequenceSet) (star uid : UInt32) : Bool :=
  set.parts.any (SeqPart.denotes star uid)

/-! ## Reading a set -/

/-- A number has no separator of sets and ranges in it. -/
theorem SeqNumber.plain (number : SeqNumber) {c : Char} (member : c ∈ number.text.toList) :
    c ≠ ',' ∧ c ≠ ':' := by
  cases number with
  | star =>
    have same : c = '*' := by simpa [SeqNumber.text] using member
    simp [same]
  | number value =>
    have digit := @isDigit_toString value.toNat c member
    constructor
    · exact fun same => absurd (same ▸ digit) (by decide)
    · exact fun same => absurd (same ▸ digit) (by decide)

/-- A part has no separator of sets in it. -/
theorem SeqPart.plain (part : SeqPart) : ',' ∉ part.text.toList := by
  cases part with
  | single number => exact fun member => (number.plain member).1 rfl
  | range first last =>
    intro member
    simp only [SeqPart.text, String.toList_append, List.mem_append] at member
    rcases member with (inFirst | colon) | inLast
    · exact (first.plain inFirst).1 rfl
    · simp at colon
    · exact (last.plain inLast).1 rfl

/-- The larger number of two. -/
theorem toNat_max (left right : UInt32) : (max left right).toNat = max left.toNat right.toNat := by
  change (if left ≤ right then right else left).toNat = _
  by_cases ordered : left ≤ right
  · rw [if_pos ordered, Nat.max_eq_right (UInt32.le_iff_toNat_le.mp ordered)]
  · have other := UInt32.le_iff_toNat_le.not.mp ordered
    rw [if_neg ordered, Nat.max_eq_left (by omega)]

/-- The smaller number of two. -/
theorem toNat_min (left right : UInt32) : (min left right).toNat = min left.toNat right.toNat := by
  change (if left ≤ right then left else right).toNat = _
  by_cases ordered : left ≤ right
  · rw [if_pos ordered, Nat.min_eq_left (UInt32.le_iff_toNat_le.mp ordered)]
  · have other := UInt32.le_iff_toNat_le.not.mp ordered
    rw [if_neg ordered, Nat.min_eq_right (by omega)]

/-- A number that is not zero is at least one. -/
theorem max_one {value : UInt32} (nonzero : value ≠ 0) : max value 1 = value := by
  have positive : value.toNat ≠ 0 := fun zero => nonzero (UInt32.toNat_inj.mp zero)
  refine UInt32.toNat_inj.mp ?_
  rw [toNat_max]
  exact Nat.max_eq_left (Nat.pos_of_ne_zero positive)

/-- A numeral is not `*`. -/
theorem toString_ne_star (value : UInt32) : toString value ≠ "*" := by
  intro same
  have whole : (toString value.toNat).toList = "*".toList := congrArg String.toList same
  have member : '*' ∈ (toString value.toNat).toList := by
    rw [whole]
    exact List.mem_singleton.mpr rfl
  exact absurd (isDigit_toString member) (by decide)

/-- The server reads a number; `*` is the number of messages, or one. -/
theorem seqNum_text (number : SeqNumber) (count : UInt32) :
    seqNum number.text count = number.value (max count 1) := by
  cases number with
  | star => rfl
  | number value nonzero =>
    have digit := toString_ne_star value
    have read : parseUnsigned (2 ^ 32) (toString value) = some value.toNat :=
      parseUnsigned_toString value.toNat_lt
    unfold seqNum
    rw [SeqNumber.text, if_neg digit, read]
    simp only [Option.getD_some, UInt32.ofNat_toNat, SeqNumber.value]
    exact max_one nonzero

/-- A number is not split. -/
theorem SeqNumber.splitOnce_text (number : SeqNumber) : splitOnce ':' number.text = none := by
  rw [splitOnce, splitFirst_free fun member => (number.plain member).2 rfl]
  rfl

/-- A range is split into its numbers. -/
theorem SeqNumber.splitOnce_range (first last : SeqNumber) :
    splitOnce ':' (first.text ++ ":" ++ last.text) = some (first.text, last.text) := by
  have text : (first.text ++ ":" ++ last.text).toList =
      first.text.toList ++ ':' :: last.text.toList := by simp
  rw [splitOnce, text, splitFirst_join fun member => (first.plain member).2 rfl]
  simp

/-- The server reads a part. -/
theorem inPart_text (part : SeqPart) (uid count : UInt32) :
    inPart uid count part.text = part.denotes (max count 1) uid := by
  unfold inPart
  cases part with
  | single number =>
    simp only [SeqPart.text, number.splitOnce_text, seqNum_text, SeqPart.denotes]
  | range first last =>
    simp only [SeqPart.text, first.splitOnce_range last, seqNum_text, SeqPart.denotes]

/-- The server splits a set into its parts. -/
theorem split_text (set : SequenceSet) : split ',' set.text = set.parts.map SeqPart.text := by
  have pieces : set.text.toList =
      [','].intercalate ((set.parts.map SeqPart.text).map String.toList) := by
    rw [SequenceSet.text, String.toList_intercalate]
    rfl
  rw [split, pieces, List.splitOn_intercalate]
  · rw [List.map_map, List.map_map]
    refine List.map_congr_left fun part _ => ?_
    simp
  · intro piece member
    obtain ⟨text, inside, rfl⟩ := List.mem_map.mp member
    obtain ⟨part, _, rfl⟩ := List.mem_map.mp inside
    exact part.plain
  · simpa using set.nonempty

/-- The server reads a set as the set denotes it, with the number of messages, or one, for `*`. -/
theorem inRange_text (set : SequenceSet) (uid count : UInt32) :
    inRange set.text uid count = set.denotes (max count 1) uid := by
  rw [inRange, split_text, SequenceSet.denotes, List.any_map]
  congr 1
  funext part
  exact inPart_text part uid count

/-! ## The messages of a FETCH -/

/-- The messages that the selected mailbox lists. -/
def listing (session : Session) (db : Db) : List MessageMeta :=
  match db.listMessagesIn session.userId session.selectedMailbox with
  | .ok messages => messages
  | .error _ => []

/-- A response shows a message under this number. -/
def Answers (number : UInt32) (replies : List Reply) : Prop :=
  ∃ rest, Reply.untagged (toString number ++ " FETCH (" ++ rest) ∈ replies

/-- A number can be told from what follows it in a response. -/
theorem number_before_fetch {left right : Nat} {rest other : String}
    (same : toString left ++ " FETCH (" ++ rest = toString right ++ " FETCH (" ++ other) :
    left = right := by
  have free (number : Nat) : ' ' ∉ (toString number).toList := fun member =>
    absurd (isDigit_toString member) (by decide)
  have texts := congrArg String.toList same
  simp only [String.toList_append] at texts
  have cut (number : Nat) (rest : List Char) :
      splitFirst ' ' ((toString number).toList ++ " FETCH (".toList ++ rest) =
        some ((toString number).toList, "FETCH (".toList ++ rest) := by
    have text : (toString number).toList ++ " FETCH (".toList ++ rest =
        (toString number).toList ++ ' ' :: ("FETCH (".toList ++ rest) := by simp
    rw [text, splitFirst_join (free number)]
  have both := (cut left rest.toList).symm.trans ((congrArg _ texts).trans (cut right other.toList))
  have digits : (toString left).toList = (toString right).toList :=
    congrArg Prod.fst (Option.some.inj both)
  exact toString_injective (String.toList_inj.mp digits)

/-- Two groups of responses show the messages of both. -/
theorem answers_append (number : UInt32) (first second : List Reply) :
    Answers number (first ++ second) ↔ Answers number first ∨ Answers number second := by
  simp only [Answers, List.mem_append, exists_or]

/-- A completion shows no message. -/
theorem not_answers_tagged (number : UInt32) (tag : String) (status : Status) (text : String) :
    ¬Answers number [.tagged tag status text] := by
  rintro ⟨rest, member⟩
  simp at member

/-- The response for a message shows it under its UID. -/
theorem answers_fetchResponse (env : Environment) (info : MessageMeta) (req : FetchRequest)
    (body : List UInt8) (identity : MessageIdentity) (number : UInt32) :
    Answers number (fetchResponse env info req body identity) ↔ info.uid = number := by
  have shows (first : Reply) (others : List Reply)
      (begins : ∃ rest, first = .untagged (toString info.uid ++ " FETCH (" ++ rest))
      (plain : ∀ reply ∈ others, ∃ content, reply = .literal content) :
      Answers number (first :: others) ↔ info.uid = number := by
    obtain ⟨rest, rfl⟩ := begins
    constructor
    · rintro ⟨other, member⟩
      rcases List.mem_cons.mp member with same | later
      · have numbers : number.toNat = info.uid.toNat :=
          number_before_fetch (Reply.untagged.inj same)
        exact (UInt32.toNat_inj.mp numbers).symm
      · obtain ⟨content, same⟩ := plain _ later
        cases same
    · rintro rfl
      exact ⟨rest, List.mem_cons_self⟩
  unfold fetchResponse
  dsimp only
  by_cases bare : req.body = .none
  · rw [if_pos bare]
    refine shows _ _ ⟨" ".intercalate (fetchParts env info req body identity) ++ ")", ?_⟩ (by simp)
    simp only [String.append_assoc]
  · rw [if_neg bare]
    have whole (parts label length : String) : ∃ rest,
        Reply.untagged (toString info.uid ++ " FETCH (" ++ parts ++ " " ++ label ++ " \x7b" ++
          length ++ "\x7d") = .untagged (toString info.uid ++ " FETCH (" ++ rest) :=
      ⟨parts ++ " " ++ label ++ " \x7b" ++ length ++ "\x7d", by simp only [String.append_assoc]⟩
    exact shows _ _ (whole _ _ _) (by simp)

/-- A FETCH of messages that can be read shows those in the set. -/
theorem fetchMessages_answers (env : Environment) (session : Session) (db : Db) (range : String)
    (req : FetchRequest) (count : UInt32) (messages : List MessageMeta)
    (readable : ∀ info ∈ messages, ∃ message,
      db.fetchMessageIn session.userId session.selectedMailbox info.id = .ok message) :
    ∃ replies, fetchMessages env session db range req count messages = .ok replies ∧
      ∀ number, Answers number replies ↔
        ∃ info ∈ messages, info.uid = number ∧ inRange range number count = true := by
  induction messages with
  | nil => exact ⟨[], rfl, fun number => by simp [Answers]⟩
  | cons info rest ih =>
    have rest := ih fun other member => readable other (List.mem_cons_of_mem _ member)
    obtain ⟨replies, made, shown⟩ := rest
    obtain ⟨message, read⟩ := readable info List.mem_cons_self
    rw [fetchMessages]
    by_cases covered : inRange range info.uid count = true
    · rw [if_pos covered]
      have body : ∃ body, (if req.body.needsStoredBody then
          (db.fetchMessageIn session.userId session.selectedMailbox info.id).map Message.body
        else .ok []) = Except.ok body := by
        rw [read]
        by_cases needed : req.body.needsStoredBody = true
        · exact ⟨message.body, if_pos needed⟩
        · exact ⟨[], if_neg needed⟩
      obtain ⟨body, found⟩ := body
      dsimp only
      rw [found, made]
      refine ⟨_, rfl, fun number => ?_⟩
      rw [answers_append, answers_fetchResponse, shown, List.exists_mem_cons_iff]
      refine or_congr_left' fun _ => ?_
      constructor
      · rintro rfl
        exact ⟨rfl, covered⟩
      · exact And.left
    · rw [if_neg covered]
      refine ⟨replies, made, fun number => ?_⟩
      rw [shown, List.exists_mem_cons_iff, or_iff_right]
      rintro ⟨rfl, other⟩
      exact covered other

/-- A message that is listed can be read. -/
theorem fetchMessageIn_listed {db : Db} {userId : Nat} {mailbox : String}
    {messages : List MessageMeta} (list : db.listMessagesIn userId mailbox = .ok messages)
    {info : MessageMeta} (member : info ∈ messages) :
    ∃ message, db.fetchMessageIn userId mailbox info.id = .ok message := by
  unfold Db.listMessagesIn at list
  unfold Db.fetchMessageIn
  cases named : db.mailboxNamed userId mailbox with
  | error =>
    rw [named] at list
    cases list
  | ok handle =>
    rw [named] at list
    rw [← Except.ok.inj list, List.mem_map] at member
    obtain ⟨⟨row, tx⟩, joined, rfl⟩ := member
    rw [List.mem_insertionSort] at joined
    have home := Table.exists_mem_leftJoin.mp ⟨tx, joined⟩
    have found : row ∈ (db.rowsIn handle.id).filter fun other => decide (other.id = row.id) :=
      List.mem_filter.mpr ⟨home, decide_eq_true rfl⟩
    have shown : ∃ linked, (row, linked) ∈ Table.leftJoin Db.linked
        ((db.rowsIn handle.id).filter fun other => decide (other.id = row.id)) db.transactions :=
      Table.exists_mem_leftJoin.mpr found
    obtain ⟨linked, some⟩ := shown
    dsimp only
    obtain ⟨first, others, read⟩ := List.exists_cons_of_ne_nil (List.ne_nil_of_mem some)
    have read : Table.leftJoin Db.linked ((db.rowsIn handle.id).filter fun other =>
        decide (other.id = (Db.rowToMeta handle.uidvalidity (row, tx)).id)) db.transactions =
        first :: others := read
    rw [read]
    exact ⟨_, rfl⟩

/-! ## FETCH and STORE -/

/-- The command is a FETCH, or a UID FETCH. -/
def isFetch (cmd : ParsedCommand) : Bool :=
  cmd.name == "FETCH" ||
    cmd.name == "UID" && cmd.args.head?.map toAsciiUppercase == some "FETCH"

/-- A FETCH in a selected mailbox shows the messages in its set. -/
theorem cmdFetch_answers (env : Environment) {session : Session}
    (selected : session.state = .selected) (db : Db) {cmd : ParsedCommand} {range items : String}
    (arguments : fetchArguments cmd = .ok (range, items)) (number : UInt32) :
    Answers number (cmdFetch env session db cmd) ↔
      (∃ info ∈ listing session db, info.uid = number) ∧
        inRange range number (messageCount session db) = true := by
  unfold cmdFetch listing messageCount
  rw [if_neg (not_not.mpr selected), arguments]
  cases list : db.listMessagesIn session.userId session.selectedMailbox with
  | error error =>
    simp only [List.not_mem_nil, false_and, exists_false, iff_false]
    exact not_answers_tagged number _ _ _
  | ok messages =>
    dsimp only
    obtain ⟨replies, made, shown⟩ := fetchMessages_answers env session db range
      (if cmd.name = "UID" then { parseFetchItems items with uid := true }
        else parseFetchItems items)
      (UInt32.ofNat messages.length) messages fun info member => fetchMessageIn_listed list member
    rw [made]
    dsimp only
    rw [answers_append, or_iff_left (not_answers_tagged number _ _ _), shown]
    constructor
    · rintro ⟨info, member, same, covered⟩
      exact ⟨⟨info, member, same⟩, covered⟩
    · rintro ⟨⟨info, member, same⟩, covered⟩
      exact ⟨info, member, same, covered⟩

/-- A FETCH with a mailbox selected is handled as one, and leaves session and store. -/
theorem handle_fetch (env : Environment) {session : Session} (selected : session.state = .selected)
    (db : Db) {cmd : ParsedCommand} (fetch : isFetch cmd = true) :
    handle env session db cmd = (cmdFetch env session db cmd, session, db) := by
  rcases Bool.or_eq_true_iff.mp fetch with plain | uid
  · have named : cmd.name = "FETCH" := eq_of_beq plain
    simp only [handle, named]
  · obtain ⟨named, sub⟩ := Bool.and_eq_true_iff.mp uid
    have named : cmd.name = "UID" := eq_of_beq named
    have sub := eq_of_beq sub
    simp only [handle, named]
    unfold cmdUid
    rw [if_neg (not_not.mpr selected)]
    cases first : cmd.args.head? with
    | none => simp [first] at sub
    | some word =>
      rw [first] at sub
      have upper : toAsciiUppercase word = "FETCH" := Option.some.inj sub
      simp only [upper]

/-- A STORE with a mailbox selected is handled as one, and leaves the session. -/
theorem handle_store (env : Environment) {session : Session} (selected : session.state = .selected)
    (db : Db) {cmd : ParsedCommand} (store : isStore cmd = true) :
    handle env session db cmd =
      ((cmdStore env session db cmd).1, session, (cmdStore env session db cmd).2) := by
  rcases Bool.or_eq_true_iff.mp store with plain | uid
  · have named : cmd.name = "STORE" := eq_of_beq plain
    simp only [handle, named]
  · obtain ⟨named, sub⟩ := Bool.and_eq_true_iff.mp uid
    have named : cmd.name = "UID" := eq_of_beq named
    have sub := eq_of_beq sub
    simp only [handle, named]
    unfold cmdUid
    rw [if_neg (not_not.mpr selected)]
    cases first : cmd.args.head? with
    | none => simp [first] at sub
    | some word =>
      rw [first] at sub
      have upper : toAsciiUppercase word = "STORE" := Option.some.inj sub
      simp only [upper]

/-- A row of the selected mailbox is listed, under its UID. -/
theorem listing_of_row {session : Session} {db : Db} (keyed : Keyed db) {row : MessageRow}
    (member : row ∈ db.messages)
    (inside : inMailbox db session.userId session.selectedMailbox row = true) :
    ∃ info ∈ listing session db, info.uid = UInt32.ofNat row.uid := by
  rcases mailboxNamed_cases keyed session.userId session.selectedMailbox with
    ⟨_, empty⟩ | ⟨handle, named, home⟩
  · rw [empty] at inside
    exact absurd inside Bool.false_ne_true
  · have home : row.mailboxId = handle.id := of_decide_eq_true ((home row).symm.trans inside)
    have found : row ∈ db.rowsIn handle.id := List.mem_filter.mpr ⟨member, decide_eq_true home⟩
    have joined : ∃ linked, (row, linked) ∈
        Table.leftJoin Db.linked (db.rowsIn handle.id) db.transactions :=
      Table.exists_mem_leftJoin.mpr found
    obtain ⟨linked, joined⟩ := joined
    refine ⟨Db.rowToMeta handle.uidvalidity (row, linked), ?_, rfl⟩
    unfold listing Db.listMessagesIn
    rw [named]
    exact List.mem_map.mpr ⟨_, (List.mem_insertionSort _).mpr joined, rfl⟩

/-! ## The value of `*` -/

/-- The largest UID of a list, zero for none. -/
def largestUid (messages : List MessageMeta) : UInt32 :=
  (messages.map MessageMeta.uid).foldr max 0

/-- The number that the server puts for `*`. -/
def starValue (session : Session) (db : Db) : UInt32 := max (messageCount session db) 1

/-- UID FETCH and UID STORE with a set affect the messages whose UIDs it denotes, with the largest
UID for `*`. -/
structure SelectsDenoted (env : Environment) (session : Session) (db : Db) (set : SequenceSet) :
    Prop where
  /-- A UID FETCH shows the messages that are denoted. -/
  fetch : ∀ (tag sub item : String) (items : List String) (number : UInt32),
    toAsciiUppercase sub = "FETCH" →
      (Answers number (handle env session db ⟨tag, "UID", sub :: set.text :: item :: items⟩).1 ↔
        (∃ info ∈ listing session db, info.uid = number) ∧
          set.denotes (largestUid (listing session db)) number = true)
  /-- A UID STORE changes the flags of the messages that are denoted, and nothing else. -/
  store : ∀ (tag sub mode flags : String) (more : List String),
    toAsciiUppercase sub = "STORE" → parseFlags flags ≠ 0 →
      (handle env session db
          ⟨tag, "UID", sub :: set.text :: mode :: flags :: more⟩).2.2.messages =
        db.messages.map fun row =>
          if inMailbox db session.userId session.selectedMailbox row &&
              set.denotes (largestUid (listing session db)) (UInt32.ofNat row.uid)
          then Db.changeFlags (parseFlags flags) (adds mode) row else row

/-- The right messages are affected just when the number of messages says the same of each of them
as the largest UID. -/
theorem selectsDenoted_iff_same (env : Environment) {session : Session}
    (selected : session.state = .selected) {db : Db} (keyed : Keyed db) (set : SequenceSet) :
    SelectsDenoted env session db set ↔ ∀ info ∈ listing session db,
      set.denotes (starValue session db) info.uid =
        set.denotes (largestUid (listing session db)) info.uid := by
  have read (number : UInt32) : inRange set.text number (messageCount session db) =
      set.denotes (starValue session db) number := inRange_text set number _
  have shown (tag sub item : String) (items : List String) (number : UInt32)
      (upper : toAsciiUppercase sub = "FETCH") :
      Answers number (handle env session db ⟨tag, "UID", sub :: set.text :: item :: items⟩).1 ↔
        (∃ info ∈ listing session db, info.uid = number) ∧
          set.denotes (starValue session db) number = true := by
    have fetch : isFetch ⟨tag, "UID", sub :: set.text :: item :: items⟩ = true := by
      simp [isFetch, upper]
    have arguments : fetchArguments ⟨tag, "UID", sub :: set.text :: item :: items⟩ =
        .ok (set.text, " ".intercalate (item :: items)) := by
      simp [fetchArguments, upper]
    rw [handle_fetch env selected db fetch, cmdFetch_answers env selected db arguments, read]
  constructor
  · intro selects info member
    have exact := (selects.fetch "" "FETCH" "" [] info.uid rfl).symm.trans
      (shown "" "FETCH" "" [] info.uid rfl)
    have both := and_congr_right_iff.mp exact ⟨info, member, rfl⟩
    exact Bool.eq_iff_iff.mpr both.symm
  · intro same
    constructor
    · intro tag sub item items number upper
      rw [shown tag sub item items number upper]
      refine and_congr_right fun ⟨info, member, named⟩ => ?_
      rw [← named, same info member]
    · intro tag sub mode flags more upper known
      have store : isStore ⟨tag, "UID", sub :: set.text :: mode :: flags :: more⟩ = true := by
        simp [isStore, upper]
      have arguments : storeArguments ⟨tag, "UID", sub :: set.text :: mode :: flags :: more⟩ =
          .ok (set.text, mode, flags) := by
        simp [storeArguments, upper]
      rw [handle_store env selected db store, cmdStore_messages env selected keyed]
      refine List.map_congr_left fun row member => ?_
      simp only [stored, arguments, covers, read]
      cases inside : inMailbox db session.userId session.selectedMailbox row with
      | false => rfl
      | true =>
        obtain ⟨info, shown, uid⟩ := listing_of_row keyed member inside
        rw [← uid, same info shown]

/-! ## Sets with `*` -/

/-- A part has `*` in it. -/
def SeqPart.starred : SeqPart → Bool
  | .single number => number = .star
  | .range first last => first = .star || last = .star

/-- The other end of a range to `*`. -/
def SeqPart.reach : SeqPart → Option UInt32
  | .range .star (.number value _) => some value
  | .range (.number value _) .star => some value
  | _ => none

/-- A set has `*` in it. -/
def SequenceSet.starred (set : SequenceSet) : Bool := set.parts.any SeqPart.starred

/-- A part without `*` denotes a number. -/
def SequenceSet.names (set : SequenceSet) (uid : UInt32) : Bool :=
  set.parts.any fun part => !part.starred && part.denotes 0 uid

/-- A range to `*` has its other end at a number or below it. -/
def SequenceSet.Below (set : SequenceSet) (uid : UInt32) : Prop :=
  ∃ part ∈ set.parts, ∃ value, part.reach = some value ∧ value ≤ uid

/-- A range to `*` has its other end at a number or above it. -/
def SequenceSet.Above (set : SequenceSet) (uid : UInt32) : Prop :=
  ∃ part ∈ set.parts, ∃ value, part.reach = some value ∧ uid ≤ value

/-- A UID is denoted with the one value of `*` as with the other, the largest UID: a part without
`*` names it, both values are larger, or the ranges to `*` lie so that the value does not matter. -/
def SequenceSet.Indifferent (set : SequenceSet) (value largest uid : UInt32) : Prop :=
  set.names uid = true ∨ (uid < value ∧ uid < largest) ∨
    if uid = value then set.Below uid
    else if uid = largest then if largest < value then set.Below uid else set.Above uid
    else (set.Above uid ↔ set.Below uid)

/-- What a part without `*` denotes does not depend on `*`. -/
theorem SeqPart.denotes_plain {part : SeqPart} (plain : part.starred = false)
    (star other uid : UInt32) : part.denotes star uid = part.denotes other uid := by
  cases part with
  | single number =>
    cases number with
    | star => simp [SeqPart.starred] at plain
    | number value _ => rfl
  | range first last =>
    cases first with
    | star => simp [SeqPart.starred] at plain
    | number value _ =>
      cases last with
      | star => simp [SeqPart.starred] at plain
      | number value _ => rfl

/-- A number is between two numbers, in whichever order they are given. -/
theorem between_iff (first last uid : UInt32) :
    (min first last ≤ uid && uid ≤ max first last) = true ↔
      (first ≤ uid ∧ uid ≤ last) ∨ (last ≤ uid ∧ uid ≤ first) := by
  rw [Bool.and_eq_true, decide_eq_true_iff, decide_eq_true_iff, UInt32.le_iff_toNat_le,
    UInt32.le_iff_toNat_le, toNat_min, toNat_max, UInt32.le_iff_toNat_le, UInt32.le_iff_toNat_le,
    UInt32.le_iff_toNat_le, UInt32.le_iff_toNat_le]
  omega

/-- What a part with `*` denotes. -/
theorem SeqPart.denotes_starred {part : SeqPart} (starred : part.starred = true)
    (star uid : UInt32) :
    part.denotes star uid = true ↔ uid = star ∨
      (uid < star ∧ ∃ value, part.reach = some value ∧ value ≤ uid) ∨
      (star < uid ∧ ∃ value, part.reach = some value ∧ uid ≤ value) := by
  have ranges (value : UInt32) :
      ((value ≤ uid ∧ uid ≤ star) ∨ (star ≤ uid ∧ uid ≤ value)) ↔ uid = star ∨
        (uid < star ∧ ∃ other, some value = some other ∧ other ≤ uid) ∨
        (star < uid ∧ ∃ other, some value = some other ∧ uid ≤ other) := by
    simp only [Option.some.injEq, exists_eq_left']
    simp only [UInt32.le_iff_toNat_le, UInt32.lt_iff_toNat_lt, ← UInt32.toNat_inj]
    omega
  have alone : uid = star ↔ uid = star ∨
      (uid < star ∧ ∃ other, (none : Option UInt32) = some other ∧ other ≤ uid) ∨
      (star < uid ∧ ∃ other, (none : Option UInt32) = some other ∧ uid ≤ other) := by simp
  cases part with
  | single number =>
    cases number with
    | star => exact beq_iff_eq.trans alone
    | number value _ => simp [SeqPart.starred] at starred
  | range first last =>
    refine (between_iff _ _ _).trans ?_
    cases first with
    | star =>
      cases last with
      | star =>
        refine Iff.trans ?_ alone
        simp only [SeqNumber.value, or_self, UInt32.le_iff_toNat_le, ← UInt32.toNat_inj]
        omega
      | number value _ => exact Or.comm.trans (ranges value)
    | number value _ =>
      cases last with
      | star => exact ranges value
      | number value _ => simp [SeqPart.starred] at starred

/-- A set denotes a number that it names, the star if it has one, and what is between the two. -/
theorem SequenceSet.denotes_iff (set : SequenceSet) (star uid : UInt32) :
    set.denotes star uid = true ↔ set.names uid = true ∨ (set.starred = true ∧ uid = star) ∨
      (uid < star ∧ set.Below uid) ∨ (star < uid ∧ set.Above uid) := by
  have reaches {part : SeqPart} {value : UInt32} (some : part.reach = some value) :
      part.starred = true := by
    cases part with
    | single number => simp [SeqPart.reach] at some
    | range first last =>
      cases first with
      | star => rfl
      | number value _ =>
        cases last with
        | star => rfl
        | number value _ => simp [SeqPart.reach] at some
  unfold SequenceSet.denotes SequenceSet.names SequenceSet.starred SequenceSet.Below
    SequenceSet.Above
  simp only [List.any_eq_true, Bool.and_eq_true, Bool.not_eq_true']
  constructor
  · rintro ⟨part, member, denoted⟩
    cases starred : part.starred with
    | false =>
      exact .inl ⟨part, member, starred, SeqPart.denotes_plain starred star 0 uid ▸ denoted⟩
    | true =>
      rcases (SeqPart.denotes_starred starred star uid).mp denoted with same |
        ⟨less, value, reach, le⟩ | ⟨more, value, reach, le⟩
      · exact .inr (.inl ⟨⟨part, member, starred⟩, same⟩)
      · exact .inr (.inr (.inl ⟨less, part, member, value, reach, le⟩))
      · exact .inr (.inr (.inr ⟨more, part, member, value, reach, le⟩))
  · rintro (⟨part, member, plain, denoted⟩ | ⟨⟨part, member, starred⟩, same⟩ |
      ⟨less, part, member, value, reach, le⟩ | ⟨more, part, member, value, reach, le⟩)
    · exact ⟨part, member, SeqPart.denotes_plain plain 0 star uid ▸ denoted⟩
    · exact ⟨part, member, (SeqPart.denotes_starred starred star uid).mpr (.inl same)⟩
    · exact ⟨part, member, (SeqPart.denotes_starred (reaches reach) star uid).mpr
        (.inr (.inl ⟨less, value, reach, le⟩))⟩
    · exact ⟨part, member, (SeqPart.denotes_starred (reaches reach) star uid).mpr
        (.inr (.inr ⟨more, value, reach, le⟩))⟩

/-- Two numbers can be compared. -/
theorem compared (left right : UInt32) : left < right ∨ left = right ∨ right < left := by
  simp only [UInt32.lt_iff_toNat_lt, ← UInt32.toNat_inj]
  omega

/-- A set without `*` denotes the same whatever its value is. -/
theorem SequenceSet.denotes_plain {set : SequenceSet} (plain : set.starred = false)
    (star other uid : UInt32) : set.denotes star uid = set.denotes other uid := by
  unfold SequenceSet.denotes
  rw [Bool.eq_iff_iff, List.any_eq_true, List.any_eq_true]
  refine exists_congr fun part => and_congr_right fun member => ?_
  have part : part.starred = false := by
    have all := List.any_eq_false.mp plain part member
    simpa using all
  rw [SeqPart.denotes_plain part star other]

/-- A UID is denoted alike with both values of `*` just when the set has none, the values are the
same, or the set is indifferent to it. -/
theorem SequenceSet.same_iff (set : SequenceSet) {value largest uid : UInt32}
    (within : uid ≤ largest) :
    set.denotes value uid = set.denotes largest uid ↔
      set.starred = false ∨ value = largest ∨ set.Indifferent value largest uid := by
  cases starred : set.starred with
  | false => simp [SequenceSet.denotes_plain starred value largest]
  | true =>
    by_cases same : value = largest
    · simp [same]
    · rw [or_iff_right Bool.noConfusion, or_iff_right same, Bool.eq_iff_iff, set.denotes_iff,
        set.denotes_iff, starred]
      unfold SequenceSet.Indifferent
      rcases UInt32.lt_or_eq_of_le within with below | rfl
      · have notLargest : uid ≠ largest := UInt32.ne_of_lt below
        have notAbove : ¬largest < uid := UInt32.lt_asymm below
        rcases compared uid value with less | rfl | more
        · have notValue : uid ≠ value := UInt32.ne_of_lt less
          have notMore : ¬value < uid := UInt32.lt_asymm less
          simp [below, notLargest, notAbove, less, notValue, notMore]
        · simp [below, notLargest, notAbove]
        · have notValue : uid ≠ value := (UInt32.ne_of_lt more).symm
          have notLess : ¬uid < value := UInt32.lt_asymm more
          simp only [below, notLargest, notAbove, more, notValue, notLess]
          simp only [and_false, false_and, true_and, false_or, or_false, if_false]
          tauto
      · rcases compared uid value with less | same' | more
        · have notValue : uid ≠ value := UInt32.ne_of_lt less
          have notMore : ¬value < uid := UInt32.lt_asymm less
          simp [less, notValue, notMore]
        · exact absurd same'.symm same
        · have notValue : uid ≠ value := (UInt32.ne_of_lt more).symm
          have notLess : ¬uid < value := UInt32.lt_asymm more
          simp [more, notValue, notLess]

/-- Every UID of a list is at most the largest. -/
theorem le_largestUid {messages : List MessageMeta} {info : MessageMeta}
    (member : info ∈ messages) : info.uid ≤ largestUid messages := by
  unfold largestUid
  induction messages with
  | nil => exact absurd member List.not_mem_nil
  | cons first rest ih =>
    rw [List.map_cons, List.foldr_cons, UInt32.le_iff_toNat_le, toNat_max]
    rcases List.mem_cons.mp member with rfl | later
    · exact Nat.le_max_left _ _
    · exact (UInt32.le_iff_toNat_le.mp (ih later)).trans (Nat.le_max_right _ _)

/-- The largest UID of a list is that of a message. -/
theorem exists_largestUid {messages : List MessageMeta} (some : messages ≠ []) :
    ∃ info ∈ messages, info.uid = largestUid messages := by
  induction messages with
  | nil => exact absurd rfl some
  | cons first rest ih =>
    have whole : largestUid (first :: rest) = max first.uid (largestUid rest) := rfl
    rw [whole]
    change ∃ info ∈ first :: rest, info.uid = if first.uid ≤ largestUid rest then _ else _
    by_cases ordered : first.uid ≤ largestUid rest
    · rw [if_pos ordered]
      by_cases empty : rest = []
      · subst empty
        have zero : first.uid = 0 := UInt32.le_zero_iff.mp ordered
        exact ⟨first, List.mem_cons_self, zero⟩
      · obtain ⟨info, member, same⟩ := ih empty
        exact ⟨info, List.mem_cons_of_mem _ member, same⟩
    · rw [if_neg ordered]
      exact ⟨first, List.mem_cons_self, rfl⟩

/-- The value of `*` does not matter to a set in a mailbox: the set has no `*`, the mailbox is
empty, it has as many messages as its largest UID says, or the set is indifferent to each. -/
def Settled (session : Session) (db : Db) (set : SequenceSet) : Prop :=
  set.starred = false ∨ listing session db = [] ∨
    starValue session db = largestUid (listing session db) ∨
    ∀ info ∈ listing session db,
      set.Indifferent (starValue session db) (largestUid (listing session db)) info.uid

/-- UID FETCH and UID STORE affect exactly the messages that a set denotes where the value of `*`
does not matter to it; they do so for every set where the mailbox is empty or has as many messages
as its largest UID says. -/
theorem uid_sets_exact_iff (env : Environment) {session : Session}
    (selected : session.state = .selected) {db : Db} (keyed : Keyed db) :
    (∀ set, SelectsDenoted env session db set ↔ Settled session db set) ∧
    ((∀ set, SelectsDenoted env session db set) ↔
      listing session db = [] ∨ starValue session db = largestUid (listing session db)) := by
  have exact (set : SequenceSet) : SelectsDenoted env session db set ↔ Settled session db set := by
    rw [selectsDenoted_iff_same env selected keyed]
    have each (info : MessageMeta) (member : info ∈ listing session db) :=
      @SequenceSet.same_iff set (starValue session db) _ _ (le_largestUid member)
    rw [forall₂_congr each, Settled]
    constructor
    · intro all
      by_cases starred : set.starred = false
      · exact .inl starred
      · by_cases same : starValue session db = largestUid (listing session db)
        · exact .inr (.inr (.inl same))
        · refine .inr (.inr (.inr fun info member => ?_))
          have one := all info member
          rwa [or_iff_right starred, or_iff_right same] at one
    · rintro (plain | empty | same | indifferent) info member
      · exact .inl plain
      · rw [empty] at member
        exact absurd member List.not_mem_nil
      · exact .inr (.inl same)
      · exact .inr (.inr (indifferent info member))
  refine ⟨exact, fun all => ?_, fun usual set => (exact set).mpr ?_⟩
  · by_cases empty : listing session db = []
    · exact .inl empty
    · -- The set `*` tells the two values apart by the message with the largest UID.
      have alone := (selectsDenoted_iff_same env selected keyed _).mp
        (all ⟨[.single .star], List.cons_ne_nil _ _⟩)
      obtain ⟨info, member, last⟩ := exists_largestUid empty
      have same := alone info member
      simp only [SequenceSet.denotes, List.any_cons, List.any_nil, SeqPart.denotes,
        SeqNumber.value, Bool.or_false, last, beq_self_eq_true, beq_iff_eq] at same
      exact .inr same.symm
  · rcases usual with empty | same
    · exact .inr (.inl empty)
    · exact .inr (.inr (.inl same))

/-- Bob's store after two messages, the first of which is expunged. -/
def expunged : Db :=
  Transition.run (apply noTemplate "b.io") .empty
    [createBob, .deliver (invoice "m1") 0, .deliver (invoice "m2") 0,
      .setFlags 1 inbox 1 MessageFlags.deleted true, .expunge 1 inbox]

/-- The keys of the expunged store are unique. -/
theorem keyed_expunged : Keyed expunged := by
  have kept : ∀ db operation, Keyed db → Keyed (apply noTemplate "b.io" db operation) :=
    fun _ operation keyed => keyed_apply noTemplate "b.io" keyed operation
  exact Transition.run_invariant kept keyed_empty _

/-- One is not zero. -/
theorem one_nonzero : (1 : UInt32) ≠ 0 := by decide

/-- The set `1:*`. -/
def allMessages : SequenceSet := ⟨[.range (.number 1 one_nonzero) .star], List.cons_ne_nil _ _⟩

/-- The set `1`. -/
def firstUid : SequenceSet := ⟨[.single (.number 1 one_nonzero)], List.cons_ne_nil _ _⟩

/-- A set without `*` is exact after the expunge. -/
theorem uid_set_one_exact :
    SelectsDenoted groupEnvironment (bobSelected inbox) expunged firstUid :=
  ((@uid_sets_exact_iff groupEnvironment (bobSelected inbox) rfl _ keyed_expunged).1 _).mpr
    (.inl rfl)

/-- After the expunge `1:*` misses the message that is left, which has UID 2. -/
theorem uid_fetch_all_misses :
    (listing (bobSelected inbox) expunged).map MessageMeta.uid = [2] ∧
      allMessages.text = "1:*" ∧
      ¬SelectsDenoted groupEnvironment (bobSelected inbox) expunged allMessages := by
  have one : (listing (bobSelected inbox) expunged).map MessageMeta.uid = [2] := by decide +kernel
  refine ⟨one, by decide +kernel, fun selects => ?_⟩
  have same := (selectsDenoted_iff_same groupEnvironment rfl keyed_expunged allMessages).mp selects
  have different : ¬∀ info ∈ listing (bobSelected inbox) expunged,
      allMessages.denotes (starValue (bobSelected inbox) expunged) info.uid =
        allMessages.denotes (largestUid (listing (bobSelected inbox) expunged)) info.uid := by
    decide +kernel
  exact different same

/-! ## Texts that are no set -/

/-- The number that a text is. -/
def SeqNumber.ofText (text : String) : Option SeqNumber :=
  if text = "*" then some .star
  else match parseUnsigned (2 ^ 32) text with
  | none => none
  | some value =>
    -- A number has no sign and no leading zeros.
    if canonical : UInt32.ofNat value ≠ 0 ∧ toString (UInt32.ofNat value) = text then
      some (.number (UInt32.ofNat value) canonical.1)
    else none

/-- The part that a text is. -/
def SeqPart.ofText (text : String) : Option SeqPart :=
  match splitOnce ':' text with
  | some (first, last) =>
    (SeqNumber.ofText first).bind fun first => (SeqNumber.ofText last).map fun last =>
      .range first last
  | none => (SeqNumber.ofText text).map .single

/-- A text is a set: it is one part after the other. -/
def isSet (text : String) : Bool := (split ',' text).all fun part => (SeqPart.ofText part).isSome

/-- A number is read back. -/
theorem ofText_number (number : SeqNumber) : SeqNumber.ofText number.text = some number := by
  unfold SeqNumber.ofText
  cases number with
  | star => rfl
  | number value nonzero =>
    have digit := toString_ne_star value
    have read : parseUnsigned (2 ^ 32) (toString value) = some value.toNat :=
      parseUnsigned_toString value.toNat_lt
    rw [SeqNumber.text, if_neg digit, read]
    simp [nonzero]

/-- A text that is read as a number is the number's. -/
theorem text_of_number {text : String} {number : SeqNumber}
    (read : SeqNumber.ofText text = some number) : number.text = text := by
  unfold SeqNumber.ofText at read
  by_cases star : text = "*"
  · rw [if_pos star] at read
    rw [← Option.some.inj read, star]
    rfl
  · rw [if_neg star] at read
    cases parsed : parseUnsigned (2 ^ 32) text with
    | none =>
      rw [parsed] at read
      cases read
    | some value =>
      rw [parsed] at read
      dsimp only at read
      by_cases canonical : UInt32.ofNat value ≠ 0 ∧ toString (UInt32.ofNat value) = text
      · rw [dif_pos canonical] at read
        rw [← Option.some.inj read]
        exact canonical.2
      · simp [dif_neg canonical] at read

/-- A part is read back. -/
theorem ofText_part (part : SeqPart) : SeqPart.ofText part.text = some part := by
  unfold SeqPart.ofText
  cases part with
  | single number =>
    rw [SeqPart.text, number.splitOnce_text]
    dsimp only
    rw [ofText_number]
    rfl
  | range first last =>
    rw [SeqPart.text, first.splitOnce_range last]
    dsimp only
    rw [ofText_number, ofText_number]
    rfl

/-- A text that is read as a part is the part's. -/
theorem text_of_part {text : String} {part : SeqPart} (read : SeqPart.ofText text = some part) :
    part.text = text := by
  unfold SeqPart.ofText at read
  cases split : splitOnce ':' text with
  | none =>
    rw [split] at read
    obtain ⟨number, found, rfl⟩ := Option.map_eq_some_iff.mp read
    exact text_of_number found
  | some pair =>
    obtain ⟨left, right⟩ := pair
    rw [split] at read
    obtain ⟨first, foundFirst, read⟩ := Option.bind_eq_some_iff.mp read
    obtain ⟨last, foundLast, rfl⟩ := Option.map_eq_some_iff.mp read
    rw [SeqPart.text, text_of_number foundFirst, text_of_number foundLast]
    obtain ⟨⟨before, after⟩, cut, same⟩ := Option.map_eq_some_iff.mp split
    have whole := splitFirst_eq cut
    obtain ⟨rfl, rfl⟩ := Prod.mk.inj same
    rw [← String.toList_inj, whole]
    simp

/-- Texts that are parts are the texts of parts. -/
theorem exists_parts {texts : List String}
    (read : ∀ text ∈ texts, (SeqPart.ofText text).isSome = true) :
    ∃ parts : List SeqPart, parts.map SeqPart.text = texts := by
  induction texts with
  | nil => exact ⟨[], rfl⟩
  | cons text rest ih =>
    obtain ⟨parts, same⟩ := ih fun other member => read other (List.mem_cons_of_mem _ member)
    obtain ⟨part, found⟩ := Option.isSome_iff_exists.mp (read text List.mem_cons_self)
    exact ⟨part :: parts, by rw [List.map_cons, text_of_part found, same]⟩

/-- The texts that are sets are the texts of sets. -/
theorem isSet_iff (text : String) : isSet text = true ↔ ∃ set : SequenceSet, set.text = text := by
  constructor
  · intro read
    obtain ⟨parts, same⟩ := exists_parts (List.all_eq_true.mp read)
    have nonempty : parts ≠ [] := by
      rintro rfl
      have none : (text.toList.splitOn ',').map String.ofList = [] := same.symm
      exact List.splitOn_ne_nil ',' text.toList (List.map_eq_nil_iff.mp none)
    refine ⟨⟨parts, nonempty⟩, ?_⟩
    rw [SequenceSet.text, same, ← String.toList_inj, String.toList_intercalate, split, List.map_map]
    have pieces : (text.toList.splitOn ',').map (String.toList ∘ String.ofList) =
        text.toList.splitOn ',' := by simp
    rw [pieces]
    exact List.intercalate_splitOn ','
  · rintro ⟨set, rfl⟩
    rw [isSet, split_text, List.all_map, List.all_eq_true]
    intro part _
    simp [ofText_part]

/-- Garbage, empty parts, zero, leading zeros, signs and numbers that are too large, anywhere. -/
example : ["", "x", "1,,2", "1:", "1,0", "01", "+1",
    "4294967296"].all (fun text => !isSet text) = true := by decide +kernel

/-! ## Commands without a set -/

/-- The set argument of a FETCH or a STORE. -/
def setArgument (cmd : ParsedCommand) : Option String :=
  if cmd.name = "UID" then cmd.args[1]? else cmd.args[0]?

/-- The flag list of a STORE. -/
def flagArgument (cmd : ParsedCommand) : String :=
  ((if cmd.name = "UID" then cmd.args[3]? else cmd.args[2]?).getD "")

/-- A command is answered with BAD, and changes no message. -/
def Refused (env : Environment) (session : Session) (db : Db) (cmd : ParsedCommand) : Prop :=
  (∃ text, (handle env session db cmd).1 = [.tagged cmd.tag .bad text]) ∧
    (handle env session db cmd).2.2.messages = db.messages

/-- A command whose set argument is no set is refused. -/
def RefusesMalformed (env : Environment) (session : Session) (db : Db) (cmd : ParsedCommand) :
    Prop :=
  ∀ text, setArgument cmd = some text → (∀ set : SequenceSet, set.text ≠ text) →
    Refused env session db cmd

/-- A command lacks its data items, or its mode or its flags. -/
def lacksArguments (cmd : ParsedCommand) : Bool :=
  if isStore cmd then decide (cmd.args.length < if cmd.name = "UID" then 4 else 3)
  else cmd.name == "UID" && decide (cmd.args.length < 3)

/-- A STORE names no supported flag, in a mailbox that can be listed. -/
def namesNoFlag (session : Session) (db : Db) (cmd : ParsedCommand) : Bool :=
  isStore cmd && parseFlags (flagArgument cmd) == 0 &&
    (db.listMessagesIn session.userId session.selectedMailbox).isOk

/-- A response that ends with another completion is not a single BAD. -/
theorem not_bad_of_last {replies : List Reply} {tag other text word : String} {status : Status}
    (differs : status ≠ .bad) :
    replies ++ [.tagged other status word] ≠ [.tagged tag .bad text] := by
  intro same
  have last := congrArg List.getLast? same
  rw [List.getLast?_concat, List.getLast?_singleton] at last
  exact differs (Reply.tagged.inj (Option.some.inj last)).2.1

/-- One reply that is not BAD. -/
theorem not_bad_alone {tag other text word : String} {status : Status} (differs : status ≠ .bad) :
    [Reply.tagged other status word] ≠ [.tagged tag .bad text] := by
  have last := @not_bad_of_last [] tag other text word status differs
  rwa [List.nil_append] at last

/-- A FETCH is answered with BAD when its arguments are not complete. -/
theorem cmdFetch_bad_iff (env : Environment) {session : Session}
    (selected : session.state = .selected) (db : Db) (cmd : ParsedCommand) :
    (∃ text, cmdFetch env session db cmd = [.tagged cmd.tag .bad text]) ↔
      ∃ text, fetchArguments cmd = .error text := by
  unfold cmdFetch
  rw [if_neg (not_not.mpr selected)]
  cases arguments : fetchArguments cmd with
  | error text => exact iff_of_true ⟨text, rfl⟩ ⟨text, rfl⟩
  | ok found =>
    obtain ⟨range, items⟩ := found
    refine iff_of_false ?_ nofun
    rintro ⟨text, bad⟩
    dsimp only at bad
    cases list : db.listMessagesIn session.userId session.selectedMailbox with
    | error error =>
      rw [list] at bad
      exact not_bad_alone (by decide) bad
    | ok messages =>
      rw [list] at bad
      dsimp only at bad
      generalize fetchMessages env session db range _ _ messages = made at bad
      cases made with
      | error error => exact not_bad_alone (by decide) bad
      | ok replies => exact not_bad_of_last (by decide) bad

/-- A STORE is answered with BAD when its arguments are not complete, or it names no supported flag
in a mailbox that can be listed; then it changes nothing. -/
theorem cmdStore_bad_iff (env : Environment) {session : Session}
    (selected : session.state = .selected) (db : Db) (cmd : ParsedCommand) :
    ((∃ text, (cmdStore env session db cmd).1 = [.tagged cmd.tag .bad text]) ∧
        (cmdStore env session db cmd).2.messages = db.messages) ↔
      match storeArguments cmd with
      | .error _ => True
      | .ok (_, _, flags) => parseFlags flags = 0 ∧
          (db.listMessagesIn session.userId session.selectedMailbox).isOk = true := by
  unfold cmdStore
  rw [if_neg (not_not.mpr selected)]
  cases arguments : storeArguments cmd with
  | error text => exact iff_of_true ⟨⟨text, rfl⟩, rfl⟩ trivial
  | ok found =>
    obtain ⟨range, mode, flags⟩ := found
    dsimp only
    cases list : db.listMessagesIn session.userId session.selectedMailbox with
    | error error =>
      refine iff_of_false ?_ (by simp [Except.isOk, Except.toBool])
      rintro ⟨⟨text, bad⟩, _⟩
      exact not_bad_alone (by decide) bad
    | ok messages =>
      dsimp only
      by_cases zero : parseFlags flags = 0
      · rw [if_pos zero]
        exact iff_of_true ⟨⟨_, rfl⟩, rfl⟩ ⟨zero, rfl⟩
      · rw [if_neg zero]
        refine iff_of_false ?_ fun both => zero both.1
        rintro ⟨⟨text, bad⟩, _⟩
        generalize storeMessages session range _ _ _ messages db = made at bad
        obtain ⟨outcome, after⟩ := made
        cases outcome with
        | error error => exact not_bad_alone (by decide) bad
        | ok replies => exact not_bad_of_last (by decide) bad

/-- A FETCH with a set argument is refused when it lacks its data items, whatever the set is. -/
theorem refused_fetch_iff (env : Environment) {session : Session}
    (selected : session.state = .selected) (db : Db) {cmd : ParsedCommand}
    (fetch : isFetch cmd = true) {text : String} (argument : setArgument cmd = some text) :
    Refused env session db cmd ↔ lacksArguments cmd = true := by
  have refused : Refused env session db cmd ↔ ∃ text, fetchArguments cmd = .error text := by
    unfold Refused
    rw [handle_fetch env selected db fetch, ← cmdFetch_bad_iff env selected db cmd]
    exact and_iff_left rfl
  rw [refused]
  obtain ⟨tag, name, args⟩ := cmd
  unfold setArgument at argument
  unfold lacksArguments fetchArguments
  dsimp only at argument ⊢
  rcases Bool.or_eq_true_iff.mp fetch with plain | uid
  · obtain rfl : name = "FETCH" := eq_of_beq plain
    have other : ("FETCH" = "UID") = False := by decide
    simp only [other, and_false, true_or, ↓reduceIte]
    cases args with
    | nil => simp at argument
    | cons first rest =>
      cases rest with
      | nil => simp [isStore]
      | cons second rest => simp [isStore]
  · obtain ⟨named, sub⟩ := Bool.and_eq_true_iff.mp uid
    obtain rfl : name = "UID" := eq_of_beq named
    have sub : args.head?.map toAsciiUppercase = some "FETCH" := eq_of_beq sub
    have noStore : isStore ⟨tag, "UID", args⟩ = false := by simp [isStore, sub]
    rw [noStore, sub]
    rcases args with _ | ⟨word, _ | ⟨set, _ | ⟨item, rest⟩⟩⟩
    · simp at sub
    · simp at argument
    · simp
    · simp

/-- A STORE with a set argument is refused when it lacks its mode or its flags, or when it names no
supported flag, whatever the set is. -/
theorem refused_store_iff (env : Environment) {session : Session}
    (selected : session.state = .selected) (db : Db) {cmd : ParsedCommand}
    (store : isStore cmd = true) :
    Refused env session db cmd ↔ lacksArguments cmd = true ∨ namesNoFlag session db cmd = true := by
  have refused := cmdStore_bad_iff env selected db cmd
  unfold Refused
  rw [handle_store env selected db store, refused]
  unfold lacksArguments namesNoFlag flagArgument
  rw [store]
  obtain ⟨tag, name, args⟩ := cmd
  unfold storeArguments
  dsimp only
  rcases Bool.or_eq_true_iff.mp store with plain | uid
  · obtain rfl : name = "STORE" := eq_of_beq plain
    have other : ("STORE" = "UID") = False := by decide
    simp only [other, and_false, true_or, ↓reduceIte]
    rcases args with _ | ⟨set, _ | ⟨mode, _ | ⟨flags, rest⟩⟩⟩
    · simp
    · simp
    · simp
    · simp
  · obtain ⟨named, sub⟩ := Bool.and_eq_true_iff.mp uid
    obtain rfl : name = "UID" := eq_of_beq named
    have sub : args.head?.map toAsciiUppercase = some "STORE" := eq_of_beq sub
    simp only [sub, and_self, ↓reduceIte]
    rcases args with _ | ⟨word, _ | ⟨set, _ | ⟨mode, _ | ⟨flags, rest⟩⟩⟩⟩
    · simp at sub
    · simp
    · simp
    · simp
    · simp

/-- A FETCH or STORE with a malformed set is refused, without any effect, just when its set is
well-formed after all, or it would be refused with any set: it lacks arguments, or it names no
supported flag. -/
theorem malformed_sets_refused_iff (env : Environment) {session : Session}
    (selected : session.state = .selected) (db : Db) {cmd : ParsedCommand}
    (addressed : isFetch cmd = true ∨ isStore cmd = true) :
    RefusesMalformed env session db cmd ↔
      (∀ text, setArgument cmd = some text → isSet text = true) ∨
        lacksArguments cmd = true ∨ namesNoFlag session db cmd = true := by
  have refused (text : String) (argument : setArgument cmd = some text) :
      Refused env session db cmd ↔
        lacksArguments cmd = true ∨ namesNoFlag session db cmd = true := by
    cases store : isStore cmd with
    | true => exact refused_store_iff env selected db store
    | false =>
      have fetch : isFetch cmd = true := addressed.resolve_right (by simp [store])
      rw [refused_fetch_iff env selected db fetch argument]
      simp [namesNoFlag, store]
  have malformed (text : String) : (∀ set : SequenceSet, set.text ≠ text) ↔ isSet text ≠ true := by
    rw [ne_eq, isSet_iff, not_exists]
  constructor
  · intro refuses
    by_cases wellFormed : ∀ text, setArgument cmd = some text → isSet text = true
    · exact .inl wellFormed
    · obtain ⟨text, given⟩ := not_forall.mp wellFormed
      obtain ⟨argument, noSet⟩ := Classical.not_imp.mp given
      exact .inr ((refused text argument).mp (refuses text argument ((malformed text).mpr noSet)))
  · rintro (wellFormed | always) text argument noSet
    · exact absurd (wellFormed text argument) ((malformed text).mp noSet)
    · exact (refused text argument).mpr always

/-- A command without flags is refused with any set. -/
theorem bare_store_refused :
    RefusesMalformed groupEnvironment (bobSelected inbox) Deletion.namesake
      ⟨"A1", "STORE", ["x"]⟩ :=
  (@malformed_sets_refused_iff groupEnvironment (bobSelected inbox) rfl Deletion.namesake _
    (.inr rfl)).mpr (.inr (.inl rfl))

/-- Garbage for a set deletes the message with UID 1. -/
theorem garbage_marks_message :
    ¬RefusesMalformed groupEnvironment (bobSelected inbox) Deletion.namesake
        ⟨"A1", "STORE", ["x", "+FLAGS", "(\\Deleted)"]⟩ ∧
      (handle groupEnvironment (bobSelected inbox) Deletion.namesake
        ⟨"A1", "STORE", ["x", "+FLAGS", "(\\Deleted)"]⟩).2.2.messages.map isDeleted = [true] := by
  have marked : (handle groupEnvironment (bobSelected inbox) Deletion.namesake
      ⟨"A1", "STORE", ["x", "+FLAGS", "(\\Deleted)"]⟩).2.2.messages.map isDeleted = [true] := by
    decide +kernel
  have before : Deletion.namesake.messages.map isDeleted = [false] := by decide +kernel
  have noSet : ∀ set : SequenceSet, set.text ≠ "x" := by
    intro set same
    have read := (isSet_iff "x").mpr ⟨set, same⟩
    exact absurd read (by decide +kernel)
  refine ⟨fun refuses => ?_, marked⟩
  rw [(refuses "x" rfl noSet).2, before] at marked
  exact absurd marked (by decide)

end Talk.Verif.SequenceSets
