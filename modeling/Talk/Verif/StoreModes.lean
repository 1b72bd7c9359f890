import Talk.Lib.Words
import Talk.Verif.SequenceNumbers

/-!
# The modes of a STORE

A STORE replaces, adds or removes flags. The server looks for a minus sign only, so the mode `FLAGS`
adds; it replaces the flags of a message just when all of these are among the new ones. What it
shows of a message is what it then stores.
-/

namespace Talk.Verif.StoreModes

open Imap ImapSteps Mailstore SelectedMailbox SequenceNumbers SequenceSets StoreSteps Text

/-! ## Modes and flags -/

/-- The mode of a STORE. -/
inductive Mode where
  /-- `FLAGS`. -/
  | replace
  /-- `+FLAGS`. -/
  | add
  /-- `-FLAGS`. -/
  | remove
  deriving DecidableEq

/-- The text of a mode, in uppercase. -/
def Mode.word : Mode → String
  | .replace => "FLAGS"
  | .add => "+FLAGS"
  | .remove => "-FLAGS"

/-- What a mode makes of the flags of a message. -/
def Mode.apply (mode : Mode) (mask : UInt32) (flags : MessageFlags) : MessageFlags :=
  match mode with
  | .replace => ⟨mask⟩
  | .add => flags.insert mask
  | .remove => flags.remove mask

/-- The names of the flags that are supported, in uppercase and without the backslash. -/
def flagWords : List String := ["SEEN", "ANSWERED", "FLAGGED", "DELETED"]

/-- A supported flag in any case. -/
def IsFlag (name : String) : Prop := ∃ word ∈ flagWords, toAsciiUppercase name = "\\" ++ word

/-- The flags of a list. -/
def maskOf (names : List String) : UInt32 :=
  (names.map fun name => flagBit (stripStart "\\" name |>.getD "")).foldl (· ||| ·) 0

/-- A parenthesised list of flags. -/
def listText (names : List String) : String := "(" ++ " ".intercalate names ++ ")"

/-- What a STORE is told: the set, the mode and the flags. An empty list goes with `FLAGS` only. -/
structure Change where
  /-- The sequence set. -/
  set : SequenceSet
  /-- The mode. -/
  mode : Mode
  /-- The mode as it is written. -/
  modeText : String
  /-- The case of the mode does not matter. -/
  spelled : toAsciiUppercase modeText = mode.word
  /-- The flags as they are written. -/
  names : List String
  /-- Each is supported. -/
  supported : ∀ name ∈ names, IsFlag name
  /-- There is one, unless the flags are replaced. -/
  some : mode = .replace ∨ names ≠ []

/-- A STORE or a UID STORE with this change. -/
inductive Stores (change : Change) : ParsedCommand → Prop
  /-- STORE. -/
  | plain (tag : String) :
    Stores change ⟨tag, "STORE", [change.set.text, change.modeText, listText change.names]⟩
  /-- UID STORE. -/
  | uid (tag sub : String) (upper : toAsciiUppercase sub = "STORE") :
    Stores change ⟨tag, "UID", [sub, change.set.text, change.modeText, listText change.names]⟩

/-- The response that shows the flags of a message. -/
def shows (row : MessageRow) : Reply :=
  .untagged (toString (UInt32.ofNat row.uid) ++ " FETCH (FLAGS (" ++ flagsDisplay row.flags ++ "))")

/-- A STORE changes the flags of the messages it addresses as its mode says, changes nothing else,
and shows the flags that are then stored. -/
structure Performs (env : Environment) (session : Session) (db : Db) (change : Change)
    (cmd : ParsedCommand) : Prop where
  /-- The messages that are addressed get the flags; the others stay as they are. -/
  flags : (handle env session db cmd).2.2.messages = db.messages.map fun row =>
    if covers session db change.set.text row then
      { row with flags := change.mode.apply (maskOf change.names) row.flags }
    else row
  /-- A response shows a message that is addressed, as it is stored now. -/
  shown : ∀ body, Reply.untagged body ∈ (handle env session db cmd).1 →
    ∃ row ∈ (handle env session db cmd).2.2.messages,
      covers session db change.set.text row = true ∧ .untagged body = shows row

/-! ## Reading modes and flags -/

/-- A character that the server strips from the names of flags. -/
def strips (c : Char) : Bool := c = '(' || c = ')' || c = '\\' || c = ';'

/-- The bit of a piece of a flag list. -/
def pieceBit (piece : String) : UInt32 := flagBit (trimMatches strips piece)

/-- A supported flag is a backslash and a word. -/
theorem exists_word {name : String} (supported : IsFlag name) :
    ∃ inner, name.toList = '\\' :: inner ∧ (∀ c ∈ inner, strips c = false) ∧
      IsToken name := by
  obtain ⟨word, known, upper⟩ := supported
  have chars := congrArg String.toList upper
  rw [toList_toAsciiUppercase, String.toList_append] at chars
  obtain ⟨first, inner, written, raised, rest⟩ := List.map_eq_cons_iff.mp chars
  have slash : first = '\\' := eq_of_upperChar raised (by decide)
  have letters : word.toList.all (fun c => !strips c) = true ∧ IsToken ("\\" ++ word) :=
    (show ∀ word ∈ flagWords, word.toList.all (fun c => !strips c) = true ∧
      IsToken ("\\" ++ word) by decide) word known
  have token : IsToken name := isToken_of_upper (upper ▸ letters.2)
  refine ⟨inner, slash ▸ written, fun c member => ?_, token⟩
  have among : upperChar c ∈ word.toList := by
    rw [show word.toList = inner.map upperChar from rest.symm]
    exact List.mem_map_of_mem member
  have plain : strips (upperChar c) = false := by
    have each := List.all_eq_true.mp letters.1 _ among
    rwa [Bool.not_eq_true'] at each
  by_cases lower : 'a' ≤ c ∧ c ≤ 'z'
  · exact @of_lowercase (fun c => strips c = false) (by decide) _ lower
  · rwa [upperChar_other lower] at plain

/-- A name with parentheses around it. -/
def Around (name piece : String) : Prop :=
  ∃ before after, piece = before ++ name ++ after ∧ (∀ c ∈ before.toList, strips c = true) ∧
    ∀ c ∈ after.toList, strips c = true

/-- Parentheses around a flag do not matter. -/
theorem pieceBit_around {name piece : String} (supported : IsFlag name)
    (around : Around name piece) :
    pieceBit piece = flagBit (stripStart "\\" name |>.getD "") ∧ IsToken piece := by
  obtain ⟨before, after, rfl, front, back⟩ := around
  obtain ⟨inner, written, kept, token⟩ := exists_word supported
  have bracket : ∀ c, strips c = true → isWhitespace c = false := by
    intro c stripped
    simp only [strips, Bool.or_eq_true, decide_eq_true_eq] at stripped
    rcases stripped with ((rfl | rfl) | rfl) | rfl <;> decide
  have same : name = "\\" ++ String.ofList inner := by
    rw [← String.toList_inj, written, String.toList_append]
    exact congrArg ('\\' :: ·) String.toList_ofList.symm
  have trimmed : trimMatches strips (before ++ name ++ after) = String.ofList inner := by
    have slash : ∀ c ∈ before.toList ++ ['\\'], strips c = true := by
      intro c member
      rcases List.mem_append.mp member with found | found
      · exact front c found
      · rw [List.mem_singleton.mp found]
        decide
    have whole := trimMatches_around slash kept back
    rw [List.append_assoc before.toList, List.singleton_append, ← written, ← String.toList_append,
      ← String.toList_append, String.ofList_toList] at whole
    exact whole
  constructor
  · rw [pieceBit, trimmed, same, stripStart_append]
    rfl
  · refine ⟨fun empty => token.1 ?_, fun c member => ?_⟩
    · have chars := congrArg String.toList empty
      simp only [String.toList_append, List.append_eq_nil_iff, String.toList_empty] at chars
      exact String.toList_eq_nil_iff.mp chars.1.2
    · rw [String.toList_append, String.toList_append, List.mem_append, List.mem_append] at member
      rcases member with (found | found) | found
      · exact bracket c (front c found)
      · exact token.2 c found
      · exact bracket c (back c found)

/-- The flags of a list with its parentheses are pieces with spaces between them. -/
theorem exists_pieces {names : List String} (some : names ≠ []) :
    ∃ pieces, listText names = " ".intercalate pieces ∧ List.Forall₂ Around names pieces := by
  have plain (name : String) : Around name name :=
    ⟨"", "", by rw [String.empty_append, String.append_empty],
      fun _ member => absurd member List.not_mem_nil,
      fun _ member => absurd member List.not_mem_nil⟩
  have closed : ∃ pieces, " ".intercalate names ++ ")" = " ".intercalate pieces ∧
      List.Forall₂ (fun name piece => piece = name ∨ piece = name ++ ")") names pieces := by
    induction names with
    | nil => exact absurd rfl some
    | cons name names ih =>
      cases names with
      | nil => exact ⟨[name ++ ")"], rfl, .cons (.inr rfl) .nil⟩
      | cons next names =>
        obtain ⟨pieces, text, each⟩ := ih (List.cons_ne_nil _ _)
        have more : pieces ≠ [] := by
          rintro rfl
          cases each
        refine ⟨name :: pieces, ?_, .cons (.inl rfl) each⟩
        rw [String.intercalate_cons_cons, String.append_assoc, text,
          String.intercalate_cons_of_ne_nil more]
  obtain ⟨pieces, text, each⟩ := closed
  have closes : ∀ c ∈ ")".toList, strips c = true := List.all_eq_true.mp (by decide)
  have opens : ∀ c ∈ "(".toList, strips c = true := List.all_eq_true.mp (by decide)
  have last {name piece : String} (either : piece = name ∨ piece = name ++ ")") (start : String)
      (front : ∀ c ∈ start.toList, strips c = true) : Around name (start ++ piece) := by
    rcases either with rfl | rfl
    · exact ⟨start, "", by rw [String.append_empty], front,
        fun _ member => absurd member List.not_mem_nil⟩
    · exact ⟨start, ")", by rw [String.append_assoc], front, closes⟩
  cases each with
  | nil => exact absurd rfl some
  | @cons name piece names pieces first rest =>
    refine ⟨("(" ++ piece) :: pieces, ?_, .cons (last first "(" opens) ?_⟩
    · rw [String.intercalate_cons_append, ← text, listText, String.append_assoc]
    · refine rest.imp fun name piece either => ?_
      have bare := last either "" (fun _ member => absurd member List.not_mem_nil)
      rwa [String.empty_append] at bare

/-- The pieces of a list are read as its flags. -/
theorem read_pieces {names pieces : List String} (supported : ∀ name ∈ names, IsFlag name)
    (each : List.Forall₂ Around names pieces) :
    pieces.map pieceBit = names.map (fun name => flagBit (stripStart "\\" name |>.getD "")) ∧
      ∀ piece ∈ pieces, IsToken piece := by
  induction each with
  | nil => exact ⟨List.map_nil, fun _ member => absurd member List.not_mem_nil⟩
  | @cons name piece names pieces first rest ih =>
    have one := pieceBit_around (supported name List.mem_cons_self) first
    have more := ih fun other member => supported other (List.mem_cons_of_mem name member)
    refine ⟨?_, fun other member => ?_⟩
    · rw [List.map_cons, List.map_cons, one.1, more.1]
    · rcases List.mem_cons.mp member with same | later
      · exact same ▸ one.2
      · exact more.2 other later

/-- A list of flags is read as its flags. -/
theorem parseFlags_list {names : List String} (supported : ∀ name ∈ names, IsFlag name) :
    parseFlags (listText names) = maskOf names := by
  have folded (pieces : List String) :
      pieces.foldl (fun mask flag => mask |||
        flagBit (trimMatches (fun c => c = '(' || c = ')' || c = '\\' || c = ';') flag)) 0 =
      (pieces.map pieceBit).foldl (· ||| ·) 0 := by
    rw [List.foldl_map]
    rfl
  by_cases empty : names = []
  · subst empty
    decide
  · obtain ⟨pieces, text, each⟩ := exists_pieces empty
    have read := read_pieces supported each
    rw [parseFlags, text, splitWhitespace_intercalate read.2, folded, read.1, maskOf]

/-- The server adds flags unless they are to be removed. -/
theorem adds_mode (change : Change) : adds change.modeText = (change.mode != .remove) := by
  have chars := congrArg String.toList change.spelled
  rw [toList_toAsciiUppercase] at chars
  have begins {first : Char} {rest : List Char}
      (word : change.mode.word.toList = first :: rest) (solid : isWhitespace first = false) :
      ∃ c tail, change.modeText.toList = c :: tail ∧ upperChar c = first ∧
        startsWith (trimStart change.modeText) "-" = (c == '-') := by
    obtain ⟨c, tail, written, raised, -⟩ := List.map_eq_cons_iff.mp (chars.trans word)
    have plain : isWhitespace c = false := by
      rw [← isWhitespace_upperChar, raised]
      exact solid
    refine ⟨c, tail, written, raised, ?_⟩
    have kept : change.modeText.toList.dropWhile isWhitespace = c :: tail := by
      rw [written, List.dropWhile_cons_of_neg (by rw [plain]; exact Bool.false_ne_true)]
    have minus : startsWith (String.ofList (c :: tail)) "-" = ['-'].isPrefixOf (c :: tail) :=
      congrArg (fun chars => ['-'].isPrefixOf chars) String.toList_ofList
    rw [trimStart, kept, minus, List.isPrefixOf_cons_cons, List.isPrefixOf_nil_left, Bool.and_true,
      Bool.beq_comm]
  unfold adds
  cases mode : change.mode with
  | replace =>
    obtain ⟨c, tail, -, raised, minus⟩ := begins (by rw [mode]; rfl) (by decide)
    have other : (c == '-') = false := beq_eq_false_iff_ne.mpr fun same => by
      rw [same] at raised
      exact absurd raised (by decide)
    rw [minus, other]
    decide
  | add =>
    obtain ⟨c, tail, -, raised, minus⟩ := begins (by rw [mode]; rfl) (by decide)
    have other : (c == '-') = false := beq_eq_false_iff_ne.mpr fun same => by
      rw [same] at raised
      exact absurd raised (by decide)
    rw [minus, other]
    decide
  | remove =>
    obtain ⟨c, tail, -, raised, minus⟩ := begins (by rw [mode]; rfl) (by decide)
    have same : c = '-' := eq_of_upperChar raised (by decide)
    rw [minus, same]
    decide

/-! ## What the server does -/

/-- What the server takes from the command. -/
theorem stores_arguments {change : Change} {cmd : ParsedCommand} (store : Stores change cmd) :
    isStore cmd = true ∧
    storeArguments cmd = .ok (change.set.text, change.modeText, listText change.names) := by
  cases store with
  | plain tag => exact store_arguments tag change.set.text change.modeText _ []
  | uid tag sub upper => exact uidStore_arguments tag change.set.text change.modeText _ [] upper

/-- A listed message is the row it is listed for. -/
theorem row_of_listed {db : Db} (keyed : Keyed db) {userId : Nat} {mailbox : String}
    {messages : List MessageMeta} (list : db.listMessagesIn userId mailbox = .ok messages)
    {info : MessageMeta} (member : info ∈ messages) :
    ∃ row ∈ db.messages, inMailbox db userId mailbox row = true ∧
      info.uid = UInt32.ofNat row.uid ∧ info.flags = row.flags := by
  rcases mailboxNamed_cases keyed userId mailbox with ⟨missing, -⟩ | ⟨handle, named, inside⟩
  · rw [Db.listMessagesIn, missing] at list
    cases list
  · rw [Db.listMessagesIn, named] at list
    rw [← Except.ok.inj list, List.mem_map] at member
    obtain ⟨⟨row, tx⟩, joined, rfl⟩ := member
    rw [List.mem_insertionSort] at joined
    have found := List.mem_filter.mp (Table.exists_mem_leftJoin.mp ⟨tx, joined⟩)
    exact ⟨row, found.1, (inside row).trans found.2, rfl, rfl⟩

section

variable (env : Environment) {session : Session} (selected : session.state = .selected) {db : Db}
  (keyed : Keyed db) (change : Change) {cmd : ParsedCommand} (store : Stores change cmd)
include selected keyed store

/-- The messages after a STORE are those before, with the flags of the covered ones changed. -/
theorem handle_messages : (handle env session db cmd).2.2.messages = db.messages.map fun row =>
    if covers session db change.set.text row then
      Db.changeFlags (maskOf change.names) (change.mode != .remove) row
    else row := by
  obtain ⟨isStore, arguments⟩ := stores_arguments store
  rw [handle_store env selected db isStore]
  dsimp only
  rw [cmdStore_messages env selected keyed]
  refine List.map_congr_left fun row _ => ?_
  simp only [stored, arguments, parseFlags_list change.supported, adds_mode change]

/-- The server shows the flags that are then stored. -/
theorem handle_shown (body : String)
    (shown : Reply.untagged body ∈ (handle env session db cmd).1) :
    ∃ row ∈ (handle env session db cmd).2.2.messages,
      covers session db change.set.text row = true ∧ .untagged body = shows row := by
  obtain ⟨isStore, arguments⟩ := stores_arguments store
  rw [handle_messages env selected keyed change store]
  rw [handle_store env selected db isStore] at shown
  dsimp only at shown
  have tagged {tag : String} {status : Status} {text : String}
      (member : Reply.untagged body ∈ [.tagged tag status text]) : False := by
    rw [List.mem_singleton] at member
    cases member
  cases list : db.listMessagesIn session.userId session.selectedMailbox with
  | error error =>
    rw [cmdStore, if_neg (not_not.mpr selected), arguments, list] at shown
    exact (tagged shown).elim
  | ok messages =>
    by_cases zero : parseFlags (listText change.names) = 0
    · rw [cmdStore, if_neg (not_not.mpr selected), arguments, list] at shown
      dsimp only at shown
      rw [if_pos zero] at shown
      exact (tagged shown).elim
    · rw [cmdStore_eq env selected list arguments zero, List.mem_append] at shown
      have among := shown.resolve_right fun member => tagged member
      obtain ⟨info, found, text⟩ := List.mem_map.mp among
      obtain ⟨member, ranged⟩ := List.mem_filter.mp found
      obtain ⟨row, kept, inside, uid, flags⟩ := row_of_listed keyed list member
      have covered : covers session db change.set.text row = true := by
        rw [covers, inside, ← uid]
        exact ranged
      refine ⟨Db.changeFlags (maskOf change.names) (change.mode != .remove) row,
        List.mem_map.mpr ⟨row, kept, if_pos covered⟩, covered, ?_⟩
      have same : (Db.changeFlags (maskOf change.names) (change.mode != .remove) row).flags =
          changedFlags (parseFlags (listText change.names)) (adds change.modeText) info.flags := by
        rw [parseFlags_list change.supported, adds_mode, flags]
        cases change.mode != .remove <;> rfl
      rw [shows, same, ← text, uid]
      rfl

/-- A STORE performs its mode just when it adds or removes, or every message that it addresses has
none but the new flags. -/
theorem store_performs_iff :
    Performs env session db change cmd ↔
      (change.mode = .replace → ∀ row ∈ db.messages, covers session db change.set.text row = true →
        row.flags.bits ||| maskOf change.names = maskOf change.names) := by
  have messages := handle_messages env selected keyed change store
  have flags : (handle env session db cmd).2.2.messages = (db.messages.map fun row =>
      if covers session db change.set.text row then
        { row with flags := change.mode.apply (maskOf change.names) row.flags }
      else row) ↔
      ∀ row ∈ db.messages, covers session db change.set.text row = true →
        (Db.changeFlags (maskOf change.names) (change.mode != .remove) row).flags =
          change.mode.apply (maskOf change.names) row.flags := by
    rw [messages, List.map_inj_left]
    refine forall₂_congr fun row _ => ?_
    by_cases covered : covers session db change.set.text row = true
    · rw [if_pos covered, if_pos covered]
      constructor
      · exact fun same _ => congrArg MessageRow.flags same
      · exact fun same => congrArg (fun flags => { row with flags := flags }) (same covered)
    · rw [if_neg covered, if_neg covered]
      exact iff_of_true rfl fun also => absurd also covered
  have performs : Performs env session db change cmd ↔
      ∀ row ∈ db.messages, covers session db change.set.text row = true →
        (Db.changeFlags (maskOf change.names) (change.mode != .remove) row).flags =
          change.mode.apply (maskOf change.names) row.flags :=
    ⟨fun performs => flags.mp performs.flags,
      fun same => ⟨flags.mpr same, handle_shown env selected keyed change store⟩⟩
  rw [performs]
  cases mode : change.mode with
  | add => exact iff_of_true (fun _ _ _ => rfl) fun replaces => nomatch replaces
  | remove => exact iff_of_true (fun _ _ _ => rfl) fun replaces => nomatch replaces
  | replace =>
    rw [forall_prop_of_true rfl]
    refine forall₃_congr fun row _ _ => ?_
    exact ⟨fun same => congrArg MessageFlags.bits same, fun same => congrArg MessageFlags.mk same⟩

end

/-! ## A flag that should go -/

/-- `FLAGS (\\Flagged)` on the first message. -/
def onlyFlagged : Change :=
  ⟨firstUid, .replace, "FLAGS", by decide, ["\\Flagged"],
    by simp only [List.mem_singleton, forall_eq]; exact ⟨"FLAGGED", by decide, by decide⟩, .inl rfl⟩

/-- `-FLAGS (\\Deleted)` on the first message. -/
def undelete : Change :=
  ⟨firstUid, .remove, "-flags", by decide, ["\\Deleted"],
    by simp only [List.mem_singleton, forall_eq]; exact ⟨"DELETED", by decide, by decide⟩,
    .inr (List.cons_ne_nil _ _)⟩

/-- The flag of Bob's message is removed. -/
theorem deleted_flag_removed : Performs groupEnvironment (bobSelected inbox) marked undelete
    ⟨"A1", "STORE", [undelete.set.text, "-flags", listText undelete.names]⟩ :=
  (@store_performs_iff groupEnvironment (bobSelected inbox) rfl _ keyed_marked undelete _
    (.plain "A1")).mpr fun replaces => nomatch replaces

/-- `STORE 1 FLAGS (\\Flagged)` leaves the message deleted. -/
theorem replaced_flag_stays :
    ((handle groupEnvironment (bobSelected inbox) marked
      ⟨"A1", "STORE", ["1", "FLAGS", "(\\Flagged)"]⟩).2.2.messages.map MessageRow.flags) =
        [⟨MessageFlags.flagged ||| MessageFlags.deleted⟩] ∧
      ¬Performs groupEnvironment (bobSelected inbox) marked onlyFlagged
        ⟨"A1", "STORE", ["1", "FLAGS", "(\\Flagged)"]⟩ := by
  have flags : ((handle groupEnvironment (bobSelected inbox) marked
      ⟨"A1", "STORE", ["1", "FLAGS", "(\\Flagged)"]⟩).2.2.messages.map MessageRow.flags) =
        [⟨MessageFlags.flagged ||| MessageFlags.deleted⟩] := by decide +kernel
  refine ⟨flags, fun performs => ?_⟩
  rw [performs.flags] at flags
  exact absurd flags (by decide +kernel)

end Talk.Verif.StoreModes
