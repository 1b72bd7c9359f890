import Talk.Lib.Words
import Talk.Verif.SequenceNumbers

/-!
# The keys of a SEARCH

A SEARCH with several keys should find the messages that satisfy every key. The server folds the
keys into two booleans and takes the messages for which one of them holds, so `ALL` beside `UNSEEN`
finds the seen messages as well; and it finds a message as often as the listing shows it.
-/

namespace Talk.Verif.SearchKeys

open Imap ImapSteps Mailstore SelectedMailbox SequenceSets StoreSteps Table Text

/-! ## Keys -/

/-- The key `ALL`. -/
def isAll (key : String) : Bool := toAsciiUppercase key == "ALL"

/-- The key `UNSEEN`. -/
def isUnseen (key : String) : Bool := toAsciiUppercase key == "UNSEEN"

/-- A list of keys, each of which is `ALL` or `UNSEEN`. -/
structure Keys (keys : List String) : Prop where
  /-- There is a key. -/
  some : keys ≠ []
  /-- Each is one of the two. -/
  known : ∀ key ∈ keys, isAll key = true ∨ isUnseen key = true

/-- A message satisfies a key. -/
def satisfies (row : MessageRow) (key : String) : Bool := !isUnseen key || !row.flags.isSeen

/-- The messages of the selected mailbox. -/
def rows (session : Session) (db : Db) : List MessageRow :=
  db.messages.filter (inMailbox db session.userId session.selectedMailbox)

/-- The messages that satisfy every key. -/
def matching (session : Session) (db : Db) (keys : List String) : List MessageRow :=
  (rows session db).filter fun row => keys.all (satisfies row)

/-- The number that a response has for a message. -/
def number (row : MessageRow) : Nat := (UInt32.ofNat row.uid).toNat

/-- A SEARCH or a UID SEARCH with these keys. -/
inductive Searches (keys : List String) : ParsedCommand → Prop
  /-- SEARCH. -/
  | plain (tag : String) : Searches keys ⟨tag, "SEARCH", keys⟩
  /-- UID SEARCH. -/
  | uid (tag sub : String) (upper : toAsciiUppercase sub = "SEARCH") :
    Searches keys ⟨tag, "UID", sub :: keys⟩

/-- The numbers in a response to a SEARCH. -/
def results (replies : List Reply) : List Nat :=
  replies.flatMap fun
    | .untagged body =>
      match splitWhitespace body with
      | "SEARCH" :: numbers => numbers.filterMap (parseUnsigned (2 ^ 32))
      | _ => []
    | _ => []

section

variable (env : Environment) (session : Session) (db : Db)

/-- A SEARCH with these keys finds the messages that satisfy every key, each once. -/
def Exact (keys : List String) : Prop :=
  ∀ cmd, Searches keys cmd →
    (results (handle env session db cmd).1).Perm ((matching session db keys).map number)

/-- A search is a conjunction. -/
structure Conjoins : Prop where
  /-- It finds the messages that satisfy every key, each once. -/
  exact : ∀ keys, Keys keys → Exact env session db keys
  /-- Another key never adds a result. -/
  narrows : ∀ keys key more cmd other, Keys keys → Keys more → more.Perm (key :: keys) →
    Searches keys cmd → Searches more other →
    results (handle env session db other).1 ⊆ results (handle env session db cmd).1
  /-- The order of the keys does not matter. -/
  unordered : ∀ keys others cmd other, Keys keys → keys.Perm others →
    Searches keys cmd → Searches others other →
    (results (handle env session db other).1).Perm (results (handle env session db cmd).1)

/-- A message is listed once: at most one transaction points at it. -/
def ListedOnce (row : MessageRow) : Prop := (db.transactions.filter (Db.linked row)).length ≤ 1

instance (row : MessageRow) : Decidable (ListedOnce db row) := Nat.decLe _ _

/-- The keys hold not both `ALL` and `UNSEEN`, or no message is seen; and the messages that satisfy
them are listed once. -/
def Told (keys : List String) : Prop :=
  ((keys.any isAll && keys.any isUnseen) = false ∨
      ∀ row ∈ rows session db, row.flags.isSeen = false) ∧
    ∀ row ∈ matching session db keys, ListedOnce db row

instance (keys : List String) : Decidable (Told session db keys) :=
  inferInstanceAs (Decidable (_ ∧ _))

end

/-! ## What the server finds -/

/-- The messages that the server takes. -/
def taken (keys : List String) (flags : MessageFlags) : Bool :=
  keys.any isAll || (keys.any isUnseen && !flags.isSeen)

/-- The fold over keys that are known. -/
theorem searchCriteria_keys {keys : List String} (known : Keys keys) :
    searchCriteria keys = (keys.any isAll, keys.any isUnseen) := by
  have folds (step : Bool × Bool → String → Bool × Bool)
      (onAll : ∀ pair key, toAsciiUppercase key = "ALL" → step pair key = (true, pair.2))
      (onUnseen : ∀ pair key, toAsciiUppercase key = "UNSEEN" → step pair key = (pair.1, true))
      (list : List String) (each : ∀ key ∈ list, isAll key = true ∨ isUnseen key = true)
      (pair : Bool × Bool) :
      list.foldl step pair = (pair.1 || list.any isAll, pair.2 || list.any isUnseen) := by
    induction list generalizing pair with
    | nil => simp
    | cons key list ih =>
      have rest := ih fun other member => each other (List.mem_cons_of_mem key member)
      rw [List.foldl_cons, List.any_cons, List.any_cons]
      rcases each key List.mem_cons_self with found | found
      · have upper : toAsciiUppercase key = "ALL" := beq_iff_eq.mp found
        have other : isUnseen key = false := by
          rw [isUnseen, upper]
          decide
        rw [onAll pair key upper, rest, found, other]
        simp
      · have upper : toAsciiUppercase key = "UNSEEN" := beq_iff_eq.mp found
        have other : isAll key = false := by
          rw [isAll, upper]
          decide
        rw [onUnseen pair key upper, rest, found, other]
        simp
  have started : keys.isEmpty = false := List.isEmpty_eq_false_iff.mpr known.some
  rw [searchCriteria, started]
  refine (folds _ (fun pair key upper => ?_) (fun pair key upper => ?_) keys known.known
    (false, false)).trans ?_
  · simp only [upper]
  · simp only [upper]
  · rw [Bool.false_or, Bool.false_or]

/-- The keys of a command are its arguments, without the name of the subcommand. -/
theorem searchArguments_of {keys : List String} (known : Keys keys) {cmd : ParsedCommand}
    (search : Searches keys cmd) : searchArguments cmd = keys := by
  cases search with
  | plain tag =>
    cases keys with
    | nil => exact absurd rfl known.some
    | cons key keys =>
      have other : ¬("SEARCH" = "UID" ∧ eqIgnoreAsciiCase key "SEARCH" = true) :=
        fun both => absurd both.1 (by decide)
      unfold searchArguments
      dsimp only
      rw [if_neg other]
  | uid tag sub upper =>
    have named : toAsciiUppercase sub = toAsciiUppercase "SEARCH" := upper.trans (by decide)
    exact if_pos ⟨rfl, eqIgnoreAsciiCase_of_upper named⟩

/-- A response with these UIDs has them as its results. -/
theorem results_uids (uids : List UInt32) (tag : String) (status : Status) (text : String) :
    results [.untagged ("SEARCH " ++ joinUids uids), .tagged tag status text] =
      uids.map UInt32.toNat := by
  have numbers : splitWhitespace (joinUids uids) = uids.map toString := by
    refine splitWhitespace_intercalate fun token member => ?_
    obtain ⟨uid, -, rfl⟩ := List.mem_map.mp member
    exact isToken_toString uid.toNat
  have pieces : splitWhitespace ("SEARCH " ++ joinUids uids) = "SEARCH" :: uids.map toString := by
    have cut := @splitWhitespace_cons "SEARCH" (by decide) (joinUids uids)
    rw [numbers] at cut
    exact cut
  have parsed (uid : UInt32) : parseUnsigned (2 ^ 32) (toString uid) = some uid.toNat :=
    parseUnsigned_toString uid.toNat_lt
  rw [results, List.flatMap_cons, List.flatMap_singleton]
  dsimp only
  rw [pieces, List.append_nil]
  change (uids.map toString).filterMap (parseUnsigned (2 ^ 32)) = _
  rw [List.filterMap_map, ← List.filterMap_eq_map]
  simp only [Function.comp_def, parsed]

section

variable (env : Environment) {session : Session} (selected : session.state = .selected) {db : Db}
  (keyed : Keyed db)
include selected keyed

/-- A SEARCH finds the listed messages that the server takes. -/
theorem results_search {keys : List String} (known : Keys keys) {cmd : ParsedCommand}
    (search : Searches keys cmd) :
    (results (handle env session db cmd).1).Perm
      ((leftJoin Db.linked ((rows session db).filter fun row => taken keys row.flags)
        db.transactions).map fun pair => number pair.1) := by
  have answered : (handle env session db cmd).1 = cmdSearch env session db cmd := by
    cases search with
    | plain tag => rfl
    | uid tag sub upper =>
      change (cmdUid env session db ⟨tag, "UID", sub :: keys⟩).1 = _
      rw [cmdUid, if_neg (not_not.mpr selected)]
      dsimp only [List.head?_cons]
      rw [upper]
      rfl
  rw [answered, cmdSearch, if_neg (not_not.mpr selected), searchArguments_of known search,
    searchCriteria_keys known, Db.listMessagesIn]
  rcases mailboxNamed_cases keyed session.userId session.selectedMailbox with
    ⟨missing, empty⟩ | ⟨handle, named, inside⟩
  · have none : rows session db = [] :=
      List.filter_eq_nil_iff.mpr fun row _ => by rw [empty]; exact Bool.false_ne_true
    rw [missing, none]
    exact .refl _
  · have home : rows session db = db.rowsIn handle.id :=
      List.filter_congr fun row _ => inside row
    rw [named]
    dsimp only
    rw [results_uids, List.filter_map, List.map_map, List.map_map, home,
      ← filter_leftJoin Db.linked (fun row => taken keys row.flags)]
    exact ((List.perm_insertionSort Db.newer _).filter _).map _

/-- A SEARCH is exact just when its keys are told apart and its messages are listed once. -/
theorem exact_iff {keys : List String} (known : Keys keys) :
    Exact env session db keys ↔ Told session db keys := by
  have both : ∀ row, keys.all (satisfies row) = (!(keys.any isUnseen) || !row.flags.isSeen) := by
    intro row
    cases seen : row.flags.isSeen with
    | false => simp [satisfies, seen]
    | true =>
      rw [Bool.eq_iff_iff]
      simp [satisfies, seen]
  have one : keys.any isAll = true ∨ keys.any isUnseen = true := by
    obtain ⟨key, member⟩ := List.exists_mem_of_ne_nil keys known.some
    exact (known.known key member).imp (fun found => List.any_eq_true.mpr ⟨key, member, found⟩)
      fun found => List.any_eq_true.mpr ⟨key, member, found⟩
  -- What satisfies every key is taken.
  have part : (matching session db keys).Sublist
      ((rows session db).filter fun row => taken keys row.flags) := by
    refine List.monotone_filter_right _ fun row satisfied => ?_
    rw [both] at satisfied
    unfold taken
    cases all : keys.any isAll with
    | true => rfl
    | false =>
      have unseen : keys.any isUnseen = true := one.resolve_left (Bool.eq_false_iff.mp all)
      rw [unseen] at satisfied ⊢
      exact satisfied
  have same : matching session db keys =
      (rows session db).filter (fun row => taken keys row.flags) ↔
      (keys.any isAll && keys.any isUnseen) = false ∨
        ∀ row ∈ rows session db, row.flags.isSeen = false := by
    rw [matching, filter_eq_filter_iff]
    simp only [both, taken]
    cases all : keys.any isAll with
    | true =>
      cases unseen : keys.any isUnseen with
      | true => simp
      | false => simp
    | false =>
      have unseen : keys.any isUnseen = true := one.resolve_left (Bool.eq_false_iff.mp all)
      simp [unseen]
  have decided (cmd : ParsedCommand) (search : Searches keys cmd) :
      (results (handle env session db cmd).1).Perm ((matching session db keys).map number) ↔
        Told session db keys := by
    have found := results_search env selected keyed known search
    rw [found.congr_left, perm_leftJoin_iff number part, same]
    refine and_congr_right fun apart => ?_
    rw [← same.mpr apart]
    rfl
  constructor
  · exact fun exact => (decided _ (.plain "")).mp (exact _ (.plain ""))
  · exact fun told cmd search => (decided cmd search).mpr told

/-- A SEARCH with any list of the keys is exact just when the list has not both, or no message is
seen, and what satisfies it is listed once. Searches are conjunctions just when no message of the
mailbox is seen and every message is listed once. -/
theorem search_conjoins_iff :
    (∀ keys, Keys keys → (Exact env session db keys ↔ Told session db keys)) ∧
    (Conjoins env session db ↔
      ∀ row ∈ rows session db, row.flags.isSeen = false ∧ ListedOnce db row) := by
  have exact (keys : List String) (known : Keys keys) := exact_iff env selected keyed known
  refine ⟨exact, ?_⟩
  constructor
  · intro conjoins
    have keys : Keys ["ALL", "UNSEEN"] := ⟨List.cons_ne_nil _ _, by decide +kernel⟩
    have alone : Keys ["ALL"] := ⟨List.cons_ne_nil _ _, by decide +kernel⟩
    have unseen := ((exact _ keys).mp (conjoins.exact _ keys)).1.resolve_left (by decide +kernel)
    have once := ((exact _ alone).mp (conjoins.exact _ alone)).2
    intro row member
    refine ⟨unseen row member, once row (List.mem_filter.mpr ⟨member, ?_⟩)⟩
    have plain : isUnseen "ALL" = false := by decide +kernel
    simp [satisfies, plain]
  · intro clear
    have exactly (keys : List String) (known : Keys keys) : Exact env session db keys :=
      (exact keys known).mpr ⟨.inr fun row member => (clear row member).1,
        fun row member => (clear row (List.mem_of_mem_filter member)).2⟩
    have shared {keys others : List String} (same : keys.Perm others) :
        matching session db keys = matching session db others :=
      List.filter_congr fun row _ => same.all_eq
    refine ⟨exactly, fun keys key more cmd other known also same search wider => ?_,
      fun keys others cmd other known same search wider => ?_⟩
    · have fewer : matching session db more ⊆ matching session db keys := by
        rw [shared same]
        refine (List.monotone_filter_right _ fun row satisfied => ?_).subset
        rw [List.all_cons, Bool.and_eq_true] at satisfied
        exact satisfied.2
      intro uid found
      have inside := (exactly more also other wider).subset found
      exact (exactly keys known cmd search).symm.subset (List.map_subset number fewer inside)
    · have also : Keys others :=
        ⟨fun none => known.some (List.perm_nil.mp (none ▸ same)),
          fun key member => known.known key (same.mem_iff.mpr member)⟩
      have left := exactly others also other wider
      rw [← shared same] at left
      exact left.trans (exactly keys known cmd search).symm

end

/-! ## A seen message -/

/-- Two of three messages are not seen, and they are the ones that are found. -/
theorem unseen_found :
    (matching (bobSelected inbox) threeMessages ["unseen", "UNSEEN"]).map MessageRow.uid = [2, 3] ∧
      Exact groupEnvironment (bobSelected inbox) threeMessages ["unseen", "UNSEEN"] :=
  ⟨by decide +kernel,
    ((@search_conjoins_iff groupEnvironment (bobSelected inbox) rfl _ keyed_threeMessages).1 _
      ⟨List.cons_ne_nil _ _, by decide +kernel⟩).mpr (by decide +kernel)⟩

/-- Bob's message is seen. -/
def seen : Db := (Deletion.namesake.setFlagsIn 1 inbox 1 MessageFlags.seen true).2

/-- `ALL UNSEEN` finds a message that is seen. -/
theorem all_unseen_finds_seen :
    matching (bobSelected inbox) seen ["ALL", "UNSEEN"] = [] ∧
      results (handle groupEnvironment (bobSelected inbox) seen
        ⟨"A1", "SEARCH", ["ALL", "UNSEEN"]⟩).1 = [1] ∧
      ¬Exact groupEnvironment (bobSelected inbox) seen ["ALL", "UNSEEN"] := by
  have none : matching (bobSelected inbox) seen ["ALL", "UNSEEN"] = [] := by decide +kernel
  have found : results (handle groupEnvironment (bobSelected inbox) seen
      ⟨"A1", "SEARCH", ["ALL", "UNSEEN"]⟩).1 = [1] := by decide +kernel
  refine ⟨none, found, fun exact => ?_⟩
  have same := exact _ (.plain "A1")
  rw [none, found] at same
  exact absurd same.length_eq (by decide)

end Talk.Verif.SearchKeys
