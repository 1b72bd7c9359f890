import Talk.Verif.Deletion
import Talk.Verif.Pipelining

/-!
# What IDLE pushes

The server loop takes an IDLE before the session sees it, in every state of the session, and pushes
the number of messages that a listing of the INBOX has, whichever mailbox is selected. So a push is
about the selected mailbox where this has as many messages as the INBOX lists.
-/

namespace Talk.Verif.IdlePushes

open Imap ImapSteps Mailstore Table Transition
open Pipelining (completed fresh reads)

/-! ## Idle connections -/

/-- A connection idles. -/
def idles : Activity → Bool
  | .idling _ _ _ => true
  | _ => false

/-- The messages of a user's mailbox. -/
def messagesOf (db : Db) (userId : Nat) (name : String) : List MessageRow :=
  match db.mailboxNamed userId name with
  | .ok handle => db.rowsIn handle.id
  | .error _ => []

/-- How often a listing has a message: once for each transaction that points at it, and once if
there is none. -/
def timesListed (db : Db) (row : MessageRow) : Nat :=
  max 1 (db.transactions.filter (Db.linked row)).length

/-- A connection takes an input. -/
def step (env : Environment) (conn : Conn) (input : Input) : Conn := (conn.step env input).1

/-- A step describes the selected mailbox: it leaves the connection in IDLE only with a mailbox
selected, and the number that it pushes on an event is that of the messages of this mailbox. -/
structure Describes (env : Environment) (conn : Conn) (input : Input) : Prop where
  /-- IDLE is entered with a mailbox selected. -/
  entered : idles (step env conn input).activity = true →
    (step env conn input).session.state = .selected
  /-- A push is about this mailbox. -/
  pushed : ∀ userId, input = .event userId → ∀ count,
    .untagged (toString count ++ " EXISTS") ∈ (conn.step env input).2 →
      conn.session.state = .selected ∧
        count = (messagesOf conn.db conn.session.userId conn.session.selectedMailbox).length

/-! ## The condition -/

/-- The first IDLE among commands, if there is one before a LOGOUT, comes with a mailbox selected:
the session is the one the commands before it leave. -/
def IdleSelected (env : Environment) (session : Session) (db : Db) : List ParsedCommand → Prop
  | [] => True
  | cmd :: rest =>
    if cmd.name = "IDLE" then session.state = .selected
    else if cmd.name = "LOGOUT" then True
    else IdleSelected env (handle env session db cmd).2.1 (handle env session db cmd).2.2 rest

/-- The commands that a read brings to the loop: those it completes, or, in IDLE, those that waited
for the DONE. -/
def served (conn : Conn) (data : List UInt8) : List ParsedCommand :=
  if data = [] then []
  else match conn.activity with
  | .serving => completed conn.reader data
  | .idling _ commands _ =>
    if (completed conn.reader data).any (·.name == "DONE") then commands else []
  | .closed | .hung => []

/-- The INBOX lists as many messages as the selected mailbox has. -/
def Counted (conn : Conn) : Prop :=
  ((messagesOf conn.db conn.session.userId inbox).map (timesListed conn.db)).sum =
    (messagesOf conn.db conn.session.userId conn.session.selectedMailbox).length

/-- An IDLE is sent with a mailbox selected, and a message is delivered to the user in IDLE where
the counts agree. -/
def Careful (env : Environment) (conn : Conn) : Input → Prop
  | .read data => IdleSelected env conn.session conn.db (served conn data)
  | .event userId => idles conn.activity = true → userId = conn.session.userId → Counted conn
  | .store _ => True

/-! ## One step -/

/-- The loop over commands ends in IDLE with a mailbox selected, or not in IDLE, exactly where the
first IDLE comes with a mailbox selected. -/
theorem serveCommands_idles (env : Environment) (conn : Conn) (out : List Reply)
    (commands : List ParsedCommand) :
    (idles (serveCommands env conn out commands).1.activity = true →
        (serveCommands env conn out commands).1.session.state = .selected) ↔
      IdleSelected env conn.session conn.db commands := by
  induction commands generalizing conn out with
  | nil =>
    refine iff_of_true (fun idle => ?_) trivial
    cases idle
  | cons cmd rest ih =>
    rw [serveCommands, IdleSelected]
    by_cases idle : cmd.name = "IDLE"
    · rw [if_pos idle, if_pos idle]
      exact ⟨fun entered => entered rfl, fun selected _ => selected⟩
    · rw [if_neg idle, if_neg idle]
      by_cases quits : cmd.name = "LOGOUT"
      · rw [if_pos quits]
        dsimp only
        rw [if_pos quits]
        refine iff_of_true (fun idle => ?_) trivial
        cases idle
      · rw [if_neg quits]
        dsimp only
        rw [if_neg quits]
        exact ih _ _

/-- A connection that idles has a mailbox selected. -/
def Entered (conn : Conn) : Prop := idles conn.activity = true → conn.session.state = .selected

/-- A read leaves the connection in IDLE with a mailbox selected, or not in IDLE, exactly where the
first IDLE among the commands it brings comes with a mailbox selected. -/
theorem read_entered_iff (env : Environment) {conn : Conn} (before : Entered conn)
    (data : List UInt8) :
    Entered (step env conn (.read data)) ↔
      IdleSelected env conn.session conn.db (served conn data) := by
  have still {after : Conn} (waits : idles after.activity = false) :
      Entered after ↔ IdleSelected env conn.session conn.db [] := by
    refine iff_of_true (fun idle => ?_) trivial
    rw [waits] at idle
    cases idle
  obtain ⟨session, db, reader, activity⟩ := conn
  unfold step Conn.step served
  cases activity with
  | closed | hung =>
    by_cases empty : data = []
    · rw [if_pos empty]
      exact still rfl
    · rw [if_neg empty]
      exact still rfl
  | serving =>
    dsimp only
    by_cases empty : data = []
    · rw [if_pos empty, if_pos empty]
      exact still rfl
    rw [if_neg empty, if_neg empty, serveRead, completed]
    dsimp only
    cases (reader.feed data).1 with
    | diverges => exact still rfl
    | failed error =>
      cases error with
      | unterminated => exact still rfl
      | _ => exact still rfl
    | ok commands => exact serveCommands_idles env _ [] commands
  | idling tag commands out =>
    dsimp only
    by_cases empty : data = []
    · rw [if_pos empty, if_pos empty]
      exact still rfl
    rw [if_neg empty, if_neg empty, idleRead, completed]
    dsimp only
    cases (reader.feed data).1 with
    | diverges => exact still rfl
    | failed error => exact still rfl
    | ok found =>
      dsimp only
      by_cases done : (found.any (·.name == "DONE")) = true
      · rw [if_pos done, if_pos done]
        exact serveCommands_idles env _ _ commands
      · rw [if_neg done, if_neg done]
        exact iff_of_true before trivial

/-- A listing of the INBOX has each message as often as transactions point at it. -/
theorem existsCount_eq (db : Db) (userId : Nat) :
    existsCount db userId = ((messagesOf db userId inbox).map (timesListed db)).sum := by
  unfold existsCount messagesOf Db.listMessagesIn
  cases db.mailboxNamed userId inbox with
  | error error => rfl
  | ok handle =>
    dsimp only
    rw [List.length_map, List.length_insertionSort, length_leftJoin]
    rfl

/-- An event leaves the connection, and pushes the count to a user in IDLE. -/
theorem step_event (env : Environment) (conn : Conn) (userId : Nat) :
    conn.step env (.event userId) =
      (conn, if idles conn.activity = true ∧ userId = conn.session.userId then
        [.untagged (toString (existsCount conn.db userId) ++ " EXISTS")]
      else []) := by
  obtain ⟨session, db, reader, activity⟩ := conn
  unfold Conn.step
  cases activity with
  | serving | closed | hung => rfl
  | idling tag commands out =>
    dsimp only
    by_cases same : userId = session.userId
    · rw [if_pos same, if_pos ⟨rfl, same⟩]
    · rw [if_neg same, if_neg fun both => same both.2]

/-- A push is about the selected mailbox exactly where the counts agree. -/
theorem event_describes_iff (env : Environment) {conn : Conn} (before : Entered conn)
    (userId : Nat) : Describes env conn (.event userId) ↔ Careful env conn (.event userId) := by
  have left : step env conn (.event userId) = conn := by rw [step, step_event]
  have written := congrArg Prod.snd (step_event env conn userId)
  by_cases pushes : idles conn.activity = true ∧ userId = conn.session.userId
  · rw [if_pos pushes] at written
    have selected := before pushes.1
    constructor
    · intro describes _ same
      have about := (describes.pushed userId rfl (existsCount conn.db userId) (by
        rw [written]
        exact List.mem_singleton_self _)).2
      rw [existsCount_eq, same] at about
      exact about
    · intro careful
      have counted : Counted conn := careful pushes.1 pushes.2
      refine ⟨by rw [left]; exact before, fun _ _ count member => ⟨selected, ?_⟩⟩
      rw [written, List.mem_singleton] at member
      have texts :
          toString count ++ " EXISTS" = toString (existsCount conn.db userId) ++ " EXISTS" :=
        Reply.untagged.inj member
      have number := Text.toString_injective ((String.append_left_inj _).mp texts)
      rw [number, existsCount_eq, pushes.2]
      exact counted
  · rw [if_neg pushes] at written
    refine iff_of_true ⟨by rw [left]; exact before, fun _ _ count member => ?_⟩
      fun idle same => absurd ⟨idle, same⟩ pushes
    rw [written] at member
    exact absurd member List.not_mem_nil

/-- A step describes the selected mailbox exactly where it is careful. -/
theorem describes_iff (env : Environment) {conn : Conn} (before : Entered conn) (input : Input) :
    Describes env conn input ↔ Careful env conn input := by
  cases input with
  | read data =>
    rw [Careful, ← read_entered_iff env before data]
    exact ⟨Describes.entered, fun entered => ⟨entered, fun _ same => by cases same⟩⟩
  | event userId => exact event_describes_iff env before userId
  | store db => exact iff_of_true ⟨before, fun _ same => by cases same⟩ trivial

/-! ## Runs -/

/-- Every step of a run describes the selected mailbox exactly where every step is careful. -/
theorem run_describes_iff (env : Environment) (authMode : AuthMode) (domain hostname : String)
    (db : Db) (inputs : List Input) :
    Guarded (step env) (Describes env) (accepted authMode domain hostname db).1 inputs ↔
      Guarded (step env) (Careful env) (accepted authMode domain hostname db).1 inputs := by
  have start : Entered (accepted authMode domain hostname db).1 := by
    intro idle
    cases idle
  exact @guarded_iff _ _ (step env) (Describes env) (Careful env) Entered
    (fun _ _ _ describes => describes.entered)
    (fun _ input before => describes_iff env before input) _ start inputs

/-- With the INBOX selected, the counts agree exactly where at most one transaction points at each
of its messages. -/
theorem counted_inbox_iff {conn : Conn} (selected : conn.session.selectedMailbox = inbox) :
    Counted conn ↔ ∀ row ∈ messagesOf conn.db conn.session.userId inbox,
      (conn.db.transactions.filter (Db.linked row)).length ≤ 1 := by
  unfold Counted
  rw [selected]
  have length := length_leftJoin Db.linked (messagesOf conn.db conn.session.userId inbox)
    conn.db.transactions
  constructor
  · intro counted
    apply single_of_length_leftJoin
    rw [length]
    exact Nat.le_of_eq counted
  · intro once
    have rows := congrArg List.length (map_fst_leftJoin once)
    rw [List.length_map, length] at rows
    exact rows

/-! ## Another mailbox, and none -/

/-- Bob selects his empty Sent mailbox, goes into IDLE, and a message is delivered to his INBOX. -/
def sentSelected : List Input :=
  reads [["A1 LOGIN bob pw"], ["A2 SELECT Sent"], ["A3 IDLE"]] ++ [.event 1]

/-- A connection goes into IDLE before it has logged in, and a push to a connection with the empty
Sent mailbox selected counts the message in INBOX. -/
theorem idle_misleads :
    ¬Guarded (step groupEnvironment) (Describes groupEnvironment) fresh.1 (reads [["A1 IDLE"]]) ∧
      ¬Guarded (step groupEnvironment) (Describes groupEnvironment)
        (accepted .localAuth "b.io" "mail.b.io" Deletion.namesake).1 sentSelected := by
  constructor
  · intro guarded
    have entered := guarded.1.entered (by decide +kernel)
    exact absurd entered (by decide +kernel)
  · intro guarded
    have pushed := (guarded.2.2.2.1.pushed 1 rfl 1 (by decide +kernel)).2
    exact absurd pushed (by decide +kernel)

end Talk.Verif.IdlePushes
