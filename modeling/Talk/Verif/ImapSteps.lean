import Talk.Imap.Session
import Talk.Verif.StoreSteps

/-!
# What an IMAP command does

Each command ends its response with one completion under its own tag, and there is none before it.
It changes the session in three ways only: a login names the user, a select names the mailbox and a
close leaves it. It changes the store through the user's own mailboxes, and only when one is
selected.
-/

namespace Talk.Verif.ImapSteps

open Imap Mailstore StoreSteps

/-- The completions of a response. -/
def completions (replies : List Reply) : List (String × Status) :=
  replies.filterMap fun
    | .tagged tag status _ => some (tag, status)
    | _ => none

/-- A line that is neither a completion nor a continuation. -/
def isData : Reply → Bool
  | .untagged _ | .literal _ => true
  | .tagged _ _ _ | .continuation _ => false

/-- A response is data followed by one completion. -/
structure Completes (tag : String) (status : Status) (replies : List Reply) : Prop where
  /-- The completion is the last line, and the only one. -/
  only : ∃ data text, replies = data ++ [.tagged tag status text] ∧ data.all isData = true

/-- The completions of a response in two parts. -/
@[simp] theorem completions_append (first second : List Reply) :
    completions (first ++ second) = completions first ++ completions second :=
  List.filterMap_append

/-- Data has no completion. -/
theorem completions_data {data : List Reply} (plain : data.all isData = true) :
    completions data = [] := by
  refine List.filterMap_eq_nil_iff.mpr fun line member => ?_
  have plain := List.all_eq_true.mp plain line member
  cases line with
  | untagged | literal | continuation => rfl
  | tagged => cases plain

/-- The completion of a response that completes. -/
theorem Completes.completions {tag : String} {status : Status} {replies : List Reply}
    (completes : Completes tag status replies) : completions replies = [(tag, status)] := by
  obtain ⟨data, text, rfl, plain⟩ := completes.only
  rw [completions_append, completions_data plain]
  rfl

/-- A completion alone completes a command. -/
theorem completes_single (tag : String) (status : Status) (text : String) :
    Completes tag status [.tagged tag status text] := ⟨[], text, rfl, rfl⟩

/-- A completion after data completes a command. -/
theorem completes_data {data : List Reply} (plain : data.all isData = true) (tag : String)
    (status : Status) (text : String) : Completes tag status (data ++ [.tagged tag status text]) :=
  ⟨data, text, rfl, plain⟩

/-! ## Reading commands -/

/-- A login is refused, or names a user of the store. -/
theorem login_cases (env : Environment) (session : Session) (db : Db)
    (tag username password : String) :
    login env session db tag username password =
      ([.tagged tag .no "Authentication failed"], session) ∨
    ∃ name user text, db.getUser name = some user ∧
      login env session db tag username password =
        ([.tagged tag .ok text], session.loggedIn user) := by
  unfold login
  cases localUsername (loginName username).1 session.domain with
  | none => exact .inl rfl
  | some name =>
    dsimp only
    cases found : db.getUser name with
    | none => exact .inl rfl
    | some user =>
      dsimp only
      split
      · split
        · exact .inr ⟨name, user, _, found, rfl⟩
        · exact .inl rfl
      · split
        · exact .inr ⟨name, user, _, found, rfl⟩
        · exact .inl rfl

/-- Authentication is refused, or names a user of the store in a session without one. -/
theorem cmdAuth_cases (env : Environment) (session : Session) (db : Db) (cmd : ParsedCommand) :
    (∃ status text, status ≠ .ok ∧
      cmdAuth env session db cmd = ([.tagged cmd.tag status text], session)) ∨
    ∃ name user text, session.state = .notAuthenticated ∧ db.getUser name = some user ∧
      cmdAuth env session db cmd = ([.tagged cmd.tag .ok text], session.loggedIn user) := by
  have logs : session.state = .notAuthenticated → ∀ username password,
      (∃ status text, status ≠ .ok ∧ login env session db cmd.tag username password =
        ([.tagged cmd.tag status text], session)) ∨
      ∃ name user text, session.state = .notAuthenticated ∧ db.getUser name = some user ∧
        login env session db cmd.tag username password =
          ([.tagged cmd.tag .ok text], session.loggedIn user) := by
    intro fresh username password
    rcases login_cases env session db cmd.tag username password with
      refused | ⟨name, user, text, found, done⟩
    · exact .inl ⟨.no, _, nofun, refused⟩
    · exact .inr ⟨name, user, text, fresh, found, done⟩
  unfold cmdAuth
  split
  · exact .inl ⟨.bad, _, nofun, rfl⟩
  · rename_i fresh
    have fresh : session.state = .notAuthenticated := Decidable.not_not.mp fresh
    split
    · split
      · split
        · split
          · exact .inl ⟨.bad, _, nofun, rfl⟩
          · split
            · exact logs fresh _ _
            · exact .inl ⟨.bad, _, nofun, rfl⟩
        · exact .inl ⟨.bad, _, nofun, rfl⟩
      · exact .inl ⟨.bad, _, nofun, rfl⟩
    · split
      · exact logs fresh _ _
      · exact .inl ⟨.bad, _, nofun, rfl⟩

/-- A mailbox is not selected, or is and belongs to the session's user. -/
theorem cmdSelect_cases (env : Environment) (session : Session) (db : Db) (cmd : ParsedCommand) :
    (∃ status text, status ≠ .ok ∧
      cmdSelect env session db cmd = ([.tagged cmd.tag status text], session)) ∨
    ∃ mailbox data text, session.state ≠ .notAuthenticated ∧ data.all isData = true ∧
      cmdSelect env session db cmd = (data ++ [.tagged cmd.tag .ok text],
        { session with selectedMailbox := mailbox, state := .selected }) := by
  unfold cmdSelect
  split
  · exact .inl ⟨.bad, _, nofun, rfl⟩
  · rename_i known
    split
    · exact .inl ⟨.no, _, nofun, rfl⟩
    · split
      · exact .inl ⟨.no, _, nofun, rfl⟩
      · exact .inr ⟨_, _, _, known, rfl, rfl⟩

/-- LIST completes, in every state but the first. -/
theorem cmdList_cases (session : Session) (cmd : ParsedCommand) :
    (session.state = .notAuthenticated ∧ Completes cmd.tag .bad (cmdList session cmd)) ∨
    (session.state ≠ .notAuthenticated ∧ Completes cmd.tag .ok (cmdList session cmd)) := by
  unfold cmdList
  split
  · rename_i fresh
    exact .inl ⟨fresh, completes_single ..⟩
  · rename_i known
    refine .inr ⟨known, completes_data ?_ ..⟩
    dsimp only
    split <;> split <;> rfl

/-- NAMESPACE completes, in every state but the first. -/
theorem cmdNamespace_cases (session : Session) (tag : String) :
    (session.state = .notAuthenticated ∧ Completes tag .bad (cmdNamespace session tag)) ∨
    (session.state ≠ .notAuthenticated ∧ Completes tag .ok (cmdNamespace session tag)) := by
  unfold cmdNamespace
  split
  · rename_i fresh
    exact .inl ⟨fresh, completes_single ..⟩
  · rename_i known
    exact .inr ⟨known, ⟨[_], _, rfl, rfl⟩⟩

/-- STATUS is refused, or completes in every state but the first. -/
theorem cmdStatus_cases (env : Environment) (session : Session) (db : Db) (cmd : ParsedCommand) :
    (∃ status, status ≠ .ok ∧ Completes cmd.tag status (cmdStatus env session db cmd)) ∨
    (session.state ≠ .notAuthenticated ∧
      Completes cmd.tag .ok (cmdStatus env session db cmd)) := by
  unfold cmdStatus
  split
  · exact .inl ⟨.bad, nofun, completes_single ..⟩
  · rename_i known
    split
    · exact .inl ⟨.no, nofun, completes_single ..⟩
    · split
      · exact .inl ⟨.no, nofun, completes_single ..⟩
      · exact .inr ⟨known, ⟨[_], _, rfl, rfl⟩⟩

/-- The response for one message is data. -/
theorem isData_fetchResponse (env : Environment) (info : MessageMeta) (req : FetchRequest)
    (body : List UInt8) (identity : MessageIdentity) :
    (fetchResponse env info req body identity).all isData = true := by
  unfold fetchResponse
  dsimp only
  split <;> rfl

/-- The responses for messages are data. -/
theorem isData_fetchMessages {env : Environment} {session : Session} {db : Db} {range : String}
    {req : FetchRequest} {count : UInt32} {messages : List MessageMeta} {replies : List Reply}
    (fetched : fetchMessages env session db range req count messages = .ok replies) :
    replies.all isData = true := by
  induction messages generalizing replies with
  | nil =>
    cases fetched
    rfl
  | cons info rest ih =>
    rw [fetchMessages] at fetched
    split at fetched
    · dsimp only at fetched
      split at fetched
      · cases fetched
      · cases found : fetchMessages env session db range req count rest with
        | error =>
          rw [found] at fetched
          cases fetched
        | ok more =>
          rw [found] at fetched
          rw [← Except.ok.inj fetched, List.all_append, isData_fetchResponse, ih found]
          rfl
    · exact ih fetched

/-- FETCH is refused, or completes when a mailbox is selected. -/
theorem cmdFetch_cases (env : Environment) (session : Session) (db : Db) (cmd : ParsedCommand) :
    (∃ status, status ≠ .ok ∧ Completes cmd.tag status (cmdFetch env session db cmd)) ∨
    (session.state = .selected ∧ Completes cmd.tag .ok (cmdFetch env session db cmd)) := by
  unfold cmdFetch
  split
  · exact .inl ⟨.bad, nofun, completes_single ..⟩
  · rename_i selected
    split
    · exact .inl ⟨.bad, nofun, completes_single ..⟩
    · split
      · exact .inl ⟨.no, nofun, completes_single ..⟩
      · dsimp only
        split
        · exact .inl ⟨.no, nofun, completes_single ..⟩
        · rename_i fetched
          exact .inr ⟨Decidable.not_not.mp selected,
            completes_data (isData_fetchMessages fetched) ..⟩

/-- SEARCH is refused, or completes when a mailbox is selected. -/
theorem cmdSearch_cases (env : Environment) (session : Session) (db : Db) (cmd : ParsedCommand) :
    (∃ status, status ≠ .ok ∧ Completes cmd.tag status (cmdSearch env session db cmd)) ∨
    (session.state = .selected ∧ Completes cmd.tag .ok (cmdSearch env session db cmd)) := by
  unfold cmdSearch
  split
  · exact .inl ⟨.bad, nofun, completes_single ..⟩
  · rename_i selected
    split
    · exact .inl ⟨.no, nofun, completes_single ..⟩
    · exact .inr ⟨Decidable.not_not.mp selected, ⟨[_], _, rfl, rfl⟩⟩

/-- IDLE is refused, or continued when a mailbox is selected. -/
theorem cmdIdle_cases (session : Session) (tag : String) :
    Completes tag .bad (cmdIdle session tag) ∨
    (session.state = .selected ∧ cmdIdle session tag = [.continuation "idle"]) := by
  unfold cmdIdle
  split
  · exact .inl (completes_single ..)
  · rename_i selected
    exact .inr ⟨Decidable.not_not.mp selected, rfl⟩

/-! ## Commands that change the store -/

/-- A change of the messages in one of a user's mailboxes. -/
inductive OwnChange (userId : Nat) : Db → Db → Prop
  /-- Flags are changed. -/
  | flags (db : Db) (mailbox : String) (messageId : Nat) (mask : UInt32) (value : Bool) :
    OwnChange userId db (db.setFlagsIn userId mailbox messageId mask value).2
  /-- A mailbox is expunged. -/
  | expunge (db : Db) (mailbox : String) : OwnChange userId db (db.expungeIn userId mailbox).2

/-- Changes one after the other. -/
abbrev OwnChanges (userId : Nat) : Db → Db → Prop := Relation.ReflTransGen (OwnChange userId)

/-- Changing the flags of messages changes the user's own. -/
theorem storeMessages_changes (session : Session) (range : String) (mask : UInt32) (value : Bool)
    (count : UInt32) (messages : List MessageMeta) (db : Db) :
    OwnChanges session.userId db (storeMessages session range mask value count messages db).2 := by
  induction messages generalizing db with
  | nil => exact .refl
  | cons info rest ih =>
    rw [storeMessages]
    split
    · have change := @OwnChange.flags session.userId db session.selectedMailbox info.id
        mask value
      split
      · rename_i failed
        rw [failed] at change
        exact .single change
      · rename_i done
        rw [done] at change
        exact .head change (ih _)
    · exact ih db

/-- The responses for changed flags are data. -/
theorem isData_storeMessages {session : Session} {range : String} {mask : UInt32}
    {value : Bool} {count : UInt32} {messages : List MessageMeta} {db : Db} {replies : List Reply}
    (stored : (storeMessages session range mask value count messages db).1 = .ok replies) :
    replies.all isData = true := by
  induction messages generalizing db replies with
  | nil =>
    cases stored
    rfl
  | cons info rest ih =>
    rw [storeMessages] at stored
    split at stored
    · split at stored
      · cases stored
      · dsimp only at stored
        rename_i after _
        cases found : (storeMessages session range mask value count rest after).1 with
        | error =>
          rw [found] at stored
          cases stored
        | ok more =>
          rw [found] at stored
          rw [← Except.ok.inj stored]
          have plain : more.all isData = true := ih found
          exact plain
    · exact ih stored

/-- STORE is refused, or completes when a mailbox is selected, and changes the user's own
messages. -/
theorem cmdStore_cases (env : Environment) (session : Session) (db : Db) (cmd : ParsedCommand) :
    OwnChanges session.userId db (cmdStore env session db cmd).2 ∧
    ((∃ status, status ≠ .ok ∧ Completes cmd.tag status (cmdStore env session db cmd).1) ∨
      (session.state = .selected ∧ Completes cmd.tag .ok (cmdStore env session db cmd).1)) := by
  unfold cmdStore
  split
  · exact ⟨.refl, .inl ⟨.bad, nofun, completes_single ..⟩⟩
  · rename_i selected
    split
    · exact ⟨.refl, .inl ⟨.bad, nofun, completes_single ..⟩⟩
    · rename_i range mode flags _
      split
      · exact ⟨.refl, .inl ⟨.no, nofun, completes_single ..⟩⟩
      · rename_i messages _
        dsimp only
        split
        · exact ⟨.refl, .inl ⟨.bad, nofun, completes_single ..⟩⟩
        · have changes := storeMessages_changes session range (parseFlags flags)
            (!Text.startsWith (Text.trimStart mode) "-") (UInt32.ofNat messages.length) messages db
          split
          · rename_i failed
            rw [failed] at changes
            exact ⟨changes, .inl ⟨.no, nofun, completes_single ..⟩⟩
          · rename_i stored
            rw [stored] at changes
            exact ⟨changes, .inr ⟨Decidable.not_not.mp selected, completes_data
              (isData_storeMessages (congrArg Prod.fst stored)) ..⟩⟩

/-- A UID command is refused, or completes when a mailbox is selected, and changes the user's own
messages. -/
theorem cmdUid_cases (env : Environment) (session : Session) (db : Db) (cmd : ParsedCommand) :
    OwnChanges session.userId db (cmdUid env session db cmd).2 ∧
    ((∃ status, status ≠ .ok ∧ Completes cmd.tag status (cmdUid env session db cmd).1) ∨
      (session.state = .selected ∧ Completes cmd.tag .ok (cmdUid env session db cmd).1)) := by
  unfold cmdUid
  split
  · exact ⟨.refl, .inl ⟨.bad, nofun, completes_single ..⟩⟩
  · split
    · exact ⟨.refl, .inl ⟨.bad, nofun, completes_single ..⟩⟩
    · split
      · exact ⟨.refl, cmdFetch_cases env session db cmd⟩
      · exact cmdStore_cases env session db cmd
      · exact ⟨.refl, cmdSearch_cases env session db cmd⟩
      · exact ⟨.refl, .inl ⟨.bad, nofun, completes_single ..⟩⟩

/-- EXPUNGE is refused, or completes when a mailbox is selected, and changes the user's own
messages. -/
theorem cmdExpunge_cases (env : Environment) (session : Session) (db : Db) (tag : String) :
    OwnChanges session.userId db (cmdExpunge env session db tag).2 ∧
    ((∃ status, status ≠ .ok ∧ Completes tag status (cmdExpunge env session db tag).1) ∨
      (session.state = .selected ∧ Completes tag .ok (cmdExpunge env session db tag).1)) := by
  unfold cmdExpunge
  split
  · exact ⟨.refl, .inl ⟨.bad, nofun, completes_single ..⟩⟩
  · rename_i selected
    have change := @OwnChange.expunge session.userId db session.selectedMailbox
    split
    · rename_i uids after done
      rw [done] at change
      have plain : (uids.map fun uid => Reply.untagged (toString uid ++ " EXPUNGE")).all isData =
          true := by
        simp [isData]
      exact ⟨.single change, .inr ⟨Decidable.not_not.mp selected, completes_data plain ..⟩⟩
    · rename_i failed
      rw [failed] at change
      exact ⟨.single change, .inl ⟨.no, nofun, completes_single ..⟩⟩

/-- CLOSE is refused, or leaves the selected mailbox, and changes the user's own messages. -/
theorem cmdClose_cases (env : Environment) (session : Session) (db : Db) (tag : String) :
    OwnChanges session.userId db (cmdClose env session db tag).2.2 ∧
    ((∃ status text, status ≠ .ok ∧ (cmdClose env session db tag).1 = [.tagged tag status text] ∧
      (cmdClose env session db tag).2.1 = session) ∨
    (session.state = .selected ∧
      (cmdClose env session db tag).1 = [.tagged tag .ok "CLOSE completed"] ∧
      (cmdClose env session db tag).2.1 = { session with state := .authenticated })) := by
  unfold cmdClose
  split
  · exact ⟨.refl, .inl ⟨.bad, _, nofun, rfl, rfl⟩⟩
  · rename_i selected
    have change := @OwnChange.expunge session.userId db inbox
    split
    · rename_i failed
      rw [failed] at change
      exact ⟨.single change, .inl ⟨.no, _, nofun, rfl, rfl⟩⟩
    · rename_i done
      rw [done] at change
      exact ⟨.single change, .inr ⟨Decidable.not_not.mp selected, rfl, rfl⟩⟩

/-! ## All commands -/

/-- What a command leaves, with the status of its completion. -/
inductive Effect (session : Session) (db : Db) (cmd : ParsedCommand) :
    List Reply × Session × Db → Prop
  /-- The command is refused. -/
  | refused (status : Status) (replies : List Reply) (after : Db) (notOk : status ≠ .ok)
    (completes : Completes cmd.tag status replies) (changes : OwnChanges session.userId db after) :
    Effect session db cmd (replies, session, after)
  /-- The command is one of those that need no user. -/
  | anyone (replies : List Reply) (named : cmd.name ∈ ["CAPABILITY", "NOOP", "LOGOUT"])
    (completes : Completes cmd.tag .ok replies) : Effect session db cmd (replies, session, db)
  /-- The command is done for the user. -/
  | served (replies : List Reply) (after : Db) (known : session.state ≠ .notAuthenticated)
    (completes : Completes cmd.tag .ok replies) (changes : OwnChanges session.userId db after) :
    Effect session db cmd (replies, session, after)
  /-- A user logs in. -/
  | login (name : String) (user : User) (replies : List Reply)
    (named : cmd.name = "LOGIN" ∨ cmd.name = "AUTHENTICATE")
    (fresh : session.state = .notAuthenticated) (found : db.getUser name = some user)
    (completes : Completes cmd.tag .ok replies) :
    Effect session db cmd (replies, session.loggedIn user, db)
  /-- A mailbox is selected. -/
  | select (mailbox : String) (replies : List Reply) (known : session.state ≠ .notAuthenticated)
    (completes : Completes cmd.tag .ok replies) :
    Effect session db cmd
      (replies, { session with selectedMailbox := mailbox, state := .selected }, db)
  /-- The mailbox is left. -/
  | close (replies : List Reply) (after : Db) (selected : session.state = .selected)
    (completes : Completes cmd.tag .ok replies) (changes : OwnChanges session.userId db after) :
    Effect session db cmd (replies, { session with state := .authenticated }, after)
  /-- The server loop idles. -/
  | idle (named : cmd.name = "IDLE") (selected : session.state = .selected) :
    Effect session db cmd ([.continuation "idle"], session, db)

/-- The effect of a command that needs a selected mailbox and leaves the session. -/
theorem effect_of_mailbox {session : Session} {db after : Db} {cmd : ParsedCommand}
    {replies : List Reply} (changes : OwnChanges session.userId db after)
    (answer : (∃ status, status ≠ .ok ∧ Completes cmd.tag status replies) ∨
      (session.state = .selected ∧ Completes cmd.tag .ok replies)) :
    Effect session db cmd (replies, session, after) := by
  rcases answer with ⟨status, notOk, completes⟩ | ⟨selected, completes⟩
  · exact .refused status replies after notOk completes changes
  · refine .served replies after ?_ completes changes
    rw [selected]
    nofun

/-- Every command has one of these effects. -/
theorem handle_effect (env : Environment) (session : Session) (db : Db) (cmd : ParsedCommand) :
    Effect session db cmd (handle env session db cmd) := by
  have auth : cmd.name = "LOGIN" ∨ cmd.name = "AUTHENTICATE" → Effect session db cmd
      ((cmdAuth env session db cmd).1, (cmdAuth env session db cmd).2, db) := by
    intro named
    rcases cmdAuth_cases env session db cmd with
      ⟨status, text, notOk, done⟩ | ⟨name, user, text, fresh, found, done⟩
    · rw [done]
      exact .refused status _ db notOk (completes_single ..) .refl
    · rw [done]
      exact .login name user _ named fresh found (completes_single ..)
  have select : Effect session db cmd
      ((cmdSelect env session db cmd).1, (cmdSelect env session db cmd).2, db) := by
    rcases cmdSelect_cases env session db cmd with
      ⟨status, text, notOk, done⟩ | ⟨mailbox, data, text, known, plain, done⟩
    · rw [done]
      exact .refused status _ db notOk (completes_single ..) .refl
    · rw [done]
      exact .select mailbox _ known (completes_data plain ..)
  unfold handle
  split
  · rename_i named
    exact .anyone _ (by simp [named]) ⟨[_], _, rfl, rfl⟩
  · rename_i named
    exact .anyone _ (by simp [named]) (completes_single ..)
  · rename_i named
    exact .anyone _ (by simp [named]) ⟨[_], _, rfl, rfl⟩
  · rename_i named
    exact auth (.inl named)
  · rename_i named
    exact auth (.inr named)
  · exact select
  · exact select
  · rcases cmdList_cases session cmd with ⟨-, completes⟩ | ⟨known, completes⟩
    · exact .refused .bad _ db nofun completes .refl
    · exact .served _ db known completes .refl
  · rcases cmdNamespace_cases session cmd.tag with ⟨-, completes⟩ | ⟨known, completes⟩
    · exact .refused .bad _ db nofun completes .refl
    · exact .served _ db known completes .refl
  · rcases cmdStatus_cases env session db cmd with ⟨status, notOk, completes⟩ | ⟨known, completes⟩
    · exact .refused status _ db notOk completes .refl
    · exact .served _ db known completes .refl
  · exact effect_of_mailbox .refl (cmdFetch_cases env session db cmd)
  · obtain ⟨changes, answer⟩ := cmdUid_cases env session db cmd
    exact effect_of_mailbox changes answer
  · obtain ⟨changes, answer⟩ := cmdStore_cases env session db cmd
    exact effect_of_mailbox changes answer
  · exact effect_of_mailbox .refl (cmdSearch_cases env session db cmd)
  · obtain ⟨changes, answer⟩ := cmdExpunge_cases env session db cmd.tag
    exact effect_of_mailbox changes answer
  · have outcome := cmdClose_cases env session db cmd.tag
    generalize cmdClose env session db cmd.tag = result at outcome
    obtain ⟨replies, left, after⟩ := result
    obtain ⟨changes, ⟨status, text, notOk, rfl, rfl⟩ | ⟨selected, rfl, rfl⟩⟩ := outcome
    · exact .refused status _ after notOk (completes_single ..) changes
    · exact .close _ after selected (completes_single ..) changes
  · rename_i named
    rcases cmdIdle_cases session cmd.tag with completes | ⟨selected, done⟩
    · exact .refused .bad _ db nofun completes .refl
    · rw [done]
      exact .idle named selected
  · split
    · exact .refused .no _ db nofun (completes_single ..) .refl
    · exact .refused .bad _ db nofun (completes_single ..) .refl

/-- Every command but IDLE is answered by one completion, its last line. -/
theorem handle_completes (env : Environment) (session : Session) (db : Db) {cmd : ParsedCommand}
    (notIdle : cmd.name ≠ "IDLE") :
    ∃ status, Completes cmd.tag status (handle env session db cmd).1 := by
  have effect := handle_effect env session db cmd
  generalize handle env session db cmd = result at effect ⊢
  cases effect with
  | refused status _ _ _ completes => exact ⟨status, completes⟩
  | anyone _ _ completes => exact ⟨.ok, completes⟩
  | served _ _ _ completes => exact ⟨.ok, completes⟩
  | login _ _ _ _ _ _ completes => exact ⟨.ok, completes⟩
  | select _ _ _ completes => exact ⟨.ok, completes⟩
  | close _ _ _ completes => exact ⟨.ok, completes⟩
  | idle named => exact absurd named notIdle

/-- A server on which bob is in the group `zsmtp`. -/
def groupEnvironment : Environment :=
  ⟨fun _ _ => false, fun _ _ _ => none, some [Utf8.bytes "bob"], fun _ => "", fun _ => "", ""⟩

end Talk.Verif.ImapSteps
