import Talk.Imap.Sections
import Talk.Verif.ParallelDeliveries

/-!
# Commands and deliveries alone

A command whose sections nobody comes between answers, and leaves the store, as the command that is
one step of the store. So does a delivery, and an append.
-/

namespace Talk.Verif.CommandsAlone

open Daemon Imap Mailstore Text ParallelDeliveries
open Protocol (Delivery)

variable (env : Environment) (session : Session) (db : Db) (cmd : ParsedCommand)

/-! ## Authentication -/

/-- The sections of an app password check, alone, are the check. -/
theorem call_acceptsShare (user : User) (password : String) :
    db.call (Sections.acceptsShare env user password) =
      (acceptsShare env db user password, db) := by
  unfold Sections.acceptsShare acceptsShare
  cases Hex.decode password with
  | none => rfl
  | some share =>
    dsimp only
    rw [Db.call_ite]
    split
    · rename_i size
      rw [Db.call_map, Db.call_getShares, size, Bool.true_and]
    · rename_i size
      rw [Db.call_pure, Bool.eq_false_iff.mpr size, Bool.false_and]

/-- The sections of a password check, alone, are the check. -/
theorem call_acceptsPassword (authMode : AuthMode) (name password : String) :
    db.call (Sections.acceptsPassword env authMode name password) =
      (acceptsPassword env authMode db name password, db) := by
  cases authMode with
  | localAuth => rfl
  | database =>
    dsimp only [Sections.acceptsPassword, acceptsPassword]
    rw [Db.call_bind, Db.call_passwordHash]
    dsimp only
    cases db.passwordHash name with
    | none => rfl
    | some hash => rfl

/-- The sections of a login, alone, are the login. -/
theorem call_login (tag username password : String) :
    db.call (Sections.login env session tag username password) =
      (login env session db tag username password, db) := by
  unfold Sections.login login
  cases localUsername (loginName username).1 session.domain with
  | none => rfl
  | some name =>
    dsimp only
    rw [Db.call_bind, Db.call_getUser]
    dsimp only
    cases db.getUser name with
    | none => rfl
    | some user =>
      dsimp only
      rw [Db.call_ite]
      split
      · rw [Db.call_bind, call_acceptsShare]
        dsimp only
        split
        · rfl
        · rfl
      · rw [Db.call_bind, call_acceptsPassword]
        dsimp only
        split
        · rfl
        · rfl

/-- The sections of LOGIN and AUTHENTICATE, alone, are the command. -/
theorem call_cmdAuth :
    db.call (Sections.cmdAuth env session cmd) = (cmdAuth env session db cmd, db) := by
  unfold Sections.cmdAuth cmdAuth
  by_cases known : session.state ≠ .notAuthenticated
  · rw [if_pos known, if_pos known]
    rfl
  rw [if_neg known, if_neg known]
  by_cases plain : cmd.name = "AUTHENTICATE"
  · rw [if_pos plain, if_pos plain]
    rcases cmd.args with _ | ⟨mechanism, _ | ⟨token, _ | ⟨more, rest⟩⟩⟩
    · rfl
    · rfl
    · dsimp only
      by_cases right : eqIgnoreAsciiCase mechanism "PLAIN" = true
      · rw [if_pos right, if_pos right]
        cases Base64.decode token with
        | none => rfl
        | some token =>
          dsimp only
          rcases token.splitOn 0 with _ | ⟨name, _ | ⟨username, _ | ⟨password, _ | ⟨more, rest⟩⟩⟩⟩
          · rfl
          · rfl
          · rfl
          · exact call_login env session db _ _ _
          · rfl
      · rw [if_neg right, if_neg right]
        rfl
    · rfl
  · rw [if_neg plain, if_neg plain]
    rcases cmd.args with _ | ⟨username, _ | ⟨password, _ | ⟨more, rest⟩⟩⟩
    · rfl
    · rfl
    · exact call_login env session db _ _ _
    · rfl

/-! ## Mailboxes -/

/-- The sections of SELECT and EXAMINE, alone, are the command. -/
theorem call_cmdSelect :
    db.call (Sections.cmdSelect env session cmd) = (cmdSelect env session db cmd, db) := by
  unfold Sections.cmdSelect cmdSelect
  by_cases unknown : session.state = .notAuthenticated
  · rw [if_pos unknown, if_pos unknown]
    rfl
  rw [if_neg unknown, if_neg unknown]
  cases cmd.args.head?.bind canonicalMailbox with
  | none => rfl
  | some mailbox =>
    dsimp only
    rw [Db.call_bind, Db.call_listMessagesIn]
    dsimp only
    cases db.listMessagesIn session.userId mailbox with
    | error error => rfl
    | ok messages =>
      dsimp only
      rw [Db.call_bind, Db.call_uidnextIn]
      rfl

/-- The sections of STATUS, alone, are the command. -/
theorem call_cmdStatus :
    db.call (Sections.cmdStatus env session cmd) = (cmdStatus env session db cmd, db) := by
  unfold Sections.cmdStatus cmdStatus
  by_cases unknown : session.state = .notAuthenticated
  · rw [if_pos unknown, if_pos unknown]
    rfl
  rw [if_neg unknown, if_neg unknown]
  cases cmd.args.head?.bind canonicalMailbox with
  | none => rfl
  | some mailbox =>
    dsimp only
    rw [Db.call_bind, Db.call_listMessagesIn]
    dsimp only
    cases db.listMessagesIn session.userId mailbox with
    | error error => rfl
    | ok messages =>
      dsimp only
      rw [Db.call_bind, Db.call_uidnextIn]
      rfl

/-! ## Messages -/

/-- The section that reads a needed body, alone, reads it. -/
theorem call_neededBody (req : FetchRequest) (messageId : Nat) :
    db.call (Sections.neededBody session req messageId) =
      (if req.body.needsStoredBody then
        (db.fetchMessageIn session.userId session.selectedMailbox messageId).map Message.body
      else .ok [], db) := by
  rw [Sections.neededBody, Db.call_ite]
  split
  · rw [Db.call_map, Db.call_fetchMessageIn]
  · rfl

/-- The sections that fetch messages, alone, give their responses. -/
theorem call_fetchMessages (range : String) (req : FetchRequest) (count : UInt32)
    (messages : List MessageMeta) :
    db.call (Sections.fetchMessages env session range req count messages) =
      (fetchMessages env session db range req count messages, db) := by
  induction messages with
  | nil => rfl
  | cons info rest ih =>
    rw [Sections.fetchMessages, fetchMessages, Db.call_ite]
    split
    · rw [Db.call_bind, call_neededBody]
      dsimp only
      cases (if req.body.needsStoredBody then
          (db.fetchMessageIn session.userId session.selectedMailbox info.id).map Message.body
        else .ok []) with
      | error error => rfl
      | ok body => exact (Db.call_map _ _ _).trans (by rw [ih])
    · exact ih

/-- The sections of FETCH, alone, are the command. -/
theorem call_cmdFetch :
    db.call (Sections.cmdFetch env session cmd) = (cmdFetch env session db cmd, db) := by
  unfold Sections.cmdFetch cmdFetch
  by_cases unselected : session.state ≠ .selected
  · rw [if_pos unselected, if_pos unselected]
    rfl
  rw [if_neg unselected, if_neg unselected]
  cases fetchArguments cmd with
  | error text => rfl
  | ok arguments =>
    dsimp only
    rw [Db.call_bind, Db.call_listMessagesIn]
    dsimp only
    cases db.listMessagesIn session.userId session.selectedMailbox with
    | error error => rfl
    | ok messages =>
      dsimp only
      rw [Db.call_bind, call_fetchMessages]
      dsimp only
      cases fetchMessages env session db arguments.1
          (if cmd.name = "UID" then { parseFetchItems arguments.2 with uid := true }
            else parseFetchItems arguments.2) (UInt32.ofNat messages.length) messages with
      | error error => rfl
      | ok replies => rfl

/-- The sections that change flags, alone, change them. -/
theorem call_storeMessages (range : String) (mask : UInt32) (value : Bool) (count : UInt32)
    (messages : List MessageMeta) :
    db.call (Sections.storeMessages session range mask value count messages) =
      storeMessages session range mask value count messages db := by
  induction messages generalizing db with
  | nil => rfl
  | cons info rest ih =>
    rw [Sections.storeMessages, storeMessages, Db.call_ite]
    split
    · rw [Db.call_bind, Db.call_setFlagsIn]
      rcases db.setFlagsIn session.userId session.selectedMailbox info.id mask value with
        ⟨error | _, after⟩
      · rfl
      · exact (Db.call_map _ _ _).trans (by rw [ih])
    · exact ih db

/-- The sections of STORE, alone, are the command. -/
theorem call_cmdStore :
    db.call (Sections.cmdStore env session cmd) = cmdStore env session db cmd := by
  unfold Sections.cmdStore cmdStore
  by_cases unselected : session.state ≠ .selected
  · rw [if_pos unselected, if_pos unselected]
    rfl
  rw [if_neg unselected, if_neg unselected]
  cases storeArguments cmd with
  | error text => rfl
  | ok arguments =>
    dsimp only
    rw [Db.call_bind, Db.call_listMessagesIn]
    dsimp only
    cases db.listMessagesIn session.userId session.selectedMailbox with
    | error error => rfl
    | ok messages =>
      dsimp only
      rw [Db.call_ite]
      split
      · rfl
      · rw [Db.call_bind, call_storeMessages]
        rcases storeMessages session arguments.1 (parseFlags arguments.2.2)
            (!startsWith (trimStart arguments.2.1) "-") (UInt32.ofNat messages.length) messages db
          with ⟨error | replies, after⟩
        · rfl
        · rfl

/-- The sections of SEARCH, alone, are the command. -/
theorem call_cmdSearch :
    db.call (Sections.cmdSearch env session cmd) = (cmdSearch env session db cmd, db) := by
  unfold Sections.cmdSearch cmdSearch
  by_cases unselected : session.state ≠ .selected
  · rw [if_pos unselected, if_pos unselected]
    rfl
  rw [if_neg unselected, if_neg unselected, Db.call_bind, Db.call_listMessagesIn]
  dsimp only
  cases db.listMessagesIn session.userId session.selectedMailbox with
  | error error => rfl
  | ok messages => rfl

/-- The sections of a UID command, alone, are the command. -/
theorem call_cmdUid : db.call (Sections.cmdUid env session cmd) = cmdUid env session db cmd := by
  unfold Sections.cmdUid cmdUid
  by_cases unselected : session.state ≠ .selected
  · rw [if_pos unselected, if_pos unselected]
    rfl
  rw [if_neg unselected, if_neg unselected]
  cases cmd.args.head? with
  | none => rfl
  | some sub =>
    dsimp only
    generalize toAsciiUppercase sub = verb
    split
    · exact call_cmdFetch env session db cmd
    · exact call_cmdStore env session db cmd
    · exact call_cmdSearch env session db cmd
    · -- The match on the other side is decided by the same name; it may be the same match.
      try simp only
      rfl

/-- The sections of EXPUNGE, alone, are the command. -/
theorem call_cmdExpunge (tag : String) :
    db.call (Sections.cmdExpunge env session tag) = cmdExpunge env session db tag := by
  unfold Sections.cmdExpunge cmdExpunge
  by_cases unselected : session.state ≠ .selected
  · rw [if_pos unselected, if_pos unselected]
    rfl
  rw [if_neg unselected, if_neg unselected, Db.call_bind, Db.call_expungeIn]
  rcases db.expungeIn session.userId session.selectedMailbox with ⟨error | uids, after⟩
  · rfl
  · rfl

/-- The sections of CLOSE, alone, are the command. -/
theorem call_cmdClose (tag : String) :
    db.call (Sections.cmdClose env session tag) =
      (((cmdClose env session db tag).1, (cmdClose env session db tag).2.1),
        (cmdClose env session db tag).2.2) := by
  unfold Sections.cmdClose cmdClose
  by_cases unselected : session.state ≠ .selected
  · rw [if_pos unselected, if_pos unselected]
    rfl
  rw [if_neg unselected, if_neg unselected, Db.call_bind, Db.call_expungeIn]
  rcases db.expungeIn session.userId inbox with ⟨error | uids, after⟩
  · rfl
  · rfl

/-- A command that leaves the session, alone. -/
theorem call_staying {replies : Mailstore.Sections (List Reply)} {result : List Reply × Db}
    (alone : db.call replies = result) :
    db.call (Sections.staying session replies) = ((result.1, session), result.2) := by
  rw [Sections.staying, Db.call_map, alone]

/-- With nobody else there, the sections of a command are the command. -/
theorem call_handle :
    db.call (Sections.handle env session cmd) =
      (((handle env session db cmd).1, (handle env session db cmd).2.1),
        (handle env session db cmd).2.2) := by
  unfold Sections.handle handle
  generalize cmd.name = name
  split
  case h_4 => exact call_cmdAuth env session db cmd
  case h_5 => exact call_cmdAuth env session db cmd
  case h_6 => exact call_cmdSelect env session db cmd
  case h_7 => exact call_cmdSelect env session db cmd
  case h_10 => exact call_staying session db (call_cmdStatus env session db cmd)
  case h_11 => exact call_staying session db (call_cmdFetch env session db cmd)
  case h_12 => exact call_staying session db (call_cmdUid env session db cmd)
  case h_13 => exact call_staying session db (call_cmdStore env session db cmd)
  case h_14 => exact call_staying session db (call_cmdSearch env session db cmd)
  case h_15 => exact call_staying session db (call_cmdExpunge env session db cmd.tag)
  case h_16 => exact call_cmdClose env session db cmd.tag
  case h_18 =>
    -- As for a UID command.
    try simp only
    split
    · rfl
    · rfl
  all_goals rfl

/-! ## Commands, deliveries and appends -/

/-- With nobody else there, the sections of a command are the command, those of a delivery, from the
wire or simulated, are the delivery, and those of an append are the append. -/
theorem sections_are_calls (db : Db) :
    (∀ (env : Environment) (session : Session) (cmd : ParsedCommand),
      db.call (Sections.handle env session cmd) =
        (((handle env session db cmd).1, (handle env session db cmd).2.1),
          (handle env session db cmd).2.2)) ∧
    (∀ (template : Template) (now : Int64) (delivery : Delivery),
      let job := Job.ofDelivery template now delivery
      runJobs db [job] (List.replicate 6 (.turn 0)) =
        ⟨(deliver template now delivery db).2,
          [⟨job, .done (deliver template now delivery db).1⟩]⟩) ∧
    (∀ (recipient senderLabel amount messageId subject : String) (body : List UInt8) (now : Int64),
      let job := Job.ofEmulation recipient senderLabel amount messageId subject body now
      let delivered := deliverEmulated db recipient senderLabel amount messageId subject body now
      runJobs db [job] (List.replicate 6 (.turn 0)) = ⟨delivered.2, [⟨job, .done delivered.1⟩]⟩) ∧
    ∀ {ι : Type} [DecidableEq ι] (calls : ι → UidAllocation.Call) (call : ι) (now : Int64),
      let appended := db.appendMessageTo (calls call).userId (calls call).mailbox (calls call).msg
        now
      let state := Transition.run (UidAllocation.step calls) (UidAllocation.start db)
        [.read call, .insert call now]
      state.db = appended.2 ∧ state.phase call = .done appended.1 :=
  ⟨fun env session cmd => call_handle env session db cmd,
    fun template now delivery => alone_start db (.ofDelivery template now delivery),
    fun recipient senderLabel amount messageId subject body now =>
      alone_start db (.ofEmulation recipient senderLabel amount messageId subject body now),
    fun calls call now => UidAllocation.step_uninterrupted calls db call now⟩

end Talk.Verif.CommandsAlone
