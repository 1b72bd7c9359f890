import Mathlib.Data.List.Pairwise
import Talk.Daemon.Parallel
import Talk.Verif.Mailboxes

/-!
# Deliveries at once

Deliveries of many peers, section by section in any order, while IMAP sessions set flags. Whatever
the order, each delivery that is answered is accepted or refused once and for all: of those with one
message id for one user a single one is accepted, and the INBOXes hold what was there and the
accepted ones, nothing else and nothing twice.
-/

namespace Talk.Verif.ParallelDeliveries

open Mailstore Table Protocol Daemon Transition Interleaving StoreSteps StoreCalls

variable {base now : Db} {job : Job}

/-! ## One at a time -/

/-- A delivery that nobody disturbs, for some sections. -/
def alone (db : Db) (job : Job) (phase : Phase) (turns : Nat) : Pool Db Thread :=
  run (Pool.take Thread.step FlagChange.apply) ⟨db, [⟨job, phase⟩]⟩
    (List.replicate turns (.turn 0))

/-- A delivery that nobody disturbs takes its next section first. -/
theorem alone_succ (db : Db) (job : Job) (phase : Phase) (turns : Nat) :
    alone db job phase (turns + 1) =
      alone (job.next db phase).1 job (job.next db phase).2 turns := rfl

/-- A delivery that is answered stays so. -/
theorem alone_done (db : Db) (job : Job) (outcome : DeliveryOutcome) (turns : Nat) :
    alone db job (.done outcome) turns = ⟨db, [⟨job, .done outcome⟩]⟩ := by
  induction turns with
  | zero => rfl
  | succ turns ih => rw [alone_succ, Job.next, ih]

/-- A message that is stored is recorded, when nobody disturbs its delivery. -/
theorem alone_stored (db : Db) (job : Job) (info : MessageMeta) (turns : Nat) :
    alone db job (.stored info) (turns + 2) =
      ⟨recordInboundTx db job.sender job.recipient job.amount job.messageId info.id job.now,
        [⟨job, .done (.accepted job.messageId)⟩]⟩ := by
  rw [alone_succ, Job.next, recordInboundTx]
  rcases txCreate_cases db (inboundTx job.sender job.recipient job.amount job.messageId) job.now
    with ⟨-, kept⟩ | ⟨-, made⟩
  · rw [kept]
    exact alone_done db job _ _
  · rw [made]
    exact alone_done _ job _ _

/-- A message whose sender's label is known is stored and recorded, or refused, when nobody disturbs
its delivery. -/
theorem alone_labelled (db : Db) (job : Job) (user : User) (trust : TrustState) (turns : Nat) :
    alone db job (.labelled user trust) (turns + 4) =
      ⟨(store db user.id (job.message trust) job.recipient job.amount job.now).2,
        [⟨job, .done (store db user.id (job.message trust) job.recipient job.amount
          job.now).1⟩]⟩ := by
  rw [alone_succ, Job.next]
  rcases store_cases db user.id (job.message trust) job.recipient job.amount job.now with
    ⟨missing, refused⟩ | ⟨handle, named, ⟨held, refused⟩ | ⟨fresh, stored⟩⟩
  · rw [missing, refused]
    exact alone_done db job _ _
  · rw [named, refused]
    dsimp only
    rw [alone_succ, Job.next, Db.insertMessage, if_pos held]
    exact alone_done db job _ _
  · obtain ⟨box, member, -, -, rfl⟩ := mailboxNamed_ok named
    rw [named, stored]
    dsimp only
    rw [alone_succ, Job.next]
    rcases insertMessage_cases db ⟨box.id, box.uidvalidity, box.uidnext⟩ (job.message trust) job.now
      with ⟨held, -⟩ | ⟨-, gone, -⟩ | ⟨-, -, inserted⟩
    · rw [held] at fresh
      cases fresh
    · exact absurd ⟨box, member, rfl⟩ gone
    · rw [inserted]
      exact alone_stored _ job _ turns

/-- The sections of a delivery, one after the other, are the delivery. -/
theorem alone_start (db : Db) (job : Job) :
    runJobs db [job] (List.replicate 6 (.turn 0)) =
      ⟨(deliverEmulated db job.recipient job.sender job.amount job.messageId job.subject job.body
          job.now).2,
        [⟨job, .done (deliverEmulated db job.recipient job.sender job.amount job.messageId
          job.subject job.body job.now).1⟩]⟩ := by
  have same : runJobs db [job] (List.replicate 6 (.turn 0)) = alone db job .start 6 := rfl
  rw [same, alone_succ, Job.next, deliverEmulated]
  cases recipientUser db job.recipient with
  | error outcome => exact alone_done db job _ _
  | ok user =>
    dsimp only
    rw [alone_succ, Job.next]
    exact alone_labelled db job user _ 0

/-! ## What everybody keeps -/

/-- A mailbox without its counter. -/
def placeOf (box : MailboxRow) : MailboxRow := { box with uidnext := 0 }

/-- The users, their pins and their mailboxes are those of a store. -/
structure Stands (base now : Db) : Prop where
  /-- The users. -/
  users : now.users = base.users
  /-- The pins. -/
  keyring : now.keyring = base.keyring
  /-- The shares. -/
  shares : now.shares = base.shares
  /-- The mailboxes, apart from their counters. -/
  mailboxes : now.mailboxes.map placeOf = base.mailboxes.map placeOf

/-- The recipient is looked up as in the store. -/
theorem Stands.recipientUser (stands : Stands base now) (recipient : String) :
    recipientUser now recipient = recipientUser base recipient := by
  rw [Daemon.recipientUser, Daemon.recipientUser, Db.getUser, Db.getUser, stands.users]

/-- The sender's label is that of the store. -/
theorem Stands.keyringState (stands : Stands base now) (userId : Nat) (sender : String) :
    keyringState now userId sender = keyringState base userId sender := by
  rw [Daemon.keyringState, Daemon.keyringState, Db.keyringSenderKey, Db.keyringSenderKey,
    stands.keyring]

/-- A mailbox of the store is there, whatever its counter. -/
theorem Stands.exists_box (stands : Stands base now) {box : MailboxRow}
    (member : box ∈ base.mailboxes) : ∃ row ∈ now.mailboxes, row.id = box.id := by
  have inside : placeOf box ∈ now.mailboxes.map placeOf := by
    rw [stands.mailboxes]
    exact List.mem_map_of_mem member
  obtain ⟨row, found, same⟩ := List.mem_map.mp inside
  have ids : (placeOf row).id = (placeOf box).id := congrArg MailboxRow.id same
  exact ⟨row, found, ids⟩

/-- The mailbox that is named, if there is one. -/
def boxNamed (db : Db) (userId : Nat) (name : String) : Option MailboxRow :=
  db.mailboxes.find? fun box => decide ((box.userId, box.name) = (userId, name))

/-- A mailbox is named as in the store. -/
theorem Stands.boxNamed (stands : Stands base now) (userId : Nat) (name : String) :
    (boxNamed now userId name).map placeOf = (boxNamed base userId name).map placeOf := by
  have sees (db : Db) : (ParallelDeliveries.boxNamed db userId name).map placeOf =
      (db.mailboxes.map placeOf).find?
        fun box => decide ((box.userId, box.name) = (userId, name)) := by
    rw [List.find?_map]
    rfl
  rw [sees, sees, stands.mailboxes]

/-- The mailbox a delivery goes to, if its recipient has one. -/
def destination (base : Db) (job : Job) : Option Nat :=
  match recipientUser base job.recipient with
  | .error _ => none
  | .ok user => (boxNamed base user.id inbox).map MailboxRow.id

/-- The label of a delivery's sender. -/
def labelOf (base : Db) (job : Job) : TrustState :=
  match recipientUser base job.recipient with
  | .error _ => .unverified
  | .ok user => keyringState base user.id job.sender

/-- A row without what depends on the order of the inserts, and without its flags. -/
def contentOf (row : MessageRow) : MessageRow :=
  { row with id := 0, uid := 0, flags := .default }

/-- What is stored of a delivery. -/
def jobRow (base : Db) (job : Job) : MessageRow :=
  ⟨0, (destination base job).getD 0, job.messageId, 0, job.now, .default, job.subject,
    job.body.length, job.body, job.sender, (labelOf base job).word⟩

/-- What is stored, in the order of the inserts. -/
def logOf (db : Db) : List MessageRow := db.messages.map contentOf

/-- A message of a mailbox. -/
def keyOf (row : MessageRow) : Nat × String := (row.mailboxId, row.messageId)

/-- The message id of a delivery has an inbound transaction. -/
def Recorded (db : Db) (job : Job) : Prop :=
  ∃ tx ∈ db.transactions, Db.txKey tx = (.incoming, job.messageId)

/-- A mailbox holds a message exactly if the log has it. -/
theorem holds_iff_log (db : Db) (mailboxId : Nat) (messageId : String) :
    db.holds mailboxId messageId = true ↔ (mailboxId, messageId) ∈ (logOf db).map keyOf := by
  have same : (logOf db).map keyOf = db.messages.map keyOf := by
    rw [logOf, List.map_map]
    rfl
  rw [same, Db.holds, List.any_eq_true, List.mem_map]
  simp only [decide_eq_true_eq]
  rfl

/-- What is so while deliveries run: the store stands, and no message is there twice. -/
structure Steady (base now : Db) : Prop where
  /-- Users and mailboxes stand. -/
  stands : Stands base now
  /-- Message ids are unique. -/
  once : ((logOf now).map keyOf).Nodup

/-- What is kept: the log and the ledger grow. -/
structure Grows (before after : Db) : Prop where
  /-- The log. -/
  log : logOf before <+: logOf after
  /-- The keys of the ledger. -/
  ledger : before.transactions.map Db.txKey ⊆ after.transactions.map Db.txKey

/-- How a delivery is answered. -/
inductive Answered (base now : Db) (job : Job) : DeliveryOutcome → Prop
  /-- The recipient is unknown. -/
  | unknown {outcome : DeliveryOutcome}
      (refused : recipientUser base job.recipient = .error outcome) :
      Answered base now job outcome
  /-- Its message is stored, and recorded. -/
  | accepted {box : Nat} (home : destination base job = some box) (recorded : Recorded now job) :
      Answered base now job (.accepted job.messageId)
  /-- There is a message with its id. -/
  | duplicate {box : Nat} (home : destination base job = some box)
      (held : (box, job.messageId) ∈ (logOf now).map keyOf) :
      Answered base now job (.rejected ("duplicate message id: " ++ job.messageId))

/-- What a delivery knows in each place. -/
def Knows (base now : Db) (thread : Thread) : Prop :=
  match thread.phase with
  | .start => True
  | .found user => recipientUser base thread.job.recipient = .ok user
  | .labelled user trust => recipientUser base thread.job.recipient = .ok user ∧
      trust = labelOf base thread.job
  | .named handle trust => destination base thread.job = some handle.id ∧
      (∃ box ∈ base.mailboxes, box.id = handle.id) ∧ trust = labelOf base thread.job
  | .stored _ => ∃ box, destination base thread.job = some box
  | .created _ _ => (∃ box, destination base thread.job = some box) ∧ Recorded now thread.job
  | .done outcome => Answered base now thread.job outcome

/-! ## One section -/

/-- A known recipient has an INBOX, which is named with its own id, whatever its counter. -/
theorem named_destination (intact : Intact base) (stands : Stands base now) {user : User}
    (found : recipientUser base job.recipient = .ok user) :
    ∃ handle, now.mailboxNamed user.id inbox = .ok handle ∧
      destination base job = some handle.id ∧ ∃ box ∈ base.mailboxes, box.id = handle.id := by
  have row : ∃ row ∈ base.users, row.id = user.id := by
    unfold recipientUser at found
    dsimp only at found
    split at found
    · cases found
    · split at found
      · rename_i known
        obtain rfl := Except.ok.inj found
        obtain ⟨row, seen, rfl⟩ := Option.map_eq_some_iff.mp known
        exact ⟨row, List.mem_of_find?_eq_some seen, rfl⟩
      · cases found
  obtain ⟨row, member, id⟩ := row
  obtain ⟨box, inside, owner, name⟩ := intact.furnished row member inbox (List.mem_cons_self ..)
  have there : boxNamed base user.id inbox = some box :=
    (find_eq_some_iff intact.keyed.mailboxNames).mpr ⟨inside, by rw [owner, name, id]⟩
  have place := stands.boxNamed user.id inbox
  rw [there] at place
  obtain ⟨current, seen, same⟩ := Option.map_eq_some_iff.mp place
  have ids : (placeOf current).id = (placeOf box).id := congrArg MailboxRow.id same
  refine ⟨⟨current.id, current.uidvalidity, current.uidnext⟩, ?_, ?_, box, inside, ids.symm⟩
  · rw [Db.mailboxNamed]
    rw [boxNamed] at seen
    rw [seen]
  · rw [destination, found]
    dsimp only
    rw [there]
    exact congrArg some ids.symm

/-- A store grows to itself. -/
theorem grows_refl (db : Db) : Grows db db := ⟨List.prefix_rfl, List.Subset.refl _⟩

/-- What a delivery knows, it knows later. -/
theorem knows_grows {before after : Db} {thread : Thread} (grows : Grows before after)
    (known : Knows base before thread) : Knows base after thread := by
  have recorded {job : Job} (there : Recorded before job) : Recorded after job := by
    obtain ⟨tx, member, key⟩ := there
    have inside := grows.ledger (List.mem_map_of_mem member)
    rw [key] at inside
    obtain ⟨other, found, same⟩ := List.mem_map.mp inside
    exact ⟨other, found, same⟩
  unfold Knows at known ⊢
  split at known
  · trivial
  · exact known
  · exact known
  · exact known
  · exact known
  · exact ⟨known.1, recorded known.2⟩
  · cases known with
    | unknown refused => exact .unknown refused
    | accepted home there => exact .accepted home (recorded there)
    | duplicate home held =>
      exact .duplicate home ((grows.log.sublist.map keyOf).subset held)

/-- A change of flags leaves the log. -/
theorem logOf_flags (db : Db) (change : FlagChange) : logOf (change.apply db) = logOf db := by
  rw [FlagChange.apply, Db.setFlagsIn]
  split
  · rfl
  · refine map_update (fun row => ?_) _ _
    rfl

/-- A change of flags leaves users, mailboxes and the ledger. -/
theorem steady_flags (steady : Steady base now) (change : FlagChange) :
    Steady base (change.apply now) ∧ Grows now (change.apply now) := by
  have rest : Stands base (change.apply now) ∧
      (change.apply now).transactions = now.transactions := by
    rw [FlagChange.apply, Db.setFlagsIn]
    split
    · exact ⟨steady.stands, rfl⟩
    · exact ⟨⟨steady.stands.users, steady.stands.keyring, steady.stands.shares,
        steady.stands.mailboxes⟩, rfl⟩
  have log := logOf_flags now change
  refine ⟨⟨rest.1, by rw [log]; exact steady.once⟩, ?_, ?_⟩
  · rw [log]
  · rw [rest.2]
    exact List.Subset.refl _

/-- A message that is not there is inserted, in a mailbox that is: the log has one more row. -/
theorem steady_inserted (steady : Steady base now) {handle : Db.Handle}
    (home : destination base job = some handle.id)
    (fresh : now.holds handle.id job.messageId = false) :
    logOf (now.inserted handle (job.message (labelOf base job)) job.now) =
        logOf now ++ [jobRow base job] ∧
      Steady base (now.inserted handle (job.message (labelOf base job)) job.now) := by
  have log : logOf (now.inserted handle (job.message (labelOf base job)) job.now) =
      logOf now ++ [jobRow base job] := by
    have row : contentOf (now.newRow handle (job.message (labelOf base job)) job.now) =
        jobRow base job := by
      rw [jobRow, home]
      rfl
    rw [logOf, Db.inserted]
    dsimp only
    rw [List.map_append, List.map_singleton, row, logOf]
  have key : keyOf (jobRow base job) = (handle.id, job.messageId) := by
    rw [keyOf, jobRow, home]
    rfl
  refine ⟨log, ⟨⟨steady.stands.users, steady.stands.keyring, steady.stands.shares, ?_⟩, ?_⟩⟩
  · have boxes : (now.inserted handle (job.message (labelOf base job)) job.now).mailboxes.map
        placeOf = now.mailboxes.map placeOf := by
      refine map_update (fun box => ?_) _ _
      rfl
    exact boxes.trans steady.stands.mailboxes
  · rw [log, List.map_append, List.map_singleton, key]
    refine List.nodup_append.mpr ⟨steady.once, List.nodup_singleton _, ?_⟩
    intro value member other inside same
    obtain rfl := List.mem_singleton.mp inside
    obtain rfl := same
    rw [(holds_iff_log now handle.id job.messageId).mpr member] at fresh
    cases fresh

/-- The ledger with a new transaction, or an old one changed. -/
theorem steady_transactions (steady : Steady base now) (transactions : List Transaction) :
    Steady base { now with transactions := transactions } :=
  ⟨⟨steady.stands.users, steady.stands.keyring, steady.stands.shares, steady.stands.mailboxes⟩,
    steady.once⟩

/-- A delivery has stored its message. -/
def Stores : Phase → Bool
  | .stored _ | .created _ _ | .done (.accepted _) => true
  | _ => false

/-- What a section leaves. -/
structure Section (base now : Db) (job : Job) (phase : Phase) (after : Db) (reached : Phase) :
    Prop where
  /-- Users and mailboxes stand. -/
  steady : Steady base after
  /-- The log and the ledger grow. -/
  grows : Grows now after
  /-- The delivery knows its place. -/
  knows : Knows base after ⟨job, reached⟩
  /-- It stores its message, or leaves the log. -/
  logged : (Stores reached = Stores phase ∧ logOf after = logOf now) ∨
    (Stores phase = false ∧ Stores reached = true ∧ logOf after = logOf now ++ [jobRow base job])

/-- A section that only reads leaves what a section leaves. -/
theorem section_read (steady : Steady base now) {phase reached : Phase}
    (knows : Knows base now ⟨job, reached⟩) (same : Stores reached = Stores phase) :
    Section base now job phase now reached :=
  ⟨steady, grows_refl now, knows, .inl ⟨same, rfl⟩⟩

/-- A recipient is unknown, or found. -/
theorem recipientUser_cases (db : Db) (recipient : String) :
    (∃ reason, recipientUser db recipient = .error (.rejected reason)) ∨
      ∃ user, recipientUser db recipient = .ok user := by
  unfold recipientUser
  dsimp only
  split
  · exact .inl ⟨_, rfl⟩
  · split
    · exact .inr ⟨_, rfl⟩
    · exact .inl ⟨_, rfl⟩

/-- The section of the insert leaves what a section leaves. -/
theorem section_named (steady : Steady base now) {handle : Db.Handle}
    (home : destination base job = some handle.id)
    (there : ∃ box ∈ base.mailboxes, box.id = handle.id) :
    Section base now job (.named handle (labelOf base job))
      (job.next now (.named handle (labelOf base job))).1
      (job.next now (.named handle (labelOf base job))).2 := by
  obtain ⟨box, member, id⟩ := there
  obtain ⟨current, inside, same⟩ := steady.stands.exists_box member
  rw [Job.next]
  rcases insertMessage_cases now handle (job.message (labelOf base job)) job.now with
    ⟨held, refused⟩ | ⟨-, gone, -⟩ | ⟨fresh, -, stored⟩
  · rw [refused]
    refine section_read steady ?_ rfl
    exact .duplicate home ((holds_iff_log now handle.id job.messageId).mp held)
  · exact absurd ⟨current, inside, same.trans id⟩ gone
  · rw [stored]
    obtain ⟨log, after⟩ := steady_inserted steady home fresh
    refine ⟨after, ⟨?_, List.Subset.refl _⟩, ⟨handle.id, home⟩, .inr ⟨rfl, rfl, log⟩⟩
    rw [log]
    exact List.prefix_append _ _

/-- The section of the ledger leaves what a section leaves. -/
theorem section_stored (steady : Steady base now) (info : MessageMeta)
    (home : ∃ box, destination base job = some box) :
    Section base now job (.stored info) (job.next now (.stored info)).1
      (job.next now (.stored info)).2 := by
  obtain ⟨box, home⟩ := home
  rw [Job.next]
  rcases txCreate_cases now (inboundTx job.sender job.recipient job.amount job.messageId) job.now
    with ⟨⟨tx, member, key⟩, kept⟩ | ⟨-, made⟩
  · rw [kept]
    exact section_read steady (.accepted home ⟨tx, member, key⟩) rfl
  · rw [made]
    have recorded : Recorded { now with
        transactions := now.transactions ++ [now.newTx
          (inboundTx job.sender job.recipient job.amount job.messageId) job.now] } job :=
      ⟨_, List.mem_append_right _ (List.mem_singleton_self _), rfl⟩
    refine ⟨steady_transactions steady _, ⟨List.prefix_rfl, ?_⟩, ⟨⟨box, home⟩, recorded⟩,
      .inl ⟨rfl, rfl⟩⟩
    dsimp only
    rw [List.map_append]
    exact List.subset_append_left _ _

/-- The section of the link leaves what a section leaves. -/
theorem section_created (steady : Steady base now) (info : MessageMeta) (tx : Transaction)
    (home : ∃ box, destination base job = some box) (recorded : Recorded now job) :
    Section base now job (.created info tx) (job.next now (.created info tx)).1
      (job.next now (.created info tx)).2 := by
  obtain ⟨box, home⟩ := home
  have keys : (now.txLinkMessage tx.id info.id job.now).transactions.map Db.txKey =
      now.transactions.map Db.txKey := by
    refine map_update (fun row => ?_) _ _
    rfl
  have grows : Grows now (now.txLinkMessage tx.id info.id job.now) := by
    refine ⟨List.prefix_rfl, ?_⟩
    rw [keys]
    exact List.Subset.refl _
  refine ⟨steady_transactions steady _, grows, ?_, .inl ⟨rfl, rfl⟩⟩
  have later : Knows base (now.txLinkMessage tx.id info.id job.now) ⟨job, .created info tx⟩ :=
    knows_grows grows ⟨⟨box, home⟩, recorded⟩
  exact .accepted home later.2

/-- Every section leaves what the others rely on. -/
theorem section_next (intact : Intact base) (steady : Steady base now) (job : Job) (phase : Phase)
    (known : Knows base now ⟨job, phase⟩) :
    Section base now job phase (job.next now phase).1 (job.next now phase).2 := by
  cases phase with
  | start =>
    rw [Job.next, steady.stands.recipientUser]
    rcases recipientUser_cases base job.recipient with ⟨reason, refused⟩ | ⟨user, found⟩
    · rw [refused]
      exact section_read steady (.unknown refused) rfl
    · rw [found]
      exact section_read steady found rfl
  | found user =>
    have found : recipientUser base job.recipient = .ok user := known
    refine section_read steady ⟨found, ?_⟩ rfl
    rw [labelOf, found]
    exact steady.stands.keyringState user.id job.sender
  | labelled user trust =>
    obtain ⟨found, label⟩ := known
    obtain ⟨handle, named, home, there⟩ := named_destination intact steady.stands found
    rw [Job.next, named]
    exact section_read steady ⟨home, there, label⟩ rfl
  | named handle trust =>
    have home : destination base job = some handle.id := known.1
    have label : trust = labelOf base job := known.2.2
    subst label
    exact section_named steady home known.2.1
  | stored info => exact section_stored steady info known
  | created info tx => exact section_created steady info tx known.1 known.2
  | done outcome => exact section_read steady known rfl

/-! ## Runs -/

/-- What deliveries know, they keep among each other. -/
theorem discipline (intact : Intact base) :
    Discipline Thread.step FlagChange.apply (Steady base) Grows (Knows base) where
  stepped {state place} steady known := by
    have after := section_next intact steady place.job place.phase known
    exact ⟨after.steady, after.grows, after.knows⟩
  disturbed change steady := steady_flags steady change
  stable grows known := knows_grows grows known

/-- What is stored stays so. -/
theorem stores_next (db : Db) (job : Job) {phase : Phase} (stored : Stores phase = true) :
    Stores (job.next db phase).2 = true := by
  cases phase with
  | stored info =>
    rw [Job.next]
    split
    · rfl
    · rfl
  | created info tx => rfl
  | done outcome => exact stored
  | start | found | labelled | named => cases stored

/-- Each delivery that stores its message appends it to the log. -/
theorem logging (intact : Intact base) :
    Logging Thread.step FlagChange.apply (Steady base) (Knows base) logOf
      (fun thread => Stores thread.phase) (fun thread => jobRow base thread.job) where
  stepped {state place} steady known :=
    (section_next intact steady place.job place.phase known).logged
  stays state {place} stored := by
    exact ⟨stores_next state place.job stored, rfl⟩
  disturbed state change := logOf_flags state change

/-- How many sections a delivery has before it. -/
def sectionsLeft : Phase → Nat
  | .start => 6
  | .found _ => 5
  | .labelled _ _ => 4
  | .named _ _ => 3
  | .stored _ => 2
  | .created _ _ => 1
  | .done _ => 0

/-- Each one brings it nearer to its answer. -/
theorem sectionsLeft_next (db : Db) (job : Job) (phase : Phase) :
    sectionsLeft (job.next db phase).2 ≤ sectionsLeft phase - 1 := by
  cases phase with
  | start =>
    rw [Job.next]
    split
    · exact Nat.zero_le _
    · exact Nat.le_refl _
  | found user => exact Nat.le_refl _
  | labelled user trust =>
    rw [Job.next]
    split
    · exact Nat.zero_le _
    · exact Nat.le_refl _
  | named handle trust =>
    rw [Job.next]
    split
    · exact Nat.le_refl _
    · exact Nat.zero_le _
    · exact Nat.zero_le _
  | stored info =>
    rw [Job.next]
    split
    · exact Nat.le_refl _
    · exact Nat.zero_le _
  | created info tx => exact Nat.le_refl _
  | done outcome => exact Nat.le_refl _

/-- A delivery keeps its job, and is answered after six sections. -/
theorem thread_at (base : Db) {jobs : List Job} {index : Nat} {job : Job}
    (given : jobs[index]? = some job) (events : List (Event FlagChange)) :
    ∃ phase, (runJobs base jobs events).threads[index]? = some ⟨job, phase⟩ ∧
      (6 ≤ events.countP (Event.isTurn index) → ∃ outcome, phase = .done outcome) := by
  have start : (pending base jobs).threads[index]? = some ⟨job, .start⟩ := by
    rw [pending, List.getElem?_map, given]
    rfl
  obtain ⟨⟨other, phase⟩, found, leads⟩ := leads_run Thread.step FlagChange.apply start events
  have same : other = job := leads.kept (fun first second => second.job = first.job)
    (fun _ => rfl)
    (fun {first second third} (one : second.job = first.job) (two : third.job = second.job) =>
      two.trans one) (fun _ _ => rfl)
  subst same
  refine ⟨phase, found, fun turns => ?_⟩
  have left : sectionsLeft phase ≤ sectionsLeft .start - events.countP (Event.isTurn index) :=
    leads.rank_le (fun thread => sectionsLeft thread.phase) fun state place =>
      sectionsLeft_next state place.job place.phase
  have none : sectionsLeft phase = 0 := by
    have most : sectionsLeft .start = 6 := rfl
    omega
  cases phase with
  | done outcome => exact ⟨outcome, rfl⟩
  | start | found | labelled | named | stored | created => cases none

/-! ## The result -/

/-- A delivery has stored its message. -/
def Stored (pool : Pool Db Thread) (index : Nat) : Prop :=
  pool.Committed (fun thread => Stores thread.phase) index

/-- What has come of deliveries. -/
structure Settled (base : Db) (jobs : List Job) (pool : Pool Db Thread) : Prop where
  /-- What is answered is so. -/
  answered : ∀ (index : Nat) (job : Job) outcome, pool.threads[index]? = some ⟨job, .done outcome⟩ →
    jobs[index]? = some job ∧ Answered base pool.shared job outcome ∧
      (Stored pool index ↔ outcome = .accepted job.messageId)
  /-- The messages are those that were there, with their content, and those of the deliveries that
  have stored theirs, each once. -/
  messages : ∃ order : List Nat, order.Nodup ∧ (∀ index, index ∈ order ↔ Stored pool index) ∧
    logOf pool.shared = logOf base ++
      order.filterMap fun index => jobs[index]?.map (jobRow base)
  /-- Of the deliveries of one message to one mailbox a single one stores it, if it is new. -/
  once : ∀ (index : Nat) (job : Job), jobs[index]? = some job → Stored pool index →
    (∀ box, destination base job = some box → base.holds box job.messageId = false) ∧
    ∀ (other : Nat) (again : Job), jobs[other]? = some again → Stored pool other →
      destination base again = destination base job → again.messageId = job.messageId →
        other = index
  /-- One that is refused as a duplicate has lost to a message that was there, or to another
  delivery. -/
  lost : ∀ (index : Nat) (job : Job) (box : Nat), destination base job = some box →
    pool.threads[index]? =
      some ⟨job, .done (.rejected ("duplicate message id: " ++ job.messageId))⟩ →
    base.holds box job.messageId = true ∨ ∃ (other : Nat) (again : Job),
      jobs[other]? = some again ∧ Stored pool other ∧ destination base again = some box ∧
        again.messageId = job.messageId
  /-- Users, pins, shares and mailboxes stand. -/
  stands : Stands base pool.shared

/-- An answer is an acceptance exactly if the message is stored. -/
theorem stores_iff {outcome : DeliveryOutcome} (answered : Answered base now job outcome) :
    Stores (.done outcome) = true ↔ outcome = .accepted job.messageId := by
  cases answered with
  | unknown refused =>
    rcases recipientUser_cases base job.recipient with ⟨reason, other⟩ | ⟨user, found⟩
    · rw [other] at refused
      cases refused
      exact iff_of_false Bool.false_ne_true nofun
    · rw [found] at refused
      cases refused
  | accepted => exact iff_of_true rfl rfl
  | duplicate => exact iff_of_false Bool.false_ne_true nofun

/-- A delivery that has stored its message has a mailbox to go to. -/
theorem home_of_stored {phase : Phase} (known : Knows base now ⟨job, phase⟩)
    (stored : Stores phase = true) : ∃ box, destination base job = some box := by
  cases phase with
  | stored info => exact known
  | created info tx => exact known.1
  | done outcome =>
    have answered : Answered base now job outcome := known
    have accepted := (stores_iff answered).mp stored
    cases answered with
    | unknown refused =>
      rcases recipientUser_cases base job.recipient with ⟨reason, other⟩ | ⟨user, found⟩
      · rw [other, accepted] at refused
        cases refused
      · rw [found] at refused
        cases refused
    | accepted home recorded => exact ⟨_, home⟩
    | duplicate home held => exact ⟨_, home⟩
  | start | found | labelled | named => cases stored

/-- A delivery with a mailbox to go to is refused where the mailbox has its message. -/
theorem held_of_refused {reason : String} (answered : Answered base now job (.rejected reason))
    {box : Nat} (home : destination base job = some box) :
    (box, job.messageId) ∈ (logOf now).map keyOf := by
  cases answered with
  | unknown refused =>
    rw [destination, refused] at home
    cases home
  | duplicate other held =>
    obtain rfl := Option.some.inj (home.symm.trans other)
    exact held

/-- Deliveries that have not begun know their place. -/
theorem known_pending (intact : Intact base) (jobs : List Job) :
    (pending base jobs).Good (Steady base) (Knows base) := by
  have keys : (logOf base).map keyOf = base.messages.map keyOf := by
    rw [logOf, List.map_map]
    rfl
  refine ⟨⟨⟨rfl, rfl, rfl, rfl⟩, ?_⟩, fun thread member => ?_⟩
  · change ((logOf base).map keyOf).Nodup
    rw [keys]
    exact intact.keyed.messageIds
  · obtain ⟨job, -, rfl⟩ := List.mem_map.mp member
    trivial

/-- A delivery keeps its job. -/
theorem job_of_found {jobs : List Job} {events : List (Event FlagChange)} {index : Nat}
    {thread : Thread} (found : (runJobs base jobs events).threads[index]? = some thread) :
    jobs[index]? = some thread.job := by
  have inside : index < jobs.length := by
    have size := length_run Thread.step FlagChange.apply (pending base jobs) events
    have many : (pending base jobs).threads.length = jobs.length := List.length_map _
    have here : index < (runJobs base jobs events).threads.length :=
      (List.getElem?_eq_some_iff.mp found).1
    exact Nat.lt_of_lt_of_eq here (size.trans many)
  obtain ⟨phase, there, -⟩ := thread_at base (List.getElem?_eq_getElem inside) events
  obtain rfl := Option.some.inj (found.symm.trans there)
  exact List.getElem?_eq_getElem inside

/-- The key of a delivery's message. -/
theorem keyOf_jobRow {job : Job} {box : Nat} (home : destination base job = some box) :
    keyOf (jobRow base job) = (box, job.messageId) := by
  rw [keyOf, jobRow, home]
  rfl

/-- The messages are those that were there and those of the deliveries that have stored theirs, in
the order of their inserts. -/
theorem stored_in_order (intact : Intact base) (jobs : List Job)
    (events : List (Event FlagChange)) :
    ∃ order : List Nat, order.Nodup ∧
      (∀ index, index ∈ order ↔ Stored (runJobs base jobs events) index) ∧
      logOf (runJobs base jobs events).shared = logOf base ++
        order.filterMap fun index => jobs[index]?.map (jobRow base) := by
  obtain ⟨order, nodup, members, log⟩ :=
    (logging intact).run (discipline intact) (known_pending intact jobs) events
  have stored (index : Nat) : index ∈ order ↔ Stored (runJobs base jobs events) index := by
    refine (members index).trans (and_iff_left ?_)
    rintro ⟨thread, there, stored⟩
    obtain ⟨job, -, rfl⟩ := List.mem_map.mp (List.mem_of_getElem? there)
    cases stored
  refine ⟨order, nodup, stored, ?_⟩
  refine log.trans (congrArg (logOf base ++ ·) (List.filterMap_congr fun index member => ?_))
  obtain ⟨thread, there, -⟩ := (stored index).mp member
  have threads : (run (Pool.take Thread.step FlagChange.apply) (pending base jobs)
    events).threads[index]? = some thread := there
  rw [Pool.entryOf, threads, job_of_found there]
  rfl

/-- Two deliveries are not of one message to one mailbox. -/
def Unlike (base : Db) (jobs : List Job) (left right : Nat) : Prop :=
  ∀ first, jobs[left]? = some first → ∀ second, jobs[right]? = some second →
    keyOf (jobRow base first) ≠ keyOf (jobRow base second)

/-- Deliveries that are unlike are so in either order. -/
instance unlike_symm (base : Db) (jobs : List Job) : Std.Symm (Unlike base jobs) where
  symm _ _ unlike first one second two := (unlike second two first one).symm

section Once

variable {jobs : List Job} {order : List Nat} (once : ((logOf base).map keyOf ++
  (order.filterMap fun index => jobs[index]?.map (jobRow base)).map keyOf).Nodup)
include once

/-- Where no key is twice among the messages, a delivery stores what was not there. -/
theorem new_of_once {index : Nat} {job : Job} (there : jobs[index]? = some job)
    (inside : index ∈ order) {box : Nat} (home : destination base job = some box) :
    base.holds box job.messageId = false := by
  obtain ⟨-, -, fresh⟩ := List.nodup_append.mp once
  have entry : keyOf (jobRow base job) ∈
      (order.filterMap fun index => jobs[index]?.map (jobRow base)).map keyOf := by
    refine List.mem_map_of_mem (List.mem_filterMap.mpr ⟨index, inside, ?_⟩)
    rw [there]
    rfl
  cases held : base.holds box job.messageId with
  | false => rfl
  | true =>
    have old := (holds_iff_log base box job.messageId).mp held
    exact absurd rfl (fresh _ old _ (keyOf_jobRow home ▸ entry))

/-- Of the deliveries of one message to one mailbox a single one stores it there. -/
theorem single_of_once {index other : Nat} {job again : Job} (there : jobs[index]? = some job)
    (inside : index ∈ order) (found : jobs[other]? = some again) (also : other ∈ order)
    (same : destination base again = destination base job)
    (id : again.messageId = job.messageId) : other = index := by
  obtain ⟨-, apart, -⟩ := List.nodup_append.mp once
  by_contra differs
  have pairs : order.Pairwise (Unlike base jobs) := by
    refine (List.pairwise_filterMap.mp (List.pairwise_map.mp apart)).imp ?_
    intro left right unlike first one second two
    exact unlike _ (by rw [one]; rfl) _ (by rw [two]; rfl)
  refine pairs.forall also inside differs again found job there ?_
  rw [keyOf, keyOf, jobRow, jobRow, same, id]

end Once

/-- Whatever the order of their sections, deliveries are settled. -/
theorem settled (intact : Intact base) (jobs : List Job) (events : List (Event FlagChange)) :
    Settled base jobs (runJobs base jobs events) := by
  obtain ⟨steady, knows⟩ := (discipline intact).run (known_pending intact jobs) events
  obtain ⟨order, nodup, stored, entries⟩ := stored_in_order intact jobs events
  have once : ((logOf base).map keyOf ++
      (order.filterMap fun index => jobs[index]?.map (jobRow base)).map keyOf).Nodup := by
    rw [← List.map_append, ← entries]
    exact steady.once
  refine ⟨fun index job outcome found => ?_, ⟨order, nodup, stored, entries⟩,
    fun index job there done => ⟨fun box home => ?_, fun other again found also same id => ?_⟩,
    fun index job box home found => ?_, steady.stands⟩
  · have answered : Answered base (runJobs base jobs events).shared job outcome :=
      knows _ (List.mem_of_getElem? found)
    refine ⟨job_of_found found, answered, (Iff.intro ?_ ?_).trans (stores_iff answered)⟩
    · rintro ⟨thread, again, stores⟩
      obtain rfl := Option.some.inj (found.symm.trans again)
      exact stores
    · exact fun stores => ⟨_, found, stores⟩
  · exact new_of_once once there ((stored index).mpr done) home
  · exact single_of_once once there ((stored index).mpr done) found ((stored other).mpr also) same
      id
  · have answered : Answered base (runJobs base jobs events).shared job
        (.rejected ("duplicate message id: " ++ job.messageId)) :=
      knows _ (List.mem_of_getElem? found)
    have held := held_of_refused answered home
    rw [entries, List.map_append, List.mem_append] at held
    rcases held with old | new
    · exact .inl ((holds_iff_log base box job.messageId).mpr old)
    · obtain ⟨row, member, same⟩ := List.mem_map.mp new
      obtain ⟨other, inside, found⟩ := List.mem_filterMap.mp member
      obtain ⟨again, there, rfl⟩ := Option.map_eq_some_iff.mp found
      have done := (stored other).mp inside
      obtain ⟨thread, reached, stores⟩ := done
      obtain rfl := Option.some.inj (there.symm.trans (job_of_found reached))
      obtain ⟨place, goes⟩ := home_of_stored (knows thread (List.mem_of_getElem? reached)) stores
      obtain ⟨rfl, id⟩ := Prod.mk.inj ((keyOf_jobRow goes).symm.trans same)
      exact .inr ⟨other, thread.job, there, (stored other).mp inside, goes, id⟩

/-- However the sections of deliveries to a store interleave, with changes of flags between them,
the deliveries are settled; and each one is answered once it has had six turns. -/
theorem parallel_deliveries_settle (calls : List StoreCall) (jobs : List Job)
    (events : List (Event FlagChange)) :
    Settled (run Db.perform .empty calls) jobs
        (runJobs (run Db.perform .empty calls) jobs events) ∧
      ∀ (index : Nat) (job : Job), jobs[index]? = some job →
        6 ≤ events.countP (Event.isTurn index) → ∃ outcome,
          (runJobs (run Db.perform .empty calls) jobs events).threads[index]? =
            some ⟨job, .done outcome⟩ := by
  refine ⟨settled (intact_run intact_empty calls) jobs events, fun index job given turns => ?_⟩
  obtain ⟨phase, there, answered⟩ := thread_at (run Db.perform .empty calls) given events
  obtain ⟨outcome, rfl⟩ := answered turns
  exact ⟨outcome, there⟩

/-- Two deliveries of one message, each in the middle of the other: the first to insert it is
accepted. -/
example : (runJobs (run Db.perform .empty [.createUserFull "bob" "" [] none none 0])
    [.ofEmulation "bob" "alice" "" "m" "" [1] 0, .ofEmulation "bob" "carol" "" "m" "" [2] 0]
    ((List.replicate 6 [.turn 0, .turn 1]).flatten)).threads.map Thread.phase =
      [.done (.accepted "m"), .done (.rejected "duplicate message id: m")] := by
  decide +kernel

end Talk.Verif.ParallelDeliveries
