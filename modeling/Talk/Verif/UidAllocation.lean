import Mathlib.Logic.Function.Basic
import Talk.Verif.StoreSteps

/-!
# UIDs under concurrent appends

An append takes the store's lock twice: to read the mailbox, and to insert the message under the
UID it has read. Completed operations keep the UIDs of a mailbox distinct and below its counter.
Appends whose sections interleave do so exactly as long as every insert finds the mailbox as its
read has left it: once another append has stored a message in between, every UID from the one that
was read up to the counter is taken.
-/

namespace Talk.Verif.UidAllocation

open Mailstore Table Daemon Transition StoreSteps

/-! ## Completed operations -/

/-- The UIDs of a mailbox are distinct and below its counter. -/
structure Sound (db : Db) : Prop where
  /-- No two messages of a mailbox share a UID. -/
  distinct : Unique (fun row => (row.mailboxId, row.uid)) db.messages
  /-- Every message is in a mailbox, below the counter. -/
  below : ∀ row ∈ db.messages, ∃ box ∈ db.mailboxes, box.id = row.mailboxId ∧ row.uid < box.uidnext

/-- Soundness can be decided. -/
instance Sound.decidable (db : Db) : Decidable (Sound db) :=
  decidable_of_iff (Unique (fun row => (row.mailboxId, row.uid)) db.messages ∧
      ∀ row ∈ db.messages, ∃ box ∈ db.mailboxes, box.id = row.mailboxId ∧ row.uid < box.uidnext)
    ⟨fun ⟨distinct, below⟩ => ⟨distinct, below⟩, fun sound => ⟨sound.distinct, sound.below⟩⟩

/-- The empty store is sound. -/
theorem sound_empty : Sound .empty := ⟨unique_nil _, nofun⟩

/-- A row of a mailbox is below the counter of the mailbox. -/
theorem uid_lt {db : Db} (keyed : Keyed db) (sound : Sound db) {row : MessageRow} {box : MailboxRow}
    (stored : row ∈ db.messages) (member : box ∈ db.mailboxes) (same : row.mailboxId = box.id) :
    row.uid < box.uidnext := by
  obtain ⟨home, found, homeId, less⟩ := sound.below row stored
  obtain rfl := eq_of_unique keyed.mailboxIds found member (homeId.trans same)
  exact less

/-- An insert under the counter of its mailbox keeps the store sound. -/
theorem sound_inserted {db : Db} (keyed : Keyed db) (sound : Sound db) {box : MailboxRow}
    (member : box ∈ db.mailboxes) (msg : NewMessage) (now : Int64) :
    Sound (db.inserted ⟨box.id, box.uidvalidity, box.uidnext⟩ msg now) := by
  constructor
  · refine unique_insert sound.distinct fun other stored same => ?_
    obtain ⟨home, uid⟩ := Prod.mk.inj same
    exact Nat.ne_of_lt (uid_lt keyed sound stored member home) uid
  · intro row stored
    rcases List.mem_append.mp stored with old | new
    · obtain ⟨home, found, homeId, less⟩ := sound.below row old
      refine ⟨_, mem_inserted found _ msg now, ?_⟩
      split
      · exact ⟨homeId, Nat.lt_succ_of_lt less⟩
      · exact ⟨homeId, less⟩
    · obtain rfl := List.mem_singleton.mp new
      refine ⟨_, mem_inserted member _ msg now, ?_⟩
      rw [if_pos rfl]
      exact ⟨rfl, Nat.lt_succ_self _⟩

/-- Every change keeps a sound store sound. -/
theorem sound_change {db after : Db} (keyed : Keyed db) (sound : Sound db)
    (change : Change db after) : Sound after := by
  cases change with
  | user => exact ⟨sound.distinct, sound.below⟩
  | mailbox =>
    refine ⟨sound.distinct, fun row stored => ?_⟩
    obtain ⟨home, found, rest⟩ := sound.below row stored
    exact ⟨home, List.mem_append_left _ found, rest⟩
  | message handle msg now fresh read =>
    obtain ⟨userId, name, named⟩ := read
    obtain ⟨box, member, -, -, rfl⟩ := mailboxNamed_ok named
    exact sound_inserted keyed sound member msg now
  | tx => exact ⟨sound.distinct, sound.below⟩
  | txUpdate => exact ⟨sound.distinct, sound.below⟩
  | flags selects mask value =>
    refine ⟨unique_update sound.distinct _ fun _ => rfl, fun row stored => ?_⟩
    obtain ⟨old, member, rfl⟩ := mem_update.mp stored
    obtain ⟨home, found, rest⟩ := sound.below old member
    refine ⟨home, found, ?_⟩
    split
    · exact rest
    · exact rest
  | delete keeps =>
    refine ⟨unique_filter sound.distinct keeps, fun row stored => ?_⟩
    exact sound.below row (List.mem_of_mem_filter stored)

/-- A chain of changes keeps a sound store sound. -/
theorem sound_changes {db after : Db} (keyed : Keyed db) (sound : Sound db)
    (changes : Changes db after) : Sound after := by
  induction changes with
  | refl => exact sound
  | tail before change ih => exact sound_change (keyed_changes keyed before) ih change

/-- Completed operations leave a store sound, with unique keys. -/
theorem sound_run (template : Template) (domain : String) (operations : List Operation) :
    Keyed (run (apply template domain) .empty operations) ∧
      Sound (run (apply template domain) .empty operations) := by
  have kept : ∀ db operation, Keyed db ∧ Sound db →
      Keyed (apply template domain db operation) ∧ Sound (apply template domain db operation) := by
    rintro db operation ⟨keyed, sound⟩
    refine ⟨keyed_apply template domain keyed operation, ?_⟩
    exact sound_changes keyed sound (apply_changes template domain keyed operation)
  exact run_invariant kept ⟨keyed_empty, sound_empty⟩ operations

/-! ## Interleaved appends -/

/-- A call of `append_message_to`. -/
structure Call where
  /-- The owner of the mailbox. -/
  userId : Nat
  /-- The mailbox. -/
  mailbox : String
  /-- The message. -/
  msg : NewMessage

/-- Where a call is. -/
inductive Phase where
  /-- Before its first section. -/
  | idle
  /-- Between its sections, with what it has read. -/
  | holding (handle : Db.Handle)
  /-- Returned. -/
  | done (result : Except StoreError MessageMeta)

/-- The store and the calls on it. -/
structure Appends (ι : Type) where
  /-- The store. -/
  db : Db
  /-- Where each call is. -/
  phase : ι → Phase

/-- A section under the lock. -/
inductive Section (ι : Type) where
  /-- The read of the mailbox. -/
  | read (call : ι)
  /-- The insert and the increment. -/
  | insert (call : ι) (now : Int64)

variable {ι : Type} [DecidableEq ι] (calls : ι → Call)

/-- The next section of a call. A call that is elsewhere does nothing. -/
def step (state : Appends ι) : Section ι → Appends ι
  | .read call =>
    match state.phase call with
    | .idle =>
      match state.db.mailboxNamed (calls call).userId (calls call).mailbox with
      | .error error =>
        { state with phase := Function.update state.phase call (.done (.error error)) }
      | .ok handle => { state with phase := Function.update state.phase call (.holding handle) }
    | _ => state
  | .insert call now =>
    match state.phase call with
    | .holding handle =>
      ⟨(state.db.insertMessage handle (calls call).msg now).2,
        Function.update state.phase call
          (.done (state.db.insertMessage handle (calls call).msg now).1)⟩
    | _ => state

/-- The calls before any section. -/
def start (db : Db) : Appends ι := ⟨db, fun _ => .idle⟩

/-- The two sections of a call, one after the other, leave the store as the call does and return
what it returns. -/
theorem step_uninterrupted (db : Db) (call : ι) (now : Int64) :
    let appended := db.appendMessageTo (calls call).userId (calls call).mailbox (calls call).msg now
    let state := run (step calls) (start db) [.read call, .insert call now]
    state.db = appended.2 ∧ state.phase call = .done appended.1 := by
  simp only [run_cons, run_nil, start, step, Db.appendMessageTo]
  cases db.mailboxNamed (calls call).userId (calls call).mailbox with
  | error error => simp
  | ok handle => simp

/-- An insert that stores a message finds the mailbox as its call has read it. -/
def Current (state : Appends ι) : Section ι → Prop
  | .read _ => True
  | .insert call _ => ∀ handle, state.phase call = .holding handle →
      state.db.holds handle.id (calls call).msg.messageId = false →
      state.db.mailboxNamed (calls call).userId (calls call).mailbox = .ok handle

/-- A section leaves the UIDs distinct and below the counter, and a new UID is above every one
stored before. -/
def Allocates (state : Appends ι) (taken : Section ι) : Prop :=
  Sound (step calls state taken).db ∧
    ∀ row ∈ (step calls state taken).db.messages, row ∉ state.db.messages →
      ∀ old ∈ state.db.messages, old.mailboxId = row.mailboxId → old.uid < row.uid

instance (state : Appends ι) (taken : Section ι) : Decidable (Allocates calls state taken) :=
  inferInstanceAs (Decidable (_ ∧ _))

/-- What a call holds between its sections: its mailbox, where every UID from the one it has read
up to the counter is taken. -/
def Behind (db : Db) (call : Call) (handle : Db.Handle) : Prop :=
  ∃ box ∈ db.mailboxes, box.userId = call.userId ∧ box.name = call.mailbox ∧ box.id = handle.id ∧
    box.uidvalidity = handle.uidvalidity ∧ handle.uidnext ≤ box.uidnext ∧
    ∀ uid, handle.uidnext ≤ uid → uid < box.uidnext →
      ∃ row ∈ db.messages, row.mailboxId = box.id ∧ row.uid = uid

/-- What holds as long as inserts find their mailboxes as they were read. -/
structure Ordered (state : Appends ι) : Prop where
  /-- The keys are unique. -/
  keyed : Keyed state.db
  /-- The UIDs are sound. -/
  sound : Sound state.db
  /-- What the calls between their sections hold. -/
  behind : ∀ call handle, state.phase call = .holding handle → Behind state.db (calls call) handle

/-- A mailbox that was just read is where it was. -/
theorem behind_read {db : Db} {call : Call} {handle : Db.Handle}
    (named : db.mailboxNamed call.userId call.mailbox = .ok handle) : Behind db call handle := by
  obtain ⟨box, member, owner, name, rfl⟩ := mailboxNamed_ok named
  refine ⟨box, member, owner, name, rfl, rfl, Nat.le_refl _, fun uid low high => ?_⟩
  exact absurd low (Nat.not_le.mpr high)

/-- An insert under the counter leaves no gap behind. -/
theorem behind_inserted {db : Db} (keyed : Keyed db) {call : Call} {handle : Db.Handle}
    (behind : Behind db call handle) {box : MailboxRow} (member : box ∈ db.mailboxes)
    (msg : NewMessage) (now : Int64) :
    Behind (db.inserted ⟨box.id, box.uidvalidity, box.uidnext⟩ msg now) call handle := by
  obtain ⟨home, found, owner, name, id, validity, reached, taken⟩ := behind
  refine ⟨_, mem_inserted found _ msg now, ?_⟩
  by_cases same : home.id = box.id
  · obtain rfl := eq_of_unique keyed.mailboxIds found member same
    rw [if_pos rfl]
    refine ⟨owner, name, id, validity, Nat.le_succ_of_le reached, fun uid low high => ?_⟩
    -- The counter itself is the UID of the new message.
    rcases Nat.lt_succ_iff_lt_or_eq.mp high with less | rfl
    · obtain ⟨row, stored, rest⟩ := taken uid low less
      exact ⟨row, List.mem_append_left _ stored, rest⟩
    · exact ⟨_, List.mem_append_right _ (List.mem_singleton_self _), rfl, rfl⟩
  · rw [if_neg same]
    refine ⟨owner, name, id, validity, reached, fun uid low high => ?_⟩
    obtain ⟨row, stored, rest⟩ := taken uid low high
    exact ⟨row, List.mem_append_left _ stored, rest⟩

/-- A call that is between its sections after an update was so before, or is the one updated. -/
theorem holding_update {phase : ι → Phase} {call other : ι} {new : Phase} {handle : Db.Handle}
    (after : Function.update phase call new other = .holding handle) :
    phase other = .holding handle ∨ other = call ∧ new = .holding handle := by
  by_cases same : other = call
  · subst same
    rw [Function.update_self] at after
    exact .inr ⟨rfl, after⟩
  · rw [Function.update_of_ne same] at after
    exact .inl after

/-- What a section can do: nothing to the store, or one insert of a message that is not held. -/
theorem step_cases {state : Appends ι} (ordered : Ordered calls state) (taken : Section ι) :
    ((step calls state taken).db = state.db ∧ Current calls state taken ∧
      ∀ call handle, (step calls state taken).phase call = .holding handle →
        state.phase call = .holding handle ∨
          state.db.mailboxNamed (calls call).userId (calls call).mailbox = .ok handle) ∨
    ∃ call handle now, taken = .insert call now ∧ state.phase call = .holding handle ∧
      state.db.holds handle.id (calls call).msg.messageId = false ∧
      (step calls state taken).db = state.db.inserted handle (calls call).msg now ∧
      ∀ other held, (step calls state taken).phase other = .holding held →
        state.phase other = .holding held := by
  cases taken with
  | read call =>
    refine .inl ?_
    unfold step
    dsimp only
    split
    · split
      · refine ⟨rfl, trivial, fun other held after => ?_⟩
        rcases holding_update after with before | ⟨-, returned⟩
        · exact .inl before
        · cases returned
      · rename_i handle named
        refine ⟨rfl, trivial, fun other held after => ?_⟩
        rcases holding_update after with before | ⟨rfl, read⟩
        · exact .inl before
        · cases read
          exact .inr named
    · exact ⟨rfl, trivial, fun other held after => .inl after⟩
  | insert call now =>
    cases at' : state.phase call with
    | idle =>
      refine .inl ⟨by simp only [step, at'], fun handle held => ?_, fun other held after => .inl ?_⟩
      · rw [at'] at held
        cases held
      · simpa only [step, at'] using after
    | done result =>
      refine .inl ⟨by simp only [step, at'], fun handle held => ?_, fun other held after => .inl ?_⟩
      · rw [at'] at held
        cases held
      · simpa only [step, at'] using after
    | holding handle =>
      have others : ∀ other held,
          (step calls state (.insert call now)).phase other = .holding held →
          state.phase other = .holding held := by
        intro other held after
        simp only [step, at'] at after
        rcases holding_update after with before | ⟨-, returned⟩
        · exact before
        · cases returned
      rcases insertMessage_cases state.db handle (calls call).msg now with
        ⟨duplicate, kept⟩ | ⟨-, gone, -⟩ | ⟨fresh, -, stored⟩
      · refine .inl ⟨by simp only [step, at', kept], fun held phase fresh => ?_,
          fun other held after => .inl (others other held after)⟩
        obtain rfl := Phase.holding.inj (at'.symm.trans phase)
        rw [duplicate] at fresh
        cases fresh
      · obtain ⟨box, member, -, -, id, -⟩ := ordered.behind call handle at'
        exact absurd ⟨box, member, id⟩ gone
      · exact .inr ⟨call, handle, now, rfl, at', fresh, by simp only [step, at', stored], others⟩

omit [DecidableEq ι] in
/-- An insert that finds its mailbox as it was read inserts under the counter. -/
theorem current_handle {state : Appends ι} {call : ι} {handle : Db.Handle} {now : Int64}
    (current : Current calls state (.insert call now))
    (held : state.phase call = .holding handle)
    (fresh : state.db.holds handle.id (calls call).msg.messageId = false) :
    ∃ box ∈ state.db.mailboxes, handle = ⟨box.id, box.uidvalidity, box.uidnext⟩ := by
  obtain ⟨box, member, -, -, same⟩ := mailboxNamed_ok (current handle held fresh)
  exact ⟨box, member, same⟩

/-- A section keeps the order of the UIDs. -/
theorem ordered_step (state : Appends ι) (taken : Section ι) (ordered : Ordered calls state)
    (current : Current calls state taken) : Ordered calls (step calls state taken) := by
  rcases step_cases calls ordered taken with
    ⟨kept, -, phases⟩ | ⟨call, handle, now, rfl, held, fresh, stored, phases⟩
  · refine ⟨kept ▸ ordered.keyed, kept ▸ ordered.sound, fun other handle after => ?_⟩
    rw [kept]
    rcases phases other handle after with before | named
    · exact ordered.behind other handle before
    · exact behind_read named
  · obtain ⟨box, member, rfl⟩ := current_handle calls current held fresh
    have read := current _ held fresh
    refine ⟨?_, ?_, fun other handle after => ?_⟩
    · rw [stored]
      exact keyed_change ordered.keyed (.message _ (calls call).msg now fresh ⟨_, _, read⟩)
    · rw [stored]
      exact sound_inserted ordered.keyed ordered.sound member (calls call).msg now
    · rw [stored]
      have behind := ordered.behind other handle (phases other handle after)
      exact behind_inserted ordered.keyed behind member (calls call).msg now

/-- A new row is the one inserted. -/
theorem eq_newRow {db : Db} {handle : Db.Handle} {msg : NewMessage} {now : Int64} {row : MessageRow}
    (stored : row ∈ (db.inserted handle msg now).messages) (new : row ∉ db.messages) :
    row = db.newRow handle msg now := by
  rcases List.mem_append.mp stored with old | added
  · exact absurd old new
  · exact List.mem_singleton.mp added

/-- In order, a section allocates as it should exactly if it finds its mailbox as it was read. -/
theorem allocates_iff {state : Appends ι} (ordered : Ordered calls state) (taken : Section ι) :
    Current calls state taken ↔ Allocates calls state taken := by
  rcases step_cases calls ordered taken with
    ⟨kept, current, -⟩ | ⟨call, handle, now, rfl, held, fresh, stored, -⟩
  · rw [Allocates, kept]
    exact iff_of_true current ⟨ordered.sound, fun row member new => absurd member new⟩
  · constructor
    · intro current
      obtain ⟨box, member, rfl⟩ := current_handle calls current held fresh
      rw [Allocates, stored]
      refine ⟨sound_inserted ordered.keyed ordered.sound member (calls call).msg now, ?_⟩
      intro row inside new old before same
      obtain rfl := eq_newRow inside new
      exact uid_lt ordered.keyed ordered.sound before member same
    · intro allocates other held' _
      obtain rfl := Phase.holding.inj (held.symm.trans held')
      obtain ⟨box, member, owner, name, id, validity, reached, taken⟩ :=
        ordered.behind call handle held
      have next : handle.uidnext = box.uidnext := by
        by_contra differs
        -- A UID that was read too early is taken, so two messages share it.
        obtain ⟨row, inside, home, uid⟩ :=
          taken handle.uidnext (Nat.le_refl _) (Nat.lt_of_le_of_ne reached differs)
        have distinct := allocates.1.distinct
        rw [stored] at distinct
        have same := eq_of_unique distinct (List.mem_append_left _ inside)
          (List.mem_append_right _ (List.mem_singleton_self _))
          (Prod.ext (home.trans id) uid)
        exact nextId_fresh MessageRow.id state.db.messages row inside (congrArg MessageRow.id same)
      rw [← owner, ← name, mailboxNamed_of_mem ordered.keyed member, id, validity, ← next]

/-- After any completed operations, the appends of any number of calls keep the UIDs of every
mailbox distinct and below its counter, with each new UID above those before, exactly if every
insert that stores a message finds the mailbox as its own call has read it. -/
theorem uids_allocated_iff_current (template : Template) (domain : String)
    (operations : List Operation) (sections : List (Section ι)) :
    Guarded (step calls) (Current calls) (start (run (apply template domain) .empty operations))
        sections ↔
      Guarded (step calls) (Allocates calls) (start (run (apply template domain) .empty operations))
        sections := by
  obtain ⟨keyed, sound⟩ := sound_run template domain operations
  exact guarded_iff (ordered_step calls) (fun _ taken ordered => allocates_iff calls ordered taken)
    ⟨keyed, sound, fun _ _ held => Phase.noConfusion held⟩ sections

/-! ## Two appends at once -/

/-- Two messages for the INBOX of that user. -/
def twoAppends (second : Bool) : Call :=
  ⟨1, inbox, if second then "m2" else "m1", "", [], .default, "", ""⟩

/-- Both calls read the mailbox before either inserts: they store two messages under one UID. -/
theorem interleaved_appends_share_uid :
    ¬Guarded (step twoAppends) (Allocates twoAppends)
      (start (run (apply noTemplate "b.io") .empty [createBob]))
      [.read false, .read true, .insert false 0, .insert true 0] := by
  decide +kernel

end Talk.Verif.UidAllocation
