import Talk.Verif.Inbox

/-!
# Replayed deliveries

A delivery is refused as a duplicate when the INBOX of its recipient holds its message id. Over a
whole history a pair of a recipient and a message id is accepted at most once exactly if no
delivery repeats a pair whose message has been expunged since: the check only sees the messages
that are still stored.
-/

namespace Talk.Verif.Replay

open Mailstore Table Daemon Protocol Transition StoreSteps Inbox

/-- The store, with the pairs that were accepted, in order, and the pairs whose message was
expunged and not stored again. -/
structure History where
  /-- The store. -/
  db : Db
  /-- Accepted by a wire delivery. -/
  accepted : List (String × String)
  /-- Expunged from an INBOX. -/
  expunged : List (String × String)

/-- No history. -/
def start : History := ⟨.empty, [], []⟩

/-- The recipient and the message id of a delivery. -/
def pair (delivery : Delivery) : String × String :=
  (mailboxUser delivery.recipientMailbox, delivery.messageId)

/-- The accepted pairs after an operation. -/
def acceptedAfter (template : Template) (history : History) : Operation → List (String × String)
  | .deliver delivery now =>
    if (deliver template now delivery history.db).1 = .accepted delivery.messageId then
      history.accepted ++ [pair delivery]
    else history.accepted
  | _ => history.accepted

/-- The expunged pairs after an operation. -/
def expungedAfter (template : Template) (history : History) : Operation → List (String × String)
  | .deliver delivery now =>
    if (deliver template now delivery history.db).1 = .accepted delivery.messageId then
      history.expunged.filter fun gone => decide (gone ≠ pair delivery)
    else history.expunged
  | .emulate recipient senderLabel amount messageId subject body now =>
    if (deliverEmulated history.db recipient senderLabel amount messageId subject body now).1 =
        .accepted messageId then
      history.expunged.filter fun gone => decide (gone ≠ (mailboxUser recipient, messageId))
    else history.expunged
  | .expunge userId mailbox => history.expunged ++ expungedPairs history.db userId mailbox
  | _ => history.expunged

/-- An operation, recorded. -/
def step (template : Template) (domain : String) (history : History) (operation : Operation) :
    History :=
  ⟨apply template domain history.db operation, acceptedAfter template history operation,
    expungedAfter template history operation⟩

/-- No delivery repeats an accepted pair whose message was expunged. -/
def Unexpunged (history : History) : Operation → Prop
  | .deliver delivery _ => pair delivery ∈ history.accepted → pair delivery ∉ history.expunged
  | _ => True

/-- A delivery of an accepted pair is refused and changes nothing. -/
def Refuses (template : Template) (history : History) : Operation → Prop
  | .deliver delivery now => pair delivery ∈ history.accepted →
      ∃ reason, deliver template now delivery history.db = (.rejected reason, history.db)
  | _ => True

/-- Accepted pairs are refused from then on, so each is accepted once. -/
def Once (template : Template) (history : History) (operation : Operation) : Prop :=
  Refuses template history operation ∧ (acceptedAfter template history operation).Nodup

/-- What the recorded pairs say about the store. -/
structure Tracked (history : History) : Prop where
  /-- The keys are unique. -/
  keyed : Keyed history.db
  /-- Every user has an INBOX. -/
  furnished : Furnished history.db
  /-- Accepted recipients are known. -/
  known : ∀ held ∈ history.accepted, Known history.db held.1
  /-- Accepted messages are stored unless they were expunged. -/
  stored : ∀ held ∈ history.accepted, held ∉ history.expunged → Held history.db held.1 held.2
  /-- Expunged messages are not stored. -/
  gone : ∀ held ∈ history.expunged, ¬Held history.db held.1 held.2
  /-- No pair was accepted twice. -/
  once : history.accepted.Nodup

/-- The empty history is tracked. -/
theorem tracked_start : Tracked start :=
  ⟨keyed_empty, nofun, nofun, nofun, nofun, List.nodup_nil⟩

/-- Operations that touch no pair keep the records right. -/
theorem tracked_same {template : Template} {domain : String} {history : History}
    (tracked : Tracked history) {operation : Operation}
    (accepted : acceptedAfter template history operation = history.accepted)
    (expunged : expungedAfter template history operation = history.expunged)
    (same : SameHeld history.db (apply template domain history.db operation)) :
    Tracked (step template domain history operation) := by
  have changes := apply_changes template domain tracked.keyed operation
  refine ⟨keyed_changes tracked.keyed changes, furnished_apply template domain tracked.keyed
    tracked.furnished operation, ?_, ?_, ?_, ?_⟩
  · intro held member
    rw [step, accepted] at member
    exact known_changes changes (tracked.known held member)
  · intro held member kept
    rw [step, accepted] at member
    rw [step, expunged] at kept
    exact (same _ _).mpr (tracked.stored held member kept)
  · intro held member now
    rw [step, expunged] at member
    exact tracked.gone held member ((same _ _).mp now)
  · rw [step, accepted]
    exact tracked.once

/-- Where the records are right, a delivery is refused and changes nothing, or its pair is new to
the store and is accepted. -/
theorem deliver_tracked {history : History} (tracked : Tracked history) (template : Template)
    (now : Int64) (delivery : Delivery) :
    ((∃ reason, deliver template now delivery history.db = (.rejected reason, history.db)) ∧
      (Known history.db (pair delivery).1 → Held history.db (pair delivery).1 (pair delivery).2)) ∨
    (¬Held history.db (pair delivery).1 (pair delivery).2 ∧
      Known history.db (pair delivery).1 ∧
      (deliver template now delivery history.db).1 = .accepted delivery.messageId ∧
      Gains history.db (deliver template now delivery history.db).2 (pair delivery).1
        (pair delivery).2) := by
  rcases deliver_spec tracked.keyed tracked.furnished template now delivery with
    ⟨unknown, refused⟩ | ⟨-, held, refused⟩ | ⟨known, fresh, after, accepted, gains⟩
  · exact .inl ⟨⟨_, refused⟩, fun known => absurd known unknown⟩
  · exact .inl ⟨⟨_, refused⟩, fun _ => held⟩
  · exact .inr ⟨fresh, known, by rw [accepted], by rw [accepted]; exact gains⟩

/-- A delivery refuses the accepted pairs exactly if it does not repeat an expunged one. -/
theorem once_deliver_iff {history : History} (tracked : Tracked history) (template : Template)
    (delivery : Delivery) (now : Int64) :
    Unexpunged history (.deliver delivery now) ↔ Once template history (.deliver delivery now) := by
  rcases deliver_tracked tracked template now delivery with
    ⟨⟨reason, refused⟩, held⟩ | ⟨fresh, known, accepted, -⟩
  · refine iff_of_true (fun member gone => ?_) ⟨fun _ => ⟨reason, refused⟩, ?_⟩
    · exact tracked.gone _ gone (held (tracked.known _ member))
    · rw [acceptedAfter, refused, if_neg nofun]
      exact tracked.once
  · constructor
    · intro unexpunged
      have new : pair delivery ∉ history.accepted :=
        fun member => fresh (tracked.stored _ member (unexpunged member))
      refine ⟨fun member => absurd member new, ?_⟩
      rw [acceptedAfter, if_pos accepted]
      exact List.nodup_append.mpr ⟨tracked.once, List.nodup_singleton _,
        fun held member other same => fun equal =>
          new (List.mem_singleton.mp same ▸ equal ▸ member)⟩
    · rintro ⟨refuses, -⟩ member
      obtain ⟨reason, refused⟩ := refuses member
      rw [refused] at accepted
      cases accepted

/-- A delivery that does not repeat an expunged pair keeps the records right. -/
theorem tracked_deliver {template : Template} (domain : String) {history : History}
    (tracked : Tracked history) {delivery : Delivery} {now : Int64}
    (unexpunged : Unexpunged history (.deliver delivery now)) :
    Tracked (step template domain history (.deliver delivery now)) := by
  have once := ((once_deliver_iff tracked template delivery now).mp unexpunged).2
  rcases deliver_tracked tracked template now delivery with
    ⟨⟨reason, refused⟩, -⟩ | ⟨fresh, known, accepted, gains⟩
  · refine tracked_same tracked ?_ ?_ ?_
    · rw [acceptedAfter, refused, if_neg nofun]
    · rw [expungedAfter, refused, if_neg nofun]
    · rw [apply, refused]
      exact fun _ _ => Iff.rfl
  · have changes := apply_changes template domain tracked.keyed (.deliver delivery now)
    refine ⟨keyed_changes tracked.keyed changes, furnished_apply template domain tracked.keyed
      tracked.furnished _, fun held member => known_changes changes ?_, fun held member kept => ?_,
      fun held member there => ?_, once⟩
    · rw [step, acceptedAfter, if_pos accepted] at member
      rcases List.mem_append.mp member with old | new
      · exact tracked.known held old
      · rw [List.mem_singleton.mp new]
        exact known
    · rw [step, acceptedAfter, if_pos accepted] at member
      rw [step, expungedAfter, if_pos accepted] at kept
      refine (gains _ _).mpr ?_
      by_cases same : held = pair delivery
      · exact .inr ⟨congrArg Prod.fst same, congrArg Prod.snd same⟩
      · refine .inl (tracked.stored held ?_ fun gone => kept ?_)
        · exact (List.mem_append.mp member).resolve_right (mt List.mem_singleton.mp same)
        · exact List.mem_filter.mpr ⟨gone, decide_eq_true same⟩
    · rw [step, expungedAfter, if_pos accepted] at member
      obtain ⟨gone, other⟩ := List.mem_filter.mp member
      rcases (gains _ _).mp there with before | ⟨first, second⟩
      · exact tracked.gone held gone before
      · exact of_decide_eq_true other (Prod.ext first second)

/-- An emulated delivery keeps the records right. -/
theorem tracked_emulate {template : Template} (domain : String) {history : History}
    (tracked : Tracked history) (recipient senderLabel amount messageId subject : String)
    (body : List UInt8) (now : Int64) :
    Tracked (step template domain history
      (.emulate recipient senderLabel amount messageId subject body now)) := by
  rcases deliverEmulated_spec tracked.keyed tracked.furnished recipient senderLabel amount messageId
    subject body now with ⟨kept, refused⟩ | ⟨accepted, gains⟩
  · refine tracked_same tracked rfl ?_ ?_
    · rw [expungedAfter, if_neg refused]
    · rw [apply, kept]
      exact fun _ _ => Iff.rfl
  · have changes := apply_changes template domain tracked.keyed
      (.emulate recipient senderLabel amount messageId subject body now)
    refine ⟨keyed_changes tracked.keyed changes, furnished_apply template domain tracked.keyed
      tracked.furnished _, fun held member => known_changes changes (tracked.known held member),
      fun held member kept => ?_, fun held member there => ?_, tracked.once⟩
    · rw [step, expungedAfter, if_pos accepted] at kept
      refine (gains _ _).mpr ?_
      by_cases same : held = (mailboxUser recipient, messageId)
      · exact .inr ⟨congrArg Prod.fst same, congrArg Prod.snd same⟩
      · refine .inl (tracked.stored held member fun gone => kept ?_)
        exact List.mem_filter.mpr ⟨gone, decide_eq_true same⟩
    · rw [step, expungedAfter, if_pos accepted] at member
      obtain ⟨gone, other⟩ := List.mem_filter.mp member
      rcases (gains _ _).mp there with before | ⟨first, second⟩
      · exact tracked.gone held gone before
      · exact of_decide_eq_true other (Prod.ext first second)

/-- An expunge keeps the records right. -/
theorem tracked_expunge {template : Template} (domain : String) {history : History}
    (tracked : Tracked history) (userId : Nat) (mailbox : String) :
    Tracked (step template domain history (.expunge userId mailbox)) := by
  have changes := apply_changes template domain tracked.keyed (.expunge userId mailbox)
  have held := held_expungeIn tracked.keyed userId mailbox
  refine ⟨keyed_changes tracked.keyed changes, furnished_apply template domain tracked.keyed
    tracked.furnished _, fun pair member => known_changes changes (tracked.known pair member),
    fun pair member kept => ?_, fun pair member there => ?_, tracked.once⟩
  · rw [step, expungedAfter, List.mem_append, not_or] at kept
    exact (held _ _).mpr ⟨tracked.stored pair member kept.1, kept.2⟩
  · obtain ⟨before, kept⟩ := (held _ _).mp there
    rcases List.mem_append.mp member with old | new
    · exact tracked.gone pair old before
    · exact kept new

/-- Every operation that repeats no expunged pair keeps the records right. -/
theorem tracked_step (template : Template) (domain : String) (history : History)
    (operation : Operation) (tracked : Tracked history)
    (unexpunged : Unexpunged history operation) :
    Tracked (step template domain history operation) := by
  cases operation with
  | createUser =>
    exact tracked_same tracked rfl rfl (sameHeld_createUserFull tracked.keyed _ _ _ _ _ _)
  | deliver delivery now => exact tracked_deliver domain tracked unexpunged
  | emulate => exact tracked_emulate domain tracked ..
  | recordOutbound =>
    exact tracked_same tracked rfl rfl
      (sameHeld_recordOutboundTx tracked.keyed _ _ _ _ _ _ _ _ _)
  | setFlags => exact tracked_same tracked rfl rfl (sameHeld_setFlagsIn _ _ _ _ _ _)
  | expunge => exact tracked_expunge domain tracked ..
  | transition => exact tracked_same tracked rfl rfl (sameHeld_txTransition _ _ _ _)

/-- Over every history, a pair of a recipient and a message id is accepted at most once, with every
later delivery of it refused and without effect, exactly if no delivery repeats an accepted pair
whose message has been expunged and not stored again. -/
theorem accepted_once_iff_unexpunged (template : Template) (domain : String)
    (operations : List Operation) :
    Guarded (step template domain) Unexpunged start operations ↔
      Guarded (step template domain) (Once template) start operations := by
  refine guarded_iff (tracked_step template domain) ?_ tracked_start operations
  intro history operation tracked
  cases operation with
  | deliver delivery now => exact once_deliver_iff tracked template delivery now
  | createUser => exact iff_of_true trivial ⟨trivial, tracked.once⟩
  | emulate => exact iff_of_true trivial ⟨trivial, tracked.once⟩
  | recordOutbound => exact iff_of_true trivial ⟨trivial, tracked.once⟩
  | setFlags => exact iff_of_true trivial ⟨trivial, tracked.once⟩
  | expunge => exact iff_of_true trivial ⟨trivial, tracked.once⟩
  | transition => exact iff_of_true trivial ⟨trivial, tracked.once⟩

/-! ## An invoice accepted twice -/

/-- Bob receives an invoice, expunges it, and receives it again. -/
def replayed : List Operation :=
  [createBob, .deliver (invoice "m1") 0, .setFlags 1 inbox 1 MessageFlags.deleted true,
    .expunge 1 inbox, .deliver (invoice "m1") 0]

/-- The invoice is accepted a second time. -/
theorem expunged_invoice_accepted_again :
    ¬Guarded (step noTemplate "b.io") (Once noTemplate) start replayed := by
  rintro ⟨-, -, -, -, ⟨-, once⟩, -⟩
  revert once
  decide +kernel

end Talk.Verif.Replay
