import Talk.Daemon.Notifications
import Talk.Verif.IdlePushes
import Talk.Verif.Isolation

/-!
# Deliveries to a user who idles

A delivery appends its message and notifies afterwards, and the connection counts the messages when
it takes the notification from the channel: so no message that a delivery stores is left
unannounced to a user who idles, in whatever order the sections come. The one exception is the
channel's capacity: a notification with as many others behind it as the channel keeps may be passed
over.
-/

namespace Talk.Verif.Announcements

open Broadcast Daemon IdlePushes Imap ImapSteps Mailstore Transition

/-! ## Whose connection it is -/

/-- The session is a user's. -/
def IsUser (userId : Nat) (conn : Conn) : Prop :=
  conn.session.state ≠ .notAuthenticated ∧ conn.session.userId = userId

/-- A notification is sent. -/
def isSent : Note → Bool
  | .sent _ => true
  | _ => false

/-- The notifications that are sent. -/
def sends (notes : List Note) : Nat := notes.countP isSent

/-- More happens, and no fewer are sent. -/
theorem sends_le_append (notes added : List Note) : sends notes ≤ sends (notes ++ added) := by
  rw [sends, sends, List.countP_append]
  exact Nat.le_add_right _ _

/-- The user has been told how many messages there were then. -/
def Told (since : List Note) : Prop :=
  ∃ count : Nat, .pushed count (.untagged (toString count ++ " EXISTS")) ∈ since

/-- What became of a message that the delivery with this index has stored, from what has happened
since then. -/
inductive Fate (channel : List Nat) (position : Nat) (couriers : List Courier) (index userId : Nat)
    (since : List Note) : Prop where
  /-- The user has been told. -/
  | told (told : Told since)
  /-- The delivery is about to notify the user. -/
  | unsent (courier : Courier) (found : couriers[index]? = some courier)
    (unsent : courier.unsent = true) (own : courier.userId = userId)
  /-- A notification waits in the channel. -/
  | waiting (ahead : Ahead channel position userId (sends since))
  /-- More notifications were sent than the channel keeps. -/
  | lost (many : channelCapacity < sends since)

variable {channel : List Nat} {position index userId : Nat} {couriers : List Courier}
variable {since added : List Note}

/-- What has been told stays so. -/
theorem Told.append (told : Told since) (added : List Note) : Told (since ++ added) :=
  told.imp fun _ pushed => List.mem_append_left _ pushed

/-- The connection takes an entry of the channel: where it is the user's, the user is told. -/
theorem Fate.poll (fate : Fate channel position couriers index userId since)
    (told : (receive channelCapacity channel position).1 = .value userId → Told added) :
    Fate channel (receive channelCapacity channel position).2 couriers index userId
      (since ++ added) := by
  have more := sends_le_append since added
  cases fate with
  | told told => exact .told (told.append _)
  | unsent courier found unsent own => exact .unsent courier found unsent own
  | lost many => exact .lost (Nat.lt_of_lt_of_le many more)
  | waiting ahead =>
    rcases ahead.receive channelCapacity with got | still | many
    · exact .told ((told got).imp fun _ pushed => List.mem_append_right _ pushed)
    · exact .waiting (still.deepen more)
    · exact .lost (Nat.lt_of_lt_of_le many more)

/-- A delivery sends its notification. -/
theorem Fate.send (fate : Fate channel position couriers index userId since)
    (inside : position ≤ channel.length) {place : Nat} {courier : Courier}
    (found : couriers[place]? = some courier) :
    Fate (channel ++ [courier.userId]) position
      (couriers.set place { courier with unsent := false }) index userId
        (since ++ [.sent courier.userId]) := by
  have one : sends (since ++ [.sent courier.userId]) = sends since + 1 := by
    rw [sends, List.countP_append]
    rfl
  cases fate with
  | told told => exact .told (told.append _)
  | lost many =>
    refine .lost ?_
    omega
  | waiting ahead =>
    refine .waiting ?_
    rw [one]
    exact ahead.send _
  | unsent other there unsent own =>
    by_cases same : place = index
    · -- The notification that was due is the one that is sent.
      obtain rfl := same
      obtain rfl := Option.some.inj (found.symm.trans there)
      obtain rfl := own
      refine .waiting ((ahead_sent inside _).deepen ?_)
      omega
    · exact .unsent other ((List.getElem?_set_ne same).trans there) unsent own

/-- A user's connection is watched from some time on: the fate of each message that was stored for
the user since then is known. -/
structure Watched (userId : Nat) (old : List Note) (office : Office) : Prop where
  /-- The connection is the user's. -/
  own : IsUser userId office.conn
  /-- The channel reaches to the connection's position. -/
  inside : office.position ≤ office.channel.length
  /-- The fate of what was stored. -/
  known : ∃ new, office.notes = old ++ new ∧
    ∀ index before since, new = before ++ .stored index userId :: since →
      Fate office.channel office.position office.couriers index userId since

/-- A mark among what is there and what is added is among the one or the other. -/
theorem split_append {α : Type} {new added before after : List α} {mark : α}
    (split : new ++ added = before ++ mark :: after) :
    (∃ middle, new = before ++ mark :: middle ∧ after = middle ++ added) ∨
      ∃ front, added = front ++ mark :: after := by
  rcases List.append_eq_append_iff.mp split with ⟨front, -, later⟩ | ⟨middle, earlier, rest⟩
  · exact .inr ⟨front, later⟩
  · cases middle with
    | nil => exact .inr ⟨[], rest.symm⟩
    | cons first middle =>
      obtain ⟨rfl, rfl⟩ := List.cons.inj rest
      exact .inl ⟨middle, earlier, rfl⟩

/-- What happens keeps the watch, if it keeps the fates of the messages before and settles those of
the messages that it stores. -/
theorem Watched.extend {old : List Note} {office after : Office}
    (watched : Watched userId old office) (own : IsUser userId after.conn)
    (inside : after.position ≤ after.channel.length)
    (notes : after.notes = office.notes ++ added)
    (kept : ∀ index since, Fate office.channel office.position office.couriers index userId since →
      Fate after.channel after.position after.couriers index userId (since ++ added))
    (fresh : ∀ index front since, added = front ++ .stored index userId :: since →
      Fate after.channel after.position after.couriers index userId since) :
    Watched userId old after := by
  obtain ⟨new, before, fates⟩ := watched.known
  refine ⟨own, inside, new ++ added, by rw [notes, before, List.append_assoc], ?_⟩
  intro index front since split
  rcases split_append split with ⟨middle, earlier, rfl⟩ | ⟨rest, here⟩
  · exact kept index middle (fates index front middle earlier)
  · exact fresh index rest since here

end Talk.Verif.Announcements
