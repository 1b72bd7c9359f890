import Talk.Daemon.Parallel
import Talk.Imap.Server
import Talk.Lib.Broadcast
import Talk.Mailstore.Calls

/-!
# The notification of IDLE sessions

A delivery that has appended its message sends its user's id into a broadcast channel of 64 entries,
before it turns to the ledger. A connection has its position in the channel from when it is accepted
on, and takes entries while it idles. Deliveries take their sections one at a time, other parties
call the store, and a connection reads or takes an entry in between. What has happened is kept in a
record of its own.
-/

namespace Talk.Daemon

open Broadcast Imap Mailstore

/-! ## Deliveries that notify -/

/-- A message has been appended, and nothing been recorded yet. -/
def Phase.isStored : Phase → Bool
  | .stored _ => true
  | _ => false

/-- The user that a delivery has found. -/
def Phase.userId (known : Nat) : Phase → Nat
  | .found user => user.id
  | _ => known

/-- A delivery with its notification. -/
structure Courier where
  /-- The delivery. -/
  thread : Thread
  /-- The id of the user it has found. -/
  userId : Nat
  /-- It has appended its message and not notified anybody. -/
  unsent : Bool
  deriving DecidableEq

/-- A delivery that begins. -/
def Courier.start (job : Job) : Courier := ⟨⟨job, .start⟩, 0, false⟩

/-- What has happened. -/
inductive Note where
  /-- A delivery has appended a message to a user's INBOX. -/
  | stored (index userId : Nat)
  /-- `MailboxEvent::MessageAppended` was sent. -/
  | sent (userId : Nat)
  /-- A line was written to the connection that idles, whose user had so many messages then. -/
  | pushed (messages : Nat) (line : Reply)
  deriving DecidableEq

/-- The next section of the delivery with this index, which is the notification when it has
appended. -/
def Courier.step (index : Nat) (db : Db) (channel : List Nat) (courier : Courier) :
    Db × List Nat × Courier × List Note :=
  if courier.unsent then
    (db, channel ++ [courier.userId], { courier with unsent := false }, [.sent courier.userId])
  else
    let (db, thread) := courier.thread.step db
    let userId := thread.phase.userId courier.userId
    (db, channel, ⟨thread, userId, thread.phase.isStored⟩,
      if thread.phase.isStored then [.stored index userId] else [])

/-! ## A connection among them -/

/-- `broadcast::channel(64)`. -/
def channelCapacity : Nat := 64

/-- A connection, the channel and the deliveries. -/
structure Office where
  /-- The connection, with the store. -/
  conn : Conn
  /-- All that has been sent into the channel. -/
  channel : List Nat
  /-- The connection's position in the channel. -/
  position : Nat
  /-- The deliveries. -/
  couriers : List Courier
  /-- What has happened, oldest first. -/
  notes : List Note

/-- What happens next. -/
inductive Happening where
  /-- The connection reads. -/
  | read (data : List UInt8)
  /-- The connection takes an entry of the channel, if it idles. -/
  | poll
  /-- A delivery takes its next section. -/
  | turn (index : Nat)
  /-- Somebody else calls the store. -/
  | call (call : StoreCall)

/-- `events_rx.recv()` in `idle_until_done`: an entry is pushed, and a gap is passed over. -/
def Office.poll (env : Environment) (office : Office) : Office :=
  match office.conn.activity with
  | .idling _ _ _ =>
    match receive channelCapacity office.channel office.position with
    | (.value userId, position) =>
      let (conn, lines) := office.conn.step env (.event userId)
      let messages := existsCount office.conn.db office.conn.session.userId
      { office with
        conn := conn, position := position,
        notes := office.notes ++ lines.map (Note.pushed messages) }
    | (_, position) => { office with position := position }
  | _ => office

/-- The next section of a delivery. -/
def Office.turn (office : Office) (index : Nat) : Office :=
  match office.couriers[index]? with
  | none => office
  | some courier =>
    let (db, channel, courier, notes) := courier.step index office.conn.db office.channel
    { office with
      conn := { office.conn with db := db }, channel := channel,
      couriers := office.couriers.set index courier, notes := office.notes ++ notes }

/-- The office after something has happened. -/
def Office.step (env : Environment) (office : Office) : Happening → Office
  | .read data => { office with conn := (office.conn.step env (.read data)).1 }
  | .poll => office.poll env
  | .turn index => office.turn index
  | .call call => { office with conn := { office.conn with db := office.conn.db.perform call } }

/-- A connection is accepted, and deliveries begin. -/
def opened (authMode : AuthMode) (domain hostname : String) (db : Db) (channel : List Nat)
    (jobs : List Job) : Office :=
  ⟨(accepted authMode domain hostname db).1, channel, channel.length, jobs.map Courier.start, []⟩

end Talk.Daemon
