import Talk.Verif.Agreement
import Talk.Verif.Inbox
import Talk.Verif.SequenceNumbers
import Talk.Verif.StoreCalls

/-!
# From the sender to the recipient's reader

What a client hands to its own end of a ZSMTP connection is what the recipient's IMAP session
fetches: the dialogue over the byte streams, the sink behind the session, the tables and the FETCH
put together.
-/

namespace Talk.Verif.EndToEnd

open Agreement Daemon Imap ImapSteps Mailstore Protocol SequenceNumbers SequenceSets StoreCalls
open StoreSteps Table Transition
open Dialogue Exchange
open Inbox (recordInboundTx_tables)
open ByteStream (final)
open SelectedMailbox (bobSelected messageCount)

/-! ## The recipient's side -/

variable {db : Db} {session : Session} {handle : Db.Handle} {row : MessageRow}

/-- What is delivered to a registered user whose INBOX does not have its message id: a row under the
next UID, and nothing else among the messages. -/
structure Stored (template : Template) (delivery : Delivery) (userId : Nat) (db after : Db) :
    Prop where
  /-- The keys are unique. -/
  keyed : Keyed after
  /-- There is a new row in the INBOX. -/
  row : ∃ handle later row, db.mailboxNamed userId inbox = .ok handle ∧
    after.mailboxNamed userId inbox = .ok later ∧ later.id = handle.id ∧
      after.messages = db.messages ++ [row] ∧ row.mailboxId = handle.id ∧
        row.uid = handle.uidnext ∧ row.body =
          (renderDelivery template delivery.senderMailbox delivery.payload delivery.body).2

variable {crypto : Crypto} {delivering : Delivering crypto Db} {template : Template}
  {clock : Int64}

/-- A registered user has a row. -/
theorem row_of_getUser {db : Db} {username : String} {user : User}
    (registered : db.getUser username = some user) : ∃ row ∈ db.users, row.id = user.id := by
  obtain ⟨row, found, rfl⟩ := Option.map_eq_some_iff.mp registered
  exact ⟨row, List.mem_of_find?_eq_some found, rfl⟩

end Talk.Verif.EndToEnd
