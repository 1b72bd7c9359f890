import Talk.Ctl.Remote

/-!
# `talkctl tx`

The actions on the ledger that change it. `list` and `show` only print.
-/

namespace Talk.Ctl

open Mailstore Protocol Daemon Text

/-- `TxAction`, without the actions that only print. -/
inductive TxAction where
  /-- Inbound, to resolved, with an optional binding. -/
  | resolve (id : Nat) (binding : Option String)
  /-- Inbound, to spent. -/
  | markSpent (id : Nat)
  /-- Outbound, sent again. -/
  | retry (id : Nat)
  /-- To failed. -/
  | fail (id : Nat)
  deriving DecidableEq

/-- The transaction an action is about. -/
def TxAction.id : TxAction → Nat
  | .resolve id _ => id
  | .markSpent id => id
  | .retry id => id
  | .fail id => id

/-- `CtlError`, as far as the actions return it. -/
inductive CtlError where
  /-- "no such transaction". -/
  | noSuchTransaction (id : Nat)
  /-- "only inbound transactions can be resolved" or "spent". -/
  | onlyInbound
  /-- "only outbound transactions can be retried". -/
  | onlyOutbound
  /-- "no outbound body persisted for this transaction". -/
  | noBody
  /-- The store refused. -/
  | store (error : StoreError)
  /-- The delivery failed. -/
  | deliver (failure : DeliverFailure)

/-- A store's answer as the command line reports it. -/
def ofStore : Outcome Unit → Except CtlError Unit × Db
  | (.ok (), db) => (.ok (), db)
  | (.error error, db) => (.error (.store error), db)

/-- `resolve`. -/
def resolve (db : Db) (tx : Transaction) (binding : Option String) (now : Int64) :
    Except CtlError Unit × Db :=
  if tx.direction ≠ .incoming then (.error .onlyInbound, db)
  else match binding with
  | none => ofStore (db.txTransition tx.id .resolved now)
  | some binding =>
    match ofStore (db.txSetBinding tx.id (some binding) now) with
    | (.error error, db) => (.error error, db)
    | (.ok (), db) => ofStore (db.txTransition tx.id .resolved now)

/-- The `mark-spent` action. -/
def markSpent (db : Db) (tx : Transaction) (now : Int64) : Except CtlError Unit × Db :=
  if tx.direction ≠ .incoming then (.error .onlyInbound, db)
  else ofStore (db.txTransition tx.id .spent now)

/-- The payload kind of a recorded word. -/
def payloadOf (word : String) : Payload := if word = "plaintext" then .plaintext else .sealed

/-- The request a recorded transaction is sent again with. -/
def retryRequest (tx : Transaction) (body : List UInt8) : SendRequest :=
  ⟨mailboxUser tx.senderMailbox, tx.recipientMailbox, tx.messageId, payloadOf tx.payload, body⟩

/-- `retry`. -/
def retry (db : Db) (config : Config) (tx : Transaction) (network : Network) (now : Int64) :
    Except CtlError Unit × Db :=
  if tx.direction ≠ .outgoing then (.error .onlyOutbound, db)
  else match tx.outboundBody with
  | none => (.error .noBody, db)
  | some body =>
    match deliverInvoice db config (retryRequest tx body) network now with
    | (.error failure, db) => (.error (.deliver failure), db)
    | (.ok _, db) => (.ok (), db)

/-- `run`. -/
def run (db : Db) (config : Config) (action : TxAction) (network : Network) (now : Int64) :
    Except CtlError Unit × Db :=
  match db.txGet action.id with
  | none => (.error (.noSuchTransaction action.id), db)
  | some tx =>
    match action with
    | .resolve _ binding => resolve db tx binding now
    | .markSpent _ => markSpent db tx now
    | .fail _ => ofStore (db.txTransition tx.id .failed now)
    | .retry _ => retry db config tx network now

end Talk.Ctl
