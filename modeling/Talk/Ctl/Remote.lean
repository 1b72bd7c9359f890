import Talk.Daemon.Secure

/-!
# Outbound sends of `talkctl`

`deliver_invoice` is the command line's own path to a receiving server, shared by `send` and
`tx retry`. It records like the daemon does, but only once a dialogue has been tried.
-/

namespace Talk.Ctl

open Mailstore Protocol Daemon Text

/-- What `Ctx` holds of the configuration. -/
structure Config where
  /-- This server's domain. -/
  domain : String
  /-- The template. -/
  template : Template

/-- Why a delivery is refused or fails. -/
inductive DeliverFailure where
  /-- "sender username is required", before any delivery. -/
  | senderRequired
  /-- "malformed recipient mailbox". -/
  | malformedRecipient
  /-- "cannot resolve domain key". -/
  | key (error : String)
  /-- "cannot resolve endpoint". -/
  | endpoint
  /-- "deliver". -/
  | deliver (error : ClientError)

/-- `record_outbound`, the daemon's `record_outbound_tx`. -/
def recordOutbound (db : Db) (config : Config) (request : SendRequest) (state : TxState)
    (now : Int64) : Db :=
  recordOutboundTx db config.template config.domain request.senderUsername
    request.recipientMailbox request.messageId request.payload request.body state now

/-- `SendInvoice::deliver`: connect, then run the dialogue. -/
def sendInvoiceDeliver (network : Network) : Except ClientError Unit :=
  match network.connect with
  | .error error => .error error
  | .ok () => network.dialogue

/-- The state a result is recorded as. -/
def resultState : Except ClientError Unit → TxState
  | .ok () => .sent
  | .error error => if isRetryLater error then .retrying else .failed

/-- `deliver_invoice`. -/
def deliverInvoice (db : Db) (config : Config) (request : SendRequest) (network : Network)
    (now : Int64) : Except DeliverFailure TxState × Db :=
  match (split '@' request.recipientMailbox)[1]? with
  | none => (.error .malformedRecipient, db)
  | some _ =>
    match network.key with
    | .error error => (.error (.key error), db)
    | .ok () =>
      match network.endpoint, network.sendEndpoint with
      | .error _, none => (.error .endpoint, db)
      | _, _ =>
        let result := sendInvoiceDeliver network
        let db := recordOutbound db config request (resultState result) now
        match result with
        | .error error => (.error (.deliver error), db)
        | .ok () => (.ok (resultState result), db)

/-- `send` while the daemon is down: `direct_send`, after the sender is checked. -/
def sendDirectly (db : Db) (config : Config) (request : SendRequest) (network : Network)
    (now : Int64) : Except DeliverFailure TxState × Db :=
  if request.senderUsername = "" then (.error .senderRequired, db)
  else deliverInvoice db config request network now

end Talk.Ctl
