import Talk.Core.Template
import Talk.Daemon.Sink
import Talk.Lib.Hex
import Talk.Protocol.Mailbox

/-!
# Rendering with the operator's templates

The daemon resolves its templates anew at every delivery and every simulated payment, from files
that the operator may change in between. A delivery whose template fails is stored as it is, a
simulated payment is refused. The engine and the TOML crate are parameters.
-/

namespace Talk.Daemon

open Talk.Core Files Mailstore Protocol
open Protocol.Mailbox (EmulatePayload EmulateResult)

/-- Where a sink takes its templates from. -/
structure Renderer where
  /-- The TOML crate. -/
  toml : SpecParser
  /-- The configured file. -/
  templatePath : Option String
  /-- The file in the data directory. -/
  dataFile : String

/-- `resolve_template`, with the files as they are. -/
def Renderer.resolved (renderer : Renderer) (system : System) (disk : Disk) :
    Option TemplateSpec :=
  (resolveTemplate renderer.toml system disk renderer.templatePath renderer.dataFile).toOption

/-- The templates of a sink with the files as they are, and the engine. -/
def Renderer.template (renderer : Renderer) (tera : Tera) (system : System) (disk : Disk)
    (receivedAt : String) : Template where
  Spec := TemplateSpec
  resolved := renderer.resolved system disk
  render spec senderName senderAddress amount invoice receivedAt :=
    (renderInvoice tera spec senderName senderAddress amount invoice receivedAt).toOption
  receivedAt := receivedAt

/-! ## Simulated payments -/

/-- The subject and the body of a simulated payment, or why it is refused. -/
def Renderer.payment (renderer : Renderer) (tera : Tera) (system : System) (disk : Disk)
    (receivedAt : String) (payload : EmulatePayload) : Except String (String × String) :=
  match resolveTemplate renderer.toml system disk renderer.templatePath renderer.dataFile with
  | .error error => .error ("template: " ++ error.display)
  | .ok spec =>
    let data := invoiceContext payload.senderName payload.senderAddress payload.amount
      (Utf8.fromUtf8Lossy payload.invoice) receivedAt
    match render tera spec.subject data with
    | .error error => .error ("template subject: " ++ error.display)
    | .ok subject =>
      match render tera spec.body data with
      | .error error => .error ("template body: " ++ error.display)
      | .ok body => .ok (subject, body)

/-- `SecureMailboxService::emulate`, with what is rendered and the bytes that are drawn. -/
def emulate (rendered : Except String (String × String)) (drawn : List UInt8) (now : Int64)
    (recipientUser : String) (payload : EmulatePayload) (db : Db) : EmulateResult × Db :=
  if recipientUser = "" then (.error "recipient user is required", db)
  else match rendered with
  | .error text => (.error text, db)
  | .ok (subject, body) =>
    let messageId := "emul-" ++ Hex.encode drawn
    match deliverEmulated db recipientUser payload.senderName payload.amount messageId subject
        (Utf8.bytes body) now with
    | (.accepted _, db) => (.ok ("delivered " ++ messageId ++ " to " ++ recipientUser), db)
    | (.rejected reason, db) => (.error reason, db)
    | (.retryLater reason, db) => (.error ("retry later: " ++ reason), db)

/-! ## Over time -/

/-- What happens at a daemon, with what the system does, the time for the template and the store's
clock. -/
inductive Occasion where
  /-- A delivery. -/
  | deliver (system : System) (receivedAt : String) (now : Int64) (delivery : Delivery)
  /-- A simulated payment. -/
  | emulate (system : System) (receivedAt : String) (now : Int64) (drawn : List UInt8)
    (recipientUser : String) (payload : EmulatePayload)
  /-- The operator leaves a file, or removes it. -/
  | change (target : String) (file : Option File)

/-- The occasion is a simulated payment. -/
def Occasion.isEmulation : Occasion → Bool
  | .emulate _ _ _ _ _ _ => true
  | _ => false

/-- The files after an occasion. -/
def Occasion.files (disk : Disk) : Occasion → Disk
  | .change target file => Function.update disk target file
  | _ => disk

/-- What a daemon answers. -/
inductive Answer where
  /-- A delivery. -/
  | delivered (outcome : DeliveryOutcome)
  /-- A simulated payment. -/
  | emulated (result : EmulateResult)
  deriving DecidableEq

/-- The files, the store and what the daemon has answered. -/
structure Premises where
  /-- The files. -/
  disk : Disk
  /-- The store. -/
  db : Db
  /-- The answers, oldest first. -/
  answers : List Answer

/-- A daemon after an occasion. -/
def Premises.step (renderer : Renderer) (tera : Tera) (premises : Premises) :
    Occasion → Premises
  | .deliver system receivedAt now delivery =>
    let (outcome, db) :=
      deliver (renderer.template tera system premises.disk receivedAt) now delivery premises.db
    { premises with db := db, answers := premises.answers ++ [.delivered outcome] }
  | .emulate system receivedAt now drawn recipientUser payload =>
    let (result, db) :=
      emulate (renderer.payment tera system premises.disk receivedAt payload) drawn now
        recipientUser payload premises.db
    { premises with db := db, answers := premises.answers ++ [.emulated result] }
  | .change target file => { premises with disk := Function.update premises.disk target file }

end Talk.Daemon
