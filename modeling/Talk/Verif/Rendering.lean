import Talk.Daemon.Rendering
import Talk.Lib.Transition
import Talk.Mailstore.Calls
import Talk.Verif.StoreSteps

/-!
# Templates and deliveries

What a template makes of an invoice decides about nothing but the text that is stored: deliveries
are answered alike, and the tables are the same up to that text, whatever the templates and the
engine are. A simulated payment is refused if its template fails, and then leaves the store. And the
engine is given nothing but the operator's templates: what it would make of another text, a sender's
included, is without effect.
-/

namespace Talk.Verif.Rendering

open Talk.Core Daemon Files Mailstore Protocol Table Transition
open Protocol.Mailbox (EmulatePayload TextResult)

/-! ## Without the text -/

/-- A message without its text. -/
def blankRow (row : MessageRow) : MessageRow := { row with subject := "", size := 0, body := [] }

/-- The tables without the texts of messages. -/
def blank (db : Db) : Db := { db with messages := db.messages.map blankRow }

/-- A message to be stored, without its text. -/
def blankNew (msg : NewMessage) : NewMessage := { msg with subject := "", body := [] }

/-- What is answered for a stored message, without its text. -/
def blankMeta (info : MessageMeta) : MessageMeta := { info with subject := "", size := 0 }

variable (db : Db) (userId : Nat) (msg : NewMessage) (now : Int64)

/-- The next id does not depend on the texts. -/
theorem nextId_blank :
    nextId MessageRow.id (blank db).messages = nextId MessageRow.id db.messages := by
  have ids : (db.messages.map blankRow).map MessageRow.id = db.messages.map MessageRow.id :=
    List.map_map
  rw [nextId, nextId, ← ids]
  rfl

/-- Which messages a mailbox holds does not depend on the texts. -/
theorem holds_blank (mailboxId : Nat) (messageId : String) :
    (blank db).holds mailboxId messageId = db.holds mailboxId messageId := by
  rw [Db.holds, blank, List.any_map]
  rfl

/-- An inserted message, without its text. -/
theorem inserted_blank (handle : Db.Handle) :
    (blank db).inserted handle (blankNew msg) now = blank (db.inserted handle msg now) := by
  have row : (blank db).newRow handle (blankNew msg) now = blankRow (db.newRow handle msg now) := by
    rw [Db.newRow, nextId_blank]
    rfl
  rw [Db.inserted, row, Db.inserted, blank, blank, List.map_append]
  rfl

/-- An insertion goes alike. -/
theorem insertMessage_blank (handle : Db.Handle) :
    (blank db).insertMessage handle (blankNew msg) now =
      ((db.insertMessage handle msg now).1.map blankMeta,
        blank (db.insertMessage handle msg now).2) := by
  have held : (blank db).holds handle.id (blankNew msg).messageId =
      db.holds handle.id msg.messageId := holds_blank db _ _
  have boxes : (blank db).mailboxes = db.mailboxes := rfl
  unfold Db.insertMessage
  rw [held, boxes]
  split
  · rfl
  · by_cases gone : (db.mailboxes.any fun box => decide (box.id = handle.id)) = false
    · rw [if_pos gone, if_pos gone]
      rfl
    · rw [if_neg gone, if_neg gone, inserted_blank, Db.insertedMeta, nextId_blank]
      rfl

/-- An append goes alike. -/
theorem appendAndBroadcast_blank (messageId : String) :
    appendAndBroadcast (blank db) userId (blankNew msg) messageId now =
      ((appendAndBroadcast db userId msg messageId now).1.map blankMeta,
        blank (appendAndBroadcast db userId msg messageId now).2) := by
  unfold appendAndBroadcast Db.appendMessage Db.appendMessageTo
  have named : (blank db).mailboxNamed userId inbox = db.mailboxNamed userId inbox := rfl
  rw [named]
  cases db.mailboxNamed userId inbox with
  | error error =>
    cases error with
    | _ => rfl
  | ok handle =>
    dsimp only
    rw [insertMessage_blank]
    rcases db.insertMessage handle msg now with ⟨error | info, after⟩
    · cases error with
      | _ => rfl
    · rfl

/-- A transaction is created alike. -/
theorem txCreate_blank (new : NewTransaction) :
    (blank db).txCreate new now = ((db.txCreate new now).1, blank (db.txCreate new now).2) := by
  have ledger : (blank db).transactions = db.transactions := rfl
  unfold Db.txCreate
  rw [ledger]
  split
  · rfl
  · rfl

/-- The ledger goes alike. -/
theorem recordInboundTx_blank (sender recipient amount messageId : String) (rowId : Nat) :
    recordInboundTx (blank db) sender recipient amount messageId rowId now =
      blank (recordInboundTx db sender recipient amount messageId rowId now) := by
  unfold recordInboundTx
  rw [txCreate_blank]
  rcases db.txCreate (inboundTx sender recipient amount messageId) now with ⟨error | tx, after⟩
  · rfl
  · rfl

/-- A message is stored alike. -/
theorem store_blank (recipient amount : String) :
    store (blank db) userId (blankNew msg) recipient amount now =
      ((store db userId msg recipient amount now).1,
        blank (store db userId msg recipient amount now).2) := by
  unfold store
  have same : (blankNew msg).messageId = msg.messageId := rfl
  rw [same, appendAndBroadcast_blank]
  rcases appendAndBroadcast db userId msg msg.messageId now with ⟨outcome | info, after⟩
  · rfl
  · exact congrArg (Prod.mk _) (recordInboundTx_blank after now _ _ _ _ _)

/-- A template that renders nothing. -/
def silent : Template := ⟨Unit, some (), fun _ _ _ _ _ _ => some ("", ""), ""⟩

/-- A delivery goes alike with any templates. -/
theorem deliver_blank (template : Template) (delivery : Delivery) :
    deliver silent now delivery (blank db) =
      ((deliver template now delivery db).1, blank (deliver template now delivery db).2) := by
  unfold deliver
  have found : recipientUser (blank db) delivery.recipientMailbox =
      recipientUser db delivery.recipientMailbox := rfl
  rw [found]
  cases recipientUser db delivery.recipientMailbox with
  | error outcome => rfl
  | ok user =>
    exact store_blank db user.id ⟨delivery.messageId, _, _, .default, delivery.senderMailbox, _⟩ now
      delivery.recipientMailbox ""

/-! ## Two daemons -/

/-- Two daemons have answered alike, and their tables are the same up to the texts. -/
structure SameButTexts (left right : Premises) : Prop where
  /-- The answers. -/
  answers : left.answers = right.answers
  /-- The tables. -/
  tables : blank left.db = blank right.db

/-- A delivery or a change of files leaves two daemons so, whatever their templates and engines
are. -/
theorem step_same (renderer other : Renderer) (tera engine : Tera) {left right : Premises}
    (same : SameButTexts left right) {occasion : Occasion}
    (real : occasion.isEmulation = false) :
    SameButTexts (left.step renderer tera occasion) (right.step other engine occasion) := by
  cases occasion with
  | change target file => exact ⟨same.answers, same.tables⟩
  | emulate system receivedAt now drawn recipientUser payload => cases real
  | deliver system receivedAt now delivery =>
    have first := deliver_blank left.db now
      (renderer.template tera system left.disk receivedAt) delivery
    have second := deliver_blank right.db now
      (other.template engine system right.disk receivedAt) delivery
    rw [same.tables] at first
    have alike := Prod.mk.inj (first.symm.trans second)
    refine ⟨?_, alike.2⟩
    exact congrArg₂ (fun answers outcome => answers ++ [.delivered outcome]) same.answers alike.1

/-- Two daemons that begin alike stay so, whatever their templates and engines are. -/
theorem run_same (renderer other : Renderer) (tera engine : Tera) {left right : Premises}
    (same : SameButTexts left right) {occasions : List Occasion}
    (real : ∀ occasion ∈ occasions, occasion.isEmulation = false) :
    SameButTexts (run (Premises.step renderer tera) left occasions)
      (run (Premises.step other engine) right occasions) := by
  induction occasions generalizing left right with
  | nil => exact same
  | cons occasion occasions ih =>
    obtain ⟨here, later⟩ := List.forall_mem_cons.mp real
    exact ih (step_same renderer other tera engine same here) later

/-! ## Two engines -/

variable {renderer : Renderer} {tera engine : Tera}

/-- Two engines do the same with the templates that are found. -/
def AgreeOn (renderer : Renderer) (tera engine : Tera) (system : System) (disk : Disk) : Prop :=
  ∀ spec, renderer.resolved system disk = some spec →
    ∀ data, tera spec.subject data = engine spec.subject data ∧
      tera spec.body data = engine spec.body data

/-- Two engines do the same with the templates that an occasion finds. -/
def AgreeAt (renderer : Renderer) (tera engine : Tera) (disk : Disk) : Occasion → Prop
  | .deliver system _ _ _ => AgreeOn renderer tera engine system disk
  | .emulate system _ _ _ _ _ => AgreeOn renderer tera engine system disk
  | .change _ _ => True

/-- An invoice is rendered alike. -/
theorem renderInvoice_agree {spec : TemplateSpec}
    (agree : ∀ data, tera spec.subject data = engine spec.subject data ∧
      tera spec.body data = engine spec.body data)
    (senderName senderAddress amount invoice receivedAt : String) :
    renderInvoice tera spec senderName senderAddress amount invoice receivedAt =
      renderInvoice engine spec senderName senderAddress amount invoice receivedAt := by
  unfold renderInvoice render
  dsimp only
  rw [(agree _).1, (agree _).2]

/-- A delivery is rendered alike. -/
theorem renderDelivery_agree {system : System} {disk : Disk}
    (agree : AgreeOn renderer tera engine system disk) (receivedAt senderMailbox : String)
    (payload : Payload) (body : List UInt8) :
    renderDelivery (renderer.template tera system disk receivedAt) senderMailbox payload body =
      renderDelivery (renderer.template engine system disk receivedAt) senderMailbox payload
        body := by
  unfold renderDelivery Template.renderOr Renderer.template
  dsimp only
  cases found : renderer.resolved system disk with
  | none => rfl
  | some spec =>
    dsimp only
    rw [renderInvoice_agree (agree spec found)]

/-- A simulated payment is rendered alike. -/
theorem payment_agree {system : System} {disk : Disk}
    (agree : AgreeOn renderer tera engine system disk) (receivedAt : String)
    (payload : EmulatePayload) :
    renderer.payment tera system disk receivedAt payload =
      renderer.payment engine system disk receivedAt payload := by
  unfold Renderer.payment
  cases found : resolveTemplate renderer.toml system disk renderer.templatePath
      renderer.dataFile with
  | error error => rfl
  | ok spec =>
    have resolved : renderer.resolved system disk = some spec := by
      rw [Renderer.resolved, found]
      rfl
    unfold render
    dsimp only
    rw [(agree spec resolved _).1, (agree spec resolved _).2]

/-- Where two engines agree an occasion leaves the same. -/
theorem step_agree (premises : Premises) {occasion : Occasion}
    (agree : AgreeAt renderer tera engine premises.disk occasion) :
    premises.step renderer tera occasion = premises.step renderer engine occasion := by
  cases occasion with
  | change target file => rfl
  | deliver system receivedAt now delivery =>
    have same : deliver (renderer.template tera system premises.disk receivedAt) now delivery
        premises.db =
          deliver (renderer.template engine system premises.disk receivedAt) now delivery
            premises.db := by
      unfold deliver
      rw [renderDelivery_agree agree]
    rw [Premises.step, Premises.step, same]
  | emulate system receivedAt now drawn recipientUser payload =>
    rw [Premises.step, Premises.step, payment_agree agree]

/-- The operator alone changes the files. -/
theorem step_disk (premises : Premises) (occasion : Occasion) :
    (premises.step renderer tera occasion).disk = occasion.files premises.disk := by
  cases occasion with
  | deliver system receivedAt now delivery => rfl
  | emulate system receivedAt now drawn recipientUser payload => rfl
  | change target file => rfl

/-- Where two engines agree all along, a run leaves the same. -/
theorem run_agree {premises : Premises} {occasions : List Occasion}
    (agree : Guarded Occasion.files (AgreeAt renderer tera engine) premises.disk occasions) :
    run (Premises.step renderer tera) premises occasions =
      run (Premises.step renderer engine) premises occasions := by
  induction occasions generalizing premises with
  | nil => rfl
  | cons occasion occasions ih =>
    obtain ⟨here, later⟩ := agree
    rw [← @step_disk renderer tera] at later
    have rest := ih later
    rw [step_agree premises here] at rest
    exact (congrArg (fun next => run (Premises.step renderer tera) next occasions)
      (step_agree premises here)).trans rest

/-- Templates reach the texts of messages only, and nothing but the operator's templates is
evaluated. Over any deliveries and changes of the operator's files, a daemon with other templates
and another engine answers every delivery alike and has the same tables up to the texts; and over
simulated payments too, one whose engine does the same with the templates that are found, whatever
it does with any other text, is the same in all. -/
theorem templates_reach_texts (renderer other : Renderer) (tera engine : Tera)
    (premises : Premises) (occasions : List Occasion) :
    ((∀ occasion ∈ occasions, occasion.isEmulation = false) →
        SameButTexts (run (Premises.step renderer tera) premises occasions)
          (run (Premises.step other engine) premises occasions)) ∧
      (Guarded Occasion.files (AgreeAt renderer tera engine) premises.disk occasions →
        run (Premises.step renderer tera) premises occasions =
          run (Premises.step renderer engine) premises occasions) :=
  ⟨run_same renderer other tera engine ⟨rfl, rfl⟩, run_agree⟩

/-- A daemon without templates of its own. -/
def builtIn : Renderer := ⟨fun _ => .ok [], none, "d/template.toml"⟩

/-- A template, sent by somebody else. -/
def product : String := "\x7b\x7b 7 * 7 \x7d\x7d"

/-- An engine that renders the invoice. -/
def quoting : Tera := fun _ data => .ok ((data.lookup "invoice").getD "")

/-- An engine that computes the product where it is a template, and renders the invoice
elsewhere. -/
def computing : Tera := fun template data =>
  if template = product then .ok "49" else quoting template data

/-- Bob is registered. -/
def bobsPremises : Premises :=
  ⟨fun _ => none, run Db.perform .empty [.createUserFull "bob" "" [] none none 0], []⟩

/-- Alice sends bob the product. -/
def productArrives : Occasion :=
  .deliver .calm "now" 0 ⟨"alice@a.org", "m1", "bob@b.org", .plaintext, Utf8.bytes product⟩

/-- A daemon whose template cannot be parsed. -/
def misconfigured : Renderer := ⟨fun _ => .error "not TOML", some "t.toml", "d/template.toml"⟩

/-- A product is stored as it is, by a daemon whose template fails too. -/
theorem product_is_text :
    SameButTexts (run (Premises.step builtIn quoting) bobsPremises [productArrives])
        (run (Premises.step misconfigured computing) bobsPremises [productArrives]) ∧
      (run (Premises.step builtIn computing) bobsPremises [productArrives]).db.messages.map
        MessageRow.body = [Utf8.bytes product] := by
  have real : ∀ occasion ∈ [productArrives], occasion.isEmulation = false := by
    decide
  have agree : AgreeAt builtIn quoting computing bobsPremises.disk productArrives := by
    intro spec found data
    obtain rfl : TemplateSpec.defaultInvoice = spec := Option.some.inj found
    have subject : TemplateSpec.defaultInvoice.subject ≠ product := by decide
    have body : TemplateSpec.defaultInvoice.body ≠ product := by decide +kernel
    exact ⟨(if_neg subject).symm, (if_neg body).symm⟩
  have reach := templates_reach_texts builtIn misconfigured quoting computing bobsPremises
    [productArrives]
  refine ⟨reach.1 real, ?_⟩
  rw [← reach.2 ⟨agree, trivial⟩]
  decide +kernel

end Talk.Verif.Rendering
