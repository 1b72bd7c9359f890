import Talk.Verif.Inbox

/-!
# Sealed bodies through a delivery

A delivered invoice is decoded as text, with U+FFFD for what is no text, and rendered into a
template; where that fails it is stored as it came. So different invoices are stored as different
bodies exactly if the template is not found, or refuses every text with U+FFFD, renders no two
texts alike, and renders whatever it has rendered.
-/

namespace Talk.Verif.SealedBodies

open Mailstore Table Daemon Protocol Transition StoreSteps Inbox

/-! ## What is stored -/

/-- The body a template renders from the text of an invoice. -/
def rendered (template : Template) (spec : template.Spec) (senderMailbox text : String) :
    Option String :=
  (template.render spec senderMailbox senderMailbox "" text template.receivedAt).map Prod.snd

/-- The body that is stored for an invoice. -/
theorem renderDelivery_snd (template : Template) (senderMailbox : String) (payload : Payload)
    (body : List UInt8) :
    (renderDelivery template senderMailbox payload body).2 =
      match template.resolved with
      | none => body
      | some spec =>
        match rendered template spec senderMailbox (Utf8.fromUtf8Lossy body) with
        | none => body
        | some html => Utf8.bytes html := by
  unfold renderDelivery Template.renderOr rendered
  cases template.resolved with
  | none => rfl
  | some spec =>
    dsimp only
    cases template.render spec senderMailbox senderMailbox "" (Utf8.fromUtf8Lossy body)
      template.receivedAt with
    | none => rfl
    | some result => rfl

/-- A delivery stores a message row. -/
def Stores (template : Template) (now : Int64) (delivery : Delivery) (db : Db) (row : MessageRow) :
    Prop :=
  (deliver template now delivery db).1 = .accepted delivery.messageId ∧
    row ∈ (deliver template now delivery db).2.messages ∧ row ∉ db.messages

/-- The body of the row a delivery stores. -/
theorem body_of_stores {template : Template} {now : Int64} {delivery : Delivery} {db : Db}
    {row : MessageRow} (stores : Stores template now delivery db row) :
    row.body =
      (renderDelivery template delivery.senderMailbox delivery.payload delivery.body).2 := by
  obtain ⟨accepted, inside, new⟩ := stores
  unfold deliver at accepted inside
  cases found : recipientUser db delivery.recipientMailbox with
  | error outcome =>
    rw [found] at inside
    exact absurd inside new
  | ok user =>
    rw [found] at inside
    dsimp only at inside
    generalize (keyringState db user.id delivery.senderMailbox).word = trustState at inside
    generalize renderDelivery template delivery.senderMailbox delivery.payload delivery.body =
      result at inside ⊢
    rcases store_cases db user.id ⟨delivery.messageId, result.1, result.2, .default,
      delivery.senderMailbox, trustState⟩ delivery.recipientMailbox "" now with
      ⟨-, kept⟩ | ⟨handle, -, ⟨-, kept⟩ | ⟨-, stored⟩⟩
    · rw [kept] at inside
      exact absurd inside new
    · rw [kept] at inside
      exact absurd inside new
    · obtain ⟨ledger, tables⟩ := recordInboundTx_tables (db.inserted handle ⟨delivery.messageId,
        result.1, result.2, .default, delivery.senderMailbox, trustState⟩ now)
        delivery.senderMailbox delivery.recipientMailbox "" delivery.messageId
        (nextId MessageRow.id db.messages) now
      rw [stored] at inside
      dsimp only at inside
      rw [tables] at inside
      rcases List.mem_append.mp inside with old | added
      · exact absurd old new
      · rw [List.mem_singleton.mp added]
        rfl

/-! ## What survives -/

/-- Different sealed invoices of a sender are stored as different bodies. -/
def Survive (template : Template) (senderMailbox : String) : Prop :=
  ∀ (now : Int64) (recipientMailbox messageId otherId : String) (db other : Db)
    (first second : List UInt8), first ≠ second → ∀ row otherRow,
    Stores template now ⟨senderMailbox, messageId, recipientMailbox, .sealed, first⟩ db row →
    Stores template now ⟨senderMailbox, otherId, recipientMailbox, .sealed, second⟩ other otherRow →
      row.body ≠ otherRow.body

/-- A template loses nothing of what it renders: no text with U+FFFD is rendered, no two texts
alike, and what was rendered is rendered again. -/
def Lossless (template : Template) (spec : template.Spec) (senderMailbox : String) : Prop :=
  ∀ text html, rendered template spec senderMailbox text = some html →
    Utf8.replacement ∉ text.toList ∧ rendered template spec senderMailbox html ≠ none ∧
      ∀ other, rendered template spec senderMailbox other = some html → other = text

/-- What is stored for an invoice of a sender, with a template that was found. -/
def storedBody (template : Template) (spec : template.Spec) (senderMailbox : String)
    (body : List UInt8) : List UInt8 :=
  match rendered template spec senderMailbox (Utf8.fromUtf8Lossy body) with
  | none => body
  | some html => Utf8.bytes html

/-- Different invoices are stored as different bodies exactly if the template loses nothing. -/
theorem storedBody_injective_iff (template : Template) (spec : template.Spec)
    (senderMailbox : String) :
    (∀ first second, first ≠ second → storedBody template spec senderMailbox first ≠
        storedBody template spec senderMailbox second) ↔
      Lossless template spec senderMailbox := by
  constructor
  · intro distinct text html found
    have stored : ∀ input, Utf8.fromUtf8Lossy input = text →
        storedBody template spec senderMailbox input = Utf8.bytes html := by
      intro input decoded
      rw [storedBody, decoded, found]
    refine ⟨fun member => ?_, fun refused => ?_, fun other same => ?_⟩
    · obtain ⟨input, differs, decoded⟩ := Utf8.exists_other_bytes member
      refine distinct input (Utf8.bytes text) differs ?_
      rw [stored input decoded, stored _ (Utf8.fromUtf8Lossy_bytes text)]
    · -- What was rendered would be stored as it is, like the invoice it was rendered from.
      have raw : storedBody template spec senderMailbox (Utf8.bytes html) = Utf8.bytes html := by
        rw [storedBody, Utf8.fromUtf8Lossy_bytes, refused]
      refine distinct (Utf8.bytes text) (Utf8.bytes html) (fun equal => ?_) ?_
      · rw [Utf8.bytes_injective equal, refused] at found
        cases found
      · rw [raw, stored _ (Utf8.fromUtf8Lossy_bytes text)]
    · by_contra differs
      refine distinct (Utf8.bytes other) (Utf8.bytes text) (fun equal =>
        differs (Utf8.bytes_injective equal)) ?_
      rw [stored _ (Utf8.fromUtf8Lossy_bytes text), storedBody, Utf8.fromUtf8Lossy_bytes, same]
  · intro lossless first second differs same
    -- A rendered invoice is the encoding of its text, which can be read off what is stored.
    have valid : ∀ input html,
        rendered template spec senderMailbox (Utf8.fromUtf8Lossy input) = some html →
        Utf8.bytes (Utf8.fromUtf8Lossy input) = input := fun input html found =>
      Utf8.bytes_fromUtf8Lossy (lossless _ html found).1
    have mixed : ∀ input raw html,
        rendered template spec senderMailbox (Utf8.fromUtf8Lossy input) = some html →
        rendered template spec senderMailbox (Utf8.fromUtf8Lossy raw) = none →
        Utf8.bytes html ≠ raw := by
      rintro input raw html found refused rfl
      rw [Utf8.fromUtf8Lossy_bytes] at refused
      exact (lossless _ html found).2.1 refused
    unfold storedBody at same
    cases left : rendered template spec senderMailbox (Utf8.fromUtf8Lossy first) with
    | none =>
      cases right : rendered template spec senderMailbox (Utf8.fromUtf8Lossy second) with
      | none =>
        rw [left, right] at same
        exact differs same
      | some html =>
        rw [left, right] at same
        exact mixed second first html right left same.symm
    | some html =>
      cases right : rendered template spec senderMailbox (Utf8.fromUtf8Lossy second) with
      | none =>
        rw [left, right] at same
        exact mixed first second html left right same
      | some other =>
        rw [left, right] at same
        obtain rfl := Utf8.bytes_injective same
        have texts := (lossless _ html left).2.2 _ right
        rw [← valid first html left, ← texts, valid second html right] at differs
        exact differs rfl

/-! ## Deliveries -/

/-- A store with bob alone. -/
def bobStore : Db := run (apply noTemplate "b.io") .empty [createBob]

/-- Bob accepts every invoice. -/
theorem bob_accepts (template : Template) (now : Int64) (senderMailbox messageId : String)
    (payload : Payload) (body : List UInt8) :
    ∃ row, Stores template now ⟨senderMailbox, messageId, "bob@b.io", payload, body⟩ bobStore
      row := by
  have found : recipientUser bobStore "bob@b.io" = .ok ⟨1, "bob", [], none, none⟩ := by
    decide +kernel
  have empty : bobStore.messages = [] := by decide +kernel
  have named : bobStore.mailboxNamed 1 inbox = .ok ⟨1, 0, 1⟩ := by decide +kernel
  unfold Stores deliver
  rw [found]
  dsimp only
  generalize (renderDelivery template senderMailbox payload body) = result
  generalize (keyringState bobStore 1 senderMailbox).word = trustState
  rcases store_cases bobStore 1 ⟨messageId, result.1, result.2, .default, senderMailbox, trustState⟩
    "bob@b.io" "" now with ⟨missing, -⟩ | ⟨handle, -, ⟨held, -⟩ | ⟨-, stored⟩⟩
  · rw [named] at missing
    cases missing
  · rw [Db.holds, empty] at held
    cases held
  · obtain ⟨ledger, tables⟩ := recordInboundTx_tables (bobStore.inserted handle ⟨messageId,
      result.1, result.2, .default, senderMailbox, trustState⟩ now) senderMailbox "bob@b.io" ""
      messageId (nextId MessageRow.id bobStore.messages) now
    rw [stored]
    dsimp only
    rw [tables, empty]
    exact ⟨_, rfl, List.mem_append_right _ (List.mem_singleton_self _), List.not_mem_nil⟩

/-- Different sealed invoices of a sender are stored as different bodies exactly if no template is
found, or the template renders no text with U+FFFD, no two texts alike, and whatever it has
rendered. -/
theorem sealed_bodies_survive_iff_lossless (template : Template) (senderMailbox : String) :
    Survive template senderMailbox ↔
      ∀ spec, template.resolved = some spec → Lossless template spec senderMailbox := by
  have bodies := renderDelivery_snd template senderMailbox .sealed
  constructor
  · intro survive spec resolved
    refine (storedBody_injective_iff template spec senderMailbox).mp fun first second differs => ?_
    obtain ⟨row, stores⟩ := bob_accepts template 0 senderMailbox "m1" .sealed first
    obtain ⟨other, otherStores⟩ := bob_accepts template 0 senderMailbox "m1" .sealed second
    have result := survive 0 "bob@b.io" "m1" "m1" bobStore bobStore first second differs row other
      stores otherStores
    rw [body_of_stores stores, body_of_stores otherStores] at result
    dsimp only at result
    rw [bodies, bodies, resolved] at result
    exact result
  · intro lossless now recipientMailbox messageId otherId db other first second differs row otherRow
      stores otherStores
    rw [body_of_stores stores, body_of_stores otherStores]
    dsimp only
    rw [bodies, bodies]
    cases resolved : template.resolved with
    | none => exact differs
    | some spec =>
      exact (storedBody_injective_iff template spec senderMailbox).mpr (lossless spec resolved)
        first
        second differs

/-! ## Two ciphertexts, one body -/

/-- A template that shows the invoice. -/
def showing : Template :=
  ⟨Unit, some (), fun _ sender _ _ invoice _ => some ("Invoice from " ++ sender, invoice), ""⟩

/-- Two bytes that are no text are stored as one body. -/
theorem ciphertexts_stored_alike : ¬Survive showing "alice@a.io" := by
  intro survive
  obtain ⟨row, stores⟩ := bob_accepts showing 0 "alice@a.io" "m1" .sealed [0xFE]
  obtain ⟨other, otherStores⟩ := bob_accepts showing 0 "alice@a.io" "m2" .sealed [0xFF]
  refine survive 0 "bob@b.io" "m1" "m2" bobStore bobStore [0xFE] [0xFF] (by decide) row other stores
    otherStores ?_
  rw [body_of_stores stores, body_of_stores otherStores]
  decide +kernel

end Talk.Verif.SealedBodies
