import Talk.Daemon.Sink
import Talk.Imap.Session
import Talk.Lib.Crlf
import Talk.Verif.FetchedContent
import Talk.Verif.SigningOracle
import Talk.Verif.StoreSteps

/-!
# Line breaks in FETCH responses

What a peer says reaches the recipient's IMAP stream in the ENVELOPE of its messages: the domain of
its challenge as the host of the sender, and the subject that is rendered for it. Quoting escapes
quotes and backslashes and leaves CR and LF alone, so a line of a response stays one line exactly
when none of the texts put into it breaks. The user name and the message id of an INVOICE are
tokens of a line; the domain is decoded from Base64 and may hold anything but a separator.
-/

namespace Talk.Verif.ResponseSplitting

open Protocol hiding Reply
open Imap Mailstore Daemon Crlf SessionInvariant SigningOracle StoreSteps Transition
open FetchedContent (announcement servesBody content_served content_text render_fetchResponse epoch)
open Utf8 (bytes fromUtf8Lossy)

/-! ## Quoted strings -/

/-- Quoting leaves CR and LF alone. -/
theorem escapes_quoteChar : Escapes quoteChar '\r' '\n' := by
  refine ⟨by decide, by decide, by decide, fun c cr lf => ?_⟩
  unfold quoteChar
  split
  · simp [Ne.symm cr, Ne.symm lf]
  · simp [Ne.symm cr, Ne.symm lf]

/-- A quoted string breaks where the text does. -/
theorem broken_quote (text : String) : Broken (quote text).toList ↔ Broken text.toList := by
  have shape : (quote text).toList = ['"'] ++ (text.toList.flatMap quoteChar ++ ['"']) := by
    simp [quote]
  rw [shape, broken_append_right (by decide), broken_append_left (by decide)]
  exact escapes_quoteChar.pair_flatMap text.toList

/-- Where a reader of quoted strings is. -/
inductive Mode where
  /-- Between the strings. -/
  | outside
  /-- In a string, with what was read of it. -/
  | inside (text : List Char)
  /-- Behind a backslash. -/
  | escaped (text : List Char)

/-- The quoted strings of a text, without their escapes. -/
def strings : Mode → List Char → List String
  | _, [] => []
  | .outside, c :: rest => if c = '"' then strings (.inside []) rest else strings .outside rest
  | .inside text, c :: rest =>
    if c = '\\' then strings (.escaped text) rest
    else if c = '"' then String.ofList text :: strings .outside rest
    else strings (.inside (text ++ [c])) rest
  | .escaped text, c :: rest => strings (.inside (text ++ [c])) rest

/-- A text without quotes holds no string. -/
theorem strings_free {text : List Char} (free : '"' ∉ text) (rest : List Char) :
    strings .outside (text ++ rest) = strings .outside rest := by
  induction text with
  | nil => rfl
  | cons c text ih =>
    simp only [List.mem_cons, not_or] at free
    rw [List.cons_append, strings, if_neg (Ne.symm free.1), ih free.2]

/-- The escaped text is read as the text. -/
theorem strings_escaped (text read rest : List Char) :
    strings (.inside read) (text.flatMap quoteChar ++ '"' :: rest) =
      String.ofList (read ++ text) :: strings .outside rest := by
  induction text generalizing read with
  | nil => simp [strings]
  | cons c text ih =>
    rw [List.flatMap_cons, List.append_assoc, quoteChar]
    split
    · rw [List.cons_append, strings, if_pos rfl, List.cons_append, strings, List.nil_append, ih]
      simp
    · rename_i other
      rw [not_or] at other
      rw [List.singleton_append, strings, if_neg other.1, if_neg other.2, ih]
      simp

/-- A quoted string is read as its text. -/
theorem strings_quote (text : String) (rest : List Char) :
    strings .outside ((quote text).toList ++ rest) = text :: strings .outside rest := by
  have shape : (quote text).toList ++ rest =
      '"' :: (text.toList.flatMap quoteChar ++ '"' :: rest) := by
    simp [quote]
  rw [shape, strings, if_pos rfl, strings_escaped, List.nil_append, String.ofList_toList]

/-! ## The envelope -/

/-- The strings of an address. -/
def addressStrings (text : String) : List String :=
  if text = "" ∨ text = "(unknown sender)" ∨ text = "(unknown recipient)" then []
  else match Text.rsplitOnce '@' text with
  | some (localPart, host) => [localPart, localPart, host]
  | none => [text]

/-- An address is its two halves around the last `@`. -/
theorem rsplitOnce_address {text localPart host : String}
    (found : Text.rsplitOnce '@' text = some (localPart, host)) :
    text.toList = localPart.toList ++ '@' :: host.toList := by
  obtain ⟨⟨left, right⟩, split, same⟩ := Option.map_eq_some_iff.mp found
  cases same
  rw [Text.splitLast_eq split, String.toList_ofList, String.toList_ofList]

/-- An address breaks where the mailbox does. -/
theorem broken_addressGroup (text : String) :
    Broken (addressGroup text).toList ↔ Broken text.toList := by
  unfold addressGroup
  split
  next unknown =>
    refine iff_of_false (by decide) ?_
    rcases unknown with rfl | rfl | rfl <;> decide
  next =>
    split
    next localPart host found =>
      have shape : ("((" ++ quote localPart ++ " NIL " ++ quote localPart ++ " " ++ quote host ++
          "))").toList = "((".toList ++ ((quote localPart).toList ++ (" NIL ".toList ++
            ((quote localPart).toList ++
              (" ".toList ++ ((quote host).toList ++ "))".toList))))) := by
        simp
      rw [shape, broken_append_right (by decide), broken_append_of_head (by simp),
        broken_append_right (by decide), broken_append_of_head (by simp),
        broken_append_right (by decide), broken_append_left (by decide), broken_quote, broken_quote,
        rsplitOnce_address found, broken_append_of_head (by simp), broken_cons]
      simp
    next =>
      have shape : ("((" ++ quote text ++ " NIL NIL NIL))").toList =
          "((".toList ++ ((quote text).toList ++ " NIL NIL NIL))".toList) := by
        simp
      rw [shape, broken_append_right (by decide), broken_append_left (by decide), broken_quote]

/-- The strings of an address are read back. -/
theorem strings_addressGroup (text : String) (rest : List Char) :
    strings .outside ((addressGroup text).toList ++ rest) =
      addressStrings text ++ strings .outside rest := by
  unfold addressGroup addressStrings
  split
  next => exact strings_free (by decide) rest
  next =>
    cases Text.rsplitOnce '@' text with
    | none =>
      simp only [String.toList_append, List.append_assoc]
      rw [strings_free (by decide), strings_quote, strings_free (by decide)]
      rfl
    | some parts =>
      simp only [String.toList_append, List.append_assoc]
      rw [strings_free (by decide), strings_quote, strings_free (by decide), strings_quote,
        strings_free (by decide), strings_quote, strings_free (by decide)]
      rfl

variable (env : Environment) (info : MessageMeta) (identity : MessageIdentity)

/-- The stored values that an envelope quotes, in order. -/
def envelopeStrings : List String :=
  info.subject :: (addressStrings identity.fromMailbox ++ addressStrings identity.fromMailbox ++
    addressStrings identity.fromMailbox ++ addressStrings identity.toMailbox ++ [info.messageId])

/-- An envelope is its pieces with blanks between them. -/
theorem toList_envelope : (envelopeResponse env info identity).toList =
    List.intercalate [' '] [(env.formatRfc2822 info.internaldate).toList,
      (quote info.subject).toList, (addressGroup identity.fromMailbox).toList,
      (addressGroup identity.fromMailbox).toList, (addressGroup identity.fromMailbox).toList,
      (addressGroup identity.toMailbox).toList, "NIL NIL NIL".toList,
      (quote info.messageId).toList] := by
  have space : " ".toList = [' '] := rfl
  rw [envelopeResponse, String.toList_intercalate, space]
  simp only [List.map_cons, List.map_nil]

/-- An envelope breaks where its date or a value does. -/
theorem broken_envelope :
    Broken (envelopeResponse env info identity).toList ↔
      Broken (env.formatRfc2822 info.internaldate).toList ∨ Broken info.subject.toList ∨
      Broken identity.fromMailbox.toList ∨ Broken identity.toMailbox.toList ∨
      Broken info.messageId.toList := by
  have fixed : ¬Broken "NIL NIL NIL".toList := by decide
  rw [toList_envelope, broken_intercalate (by decide) (by decide)]
  simp only [List.exists_mem_cons_iff, List.not_mem_nil, false_and, exists_false, or_false,
    broken_quote, broken_addressGroup, fixed, false_or]
  -- The sender stands in three groups.
  rw [or_self_left, or_self_left]

/-- The strings of an envelope are the stored values. -/
theorem strings_envelope (undated : '"' ∉ (env.formatRfc2822 info.internaldate).toList) :
    strings .outside (envelopeResponse env info identity).toList =
      envelopeStrings info identity := by
  have space : ∀ rest, strings .outside ([' '] ++ rest) = strings .outside rest :=
    strings_free (by decide)
  have fixed : ∀ rest, strings .outside ("NIL NIL NIL".toList ++ rest) = strings .outside rest :=
    strings_free (by decide)
  rw [toList_envelope]
  simp only [List.intercalate_cons_cons, List.intercalate_singleton, List.append_assoc]
  rw [strings_free undated, space, strings_quote, space, strings_addressGroup, space,
    strings_addressGroup, space, strings_addressGroup, space, strings_addressGroup, space, fixed,
    space, ← List.append_nil (quote info.messageId).toList, strings_quote]
  simp [envelopeStrings, strings]

/-! ## The line -/

/-- A number holds no CR. -/
theorem cr_number (value : Nat) : '\r' ∉ (toString value).toList :=
  fun member => absurd (Text.isDigit_toString member) (by decide)

/-- A number does not break. -/
theorem not_broken_number (value : Nat) : ¬Broken (toString value).toList :=
  not_broken_of_cr (cr_number value)

/-- A number of 32 bits does not break. -/
theorem not_broken_word (value : UInt32) : ¬Broken (toString value).toList :=
  not_broken_number value.toNat

/-- The flags do not break. -/
theorem not_broken_flags (flags : MessageFlags) : ¬Broken (flagsDisplay flags).toList := by
  rw [flagsDisplay, String.toList_intercalate, show " ".toList = [' '] from rfl,
    broken_intercalate (by decide) (by decide)]
  rintro ⟨piece, member, broken⟩
  obtain ⟨word, shown, rfl⟩ := List.mem_map.mp member
  obtain ⟨pair, kept, rfl⟩ := List.mem_map.mp shown
  have known := List.mem_of_mem_filter kept
  simp only [List.mem_cons, List.not_mem_nil, or_false] at known
  rcases known with rfl | rfl | rfl | rfl <;> exact absurd broken (by decide)

/-- A text between fixed ones breaks where it does. -/
theorem broken_between {first last : String} (text : String) (cr : '\r' ∉ first.toList)
    (lf : '\n' ∉ last.toList) : Broken (first ++ text ++ last).toList ↔ Broken text.toList := by
  rw [String.toList_append, String.toList_append, broken_append_left lf, broken_append_right cr]

variable (req : FetchRequest) (body : List UInt8)

/-- The items that are requested break where one of them does. -/
theorem broken_requested (items : List (Bool × String)) :
    Broken (" ".intercalate (items.filterMap fun (requested, part) =>
        if requested then some part else none)).toList ↔
      ∃ item ∈ items, item.1 = true ∧ Broken item.2.toList := by
  rw [String.toList_intercalate, show " ".toList = [' '] from rfl,
    broken_intercalate (by decide) (by decide)]
  constructor
  · rintro ⟨piece, member, broken⟩
    obtain ⟨part, shown, rfl⟩ := List.mem_map.mp member
    obtain ⟨⟨requested, text⟩, item, kept⟩ := List.mem_filterMap.mp shown
    cases requested with
    | false => cases kept
    | true =>
      cases kept
      exact ⟨_, item, rfl, broken⟩
  · rintro ⟨⟨requested, text⟩, item, rfl, broken⟩
    exact ⟨_, List.mem_map.mpr ⟨text, List.mem_filterMap.mpr ⟨_, item, rfl⟩, rfl⟩, broken⟩

/-- The items break where the date or the envelope does. -/
theorem broken_fetchParts :
    Broken (" ".intercalate (fetchParts env info req body identity)).toList ↔
      (req.internaldate = true ∧ Broken (env.formatInternaldate info.internaldate).toList) ∨
      (req.envelope = true ∧ Broken (envelopeResponse env info identity).toList) := by
  have flags : ¬Broken ("FLAGS (" ++ flagsDisplay info.flags ++ ")").toList := by
    rw [broken_between _ (by decide) (by decide)]
    exact not_broken_flags info.flags
  have uid : ¬Broken ("UID " ++ toString info.uid).toList := by
    rw [String.toList_append, broken_append_right (by decide)]
    exact not_broken_word info.uid
  have size : ¬Broken ("RFC822.SIZE " ++ toString info.size).toList := by
    rw [String.toList_append, broken_append_right (by decide)]
    exact not_broken_number info.size
  have structured : ∀ lines : Nat, ¬Broken ("BODYSTRUCTURE (\"text\" \"html\" NIL NIL NIL NIL " ++
      toString info.size ++ " " ++ toString lines ++ ")").toList := by
    intro lines
    rw [String.toList_append, broken_append_left (by decide), String.toList_append,
      String.toList_append, List.append_assoc, broken_append_of_head (by simp),
      broken_append_right (by decide), String.toList_append, broken_append_right (by decide)]
    exact not_or.mpr ⟨not_broken_number info.size, not_broken_number lines⟩
  have dated := broken_between (env.formatInternaldate info.internaldate)
    (by decide : '\r' ∉ "INTERNALDATE \"".toList) (by decide : '\n' ∉ "\"".toList)
  have enveloped := broken_between (envelopeResponse env info identity)
    (by decide : '\r' ∉ "ENVELOPE (".toList) (by decide : '\n' ∉ ")".toList)
  rw [fetchParts, broken_requested]
  simp only [List.exists_mem_cons_iff, List.not_mem_nil, false_and, exists_false, or_false, flags,
    uid, size, structured, dated, enveloped, and_false, false_or]

/-- What stands in a line of a FETCH response breaks it. -/
def Breaks : Prop :=
  (req.internaldate = true ∧ Broken (env.formatInternaldate info.internaldate).toList) ∨
  (req.envelope = true ∧ Broken (envelopeResponse env info identity).toList) ∨
  (req.body ≠ .none ∧ Broken req.body.label.toList)

/-- What is sent of some content behind as many octets as it has: U+FFFD may be longer than what it
stands for. -/
def excess (content : List UInt8) : List UInt8 :=
  (bytes (fromUtf8Lossy content)).drop content.length

/-- The octets of a response outside its literal: the line that introduces the literal, and what
stands behind as many octets as this line announces. A response without a literal is one line. -/
def outside : List (List UInt8) :=
  let sent := bytes (render (fetchResponse env info req body identity))
  if req.body = .none then [sent]
  else
    let line := bytes (announcement env info identity req body)
    [line, sent.drop (line.length + (req.body.content env info body identity).length)]

/-- Outside the literal, CR LF is only at the end of the line that introduces it and at the end of
the response. -/
def Unsplit : Prop := ∀ octets ∈ outside env info identity req body, EndsOnce octets

/-- A line on the wire ends once when its text does not break. -/
theorem endsOnce_line (text : String) :
    EndsOnce (bytes ("* " ++ text ++ "\r\n")) ↔ ¬Broken text.toList := by
  have ending : bytes "\r\n" = [13, 10] := by decide
  rw [Utf8.bytes_append, ending, endsOnce_iff, brokenOctets_bytes, String.toList_append,
    broken_append_right (by decide)]

/-- What follows the announced octets ends once when it holds no break. -/
theorem endsOnce_rest (content : List UInt8) :
    EndsOnce (excess content ++ bytes ")\r\n") ↔ ¬BrokenOctets (excess content) := by
  have ending : bytes ")\r\n" = [41] ++ [13, 10] := by decide
  rw [ending, ← List.append_assoc, endsOnce_iff]
  exact not_congr (pair_append_left (by decide))

/-- Only a stored body is longer on the wire than announced. -/
theorem broken_excess : BrokenOctets (excess (req.body.content env info body identity)) ↔
    servesBody req.body = true ∧ BrokenOctets (excess body) := by
  by_cases served : servesBody req.body = true
  · rw [content_served env info identity served, and_iff_right served]
  · obtain ⟨text, same⟩ := content_text env info identity (by simpa using served) body
    have nothing : excess (bytes text) = [] := by
      rw [excess, Utf8.fromUtf8Lossy_bytes, List.drop_length]
    rw [same, nothing]
    exact iff_of_false (by decide) fun both => served both.1

/-- The line of a response without a body. -/
theorem broken_line (parts : String) :
    Broken (toString info.uid ++ " FETCH (" ++ parts ++ ")").toList ↔ Broken parts.toList := by
  refine broken_between parts ?_ (by decide)
  rw [String.toList_append, List.mem_append, not_or]
  exact ⟨cr_number info.uid.toNat, by decide⟩

/-- The line that announces a literal. -/
theorem broken_announcement (parts label : String) (length : Nat) :
    Broken (toString info.uid ++ " FETCH (" ++ parts ++ " " ++ label ++ " \x7b" ++
        toString length ++ "\x7d").toList ↔ Broken parts.toList ∨ Broken label.toList := by
  have shape : (toString info.uid ++ " FETCH (" ++ parts ++ " " ++ label ++ " \x7b" ++
      toString length ++ "\x7d").toList = ((toString info.uid).toList ++ " FETCH (".toList) ++
        (parts.toList ++ (" ".toList ++ (label.toList ++ (" \x7b".toList ++
          ((toString length).toList ++ "\x7d".toList))))) := by
    simp
  have announced : ¬Broken (" \x7b".toList ++ ((toString length).toList ++ "\x7d".toList)) := by
    rw [broken_append_right (by decide), broken_append_left (by decide)]
    exact not_broken_number length
  have first : '\r' ∉ (toString info.uid).toList ++ " FETCH (".toList := by
    rw [List.mem_append, not_or]
    exact ⟨cr_number info.uid.toNat, by decide⟩
  rw [shape, broken_append_right first, broken_append_of_head (by simp),
    broken_append_right (by decide), broken_append_of_head (by simp)]
  simp only [announced, or_false]

/-- The pieces of a response with a literal. -/
theorem outside_literal (requested : req.body ≠ .none) :
    outside env info identity req body =
      [bytes (announcement env info identity req body),
        excess (req.body.content env info body identity) ++ bytes ")\r\n"] := by
  unfold outside
  dsimp only
  rw [if_neg requested, render_fetchResponse env info identity requested, Utf8.bytes_append,
    Utf8.bytes_append, List.drop_length_add_append,
    List.drop_append_of_le_length (Utf8.length_le_fromUtf8Lossy _)]
  rfl

/-- A FETCH response is not split exactly when nothing breaks its line, and the stored body, if it
is served, holds no break behind as many octets as it has. -/
theorem unsplit_fetchResponse :
    Unsplit env info identity req body ↔
      ¬Breaks env info identity req ∧
        (servesBody req.body = true → ¬BrokenOctets (excess body)) := by
  have parts := broken_fetchParts env info identity req body
  unfold Unsplit Breaks
  by_cases plain : req.body = .none
  · have line : render (fetchResponse env info req body identity) =
        "* " ++ (toString info.uid ++ " FETCH (" ++
          " ".intercalate (fetchParts env info req body identity) ++ ")") ++ "\r\n" := by
      rw [fetchResponse, if_pos plain]
      simp [render, Reply.render, String.join]
    unfold outside
    rw [if_pos plain, line, List.forall_mem_singleton, endsOnce_line, broken_line, parts]
    simp [plain, servesBody]
  · have line : announcement env info identity req body = "* " ++ (toString info.uid ++
        " FETCH (" ++ " ".intercalate (fetchParts env info req body identity) ++ " " ++
        req.body.label ++ " \x7b" ++ toString (req.body.content env info body identity).length ++
        "\x7d") ++ "\r\n" := by
      simp [announcement, String.append_assoc]
    rw [outside_literal env info identity req body plain, List.forall_mem_cons,
      List.forall_mem_singleton, line, endsOnce_line, broken_announcement, parts, endsOnce_rest,
      broken_excess, not_and]
    simp only [plain, ne_eq, not_false_eq_true, true_and, or_assoc]

/-! ## What a peer can say -/

/-- The session loop reads this command from some line, and an invoice from what follows. -/
def Spoken (command : Command) : Prop :=
  ∃ line conn after, (readCommand line).run conn = .ok (some command) after

/-- The sender and the message id of an INVOICE are tokens of its line. -/
theorem tokens_of_decodeLine {line sender messageId : String} {payload : Payload}
    {body : List UInt8} (decoded : decodeLine line = .ok (.invoice sender messageId payload body)) :
    Text.IsToken sender ∧ Text.IsToken messageId := by
  have verb : lineVerb line = "INVOICE" := by
    cases decodes_of_decodeLine decoded with
    | invoice _ _ _ verb => exact verb
  simp only [decodeLine, verb, String.reduceEq, ↓reduceIte] at decoded
  split at decoded
  · rename_i tokens
    split at decoded
    · cases decoded
    · cases decoded
      have first : sender ∈ Text.splitWhitespace line := by simp [tokens]
      have second : messageId ∈ Text.splitWhitespace line := by simp [tokens]
      exact ⟨Text.isToken_of_mem_splitWhitespace first,
        Text.isToken_of_mem_splitWhitespace second⟩
  · cases decoded

/-- The sender and the message id of a spoken INVOICE are tokens. -/
theorem spoken_tokens {sender messageId : String} {payload : Payload} {body : List UInt8}
    (spoken : Spoken (.invoice sender messageId payload body)) :
    Text.IsToken sender ∧ Text.IsToken messageId := by
  obtain ⟨line, conn, after, read⟩ := spoken
  unfold readCommand at read
  split at read
  next => cases read
  next decoded =>
    obtain ⟨blob, middle, -, returned⟩ := ByteStream.run_bind_ok.mp read
    cases returned
    exact tokens_of_decodeLine decoded
  next decoded =>
    cases read
    exact tokens_of_decodeLine decoded

/-- A token does not break. -/
theorem cr_token {text : String} (token : Text.IsToken text) : '\r' ∉ text.toList :=
  fun member => absurd (token.2 '\r' member) (by decide)

variable {crypto : Crypto} {ω : Type}

/-- A delivery is an INVOICE that was heard, in the name of a challenge that was heard. -/
def Invoiced (heard : List Command) (delivery : Delivery) (wire : List UInt8)
    (challenge : Challenge) (sender : String) : Prop :=
  .auth wire ∈ heard ∧ Challenge.fromWire (fromUtf8Lossy wire) = some challenge ∧
    .invoice sender delivery.messageId delivery.payload delivery.body ∈ heard ∧
    delivery.senderMailbox = sender ++ "@" ++ challenge.senderDomain

/-- The peer's domain and all deliveries come from what was heard. -/
structure Provenance (heard : List Command) (state : ZsmptSession crypto ω × Outer ω) :
    Prop where
  /-- The peer's domain is a challenge's. -/
  peer : ∀ peer, state.1.peerDomain = some peer → ∃ wire challenge, .auth wire ∈ heard ∧
    Challenge.fromWire (fromUtf8Lossy wire) = some challenge ∧ challenge.senderDomain = peer
  /-- Every delivery is an INVOICE's. -/
  delivered : ∀ delivery outcome, .deliver delivery outcome ∈ state.2.calls →
    ∃ wire challenge sender, Invoiced heard delivery wire challenge sender

/-- An invoice stays one when more is heard. -/
theorem Invoiced.mono {heard more : List Command} (subset : heard ⊆ more) {delivery : Delivery}
    {wire : List UInt8} {challenge : Challenge} {sender : String}
    (invoiced : Invoiced heard delivery wire challenge sender) :
    Invoiced more delivery wire challenge sender :=
  ⟨subset invoiced.1, invoiced.2.1, subset invoiced.2.2.1, invoiced.2.2.2⟩

/-- One command keeps the provenance. -/
theorem provenance_step {heard : List Command} {state : ZsmptSession crypto ω × Outer ω}
    (provenance : Provenance heard state) (command : Command) :
    Provenance (heard ++ [command]) (handleStep state command) := by
  have subset : heard ⊆ heard ++ [command] := List.subset_append_left _ _
  have here : command ∈ heard ++ [command] := by simp
  obtain ⟨calls, added, -, proper⟩ := effect_calls (handle_effect state.1 state.2 command)
  refine ⟨fun peer known => ?_, fun delivery outcome member => ?_⟩
  · by_cases auth : ∃ wire, command = .auth wire
    · obtain ⟨wire, rfl⟩ := auth
      rcases handle_auth_cases state.1 wire state.2 with
        ⟨challenge, -, found, done⟩ | ⟨-, code, message, done⟩
      · rw [handleStep, done] at known
        exact ⟨wire, challenge, here, found, Option.some.inj known⟩
      · rw [handleStep, done] at known
        obtain ⟨earlier, challenge, inside, found, same⟩ := provenance.peer peer known
        exact ⟨earlier, challenge, subset inside, found, same⟩
    · have kept := (other_kept state.1 state.2 (not_exists.mp auth)).2.1
      obtain ⟨earlier, challenge, inside, found, same⟩ :=
        provenance.peer peer (kept.symm.trans known)
      exact ⟨earlier, challenge, subset inside, found, same⟩
  · rw [handleStep, added] at member
    rcases List.mem_append.mp member with old | new
    · obtain ⟨wire, challenge, sender, invoiced⟩ := provenance.delivered delivery outcome old
      exact ⟨wire, challenge, sender, invoiced.mono subset⟩
    · obtain ⟨sender, messageId, payload, body, peer, recipient, rfl, -, known, -, -, rfl⟩ :=
        proper delivery outcome new
      obtain ⟨wire, challenge, inside, found, rfl⟩ := provenance.peer peer known
      exact ⟨wire, challenge, sender, subset inside, found, here, rfl⟩

/-- Every run keeps the provenance. -/
theorem provenance_run {heard : List Command} {state : ZsmptSession crypto ω × Outer ω}
    (provenance : Provenance heard state) (commands : List Command) :
    Provenance (heard ++ commands) (run handleStep state commands) := by
  induction commands generalizing heard state with
  | nil => simpa using provenance
  | cons command commands ih =>
    have step := ih (provenance_step provenance command)
    rwa [List.append_assoc, List.singleton_append] at step

/-- What a delivery stores: the sender, the message id, and the rendered subject and body. -/
theorem deliver_row {template : Template} {now : Int64} {delivery : Delivery} {db after : Db}
    {id : String} (accepted : deliver template now delivery db = (.accepted id, after))
    {row : MessageRow} (stored : row ∈ after.messages) (new : row ∉ db.messages) :
    row.sender = delivery.senderMailbox ∧ row.messageId = delivery.messageId ∧
      (row.subject, row.body) =
        renderDelivery template delivery.senderMailbox delivery.payload delivery.body := by
  unfold deliver at accepted
  split at accepted
  · -- The recipient is not known, so nothing is stored.
    cases accepted
    exact absurd stored new
  · rename_i user found
    dsimp only at accepted
    generalize rendered : renderDelivery template delivery.senderMailbox delivery.payload
      delivery.body = subject at accepted
    obtain ⟨subject, body⟩ := subject
    rcases store_cases db user.id ⟨delivery.messageId, subject, body, .default,
        delivery.senderMailbox, (keyringState db user.id delivery.senderMailbox).word⟩
        delivery.recipientMailbox "" now with
      ⟨-, kept⟩ | ⟨handle, -, ⟨-, kept⟩ | ⟨-, kept⟩⟩
    · rw [kept] at accepted
      cases accepted
    · rw [kept] at accepted
      cases accepted
    · rw [kept] at accepted
      obtain ⟨-, rfl⟩ := Prod.mk.inj accepted
      rw [messages_recordInboundTx, Db.inserted] at stored
      rcases List.mem_append.mp stored with old | here
      · exact absurd old new
      · rw [List.mem_singleton.mp here]
        exact ⟨rfl, rfl, rfl⟩

/-! ## The recipient's stream -/

/-- What the formats of dates are made of: neither CR nor, in a header, a quote. -/
structure Dated (env : Environment) : Prop where
  /-- An internal date holds no CR. -/
  internaldate : ∀ time, '\r' ∉ (env.formatInternaldate time).toList
  /-- A header's date holds no CR. -/
  header : ∀ time, '\r' ∉ (env.formatRfc2822 time).toList
  /-- A header's date holds no quote. -/
  unquoted : ∀ time, '"' ∉ (env.formatRfc2822 time).toList

/-- The mailbox of the user who reads. -/
def ownMailbox (session : Session) : String := session.username ++ "@" ++ session.domain

/-- A request shows nothing that breaks: in the ENVELOPE the sender's domain, the subject and the
reader's own mailbox, for a body the section that the client has named, and of a stored body what is
sent of it behind the announced octets. -/
def Harmless (domain subject own : String) (req : FetchRequest) (body : List UInt8) : Prop :=
  (req.envelope = true → ¬Broken domain.toList ∧ ¬Broken subject.toList ∧ ¬Broken own.toList) ∧
    (req.body ≠ .none → ¬Broken req.body.label.toList) ∧
    (servesBody req.body = true → ¬BrokenOctets (excess body))

/-- A body that is UTF-8 is sent in as many octets as it has. -/
theorem excess_valid {body : List UInt8} (valid : (Utf8.fromUtf8 body).isSome) :
    ¬BrokenOctets (excess body) := by
  rw [excess, Utf8.bytes_fromUtf8Lossy_iff.mpr valid, List.drop_length]
  decide

/-- The response is not split and the envelope quotes the stored values. -/
def Faithful (env : Environment) (session : Session) (info : MessageMeta) (req : FetchRequest)
    (body : List UInt8) : Prop :=
  Unsplit env info (messageIdentity session info) req body ∧
    strings .outside (envelopeResponse env info (messageIdentity session info)).toList =
      envelopeStrings info (messageIdentity session info)

/-- The two mailboxes of a message break where the sender or the reader does. -/
theorem broken_identity (session : Session) (info : MessageMeta) :
    (Broken (messageIdentity session info).fromMailbox.toList ∨
      Broken (messageIdentity session info).toMailbox.toList) ↔
    Broken info.sender.toList ∨ Broken (ownMailbox session).toList := by
  unfold messageIdentity ownMailbox
  split
  · exact or_comm
  · exact Iff.rfl

/-- The response for a message with these texts. -/
theorem faithful_iff {env : Environment} (dated : Dated env) {info : MessageMeta}
    {sender domain : String} (senderToken : Text.IsToken sender)
    (idToken : Text.IsToken info.messageId) (mailed : info.sender = sender ++ "@" ++ domain)
    (session : Session) (req : FetchRequest) (body : List UInt8) :
    Faithful env session info req body ↔
      Harmless domain info.subject (ownMailbox session) req body := by
  have date := not_broken_of_cr (dated.internaldate info.internaldate)
  have header := not_broken_of_cr (dated.header info.internaldate)
  have id := not_broken_of_cr (cr_token idToken)
  have mailbox : Broken info.sender.toList ↔ Broken domain.toList := by
    rw [mailed, String.toList_append, String.toList_append, List.append_assoc,
      broken_append_right (cr_token senderToken), broken_append_right (by decide)]
  have envelope : Broken (envelopeResponse env info (messageIdentity session info)).toList ↔
      Broken domain.toList ∨ Broken info.subject.toList ∨ Broken (ownMailbox session).toList := by
    have both := broken_identity session info
    rw [mailbox] at both
    rw [broken_envelope]
    simp only [header, id, false_or, or_false, both]
    exact or_left_comm
  have quoted := strings_envelope env info (messageIdentity session info)
    (dated.unquoted info.internaldate)
  unfold Faithful Harmless
  rw [unsplit_fetchResponse, Breaks, envelope]
  simp only [date, and_false, false_or, quoted, and_true, not_or, not_and, and_assoc]

/-- Over every run of a session on commands that the loop reads: what is fetched of a delivered
message is not split on the wire and quotes the stored values, exactly when the request shows
nothing that breaks. The domain is the one of the challenge that was heard, and the subject and the
body are those that the delivery was rendered as. -/
theorem fetched_faithful_iff (domain : String) (signing : crypto.SigningKey)
    (sink : Option (Delivery → ω → DeliveryOutcome × ω))
    (directory : Option (String → ω → Bool × ω))
    (addressProvider : AttestationMode → ω → MintedAddress × ω) (world : ω)
    {commands : List Command} (spoken : ∀ command ∈ commands, Spoken command)
    {delivery : Delivery} {outcome : DeliveryOutcome}
    (called : .deliver delivery outcome ∈ (run handleStep
      (ZsmptSession.withDomainKey domain signing sink directory addressProvider, ⟨world, []⟩)
      commands).2.calls)
    {template : Template} {now : Int64} {db after : Db} {id : String}
    (accepted : deliver template now delivery db = (.accepted id, after)) {row : MessageRow}
    (stored : row ∈ after.messages) (new : row ∉ db.messages) :
    ∃ wire challenge sender, Invoiced commands delivery wire challenge sender ∧
      (row.subject, row.body) =
        renderDelivery template delivery.senderMailbox delivery.payload delivery.body ∧
      ∀ env : Environment, Dated env → ∀ uidvalidity tx session req body,
        Faithful env session (Db.rowToMeta uidvalidity (row, tx)) req body ↔
          Harmless challenge.senderDomain
            (renderDelivery template delivery.senderMailbox delivery.payload delivery.body).1
            (ownMailbox session) req body := by
  have start : Provenance []
      (ZsmptSession.withDomainKey domain signing sink directory addressProvider,
        (⟨world, []⟩ : Outer ω)) := ⟨nofun, nofun⟩
  obtain ⟨wire, challenge, sender, invoiced⟩ :=
    (provenance_run start commands).delivered delivery outcome called
  rw [List.nil_append] at invoiced
  have tokens := spoken_tokens (spoken _ invoiced.2.2.1)
  obtain ⟨fromPeer, idStored, rendered⟩ := deliver_row accepted stored new
  refine ⟨wire, challenge, sender, invoiced, rendered,
    fun env dated uidvalidity tx session req body => ?_⟩
  have idToken : Text.IsToken (Db.rowToMeta uidvalidity (row, tx)).messageId := by
    rw [show (Db.rowToMeta uidvalidity (row, tx)).messageId = row.messageId from rfl, idStored]
    exact tokens.2
  have fromSender : (Db.rowToMeta uidvalidity (row, tx)).sender =
      sender ++ "@" ++ challenge.senderDomain := fromPeer.trans invoiced.2.2.2
  rw [faithful_iff dated tokens.1 idToken fromSender,
    show (Db.rowToMeta uidvalidity (row, tx)).subject = row.subject from rfl, ← rendered]

/-! ## Two peers -/

/-- Commands that are read from the lines a client writes. -/
theorem spoken_lines {domain sender messageId : String} (named : Text.IsToken domain)
    (senderToken : Text.IsToken sender) (idToken : Text.IsToken messageId) {body : List UInt8}
    (small : body.length ≤ maxBlob) (wire : List UInt8) (user : String) :
    ∀ command ∈ [Command.hello domain, .auth wire, .addr .ephemeral user,
      .invoice sender messageId .plaintext body], Spoken command := by
  intro command member
  simp only [List.mem_cons, List.not_mem_nil, or_false] at member
  rcases member with rfl | rfl | rfl | rfl
  · refine ⟨"HELLO " ++ domain, ⟨[], []⟩, ⟨[], []⟩, ?_⟩
    rw [readCommand, decodeLine_hello named.2]
    rfl
  · refine ⟨"AUTH " ++ Base64.encode wire, ⟨[], []⟩, ⟨[], []⟩, ?_⟩
    rw [readCommand, decodeLine_auth]
    rfl
  · refine ⟨"ADDR " ++ AddrMode.ephemeral.word ++ " " ++ user, ⟨[], []⟩, ⟨[], []⟩, ?_⟩
    rw [readCommand, decodeLine_addr]
    rfl
  · refine ⟨"INVOICE " ++ sender ++ " " ++ messageId ++ " " ++ Payload.plaintext.word,
      ⟨blobBytes body ++ [], []⟩, ⟨[], []⟩, ?_⟩
    rw [readCommand, decodeLine_invoice senderToken idToken]
    exact ByteStream.run_bind_ok.mpr ⟨body, _, readBlob_data small [] [], rfl⟩

/-- The server at `b.org`, with bob as its only user. -/
def bobStore : Db := apply noTemplate "b.org" .empty createBob

/-- The challenge that a peer presents in the name of `domain`. -/
def presented (domain : String) : Challenge := ⟨domain, "b.org", .replicate 16 0, 0⟩

/-- What a peer says who presents it and delivers an invoice. -/
def spokenBy (domain : String) (body : List UInt8) : List Command :=
  [.hello "a.org", .auth (bytes (presented domain).toWire), .addr .ephemeral "bob",
    .invoice "alice" "m-1" .plaintext body]

/-- What is delivered then. -/
def deliveredBy (domain : String) (body : List UInt8) : Delivery :=
  ⟨"alice@" ++ domain, "m-1", "bob@b.org", .plaintext, body⟩

/-- The session after all commands. -/
def sessionWith (domain : String) (body : List UInt8) : ZsmptSession Crypto.mirror Db × Outer Db :=
  run handleStep (ZsmptSession.withDomainKey "b.org" () (some (deliver noTemplate 0)) none
    (fun _ world => (⟨"taddr", "key", none⟩, world)), ⟨bobStore, []⟩) (spokenBy domain body)

/-- The row that is stored. -/
def rowOf (domain : String) (body : List UInt8) : MessageRow :=
  ⟨1, 1, "m-1", 1, 0, .default, "New invoice", body.length, body, "alice@" ++ domain, "unverified"⟩

/-- What bob is shown of the row. -/
def shown (domain : String) (body : List UInt8) : MessageMeta :=
  Db.rowToMeta 1 (rowOf domain body, none)

/-- The session of bob, who reads his INBOX. -/
def reading : Session := ⟨.selected, "bob", 1, .database, "b.org", inbox⟩

/-- Dates at the epoch are made as they should be. -/
theorem dated_epoch : Dated epoch :=
  ⟨fun _ => (by decide : '\r' ∉ "01-Jan-1970 00:00:00 +0000".toList),
    fun _ => (by decide : '\r' ∉ "Thu, 01 Jan 1970 00:00:00 +0000".toList),
    fun _ => (by decide : '"' ∉ "Thu, 01 Jan 1970 00:00:00 +0000".toList)⟩

/-- The text `Invoice 7`, with a line end. -/
def honestBody : List UInt8 := bytes "Invoice 7\r\n"

/-- An invoice of `alice@a.org` is fetched faithfully, with its envelope and its body. -/
theorem honest_invoice_faithful :
    Faithful epoch reading (shown "a.org" honestBody) { envelope := true, body := .full }
      honestBody := by
  have spoken : ∀ command ∈ spokenBy "a.org" honestBody, Spoken command :=
    spoken_lines (by decide) (by decide) (by decide) (by decide +kernel) _ "bob"
  have called : .deliver (deliveredBy "a.org" honestBody) (.accepted "m-1") ∈
      (sessionWith "a.org" honestBody).2.calls := by
    decide +kernel
  have outcome : (deliver noTemplate 0 (deliveredBy "a.org" honestBody) bobStore).1 =
      .accepted "m-1" := by
    decide +kernel
  have accepted : deliver noTemplate 0 (deliveredBy "a.org" honestBody) bobStore =
      (.accepted "m-1", (deliver noTemplate 0 (deliveredBy "a.org" honestBody) bobStore).2) :=
    Prod.ext outcome rfl
  have stored : rowOf "a.org" honestBody ∈
      (deliver noTemplate 0 (deliveredBy "a.org" honestBody) bobStore).2.messages := by
    decide +kernel
  have new : rowOf "a.org" honestBody ∉ bobStore.messages := by
    decide +kernel
  obtain ⟨wire, challenge, sender, ⟨heard, decoded, -, -⟩, -, faithful⟩ :=
    @fetched_faithful_iff Crypto.mirror Db "b.org" () (some (deliver noTemplate 0)) none
      (fun _ world => (⟨"taddr", "key", none⟩, world)) bobStore (spokenBy "a.org" honestBody) spoken
      (deliveredBy "a.org" honestBody) (.accepted "m-1") called noTemplate 0 bobStore
      (deliver noTemplate 0 (deliveredBy "a.org" honestBody) bobStore).2 "m-1" accepted
      (rowOf "a.org" honestBody) stored new
  have known : Challenge.fromWire (fromUtf8Lossy (bytes (presented "a.org").toWire)) =
      some (presented "a.org") := by
    decide +kernel
  have same : wire = bytes (presented "a.org").toWire := by
    simpa [spokenBy] using heard
  rw [same, known] at decoded
  refine (faithful epoch dated_epoch 1 none reading _ honestBody).mpr ⟨fun _ => ?_, fun _ => ?_,
    fun _ => ?_⟩
  · rw [← Option.some.inj decoded]
    decide +kernel
  · decide
  · exact excess_valid (by decide +kernel)

/-- A peer that presents a challenge with a line break in its domain splits the ENVELOPE of its
message. -/
theorem injected_envelope_split :
    (∀ command ∈ spokenBy "e.org\r\n* BYE" [], Spoken command) ∧
    .deliver (deliveredBy "e.org\r\n* BYE" []) (.accepted "m-1") ∈
      (sessionWith "e.org\r\n* BYE" []).2.calls ∧
    rowOf "e.org\r\n* BYE" [] ∈ (sessionWith "e.org\r\n* BYE" []).2.world.messages ∧
    ¬Unsplit epoch (shown "e.org\r\n* BYE" [])
      (messageIdentity reading (shown "e.org\r\n* BYE" [])) { envelope := true } [] := by
  refine ⟨spoken_lines (by decide) (by decide) (by decide) (by decide) _ "bob", by decide +kernel,
    by decide +kernel, ?_⟩
  have sender : Broken (rowOf "e.org\r\n* BYE" []).sender.toList := by decide +kernel
  rw [unsplit_fetchResponse]
  exact fun unsplit => unsplit.1
    (.inr (.inl ⟨rfl, (broken_envelope ..).mpr (.inr (.inr (.inl sender)))⟩))

/-- Seven bytes that are no text, and a line of the peer's own. -/
def longerBody : List UInt8 := List.replicate 7 0xFF ++ bytes "\r\n* BYE gone\r\n"

/-- A peer that delivers bytes which are no text has a line of its own sent behind the octets that
are announced for the body. -/
theorem longer_body_split :
    (∀ command ∈ spokenBy "a.org" longerBody, Spoken command) ∧
    .deliver (deliveredBy "a.org" longerBody) (.accepted "m-1") ∈
      (sessionWith "a.org" longerBody).2.calls ∧
    rowOf "a.org" longerBody ∈ (sessionWith "a.org" longerBody).2.world.messages ∧
    excess longerBody = bytes "\r\n* BYE gone\r\n" ∧
    ¬Unsplit epoch (shown "a.org" longerBody)
      (messageIdentity reading (shown "a.org" longerBody)) { body := .full } longerBody := by
  have behind : excess longerBody = bytes "\r\n* BYE gone\r\n" := by decide +kernel
  refine ⟨spoken_lines (by decide) (by decide) (by decide) (by decide +kernel) _ "bob",
    by decide +kernel, by decide +kernel, behind, ?_⟩
  rw [unsplit_fetchResponse, behind]
  exact fun unsplit => unsplit.2 rfl (by decide +kernel)

end Talk.Verif.ResponseSplitting
