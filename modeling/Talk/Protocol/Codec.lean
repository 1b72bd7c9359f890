import Talk.Lib.Base64
import Talk.Lib.Text
import Talk.Protocol.Envelope

/-!
# Status lines and the command vocabulary

The status codes and the single-line encoding of the ZSMTP commands. `decodeLine` splits a line
at single spaces, except for INVOICE, whose tokens are separated by any run of Unicode
whitespace.
-/

namespace Talk.Protocol

open Text

/-! ## Status -/

/-- `StatusCode`. -/
structure StatusCode where
  /-- The three-digit code. -/
  value : UInt16
  deriving DecidableEq

namespace StatusCode

/-- 250, success. -/
def ok : StatusCode := ⟨250⟩
/-- 250, an accepted delivery. -/
def okQueued : StatusCode := ⟨250⟩
/-- 221, the session ends. -/
def closing : StatusCode := ⟨221⟩
/-- 450, a transient failure. -/
def tryLater : StatusCode := ⟨450⟩
/-- 500, a line that is not understood. -/
def syntaxError : StatusCode := ⟨500⟩
/-- 503, a command out of order. -/
def badSequence : StatusCode := ⟨503⟩
/-- 550, a permanent refusal. -/
def permReject : StatusCode := ⟨550⟩
/-- 530, a command that needs authentication. -/
def notAuthed : StatusCode := ⟨530⟩

/-- `is_transient`: 4xx. -/
def isTransient (code : StatusCode) : Bool := 400 ≤ code.value && code.value < 500

/-- `is_permanent`: 5xx. -/
def isPermanent (code : StatusCode) : Bool := 500 ≤ code.value && code.value < 600

end StatusCode

/-- `Status`: a code and its text. -/
structure Status where
  /-- The code. -/
  code : StatusCode
  /-- The text. -/
  message : String
  deriving DecidableEq

/-- `Status::render`, the wire line without its end. -/
def Status.render (status : Status) : String :=
  toString status.code.value.toNat ++ " " ++ status.message

/-! ## Commands -/

/-- `AddrMode`. -/
inductive AddrMode where
  /-- A fresh address for each request. -/
  | ephemeral
  /-- A stable address. -/
  | attested
  deriving DecidableEq

/-- The word of an address mode on the wire. -/
def AddrMode.word : AddrMode → String
  | .ephemeral => "ephemeral"
  | .attested => "attested"

/-- `Command`. -/
inductive Command where
  /-- Greet with the client's domain. -/
  | hello (domain : String)
  /-- Present a challenge to sign. -/
  | auth (challenge : List UInt8)
  /-- Request an address attestation. -/
  | addr (mode : AddrMode) (user : String)
  /-- Deliver an invoice. -/
  | invoice (sender messageId : String) (payload : Payload) (body : List UInt8)
  /-- A reply; only servers send it. -/
  | status (code : UInt16) (message : String)
  /-- End the session. -/
  | quit
  deriving DecidableEq

/-- `CodecError`. -/
inductive CodecError where
  /-- No such verb. -/
  | unknown (line : String)
  /-- A known verb with wrong arguments. -/
  | malformed (line : String)
  deriving DecidableEq

/-- `encode_line`: a command without its blob. -/
def encodeLine : Command → String
  | .hello domain => "HELLO " ++ domain
  | .auth challenge => "AUTH " ++ Base64.encode challenge
  | .addr mode user => "ADDR " ++ mode.word ++ " " ++ user
  | .invoice sender messageId payload _ =>
    "INVOICE " ++ sender ++ " " ++ messageId ++ " " ++ payload.word
  | .status code message => "STATUS " ++ toString code.toNat ++ " " ++ message
  | .quit => "QUIT"

/-- The verb of a line: its first piece, in uppercase. -/
def lineVerb (line : String) : String := toAsciiUppercase ((splitn 3 ' ' line).headD "")

/-- The payload word of an INVOICE line, in either case. -/
def payloadOf (word : String) : Option Payload :=
  if toAsciiLowercase word = "sealed" then some .sealed
  else if toAsciiLowercase word = "plaintext" then some .plaintext
  else none

/-- The mode word of an ADDR line, in either case. -/
def addrModeOf (word : String) : Option AddrMode :=
  if toAsciiLowercase word = "ephemeral" then some .ephemeral
  else if toAsciiLowercase word = "attested" then some .attested
  else none

/-- `decode_line`: the body of an INVOICE is read separately. -/
def decodeLine (line : String) : Except CodecError Command :=
  let parts := splitn 3 ' ' line
  let verb := lineVerb line
  if verb = "HELLO" then
    match parts[1]? with
    | none => .error (.malformed line)
    | some domain => .ok (.hello domain)
  else if verb = "AUTH" then
    match parts[1]? with
    | none => .error (.malformed line)
    | some text =>
      match Base64.decode text with
      | none => .error (.malformed line)
      | some challenge => .ok (.auth challenge)
  else if verb = "ADDR" then
    match parts[1]?, parts[2]? with
    | some mode, some user =>
      match addrModeOf mode with
      | none => .error (.malformed line)
      | some mode => .ok (.addr mode user)
    | _, _ => .error (.malformed line)
  else if verb = "INVOICE" then
    match splitWhitespace line with
    | [_, sender, messageId, word] =>
      match payloadOf word with
      | none => .error (.malformed line)
      | some payload => .ok (.invoice sender messageId payload [])
    | _ => .error (.malformed line)
  else if verb = "STATUS" then
    match parts[1]? with
    | none => .error (.malformed line)
    | some code =>
      match parseUnsigned (2 ^ 16) code with
      | none => .error (.malformed line)
      | some code => .ok (.status (UInt16.ofNat code) (parts[2]?.getD ""))
  else if verb = "QUIT" then .ok .quit
  else .error (.unknown line)

/-! ## Decoding what a client writes -/

/-- The pieces of a line with one space-free word before its rest. -/
theorem splitn_word {word : String} (free : ' ' ∉ word.toList) (count : Nat) (rest : String) :
    splitn (count + 2) ' ' (word ++ " " ++ rest) = word :: splitn (count + 1) ' ' rest := by
  have shape : (word ++ " " ++ rest).toList = word.toList ++ ' ' :: rest.toList := by simp
  simp only [splitn, shape, pieces, splitFirst_join free, List.map_cons, String.ofList_toList]

/-- The last piece keeps its spaces. -/
theorem splitn_one (rest : String) : splitn 1 ' ' rest = [rest] := by
  simp [splitn, pieces]

/-- A text without a space is its own only piece. -/
theorem splitn_free {word : String} (free : ' ' ∉ word.toList) (count : Nat) :
    splitn (count + 1) ' ' word = [word] := by
  cases count with
  | zero => exact splitn_one word
  | succ count => simp [splitn, pieces, splitFirst_free free]

/-- Text without whitespace has no space. -/
theorem space_free {word : String} (free : ∀ c ∈ word.toList, isWhitespace c = false) :
    ' ' ∉ word.toList :=
  fun member => absurd (free ' ' member) (by decide)

/-- The verb of a line with one space-free word before its rest. -/
theorem lineVerb_word {word : String} (free : ' ' ∉ word.toList) (rest : String) :
    lineVerb (word ++ " " ++ rest) = toAsciiUppercase word := by
  rw [lineVerb, splitn_word free 1, List.headD_cons]

/-- A domain without a space is decoded. -/
theorem decodeLine_hello_free {domain : String} (free : ' ' ∉ domain.toList) :
    decodeLine ("HELLO " ++ domain) = .ok (.hello domain) := by
  have parts : splitn 3 ' ' ("HELLO" ++ " " ++ domain) = ["HELLO", domain] := by
    rw [splitn_word (by decide) 1, splitn_free free]
  have verb : lineVerb ("HELLO" ++ " " ++ domain) = "HELLO" := by
    rw [lineVerb_word (by decide)]
    decide
  change decodeLine ("HELLO" ++ " " ++ domain) = _
  simp only [decodeLine, verb, parts, ↓reduceIte, List.getElem?_cons_succ,
    List.getElem?_cons_zero]

/-- HELLO is decoded to its domain. -/
theorem decodeLine_hello {domain : String} (free : ∀ c ∈ domain.toList, isWhitespace c = false) :
    decodeLine ("HELLO " ++ domain) = .ok (.hello domain) :=
  decodeLine_hello_free (space_free free)

/-- AUTH is decoded to the bytes its base64 carries. -/
theorem decodeLine_auth (challenge : List UInt8) :
    decodeLine ("AUTH " ++ Base64.encode challenge) = .ok (.auth challenge) := by
  have parts : splitn 3 ' ' ("AUTH" ++ " " ++ Base64.encode challenge) =
      ["AUTH", Base64.encode challenge] := by
    rw [splitn_word (by decide) 1, splitn_free (space_free fun _ => Base64.whitespace_encode)]
  have verb : lineVerb ("AUTH" ++ " " ++ Base64.encode challenge) = "AUTH" := by
    rw [lineVerb_word (by decide)]
    decide
  change decodeLine ("AUTH" ++ " " ++ Base64.encode challenge) = _
  simp only [decodeLine, verb, parts, show ¬"AUTH" = "HELLO" by decide, ↓reduceIte,
    List.getElem?_cons_succ, List.getElem?_cons_zero, Base64.decode_encode]

/-- ADDR is decoded to its mode and the whole rest of the line. -/
theorem decodeLine_addr (mode : AddrMode) (user : String) :
    decodeLine ("ADDR " ++ mode.word ++ " " ++ user) = .ok (.addr mode user) := by
  have free : ' ' ∉ mode.word.toList := by cases mode <;> decide
  have known : addrModeOf mode.word = some mode := by cases mode <;> decide
  have shape : "ADDR " ++ mode.word ++ " " ++ user =
      "ADDR" ++ " " ++ (mode.word ++ " " ++ user) := by
    simp only [String.ext_iff, String.toList_append]
    rfl
  have parts : splitn 3 ' ' ("ADDR" ++ " " ++ (mode.word ++ " " ++ user)) =
      ["ADDR", mode.word, user] := by
    rw [splitn_word (by decide) 1, splitn_word free 0, splitn_one]
  have verb : lineVerb ("ADDR" ++ " " ++ (mode.word ++ " " ++ user)) = "ADDR" := by
    rw [lineVerb_word (by decide)]
    decide
  rw [shape]
  simp only [decodeLine, verb, parts, known, show ¬"ADDR" = "HELLO" by decide,
    show ¬"ADDR" = "AUTH" by decide, ↓reduceIte, List.getElem?_cons_succ,
    List.getElem?_cons_zero]

/-- INVOICE is decoded to its tokens. -/
theorem decodeLine_invoice {sender messageId : String} (senderToken : IsToken sender)
    (idToken : IsToken messageId) (payload : Payload) :
    decodeLine ("INVOICE " ++ sender ++ " " ++ messageId ++ " " ++ payload.word) =
      .ok (.invoice sender messageId payload []) := by
  have known : payloadOf payload.word = some payload := by cases payload <;> decide
  have payloadToken : IsToken payload.word := by cases payload <;> decide
  have shape : "INVOICE " ++ sender ++ " " ++ messageId ++ " " ++ payload.word =
      "INVOICE" ++ " " ++ (sender ++ " " ++ (messageId ++ " " ++ payload.word)) := by
    simp only [String.ext_iff, String.toList_append]
    simp
  have tokens : splitWhitespace
      ("INVOICE" ++ " " ++ (sender ++ " " ++ (messageId ++ " " ++ payload.word))) =
      ["INVOICE", sender, messageId, payload.word] := by
    rw [splitWhitespace_cons (by decide), splitWhitespace_cons senderToken,
      splitWhitespace_cons idToken, splitWhitespace_token payloadToken]
  have verb : lineVerb
      ("INVOICE" ++ " " ++ (sender ++ " " ++ (messageId ++ " " ++ payload.word))) =
      "INVOICE" := by
    rw [lineVerb_word (by decide)]
    decide
  rw [shape]
  simp only [decodeLine, verb, tokens, known, show ¬"INVOICE" = "HELLO" by decide,
    show ¬"INVOICE" = "AUTH" by decide, show ¬"INVOICE" = "ADDR" by decide, ↓reduceIte]

/-- STATUS is decoded to its code and the whole rest of the line. -/
theorem decodeLine_status (code : UInt16) (message : String) :
    decodeLine ("STATUS " ++ toString code.toNat ++ " " ++ message) =
      .ok (.status code message) := by
  have free : ' ' ∉ (toString code.toNat).toList :=
    fun member => absurd (isDigit_toString member) (by decide)
  have shape : "STATUS " ++ toString code.toNat ++ " " ++ message =
      "STATUS" ++ " " ++ (toString code.toNat ++ " " ++ message) := by
    simp only [String.ext_iff, String.toList_append]
    simp
  have parts : splitn 3 ' ' ("STATUS" ++ " " ++ (toString code.toNat ++ " " ++ message)) =
      ["STATUS", toString code.toNat, message] := by
    rw [splitn_word (by decide) 1, splitn_word free 0, splitn_one]
  have verb : lineVerb ("STATUS" ++ " " ++ (toString code.toNat ++ " " ++ message)) =
      "STATUS" := by
    rw [lineVerb_word (by decide)]
    decide
  have number : parseUnsigned (2 ^ 16) (toString code.toNat) = some code.toNat :=
    parseUnsigned_toString code.toNat_lt
  rw [shape]
  simp only [decodeLine, verb, parts, number, show ¬"STATUS" = "HELLO" by decide,
    show ¬"STATUS" = "AUTH" by decide, show ¬"STATUS" = "ADDR" by decide,
    show ¬"STATUS" = "INVOICE" by decide, ↓reduceIte, List.getElem?_cons_succ,
    List.getElem?_cons_zero, Option.getD_some, UInt16.ofNat_toNat]

/-- QUIT is decoded. -/
theorem decodeLine_quit : decodeLine "QUIT" = .ok .quit := by decide

/-! ## What a decoded command says about its line -/

/-- Everything a line can decode to, with the verb and the pieces it is made of. -/
inductive Decodes (line : String) : Command → Prop where
  /-- HELLO. -/
  | hello (domain : String) (verb : lineVerb line = "HELLO") (piece : domain ∈ splitn 3 ' ' line) :
      Decodes line (.hello domain)
  /-- AUTH. -/
  | auth (challenge : List UInt8) (text : String) (verb : lineVerb line = "AUTH")
      (piece : text ∈ splitn 3 ' ' line) (decoded : Base64.decode text = some challenge) :
      Decodes line (.auth challenge)
  /-- ADDR. -/
  | addr (mode : AddrMode) (user : String) (verb : lineVerb line = "ADDR")
      (piece : user ∈ splitn 3 ' ' line) : Decodes line (.addr mode user)
  /-- INVOICE. -/
  | invoice (sender messageId : String) (payload : Payload) (verb : lineVerb line = "INVOICE")
      (token : messageId ∈ splitWhitespace line) :
      Decodes line (.invoice sender messageId payload [])
  /-- STATUS. -/
  | status (code : UInt16) (message : String) (verb : lineVerb line = "STATUS") :
      Decodes line (.status code message)
  /-- QUIT. -/
  | quit (verb : lineVerb line = "QUIT") : Decodes line .quit

/-- A line that decodes does so in one of these ways. -/
theorem decodes_of_decodeLine {line : String} {command : Command}
    (decoded : decodeLine line = .ok command) : Decodes line command := by
  unfold decodeLine at decoded
  simp only at decoded
  split_ifs at decoded with hello auth addr invoice status quit
  · split at decoded
    · cases decoded
    · rename_i domain found
      cases decoded
      exact .hello domain hello (List.mem_of_getElem? found)
  · split at decoded
    · cases decoded
    · rename_i text found
      split at decoded
      · cases decoded
      · rename_i data read
        cases decoded
        exact .auth data text auth (List.mem_of_getElem? found) read
  · split at decoded
    · rename_i mode user _ found
      split at decoded
      · cases decoded
      · cases decoded
        exact .addr _ user addr (List.mem_of_getElem? found)
    · cases decoded
  · split at decoded
    · rename_i verb sender messageId word tokens
      split at decoded
      · cases decoded
      · cases decoded
        exact .invoice sender messageId _ invoice (by simp [tokens])
    · cases decoded
  · split at decoded
    · cases decoded
    · split at decoded
      · cases decoded
      · cases decoded
        exact .status _ _ status
  · cases decoded
    exact .quit quit

/-- Whether a command is an INVOICE. -/
def Command.isInvoice : Command → Bool
  | .invoice _ _ _ _ => true
  | _ => false

/-- A line decodes to an INVOICE exactly when that is its verb. -/
theorem isInvoice_iff_verb {line : String} {command : Command}
    (decoded : decodeLine line = .ok command) :
    command.isInvoice = true ↔ lineVerb line = "INVOICE" := by
  cases decodes_of_decodeLine decoded <;> simp [Command.isInvoice, *]

/-- The bytes of an AUTH are at most as many as the characters of its line. -/
theorem length_of_auth {line : String} {challenge : List UInt8}
    (decoded : decodeLine line = .ok (.auth challenge)) :
    challenge.length ≤ line.toList.length := by
  cases decodes_of_decodeLine decoded with
  | auth _ text _ piece read =>
    exact le_trans (Base64.length_decode read) (sublist_of_mem_splitn piece).length_le

/-- The text of a command that its reply repeats. -/
def Command.echo : Command → Option String
  | .hello domain => some domain
  | .addr _ user => some user
  | .invoice _ messageId _ _ => some messageId
  | _ => none

/-- What a reply repeats stands in the line. -/
theorem sublist_of_echo {line text : String} {command : Command}
    (decoded : decodeLine line = .ok command) (echo : command.echo = some text) :
    text.toList.Sublist line.toList := by
  cases decodes_of_decodeLine decoded with
  | hello domain _ piece =>
    cases echo
    exact sublist_of_mem_splitn piece
  | auth => cases echo
  | addr mode user _ piece =>
    cases echo
    exact sublist_of_mem_splitn piece
  | invoice sender messageId payload _ token =>
    cases echo
    exact sublist_of_mem_splitWhitespace token
  | status => cases echo
  | quit => cases echo

end Talk.Protocol
