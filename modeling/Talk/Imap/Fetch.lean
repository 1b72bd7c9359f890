import Talk.Imap.Response
import Talk.Lib.Text
import Talk.Mailstore.Types

/-!
# FETCH

The data items of a FETCH request, sequence sets and flag lists, and the response for one message.
-/

namespace Talk.Imap

open Mailstore Text

/-- What the server takes from outside: the password hash, the cipher of the shares, the members of
the operating system's group, the formats of dates and the texts of SQLite's errors. -/
structure Environment where
  /-- `verify_password`, false on an error. -/
  verifyPassword : String → String → Bool
  /-- ChaCha20-Poly1305, with the key and the nonce. -/
  decrypt : List UInt8 → List UInt8 → List UInt8 → Option (List UInt8)
  /-- The members of the group `zsmtp`, if it exists. -/
  zsmtpGroup : Option (List (List UInt8))
  /-- `format_internaldate`. -/
  formatInternaldate : Int64 → String
  /-- `format_rfc2822`. -/
  formatRfc2822 : Int64 → String
  /-- The text of an SQLite error. -/
  sqliteError : String

/-! ## Sequence sets and flags -/

/-- `seq_num`. -/
def seqNum (text : String) (count : UInt32) : UInt32 :=
  if text = "*" then max count 1
  else max (UInt32.ofNat ((parseUnsigned (2 ^ 32) text).getD 1)) 1

/-- One part of a sequence set. -/
def inPart (uid count : UInt32) (part : String) : Bool :=
  match splitOnce ':' part with
  | some (first, last) =>
    let first := seqNum first count
    let last := seqNum last count
    min first last ≤ uid && uid ≤ max first last
  | none => uid == seqNum part count

/-- `in_range`. -/
def inRange (range : String) (uid count : UInt32) : Bool := (split ',' range).any (inPart uid count)

/-- The bit of a flag's name. -/
def flagBit (name : String) : UInt32 :=
  match toAsciiUppercase name with
  | "SEEN" => MessageFlags.seen
  | "ANSWERED" => MessageFlags.answered
  | "FLAGGED" => MessageFlags.flagged
  | "DELETED" => MessageFlags.deleted
  | _ => 0

/-- `parse_flags`. -/
def parseFlags (text : String) : UInt32 :=
  (splitWhitespace text).foldl (fun mask flag =>
    mask ||| flagBit (trimMatches (fun c => c = '(' || c = ')' || c = '\\' || c = ';') flag)) 0

/-- `flags_display`. -/
def flagsDisplay (flags : MessageFlags) : String :=
  " ".intercalate (([(MessageFlags.seen, "\\Seen"), (MessageFlags.answered, "\\Answered"),
    (MessageFlags.flagged, "\\Flagged"), (MessageFlags.deleted, "\\Deleted")].filter
      fun (flag, _) => flags.contains flag).map Prod.snd)

/-- `join_uids`. -/
def joinUids (uids : List UInt32) : String := " ".intercalate (uids.map toString)

/-! ## Data items -/

/-- `BodySection`. -/
inductive BodySection where
  /-- No body item. -/
  | none
  /-- `BODY[]`. -/
  | full
  /-- `BODY[HEADER]`. -/
  | header
  /-- `BODY[HEADER.FIELDS (…)]`. -/
  | headerFields (fields : List String)
  /-- `BODY[HEADER.FIELDS.NOT (…)]`. -/
  | headerFieldsNot (fields : List String)
  /-- `BODY[TEXT]`. -/
  | text
  /-- `BODY[MIME]`. -/
  | mime
  /-- Any other section. -/
  | other (name : String)
  deriving DecidableEq

/-- `needs_stored_body`. -/
def BodySection.needsStoredBody : BodySection → Bool
  | .full | .text | .mime | .other _ => true
  | .none | .header | .headerFields _ | .headerFieldsNot _ => false

/-- `label`. -/
def BodySection.label : BodySection → String
  | .none | .full => "BODY[]"
  | .header => "BODY[HEADER]"
  | .text => "BODY[TEXT]"
  | .mime => "BODY[MIME]"
  | .headerFields fields => "BODY[HEADER.FIELDS (" ++ " ".intercalate fields ++ ")]"
  | .headerFieldsNot fields => "BODY[HEADER.FIELDS.NOT (" ++ " ".intercalate fields ++ ")]"
  | .other name => "BODY[" ++ name ++ "]"

/-- `FetchRequest`. -/
structure FetchRequest where
  /-- FLAGS. -/
  flags : Bool := false
  /-- UID. -/
  uid : Bool := false
  /-- RFC822.SIZE. -/
  size : Bool := false
  /-- INTERNALDATE. -/
  internaldate : Bool := false
  /-- ENVELOPE. -/
  envelope : Bool := false
  /-- BODYSTRUCTURE. -/
  bodystructure : Bool := false
  /-- The body section. -/
  body : BodySection := .none
  deriving DecidableEq

/-- The text up to the bracket that closes `depth` open ones, and the text after it. -/
def closingBracket : Nat → List Char → Option (List Char × List Char)
  | _, [] => none
  | depth, c :: rest =>
    if c = ']' ∧ depth = 1 then some ([], rest)
    else
      let depth := if c = '[' then depth + 1 else if c = ']' then depth - 1 else depth
      (closingBracket depth rest).map fun (inside, after) => (c :: inside, after)

/-- A body item at the beginning of a text: its section, and the text after it. -/
def bodySectionAt (text : List Char) : Option (List Char × List Char) :=
  if "BODY".toList.isPrefixOf (text.map upperChar) then
    match splitFirst '[' (text.drop 4) with
    | none => none
    | some (_, after) => closingBracket 1 after
  else none

/-- A body item may begin after this character. -/
def startsItem (c : Char) : Bool :=
  c = ' ' || c = '\t' || c = '\n' || c = '\x0c' || c = '\r' || c = '(' || c = '['

/-- The first body item: the text before it, its section, and the text after it. -/
def findBodySection : Bool → List Char → Option (List Char × List Char × List Char)
  | _, [] => none
  | starts, c :: rest =>
    match if starts then bodySectionAt (c :: rest) else none with
    | some (inside, after) => some ([], inside, after)
    | none => (findBodySection (startsItem c) rest).map fun (before, found) => (c :: before, found)

/-- `extract_body_section`. -/
def extractBodySection (items : String) : String × Option String :=
  match findBodySection true items.toList with
  | some (before, inside, after) => (String.ofList (before ++ after), some (String.ofList inside))
  | none => (items, none)

/-- `extract_field_list`. -/
def extractFieldList (text : String) : Option String :=
  (splitFirst '(' text.toList).bind fun (_, after) =>
    (splitLast ')' after).map fun (inside, _) => String.ofList inside

/-- `parse_body_section`. -/
def parseBodySection (text : String) : BodySection :=
  let text := trim text
  if text = "" then .full
  else
    let upper := toAsciiUppercase text
    if upper = "HEADER" then .header
    else if upper = "TEXT" then .text
    else if upper = "MIME" then .mime
    else if startsWith upper "HEADER.FIELDS" then
      match extractFieldList text with
      | some fields =>
        if containsText upper ".NOT" then .headerFieldsNot (splitWhitespace fields)
        else .headerFields (splitWhitespace fields)
      | none => .other text
    else .other text

/-- Add one data item. -/
def addItem (req : FetchRequest) (item : String) : FetchRequest :=
  match toAsciiUppercase item with
  | "FLAGS" => { req with flags := true }
  | "UID" => { req with uid := true }
  | "RFC822.SIZE" => { req with size := true }
  | "INTERNALDATE" => { req with internaldate := true }
  | "ENVELOPE" => { req with envelope := true }
  | "BODYSTRUCTURE" => { req with bodystructure := true }
  | _ => req

/-- `parse_fetch_items`. -/
def parseFetchItems (items : String) : FetchRequest :=
  let inner := trim items
  let inner := if startsWith inner "(" && endsWith inner ")" then
      String.ofList (inner.toList.drop 1).dropLast
    else inner
  let upper := toAsciiUppercase inner
  if upper = "" ∨ upper = "*" then ⟨true, true, true, true, true, true, .full⟩
  else if upper = "ALL" ∨ upper = "FULL" then ⟨true, false, true, true, true, false, .full⟩
  else if upper = "FAST" then ⟨true, false, true, true, false, false, .none⟩
  else
    let (rest, found) := extractBodySection inner
    let body := (found.map parseBodySection).getD .none
    let req := (splitWhitespace rest).foldl addItem { body := body }
    if body = .none then req else { req with flags := true, uid := true, size := true }

/-! ## The response for a message -/

/-- `MessageIdentity`. -/
structure MessageIdentity where
  /-- The sender. -/
  fromMailbox : String
  /-- The recipient. -/
  toMailbox : String

/-- The header fields of a message. -/
def headerFields (env : Environment) (info : MessageMeta) (identity : MessageIdentity) :
    List (String × String) :=
  let sender := if identity.fromMailbox = "" then "(unknown sender)" else identity.fromMailbox
  let recipient := if identity.toMailbox = "" then "(unknown recipient)" else identity.toMailbox
  [("Content-Type", "text/html; charset=utf-8"), ("From", sender), ("To", recipient),
    ("Reply-To", sender)] ++
  (if info.subject = "" then [] else [("Subject", info.subject)]) ++
  [("Date", env.formatRfc2822 info.internaldate), ("Message-ID", "<" ++ info.messageId ++ ">")] ++
  (match info.txState with
    | none => []
    | some state => ("X-Talk-Txn-Status", state) ::
      (match info.txId with
        | none => []
        | some id => [("X-Talk-Txn-Id", toString id)]))

/-- `header_lines`. -/
def headerLines (env : Environment) (info : MessageMeta) (filter : Option (List String × Bool))
    (identity : MessageIdentity) : List UInt8 :=
  let keep := fun name : String => match filter with
    | none => true
    | some (fields, negate) => (fields.any fun field => eqIgnoreAsciiCase field name) != negate
  let kept := (headerFields env info identity).filter fun (name, _) => keep name
  Utf8.bytes (String.join (kept.map fun (name, value) => name ++ ": " ++ value ++ "\r\n") ++ "\n")

/-- `content`. -/
def BodySection.content (env : Environment) (info : MessageMeta) (body : List UInt8)
    (identity : MessageIdentity) : BodySection → List UInt8
  | .none => []
  | .full | .text | .other _ => body
  | .mime => Utf8.bytes "Content-Type: text/plain\r\n"
  | .header => headerLines env info .none identity
  | .headerFields fields => headerLines env info (some (fields, false)) identity
  | .headerFieldsNot fields => headerLines env info (some (fields, true)) identity

/-- `address_group`. -/
def addressGroup (text : String) : String :=
  if text = "" ∨ text = "(unknown sender)" ∨ text = "(unknown recipient)" then "NIL"
  else match rsplitOnce '@' text with
  | some (localPart, host) =>
    "((" ++ quote localPart ++ " NIL " ++ quote localPart ++ " " ++ quote host ++ "))"
  | none => "((" ++ quote text ++ " NIL NIL NIL))"

/-- `envelope_response`. -/
def envelopeResponse (env : Environment) (info : MessageMeta) (identity : MessageIdentity) :
    String :=
  let sender := addressGroup identity.fromMailbox
  " ".intercalate [env.formatRfc2822 info.internaldate, quote info.subject, sender, sender, sender,
    addressGroup identity.toMailbox, "NIL NIL NIL", quote info.messageId]

/-- The items of a response other than the body. -/
def fetchParts (env : Environment) (info : MessageMeta) (req : FetchRequest) (body : List UInt8)
    (identity : MessageIdentity) : List String :=
  let lines := if body = [] then 1 else body.count 10 + 1
  [(req.flags, "FLAGS (" ++ flagsDisplay info.flags ++ ")"),
    (req.uid, "UID " ++ toString info.uid),
    (req.size, "RFC822.SIZE " ++ toString info.size),
    (req.internaldate, "INTERNALDATE \"" ++ env.formatInternaldate info.internaldate ++ "\""),
    (req.envelope, "ENVELOPE (" ++ envelopeResponse env info identity ++ ")"),
    (req.bodystructure, "BODYSTRUCTURE (\"text\" \"html\" NIL NIL NIL NIL " ++
      toString info.size ++ " " ++ toString lines ++ ")")].filterMap
    fun (requested, part) => if requested then some part else none

/-- `fetch_response`. -/
def fetchResponse (env : Environment) (info : MessageMeta) (req : FetchRequest) (body : List UInt8)
    (identity : MessageIdentity) : List Reply :=
  let parts := " ".intercalate (fetchParts env info req body identity)
  if req.body = .none then [.untagged (toString info.uid ++ " FETCH (" ++ parts ++ ")")]
  else
    let content := req.body.content env info body identity
    [.untagged (toString info.uid ++ " FETCH (" ++ parts ++ " " ++ req.body.label ++ " \x7b" ++
      toString content.length ++ "\x7d"), .literal content]

end Talk.Imap
