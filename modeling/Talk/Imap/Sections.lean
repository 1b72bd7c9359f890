import Talk.Imap.Session
import Talk.Mailstore.Sections

/-!
# IMAP commands, section by section

Connections share the store. Here a command is what it does under the store's lock, one section
after the other: what it lists may change before it fetches, flags or expunges. With nobody else
there it does what `Talk.Imap.handle` does.
-/

namespace Talk.Imap.Sections

open Mailstore Text
open Mailstore.Sections

/-! ## Authentication -/

/-- The app password is a share that unwraps the user's data key. -/
def acceptsShare (env : Environment) (user : User) (password : String) : Sections Bool :=
  match Hex.decode password with
  | none => pure false
  | some share =>
    if share.length == 32 then unwraps env share <$> getShares user.id else pure false

/-- The password, or the group, is right. -/
def acceptsPassword (env : Environment) (authMode : AuthMode) (name password : String) :
    Sections Bool :=
  match authMode with
  | .database => do
    match ← passwordHash name with
    | none => pure false
    | some hash => pure (env.verifyPassword password hash)
  | .localAuth => pure (isInZsmtpGroup env name)

/-- `login`. -/
def login (env : Environment) (session : Session) (tag username password : String) :
    Sections (List Reply × Session) :=
  match localUsername (loginName username).1 session.domain with
  | none => pure ([.tagged tag .no "Authentication failed"], session)
  | some name => do
    match ← getUser name with
    | none => pure ([.tagged tag .no "Authentication failed"], session)
    | some user =>
      if (loginName username).2 then do
        if ← acceptsShare env user password then
          pure ([.tagged tag .ok "LOGIN completed (app password)"], session.loggedIn user)
        else pure ([.tagged tag .no "Authentication failed"], session)
      else do
        if ← acceptsPassword env session.authMode name password then
          pure ([.tagged tag .ok "LOGIN completed"], session.loggedIn user)
        else pure ([.tagged tag .no "Authentication failed"], session)

/-- `cmd_auth`. -/
def cmdAuth (env : Environment) (session : Session) (cmd : ParsedCommand) :
    Sections (List Reply × Session) :=
  if session.state ≠ .notAuthenticated then
    pure ([.tagged cmd.tag .bad "Already authenticated"], session)
  else if cmd.name = "AUTHENTICATE" then
    match cmd.args with
    | [mechanism, token] =>
      if eqIgnoreAsciiCase mechanism "PLAIN" then
        match Base64.decode token with
        | none => pure ([.tagged cmd.tag .bad "Invalid base64"], session)
        | some token =>
          match token.splitOn 0 with
          | [_, username, password] =>
            login env session cmd.tag (Utf8.fromUtf8Lossy username) (Utf8.fromUtf8Lossy password)
          | _ => pure ([.tagged cmd.tag .bad "Invalid SASL PLAIN payload"], session)
      else pure ([.tagged cmd.tag .bad "Only AUTHENTICATE PLAIN <token> supported"], session)
    | _ => pure ([.tagged cmd.tag .bad "Only AUTHENTICATE PLAIN <token> supported"], session)
  else
    match cmd.args with
    | [username, password] => login env session cmd.tag username password
    | _ => pure ([.tagged cmd.tag .bad "LOGIN requires username and password"], session)

/-! ## Mailboxes -/

/-- `cmd_select`. -/
def cmdSelect (env : Environment) (session : Session) (cmd : ParsedCommand) :
    Sections (List Reply × Session) :=
  if session.state = .notAuthenticated then
    pure ([.tagged cmd.tag .bad "Not authenticated"], session)
  else match cmd.args.head?.bind canonicalMailbox with
  | none => pure ([.tagged cmd.tag .no "Mailbox does not exist"], session)
  | some mailbox => do
    match ← listMessagesIn session.userId mailbox with
    | .error error => pure ([storeErr env cmd.tag error], session)
    | .ok messages =>
      let count := UInt32.ofNat messages.length
      let unseen := UInt32.ofNat (unseenCount messages)
      let uidnext := match ← uidnextIn session.userId mailbox with
        | .ok uidnext => uidnext
        | .error _ => (messages.head?.map fun info => info.uid + 1).getD 1
      let text := if cmd.name = "EXAMINE" then "[READ-ONLY] EXAMINE completed"
        else "[READ-WRITE] SELECT completed"
      pure (selectResponses count unseen (uidvalidityOf messages) uidnext ++
          [.tagged cmd.tag .ok text],
        { session with selectedMailbox := mailbox, state := .selected })

/-- `cmd_status`. -/
def cmdStatus (env : Environment) (session : Session) (cmd : ParsedCommand) :
    Sections (List Reply) :=
  if session.state = .notAuthenticated then pure [.tagged cmd.tag .bad "Not authenticated"]
  else match cmd.args.head?.bind canonicalMailbox with
  | none => pure [.tagged cmd.tag .no "Mailbox does not exist"]
  | some mailbox => do
    match ← listMessagesIn session.userId mailbox with
    | .error error => pure [storeErr env cmd.tag error]
    | .ok messages =>
      let uidnext := match ← uidnextIn session.userId mailbox with
        | .ok uidnext => uidnext
        | .error _ => UInt32.ofNat messages.length + 1
      pure [.untagged ("STATUS \"" ++ mailbox ++ "\" (MESSAGES " ++ toString messages.length ++
          " RECENT 0 UNSEEN " ++ toString (unseenCount messages) ++ " UIDNEXT " ++
          toString uidnext ++ " UIDVALIDITY " ++ toString (uidvalidityOf messages) ++ ")"),
        .tagged cmd.tag .ok "STATUS completed"]

/-! ## Messages -/

/-- The body of a message, if it is needed. -/
def neededBody (session : Session) (req : FetchRequest) (messageId : Nat) :
    Sections (Except StoreError (List UInt8)) :=
  if req.body.needsStoredBody then
    Except.map Message.body <$> fetchMessageIn session.userId session.selectedMailbox messageId
  else pure (.ok [])

/-- The responses for the messages in a sequence set. -/
def fetchMessages (env : Environment) (session : Session) (range : String) (req : FetchRequest)
    (count : UInt32) : List MessageMeta → Sections (Except StoreError (List Reply))
  | [] => pure (.ok [])
  | info :: rest =>
    if inRange range info.uid count then do
      match ← neededBody session req info.id with
      | .error error => pure (.error error)
      | .ok body =>
        Except.map (fun more =>
          fetchResponse env info req body (messageIdentity session info) ++ more) <$>
            fetchMessages env session range req count rest
    else fetchMessages env session range req count rest

/-- `cmd_fetch`. -/
def cmdFetch (env : Environment) (session : Session) (cmd : ParsedCommand) :
    Sections (List Reply) :=
  if session.state ≠ .selected then pure [.tagged cmd.tag .bad "No mailbox selected"]
  else match fetchArguments cmd with
  | .error text => pure [.tagged cmd.tag .bad text]
  | .ok (range, items) => do
    match ← listMessagesIn session.userId session.selectedMailbox with
    | .error error => pure [storeErr env cmd.tag error]
    | .ok messages =>
      let req := parseFetchItems items
      let req := if cmd.name = "UID" then { req with uid := true } else req
      match ← fetchMessages env session range req (UInt32.ofNat messages.length) messages with
      | .error error => pure [storeErr env cmd.tag error]
      | .ok replies => pure (replies ++ [.tagged cmd.tag .ok "FETCH completed"])

/-- Change the flags of the messages in a sequence set, one after the other. -/
def storeMessages (session : Session) (range : String) (mask : UInt32) (value : Bool)
    (count : UInt32) : List MessageMeta → Sections (Except StoreError (List Reply))
  | [] => pure (.ok [])
  | info :: rest =>
    if inRange range info.uid count then do
      match ← setFlagsIn session.userId session.selectedMailbox info.id mask value with
      | .error error => pure (.error error)
      | .ok () =>
        let flags := if value then info.flags.insert mask else info.flags.remove mask
        Except.map (fun more =>
          .untagged (toString info.uid ++ " FETCH (FLAGS (" ++ flagsDisplay flags ++ "))") ::
            more) <$> storeMessages session range mask value count rest
    else storeMessages session range mask value count rest

/-- `cmd_store`. -/
def cmdStore (env : Environment) (session : Session) (cmd : ParsedCommand) :
    Sections (List Reply) :=
  if session.state ≠ .selected then pure [.tagged cmd.tag .bad "No mailbox selected"]
  else match storeArguments cmd with
  | .error text => pure [.tagged cmd.tag .bad text]
  | .ok (range, mode, flags) => do
    match ← listMessagesIn session.userId session.selectedMailbox with
    | .error error => pure [storeErr env cmd.tag error]
    | .ok messages =>
      let mask := parseFlags flags
      if mask = 0 then pure [.tagged cmd.tag .bad "No supported flags in flag list"]
      else
        let value := !startsWith (trimStart mode) "-"
        match ← storeMessages session range mask value (UInt32.ofNat messages.length) messages with
        | .error error => pure [storeErr env cmd.tag error]
        | .ok replies => pure (replies ++ [.tagged cmd.tag .ok "STORE completed"])

/-- `cmd_search`. -/
def cmdSearch (env : Environment) (session : Session) (cmd : ParsedCommand) :
    Sections (List Reply) :=
  if session.state ≠ .selected then pure [.tagged cmd.tag .bad "No mailbox selected"]
  else do
    match ← listMessagesIn session.userId session.selectedMailbox with
    | .error error => pure [storeErr env cmd.tag error]
    | .ok messages =>
      let (all, unseen) := searchCriteria (searchArguments cmd)
      let matched := messages.filter fun info => all || (unseen && !info.flags.isSeen)
      pure [.untagged ("SEARCH " ++ joinUids (matched.map MessageMeta.uid)),
        .tagged cmd.tag .ok "SEARCH completed"]

/-- `cmd_uid`. -/
def cmdUid (env : Environment) (session : Session) (cmd : ParsedCommand) : Sections (List Reply) :=
  if session.state ≠ .selected then pure [.tagged cmd.tag .bad "No mailbox selected"]
  else match cmd.args.head? with
  | none => pure [.tagged cmd.tag .bad "UID requires a subcommand"]
  | some sub =>
    match toAsciiUppercase sub with
    | "FETCH" => cmdFetch env session cmd
    | "STORE" => cmdStore env session cmd
    | "SEARCH" => cmdSearch env session cmd
    | _ => pure [.tagged cmd.tag .bad "Unsupported UID subcommand"]

/-- `cmd_expunge`. -/
def cmdExpunge (env : Environment) (session : Session) (tag : String) : Sections (List Reply) :=
  if session.state ≠ .selected then pure [.tagged tag .bad "No mailbox selected"]
  else do
    match ← expungeIn session.userId session.selectedMailbox with
    | .ok uids => pure (uids.map (fun uid => .untagged (toString uid ++ " EXPUNGE")) ++
        [.tagged tag .ok "EXPUNGE completed"])
    | .error error => pure [storeErr env tag error]

/-- `cmd_close`. -/
def cmdClose (env : Environment) (session : Session) (tag : String) :
    Sections (List Reply × Session) :=
  if session.state ≠ .selected then pure ([.tagged tag .bad "No mailbox selected"], session)
  else do
    match ← expungeIn session.userId inbox with
    | .error error => pure ([storeErr env tag error], session)
    | .ok _ =>
      pure ([.tagged tag .ok "CLOSE completed"], { session with state := .authenticated })

/-- A command that leaves the session. -/
def staying (session : Session) (replies : Sections (List Reply)) :
    Sections (List Reply × Session) :=
  (fun replies => (replies, session)) <$> replies

/-- `handle`. -/
def handle (env : Environment) (session : Session) (cmd : ParsedCommand) :
    Sections (List Reply × Session) :=
  match cmd.name with
  | "CAPABILITY" => pure (cmdCapability cmd.tag, session)
  | "NOOP" => pure ([.tagged cmd.tag .ok "NOOP completed"], session)
  | "LOGOUT" => pure (cmdLogout cmd.tag, session)
  | "LOGIN" | "AUTHENTICATE" => cmdAuth env session cmd
  | "SELECT" | "EXAMINE" => cmdSelect env session cmd
  | "LIST" => pure (cmdList session cmd, session)
  | "NAMESPACE" => pure (cmdNamespace session cmd.tag, session)
  | "STATUS" => staying session (cmdStatus env session cmd)
  | "FETCH" => staying session (cmdFetch env session cmd)
  | "UID" => staying session (cmdUid env session cmd)
  | "STORE" => staying session (cmdStore env session cmd)
  | "SEARCH" => staying session (cmdSearch env session cmd)
  | "EXPUNGE" => staying session (cmdExpunge env session cmd.tag)
  | "CLOSE" => cmdClose env session cmd.tag
  | "IDLE" => pure (cmdIdle session cmd.tag, session)
  | name =>
    if name ∈ unsupported then
      pure ([.tagged cmd.tag .no "command not supported"], session)
    else pure ([.tagged cmd.tag .bad "Unknown command"], session)

end Talk.Imap.Sections
