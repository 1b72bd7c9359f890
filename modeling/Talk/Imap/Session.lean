import Talk.Imap.Fetch
import Talk.Imap.Parse
import Talk.Keys.Share
import Talk.Lib.Base64
import Talk.Lib.Hex
import Talk.Mailstore.Sqlite

/-!
# The IMAP session

The state of one connection and its commands. A command reads the session and the store, and
returns the response with what it leaves of both; a store function is one step of the store.
-/

namespace Talk.Imap

open Mailstore Text

/-- `State`. -/
inductive State where
  /-- No user yet. -/
  | notAuthenticated
  /-- A user, and no mailbox. -/
  | authenticated
  /-- A user and a mailbox. -/
  | selected
  deriving DecidableEq

/-- `AuthMode`. -/
inductive AuthMode where
  /-- The password is checked against the stored hash. -/
  | database
  /-- The user has to be in the group `zsmtp`. -/
  | localAuth
  deriving DecidableEq

/-- `Session`, without the store. -/
structure Session where
  /-- The state. -/
  state : State
  /-- The user's name. -/
  username : String
  /-- The user's row id. -/
  userId : Nat
  /-- How users authenticate. -/
  authMode : AuthMode
  /-- The local domain. -/
  domain : String
  /-- The selected mailbox. -/
  selectedMailbox : String
  deriving DecidableEq

/-- `new_session`. -/
def newSession (authMode : AuthMode) (domain : String) : Session :=
  ⟨.notAuthenticated, "", 0, authMode, domain, inbox⟩

/-- `canonical_mailbox`. -/
def canonicalMailbox (name : String) : Option String :=
  [inbox, sent].find? fun mailbox => eqIgnoreAsciiCase mailbox name

/-- `store_err`. -/
def storeErr (env : Environment) (tag : String) (error : StoreError) : Reply :=
  .tagged tag .no ("Storage error: " ++ error.display env.sqliteError)

/-- `cmd_capability`. -/
def cmdCapability (tag : String) : List Reply :=
  [.untagged "CAPABILITY IMAP4rev1 IDLE NAMESPACE AUTH=PLAIN",
    .tagged tag .ok "CAPABILITY completed"]

/-- `cmd_logout`. -/
def cmdLogout (tag : String) : List Reply :=
  [.untagged "BYE Talk IMAP server logging out", .tagged tag .ok "LOGOUT completed"]

/-! ## Authentication -/

/-- `aead_open`. -/
def aeadOpen (env : Environment) (key ciphertext : List UInt8) : Option (List UInt8) :=
  if ciphertext.length < 12 then none
  else env.decrypt key (ciphertext.take 12) (ciphertext.drop 12)

/-- `ShareResolver::unwrap` succeeds: a wrapper opens to a key. -/
def unwraps (env : Environment) (share : List UInt8) (wrappers : List (String × List UInt8)) :
    Bool :=
  wrappers.any fun (_, wrapped) => match aeadOpen env share wrapped with
    | none => false
    | some key => key.length == 32

/-- `is_in_zsmtp_group`. -/
def isInZsmtpGroup (env : Environment) (username : String) : Bool :=
  match env.zsmtpGroup with
  | none => false
  | some members => members.contains (Utf8.bytes username)

/-- The session of a user that has authenticated. -/
def Session.loggedIn (session : Session) (user : User) : Session :=
  { session with userId := user.id, username := user.username, state := .authenticated }

/-- The login name without its suffix, and whether the suffix marks an app password. -/
def loginName (username : String) : String × Bool :=
  match stripEnd ":app" username with
  | some base => (base, true)
  | none => (username, false)

/-- The app password is a share that unwraps the user's data key. -/
def acceptsShare (env : Environment) (db : Db) (user : User) (password : String) : Bool :=
  match Hex.decode password with
  | none => false
  | some share => share.length == 32 && unwraps env share (db.getShares user.id)

/-- The password, or the group, is right. -/
def acceptsPassword (env : Environment) (authMode : AuthMode) (db : Db) (name password : String) :
    Bool :=
  match authMode with
  | .database =>
    match db.passwordHash name with
    | none => false
    | some hash => env.verifyPassword password hash
  | .localAuth => isInZsmtpGroup env name

/-- `login`. -/
def login (env : Environment) (session : Session) (db : Db) (tag username password : String) :
    List Reply × Session :=
  match localUsername (loginName username).1 session.domain with
  | none => ([.tagged tag .no "Authentication failed"], session)
  | some name =>
    match db.getUser name with
    | none => ([.tagged tag .no "Authentication failed"], session)
    | some user =>
      if (loginName username).2 then
        if acceptsShare env db user password then
          ([.tagged tag .ok "LOGIN completed (app password)"], session.loggedIn user)
        else ([.tagged tag .no "Authentication failed"], session)
      else if acceptsPassword env session.authMode db name password then
        ([.tagged tag .ok "LOGIN completed"], session.loggedIn user)
      else ([.tagged tag .no "Authentication failed"], session)

/-- `cmd_auth`. -/
def cmdAuth (env : Environment) (session : Session) (db : Db) (cmd : ParsedCommand) :
    List Reply × Session :=
  if session.state ≠ .notAuthenticated then
    ([.tagged cmd.tag .bad "Already authenticated"], session)
  else if cmd.name = "AUTHENTICATE" then
    match cmd.args with
    | [mechanism, token] =>
      if eqIgnoreAsciiCase mechanism "PLAIN" then
        match Base64.decode token with
        | none => ([.tagged cmd.tag .bad "Invalid base64"], session)
        | some token =>
          match token.splitOn 0 with
          | [_, username, password] =>
            login env session db cmd.tag (Utf8.fromUtf8Lossy username) (Utf8.fromUtf8Lossy password)
          | _ => ([.tagged cmd.tag .bad "Invalid SASL PLAIN payload"], session)
      else ([.tagged cmd.tag .bad "Only AUTHENTICATE PLAIN <token> supported"], session)
    | _ => ([.tagged cmd.tag .bad "Only AUTHENTICATE PLAIN <token> supported"], session)
  else
    match cmd.args with
    | [username, password] => login env session db cmd.tag username password
    | _ => ([.tagged cmd.tag .bad "LOGIN requires username and password"], session)

/-! ## Mailboxes -/

/-- The messages of a list that are not seen. -/
def unseenCount (messages : List MessageMeta) : Nat :=
  messages.countP fun info => !info.flags.isSeen

/-- The validity of the UIDs, as the first message has it. -/
def uidvalidityOf (messages : List MessageMeta) : UInt32 :=
  (messages.head?.map MessageMeta.uidvalidity).getD 1

/-- `cmd_select`. -/
def cmdSelect (env : Environment) (session : Session) (db : Db) (cmd : ParsedCommand) :
    List Reply × Session :=
  if session.state = .notAuthenticated then ([.tagged cmd.tag .bad "Not authenticated"], session)
  else match cmd.args.head?.bind canonicalMailbox with
  | none => ([.tagged cmd.tag .no "Mailbox does not exist"], session)
  | some mailbox =>
    match db.listMessagesIn session.userId mailbox with
    | .error error => ([storeErr env cmd.tag error], session)
    | .ok messages =>
      let count := UInt32.ofNat messages.length
      let unseen := UInt32.ofNat (unseenCount messages)
      let uidnext := match db.uidnextIn session.userId mailbox with
        | .ok uidnext => uidnext
        | .error _ => (messages.head?.map fun info => info.uid + 1).getD 1
      let text := if cmd.name = "EXAMINE" then "[READ-ONLY] EXAMINE completed"
        else "[READ-WRITE] SELECT completed"
      (selectResponses count unseen (uidvalidityOf messages) uidnext ++ [.tagged cmd.tag .ok text],
        { session with selectedMailbox := mailbox, state := .selected })

/-- `cmd_list`. -/
def cmdList (session : Session) (cmd : ParsedCommand) : List Reply :=
  if session.state = .notAuthenticated then [.tagged cmd.tag .bad "Not authenticated"]
  else
    let pattern := (cmd.args[1]?).getD ""
    let shows := fun name : String => pattern == "" || pattern == "*" ||
      eqIgnoreAsciiCase pattern name
    (if shows inbox then [.untagged "LIST (\\HasNoChildren) \"/\" \"INBOX\""] else []) ++
      (if shows sent then [.untagged "LIST (\\HasNoChildren) \"/\" \"Sent\""] else []) ++
      [.tagged cmd.tag .ok "LIST completed"]

/-- `cmd_namespace`. -/
def cmdNamespace (session : Session) (tag : String) : List Reply :=
  if session.state = .notAuthenticated then [.tagged tag .bad "Not authenticated"]
  else [.untagged "NAMESPACE ((\"\" \"/\")) NIL NIL", .tagged tag .ok "NAMESPACE completed"]

/-- `cmd_status`. -/
def cmdStatus (env : Environment) (session : Session) (db : Db) (cmd : ParsedCommand) :
    List Reply :=
  if session.state = .notAuthenticated then [.tagged cmd.tag .bad "Not authenticated"]
  else match cmd.args.head?.bind canonicalMailbox with
  | none => [.tagged cmd.tag .no "Mailbox does not exist"]
  | some mailbox =>
    match db.listMessagesIn session.userId mailbox with
    | .error error => [storeErr env cmd.tag error]
    | .ok messages =>
      let uidnext := match db.uidnextIn session.userId mailbox with
        | .ok uidnext => uidnext
        | .error _ => UInt32.ofNat messages.length + 1
      [.untagged ("STATUS \"" ++ mailbox ++ "\" (MESSAGES " ++ toString messages.length ++
          " RECENT 0 UNSEEN " ++ toString (unseenCount messages) ++ " UIDNEXT " ++
          toString uidnext ++ " UIDVALIDITY " ++ toString (uidvalidityOf messages) ++ ")"),
        .tagged cmd.tag .ok "STATUS completed"]

/-! ## Messages -/

/-- `message_identity`. -/
def messageIdentity (session : Session) (info : MessageMeta) : MessageIdentity :=
  let own := session.username ++ "@" ++ session.domain
  if session.selectedMailbox = sent then ⟨own, info.sender⟩ else ⟨info.sender, own⟩

/-- The sequence set and the data items of a FETCH, or what it lacks. -/
def fetchArguments (cmd : ParsedCommand) : Except String (String × String) :=
  if cmd.args.head?.map toAsciiUppercase = some "FETCH" ∧ cmd.name = "UID" then
    match cmd.args with
    | _ :: range :: item :: items => .ok (range, " ".intercalate (item :: items))
    | _ => .error "UID FETCH requires arguments"
  else if cmd.name = "FETCH" ∨ cmd.name = "UID" then
    match cmd.args with
    | [] => .error "FETCH requires a sequence set"
    | [range] => .ok (range, "BODY[]")
    | range :: item :: items => .ok (range, " ".intercalate (item :: items))
  else .error "FETCH requires a sequence set"

/-- The responses for the messages in a sequence set. -/
def fetchMessages (env : Environment) (session : Session) (db : Db) (range : String)
    (req : FetchRequest) (count : UInt32) : List MessageMeta → Except StoreError (List Reply)
  | [] => .ok []
  | info :: rest =>
    if inRange range info.uid count then
      let body := if req.body.needsStoredBody then
          (db.fetchMessageIn session.userId session.selectedMailbox info.id).map Message.body
        else .ok []
      match body with
      | .error error => .error error
      | .ok body =>
        (fetchMessages env session db range req count rest).map fun more =>
          fetchResponse env info req body (messageIdentity session info) ++ more
    else fetchMessages env session db range req count rest

/-- `cmd_fetch`. -/
def cmdFetch (env : Environment) (session : Session) (db : Db) (cmd : ParsedCommand) :
    List Reply :=
  if session.state ≠ .selected then [.tagged cmd.tag .bad "No mailbox selected"]
  else match fetchArguments cmd with
  | .error text => [.tagged cmd.tag .bad text]
  | .ok (range, items) =>
    match db.listMessagesIn session.userId session.selectedMailbox with
    | .error error => [storeErr env cmd.tag error]
    | .ok messages =>
      let req := parseFetchItems items
      let req := if cmd.name = "UID" then { req with uid := true } else req
      match fetchMessages env session db range req (UInt32.ofNat messages.length) messages with
      | .error error => [storeErr env cmd.tag error]
      | .ok replies => replies ++ [.tagged cmd.tag .ok "FETCH completed"]

/-- The sequence set, the mode and the flags of a STORE, or what it lacks. -/
def storeArguments (cmd : ParsedCommand) : Except String (String × String × String) :=
  if cmd.args.head?.map toAsciiUppercase = some "STORE" ∧ cmd.name = "UID" then
    match cmd.args with
    | _ :: range :: mode :: flags :: _ => .ok (range, mode, flags)
    | _ => .error "UID STORE requires arguments"
  else if cmd.name = "STORE" ∨ cmd.name = "UID" then
    match cmd.args with
    | range :: mode :: flags :: _ => .ok (range, mode, flags)
    | _ => .error "STORE requires arguments"
  else .error "STORE requires arguments"

/-- Change the flags of the messages in a sequence set, one after the other. -/
def storeMessages (session : Session) (range : String) (mask : UInt32) (value : Bool)
    (count : UInt32) : List MessageMeta → Db → Except StoreError (List Reply) × Db
  | [], db => (.ok [], db)
  | info :: rest, db =>
    if inRange range info.uid count then
      match db.setFlagsIn session.userId session.selectedMailbox info.id mask value with
      | (.error error, db) => (.error error, db)
      | (.ok (), db) =>
        let flags := if value then info.flags.insert mask else info.flags.remove mask
        let (replies, db) := storeMessages session range mask value count rest db
        (replies.map fun more =>
          .untagged (toString info.uid ++ " FETCH (FLAGS (" ++ flagsDisplay flags ++ "))") :: more,
          db)
    else storeMessages session range mask value count rest db

/-- `cmd_store`. -/
def cmdStore (env : Environment) (session : Session) (db : Db) (cmd : ParsedCommand) :
    List Reply × Db :=
  if session.state ≠ .selected then ([.tagged cmd.tag .bad "No mailbox selected"], db)
  else match storeArguments cmd with
  | .error text => ([.tagged cmd.tag .bad text], db)
  | .ok (range, mode, flags) =>
    match db.listMessagesIn session.userId session.selectedMailbox with
    | .error error => ([storeErr env cmd.tag error], db)
    | .ok messages =>
      let mask := parseFlags flags
      if mask = 0 then ([.tagged cmd.tag .bad "No supported flags in flag list"], db)
      else
        let value := !startsWith (trimStart mode) "-"
        match storeMessages session range mask value (UInt32.ofNat messages.length) messages db with
        | (.error error, db) => ([storeErr env cmd.tag error], db)
        | (.ok replies, db) => (replies ++ [.tagged cmd.tag .ok "STORE completed"], db)

/-- The criteria of a SEARCH. -/
def searchArguments (cmd : ParsedCommand) : List String :=
  match cmd.args with
  | first :: rest =>
    if cmd.name = "UID" ∧ eqIgnoreAsciiCase first "SEARCH" then rest else first :: rest
  | [] => []

/-- Whether the criteria match everything, and whether they match what is not seen. -/
def searchCriteria (args : List String) : Bool × Bool :=
  args.foldl (fun (all, unseen) arg => match toAsciiUppercase arg with
    | "ALL" => (true, unseen)
    | "UNSEEN" => (all, true)
    | _ => (false, unseen)) (args.isEmpty, false)

/-- `cmd_search`. -/
def cmdSearch (env : Environment) (session : Session) (db : Db) (cmd : ParsedCommand) :
    List Reply :=
  if session.state ≠ .selected then [.tagged cmd.tag .bad "No mailbox selected"]
  else match db.listMessagesIn session.userId session.selectedMailbox with
  | .error error => [storeErr env cmd.tag error]
  | .ok messages =>
    let (all, unseen) := searchCriteria (searchArguments cmd)
    let matched := messages.filter fun info => all || (unseen && !info.flags.isSeen)
    [.untagged ("SEARCH " ++ joinUids (matched.map MessageMeta.uid)),
      .tagged cmd.tag .ok "SEARCH completed"]

/-- `cmd_uid`. -/
def cmdUid (env : Environment) (session : Session) (db : Db) (cmd : ParsedCommand) :
    List Reply × Db :=
  if session.state ≠ .selected then ([.tagged cmd.tag .bad "No mailbox selected"], db)
  else match cmd.args.head? with
  | none => ([.tagged cmd.tag .bad "UID requires a subcommand"], db)
  | some sub =>
    match toAsciiUppercase sub with
    | "FETCH" => (cmdFetch env session db cmd, db)
    | "STORE" => cmdStore env session db cmd
    | "SEARCH" => (cmdSearch env session db cmd, db)
    | _ => ([.tagged cmd.tag .bad "Unsupported UID subcommand"], db)

/-- `cmd_expunge`. -/
def cmdExpunge (env : Environment) (session : Session) (db : Db) (tag : String) :
    List Reply × Db :=
  if session.state ≠ .selected then ([.tagged tag .bad "No mailbox selected"], db)
  else match db.expungeIn session.userId session.selectedMailbox with
  | (.ok uids, db) =>
    (uids.map (fun uid => .untagged (toString uid ++ " EXPUNGE")) ++
      [.tagged tag .ok "EXPUNGE completed"], db)
  | (.error error, db) => ([storeErr env tag error], db)

/-- `cmd_close`: the INBOX is expunged, whichever mailbox is selected. -/
def cmdClose (env : Environment) (session : Session) (db : Db) (tag : String) :
    List Reply × Session × Db :=
  if session.state ≠ .selected then ([.tagged tag .bad "No mailbox selected"], session, db)
  else match db.expungeIn session.userId inbox with
  | (.error error, db) => ([storeErr env tag error], session, db)
  | (.ok _, db) =>
    ([.tagged tag .ok "CLOSE completed"], { session with state := .authenticated }, db)

/-- `cmd_idle`: the server loop does the rest. -/
def cmdIdle (session : Session) (tag : String) : List Reply :=
  if session.state ≠ .selected then [.tagged tag .bad "No mailbox selected"]
  else [.continuation "idle"]

/-- The commands that are known and not supported. -/
def unsupported : List String :=
  ["APPEND", "COPY", "MOVE", "SORT", "THREAD", "CREATE", "DELETE", "RENAME", "SUBSCRIBE",
    "UNSUBSCRIBE", "LSUB", "CHECK", "LANGUAGE"]

/-- `handle`. -/
def handle (env : Environment) (session : Session) (db : Db) (cmd : ParsedCommand) :
    List Reply × Session × Db :=
  match cmd.name with
  | "CAPABILITY" => (cmdCapability cmd.tag, session, db)
  | "NOOP" => ([.tagged cmd.tag .ok "NOOP completed"], session, db)
  | "LOGOUT" => (cmdLogout cmd.tag, session, db)
  | "LOGIN" | "AUTHENTICATE" =>
    let (replies, session) := cmdAuth env session db cmd
    (replies, session, db)
  | "SELECT" | "EXAMINE" =>
    let (replies, session) := cmdSelect env session db cmd
    (replies, session, db)
  | "LIST" => (cmdList session cmd, session, db)
  | "NAMESPACE" => (cmdNamespace session cmd.tag, session, db)
  | "STATUS" => (cmdStatus env session db cmd, session, db)
  | "FETCH" => (cmdFetch env session db cmd, session, db)
  | "UID" =>
    let (replies, db) := cmdUid env session db cmd
    (replies, session, db)
  | "STORE" =>
    let (replies, db) := cmdStore env session db cmd
    (replies, session, db)
  | "SEARCH" => (cmdSearch env session db cmd, session, db)
  | "EXPUNGE" =>
    let (replies, db) := cmdExpunge env session db cmd.tag
    (replies, session, db)
  | "CLOSE" => cmdClose env session db cmd.tag
  | "IDLE" => (cmdIdle session cmd.tag, session, db)
  | name =>
    if name ∈ unsupported then ([.tagged cmd.tag .no "command not supported"], session, db)
    else ([.tagged cmd.tag .bad "Unknown command"], session, db)

end Talk.Imap
