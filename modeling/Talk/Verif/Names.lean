import Talk.Ctl.Store
import Talk.Imap.Session
import Talk.Verif.OutboundRecords

/-!
# Names

A user is registered by the daemon's REGISTER or by `talkctl user create`; its name is then read by
LOGIN, alone or with the domain, and by the delivery of an invoice. The command line refuses the
characters the readers split at. REGISTER refuses none, and neither of the two refuses a name that
LOGIN trims. Names are given here to commands that have been read: a name with LF, or one that makes
its line longer than the limit, cannot be carried by a line to any of the readers.
-/

namespace Talk.Verif.Names

open Mailstore Daemon Ctl Imap Text Table StoreSteps
open Protocol hiding Reply

variable {crypto : Crypto}

/-! ## What a name is for -/

/-- A user is in a store under its name, with its INBOX. -/
structure Stands (db : Db) (user : User) : Prop where
  /-- The user is found under its name. -/
  found : db.getUser user.username = some user
  /-- The user has an INBOX. -/
  boxed : ∃ handle, db.mailboxNamed user.id inbox = .ok handle

/-- LOGIN under a name is a login of the user: one with the right password logs the user in, and one
with another is refused. -/
def LogsInAs (db : Db) (domain name : String) (user : User) : Prop :=
  ∀ env session tag password, session.domain = domain →
    login env session db tag name password =
      if acceptsPassword env session.authMode db user.username password then
        ([.tagged tag .ok "LOGIN completed"], session.loggedIn user)
      else ([.tagged tag .no "Authentication failed"], session)

/-- The daemon serves a peer that has authenticated. -/
structure Serves (session : ZsmptSession crypto Db) (domain : String) (template : Template)
    (now : Int64) : Prop where
  /-- The phase. -/
  phase : session.state = .authenticated
  /-- The peer's domain is known. -/
  peer : session.peerDomain.isSome
  /-- The session is for the domain. -/
  served : session.domain = domain
  /-- Invoices go to the store. -/
  sink : session.sink = some (deliver template now)
  /-- Users are looked up in the store. -/
  directory : session.directory = some fun name db => (userExists db name, db)
  /-- Addresses are minted elsewhere. -/
  provider : ∀ mode db, (session.addressProvider mode db).2 = db

/-- ADDR for a name, and INVOICE. -/
def invoiced (session : ZsmptSession crypto Db) (outer : Outer Db) (mode : AddrMode)
    (name sender messageId : String) (payload : Payload) (body : List UInt8) :
    ZsmptSession.Handled crypto Db :=
  let asked := session.handle (.addr mode name) outer
  asked.session.handle (.invoice sender messageId payload body) asked.outer

/-- ADDR for a user and INVOICE put the invoice into the user's INBOX and into no other mailbox. An
INBOX that has the message id already refuses it. -/
def DeliversTo (crypto : Crypto) (db : Db) (domain : String) (user : User) : Prop :=
  ∀ (session : ZsmptSession crypto Db) (template : Template) (now : Int64) (calls : List Call)
    (mode : AddrMode) (sender messageId : String) (payload : Payload) (body : List UInt8)
    (handle : Db.Handle), Serves session domain template now → messageId ≠ "" →
    db.mailboxNamed user.id inbox = .ok handle →
    let done := invoiced session ⟨db, calls⟩ mode user.username sender messageId payload body
    if db.holds handle.id messageId then
      done.result = .ok (.status ⟨.permReject, "duplicate message id: " ++ messageId⟩) ∧
        done.outer.world = db
    else
      done.result = .ok (.status ⟨.okQueued, "accepted into inbox (" ++ messageId ++ ")"⟩) ∧
        ∃ row : MessageRow, row.mailboxId = handle.id ∧ row.messageId = messageId ∧
          done.outer.world.messages = db.messages ++ [row]

/-- Every reader of names reaches the user. -/
structure Reached (crypto : Crypto) (db : Db) (domain : String) (user : User) : Prop where
  /-- LOGIN with the name. -/
  bare : LogsInAs db domain user.username user
  /-- LOGIN with the name and the domain. -/
  qualified : LogsInAs db domain (user.username ++ "@" ++ domain) user
  /-- ADDR and INVOICE. -/
  invoice : DeliversTo crypto db domain user

/-- REGISTER accepts a request. -/
def Registers (registrar : Registrar crypto) (db : Db) (request : RegisterRequest)
    (registeredAt now : Int64) : Prop :=
  (register registrar db request registeredAt now).1 = .ok

/-- The command line accepts a request. -/
def Creates (registrar : Registrar crypto) (db : Db) (request : RegisterRequest)
    (registeredAt now : Int64) : Prop :=
  ∃ user, (userCreate registrar db request registeredAt now).1 = .ok user

/-- The name of a request means the same everywhere: a user that is registered under it stands in
the store, every reader reaches it there and in every other store it stands in, and both ways to
register accept the request or both refuse it. -/
structure NamesAgree (registrar : Registrar crypto) (db : Db) (request : RegisterRequest)
    (registeredAt now : Int64) : Prop where
  /-- REGISTER adds the user. -/
  registered : Registers registrar db request registeredAt now →
    ∃ user, user.username = request.username ∧
      Stands (register registrar db request registeredAt now).2 user
  /-- The command line adds the user. -/
  created : Creates registrar db request registeredAt now →
    ∃ user, user.username = request.username ∧
      Stands (userCreate registrar db request registeredAt now).2 user
  /-- The user is reached. -/
  reached : Registers registrar db request registeredAt now ∨
      Creates registrar db request registeredAt now →
    ∀ later user, user.username = request.username → Stands later user →
      Reached crypto later registrar.domain user
  /-- Both accept the same requests. -/
  same : Registers registrar db request registeredAt now ↔
    Creates registrar db request registeredAt now

/-! ## The condition -/

/-- Nothing but its name keeps a request from being accepted. -/
structure Admissible (registrar : Registrar crypto) (db : Db) (request : RegisterRequest) :
    Prop where
  /-- The public key is well formed. -/
  pubkey : (Hex.decodeBlock 32 request.pubkeyHex).isSome
  /-- The IVK commitment is well formed. -/
  ivk : ivkValid request.ivkHex = true
  /-- There is a name. -/
  named : request.username ≠ ""
  /-- There is a password. -/
  guarded : request.password ≠ ""
  /-- The password is hashed. -/
  hashed : ∃ hash, registrar.hashPassword request.password = .ok hash
  /-- The name is free. -/
  free : ∀ row ∈ db.users, row.username ≠ request.username

/-- A name and a domain that no reader takes apart. -/
structure Plain (domain username : String) : Prop where
  /-- The name has no domain. -/
  bare : '@' ∉ username.toList
  /-- The name has no mark of an app password. -/
  unmarked : ':' ∉ username.toList
  /-- There is no whitespace around the name. -/
  trimmed : trim username = username
  /-- There is no whitespace behind the domain. -/
  solid : ∀ c ∈ domain.toList.getLast?, isWhitespace c = false
  /-- The domain does not end like an app password's login. -/
  unsuffixed : endsWith domain ":app" = false

/-! ## Registration -/

/-- A mailbox is found under its owner and its name. -/
theorem mailboxNamed_of_box {db : Db} (box : MailboxRow) (member : box ∈ db.mailboxes) :
    ∃ handle, db.mailboxNamed box.userId box.name = .ok handle := by
  unfold Db.mailboxNamed
  split
  next missing =>
    have other := List.find?_eq_none.mp missing box member
    simp at other
  next found _ => exact ⟨_, rfl⟩

/-- A user with a free name is created, and stands in the store. -/
theorem createUserFull_stands {db : Db} {username : String}
    (free : ∀ row ∈ db.users, row.username ≠ username) (passwordHash : String)
    (masterPubkey : List UInt8) (ivkCommitment registrationAttestation : Option String)
    (now : Int64) :
    ∃ user after, user.username = username ∧ Stands after user ∧
      db.createUserFull username passwordHash masterPubkey ivkCommitment registrationAttestation
        now = (.ok user, after) := by
  have unused : ¬db.users.any (·.username == username) = true := by
    simpa using free
  have missing : db.users.find? (fun row => decide (row.username = username)) = none := by
    simpa using free
  let user : User := ⟨nextId UserRow.id db.users, username, masterPubkey, ivkCommitment,
    registrationAttestation⟩
  let box : MailboxRow :=
    ⟨nextId MailboxRow.id db.mailboxes, user.id, inbox, now.toUInt64.toUInt32, 1⟩
  refine ⟨user, _, rfl, ⟨?_, ?_⟩, if_neg unused⟩
  · simp [Db.getUser, Db.insertMailbox, List.find?_append, missing, user]
  · apply mailboxNamed_of_box box
    exact List.mem_append_left _ (List.mem_append_right _ (List.mem_singleton_self box))

/-- REGISTER accepts exactly the admissible requests. -/
theorem register_cases (registrar : Registrar crypto) (db : Db) (request : RegisterRequest)
    (registeredAt now : Int64) :
    (¬Admissible registrar db request ∧
      ∃ text, register registrar db request registeredAt now = (.error text, db)) ∨
    (Admissible registrar db request ∧
      ∃ user after, user.username = request.username ∧ Stands after user ∧
        register registrar db request registeredAt now = (.ok, after)) := by
  unfold register
  split
  next unread => exact .inl ⟨fun ready => by simpa [unread] using ready.pubkey, _, rfl⟩
  next pubkey read =>
    split_ifs with ivk missing
    · exact .inl ⟨fun ready => by simpa [ivk] using ready.ivk, _, rfl⟩
    · exact .inl ⟨fun ready => missing.elim ready.named ready.guarded, _, rfl⟩
    · split
      next error failed =>
        exact .inl ⟨fun ready => by simpa [failed] using ready.hashed, _, rfl⟩
      next hash hashed =>
        simp only [not_or] at missing
        by_cases free : ∀ row ∈ db.users, row.username ≠ request.username
        · obtain ⟨user, after, name, stands, created⟩ := createUserFull_stands free hash
            pubkey.val request.ivkHex (some (buildRegistrationAttestation registrar
              request.username pubkey.val request.ivkHex registeredAt)) now
          rw [created]
          exact .inr ⟨⟨by simp [read], by simpa using ivk, missing.1, missing.2, ⟨hash, hashed⟩,
            free⟩, user, after, name, stands, rfl⟩
        · rw [createUserFull_taken (by simpa using free)]
          exact .inl ⟨fun ready => free ready.free, _, rfl⟩

/-- The names the command line allows. -/
theorem validateUsername_ok {username : String} (valid : validateUsername username = .ok ()) :
    '@' ∉ username.toList ∧ ':' ∉ username.toList := by
  unfold validateUsername at valid
  split_ifs at valid with empty domain mark
  exact ⟨domain, mark⟩

/-- The command line accepts exactly the admissible requests with a name it allows. -/
theorem userCreate_cases (registrar : Registrar crypto) (db : Db) (request : RegisterRequest)
    (registeredAt now : Int64) :
    (¬(Admissible registrar db request ∧ '@' ∉ request.username.toList ∧
        ':' ∉ request.username.toList) ∧
      ∃ error, userCreate registrar db request registeredAt now = (.error error, db)) ∨
    (Admissible registrar db request ∧ '@' ∉ request.username.toList ∧
      ':' ∉ request.username.toList ∧
      ∃ user after, user.username = request.username ∧ Stands after user ∧
        userCreate registrar db request registeredAt now = (.ok user, after)) := by
  unfold userCreate
  split
  next unread => exact .inl ⟨fun ready => by simpa [unread] using ready.1.pubkey, _, rfl⟩
  next pubkey read =>
    split_ifs with ivk missing
    · exact .inl ⟨fun ready => by simpa [ivk] using ready.1.ivk, _, rfl⟩
    · exact .inl ⟨fun ready => missing.elim ready.1.named ready.1.guarded, _, rfl⟩
    · split
      next error invalid =>
        refine .inl ⟨fun ready => ?_, error, rfl⟩
        simp [validateUsername, ready.1.named, ready.2.1, ready.2.2] at invalid
      next valid =>
        obtain ⟨bare, unmarked⟩ := validateUsername_ok valid
        split
        next error failed =>
          exact .inl ⟨fun ready => by simpa [failed] using ready.1.hashed, _, rfl⟩
        next hash hashed =>
          simp only [not_or] at missing
          by_cases free : ∀ row ∈ db.users, row.username ≠ request.username
          · obtain ⟨user, after, name, stands, created⟩ := createUserFull_stands free hash
              pubkey.val request.ivkHex (some (RegistrationAttestation.sign crypto
                registrar.domain request.username pubkey.val request.ivkHex registeredAt
                registrar.domainKey).toJson) now
            rw [created]
            exact .inr ⟨⟨by simp [read], by simpa using ivk, missing.1, missing.2,
              ⟨hash, hashed⟩, free⟩, bare, unmarked, user, after, name, stands, rfl⟩
          · rw [createUserFull_taken (by simpa using free)]
            exact .inl ⟨fun ready => free ready.1.free, _, rfl⟩

/-! ## Login -/

/-- A login name that does not end in the mark of an app password is taken as it is. -/
theorem loginName_unsuffixed {name : String} (unsuffixed : endsWith name ":app" = false) :
    loginName name = (name, false) := by
  rw [loginName, stripEnd_eq_none_iff.mpr unsuffixed]

/-- A login name that ends in the mark is an app password's. -/
theorem endsWith_of_loginName {name : String} (standard : (loginName name).2 = false) :
    endsWith name ":app" = false := by
  rw [← stripEnd_eq_none_iff]
  unfold loginName at standard
  split at standard
  next => cases standard
  next unsuffixed => exact unsuffixed

/-- A name without the colon does not end in the mark of an app password. -/
theorem endsWith_unmarked {name : String} (unmarked : ':' ∉ name.toList) :
    endsWith name ":app" = false := by
  rw [← Bool.not_eq_true, endsWith, List.isSuffixOf_iff_suffix]
  intro ends
  exact unmarked (ends.subset (by decide))

/-- A qualified name ends like its domain. -/
theorem endsWith_qualified (username domain : String) :
    endsWith (username ++ "@" ++ domain) ":app" = endsWith domain ":app" := by
  have shape : (username ++ "@" ++ domain).toList = username.toList ++ '@' :: domain.toList := by
    simp
  rw [Bool.eq_iff_iff, endsWith, endsWith, List.isSuffixOf_iff_suffix, List.isSuffixOf_iff_suffix,
    shape, suffix_join (by decide)]

/-- A name without a domain is resolved to what is left when it is trimmed. -/
theorem localUsername_bare {username : String} (bare : '@' ∉ username.toList) (domain : String) :
    localUsername username domain =
      if trim username = "" then none else some (trim username) := by
  have free : '@' ∉ (trim username).toList := fun member =>
    bare ((trim_sublist username).subset member)
  simp [localUsername, splitOnce, splitFirst_free free]

/-- A qualified name is resolved to its local part exactly where nothing is trimmed off it. -/
theorem localUsername_qualified {username : String} (named : username ≠ "")
    (bare : '@' ∉ username.toList) (domain : String) :
    localUsername (username ++ "@" ++ domain) domain = some username ↔
      trim (username ++ "@" ++ domain) = username ++ "@" ++ domain := by
  constructor
  · intro resolved
    have inside : '@' ∈ (trim (username ++ "@" ++ domain)).toList :=
      mem_trim (by decide) (by simp)
    apply String.toList_inj.mp
    apply (trim_sublist _).eq_of_length_le
    unfold localUsername at resolved
    dsimp only at resolved
    split_ifs at resolved with empty
    split at resolved
    next whole =>
      rw [Option.some.inj resolved] at inside
      exact absurd inside bare
    next localPart read split =>
      split_ifs at resolved with noPart domains
      cases resolved
      obtain ⟨⟨left, right⟩, first, parts⟩ := Option.map_eq_some_iff.mp split
      obtain ⟨rfl, rfl⟩ : String.ofList left = username ∧ String.ofList right = read := by
        simpa using parts
      have lengths := length_eq_of_eqIgnoreAsciiCase domains
      rw [splitFirst_eq first]
      simp only [String.toList_append, String.toList_ofList, List.length_append,
        List.length_cons] at lengths ⊢
      rw [lengths]
      simp
      omega
  · intro trimmed
    have split : splitOnce '@' (username ++ "@" ++ domain) = some (username, domain) := by
      simp [splitOnce, splitFirst_join bare]
    simp [localUsername, trimmed, split, named]

/-- A qualified name is not trimmed where its ends are not. -/
theorem trim_qualified {username domain : String} (named : username ≠ "") :
    trim (username ++ "@" ++ domain) = username ++ "@" ++ domain ↔
      (∀ c ∈ username.toList.head?, isWhitespace c = false) ∧
        ∀ c ∈ domain.toList.getLast?, isWhitespace c = false := by
  have shape : (username ++ "@" ++ domain).toList = username.toList ++ '@' :: domain.toList := by
    simp
  have first : (username.toList ++ '@' :: domain.toList).head? = username.toList.head? := by
    rw [List.head?_append_of_ne_nil _ (by simpa using named)]
  rw [trim_eq_self_iff, shape, first, List.getLast?_append_cons]
  cases last : domain.toList.getLast? with
  | none =>
    have blank : isWhitespace '@' = false := by decide
    simp [List.getLast?_cons, last, blank]
  | some c => simp [List.getLast?_cons, last]

/-- A name that is resolved to a user's logs the user in. -/
theorem logsInAs_of_resolved {db : Db} {domain name : String} {user : User}
    (found : db.getUser user.username = some user) (unsuffixed : endsWith name ":app" = false)
    (resolved : localUsername name domain = some user.username) :
    LogsInAs db domain name user := by
  rintro env session tag password rfl
  unfold login
  rw [loginName_unsuffixed unsuffixed]
  simp only [resolved, found, Bool.false_eq_true, if_false]

/-- Where every password is right. -/
def trusting : Environment :=
  ⟨fun _ _ => true, fun _ _ _ => none, none, fun _ => "", fun _ => "", ""⟩

/-- A user is found under its own name. -/
theorem username_of_getUser {db : Db} {name : String} {user : User}
    (found : db.getUser name = some user) : user.username = name := by
  obtain ⟨row, first, rfl⟩ := Option.map_eq_some_iff.mp found
  simpa using List.find?_some first

/-- A user that is found has a password hash. -/
theorem accepts_trusting {db : Db} {user : User} (found : db.getUser user.username = some user) :
    acceptsPassword trusting .database db user.username "" = true := by
  obtain ⟨row, first, -⟩ := Option.map_eq_some_iff.mp found
  simp [acceptsPassword, Db.passwordHash, first, trusting]

/-- A name that logs a user in is taken as it is, and resolved to the user's. -/
theorem resolved_of_logsInAs {db : Db} {domain name : String} {user : User}
    (found : db.getUser user.username = some user) (logs : LogsInAs db domain name user) :
    endsWith name ":app" = false ∧ localUsername name domain = some user.username := by
  have done := logs trusting (newSession .database domain) "" "" rfl
  rw [show (newSession .database domain).authMode = .database from rfl, accepts_trusting found,
    if_pos rfl] at done
  unfold login at done
  split at done
  next => simp at done
  next read resolved =>
    split at done
    next => simp at done
    next reader known =>
      split_ifs at done with app share accepted
      · simp at done
      · simp at done
      · have standard : endsWith name ":app" = false :=
          endsWith_of_loginName (by simpa using app)
        have same : reader.username = user.username :=
          congrArg Session.username (Prod.ext_iff.mp done).2
        rw [loginName_unsuffixed standard] at resolved
        rw [← same, username_of_getUser known]
        exact ⟨standard, resolved⟩
      · simp at done

/-! ## Delivery -/

/-- A user that stands in a store is known to the directory. -/
theorem userExists_of_found {db : Db} {user : User}
    (found : db.getUser user.username = some user) : userExists db user.username = true := by
  simp [userExists, found]

/-- A bare name with a domain is delivered to its user. -/
theorem recipientUser_qualified {db : Db} {user : User} (named : user.username ≠ "")
    (bare : '@' ∉ user.username.toList) (found : db.getUser user.username = some user)
    (domain : String) : recipientUser db (user.username ++ "@" ++ domain) = .ok user := by
  simp only [recipientUser, mailboxUser_qualified bare, if_neg named, found]

/-- ADDR for a user that is found, and INVOICE, hand the invoice to the sink. -/
theorem invoiced_eq {session : ZsmptSession crypto Db} {domain : String} {template : Template}
    {now : Int64} {db : Db} {user : User} (serves : Serves session domain template now)
    (found : db.getUser user.username = some user) (named : user.username ≠ "")
    {messageId : String} (identified : messageId ≠ "") (calls : List Call) (mode : AddrMode)
    (sender : String) (payload : Payload) (body : List UInt8) :
    ∃ senderMailbox,
      let delivery : Delivery :=
        ⟨senderMailbox, messageId, user.username ++ "@" ++ domain, payload, body⟩
      let done := invoiced session ⟨db, calls⟩ mode user.username sender messageId payload body
      done.result =
          .ok (.status (ZsmptSession.outcomeStatus (deliver template now delivery db).1)) ∧
        done.outer.world = (deliver template now delivery db).2 := by
  obtain ⟨peer, greeted⟩ := Option.isSome_iff_exists.mp serves.peer
  have known := userExists_of_found found
  refine ⟨sender ++ "@" ++ peer, ?_⟩
  simp only [invoiced, ZsmptSession.handle, ZsmptSession.onAddr, ZsmptSession.userKnown,
    ZsmptSession.onInvoice, serves.phase, serves.directory, serves.provider, serves.sink,
    serves.served, greeted, known, named, identified, ne_eq, not_true_eq_false, if_false,
    Bool.true_eq_false, and_self]

/-- The invoices for a bare name go to its user. -/
theorem deliversTo_of_bare {db : Db} {user : User} (stands : Stands db user)
    (named : user.username ≠ "") (bare : '@' ∉ user.username.toList) (domain : String) :
    DeliversTo crypto db domain user := by
  intro session template now calls mode sender messageId payload body handle serves identified boxed
  obtain ⟨senderMailbox, result, world⟩ := invoiced_eq serves stands.found named identified calls
    mode sender payload body
  have recipient := recipientUser_qualified named bare stands.found domain
  dsimp only at result world ⊢
  rw [result, world]
  rcases deliver_cases template now ⟨senderMailbox, messageId, user.username ++ "@" ++ domain,
    payload, body⟩ db with ⟨reason, refused, -⟩ | ⟨reader, msg, read, carried, -, stored⟩
  · rw [recipient] at refused
    cases refused
  · rw [recipient] at read
    cases read
    rw [stored]
    dsimp only at carried
    rcases store_cases db user.id msg (user.username ++ "@" ++ domain) "" now with
      ⟨missing, -⟩ | ⟨found, at_, ⟨held, duplicate⟩ | ⟨fresh, appended⟩⟩
    · rw [boxed] at missing
      cases missing
    · rw [boxed] at at_
      cases at_
      rw [carried] at held duplicate
      rw [if_pos held, duplicate]
      exact ⟨rfl, rfl⟩
    · rw [boxed] at at_
      cases at_
      rw [carried] at fresh
      rw [if_neg (by simp [fresh]), appended, carried]
      refine ⟨rfl, db.newRow handle msg now, rfl, carried, ?_⟩
      rw [messages_recordInboundTx]
      rfl

/-! ## Names mean the same -/

/-- A plain name reaches its user wherever the user stands. -/
theorem reached_of_plain {domain : String} {user : User} (plain : Plain domain user.username)
    (named : user.username ≠ "") {db : Db} (stands : Stands db user) :
    Reached crypto db domain user := by
  have ends := trim_eq_self_iff.mp plain.trimmed
  have whole := (trim_qualified named).mpr ⟨ends.1, plain.solid⟩
  refine ⟨?_, ?_, deliversTo_of_bare stands named plain.bare domain⟩
  · apply logsInAs_of_resolved stands.found (endsWith_unmarked plain.unmarked)
    rw [localUsername_bare plain.bare, plain.trimmed, if_neg named]
  · apply logsInAs_of_resolved stands.found
    · rw [endsWith_qualified, plain.unsuffixed]
    · exact (localUsername_qualified named plain.bare domain).mpr whole

/-- A name that reaches its user, and that the command line allows, is plain. -/
theorem plain_of_reached {domain : String} {user : User} (named : user.username ≠ "")
    (bare : '@' ∉ user.username.toList) (unmarked : ':' ∉ user.username.toList) {db : Db}
    (stands : Stands db user) (reached : Reached crypto db domain user) :
    Plain domain user.username := by
  obtain ⟨-, resolved⟩ := resolved_of_logsInAs stands.found reached.bare
  obtain ⟨unsuffixed, read⟩ := resolved_of_logsInAs stands.found reached.qualified
  rw [localUsername_bare bare] at resolved
  have whole := (localUsername_qualified named bare domain).mp read
  rw [endsWith_qualified] at unsuffixed
  refine ⟨bare, unmarked, ?_, ((trim_qualified named).mp whole).2, unsuffixed⟩
  split_ifs at resolved with empty
  exact Option.some.inj resolved

/-- REGISTER accepts exactly the admissible requests, and adds the user. -/
theorem registers_iff (registrar : Registrar crypto) (db : Db) (request : RegisterRequest)
    (registeredAt now : Int64) :
    (Registers registrar db request registeredAt now ↔ Admissible registrar db request) ∧
    (Registers registrar db request registeredAt now →
      ∃ user, user.username = request.username ∧
        Stands (register registrar db request registeredAt now).2 user) := by
  unfold Registers
  rcases register_cases registrar db request registeredAt now with
    ⟨refused, text, result⟩ | ⟨ready, user, after, name, stands, result⟩
  · simp [result, refused]
  · rw [result]
    exact ⟨⟨fun _ => ready, fun _ => rfl⟩, fun _ => ⟨user, name, stands⟩⟩

/-- The command line accepts exactly the admissible requests with a name it allows, and adds the
user. -/
theorem creates_iff (registrar : Registrar crypto) (db : Db) (request : RegisterRequest)
    (registeredAt now : Int64) :
    (Creates registrar db request registeredAt now ↔ Admissible registrar db request ∧
      '@' ∉ request.username.toList ∧ ':' ∉ request.username.toList) ∧
    (Creates registrar db request registeredAt now →
      ∃ user, user.username = request.username ∧
        Stands (userCreate registrar db request registeredAt now).2 user) := by
  unfold Creates
  rcases userCreate_cases registrar db request registeredAt now with
    ⟨refused, error, result⟩ | ⟨ready, bare, unmarked, user, after, name, stands, result⟩
  · simp [result, refused]
  · rw [result]
    exact ⟨⟨fun _ => ⟨ready, bare, unmarked⟩, fun _ => ⟨user, rfl⟩⟩, fun _ => ⟨user, name, stands⟩⟩

/-- A name means the same everywhere exactly where it is plain, or the request is refused for
something else. -/
theorem names_agree_iff (registrar : Registrar crypto) (db : Db) (request : RegisterRequest)
    (registeredAt now : Int64) :
    NamesAgree registrar db request registeredAt now ↔
      (Admissible registrar db request → Plain registrar.domain request.username) := by
  obtain ⟨registers, registered⟩ := registers_iff registrar db request registeredAt now
  obtain ⟨creates, created⟩ := creates_iff registrar db request registeredAt now
  constructor
  · intro agree ready
    have accepted := registers.mpr ready
    obtain ⟨-, bare, unmarked⟩ := creates.mp (agree.same.mp accepted)
    obtain ⟨user, name, stands⟩ := registered accepted
    have reached := agree.reached (.inl accepted) _ user name stands
    rw [← name] at bare unmarked ⊢
    exact plain_of_reached (name ▸ ready.named) bare unmarked stands reached
  · intro plain
    have ready : Registers registrar db request registeredAt now ∨
        Creates registrar db request registeredAt now → Admissible registrar db request :=
      fun accepted => accepted.elim registers.mp fun made => (creates.mp made).1
    refine ⟨registered, created, ?_, ?_⟩
    · intro accepted later user name stands
      have admissible := ready accepted
      exact reached_of_plain (name ▸ plain admissible) (name ▸ admissible.named) stands
    · rw [registers, creates]
      exact ⟨fun admissible => ⟨admissible, (plain admissible).bare, (plain admissible).unmarked⟩,
        And.left⟩

/-! ## A name with a domain -/

/-- Registration at `b.org`. -/
def atB : Registrar Crypto.mirror := ⟨"b.org", (), .ok, "UNIQUE constraint failed"⟩

/-- A request to register `bob@b.org`. -/
def bobAtB : RegisterRequest :=
  ⟨"bob@b.org", "secret", "0000000000000000000000000000000000000000000000000000000000000000", none⟩

/-- The store once the name is registered beside bob. -/
def impostor : Db := (register atB OutboundRecords.bobStore bobAtB 0 0).2

/-- A session of a peer at `b.org`. -/
def peerAtB : ZsmptSession Crypto.mirror Db :=
  ⟨.authenticated, "b.org", ⟨"b.org", ()⟩, some "a.org", none, some (deliver noTemplate 0),
    some fun name db => (userExists db name, db), fun _ db => (⟨"taddr", "key", none⟩, db)⟩

/-- The name `bob@b.org` is registered by the daemon and refused by the command line. LOGIN with it
is a login of bob, and an invoice for it is put into bob's INBOX. -/
theorem qualified_name_taken_apart :
    ¬NamesAgree atB OutboundRecords.bobStore bobAtB 0 0 ∧
      impostor.getUser "bob@b.org" ≠ impostor.getUser "bob" ∧
      (login trusting (newSession .database "b.org") impostor "A1" "bob@b.org" "").2.username =
        "bob" ∧
      (invoiced peerAtB ⟨impostor, []⟩ .ephemeral "bob@b.org" "alice" "m-1" .plaintext
        []).outer.world.messages.map MessageRow.mailboxId = [1] ∧
      impostor.mailboxes.map (fun box => (box.id, box.userId, box.name)) =
        [(1, 1, inbox), (2, 1, sent), (3, 2, inbox), (4, 2, sent)] := by
  have accepted : (register atB OutboundRecords.bobStore bobAtB 0 0).1 = .ok := by
    decide +kernel
  have refused : (userCreate atB OutboundRecords.bobStore bobAtB 0 0).1 =
      .error (.message "username must be a bare local name (no @domain)") := by
    rfl
  refine ⟨?_, by decide +kernel, by decide +kernel, by decide +kernel, by decide +kernel⟩
  intro agree
  obtain ⟨user, created⟩ := agree.same.mp accepted
  rw [refused] at created
  cases created

end Talk.Verif.Names
