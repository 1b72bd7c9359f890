import Talk.Ctl.Remote
import Talk.Keys.Share

/-!
# `talkctl` on the store

The commands on users, their shares and their keyrings, on the daemon's store. The domain key is
taken as loaded, passwords as given, and what the random generator draws as arguments; of what is
printed the data is modelled, and not the lines.
-/

namespace Talk.Ctl

open Mailstore Protocol Daemon Text

/-- `CtlError`, as far as these commands return it. -/
inductive UserError where
  /-- `CtlError::msg`. -/
  | message (text : String)
  /-- The store refused. -/
  | store (error : StoreError)
  deriving DecidableEq

/-- `validate_username`: a bare local name, without a domain and without the mark of app
passwords. -/
def validateUsername (username : String) : Except UserError Unit :=
  if username = "" then .error (.message "username is required")
  else if '@' ∈ username.toList then
    .error (.message "username must be a bare local name (no @domain)")
  else if ':' ∈ username.toList then
    .error (.message "username must not contain ':' (reserved for app passwords)")
  else .ok ()

/-- The `create` action of `user_run`, before its shares. -/
def userCreate {crypto : Crypto} (registrar : Registrar crypto) (db : Db)
    (request : RegisterRequest) (registeredAt now : Int64) : Except UserError User × Db :=
  match Hex.decodeBlock 32 request.pubkeyHex with
  | none => (.error (.message "--pubkey must be 32 bytes of hex"), db)
  | some pubkey =>
    if ivkValid request.ivkHex = false then
      (.error (.message "--ivk must be 32 bytes of hex"), db)
    else if request.username = "" ∨ request.password = "" then
      (.error (.message "username and password are required"), db)
    else match validateUsername request.username with
    | .error error => (.error error, db)
    | .ok () =>
      match registrar.hashPassword request.password with
      | .error error => (.error (.message ("password hash failed: " ++ error)), db)
      | .ok hash =>
        match db.createUserFull request.username hash pubkey.val request.ivkHex
          (some (RegistrationAttestation.sign crypto registrar.domain request.username pubkey.val
            request.ivkHex registeredAt registrar.domainKey).toJson) now with
        | (.ok user, db) => (.ok user, db)
        | (.error error, db) => (.error (.store error), db)

/-- `require_user`. -/
def requireUser (domain : String) (db : Db) (username : String) : Except UserError User :=
  match localUsername username domain with
  | none => .error (.message ("no such user: " ++ username))
  | some name =>
    match db.getUser name with
    | none => .error (.message ("no such user: " ++ username))
    | some user => .ok user

/-- A store operation that is followed by nothing. -/
def stored (outcome : Outcome Unit) : Except UserError Unit × Db :=
  match outcome with
  | (.ok (), db) => (.ok (), db)
  | (.error error, db) => (.error (.store error), db)

/-- The `delete` action of `user_run`. -/
def userDelete (db : Db) (username : String) : Except UserError Unit × Db :=
  stored (db.deleteUser username)

/-- The `passwd` action of `user_run`. -/
def userPasswd {crypto : Crypto} (registrar : Registrar crypto) (db : Db)
    (username password : String) : Except UserError Unit × Db :=
  match requireUser registrar.domain db username with
  | .error error => (.error error, db)
  | .ok _ =>
    match registrar.hashPassword password with
    | .error error => (.error (.message ("password hash failed: " ++ error)), db)
    | .ok hash => stored (db.setPassword username hash)

/-- The `set-ivk` action of `user_run`. -/
def userSetIvk (domain : String) (db : Db) (username ivk : String) : Except UserError Unit × Db :=
  match requireUser domain db username with
  | .error error => (.error error, db)
  | .ok _ =>
    match Hex.decodeBlock 32 ivk with
    | none => (.error (.message "ivk must be 32 bytes of hex"), db)
    | some _ => stored (db.setIvk username (some ivk))

/-- The `unset-ivk` action of `user_run`. -/
def userUnsetIvk (domain : String) (db : Db) (username : String) : Except UserError Unit × Db :=
  match requireUser domain db username with
  | .error error => (.error error, db)
  | .ok _ => stored (db.setIvk username none)

/-- What the `show` action of `user_run` prints. -/
structure Shown where
  /-- The user. -/
  user : User
  /-- The number of shares. -/
  shares : Nat
  /-- The number of shares that are not revoked. -/
  active : Nat
  /-- The number of pinned senders. -/
  pinned : Nat
  deriving DecidableEq

/-- The `show` action of `user_run`. -/
def userShow (domain : String) (db : Db) (username : String) : Except UserError Shown :=
  match requireUser domain db username with
  | .error error => .error error
  | .ok user =>
    let shares := db.listShares user.id
    .ok ⟨user, shares.length, (shares.filter fun share => !share.revoked).length,
      (db.listKeyring user.id).length⟩

/-! ## Shares -/

/-- The loop of `init_shares`. -/
def addShares (db : Db) (userId : Nat) : List Keys.WrappedByShare → Outcome Unit
  | [] => (.ok (), db)
  | wrapper :: wrappers =>
    match db.addShare userId (Hex.encode wrapper.shareId.val) wrapper.wrapped with
    | (.ok (), db) => addShares db userId wrappers
    | (.error error, db) => (.error error, db)

/-- `init_shares`: a data key, and as many draws as there are shares. -/
def initShares (aead : Keys.Aead) (db : Db) (userId : Nat) (dk : Keys.SecretKey)
    (draws : List Keys.Draw) : Outcome Unit :=
  addShares db userId (Keys.wrap aead dk draws)

/-- The `create` action of `user_run`, with its shares. -/
def userCreateShares {crypto : Crypto} (registrar : Registrar crypto) (aead : Keys.Aead) (db : Db)
    (request : RegisterRequest) (registeredAt now : Int64) (dk : Keys.SecretKey)
    (draws : List Keys.Draw) : Except UserError Unit × Db :=
  match userCreate registrar db request registeredAt now with
  | (.error error, db) => (.error error, db)
  | (.ok user, db) =>
    if draws = [] then (.ok (), db) else stored (initShares aead db user.id dk draws)

/-- The `list` action of `share_run`. -/
def shareList (domain : String) (db : Db) (username : String) :
    Except UserError (List ShareEntry) :=
  match requireUser domain db username with
  | .error error => .error error
  | .ok user => .ok (db.listShares user.id)

/-- The `init` action of `share_run`. -/
def shareInit (aead : Keys.Aead) (domain : String) (db : Db) (username : String)
    (dk : Keys.SecretKey) (draws : List Keys.Draw) : Except UserError Unit × Db :=
  match requireUser domain db username with
  | .error error => (.error error, db)
  | .ok user =>
    if draws = [] then (.error (.message "--shares must be >= 1"), db)
    else stored (initShares aead db user.id dk draws)

/-- The `revoke` action of `share_run`. -/
def shareRevoke (domain : String) (db : Db) (username shareId : String) :
    Except UserError Unit × Db :=
  match requireUser domain db username with
  | .error error => (.error error, db)
  | .ok user => stored (db.revokeShare user.id shareId)

/-! ## The keyring -/

/-- The `pin` action of `keyring_run`. -/
def keyringPin (domain : String) (db : Db) (username sender : String) (pubkey : Option String)
    (now : Int64) : Except UserError Unit × Db :=
  match requireUser domain db username with
  | .error error => (.error error, db)
  | .ok user => stored (db.keyringSetTrusted user.id sender (pubkey.getD "") [] now)

/-- The `list` action of `keyring_run`. -/
def keyringList (domain : String) (db : Db) (username : String) :
    Except UserError (List KeyringEntry) :=
  match requireUser domain db username with
  | .error error => .error error
  | .ok user => .ok (db.listKeyring user.id)

/-- The `unpin` action of `keyring_run`. -/
def keyringUnpin (domain : String) (db : Db) (username sender : String) :
    Except UserError Unit × Db :=
  match requireUser domain db username with
  | .error error => (.error error, db)
  | .ok user => stored (db.unpinKeyring user.id sender)

end Talk.Ctl
