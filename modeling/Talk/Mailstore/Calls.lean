import Talk.Mailstore.Sqlite

/-!
# The calls of the mail store

The public functions of the store that change a table, as data, but for `set_setting` and
`delete_setting`: the settings have a table of their own that no other function reads. What the
parties of a server do one after the other is a sequence of these calls. A call that names a mailbox
takes the store's lock twice, once to look the mailbox up; its two sections are taken together here.
-/

namespace Talk.Mailstore

/-- A call that may change the tables. -/
inductive StoreCall where
  /-- `create_user_full`. -/
  | createUserFull (username passwordHash : String) (masterPubkey : List UInt8)
    (ivkCommitment registrationAttestation : Option String) (now : Int64)
  /-- `set_password`. -/
  | setPassword (username passwordHash : String)
  /-- `set_ivk`. -/
  | setIvk (username : String) (ivkCommitment : Option String)
  /-- `delete_user`. -/
  | deleteUser (username : String)
  /-- `tx_create`. -/
  | txCreate (new : NewTransaction) (now : Int64)
  /-- `tx_link_message`. -/
  | txLinkMessage (txId messageRowId : Nat) (now : Int64)
  /-- `tx_transition`. -/
  | txTransition (id : Nat) (state : TxState) (now : Int64)
  /-- `tx_set_binding`. -/
  | txSetBinding (id : Nat) (binding : Option String) (now : Int64)
  /-- `keyring_set_trusted`. -/
  | keyringSetTrusted (userId : Nat) (senderMailbox senderPubkey : String)
    (attestation : List UInt8) (now : Int64)
  /-- `unpin_keyring`. -/
  | unpinKeyring (userId : Nat) (senderMailbox : String)
  /-- `append_message_to`. -/
  | appendMessageTo (userId : Nat) (mailbox : String) (msg : NewMessage) (now : Int64)
  /-- `add_share`. -/
  | addShare (userId : Nat) (shareId : String) (wrappedDk : List UInt8)
  /-- `revoke_share`. -/
  | revokeShare (userId : Nat) (shareId : String)
  /-- `set_flags_in`. -/
  | setFlagsIn (userId : Nat) (mailbox : String) (messageId : Nat) (mask : UInt32) (value : Bool)
  /-- `expunge_in`. -/
  | expungeIn (userId : Nat) (mailbox : String)
  deriving DecidableEq

namespace Db

/-- The tables after a call. -/
def perform (db : Db) : StoreCall → Db
  | .createUserFull username passwordHash masterPubkey ivkCommitment registrationAttestation now =>
    (db.createUserFull username passwordHash masterPubkey ivkCommitment registrationAttestation
      now).2
  | .setPassword username passwordHash => (db.setPassword username passwordHash).2
  | .setIvk username ivkCommitment => (db.setIvk username ivkCommitment).2
  | .deleteUser username => (db.deleteUser username).2
  | .txCreate new now => (db.txCreate new now).2
  | .txLinkMessage txId messageRowId now => db.txLinkMessage txId messageRowId now
  | .txTransition id state now => (db.txTransition id state now).2
  | .txSetBinding id binding now => (db.txSetBinding id binding now).2
  | .keyringSetTrusted userId senderMailbox senderPubkey attestation now =>
    (db.keyringSetTrusted userId senderMailbox senderPubkey attestation now).2
  | .unpinKeyring userId senderMailbox => (db.unpinKeyring userId senderMailbox).2
  | .appendMessageTo userId mailbox msg now => (db.appendMessageTo userId mailbox msg now).2
  | .addShare userId shareId wrappedDk => (db.addShare userId shareId wrappedDk).2
  | .revokeShare userId shareId => (db.revokeShare userId shareId).2
  | .setFlagsIn userId mailbox messageId mask value =>
    (db.setFlagsIn userId mailbox messageId mask value).2
  | .expungeIn userId mailbox => (db.expungeIn userId mailbox).2

end Db

end Talk.Mailstore
