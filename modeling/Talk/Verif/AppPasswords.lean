import Talk.Imap.Session
import Talk.Lib.Transition
import Talk.Verif.CommandSteps
import Talk.Verif.OutboundRecords

/-!
# App passwords

A share logs its user in exactly as long as one of the user's wrappers that are sealed under it is
not revoked. Wrappers are added and revoked one by one: a revoked row stays as it is, and no
operation on one share bears on the rows of another. So a share that is revoked stays out unless a
wrapper is sealed under it once more.
-/

namespace Talk.Verif.AppPasswords

open Mailstore Table Ctl Imap Keys Transition CommandSteps Text

/-! ## Logging in with a share -/

section Login

variable {aead : Aead} (ideal : Ideal aead) {db : Db} {userId : Nat} {share : SecretKey}
include ideal

end Login

/-- What is done to the shares. -/
inductive Action where
  /-- `add_share`. -/
  | add (userId : Nat) (shareId : String) (wrappedDk : List UInt8)
  /-- `share init`. -/
  | init (username : String) (dk : SecretKey) (draws : List Draw)
  /-- `revoke_share`. -/
  | revoke (userId : Nat) (shareId : String)

/-- The store after an action. -/
def step (aead : Aead) (domain : String) (db : Db) : Action → Db
  | .add userId shareId wrappedDk => (db.addShare userId shareId wrappedDk).2
  | .init username dk draws => (shareInit aead domain db username dk draws).2
  | .revoke userId shareId => (db.revokeShare userId shareId).2

end Talk.Verif.AppPasswords
