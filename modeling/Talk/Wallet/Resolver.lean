import Talk.Mailstore.Sqlite

/-!
# The wallet resolver

A user's wallet is a database in a directory that is named by the user's row id. A path is the list
of its components.
-/

namespace Talk.Wallet

open Mailstore

/-- `WalletBinding`. -/
structure WalletBinding where
  /-- The user's name. -/
  username : String
  /-- The master public key. -/
  masterPubkey : List UInt8
  /-- The IVK commitment, in dynamic-address mode. -/
  ivkCommitment : Option String
  /-- The wallet's database. -/
  walletDbPath : List String
  deriving DecidableEq

/-- `wallet_dir.join(user_id).join("wallet.db")`. -/
def walletDbPath (walletDir : List String) (userId : Nat) : List String :=
  walletDir ++ [toString userId, "wallet.db"]

/-- `WalletResolver::resolve`. -/
def resolve (walletDir : List String) (db : Db) (username : String) : Option WalletBinding :=
  (db.getUser username).map fun user =>
    ⟨user.username, user.masterPubkey, user.ivkCommitment, walletDbPath walletDir user.id⟩

/-- Different row ids have different wallets. -/
theorem walletDbPath_injective {walletDir : List String} {left right : Nat}
    (same : walletDbPath walletDir left = walletDbPath walletDir right) : left = right := by
  have components := List.append_cancel_left same
  exact Text.toString_injective (List.cons.inj components).1

end Talk.Wallet
