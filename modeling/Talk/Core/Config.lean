import Talk.Lib.Text

/-!
# The daemon's configuration

The record a configuration file is read into, and the check it has to pass beyond its types. The
TOML reader lives outside the repository, so what it reports is a parameter.
-/

namespace Talk.Core

open Text

/-- `AuthMode`. -/
inductive AuthMode where
  /-- The password hashes of the users table. -/
  | database
  /-- Accounts of the operating system. -/
  | localAuth
  deriving DecidableEq

/-- `Auth`. -/
structure Auth where
  /-- How local users are authenticated. -/
  mode : AuthMode
  deriving DecidableEq

/-- `General`. -/
structure General where
  /-- The data directory. -/
  dataDir : String
  /-- The daemon's ZSMTP domain. -/
  domain : String
  /-- The log level. -/
  logLevel : String
  deriving DecidableEq

/-- `Network`. -/
structure Network where
  /-- The indexer. -/
  indexerUrl : String
  /-- The recipient daemon's address. -/
  sendEndpoint : String
  deriving DecidableEq

/-- `Sockets`. -/
structure Sockets where
  /-- The local mailbox channel. -/
  secureMailbox : String
  /-- The local ZSMTP socket. -/
  zsmtp : String
  /-- The ZSMTP listener. -/
  zsmtpListen : String
  /-- The IMAP listener. -/
  imapListen : String
  deriving DecidableEq

/-- `Tls`. -/
structure Tls where
  /-- The certificate. -/
  cert : String
  /-- Its key. -/
  key : String
  deriving DecidableEq

/-- `Mailbox`. -/
structure Mailbox where
  /-- Whether the database is encrypted. -/
  encryptDb : Bool
  /-- The passphrase. -/
  passphrase : String
  /-- The wallets. -/
  walletDir : String
  /-- Message templates other than the built-in ones. -/
  templatePath : Option String
  deriving DecidableEq

/-- `Config`. -/
structure Config where
  /-- Section `general`. -/
  general : General
  /-- Section `network`. -/
  network : Network
  /-- Section `sockets`. -/
  sockets : Sockets
  /-- Section `tls`. -/
  tls : Tls
  /-- Section `mailbox`. -/
  mailbox : Mailbox
  /-- Section `auth`. -/
  auth : Auth
  deriving DecidableEq

/-- `ConfigError`, with the errors of the TOML reader as a type of their own. -/
inductive ConfigError (ε : Type) where
  /-- The file was not read. -/
  | read (path : String)
  /-- The file is not TOML, or not a configuration. -/
  | parse (path : String) (source : ε)
  /-- The domain is empty or holds whitespace. -/
  | invalidDomain (domain : String)
  deriving DecidableEq

variable {ε : Type}

/-- `Config::validate`: the domain is looked at without the whitespace at its ends. -/
def Config.validate (config : Config) : Except (ConfigError ε) Unit :=
  let domain := trim config.general.domain
  if domain = "" ∨ domain.toList.any isWhitespace then
    .error (.invalidDomain config.general.domain)
  else .ok ()

/-- `Config::parse`, over what the TOML reader makes of a text. -/
def Config.parse (fromStr : String → Except ε Config) (raw : String) :
    Except (ConfigError ε) Config :=
  match fromStr raw with
  | .error source => .error (.parse "" source)
  | .ok config =>
    match config.validate with
    | .error error => .error error
    | .ok () => .ok config

/-- `Config::load`, over what was read of the file. -/
def Config.load (fromStr : String → Except ε Config) (path : String) (contents : Option String) :
    Except (ConfigError ε) Config :=
  match contents with
  | none => .error (.read path)
  | some raw =>
    match fromStr raw with
    | .error source => .error (.parse path source)
    | .ok config =>
      match config.validate with
      | .error error => .error error
      | .ok () => .ok config

/-- A configuration is valid exactly when its trimmed domain is a word. -/
theorem Config.validate_ok_iff {config : Config} :
    (config.validate : Except (ConfigError ε) Unit) = .ok () ↔
      IsToken (trim config.general.domain) := by
  rw [validate]
  split_ifs with wrong
  · have other : ¬IsToken (trim config.general.domain) := by
      intro token
      rcases wrong with empty | blank
      · exact token.1 empty
      · obtain ⟨c, member, blank⟩ := List.any_eq_true.mp blank
        rw [token.2 c member] at blank
        cases blank
    simp [other]
  · rw [not_or] at wrong
    refine iff_of_true rfl ⟨wrong.1, fun c member => ?_⟩
    by_contra blank
    exact wrong.2 (List.any_eq_true.mpr ⟨c, member, by simpa using blank⟩)

/-- A file is loaded exactly where its text is parsed. -/
theorem Config.load_ok_iff {fromStr : String → Except ε Config} {path raw : String}
    {config : Config} :
    Config.load fromStr path (some raw) = .ok config ↔ Config.parse fromStr raw = .ok config := by
  unfold Config.load Config.parse
  dsimp only
  cases fromStr raw with
  | error source => exact iff_of_false (fun same => by cases same) (fun same => by cases same)
  | ok found => exact Iff.rfl

end Talk.Core
