import Talk.Keys.Master
import Talk.Lib.Files

/-!
# `talkctl key`

Master key pairs in files, and files sealed to a public key. What the random generator draws, what
the operating system refuses and the standard streams are arguments.
-/

namespace Talk.Ctl.Key

open Keys Files Hex
open Utf8 (bytes)

/-- `CtlError`, as far as these commands return it. -/
inductive KeyError where
  /-- `CtlError::msg`. -/
  | message (text : String)
  /-- `CtlError::Io`. -/
  | io (error : IoError)
  deriving DecidableEq

/-- The standard streams. -/
structure Console where
  /-- What is read from standard input. -/
  stdin : Except IoError (List UInt8)
  /-- Why standard output cannot be written. -/
  stdout : Option IoError

/-- The files, and what has been printed. -/
structure Desk where
  /-- The files. -/
  disk : Disk
  /-- The bytes on standard output. -/
  stdout : List UInt8
  /-- The lines on standard error. -/
  stderr : List String

/-- `println!`. -/
def Desk.println (desk : Desk) (line : String) : Desk :=
  { desk with stdout := desk.stdout ++ bytes (line ++ "\n") }

/-- `eprintln!`. -/
def Desk.eprintln (desk : Desk) (line : String) : Desk :=
  { desk with stderr := desk.stderr ++ [line] }

/-- What a command returns and leaves. -/
abbrev Outcome := Except KeyError Unit × Desk

variable (system : System) (console : Console) (agreement : Agreement) (aead : Aead)

/-! ## Files -/

/-- `load_private_key`. -/
def loadPrivateKey (disk : Disk) (path : String) : Except KeyError SecretKey :=
  match read system disk path with
  | .error error => .error (.message ("cannot read key " ++ path ++ ": " ++ error.display))
  | .ok raw =>
    if size : raw.length = 32 then .ok ⟨raw, size⟩
    else .error (.message ("key file " ++ path ++ " must be 32 bytes"))

/-- `write_new`. -/
def writeNew (desk : Desk) (path : String) (content : List UInt8) (mode : UInt32)
    (force : Bool) : Outcome :=
  if (desk.disk path).isSome ∧ force = false then
    (.error (.message (path ++ " already exists (use --force to overwrite)")), desk)
  else
    match write system desk.disk path content with
    | (.error error, disk) => (.error (.io error), { desk with disk := disk })
    | (.ok (), disk) =>
      match setPermissions system disk path mode with
      | (.error error, disk) => (.error (.io error), { desk with disk := disk })
      | (.ok (), disk) => (.ok (), { desk with disk := disk })

/-- `write_new`, of a path that may be missing. -/
def writeNewAt (desk : Desk) (path : Option String) (content : List UInt8) (mode : UInt32)
    (force : Bool) : Outcome :=
  match path with
  | none => (.ok (), desk)
  | some path => writeNew system desk path content mode force

/-- `read_input`. -/
def readInput (disk : Disk) (input : Option String) : Except KeyError (List UInt8) :=
  match input with
  | some path =>
    match read system disk path with
    | .error error => .error (.message ("cannot read " ++ path ++ ": " ++ error.display))
    | .ok data => .ok data
  | none =>
    match console.stdin with
    | .error error => .error (.io error)
    | .ok data => .ok data

/-- `write_output`. -/
def writeOutput (desk : Desk) (output : Option String) (content : List UInt8) : Outcome :=
  match output with
  | some path =>
    match write system desk.disk path content with
    | (.error error, disk) => (.error (.io error), { desk with disk := disk })
    | (.ok (), disk) => (.ok (), { desk with disk := disk })
  | none =>
    match console.stdout with
    | some error => (.error (.io error), desk)
    | none => (.ok (), { desk with stdout := desk.stdout ++ content })

/-! ## Commands -/

/-- What `generate` prints of a pair. -/
def announce (desk : Desk) (pair : MasterKeyPair) (out : Option String) : Desk :=
  let desk := desk.println ("public: " ++ encode pair.pub.val)
  match out with
  | some path => desk.eprintln ("note: private key written to " ++ path ++ " (mode 0600)")
  | none =>
    (desk.eprintln "note: private key printed once below; store it safely.").println
      ("private: " ++ encode pair.priv.val)

/-- `generate`, from the bytes drawn. -/
def keyGenerate (desk : Desk) (drawn : SecretKey) (out pubOut : Option String) (force : Bool) :
    Outcome :=
  let pair := generateMasterPairWith agreement drawn
  match writeNewAt system desk out pair.priv.val 0o600 force with
  | (.error error, desk) => (.error error, desk)
  | (.ok (), desk) =>
    match writeNewAt system desk pubOut pair.pub.val 0o644 force with
    | (.error error, desk) => (.error error, desk)
    | (.ok (), desk) => (.ok (), announce desk pair out)

/-- The private key `pubkey` is given. -/
def givenKey (disk : Disk) (key hex : Option String) : Except KeyError SecretKey :=
  match key, hex with
  | some path, _ => loadPrivateKey system disk path
  | none, some hex =>
    match decodeBlock 32 hex with
    | none => .error (.message "private key must be 32 bytes of hex")
    | some priv => .ok priv
  | none, none => .error (.message "provide --key <file> or --hex <private-key>")

/-- `pubkey`. -/
def keyPubkey (desk : Desk) (key hex : Option String) : Outcome :=
  match givenKey system desk.disk key hex with
  | .error error => (.error error, desk)
  | .ok priv => (.ok (), desk.println (encode (masterPubkey agreement priv).val))

/-- The public key `seal` seals to. -/
def recipient (priv : SecretKey) (sealTo : Option String) : Except KeyError PublicKey :=
  match sealTo with
  | none => .ok (masterPubkey agreement priv)
  | some hex =>
    match decodeBlock 32 hex with
    | none => .error (.message "--to must be 32 bytes of hex")
    | some pub => .ok pub

/-- `seal`, with the ephemeral key and the nonce drawn. -/
def keySeal (desk : Desk) (keyFile : String) (sealTo input output : Option String)
    (ephemeral : SecretKey) (nonce : Block 12) : Outcome :=
  match loadPrivateKey system desk.disk keyFile with
  | .error error => (.error error, desk)
  | .ok priv =>
    match recipient agreement priv sealTo with
    | .error error => (.error error, desk)
    | .ok pub =>
      match readInput system console desk.disk input with
      | .error error => (.error error, desk)
      | .ok data =>
        writeOutput system console desk output
          (sealEnvelope agreement aead pub data ephemeral nonce)

/-- `unseal`. -/
def keyUnseal (desk : Desk) (keyFile : String) (input output : Option String) : Outcome :=
  match loadPrivateKey system desk.disk keyFile with
  | .error error => (.error error, desk)
  | .ok priv =>
    match readInput system console desk.disk input with
    | .error error => (.error error, desk)
    | .ok envelope =>
      match openEnvelope agreement aead priv envelope with
      | .error error => (.error (.message ("unseal failed: " ++ error.display)), desk)
      | .ok plaintext => writeOutput system console desk output plaintext

/-- `KeyAction`, with what is drawn for it. -/
inductive KeyAction where
  /-- `generate`. -/
  | generate (drawn : SecretKey) (out pubOut : Option String) (force : Bool)
  /-- `pubkey`. -/
  | pubkey (key hex : Option String)
  /-- `seal`. -/
  | sealData (keyFile : String) (sealTo input output : Option String) (ephemeral : SecretKey)
    (nonce : Block 12)
  /-- `unseal`. -/
  | unsealData (keyFile : String) (input output : Option String)
  deriving DecidableEq

/-- `run`. -/
def run (desk : Desk) : KeyAction → Outcome
  | .generate drawn out pubOut force => keyGenerate system agreement desk drawn out pubOut force
  | .pubkey key hex => keyPubkey system agreement desk key hex
  | .sealData keyFile sealTo input output ephemeral nonce =>
    keySeal system console agreement aead desk keyFile sealTo input output ephemeral nonce
  | .unsealData keyFile input output =>
    keyUnseal system console agreement aead desk keyFile input output

end Talk.Ctl.Key
