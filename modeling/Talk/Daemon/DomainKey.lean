import Talk.Keys.Share
import Talk.Lib.Files

/-!
# The domain key

The daemon reads its signing key from a file, or draws one and writes it there; the command line
reads it only. The key is given as the 32 bytes that both files and signing keys are made of. What
is drawn, what the operating system refuses and why the directory cannot be made are arguments.
-/

namespace Talk.Daemon.DomainKey

open Files Keys

variable (path : String)

/-- `load_or_create_domain_key`: any failure to read is taken for a missing file. -/
def loadOrCreateDomainKey (system : System) (mkdir : Option IoError) (disk : Disk)
    (drawn : SecretKey) : Except IoError SecretKey × Disk :=
  match read system disk path with
  | .ok raw =>
    if size : raw.length = 32 then (.ok ⟨raw, size⟩, disk)
    else (.error (.other "bad domain key"), disk)
  | .error _ =>
    match mkdir with
    | some error => (.error error, disk)
    | none =>
      match write system disk path drawn.val with
      | (.error error, disk) => (.error error, disk)
      | (.ok _, disk) => (.ok drawn, disk)

/-- `Ctx::domain_key`. -/
def domainKey (system : System) (disk : Disk) : Except String SecretKey :=
  match read system disk path with
  | .error error =>
    .error ("cannot read domain key " ++ path ++ ": " ++ error.display
      ++ " (run talkd once to create it)")
  | .ok raw =>
    if size : raw.length = 32 then .ok ⟨raw, size⟩ else .error "domain key must be 32 bytes"

/-- Who comes to the machine. -/
inductive Visit where
  /-- The daemon starts. -/
  | start (system : System) (mkdir : Option IoError) (drawn : SecretKey)
  /-- The command line reads the key. -/
  | load (system : System)
  /-- Somebody else leaves a file, or removes it. -/
  | change (target : String) (file : Option File)

/-- The key a visitor is given, or why there is none. -/
def Visit.answer (disk : Disk) : Visit → Option (Except String SecretKey)
  | .start system mkdir drawn =>
    some ((loadOrCreateDomainKey path system mkdir disk drawn).1.mapError IoError.display)
  | .load system => some (domainKey path system disk)
  | .change _ _ => none

/-- The files after a visit. -/
def Visit.leave (disk : Disk) : Visit → Disk
  | .start system mkdir drawn => (loadOrCreateDomainKey path system mkdir disk drawn).2
  | .load _ => disk
  | .change target file => Function.update disk target file

end Talk.Daemon.DomainKey
