import Mathlib.Logic.Function.Basic
import Mathlib.Data.UInt

/-!
# Files

The files of a machine by their paths, each with its bytes and its permissions. A path stands for
its file: there are no links, and `a` and `./a` are two files. What the operating system refuses,
and how far it gets with a write that fails, is a parameter. A write leaves every other file alone.
-/

namespace Talk.Files

/-- A file. -/
structure File where
  /-- The bytes. -/
  content : List UInt8
  /-- The permissions. -/
  mode : UInt32
  deriving DecidableEq

/-- The files, by their paths. -/
abbrev Disk := String → Option File

/-- `std::io::Error`, as far as it is told apart. -/
inductive IoError where
  /-- `ErrorKind::NotFound`. -/
  | notFound (text : String)
  /-- Another kind. -/
  | other (text : String)
  deriving DecidableEq

/-- `Display`. -/
def IoError.display : IoError → String
  | .notFound text => text
  | .other text => text

/-- How a write fails. -/
inductive Fault where
  /-- The file is not opened. -/
  | refused (error : IoError)
  /-- The file is cut and some of the bytes are written. -/
  | cut (kept : Nat) (error : IoError)
  deriving DecidableEq

/-- What the operating system does. -/
structure System where
  /-- The text of `NotFound`. -/
  missing : String
  /-- The permissions of a new file. -/
  created : UInt32
  /-- Why the file of a path cannot be read. -/
  read : String → Option IoError
  /-- Why the file of a path cannot be written. -/
  write : String → Option Fault
  /-- Why the permissions of a path cannot be set. -/
  chmod : String → Option IoError

/-- A system that refuses nothing. -/
def System.calm : System := ⟨"No such file or directory (os error 2)", 0o644, fun _ => none,
  fun _ => none, fun _ => none⟩

/-- `std::fs::read`. -/
def read (system : System) (disk : Disk) (path : String) : Except IoError (List UInt8) :=
  match disk path with
  | none => .error (.notFound system.missing)
  | some file =>
    match system.read path with
    | some error => .error error
    | none => .ok file.content

/-- The permissions of a path that is written. -/
def modeAt (system : System) (disk : Disk) (path : String) : UInt32 :=
  ((disk path).map File.mode).getD system.created

/-- `std::fs::write`. -/
def write (system : System) (disk : Disk) (path : String) (bytes : List UInt8) :
    Except IoError Unit × Disk :=
  match system.write path with
  | none => (.ok (), Function.update disk path (some ⟨bytes, modeAt system disk path⟩))
  | some (.refused error) => (.error error, disk)
  | some (.cut kept error) =>
    (.error error, Function.update disk path (some ⟨bytes.take kept, modeAt system disk path⟩))

/-- `std::fs::set_permissions`. -/
def setPermissions (system : System) (disk : Disk) (path : String) (mode : UInt32) :
    Except IoError Unit × Disk :=
  match disk path with
  | none => (.error (.notFound system.missing), disk)
  | some file =>
    match system.chmod path with
    | some error => (.error error, disk)
    | none => (.ok (), Function.update disk path (some { file with mode := mode }))

variable {system : System} {disk : Disk} {path other : String} {bytes : List UInt8}

/-- A write leaves the other files. -/
theorem write_other (differs : other ≠ path) (system : System) (disk : Disk)
    (bytes : List UInt8) : (write system disk path bytes).2 other = disk other := by
  rw [write]
  split
  · exact Function.update_of_ne differs _ _
  · rfl
  · exact Function.update_of_ne differs _ _

/-- A change of permissions leaves the other files. -/
theorem setPermissions_other (differs : other ≠ path) (system : System) (disk : Disk)
    (mode : UInt32) : (setPermissions system disk path mode).2 other = disk other := by
  rw [setPermissions]
  split
  · rfl
  · split
    · rfl
    · exact Function.update_of_ne differs _ _

/-- A write that succeeds leaves the bytes. -/
theorem write_ok (done : (write system disk path bytes).1 = .ok ()) :
    (write system disk path bytes).2 =
      Function.update disk path (some ⟨bytes, modeAt system disk path⟩) := by
  rw [write] at done ⊢
  split
  · rfl
  · rename_i fault
    rw [fault] at done
    cases done
  · rename_i fault
    rw [fault] at done
    cases done

/-- A change of permissions that succeeds leaves the bytes. -/
theorem setPermissions_ok {mode : UInt32}
    (done : (setPermissions system disk path mode).1 = .ok ()) :
    ∃ file, disk path = some file ∧ (setPermissions system disk path mode).2 =
      Function.update disk path (some { file with mode := mode }) := by
  rw [setPermissions] at done ⊢
  cases found : disk path with
  | none =>
    rw [found] at done
    cases done
  | some file =>
    rw [found] at done
    dsimp only at done ⊢
    split
    · rename_i fault
      rw [fault] at done
      cases done
    · exact ⟨file, rfl, rfl⟩

/-- What is read is in the file. -/
theorem read_ok (done : read system disk path = .ok bytes) :
    ∃ mode, disk path = some ⟨bytes, mode⟩ := by
  rw [read] at done
  split at done
  · cases done
  · rename_i file found
    split at done
    · cases done
    · obtain rfl := Except.ok.inj done
      exact ⟨file.mode, found⟩

/-- A file that can be read is read. -/
theorem read_eq {mode : UInt32} (found : disk path = some ⟨bytes, mode⟩)
    (calm : system.read path = none) : read system disk path = .ok bytes := by
  rw [read, found]
  dsimp only
  rw [calm]

end Talk.Files
