import Talk.Daemon.DomainKey
import Talk.Lib.Transition

/-!
# One domain key

Signatures are checked under the key that is published, over all restarts of the daemon. The key
that a visitor was given once is the key of everybody after it, until somebody else changes its
file, or the daemon starts where the file may be written and not read.
-/

namespace Talk.Verif.OneDomainKey

open Daemon.DomainKey Files Keys Transition

variable {path : String} {disk : Disk} {key : SecretKey}

/-- The file has the key. -/
def Holds (path : String) (key : SecretKey) (disk : Disk) : Prop :=
  (disk path).map File.content = some key.val

/-- What a write leaves is not the key. -/
def Overwrites (key drawn : SecretKey) : Option Fault → Prop
  | none => drawn ≠ key
  | some (.refused _) => False
  | some (.cut kept _) => drawn.val.take kept ≠ key.val

/-- A visitor replaces the key: somebody else who leaves another file, or the daemon when it cannot
read the file and can write it. -/
def Replaces (path : String) (key : SecretKey) : Visit → Prop
  | .start system mkdir drawn =>
    system.read path ≠ none ∧ mkdir = none ∧ Overwrites key drawn (system.write path)
  | .load _ => False
  | .change target file => target = path ∧ file.map File.content ≠ some key.val

/-- A visitor may read the file. -/
def MayRead (path : String) : Visit → Prop
  | .start system _ _ => system.read path = none
  | .load system => system.read path = none
  | .change _ _ => True

/-! ## Reading -/

/-- A file with the key is read, or the system refuses. -/
theorem read_holds (holds : Holds path key disk) (system : System) :
    (system.read path = none ∧ read system disk path = .ok key.val) ∨
      ∃ error, system.read path = some error ∧ read system disk path = .error error := by
  obtain ⟨file, found, content⟩ := Option.map_eq_some_iff.mp holds
  unfold Files.read
  rw [found]
  dsimp only
  cases system.read path with
  | none => exact .inl ⟨rfl, congrArg Except.ok content⟩
  | some error => exact .inr ⟨error, rfl, rfl⟩

/-- A start that reads the file leaves it. -/
theorem start_reads {system : System} {raw : List UInt8}
    (got : Files.read system disk path = .ok raw) (mkdir : Option IoError) (drawn : SecretKey) :
    loadOrCreateDomainKey path system mkdir disk drawn =
      (if size : raw.length = 32 then .ok ⟨raw, size⟩ else .error (.other "bad domain key"),
        disk) := by
  unfold loadOrCreateDomainKey
  rw [got]
  dsimp only
  split
  · rfl
  · rfl

/-- A start that cannot read the file writes it, if the directory can be made. -/
theorem start_writes {system : System} {error : IoError}
    (got : Files.read system disk path = .error error) (drawn : SecretKey) :
    loadOrCreateDomainKey path system none disk drawn =
      ((Files.write system disk path drawn.val).1.map fun _ => drawn,
        (Files.write system disk path drawn.val).2) := by
  unfold loadOrCreateDomainKey
  rw [got]
  dsimp only
  cases Files.write system disk path drawn.val with
  | mk result after =>
    cases result with
    | error error => rfl
    | ok _ => rfl

/-- A start that cannot make the directory leaves the files. -/
theorem start_fails {system : System} {error : IoError}
    (got : Files.read system disk path = .error error) (refused : IoError) (drawn : SecretKey) :
    loadOrCreateDomainKey path system (some refused) disk drawn = (.error refused, disk) := by
  unfold loadOrCreateDomainKey
  rw [got]

/-- Who may read the file is given its key. -/
theorem answer_of_holds (holds : Holds path key disk) {visit : Visit} (may : MayRead path visit)
    {answer : Except String SecretKey} (asked : visit.answer path disk = some answer) :
    answer = .ok key := by
  have got {system : System} (clear : system.read path = none) :
      Files.read system disk path = .ok key.val := by
    rcases read_holds holds system with ⟨-, got⟩ | ⟨error, refused, -⟩
    · exact got
    · rw [clear] at refused
      cases refused
  cases visit with
  | change target file => cases asked
  | start system mkdir drawn =>
    obtain rfl := Option.some.inj asked
    rw [start_reads (got may), dif_pos key.property]
    rfl
  | load system =>
    obtain rfl := Option.some.inj asked
    unfold domainKey
    rw [got may]
    dsimp only
    rw [dif_pos key.property]

/-- Bytes that are read as a key are in the file. -/
theorem holds_of_read {raw : List UInt8} {system : System}
    (got : Files.read system disk path = .ok raw) (size : raw.length = 32) :
    Holds path ⟨raw, size⟩ disk := by
  obtain ⟨mode, found⟩ := read_ok got
  rw [Holds, found]
  rfl

/-! ## Writing -/

/-- What a write leaves in a file that has the key. -/
theorem write_holds_iff (holds : Holds path key disk) (system : System) (drawn : SecretKey) :
    Holds path key (write system disk path drawn.val).2 ↔
      ¬ Overwrites key drawn (system.write path) := by
  unfold Files.write
  rw [Holds]
  cases system.write path with
  | none =>
    dsimp only
    rw [Function.update_self]
    simp [Overwrites, Subtype.ext_iff]
  | some fault =>
    cases fault with
    | refused error => exact iff_of_true holds id
    | cut kept error =>
      dsimp only
      rw [Function.update_self]
      simp [Overwrites]

/-- The key stands after a visit exactly if the visitor does not replace it. -/
theorem leave_holds_iff (holds : Holds path key disk) (visit : Visit) :
    Holds path key (visit.leave path disk) ↔ ¬ Replaces path key visit := by
  cases visit with
  | load system => exact iff_of_true holds id
  | change target file =>
    rw [Visit.leave, Replaces, Holds]
    by_cases same : target = path
    · obtain rfl := same
      rw [Function.update_self]
      simp
    · rw [Function.update_of_ne (Ne.symm same)]
      exact iff_of_true holds fun replaced => same replaced.1
  | start system mkdir drawn =>
    rw [Visit.leave, Replaces]
    rcases read_holds holds system with ⟨clear, got⟩ | ⟨error, refused, got⟩
    · rw [start_reads got]
      exact iff_of_true holds fun replaced => replaced.1 clear
    · have barred : system.read path ≠ none := by
        rw [refused]
        exact Option.some_ne_none error
      cases mkdir with
      | some error =>
        rw [start_fails got]
        exact iff_of_true holds fun replaced => Option.some_ne_none error replaced.2.1
      | none =>
        rw [start_writes got, write_holds_iff holds]
        exact not_congr (by simp [barred])

/-- A key that somebody is given is in the file afterwards. -/
theorem holds_of_answer {visit : Visit} (asked : visit.answer path disk = some (.ok key)) :
    Holds path key (visit.leave path disk) := by
  cases visit with
  | change target file => cases asked
  | load system =>
    have given : domainKey path system disk = .ok key := Option.some.inj asked
    unfold domainKey at given
    cases got : Files.read system disk path with
    | error error =>
      rw [got] at given
      cases given
    | ok raw =>
      rw [got] at given
      dsimp only at given
      by_cases size : raw.length = 32
      · rw [dif_pos size] at given
        obtain rfl := Except.ok.inj given
        exact holds_of_read got size
      · rw [dif_neg size] at given
        cases given
  | start system mkdir drawn =>
    have given : (loadOrCreateDomainKey path system mkdir disk drawn).1.mapError IoError.display =
        .ok key := Option.some.inj asked
    rw [Visit.leave]
    cases got : Files.read system disk path with
    | ok raw =>
      rw [start_reads got] at given ⊢
      by_cases size : raw.length = 32
      · rw [dif_pos size] at given
        obtain rfl := Except.ok.inj given
        exact holds_of_read got size
      · rw [dif_neg size] at given
        cases given
    | error error =>
      cases mkdir with
      | some refused =>
        rw [start_fails got] at given
        cases given
      | none =>
        rw [start_writes got] at given ⊢
        cases done : (Files.write system disk path drawn.val).1 with
        | error error =>
          rw [done] at given
          cases given
        | ok _ =>
          rw [done] at given
          obtain rfl := Except.ok.inj given
          rw [write_ok done, Holds, Function.update_self]
          rfl

/-! ## Runs -/

/-- The files after visits. -/
def files (path : String) (disk : Disk) (visits : List Visit) : Disk :=
  run (Visit.leave path) disk visits

/-- Nobody among the visitors replaces the key exactly if it stands all along. -/
theorem stands_iff (holds : Holds path key disk) (visits : List Visit) :
    (∀ early, early <+: visits → Holds path key (files path disk early)) ↔
      ∀ visit ∈ visits, ¬ Replaces path key visit := by
  have guarded : ∀ (disk : Disk) (visits : List Visit),
      Guarded (Visit.leave path) (fun _ visit => ¬ Replaces path key visit) disk visits ↔
        ∀ visit ∈ visits, ¬ Replaces path key visit := by
    intro disk visits
    induction visits generalizing disk with
    | nil => exact iff_of_true trivial fun _ member => absurd member List.not_mem_nil
    | cons visit visits ih =>
      rw [Guarded, ih, List.forall_mem_cons]
  have same : ∀ disk visit, Holds path key disk →
      (Holds path key (Visit.leave path disk visit) ↔ ¬ Replaces path key visit) :=
    fun _ visit holds => leave_holds_iff holds visit
  exact (along_iff same holds visits).trans (guarded disk visits)

/-- The key that a visitor was given stands exactly as long as nobody replaces it; and until then
everybody who may read its file is given this key. -/
theorem one_domain_key (path : String) (disk : Disk) (before after : List Visit) (visit : Visit)
    {key : SecretKey} (given : visit.answer path (files path disk before) = some (.ok key)) :
    ((∀ early, early <+: after → Holds path key (files path disk (before ++ visit :: early))) ↔
        ∀ other ∈ after, ¬ Replaces path key other) ∧
      ((∀ other ∈ after, ¬ Replaces path key other) → ∀ early other late,
        after = early ++ other :: late → MayRead path other → ∀ answer,
          other.answer path (files path disk (before ++ visit :: early)) = some answer →
            answer = .ok key) := by
  have holds : Holds path key (visit.leave path (files path disk before)) := holds_of_answer given
  have split (early : List Visit) : files path disk (before ++ visit :: early) =
      files path (visit.leave path (files path disk before)) early :=
    run_append _ _ _ _
  have stands := stands_iff holds after
  simp only [split]
  refine ⟨stands, fun spared early other late cut may answer asked => ?_⟩
  have there := stands.mpr spared early ⟨other :: late, cut.symm⟩
  exact answer_of_holds there may asked

/-- A key that is drawn. -/
def drawnKey (byte : UInt8) : SecretKey := ⟨List.replicate 32 byte, List.length_replicate⟩

/-- Another file is written. -/
def mailIsStored : Visit := .change "d/mailbox.db" (some ⟨[], 0o644⟩)

/-- The daemon starts on a new machine, and again after another file has been written. -/
theorem second_start_reads :
    (Visit.start .calm none (drawnKey 2)).answer "d/domainkey"
      (files "d/domainkey" (fun _ => none)
        ([] ++ .start .calm none (drawnKey 1) :: [mailIsStored])) = some (.ok (drawnKey 1)) := by
  have first : (Visit.start .calm none (drawnKey 1)).answer "d/domainkey"
      (files "d/domainkey" (fun _ => none) []) = some (.ok (drawnKey 1)) := rfl
  have later := (one_domain_key "d/domainkey" (fun _ => none) []
    [mailIsStored, .start .calm none (drawnKey 2)] _ first).2
  have spared : ∀ other ∈ [mailIsStored, .start .calm none (drawnKey 2)],
      ¬ Replaces "d/domainkey" (drawnKey 1) other := by
    simp [mailIsStored, Replaces, System.calm]
  exact congrArg some (later spared [mailIsStored] _ [] rfl rfl _ rfl)

end Talk.Verif.OneDomainKey
