import Talk.Ctl.Key
import Talk.Lib.Transition
import Talk.Verif.SealedEnvelopes

/-!
# Key files

What the commands on master keys do to the files of a machine, whatever the operating system
refuses: which files they change, when a new private key is lost, and that a sealed file is read by
the key it was sealed to and by no other one.
-/

namespace Talk.Verif.KeyFiles

open Keys Files Ctl.Key Transition Hex
open Utf8 (bytes)

/-! ## What is changed -/

/-- The paths an action writes. -/
def outputs : KeyAction → List String
  | .generate _ out pubOut _ => out.toList ++ pubOut.toList
  | .pubkey _ _ => []
  | .sealData _ _ _ output _ _ => output.toList
  | .unsealData _ _ output => output.toList

/-- An action refuses to write a file that is there. -/
def isCareful : KeyAction → Bool
  | .generate _ _ _ force => !force
  | _ => false

/-- An action leaves the file of a path: it does not write there, or refuses to. -/
def Spares (disk : Disk) (path : String) (action : KeyAction) : Prop :=
  path ∉ outputs action ∨ ((disk path).isSome = true ∧ isCareful action = true)

variable {system : System} {console : Console} {agreement : Agreement} {aead : Aead}

/-- A new file is written where there is none, or with force. -/
theorem writeNewAt_spares (system : System) {desk : Desk} {path : String}
    {place : Option String} (content : List UInt8) (mode : UInt32) {force : Bool}
    (spared : place ≠ some path ∨ ((desk.disk path).isSome = true ∧ force = false)) :
    (writeNewAt system desk place content mode force).2.disk path = desk.disk path := by
  cases place with
  | none => rfl
  | some target =>
    rw [writeNewAt, writeNew]
    by_cases refused : (desk.disk target).isSome = true ∧ force = false
    · rw [if_pos refused]
    · have differs : path ≠ target := by
        rintro rfl
        rcases spared with other | held
        · exact other rfl
        · exact refused held
      rw [if_neg refused]
      have written := write_other differs system desk.disk content
      cases done : write system desk.disk target content with
      | mk result disk =>
        rw [done] at written
        cases result with
        | error error => exact written
        | ok _ =>
          dsimp only at written ⊢
          have set := setPermissions_other differs system disk mode
          cases chmod : setPermissions system disk target mode with
          | mk result after =>
            rw [chmod] at set
            cases result with
            | error error => exact set.trans written
            | ok _ => exact set.trans written

/-- An output is written to its own file. -/
theorem writeOutput_other {desk : Desk} {path : String} {output : Option String}
    (content : List UInt8) (differs : output ≠ some path) :
    (writeOutput system console desk output content).2.disk path = desk.disk path := by
  cases output with
  | none =>
    rw [writeOutput]
    split
    · rfl
    · rfl
  | some target =>
    have other : path ≠ target := fun same => differs (same ▸ rfl)
    have written := write_other other system desk.disk content
    rw [writeOutput]
    cases done : write system desk.disk target content with
    | mk result disk =>
      rw [done] at written
      cases result with
      | error error => exact written
      | ok _ => exact written

/-- What is printed is in no file. -/
theorem announce_disk (desk : Desk) (pair : MasterKeyPair) (out : Option String) :
    (announce desk pair out).disk = desk.disk := by
  cases out <;> rfl

/-- A command leaves the files that it spares. -/
theorem run_spares {desk : Desk} {path : String} {action : KeyAction}
    (spared : Spares desk.disk path action) :
    (Ctl.Key.run system console agreement aead desk action).2.disk path = desk.disk path := by
  cases action with
  | generate drawn out pubOut force =>
    have spares {place : Option String} (disk : Disk) (kept : disk path = desk.disk path)
        (member : place.toList ⊆ out.toList ++ pubOut.toList) :
        place ≠ some path ∨ ((disk path).isSome = true ∧ force = false) := by
      rcases spared with other | held
      · exact .inl fun same => other (member (by rw [same]; exact List.mem_singleton_self _))
      · rw [kept]
        exact .inr ⟨held.1, Bool.not_eq_true' force ▸ held.2⟩
    have first := writeNewAt_spares system drawn.val 0o600
      (spares desk.disk rfl (List.subset_append_left out.toList pubOut.toList))
    rw [Ctl.Key.run, keyGenerate]
    dsimp only [generateMasterPairWith]
    cases wrote : writeNewAt system desk out drawn.val 0o600 force with
    | mk result middle =>
      rw [wrote] at first
      cases result with
      | error error => exact first
      | ok _ =>
        have second := writeNewAt_spares system (agreement.publicKey drawn).val 0o644
          (spares middle.disk first (List.subset_append_right out.toList pubOut.toList))
        dsimp only
        cases again : writeNewAt system middle pubOut (agreement.publicKey drawn).val 0o644
          force with
        | mk result after =>
          rw [again] at second
          cases result with
          | error error => exact second.trans first
          | ok _ => exact (announce_disk after _ out ▸ second).trans first
  | pubkey key hex =>
    rw [Ctl.Key.run, keyPubkey]
    split
    · rfl
    · rfl
  | sealData keyFile sealTo input output ephemeral nonce =>
    have differs : output ≠ some path := by
      rintro rfl
      rcases spared with other | held
      · exact other (List.mem_singleton_self _)
      · cases held.2
    rw [Ctl.Key.run, keySeal]
    split
    · rfl
    · split
      · rfl
      · split
        · rfl
        · exact writeOutput_other _ differs
  | unsealData keyFile input output =>
    have differs : output ≠ some path := by
      rintro rfl
      rcases spared with other | held
      · exact other (List.mem_singleton_self _)
      · cases held.2
    rw [Ctl.Key.run, keyUnseal]
    split
    · rfl
    · split
      · rfl
      · split
        · rfl
        · exact writeOutput_other _ differs

/-- A command, with what the system does while it runs. -/
structure Invocation where
  /-- What is refused. -/
  system : System
  /-- The standard streams. -/
  console : Console
  /-- The command. -/
  action : KeyAction

/-- The files after a command, and what it has printed. -/
def invoke (agreement : Agreement) (aead : Aead) (desk : Desk) (invocation : Invocation) : Desk :=
  (Ctl.Key.run invocation.system invocation.console agreement aead desk invocation.action).2

/-- Commands one after the other, whatever is refused meanwhile, leave every file that is not named
as an output, and every file that is named as one by careful commands only. -/
theorem files_are_spared (desk : Desk) (invocations : List Invocation) (path : String)
    (spared : (∀ invocation ∈ invocations, path ∉ outputs invocation.action) ∨
      ((desk.disk path).isSome = true ∧ ∀ invocation ∈ invocations,
        path ∈ outputs invocation.action → isCareful invocation.action = true)) :
    (Transition.run (invoke agreement aead) desk invocations).disk path = desk.disk path := by
  induction invocations generalizing desk with
  | nil => rfl
  | cons invocation invocations ih =>
    have here : Spares desk.disk path invocation.action := by
      by_cases named : path ∈ outputs invocation.action
      · rcases spared with nowhere | held
        · exact absurd named (nowhere invocation List.mem_cons_self)
        · exact .inr ⟨held.1, held.2 invocation List.mem_cons_self named⟩
      · exact .inl named
    have kept : (invoke agreement aead desk invocation).disk path = desk.disk path :=
      run_spares here
    refine (ih (invoke agreement aead desk invocation) ?_).trans kept
    rcases spared with nowhere | held
    · exact .inl fun other member => nowhere other (List.mem_cons_of_mem _ member)
    · rw [kept]
      exact .inr ⟨held.1, fun other member => held.2 other (List.mem_cons_of_mem _ member)⟩

/-- The desk of a machine with one file. -/
def Desk.withFile (path : String) (content : List UInt8) : Desk :=
  ⟨fun other => if other = path then some ⟨content, 0o600⟩ else none, [], []⟩

/-- A key that is there is not generated again. -/
theorem key_is_spared :
    (Transition.run (invoke .ofFirstByte .labelled) (Desk.withFile "k" (List.replicate 32 7))
      [⟨.calm, ⟨.ok [], none⟩, .generate (.replicate 32 9) (some "k") none false⟩]).disk "k" =
        some ⟨List.replicate 32 7, 0o600⟩ :=
  files_are_spared (Desk.withFile "k" (List.replicate 32 7)) _ "k"
    (.inr ⟨rfl, fun invocation member _ => by rw [List.mem_singleton.mp member]; rfl⟩)

/-! ## New keys -/

/-- A new file that was written: it is there, nothing is printed, and none was there without
force. -/
theorem writeNewAt_ok {desk after : Desk} {place : Option String} {content : List UInt8}
    {mode : UInt32} {force : Bool}
    (done : writeNewAt system desk place content mode force = (.ok (), after)) :
    after.stdout = desk.stdout ∧ ∀ path, place = some path →
      after.disk path = some ⟨content, mode⟩ ∧
        ((desk.disk path).isSome = true → force = true) := by
  cases place with
  | none =>
    obtain rfl := (Prod.mk.inj done).2
    exact ⟨rfl, nofun⟩
  | some target =>
    rw [writeNewAt, writeNew] at done
    split at done
    · cases done
    · rename_i allowed
      split at done
      · cases done
      · rename_i disk wrote
        have written := write_ok (congrArg Prod.fst wrote)
        split at done
        · cases done
        · rename_i last set
          obtain ⟨file, found, changed⟩ := setPermissions_ok (congrArg Prod.fst set)
          rw [wrote] at written
          rw [set] at changed
          dsimp only at written changed
          rw [written, Function.update_self] at found
          obtain rfl := Option.some.inj found
          obtain rfl := (Prod.mk.inj done).2
          refine ⟨rfl, fun path same => ?_⟩
          obtain rfl := Option.some.inj same
          refine ⟨?_, fun held => ?_⟩
          · rw [changed]
            exact Function.update_self ..
          · by_contra careful
            exact allowed ⟨held, Bool.not_eq_true force ▸ careful⟩

/-- Where a pair that was generated is found. -/
structure Kept (agreement : Agreement) (desk after : Desk) (drawn : SecretKey)
    (out pubOut : Option String) (force : Bool) : Prop where
  /-- Without a file the private key is printed, after the public one. -/
  printed : out = none → after.stdout = desk.stdout ++
    bytes ("public: " ++ encode (agreement.publicKey drawn).val ++ "\n") ++
      bytes ("private: " ++ encode drawn.val ++ "\n")
  /-- With one it is there, for its owner alone, unless the public key was written over it. -/
  stored : ∀ path, out = some path →
    (after.disk path = some ⟨drawn.val, 0o600⟩ ↔ pubOut ≠ some path)
  /-- The public key is in its file. -/
  published : ∀ path, pubOut = some path →
    after.disk path = some ⟨(agreement.publicKey drawn).val, 0o644⟩
  /-- It is written over the private one by force only. -/
  forced : ∀ path, out = some path → pubOut = some path → force = true

/-- A pair that was generated is kept: its private half is lost exactly if both files are one, which
takes force. -/
theorem generated_pair_is_kept {desk after : Desk} {drawn : SecretKey} {out pubOut : Option String}
    {force : Bool}
    (done : keyGenerate system agreement desk drawn out pubOut force = (.ok (), after)) :
    Kept agreement desk after drawn out pubOut force := by
  rw [keyGenerate] at done
  dsimp only [generateMasterPairWith] at done
  split at done
  · cases done
  · rename_i middle first
    split at done
    · cases done
    · rename_i last second
      obtain rfl := (Prod.mk.inj done).2
      obtain ⟨quiet, stored⟩ := writeNewAt_ok first
      obtain ⟨silent, published⟩ := writeNewAt_ok second
      refine ⟨fun missing => ?_, fun path same => ?_, fun path same => ?_,
        fun path same shared => ?_⟩
      · rw [missing, ← quiet, ← silent]
        rfl
      · rw [announce_disk]
        by_cases shared : pubOut = some path
        · refine iff_of_false (fun kept => ?_) (not_not_intro shared)
          have written := (published path shared).1.symm.trans kept
          have modes : (0o644 : UInt32) = 0o600 := congrArg File.mode (Option.some.inj written)
          exact absurd modes (by decide)
        · have spared : (writeNewAt system middle pubOut (agreement.publicKey drawn).val 0o644
              force).2.disk path = middle.disk path := writeNewAt_spares system _ _ (.inl shared)
          rw [second] at spared
          exact iff_of_true (spared.trans (stored path same).1) shared
      · rw [announce_disk]
        exact (published path same).1
      · exact (published path shared).2 (by rw [(stored path same).1]; rfl)

/-- A pair whose public half is written over its private one. -/
theorem pair_is_overwritten :
    (keyGenerate .calm .ofFirstByte (Desk.withFile "k" []) (.replicate 32 9) (some "k") (some "k")
      true).2.disk "k" ≠ some ⟨List.replicate 32 9, 0o600⟩ := by
  have done : keyGenerate .calm .ofFirstByte (Desk.withFile "k" []) (.replicate 32 9) (some "k")
      (some "k") true = (.ok (), _) := rfl
  exact fun kept => ((generated_pair_is_kept done).stored "k" rfl).mp kept rfl

/-! ## Sealed files -/

/-- A key is loaded from 32 bytes. -/
theorem loadPrivateKey_eq {disk : Disk} {path : String} {key : SecretKey} {mode : UInt32}
    (found : disk path = some ⟨key.val, mode⟩) (calm : system.read path = none) :
    loadPrivateKey system disk path = .ok key := by
  rw [loadPrivateKey, read_eq found calm]
  exact dif_pos key.property

/-- What is written to an output file. -/
theorem writeOutput_ok {desk after : Desk} {output : String} {content : List UInt8}
    (done : writeOutput system console desk (some output) content = (.ok (), after)) :
    ∃ mode, after.disk output = some ⟨content, mode⟩ := by
  rw [writeOutput] at done
  split at done
  · cases done
  · rename_i disk wrote
    have written := write_ok (congrArg Prod.fst wrote)
    rw [wrote] at written
    dsimp only at written
    obtain rfl := (Prod.mk.inj done).2
    refine ⟨modeAt system desk.disk output, ?_⟩
    rw [written]
    exact Function.update_self ..

/-- What `seal` leaves where it succeeds with a file. -/
theorem keySeal_ok {desk after : Desk} {keyFile : String} {sealTo input : Option String}
    {output : String} {ephemeral : SecretKey} {nonce : Block 12}
    (done : keySeal system console agreement aead desk keyFile sealTo input (some output) ephemeral
      nonce = (.ok (), after)) :
    ∃ priv pub data mode, loadPrivateKey system desk.disk keyFile = .ok priv ∧
      recipient agreement priv sealTo = .ok pub ∧
      readInput system console desk.disk input = .ok data ∧
      after.disk output = some ⟨sealEnvelope agreement aead pub data ephemeral nonce, mode⟩ := by
  rw [keySeal] at done
  split at done
  · cases done
  · rename_i priv loaded
    split at done
    · cases done
    · rename_i pub chosen
      split at done
      · cases done
      · rename_i data found
        obtain ⟨mode, there⟩ := writeOutput_ok done
        exact ⟨priv, pub, data, mode, loaded, chosen, found, there⟩

/-- Whatever has happened to other files meanwhile, a file that was sealed is read by whoever holds
a private key of the public key it was sealed to; for anybody else nothing is written. -/
theorem sealed_file_opens (cipher : Ideal aead) (curve : agreement.Ideal)
    {desk after now : Desk} {keyFile : String} {sealTo input : Option String} {output : String}
    {ephemeral : SecretKey} {nonce : Block 12} {owner : SecretKey}
    (done : keySeal system console agreement aead desk keyFile sealTo input (some output) ephemeral
      nonce = (.ok (), after))
    (owned : ∀ priv, loadPrivateKey system desk.disk keyFile = .ok priv →
      recipient agreement priv sealTo = .ok (masterPubkey agreement owner))
    (kept : now.disk output = after.disk output) (later : System) (again : Console)
    {holderFile : String} {holder : SecretKey} {mode : UInt32}
    (held : now.disk holderFile = some ⟨holder.val, mode⟩)
    (readable : later.read holderFile = none ∧ later.read output = none)
    (plain : Option String) :
    ∃ data, readInput system console desk.disk input = .ok data ∧
      keyUnseal later again agreement aead now holderFile (some output) plain =
        if masterPubkey agreement holder = masterPubkey agreement owner then
          writeOutput later again now plain data
        else (.error (.message
          "unseal failed: failed to decrypt (wrong key or corrupted data)"), now) := by
  obtain ⟨priv, pub, data, envelopeMode, loaded, chosen, found, there⟩ := keySeal_ok done
  obtain rfl := Except.ok.inj ((owned priv loaded).symm.trans chosen)
  refine ⟨data, found, ?_⟩
  have sealed : readInput later again now.disk (some output) = .ok
      (sealEnvelope agreement aead (masterPubkey agreement owner) data ephemeral nonce) := by
    rw [readInput, read_eq (kept.trans there) readable.2]
  rw [keyUnseal, loadPrivateKey_eq held readable.1]
  dsimp only
  rw [sealed]
  dsimp only
  rw [SealedEnvelopes.opens_for_recipient cipher curve]
  by_cases same : masterPubkey agreement holder = masterPubkey agreement owner
  · rw [if_pos same, if_pos same]
  · rw [if_neg same, if_neg same]
    rfl

/-- A file that is sealed to the key of the machine and read again. -/
theorem own_file_opens :
    ∃ data, data = [1, 2] ∧
      keyUnseal .calm ⟨.ok [], none⟩ .ofFirstByte .labelled
        (keySeal .calm ⟨.ok [1, 2], none⟩ .ofFirstByte .labelled
          (Desk.withFile "k" (List.replicate 32 7)) "k" none none (some "e") (.replicate 32 9)
          (.replicate 12 0)).2 "k" (some "e") none =
        (.ok (), ⟨(keySeal .calm ⟨.ok [1, 2], none⟩ .ofFirstByte .labelled
          (Desk.withFile "k" (List.replicate 32 7)) "k" none none (some "e") (.replicate 32 9)
          (.replicate 12 0)).2.disk, data, []⟩) := by
  have done : keySeal .calm ⟨.ok [1, 2], none⟩ .ofFirstByte .labelled
      (Desk.withFile "k" (List.replicate 32 7)) "k" none none (some "e") (.replicate 32 9)
      (.replicate 12 0) = (.ok (), _) := rfl
  have owned : ∀ priv, loadPrivateKey .calm (Desk.withFile "k" (List.replicate 32 7)).disk "k" =
      .ok priv → recipient .ofFirstByte priv none =
        .ok (masterPubkey .ofFirstByte (.replicate 32 7)) := by
    intro priv loaded
    obtain rfl : Block.replicate 32 7 = priv := Except.ok.inj loaded
    rfl
  have held : (keySeal .calm ⟨.ok [1, 2], none⟩ .ofFirstByte .labelled
      (Desk.withFile "k" (List.replicate 32 7)) "k" none none (some "e") (.replicate 32 9)
      (.replicate 12 0)).2.disk "k" = some ⟨(Block.replicate 32 7).val, 0o600⟩ := rfl
  obtain ⟨data, found, opened⟩ := sealed_file_opens ideal_labelled ideal_ofFirstByte done owned rfl
    .calm ⟨.ok [], none⟩ held ⟨rfl, rfl⟩ none
  obtain rfl : [1, 2] = data := Except.ok.inj found
  exact ⟨[1, 2], rfl, opened.trans (if_pos rfl)⟩

end Talk.Verif.KeyFiles
