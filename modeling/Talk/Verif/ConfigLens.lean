import Talk.Ctl.Config

/-!
# Setting a configuration key

`config set` reads the file, edits its tree at a dotted key, prints it, checks what it has printed
as a configuration, and only then writes. Up to the write, whatever fails leaves the file as it is.
The write itself empties the file before it fills it, and is not undone when it fails in between.
-/

namespace Talk.Verif.ConfigLens

open Ctl Talk.Core Text Paths
open Utf8 (bytes fromUtf8)

/-! ## A checked change -/

/-- The file holds a TOML document. -/
def Reads (toml : Toml) (file : File) (root : Toml.Value) : Prop :=
  ∃ contents text, file = some contents ∧ fromUtf8 contents = some text ∧
    toml.parse text = .ok root

/-- Neither of two dotted keys is a prefix of the other. -/
def Apart (key other : String) : Prop :=
  ¬split '.' other <+: split '.' key ∧ ¬split '.' key <+: split '.' other

/-- A file that holds a document is changed at one key, and is a valid configuration. -/
structure Changed (toml : Toml) (path key value : String) (before after : File) : Prop where
  /-- The validation of the file succeeds. -/
  valid : ∀ io, io.reading = none → configValidate toml io path after = .ok ()
  /-- The key has the value, and the other keys have theirs. -/
  changed : ∃ old new, Reads toml before old ∧ Reads toml after new ∧
    getPath new key = .ok (parseValue toml value) ∧
    ∀ other, Apart key other → getPath new other = getPath old other

/-- The command fails and leaves the file, or succeeds with the change made. -/
def Atomic (toml : Toml) (io : Io) (path : String) (file : File) (key value : String) : Prop :=
  let done := configSet toml io path file key value
  (∃ error, done.1 = .error error ∧ done.2 = file) ∨
    done.1 = .ok () ∧ Changed toml path key value file done.2

/-- The write fails after it has emptied the file: what is left is the front of a text with the
change made. -/
def CutShort (toml : Toml) (io : Io) (path : String) (file : File) (key value : String) : Prop :=
  ∃ out count error, io.writing = .cut count error ∧
    configSet toml io path file key value =
      (.error (.io error), some ((bytes out).take count)) ∧
    Changed toml path key value file (some (bytes out))

/-- What is printed is read back. -/
def RoundTrips (toml : Toml) : Prop :=
  ∀ root text, toml.pretty root = .ok text → toml.parse text = .ok root

/-! ## Dotted keys -/

/-- A key that is set was looked up, and the tree is updated at its path. -/
theorem setPath_ok {root new value : Toml.Value} {key : String}
    (updated : setPath root key value = .ok new) : setAt value root (split '.' key) = .ok new := by
  unfold setPath at updated
  cases step : setAt value root (split '.' key) with
  | error stop =>
    rw [step] at updated
    cases stop with
    | notTable part => cases updated
    | missing => cases updated
  | ok after =>
    rw [step] at updated
    exact congrArg Except.ok (Except.ok.inj updated)

/-- The key that was set has the value. -/
theorem getPath_setPath {root new value : Toml.Value} {key : String}
    (updated : setPath root key value = .ok new) : getPath new key = .ok value := by
  rw [getPath, getAt_setAt (setPath_ok updated)]

/-- Keys apart from the one that was set are looked up as before, errors included. -/
theorem getPath_setPath_other {root new value : Toml.Value} {key other : String}
    (updated : setPath root key value = .ok new) (apart : Apart key other) :
    getPath new other = getPath root other := by
  rw [getPath, getPath, getAt_setAt_other (setPath_ok updated) apart.1 apart.2]

/-! ## The command -/

/-- A file that is read holds the text. -/
theorem readToString_ok {io : Io} {file : File} {text : String}
    (read : io.readToString file = .ok text) :
    ∃ contents, file = some contents ∧ fromUtf8 contents = some text := by
  unfold Io.readToString at read
  cases failing : io.reading with
  | some error =>
    rw [failing] at read
    cases read
  | none =>
    rw [failing] at read
    cases file with
    | none => cases read
    | some contents =>
      dsimp only at read
      cases decoded : fromUtf8 contents with
      | none =>
        rw [decoded] at read
        cases read
      | some other =>
        rw [decoded] at read
        exact ⟨contents, rfl, congrArg some (Except.ok.inj read) ▸ decoded⟩

/-- A text that was written is read. -/
theorem readToString_bytes {io : Io} (readable : io.reading = none) (text : String) :
    io.readToString (some (bytes text)) = .ok text := by
  rw [Io.readToString, readable]
  dsimp only
  rw [Utf8.fromUtf8_bytes]

/-- A text that is read, changed, printed and valid is written. -/
theorem configSet_writes {toml : Toml} {io : Io} {path key value raw out : String} {file : File}
    {old new : Toml.Value} {config : Core.Config} (text : io.readToString file = .ok raw)
    (read : toml.parse raw = .ok old) (updated : setPath old key (parseValue toml value) = .ok new)
    (printed : toml.pretty new = .ok out) (valid : Core.Config.parse toml.config out = .ok config) :
    configSet toml io path file key value =
      ((io.write file out).1.mapError .io, (io.write file out).2) := by
  rw [configSet, readToml, text]
  dsimp only
  rw [read]
  dsimp only
  rw [updated]
  dsimp only
  rw [printed]
  dsimp only
  rw [valid]
  dsimp only
  generalize io.write file out = ending
  obtain ⟨result, after⟩ := ending
  cases result with
  | error error => rfl
  | ok done => rfl

/-- The command fails before the write and leaves the file, or writes a text that is valid and is
printed from the changed tree. -/
theorem configSet_cases (toml : Toml) (io : Io) (path : String) (file : File) (key value : String) :
    (∃ error, configSet toml io path file key value = (.error error, file)) ∨
    ∃ old new out config, Reads toml file old ∧
      setPath old key (parseValue toml value) = .ok new ∧ toml.pretty new = .ok out ∧
      Core.Config.parse toml.config out = .ok config ∧
      configSet toml io path file key value =
        ((io.write file out).1.mapError .io, (io.write file out).2) := by
  cases text : io.readToString file with
  | error error =>
    refine .inl ⟨.message ("cannot read config " ++ path ++ ": " ++ error), ?_⟩
    rw [configSet, readToml, text]
  | ok raw =>
    cases read : toml.parse raw with
    | error error =>
      refine .inl ⟨.message ("malformed config: " ++ error), ?_⟩
      rw [configSet, readToml, text]
      dsimp only
      rw [read]
    | ok old =>
      have root : readToml toml io path file = .ok old := by
        rw [readToml, text]
        dsimp only
        rw [read]
      cases updated : setPath old key (parseValue toml value) with
      | error error =>
        refine .inl ⟨error, ?_⟩
        rw [configSet, root]
        dsimp only
        rw [updated]
      | ok new =>
        cases printed : toml.pretty new with
        | error error =>
          refine .inl ⟨.message error, ?_⟩
          rw [configSet, root]
          dsimp only
          rw [updated]
          dsimp only
          rw [printed]
        | ok out =>
          cases valid : Core.Config.parse toml.config out with
          | error error =>
            refine .inl ⟨.refusing error, ?_⟩
            rw [configSet, root]
            dsimp only
            rw [updated]
            dsimp only
            rw [printed]
            dsimp only
            rw [valid]
          | ok config =>
            obtain ⟨contents, held, decoded⟩ := readToString_ok text
            exact .inr ⟨old, new, out, config, ⟨contents, raw, held, decoded, read⟩, updated,
              printed, valid, configSet_writes text read updated printed valid⟩

/-- A text that is printed from the changed tree and is valid has the change made. -/
theorem changed_of_pretty {toml : Toml} (law : RoundTrips toml) {path key value out : String}
    {file : File} {old new : Toml.Value} {config : Core.Config} (reads : Reads toml file old)
    (updated : setPath old key (parseValue toml value) = .ok new)
    (printed : toml.pretty new = .ok out) (valid : Core.Config.parse toml.config out = .ok config) :
    Changed toml path key value file (some (bytes out)) := by
  refine ⟨fun io readable => ?_, old, new, reads, ⟨bytes out, out, rfl, Utf8.fromUtf8_bytes out,
    law new out printed⟩, getPath_setPath updated, fun other apart =>
      getPath_setPath_other updated apart⟩
  rw [configValidate, readToString_bytes readable out]
  have loaded : Core.Config.load toml.config path (some out) = .ok config :=
    Core.Config.load_ok_iff.mpr valid
  rw [Except.toOption, loaded]

/-- Setting a key fails and leaves the file, or succeeds with the change made, unless the write
itself is cut short. -/
theorem configSet_atomic {toml : Toml} (law : RoundTrips toml) (io : Io) (path : String)
    (file : File) (key value : String) :
    Atomic toml io path file key value ∨ CutShort toml io path file key value := by
  rcases configSet_cases toml io path file key value with
    ⟨error, refused⟩ | ⟨old, new, out, config, reads, updated, printed, valid, done⟩
  · refine .inl (.inl ⟨error, ?_, ?_⟩)
    · rw [refused]
    · rw [refused]
  · have changed : Changed toml path key value file (some (bytes out)) :=
      changed_of_pretty law reads updated printed valid
    rw [Io.write] at done
    cases ending : io.writing with
    | whole =>
      rw [ending] at done
      refine .inl (.inr ⟨?_, ?_⟩)
      · rw [done]
        rfl
      · rw [done]
        exact changed
    | refused error =>
      rw [ending] at done
      refine .inl (.inl ⟨.io error, ?_, ?_⟩)
      · rw [done]
        rfl
      · rw [done]
    | cut count error =>
      rw [ending] at done
      exact .inr ⟨out, count, error, ending, done, changed⟩

/-- A file that holds a document is looked up in it. -/
theorem configGet_reads {toml : Toml} {file : File} {root : Toml.Value}
    (reads : Reads toml file root) {io : Io} (readable : io.reading = none) (path key : String) :
    configGet toml io path file key = (getPath root key).mapError .message := by
  obtain ⟨contents, text, rfl, decoded, parsed⟩ := reads
  have read : io.readToString (some contents) = .ok text := by
    rw [Io.readToString, readable]
    dsimp only
    rw [decoded]
  rw [configGet, readToml, read]
  dsimp only
  rw [parsed]
  dsimp only
  cases getPath root key with
  | error error => rfl
  | ok value => rfl

/-- After a key was set, `config get` prints its value, and for every key apart from it what it
printed before, errors included. -/
theorem get_after_set {toml : Toml} (law : RoundTrips toml) {io : Io} {path key value : String}
    {file after : File} (set : configSet toml io path file key value = (.ok (), after)) {next : Io}
    (readable : next.reading = none) :
    configGet toml next path after key = .ok (parseValue toml value) ∧
      ∀ other, Apart key other →
        configGet toml next path after other = configGet toml next path file other := by
  rcases configSet_atomic law io path file key value with
    (⟨error, failed, -⟩ | ⟨-, change⟩) | ⟨out, count, error, -, failed, -⟩
  · rw [set] at failed
    cases failed
  · rw [set] at change
    obtain ⟨old, new, before, later, here, others⟩ := change.changed
    refine ⟨?_, fun other apart => ?_⟩
    · rw [configGet_reads later readable, here]
      rfl
    · rw [configGet_reads later readable, configGet_reads before readable, others other apart]
  · rw [set] at failed
    cases failed

/-! ## A configuration -/

/-- The tree of a configuration with a domain. -/
def sampleRoot (domain : String) : Toml.Value :=
  .table [
    ("general", .table [("data_dir", .string "/var/lib/talk"), ("domain", .string domain)]),
    ("mailbox", .table [("wallet_dir", .string "wallets")]),
    ("network", .table [("indexer_url", .string "zec.rocks:9067"), ("send_endpoint", .string "")]),
    ("sockets", .table [("imap_listen", .string "127.0.0.1:1143"),
      ("secure_mailbox", .string "mailbox.sock"), ("zsmtp", .string "zsmtp.sock"),
      ("zsmtp_listen", .string "0.0.0.0:465")]),
    ("tls", .table [("cert", .string "cert.pem"), ("key", .string "key.pem")])]

/-- The text of that tree up to the domain. -/
def sampleStart : String := "[general]\ndata_dir = \"/var/lib/talk\"\ndomain = \""

/-- The text of that tree behind the domain. -/
def sampleRest : String :=
  "\"\n\n[mailbox]\nwallet_dir = \"wallets\"\n\n"
    ++ "[network]\nindexer_url = \"zec.rocks:9067\"\nsend_endpoint = \"\"\n\n"
    ++ "[sockets]\nimap_listen = \"127.0.0.1:1143\"\nsecure_mailbox = \"mailbox.sock\"\n"
    ++ "zsmtp = \"zsmtp.sock\"\nzsmtp_listen = \"0.0.0.0:465\"\n\n"
    ++ "[tls]\ncert = \"cert.pem\"\nkey = \"key.pem\"\n"

/-- The text of that tree. -/
def sampleText (domain : String) : String := sampleStart ++ domain ++ sampleRest

/-- The record of that text. -/
def sampleConfig (domain : String) : Core.Config :=
  ⟨⟨"/var/lib/talk", domain, "info"⟩, ⟨"zec.rocks:9067", ""⟩,
    ⟨"mailbox.sock", "zsmtp.sock", "0.0.0.0:465", "127.0.0.1:1143"⟩, ⟨"cert.pem", "key.pem"⟩,
    ⟨true, "", "wallets", none⟩, ⟨.database⟩⟩

/-- TOML, as far as that configuration with two domains is concerned. -/
def sample : Toml where
  parse text :=
    if text = sampleText "talk.local" then .ok (sampleRoot "talk.local")
    else if text = sampleText "b.org" then .ok (sampleRoot "b.org")
    else .error "key with no value, expected `=`"
  pretty root :=
    if root = sampleRoot "talk.local" then .ok (sampleText "talk.local")
    else if root = sampleRoot "b.org" then .ok (sampleText "b.org")
    else .error "unsupported"
  config text :=
    if text = sampleText "talk.local" then .ok (sampleConfig "talk.local")
    else if text = sampleText "b.org" then .ok (sampleConfig "b.org")
    else .error "missing field `general`"

/-- Texts for different domains differ. -/
theorem sampleText_ne {left right : String} (different : left ≠ right) :
    sampleText left ≠ sampleText right := by
  unfold sampleText
  intro same
  have starts : sampleStart ++ left = sampleStart ++ right := (String.append_left_inj _).mp same
  exact different ((String.append_right_inj _).mp starts)

/-- The text starts with the bracket of its first table. -/
theorem head_sampleText (domain : String) : (sampleText domain).toList.head? = some '[' := by
  have start : sampleStart.toList.head? = some '[' := by decide
  rw [sampleText, String.append_assoc, String.toList_append, List.head?_append, start]
  rfl

/-- What is printed of it is read back. -/
theorem roundTrips_sample : RoundTrips sample := by
  intro root text printed
  have differ : sampleText "b.org" ≠ sampleText "talk.local" := sampleText_ne (by decide)
  unfold sample at printed ⊢
  dsimp only at printed ⊢
  by_cases first : root = sampleRoot "talk.local"
  · rw [if_pos first] at printed
    rw [← Except.ok.inj printed, if_pos rfl, first]
  · rw [if_neg first] at printed
    by_cases second : root = sampleRoot "b.org"
    · rw [if_pos second] at printed
      rw [← Except.ok.inj printed, if_neg differ, if_pos rfl, second]
    · rw [if_neg second] at printed
      cases printed

/-- The file of the first domain. -/
def sampleFile : File := some (bytes (sampleText "talk.local"))

/-- A domain that is set is written. -/
theorem sample_writes (writing : Written) :
    configSet sample ⟨none, writing⟩ "config.toml" sampleFile "general.domain" "b.org" =
      (((⟨none, writing⟩ : Io).write sampleFile (sampleText "b.org")).1.mapError .io,
        ((⟨none, writing⟩ : Io).write sampleFile (sampleText "b.org")).2) := by
  have differ : sampleText "b.org" ≠ sampleText "talk.local" := sampleText_ne (by decide)
  have text : (⟨none, writing⟩ : Io).readToString sampleFile = .ok (sampleText "talk.local") := by
    rw [sampleFile]
    exact readToString_bytes rfl (sampleText "talk.local")
  have value : parseValue sample "b.org" = .string "b.org" := by
    have other (domain : String) : "b.org" ≠ sampleText domain := by
      intro same
      have heads := head_sampleText domain
      rw [← same] at heads
      exact absurd heads (by decide)
    have refused : sample.parse "b.org" = .error "key with no value, expected `=`" := by
      rw [sample]
      dsimp only
      rw [if_neg (other _), if_neg (other _)]
    rw [parseValue, if_neg (by decide), refused]
  have updated : setPath (sampleRoot "talk.local") "general.domain" (parseValue sample "b.org") =
      .ok (sampleRoot "b.org") := by
    rw [value]
    decide +kernel
  have printed : sample.pretty (sampleRoot "b.org") = .ok (sampleText "b.org") := by
    have other : sampleRoot "b.org" ≠ sampleRoot "talk.local" := by decide +kernel
    rw [sample]
    dsimp only
    rw [if_neg other, if_pos rfl]
  have valid : Core.Config.parse sample.config (sampleText "b.org") =
      .ok (sampleConfig "b.org") := by
    have config : sample.config (sampleText "b.org") = .ok (sampleConfig "b.org") := by
      rw [sample]
      dsimp only
      rw [if_neg differ, if_pos rfl]
    rw [Core.Config.parse, config]
    rfl
  have read : sample.parse (sampleText "talk.local") = .ok (sampleRoot "talk.local") := by
    rw [sample]
    dsimp only
    rw [if_pos rfl]
  exact configSet_writes text read updated printed valid

/-- The domain is set. -/
theorem domain_set :
    (configSet sample ⟨none, .whole⟩ "config.toml" sampleFile "general.domain" "b.org").1 =
        .ok () ∧
      (Atomic sample ⟨none, .whole⟩ "config.toml" sampleFile "general.domain" "b.org" ∨
        CutShort sample ⟨none, .whole⟩ "config.toml" sampleFile "general.domain" "b.org") :=
  ⟨congrArg Prod.fst (sample_writes .whole),
    configSet_atomic roundTrips_sample ⟨none, .whole⟩ "config.toml" sampleFile "general.domain"
      "b.org"⟩

/-- The domain that was set is printed, and the directory as before. -/
theorem domain_printed :
    let io : Io := ⟨none, .whole⟩
    let after : File := some (bytes (sampleText "b.org"))
    configSet sample io "config.toml" sampleFile "general.domain" "b.org" = (.ok (), after) ∧
      configGet sample io "config.toml" after "general.domain" = .ok (parseValue sample "b.org") ∧
      configGet sample io "config.toml" after "general.data_dir" =
        configGet sample io "config.toml" sampleFile "general.data_dir" := by
  intro io after
  have set : configSet sample io "config.toml" sampleFile "general.domain" "b.org" =
      (.ok (), after) := sample_writes .whole
  have readable : io.reading = none := rfl
  obtain ⟨here, others⟩ := get_after_set roundTrips_sample set readable
  exact ⟨set, here, others "general.data_dir" ⟨by decide, by decide⟩⟩

/-- On a full disk the file is lost. -/
theorem full_disk_empties :
    ¬∀ (toml : Toml) (io : Io) (path : String) (file : File) (key value : String),
      RoundTrips toml → Atomic toml io path file key value := by
  intro all
  let full : Io := ⟨none, .cut 0 "No space left on device (os error 28)"⟩
  have atomic := all sample full "config.toml" sampleFile "general.domain" "b.org"
    roundTrips_sample
  have lost : configSet sample full "config.toml" sampleFile "general.domain" "b.org" =
      (.error (.io "No space left on device (os error 28)"), some []) :=
    sample_writes _
  have held : sampleFile ≠ some [] := by
    intro same
    have empty : fromUtf8 [] = some (sampleText "talk.local") := by
      rw [← Option.some.inj same, Utf8.fromUtf8_bytes]
    have heads := head_sampleText "talk.local"
    rw [← Option.some.inj empty] at heads
    exact absurd heads (by decide)
  rw [Atomic, lost] at atomic
  rcases atomic with ⟨error, -, same⟩ | ⟨succeeded, -⟩
  · exact held same.symm
  · cases succeeded

end Talk.Verif.ConfigLens
