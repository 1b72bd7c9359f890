import Talk.Core.Config
import Talk.Verif.ClientSteps

/-!
# Accepted domains on the wire

The configuration's check looks at a copy of the domain without the whitespace at its ends, and
only for whitespace. HELLO splits the domain itself at spaces, the greeting ends at a line end
within the reader's limit, and a challenge is split at `|`. What each of them needs is compared
here with what the check ensures.
-/

namespace Talk.Verif.AcceptedDomains

open Talk.Core Protocol ByteStream Text ClientSteps
open Utf8 (bytes)

/-- The configuration's check accepts the domain. -/
def Accepted (domain : String) : Prop :=
  ∃ config : Config, config.general.domain = domain ∧
    (config.validate : Except (ConfigError Empty) Unit) = .ok ()

/-- A domain is accepted exactly when it is a word between whitespace. -/
theorem accepted_iff {domain : String} : Accepted domain ↔ IsToken (trim domain) := by
  constructor
  · intro ⟨config, same, valid⟩
    rw [← same]
    exact Config.validate_ok_iff.mp valid
  · intro token
    exact ⟨⟨⟨"", domain, "info"⟩, ⟨"", ""⟩, ⟨"", "", "", ""⟩, ⟨"", ""⟩, ⟨true, "", "", none⟩,
      ⟨.database⟩⟩, rfl, Config.validate_ok_iff.mpr token⟩

/-- A client that reads the greeting of a domain, whatever follows, knows the domain. -/
def Greets (domain : String) : Prop :=
  ∀ (sender : String) (rest : List UInt8), ∃ after : ZsmptClient,
    ZsmptClient.connect.run (ZsmptClient.opened
      ⟨bytes ("ZSMTP 1.0 " ++ domain) ++ crlf ++ rest, []⟩ sender) = .ok () after ∧
    after.receiverDomain = domain

/-- A domain that works by itself: it holds no whitespace, HELLO carries it and it greets. -/
structure Works (domain : String) : Prop where
  /-- No whitespace. -/
  solid : ∀ c ∈ domain.toList, isWhitespace c = false
  /-- HELLO is decoded to the domain. -/
  hello : decodeLine ("HELLO " ++ domain) = .ok (.hello domain)
  /-- The greeting announces the domain. -/
  greets : Greets domain

/-- Two domains that work, also in every challenge from one to the other. -/
def WorkTogether (sender receiver : String) : Prop :=
  Works sender ∧ Works receiver ∧
    ∀ challenge : Challenge, challenge.senderDomain = sender →
      challenge.receiverDomain = receiver →
      Challenge.fromWire challenge.toWire = some challenge

/-- What the wire needs of a domain beyond the configuration's check: no whitespace at its ends,
no separator of the challenge, and room for the greeting in a line. -/
structure Clean (domain : String) : Prop where
  /-- No whitespace at the ends. -/
  trimmed : trim domain = domain
  /-- No separator. -/
  single : '|' ∉ domain.toList
  /-- Room for the greeting. -/
  short : (bytes domain).length ≤ 4084

/-! ## The greeting -/

/-- The greeting adds ten bytes. -/
theorem length_greeting (domain : String) :
    (bytes ("ZSMTP 1.0 " ++ domain)).length = 10 + (bytes domain).length := by
  have start : (bytes "ZSMTP 1.0 ").length = 10 := by decide
  rw [Utf8.bytes_append, List.length_append, start]

/-- The greeting of a word is one line. -/
theorem greeting_free {domain : String} (solid : ∀ c ∈ domain.toList, isWhitespace c = false) :
    '\n' ∉ ("ZSMTP 1.0 " ++ domain).toList := by
  rw [String.toList_append, List.mem_append, not_or]
  exact ⟨by decide, fun member => absurd (solid _ member) (by decide)⟩

/-- The greeting of a word is understood exactly when it is short enough. -/
theorem greets_iff {domain : String} (token : IsToken domain) :
    Greets domain ↔ (bytes domain).length ≤ 4084 := by
  have free := greeting_free token.2
  have size := length_greeting domain
  have limit : maxLine = 4096 := rfl
  constructor
  · intro greets
    by_contra long
    obtain ⟨after, connected, -⟩ := greets "" []
    obtain ⟨greeting, middle, read, -⟩ := run_bind_ok.mp connected
    obtain ⟨stream, heard, -⟩ := ZsmptClient.onStream_ok_iff.mp read
    -- The line end counts, so the reader refuses the line.
    have unbroken : 10 ∉ bytes ("ZSMTP 1.0 " ++ domain) ++ [13] := by
      simpa using lf_free free
    have above : maxLine < (bytes ("ZSMTP 1.0 " ++ domain) ++ [13]).length + 1 := by
      rw [List.length_append, List.length_singleton]
      omega
    have refused := readLine_long unbroken above [] []
    have shape : bytes ("ZSMTP 1.0 " ++ domain) ++ crlf ++ [] =
        bytes ("ZSMTP 1.0 " ++ domain) ++ [13] ++ 10 :: [] := by
      simp [crlf]
    rw [ZsmptClient.opened, shape, refused] at heard
    cases heard
  · intro short sender rest
    have connected := connect_ok (ZsmptClient.opened ⟨[], []⟩ sender) token.1 free
      (by omega) rest []
    exact ⟨_, connected, rfl⟩

/-! ## The condition -/

/-- An accepted domain works by itself exactly when it is trimmed and short. -/
theorem works_iff {domain : String} (accepted : Accepted domain) :
    Works domain ↔ trim domain = domain ∧ (bytes domain).length ≤ 4084 := by
  constructor
  · intro works
    have trimmed := trim_free works.solid
    have token : IsToken domain := trimmed ▸ accepted_iff.mp accepted
    exact ⟨trimmed, (greets_iff token).mp works.greets⟩
  · intro ⟨trimmed, short⟩
    have token : IsToken domain := trimmed ▸ accepted_iff.mp accepted
    exact ⟨token.2, decodeLine_hello token.2, (greets_iff token).mpr short⟩

/-- Two accepted domains work together exactly when both are clean. -/
theorem accepted_domains_work_iff (sender receiver : String) (senderAccepted : Accepted sender)
    (receiverAccepted : Accepted receiver) :
    WorkTogether sender receiver ↔ Clean sender ∧ Clean receiver := by
  rw [WorkTogether, works_iff senderAccepted, works_iff receiverAccepted]
  constructor
  · intro ⟨senderWorks, receiverWorks, carries⟩
    have carried : (Challenge.mk sender receiver ⟨List.replicate 16 0, by simp⟩ 0).Carried :=
      Challenge.fromWire_toWire_iff.mp (carries _ rfl rfl)
    exact ⟨⟨senderWorks.1, carried.1, senderWorks.2⟩,
      ⟨receiverWorks.1, carried.2, receiverWorks.2⟩⟩
  · intro ⟨senderClean, receiverClean⟩
    refine ⟨⟨senderClean.trimmed, senderClean.short⟩,
      ⟨receiverClean.trimmed, receiverClean.short⟩, fun challenge from' to' => ?_⟩
    have carried : challenge.Carried := by
      rw [Challenge.Carried, from', to']
      exact ⟨senderClean.single, receiverClean.single⟩
    exact Challenge.fromWire_toWire_iff.mpr carried

/-- Two ordinary domains work together. -/
theorem plain_domains_work : WorkTogether "a.org" "b.org" :=
  (accepted_domains_work_iff "a.org" "b.org" (accepted_iff.mpr (by decide))
    (accepted_iff.mpr (by decide))).mpr
    ⟨⟨by decide, by decide, by decide⟩, ⟨by decide, by decide, by decide⟩⟩

/-- A domain with a blank at its end is accepted, and HELLO loses the blank. -/
theorem blank_accepted :
    ¬∀ sender receiver, Accepted sender → Accepted receiver → WorkTogether sender receiver := by
  intro always
  have accepted : Accepted "a.org " := accepted_iff.mpr (by decide)
  have read : decodeLine "HELLO a.org " = .ok (.hello "a.org") := by decide
  have kept := (always _ _ accepted accepted).1.hello
  rw [show "HELLO " ++ "a.org " = "HELLO a.org " from rfl, read] at kept
  exact absurd kept (by decide)

end Talk.Verif.AcceptedDomains
