import Talk.Lib.Words
import Talk.Protocol.Codec

/-!
# Commands encoded and decoded again

The encoder joins the fields of a command with spaces and looks at none of them. The decoder
takes the last field of ADDR and STATUS as it stands, the first word after HELLO and AUTH, and the
whitespace-separated words of an INVOICE line. So a HELLO domain with a space loses what follows
the space, and an INVOICE whose sender and message id are two words by chance is read with these
words as its fields; every other command is read back or refused.
-/

namespace Talk.Verif.CodecRoundTrip

open Protocol Text

/-! ## What decoding may change -/

/-- A command as its line carries it: the body of an INVOICE is not in the line. -/
def erased : Command → Command
  | .invoice sender messageId payload _ => .invoice sender messageId payload []
  | command => command

/-- The domain of a HELLO, and the sender and the message id of an INVOICE, are non-empty and free
of whitespace. -/
def Solid : Command → Prop
  | .hello domain => IsToken domain
  | .invoice sender messageId _ _ => IsToken sender ∧ IsToken messageId
  | _ => True

/-- The line of a command is decoded to the command or refused, and it is decoded if the fields
are solid. -/
def Kept (command : Command) : Prop :=
  (∀ other, decodeLine (encodeLine command) = .ok other → other = erased command) ∧
    (Solid command → decodeLine (encodeLine command) = .ok (erased command))

/-- The fields of a command cannot be mistaken for others: no space in a HELLO domain, and a
sender and a message id that are either one word each and nothing else, or not two words
together. -/
def Unmistakable : Command → Prop
  | .hello domain => ' ' ∉ domain.toList
  | .invoice sender messageId _ _ => (IsToken sender ∧ IsToken messageId) ∨
      (splitWhitespace sender).length + (splitWhitespace messageId).length ≠ 2
  | _ => True

/-! ## HELLO -/

/-- The piece before the first space is the decoded domain. -/
theorem decodeLine_hello_piece {first : String} (free : ' ' ∉ first.toList) (rest : String) :
    decodeLine ("HELLO " ++ (first ++ " " ++ rest)) = .ok (.hello first) := by
  have parts : splitn 3 ' ' ("HELLO" ++ " " ++ (first ++ " " ++ rest)) =
      ["HELLO", first, rest] := by
    rw [splitn_word (by decide) 1, splitn_word free 0, splitn_one]
  have verb : lineVerb ("HELLO" ++ " " ++ (first ++ " " ++ rest)) = "HELLO" := by
    rw [lineVerb_word (by decide)]
    decide
  change decodeLine ("HELLO" ++ " " ++ (first ++ " " ++ rest)) = _
  simp only [decodeLine, verb, parts, ↓reduceIte, List.getElem?_cons_succ,
    List.getElem?_cons_zero]

/-- A HELLO is kept exactly when its domain has no space. -/
theorem kept_hello_iff (domain : String) :
    Kept (.hello domain) ↔ ' ' ∉ domain.toList := by
  constructor
  · intro kept member
    obtain ⟨first, rest, shape, free⟩ := List.eq_append_cons_of_mem member
    have cut : domain = String.ofList first ++ " " ++ String.ofList rest :=
      String.ext (by simp [shape])
    have free : ' ' ∉ (String.ofList first).toList := by simpa using free
    have read : decodeLine ("HELLO " ++ domain) = .ok (.hello (String.ofList first)) := by
      rw [cut]
      exact decodeLine_hello_piece free _
    have same : String.ofList first = domain := by
      injection kept.1 _ read
    exact free (same ▸ member)
  · intro free
    have read := decodeLine_hello_free free
    refine ⟨fun other found => ?_, fun _ => read⟩
    rw [encodeLine, read] at found
    exact (Except.ok.inj found).symm

/-! ## INVOICE -/

/-- The words of an INVOICE line are those of its fields. -/
theorem splitWhitespace_invoice (sender messageId : String) (payload : Payload) :
    splitWhitespace ("INVOICE " ++ sender ++ " " ++ messageId ++ " " ++ payload.word) =
      "INVOICE" :: (splitWhitespace sender ++ splitWhitespace messageId) ++ [payload.word] := by
  have token : IsToken payload.word := by cases payload <;> decide
  have shape : "INVOICE " ++ sender ++ " " ++ messageId ++ " " ++ payload.word =
      "INVOICE" ++ " " ++ (sender ++ " " ++ messageId ++ " " ++ payload.word) := by
    simp only [String.ext_iff, String.toList_append]
    simp
  rw [shape, splitWhitespace_cons (by decide), splitWhitespace_space, splitWhitespace_space,
    splitWhitespace_token token]
  rfl

/-- An INVOICE line is decoded exactly when its fields are two words together, which become the
fields. -/
theorem decodeLine_invoice_ok_iff {sender messageId : String} {payload : Payload}
    {other : Command} :
    decodeLine ("INVOICE " ++ sender ++ " " ++ messageId ++ " " ++ payload.word) = .ok other ↔
      ∃ first second, splitWhitespace sender ++ splitWhitespace messageId = [first, second] ∧
        other = .invoice first second payload [] := by
  have known : payloadOf payload.word = some payload := by cases payload <;> decide
  have shape : "INVOICE " ++ sender ++ " " ++ messageId ++ " " ++ payload.word =
      "INVOICE" ++ " " ++ (sender ++ " " ++ messageId ++ " " ++ payload.word) := by
    simp only [String.ext_iff, String.toList_append]
    simp
  have verb : lineVerb ("INVOICE " ++ sender ++ " " ++ messageId ++ " " ++ payload.word) =
      "INVOICE" := by
    rw [shape, lineVerb_word (by decide)]
    decide
  simp only [decodeLine, verb, splitWhitespace_invoice, show ¬"INVOICE" = "HELLO" by decide,
    show ¬"INVOICE" = "AUTH" by decide, show ¬"INVOICE" = "ADDR" by decide, ↓reduceIte]
  generalize splitWhitespace sender ++ splitWhitespace messageId = words
  cases words with
  | nil => simp
  | cons first words =>
    cases words with
    | nil => simp
    | cons second words =>
      cases words with
      | nil => simp [known, eq_comm]
      | cons third rest => cases rest <;> simp

/-- An INVOICE is kept exactly when its fields are words, or are not two words together. -/
theorem kept_invoice_iff (sender messageId : String) (payload : Payload) (body : List UInt8) :
    Kept (.invoice sender messageId payload body) ↔
      (IsToken sender ∧ IsToken messageId) ∨
        (splitWhitespace sender).length + (splitWhitespace messageId).length ≠ 2 := by
  constructor
  · intro kept
    by_cases two : (splitWhitespace sender).length + (splitWhitespace messageId).length = 2
    swap
    · exact .inr two
    rw [← List.length_append] at two
    obtain ⟨first, second, words⟩ := List.length_eq_two.mp two
    have read := (@decodeLine_invoice_ok_iff _ _ payload _).mpr ⟨first, second, words, rfl⟩
    have same : first = sender ∧ second = messageId := by
      have whole := kept.1 (.invoice first second payload []) read
      simpa [erased] using whole
    have tokens : ∀ word ∈ [first, second], IsToken word := by
      intro word member
      rw [← words, List.mem_append] at member
      exact member.elim isToken_of_mem_splitWhitespace isToken_of_mem_splitWhitespace
    rw [← same.1, ← same.2]
    exact .inl ⟨tokens _ (by simp), tokens _ (by simp)⟩
  · intro condition
    refine ⟨fun other found => ?_, fun solid => ?_⟩
    · obtain ⟨first, second, words, rfl⟩ := decodeLine_invoice_ok_iff.mp found
      rcases condition with ⟨senderToken, idToken⟩ | other
      · rw [splitWhitespace_token senderToken, splitWhitespace_token idToken] at words
        cases words
        rfl
      · rw [← List.length_append, words] at other
        exact absurd rfl other
    · exact decodeLine_invoice solid.1 solid.2 payload

/-! ## Every command -/

/-- A command whose line is decoded to it is kept. -/
theorem kept_of_decoded {command : Command}
    (decoded : decodeLine (encodeLine command) = .ok (erased command)) : Kept command := by
  refine ⟨fun other found => ?_, fun _ => decoded⟩
  rw [decoded] at found
  exact (Except.ok.inj found).symm

/-- The codec keeps a command exactly when its fields cannot be mistaken. -/
theorem codec_keeps_iff (command : Command) : Kept command ↔ Unmistakable command := by
  cases command with
  | hello domain => exact kept_hello_iff domain
  | auth challenge => exact iff_of_true (kept_of_decoded (decodeLine_auth challenge)) trivial
  | addr mode user => exact iff_of_true (kept_of_decoded (decodeLine_addr mode user)) trivial
  | invoice sender messageId payload body =>
    exact kept_invoice_iff sender messageId payload body
  | status code message =>
    exact iff_of_true (kept_of_decoded (decodeLine_status code message)) trivial
  | quit => exact iff_of_true (kept_of_decoded decodeLine_quit) trivial

/-- A HELLO with two words is decoded to a HELLO with the first. -/
theorem spaced_hello_changed : ¬∀ command, Kept command := by
  intro kept
  have read : decodeLine (encodeLine (.hello "a.org b.org")) = .ok (.hello "a.org") := by decide
  exact absurd ((kept (.hello "a.org b.org")).1 _ read) (by decide)

end Talk.Verif.CodecRoundTrip
