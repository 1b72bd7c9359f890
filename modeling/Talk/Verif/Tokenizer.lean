import Talk.Imap.Parse
import Talk.Lib.Loop
import Talk.Verif.Pipelining

/-!
# When the tokenizer ends

The main loop of the tokenizer, pass by pass, and the loop of `feed` around it. A pass that finds
a closing parenthesis where no list and no quoted string is open takes an empty atom and stays
where it is. A line ends the loop exactly when it has no such parenthesis, and a feed returns
exactly when no line that it comes to parse has one.
-/

namespace Talk.Verif.Tokenizer

open Imap Text Loop Pipelining

/-! ## The main loop of `tokenize` -/

/-- The state of the main loop: the tokens so far and the characters from the position on. -/
structure Scan where
  /-- The tokens. -/
  tokens : List String
  /-- The characters that are left. -/
  rest : List Char
  deriving DecidableEq

/-- The state before the first pass over a line. -/
def Scan.start (line : List UInt8) : Scan := ⟨[], (Utf8.fromUtf8Lossy line).toList⟩

/-- One pass of the main loop. -/
def tokenizePass (scan : Scan) : Pass Scan (Except ParseError (List String)) :=
  match scan.rest with
  | [] => .exit (.ok scan.tokens)
  | c :: rest =>
    if isWhitespace c then .next ⟨scan.tokens, rest⟩
    else if c = '(' then
      match closingParen 1 rest with
      | none => .exit (.error .unclosedQuote)
      | some (inside, after) => .next ⟨scan.tokens ++ [String.ofList (c :: inside)], after⟩
    else if c = '"' then
      match closingQuote rest with
      | none => .exit (.error .unclosedQuote)
      | some (inside, after) => .next ⟨scan.tokens ++ [String.ofList inside], after⟩
    else
      -- At a closing parenthesis the atom is empty, and the position stays.
      .next ⟨scan.tokens ++ [String.ofList ((c :: rest).takeWhile isAtomChar)],
        (c :: rest).dropWhile isAtomChar⟩

/-- A pass leaves fewer characters, so the position has moved on. -/
def Advances (scan : Scan) : Prop :=
  ∀ after, tokenizePass scan = .next after → after.rest.length < scan.rest.length

/-! ## The loop of `feed` -/

/-- What `feed` is at: between two lines, or in the tokenizer with one. -/
inductive Task where
  /-- The reader looks for a literal or a line. -/
  | reading (cmds : List ParsedCommand) (reader : CommandReader)
  /-- A command line is tokenized. -/
  | scanning (cmds : List ParsedCommand) (reader : CommandReader) (scan : Scan)

/-- The command that the tokens of a line make. -/
def commandOf : List String → Option ParsedCommand
  | [] => none
  | [name] => some ⟨"", toAsciiUppercase name, []⟩
  | tag :: name :: args => some ⟨tag, toAsciiUppercase name, args⟩

/-- What `feed` returns, and the reader that it leaves. -/
abbrev Returned := Except ParseError (List ParsedCommand) × CommandReader

/-- One pass of the loop of `feed`, or of the tokenizer in it. -/
def feedPass : Task → Pass Task Returned
  | .reading cmds reader =>
    match reader.literalRemaining with
    | some count =>
      let taken := reader.buf.take count
      let reader := { reader with
        buf := reader.buf.drop count, pendingLine := reader.pendingLine ++ taken }
      if taken.length < count then
        .exit (.ok cmds, { reader with literalRemaining := some (count - taken.length) })
      else .next (.reading cmds { reader with literalRemaining := none })
    | none =>
      match nextLine reader.buf with
      | none => .exit (.ok cmds, reader)
      | some (line, after) =>
        if line ≠ [] ∧ line.getLast? ≠ some 13 then
          .exit (.error .unterminated, { reader with buf := [] })
        else
          match literalCount line.dropLast with
          | some (count, marker) =>
            .exit (.ok cmds, ⟨after,
              reader.pendingLine ++ line.dropLast.take (line.dropLast.length - marker),
              some count⟩)
          | none =>
            .next (.scanning cmds ⟨after, [], none⟩
              (Scan.start (reader.pendingLine ++ line.dropLast)))
  | .scanning cmds reader scan =>
    match tokenizePass scan with
    | .next scan => .next (.scanning cmds reader scan)
    | .exit (.error error) => .exit (.error error, reader)
    | .exit (.ok tokens) =>
      match commandOf tokens with
      | none => .exit (.error .invalidCommand, reader)
      | some cmd => .next (.reading (cmds ++ [cmd]) reader)

/-- The task that a feed begins with. -/
def Task.start (reader : CommandReader) (data : List UInt8) : Task :=
  .reading [] { reader with buf := reader.buf ++ data }

/-! ## Lines with a stray parenthesis -/

/-- Where a character stands. -/
inductive Mode where
  /-- Outside lists and quoted strings. -/
  | outside
  /-- In a list, with so many parentheses open; quotes mean nothing there. -/
  | list (depth : Nat)
  /-- In a quoted string. -/
  | quoted
  /-- In a quoted string, after a backslash. -/
  | escaped
  deriving DecidableEq

/-- Where the next character stands. -/
def Mode.step : Mode → Char → Mode
  | .outside, c => if c = '(' then .list 1 else if c = '"' then .quoted else .outside
  | .list depth, c =>
    if c = '(' then .list (depth + 1)
    else if c = ')' then if depth = 1 then .outside else .list (depth - 1)
    else .list depth
  | .quoted, c => if c = '"' then .outside else if c = '\\' then .escaped else .quoted
  | .escaped, _ => .quoted

/-- Where the character after a text stands. -/
def Mode.after (mode : Mode) (text : List Char) : Mode := text.foldl Mode.step mode

/-- A closing parenthesis stands outside lists and quoted strings. -/
def Strays (mode : Mode) (text : List Char) : Prop :=
  ∃ before rest, text = before ++ ')' :: rest ∧ mode.after before = .outside

/-- A line has a closing parenthesis outside lists and quoted strings. -/
def StrayLine (line : List UInt8) : Prop := Strays .outside (Utf8.fromUtf8Lossy line).toList

/-- A line is that of a command: no parenthesis strays, every list and every quoted string is
closed, and something is there beside spaces. -/
def CommandLine (line : List UInt8) : Prop :=
  let text := (Utf8.fromUtf8Lossy line).toList
  ¬Strays .outside text ∧ Mode.after .outside text = .outside ∧ ∃ c ∈ text, isWhitespace c = false

/-- The command lines that the bytes of a reader complete, each with its literals, up to a line
that ends wrongly or asks for a literal. At most so many rounds are made. -/
def completeLines : Nat → CommandReader → List (List UInt8)
  | 0, _ => []
  | rounds + 1, reader =>
    match reader.literalRemaining with
    | some count =>
      if (reader.buf.take count).length < count then []
      else completeLines rounds
        ⟨reader.buf.drop count, reader.pendingLine ++ reader.buf.take count, none⟩
    | none =>
      match nextLine reader.buf with
      | none => []
      | some (line, after) =>
        if line ≠ [] ∧ line.getLast? ≠ some 13 then []
        else if (literalCount line.dropLast).isSome then []
        else (reader.pendingLine ++ line.dropLast) :: completeLines rounds ⟨after, [], none⟩

/-- The command lines that a reader has after it receives bytes. -/
def linesWith (reader : CommandReader) (data : List UInt8) : List (List UInt8) :=
  completeLines (2 * (reader.buf ++ data).length + 2) { reader with buf := reader.buf ++ data }

/-- The first line that is not that of a command has a stray parenthesis. -/
def MeetsStray (lines : List (List UInt8)) : Prop :=
  ∃ before line rest, lines = before ++ line :: rest ∧ (∀ earlier ∈ before, CommandLine earlier) ∧
    StrayLine line

/-! ## Modes -/

/-- A parenthesis strays at the first character or after it. -/
theorem strays_cons (mode : Mode) (c : Char) (rest : List Char) :
    Strays mode (c :: rest) ↔ (mode = .outside ∧ c = ')') ∨ Strays (mode.step c) rest := by
  constructor
  · rintro ⟨before, after, cut, stands⟩
    cases before with
    | nil => exact .inl ⟨stands, (List.cons.inj cut).1⟩
    | cons first before =>
      have parts := List.cons.inj cut
      exact .inr ⟨before, after, parts.2, parts.1 ▸ stands⟩
  · rintro (⟨rfl, rfl⟩ | ⟨before, after, rfl, stands⟩)
    · exact ⟨[], rest, rfl, rfl⟩
    · exact ⟨c :: before, after, rfl, stands⟩

/-- Nothing strays in the empty text. -/
theorem not_strays_nil (mode : Mode) : ¬Strays mode [] := by
  rintro ⟨before, after, cut, _⟩
  simp at cut

/-- From a mode, a text comes to the same as a later part of it from outside. -/
structure Resumes (mode : Mode) (text after : List Char) : Prop where
  /-- The same parentheses stray. -/
  strays : Strays mode text ↔ Strays .outside after
  /-- The mode at the end is the same. -/
  last : mode.after text = Mode.outside.after after

/-- A list or a quoted string is open at the end, and nothing strays before. -/
structure Unclosed (mode : Mode) (text : List Char) : Prop where
  /-- Nothing strays. -/
  strays : ¬Strays mode text
  /-- The text does not end outside. -/
  last : mode.after text ≠ .outside

/-- Characters other than a stray parenthesis can be put before. -/
theorem Resumes.cons {mode : Mode} {c : Char} {rest after : List Char}
    (other : ¬(mode = .outside ∧ c = ')')) (resumes : Resumes (mode.step c) rest after) :
    Resumes mode (c :: rest) after := by
  have moved := strays_cons mode c rest
  rw [or_iff_right other] at moved
  exact ⟨moved.trans resumes.strays, resumes.last⟩

/-- Characters other than a stray parenthesis can be put before. -/
theorem Unclosed.cons {mode : Mode} {c : Char} {rest : List Char}
    (other : ¬(mode = .outside ∧ c = ')')) (unclosed : Unclosed (mode.step c) rest) :
    Unclosed mode (c :: rest) := by
  have moved := strays_cons mode c rest
  rw [or_iff_right other] at moved
  exact ⟨fun strays => unclosed.strays (moved.mp strays), unclosed.last⟩

/-- What follows the end of a list or of a quoted string, in a text that begins in the mode of its
inside; nothing, if it has no end. -/
def Found (mode : Mode) (text : List Char) : Option (List Char) → Prop
  | none => Unclosed mode text
  | some after => Resumes mode text after ∧ after.length < text.length

/-- The search goes on over a character that is inside. -/
theorem Found.cons {mode : Mode} {c : Char} {rest : List Char} {found : Option (List Char)}
    (inside : mode ≠ .outside) (later : Found (mode.step c) rest found) :
    Found mode (c :: rest) found := by
  have other : ¬(mode = .outside ∧ c = ')') := fun both => inside both.1
  cases found with
  | none => exact Unclosed.cons other later
  | some after => exact ⟨Resumes.cons other later.1, Nat.lt_succ_of_lt later.2⟩

/-- The search ends at a character after which the mode is outside. -/
theorem Found.last {mode : Mode} {c : Char} (rest : List Char) (inside : mode ≠ .outside)
    (closes : mode.step c = .outside) : Found mode (c :: rest) (some rest) := by
  have other : ¬(mode = .outside ∧ c = ')') := fun both => inside both.1
  have resumes : Resumes (mode.step c) rest rest := by
    rw [closes]
    exact ⟨Iff.rfl, rfl⟩
  exact ⟨Resumes.cons other resumes, Nat.lt_succ_self _⟩

/-- A list stays open at a character that does not close it. -/
theorem list_step {c : Char} {depth : Nat} (stays : ¬(c = ')' ∧ depth = 1)) :
    (Mode.list depth).step c =
      .list (if c = '(' then depth + 1 else if c = ')' then depth - 1 else depth) := by
  change (if c = '(' then _ else _) = _
  by_cases opens : c = '('
  · rw [if_pos opens, if_pos opens]
  · rw [if_neg opens, if_neg opens]
    by_cases closes : c = ')'
    · rw [if_pos closes, if_pos closes, if_neg fun one => stays ⟨closes, one⟩]
    · rw [if_neg closes, if_neg closes]

/-- A list that stays open has a parenthesis open. -/
theorem list_depth {c : Char} {depth : Nat} (inside : 0 < depth)
    (stays : ¬(c = ')' ∧ depth = 1)) :
    0 < if c = '(' then depth + 1 else if c = ')' then depth - 1 else depth := by
  by_cases opens : c = '('
  · rw [if_pos opens]
    omega
  · rw [if_neg opens]
    by_cases closes : c = ')'
    · have deeper : depth ≠ 1 := fun one => stays ⟨closes, one⟩
      rw [if_pos closes]
      omega
    · rwa [if_neg closes]

/-- The end of a list is found where the mode is outside again. -/
theorem closingParen_found (text : List Char) {depth : Nat} (inside : 0 < depth) :
    Found (.list depth) text ((closingParen depth text).map Prod.snd) := by
  induction text generalizing depth with
  | nil => exact ⟨not_strays_nil _, nofun⟩
  | cons c rest ih =>
    rw [closingParen]
    by_cases last : c = ')' ∧ depth = 1
    · rw [if_pos last]
      exact Found.last rest Mode.noConfusion (by simp [Mode.step, last])
    · rw [if_neg last, Option.map_map]
      have found := ih (list_depth inside last)
      rw [← list_step last] at found
      exact Found.cons Mode.noConfusion found

/-- The end of a quoted string is found where the mode is outside again. -/
theorem closingQuote_found (text : List Char) :
    Found .quoted text ((closingQuote text).map Prod.snd) := by
  fun_induction closingQuote text with
  | case1 => exact ⟨not_strays_nil _, nofun⟩
  | case2 rest => exact Found.last rest Mode.noConfusion rfl
  | case3 c rest ih =>
    rw [Option.map_map]
    exact Found.cons Mode.noConfusion (Found.cons Mode.noConfusion ih)
  | case4 c rest noQuote noEscape ih =>
    rw [Option.map_map]
    have noQuote : c ≠ '"' := fun same => noQuote same
    by_cases escape : c = '\\'
    · have last : rest = [] := by
        cases rest with
        | nil => rfl
        | cons next rest => exact absurd rfl (noEscape next rest escape)
      subst last
      exact Found.cons Mode.noConfusion ⟨not_strays_nil _, by simp [escape, Mode.after, Mode.step]⟩
    · refine Found.cons Mode.noConfusion ?_
      have stays : Mode.quoted.step c = .quoted := by simp [Mode.step, noQuote, escape]
      rw [stays]
      exact ih

/-- A character that opens nothing and closes nothing can be put before. -/
theorem Resumes.plain {c : Char} {rest after : List Char} (noParen : c ≠ ')') (noList : c ≠ '(')
    (noQuote : c ≠ '"') (resumes : Resumes .outside rest after) :
    Resumes .outside (c :: rest) after := by
  have stays : Mode.outside.step c = .outside := by simp [Mode.step, noList, noQuote]
  refine Resumes.cons (fun both => noParen both.2) ?_
  rw [stays]
  exact resumes

/-- An atom leaves the mode outside. -/
theorem atom_resumes (text : List Char) :
    Resumes .outside text (text.dropWhile isAtomChar) := by
  induction text with
  | nil => exact ⟨Iff.rfl, rfl⟩
  | cons c rest ih =>
    by_cases atom : isAtomChar c = true
    · rw [List.dropWhile_cons_of_pos atom]
      simp only [isAtomChar, Bool.and_eq_true, bne_iff_ne] at atom
      exact ih.plain atom.1.2 atom.1.1.2 atom.2
    · rw [List.dropWhile_cons_of_neg atom]
      exact ⟨Iff.rfl, rfl⟩

/-! ## Passes -/

/-- A pass leads on past some characters that are not all spaces, or past a space. -/
structure Moves (scan after : Scan) : Prop where
  /-- Fewer characters are left. -/
  shorter : after.rest.length < scan.rest.length
  /-- The rest of the line is read as before. -/
  resumes : Resumes .outside scan.rest after.rest
  /-- A token is added, or a space is passed. -/
  added : (∃ token, after.tokens = scan.tokens ++ [token] ∧
      ∃ c ∈ scan.rest, isWhitespace c = false) ∨
    (after.tokens = scan.tokens ∧ ∃ c, isWhitespace c = true ∧ scan.rest = c :: after.rest)

/-- All that one pass can do. -/
theorem tokenizePass_cases (scan : Scan) :
    (scan.rest = [] ∧ tokenizePass scan = .exit (.ok scan.tokens)) ∨
    (Unclosed .outside scan.rest ∧ tokenizePass scan = .exit (.error .unclosedQuote)) ∨
    (scan.rest.head? = some ')' ∧
      tokenizePass scan = .next { scan with tokens := scan.tokens ++ [""] }) ∨
    (scan.rest.head? ≠ some ')' ∧
      ∃ after, tokenizePass scan = .next after ∧ Moves scan after) := by
  obtain ⟨out, text⟩ := scan
  cases text with
  | nil => exact .inl ⟨rfl, rfl⟩
  | cons c rest =>
    right
    unfold tokenizePass
    dsimp only
    by_cases space : isWhitespace c = true
    · rw [if_pos space]
      have noParen : c ≠ ')' := fun same => by
        rw [same] at space
        exact absurd space (by decide)
      have noList : c ≠ '(' := fun same => by
        rw [same] at space
        exact absurd space (by decide)
      have noQuote : c ≠ '"' := fun same => by
        rw [same] at space
        exact absurd space (by decide)
      have same : Resumes .outside rest rest := ⟨Iff.rfl, rfl⟩
      have resumes := same.plain noParen noList noQuote
      exact .inr (.inr ⟨by simpa using noParen, _, rfl, by simp, resumes,
        .inr ⟨rfl, c, space, rfl⟩⟩)
    · rw [if_neg space]
      have seen : ∃ d ∈ c :: rest, isWhitespace d = false := ⟨c, by simp, by simpa using space⟩
      by_cases list : c = '('
      · rw [if_pos list]
        have found := closingParen_found rest Nat.zero_lt_one
        have enters : Mode.outside.step c = .list 1 := by simp [Mode.step, list]
        have noParen : ¬(Mode.outside = .outside ∧ c = ')') := by simp [list]
        cases closed : closingParen 1 rest with
        | none =>
          rw [closed] at found
          exact .inl ⟨Unclosed.cons noParen (enters ▸ found), rfl⟩
        | some pair =>
          rw [closed] at found
          have resumes := Resumes.cons noParen (enters ▸ found.1)
          exact .inr (.inr ⟨by simp [list], _, rfl, Nat.lt_succ_of_lt found.2, resumes,
            .inl ⟨_, rfl, seen⟩⟩)
      · rw [if_neg list]
        by_cases quote : c = '"'
        · rw [if_pos quote]
          have found := closingQuote_found rest
          have enters : Mode.outside.step c = .quoted := by simp [Mode.step, quote]
          have noParen : ¬(Mode.outside = .outside ∧ c = ')') := by simp [quote]
          cases closed : closingQuote rest with
          | none =>
            rw [closed] at found
            exact .inl ⟨Unclosed.cons noParen (enters ▸ found), rfl⟩
          | some pair =>
            rw [closed] at found
            have resumes := Resumes.cons noParen (enters ▸ found.1)
            exact .inr (.inr ⟨by simp [quote], _, rfl, Nat.lt_succ_of_lt found.2, resumes,
              .inl ⟨_, rfl, seen⟩⟩)
        · rw [if_neg quote]
          by_cases paren : c = ')'
          · have noAtom : ¬isAtomChar c = true := by simp [isAtomChar, paren]
            rw [List.takeWhile_cons_of_neg noAtom, List.dropWhile_cons_of_neg noAtom]
            exact .inr (.inl ⟨by simp [paren], rfl⟩)
          · have atom : isAtomChar c = true := by simp [isAtomChar, space, list, quote, paren]
            have resumes := atom_resumes (c :: rest)
            have shorter : ((c :: rest).dropWhile isAtomChar).length < (c :: rest).length := by
              rw [List.dropWhile_cons_of_pos atom]
              exact Nat.lt_succ_of_le (List.dropWhile_suffix _).length_le
            exact .inr (.inr ⟨by simpa using paren, _, rfl, shorter, resumes, .inl ⟨_, rfl, seen⟩⟩)

/-- A pass advances unless it is at a closing parenthesis. -/
theorem advances_iff (scan : Scan) : Advances scan ↔ scan.rest.head? ≠ some ')' := by
  constructor
  · intro advances stray
    have stays : tokenizePass scan = .next { scan with tokens := scan.tokens ++ [""] } := by
      rcases tokenizePass_cases scan with ⟨empty, _⟩ | ⟨unclosed, _⟩ | ⟨_, stays⟩ | ⟨other, _⟩
      · simp [empty] at stray
      · obtain ⟨rest, cut⟩ : ∃ rest, scan.rest = ')' :: rest := List.head?_eq_some_iff.mp stray
        exact absurd ⟨[], rest, cut, rfl⟩ unclosed.strays
      · exact stays
      · exact absurd stray other
    exact absurd (advances _ stays) (Nat.lt_irrefl _)
  · intro other after goes
    rcases tokenizePass_cases scan with ⟨_, left⟩ | ⟨_, left⟩ | ⟨stray, _⟩ | ⟨_, next, made, moves⟩
    · exact absurd (goes.symm.trans left) (by simp)
    · exact absurd (goes.symm.trans left) (by simp)
    · exact absurd stray other
    · have same : next = after := Pass.next.inj (made.symm.trans goes)
      exact same ▸ moves.shorter

/-- A pass at a closing parenthesis finds it stray. -/
theorem strays_of_head {text : List Char} (stray : text.head? = some ')') :
    Strays .outside text := by
  obtain ⟨rest, cut⟩ : ∃ rest, text = ')' :: rest := List.head?_eq_some_iff.mp stray
  exact ⟨[], rest, cut, rfl⟩

/-- A pass moves on exactly to what strays before it and after it. -/
theorem strays_pass {scan after : Scan} (goes : tokenizePass scan = .next after) :
    Strays .outside scan.rest ↔ Strays .outside after.rest := by
  rcases tokenizePass_cases scan with ⟨_, left⟩ | ⟨_, left⟩ | ⟨_, made⟩ | ⟨_, next, made, moves⟩
  · exact absurd (goes.symm.trans left) (by simp)
  · exact absurd (goes.symm.trans left) (by simp)
  · rw [← Pass.next.inj (made.symm.trans goes)]
  · rw [← Pass.next.inj (made.symm.trans goes)]
    exact moves.resumes.strays

/-- A closing parenthesis where a token begins is never passed. -/
theorem not_ends_of_head {scan : Scan} (stray : scan.rest.head? = some ')') :
    ¬Ends tokenizePass scan := by
  have closed (scan : Scan) (stray : scan.rest.head? = some ')') :
      ∃ after, tokenizePass scan = .next after ∧ after.rest.head? = some ')' := by
    rcases tokenizePass_cases scan with ⟨empty, _⟩ | ⟨unclosed, _⟩ | ⟨_, stays⟩ | ⟨other, _⟩
    · simp [empty] at stray
    · exact absurd (strays_of_head stray) unclosed.strays
    · exact ⟨_, stays, stray⟩
    · exact absurd stray other
  exact not_ends_of_closed closed stray

/-- What the loop comes to from a state: it is stuck, it finds a list or a quoted string that is
not closed, or it returns the tokens, none if only spaces are left. -/
theorem tokenizePass_outcome (scan : Scan) :
    (Strays .outside scan.rest ∧
      ∃ last, Reaches tokenizePass scan last ∧ last.rest.head? = some ')') ∨
    (Unclosed .outside scan.rest ∧ Exits tokenizePass scan (.error .unclosedQuote)) ∨
    (¬Strays .outside scan.rest ∧ Mode.outside.after scan.rest = .outside ∧
      ∃ added, Exits tokenizePass scan (.ok (scan.tokens ++ added)) ∧
        (added ≠ [] ↔ ∃ c ∈ scan.rest, isWhitespace c = false)) := by
  generalize bound : scan.rest.length = size
  induction size using Nat.strongRecOn generalizing scan with
  | ind size ih =>
    rcases tokenizePass_cases scan with ⟨empty, left⟩ | ⟨unclosed, left⟩ | ⟨stray, _⟩ |
      ⟨_, after, goes, moves⟩
    · refine .inr (.inr ?_)
      rw [empty]
      exact ⟨not_strays_nil _, rfl, [], .now (by rw [left, List.append_nil]), by simp⟩
    · exact .inr (.inl ⟨unclosed, .now left⟩)
    · exact .inl ⟨strays_of_head stray, scan, .refl scan, stray⟩
    · have strays := moves.resumes.strays
      have last := moves.resumes.last
      rcases ih after.rest.length (bound ▸ moves.shorter) after rfl with
        ⟨later, final, reaches, stuck⟩ | ⟨unclosed, exits⟩ | ⟨none, closed, added, exits, more⟩
      · exact .inl ⟨strays.mpr later, final, .step goes reaches, stuck⟩
      · exact .inr (.inl ⟨⟨fun here => unclosed.strays (strays.mp here), last ▸ unclosed.last⟩,
          .later goes exits⟩)
      · refine .inr (.inr ⟨fun here => none (strays.mp here), last.trans closed, ?_⟩)
        rcases moves.added with ⟨token, tokens, seen⟩ | ⟨tokens, c, space, cut⟩
        · refine ⟨token :: added, .later goes ?_, by simpa using seen⟩
          rw [tokens, List.append_assoc] at exits
          exact exits
        · refine ⟨added, .later goes (tokens ▸ exits), more.trans ?_⟩
          rw [cut]
          simp [space]

/-- The main loop ends unless a closing parenthesis strays. -/
theorem tokenizePass_ends_iff (scan : Scan) :
    Ends tokenizePass scan ↔ ¬Strays .outside scan.rest := by
  rcases tokenizePass_outcome scan with ⟨strays, last, reaches, stuck⟩ | ⟨unclosed, exits⟩ |
    ⟨none, _, added, exits, _⟩
  · have endless : ¬Ends tokenizePass scan := fun ends =>
      not_ends_of_head stuck (reaches.ends_iff.mp ends)
    exact iff_of_false endless fun none => none strays
  · exact iff_of_true ⟨_, exits⟩ unclosed.strays
  · exact iff_of_true ⟨_, exits⟩ none

/-- Every pass advances unless a closing parenthesis strays. -/
theorem advances_all_iff (scan : Scan) :
    (∀ last, Reaches tokenizePass scan last → Advances last) ↔ ¬Strays .outside scan.rest := by
  constructor
  · intro all strays
    rcases tokenizePass_outcome scan with ⟨_, last, reaches, stuck⟩ | ⟨unclosed, _⟩ | ⟨none, _⟩
    · exact (advances_iff last).mp (all last reaches) stuck
    · exact unclosed.strays strays
    · exact none strays
  · intro none last reaches
    have step (state after : Scan) (none : ¬Strays .outside state.rest)
        (goes : tokenizePass state = .next after) : ¬Strays .outside after.rest :=
      fun strays => none ((strays_pass goes).mpr strays)
    have kept : ¬Strays .outside last.rest := Reaches.invariant step none reaches
    exact (advances_iff last).mpr fun stuck => kept (strays_of_head stuck)

/-! ## The model of the parser is what the loops come to -/

/-- The loop over a line comes to what the tokenizer of the model returns. -/
def Agrees (scan : Scan) : Parse (List String) → Prop
  | .diverges => ¬Ends tokenizePass scan
  | .failed error => Exits tokenizePass scan (.error error)
  | .ok added => Exits tokenizePass scan (.ok (scan.tokens ++ added))

/-- A pass that adds a token. -/
theorem Agrees.token {scan after : Scan} {token : String} {outcome : Parse (List String)}
    (goes : tokenizePass scan = .next after) (added : after.tokens = scan.tokens ++ [token])
    (agrees : Agrees after outcome) : Agrees scan (outcome.map (token :: ·)) := by
  cases outcome with
  | diverges => exact fun ends => agrees ((ends_next goes).mp ends)
  | failed error => exact .later goes agrees
  | ok more =>
    have exits : Exits tokenizePass after (.ok (after.tokens ++ more)) := agrees
    rw [added, List.append_assoc] at exits
    exact .later goes exits

/-- With enough steps, the tokenizer of the model returns what the loop comes to. -/
theorem tokens_agrees (steps : Nat) (scan : Scan) (enough : scan.rest.length < steps) :
    Agrees scan (tokens steps scan.rest) := by
  induction steps generalizing scan with
  | zero => exact absurd enough (Nat.not_lt_zero _)
  | succ steps ih =>
    obtain ⟨out, text⟩ := scan
    cases text with
    | nil => exact .now (by simp [tokenizePass])
    | cons c rest =>
      have fewer : rest.length < steps := by simpa using enough
      rw [tokens]
      by_cases space : isWhitespace c = true
      · rw [if_pos space]
        have goes : tokenizePass ⟨out, c :: rest⟩ = .next ⟨out, rest⟩ := if_pos space
        have later := ih ⟨out, rest⟩ fewer
        cases outcome : tokens steps rest with
        | diverges =>
          rw [outcome] at later
          exact fun ends => later ((ends_next goes).mp ends)
        | failed error =>
          rw [outcome] at later
          exact .later goes later
        | ok more =>
          rw [outcome] at later
          exact .later goes later
      · rw [if_neg space]
        by_cases list : c = '('
        · rw [if_pos list]
          have found := closingParen_found rest Nat.zero_lt_one
          have pass : tokenizePass ⟨out, c :: rest⟩ =
              match closingParen 1 rest with
              | none => .exit (.error .unclosedQuote)
              | some (inside, after) => .next ⟨out ++ [String.ofList (c :: inside)], after⟩ := by
            simp only [tokenizePass, if_neg space, if_pos list]
          cases closed : closingParen 1 rest with
          | none =>
            rw [closed] at pass
            exact .now pass
          | some pair =>
            rw [closed] at pass found
            exact Agrees.token pass rfl (ih ⟨_, pair.2⟩ (found.2.trans fewer))
        · rw [if_neg list]
          by_cases quote : c = '"'
          · rw [if_pos quote]
            have found := closingQuote_found rest
            have pass : tokenizePass ⟨out, c :: rest⟩ =
                match closingQuote rest with
                | none => .exit (.error .unclosedQuote)
                | some (inside, after) => .next ⟨out ++ [String.ofList inside], after⟩ := by
              simp only [tokenizePass, if_neg space, if_neg list, if_pos quote]
            cases closed : closingQuote rest with
            | none =>
              rw [closed] at pass
              exact .now pass
            | some pair =>
              rw [closed] at pass found
              exact Agrees.token pass rfl (ih ⟨_, pair.2⟩ (found.2.trans fewer))
          · rw [if_neg quote]
            by_cases paren : c = ')'
            · rw [if_pos paren]
              exact not_ends_of_head (by simp [paren])
            · rw [if_neg paren]
              have atom : isAtomChar c = true := by simp [isAtomChar, space, list, quote, paren]
              have pass : tokenizePass ⟨out, c :: rest⟩ =
                  .next ⟨out ++ [String.ofList (c :: rest.takeWhile isAtomChar)],
                    rest.dropWhile isAtomChar⟩ := by
                simp only [tokenizePass, if_neg space, if_neg list, if_neg quote]
                rw [List.takeWhile_cons_of_pos atom, List.dropWhile_cons_of_pos atom]
              have shorter := (List.dropWhile_suffix (l := rest) isAtomChar).length_le
              exact Agrees.token pass rfl (ih ⟨_, rest.dropWhile isAtomChar⟩
                (Nat.lt_of_le_of_lt shorter fewer))

/-- `tokenize` of the model returns what the main loop comes to. -/
theorem tokenize_agrees (line : List UInt8) : Agrees (Scan.start line) (tokenize line) :=
  tokens_agrees _ (Scan.start line) (Nat.lt_succ_self _)

/-- `parse_line` does not return exactly on the lines with a stray parenthesis. -/
theorem parseLine_diverges_iff (line : List UInt8) :
    parseLine line = .diverges ↔ StrayLine line := by
  have ends := tokenizePass_ends_iff (Scan.start line)
  have agrees := tokenize_agrees line
  unfold parseLine
  cases outcome : tokenize line with
  | diverges =>
    rw [outcome] at agrees
    exact iff_of_true rfl (not_not.mp fun none => agrees (ends.mpr none))
  | failed error =>
    rw [outcome] at agrees
    exact iff_of_false nofun (ends.mp ⟨_, agrees⟩)
  | ok tokens =>
    rw [outcome] at agrees
    have none : ¬StrayLine line := ends.mp ⟨_, agrees⟩
    match tokens with
    | [] => exact iff_of_false nofun none
    | [_] => exact iff_of_false nofun none
    | _ :: _ :: _ => exact iff_of_false nofun none

/-- `parse_line` returns a command exactly for the command lines. -/
theorem parseLine_ok_iff (line : List UInt8) :
    (∃ cmd, parseLine line = .ok cmd) ↔ CommandLine line := by
  have agrees := tokenize_agrees line
  have outcome := tokenizePass_outcome (Scan.start line)
  unfold parseLine
  cases result : tokenize line with
  | diverges =>
    rw [result] at agrees
    have stray : StrayLine line :=
      not_not.mp fun none => agrees ((tokenizePass_ends_iff (Scan.start line)).mpr none)
    exact iff_of_false nofun fun command => command.1 stray
  | failed error =>
    rw [result] at agrees
    refine iff_of_false nofun fun command => ?_
    rcases outcome with ⟨stray, _⟩ | ⟨unclosed, _⟩ | ⟨_, _, added, exits, _⟩
    · exact command.1 stray
    · exact unclosed.last command.2.1
    · exact nomatch agrees.unique exits
  | ok tokens =>
    rw [result] at agrees
    rcases outcome with ⟨stray, last, reaches, stuck⟩ | ⟨_, exits⟩ |
      ⟨none, closed, added, exits, seen⟩
    · exact absurd (reaches.ends_iff.mp ⟨_, agrees⟩) (not_ends_of_head stuck)
    · exact nomatch agrees.unique exits
    · have same : tokens = added := by
        have both := Except.ok.inj (agrees.unique exits)
        exact List.append_cancel_left both
      subst same
      match tokens with
      | [] => exact iff_of_false nofun fun command => seen.mpr command.2.2 rfl
      | [_] => exact iff_of_true ⟨_, rfl⟩ ⟨none, closed, seen.mp (List.cons_ne_nil _ _)⟩
      | _ :: _ :: _ => exact iff_of_true ⟨_, rfl⟩ ⟨none, closed, seen.mp (List.cons_ne_nil _ _)⟩

/-- The loop of `feed` comes to what the reader of the model returns. -/
def Comes (task : Task) (cmds : List ParsedCommand) : Fed → Prop
  | (.diverges, _) => ¬Ends feedPass task
  | (.failed error, reader) => Exits feedPass task (.error error, reader)
  | (.ok more, reader) => Exits feedPass task (.ok (cmds ++ more), reader)

/-- Passes on the way do not change what the loop comes to. -/
theorem Comes.before {first second : Task} {cmds : List ParsedCommand} {fed : Fed}
    (reaches : Reaches feedPass first second) (comes : Comes second cmds fed) :
    Comes first cmds fed := by
  obtain ⟨outcome, reader⟩ := fed
  cases outcome with
  | diverges => exact fun ends => comes (reaches.ends_iff.mp ends)
  | failed error => exact reaches.exits_iff.mpr comes
  | ok more => exact reaches.exits_iff.mpr comes

/-- A command is added to those that the loop comes to. -/
theorem Comes.push {task : Task} {cmds : List ParsedCommand} {cmd : ParsedCommand} {fed : Fed}
    (comes : Comes task (cmds ++ [cmd]) fed) : Comes task cmds (fed.push cmd) := by
  obtain ⟨outcome, reader⟩ := fed
  cases outcome with
  | diverges => exact comes
  | failed error => exact comes
  | ok more =>
    have exits : Exits feedPass task (.ok ((cmds ++ [cmd]) ++ more), reader) := comes
    rw [List.append_assoc] at exits
    exact exits

/-- The passes of the tokenizer are passes of the loop of `feed`. -/
theorem scanning_reaches (cmds : List ParsedCommand) (reader : CommandReader) {first last : Scan}
    (reaches : Reaches tokenizePass first last) :
    Reaches feedPass (.scanning cmds reader first) (.scanning cmds reader last) := by
  refine reaches.within (Task.scanning cmds reader) ?_
  intro state after goes
  rw [feedPass, goes]

/-- The loop of `feed` never leaves a tokenizer that does not end. -/
theorem scanning_not_ends (cmds : List ParsedCommand) (reader : CommandReader) {scan : Scan}
    (endless : ¬Ends tokenizePass scan) : ¬Ends feedPass (.scanning cmds reader scan) := by
  have closed (task : Task)
      (stuck : ∃ scan, task = .scanning cmds reader scan ∧ ¬Ends tokenizePass scan) :
      ∃ after, feedPass task = .next after ∧
        ∃ scan, after = .scanning cmds reader scan ∧ ¬Ends tokenizePass scan := by
    obtain ⟨scan, rfl, endless⟩ := stuck
    cases made : tokenizePass scan with
    | exit result => exact absurd ⟨result, .now made⟩ endless
    | next after =>
      have still : ¬Ends tokenizePass after := fun ends => endless ((ends_next made).mpr ends)
      exact ⟨_, by rw [feedPass, made], after, rfl, still⟩
  exact not_ends_of_closed closed ⟨scan, rfl, endless⟩

/-- What the loop of `feed` comes to with a line in the tokenizer. -/
theorem scanning_comes (cmds : List ParsedCommand) (reader : CommandReader) (line : List UInt8)
    (rest : Fed) (later : ∀ cmd, Comes (.reading (cmds ++ [cmd]) reader) (cmds ++ [cmd]) rest) :
    Comes (.scanning cmds reader (Scan.start line)) cmds
      (match parseLine line with
        | .diverges => (.diverges, reader)
        | .failed error => (.failed error, reader)
        | .ok cmd => rest.push cmd) := by
  have agrees := tokenize_agrees line
  unfold parseLine
  cases outcome : tokenize line with
  | diverges =>
    rw [outcome] at agrees
    exact scanning_not_ends cmds reader agrees
  | failed error =>
    rw [outcome] at agrees
    obtain ⟨last, reaches, left⟩ := Exits.reaches agrees
    exact Comes.before (scanning_reaches cmds reader reaches) (.now (by rw [feedPass, left]))
  | ok tokens =>
    rw [outcome] at agrees
    obtain ⟨last, reaches, left⟩ := Exits.reaches agrees
    have before := scanning_reaches cmds reader reaches
    have returned (cmd : ParsedCommand) (made : commandOf tokens = some cmd) :
        Comes (.scanning cmds reader (Scan.start line)) cmds (rest.push cmd) := by
      have goes : feedPass (.scanning cmds reader last) =
          .next (.reading (cmds ++ [cmd]) reader) := by
        rw [feedPass, left]
        simp only [Scan.start, List.nil_append, made]
      exact (Comes.before (before.trans (.step goes (.refl _))) (later cmd)).push
    match tokens with
    | [] =>
      refine Comes.before before (.now ?_)
      rw [feedPass, left]
      rfl
    | [name] => exact returned _ rfl
    | tag :: name :: args => exact returned _ rfl

/-- A line is taken from the buffer. -/
theorem nextLine_length {buf line after : List UInt8} (taken : nextLine buf = some (line, after)) :
    after.length < buf.length := by
  unfold nextLine at taken
  by_cases some : 10 ∈ buf
  · rw [if_pos some] at taken
    have left : (buf.dropWhile (· != 10)).drop 1 = after :=
      congrArg Prod.snd (Option.some.inj taken)
    have positive : 0 < buf.length := List.length_pos_of_mem some
    have shorter := (List.dropWhile_suffix (l := buf) (· != 10)).length_le
    rw [← left, List.length_drop]
    omega
  · simp [some] at taken

/-- With enough rounds, the reader of the model returns what the loop of `feed` comes to. -/
theorem feedLoop_comes (rounds : Nat) (cmds : List ParsedCommand) (reader : CommandReader)
    (enough : roundsFor reader < rounds) :
    Comes (.reading cmds reader) cmds (feedLoop rounds reader) := by
  induction rounds generalizing cmds reader with
  | zero => exact absurd enough (Nat.not_lt_zero _)
  | succ rounds ih =>
    obtain ⟨buf, pending, literal⟩ := reader
    rw [feedLoop]
    dsimp only
    cases literal with
    | some count =>
      dsimp only
      by_cases short : (buf.take count).length < count
      · rw [if_pos short]
        refine .now ?_
        simp only [feedPass, if_pos short, List.append_nil]
      · rw [if_neg short]
        have goes : feedPass (.reading cmds ⟨buf, pending, some count⟩) =
            .next (.reading cmds ⟨buf.drop count, pending ++ buf.take count, none⟩) := by
          simp only [feedPass, if_neg short]
        have fewer : roundsFor ⟨buf.drop count, pending ++ buf.take count, none⟩ < rounds := by
          simp [roundsFor] at enough ⊢
          omega
        exact Comes.before (.step goes (.refl _)) (ih cmds _ fewer)
    | none =>
      dsimp only
      cases taken : nextLine buf with
      | none => exact .now (by simp [feedPass, taken])
      | some pair =>
        obtain ⟨line, after⟩ := pair
        dsimp only
        by_cases wrong : line ≠ [] ∧ line.getLast? ≠ some 13
        · rw [if_pos wrong]
          exact .now (by simp only [feedPass, taken, if_pos wrong])
        · rw [if_neg wrong]
          cases marked : literalCount line.dropLast with
          | some pair =>
            refine .now ?_
            simp only [feedPass, taken, if_neg wrong, marked, List.append_nil]
          | none =>
            dsimp only
            have goes : feedPass (.reading cmds ⟨buf, pending, none⟩) =
                .next (.scanning cmds ⟨after, [], none⟩
                  (Scan.start (pending ++ line.dropLast))) := by
              simp only [feedPass, taken, if_neg wrong, marked]
            have shorter := nextLine_length taken
            have fewer : roundsFor ⟨after, [], none⟩ < rounds := by
              simp [roundsFor] at enough ⊢
              omega
            have comes := scanning_comes cmds ⟨after, [], none⟩ (pending ++ line.dropLast)
              (feedLoop rounds ⟨after, [], none⟩) fun cmd => ih _ _ fewer
            exact Comes.before (.step goes (.refl _)) comes

/-- `feed` of the model returns what the loop comes to. -/
theorem feed_comes (reader : CommandReader) (data : List UInt8) :
    Comes (Task.start reader data) [] (reader.feed data) := by
  refine feedLoop_comes _ [] _ ?_
  unfold roundsFor
  dsimp only
  split <;> omega

/-! ## Which feeds return -/

/-- Whether a stray parenthesis is met, line by line. -/
theorem meetsStray_cons (line : List UInt8) (rest : List (List UInt8)) :
    MeetsStray (line :: rest) ↔ StrayLine line ∨ (CommandLine line ∧ MeetsStray rest) := by
  constructor
  · rintro ⟨before, stray, after, cut, commands, strays⟩
    cases before with
    | nil => exact .inl ((List.cons.inj cut).1 ▸ strays)
    | cons first before =>
      have parts := List.cons.inj cut
      exact .inr ⟨parts.1 ▸ commands first List.mem_cons_self, before, stray, after, parts.2,
        fun earlier member => commands earlier (List.mem_cons_of_mem _ member), strays⟩
  · rintro (strays | ⟨command, before, stray, after, rfl, commands, strays⟩)
    · exact ⟨[], line, rest, rfl, nofun, strays⟩
    · have all := List.forall_mem_cons.mpr ⟨command, commands⟩
      exact ⟨line :: before, stray, after, rfl, all, strays⟩

/-- No line has a stray parenthesis where there is none. -/
theorem not_meetsStray_nil : ¬MeetsStray [] := by
  rintro ⟨before, stray, after, cut, _⟩
  simp at cut

/-- The loop of the reader does not return exactly when it meets a stray parenthesis. -/
theorem feedLoop_diverges_iff (rounds : Nat) (reader : CommandReader) :
    (feedLoop rounds reader).1 = .diverges ↔ MeetsStray (completeLines rounds reader) := by
  induction rounds generalizing reader with
  | zero => exact iff_of_false (by simp [feedLoop]) not_meetsStray_nil
  | succ rounds ih =>
    obtain ⟨buf, pending, literal⟩ := reader
    rw [feedLoop, completeLines]
    dsimp only
    cases literal with
    | some count =>
      dsimp only
      by_cases short : (buf.take count).length < count
      · rw [if_pos short, if_pos short]
        exact iff_of_false (by simp) not_meetsStray_nil
      · rw [if_neg short, if_neg short]
        exact ih _
    | none =>
      dsimp only
      cases taken : nextLine buf with
      | none => exact iff_of_false (by simp) not_meetsStray_nil
      | some pair =>
        obtain ⟨line, after⟩ := pair
        dsimp only
        by_cases wrong : line ≠ [] ∧ line.getLast? ≠ some 13
        · rw [if_pos wrong, if_pos wrong]
          exact iff_of_false (by simp) not_meetsStray_nil
        · rw [if_neg wrong, if_neg wrong]
          cases marked : literalCount line.dropLast with
          | some pair => exact iff_of_false (by simp) not_meetsStray_nil
          | none =>
            have whole := meetsStray_cons (pending ++ line.dropLast)
              (completeLines rounds ⟨after, [], none⟩)
            have stray := parseLine_diverges_iff (pending ++ line.dropLast)
            have command := parseLine_ok_iff (pending ++ line.dropLast)
            refine Iff.trans ?_ whole.symm
            rw [← stray, ← command, ← ih]
            cases parsed : parseLine (pending ++ line.dropLast) with
            | diverges => simp
            | failed error => simp
            | ok cmd =>
              cases later : (feedLoop rounds ⟨after, [], none⟩).1 with
              | diverges => simp [Fed.push, later, Parse.map]
              | failed error => simp [Fed.push, later, Parse.map]
              | ok more => simp [Fed.push, later, Parse.map]

/-- A feed ends unless it meets a line with a stray parenthesis. -/
theorem feedPass_ends_iff (reader : CommandReader) (data : List UInt8) :
    Ends feedPass (Task.start reader data) ↔ ¬MeetsStray (linesWith reader data) := by
  have comes := feed_comes reader data
  have diverges : (reader.feed data).1 = .diverges ↔ MeetsStray (linesWith reader data) :=
    feedLoop_diverges_iff _ _
  rw [← diverges]
  generalize reader.feed data = fed at comes
  obtain ⟨outcome, left⟩ := fed
  cases outcome with
  | diverges => exact iff_of_false comes (not_not.mpr rfl)
  | failed error => exact iff_of_true ⟨_, comes⟩ nofun
  | ok more => exact iff_of_true ⟨_, comes⟩ nofun

/-- The main loop of `tokenize` advances in every pass over a line, and ends with tokens or an
error, exactly for the lines without a stray closing parenthesis; `feed` returns exactly when it
meets no other line. -/
theorem tokenizer_ends_without_stray_parens (line : List UInt8) (reader : CommandReader)
    (data : List UInt8) :
    ((∀ scan, Reaches tokenizePass (Scan.start line) scan → Advances scan) ↔ ¬StrayLine line) ∧
    (Ends tokenizePass (Scan.start line) ↔ ¬StrayLine line) ∧
    (Ends feedPass (Task.start reader data) ↔ ¬MeetsStray (linesWith reader data)) :=
  ⟨advances_all_iff (Scan.start line), tokenizePass_ends_iff (Scan.start line),
    feedPass_ends_iff reader data⟩

/-- The line of a command with one closing parenthesis too many. -/
def strayCommand : List UInt8 := Utf8.bytes "A1 NOOP )"

/-- The position stays at that parenthesis, and neither the tokenizer nor `feed` returns. -/
theorem stray_paren_loops :
    ¬(∀ scan, Reaches tokenizePass (Scan.start strayCommand) scan → Advances scan) ∧
    ¬Ends tokenizePass (Scan.start strayCommand) ∧
    ¬Ends feedPass (Task.start {} (strayCommand ++ [13, 10])) := by
  have text : (Utf8.fromUtf8Lossy strayCommand).toList = "A1 NOOP )".toList := by decide +kernel
  have stray : StrayLine strayCommand := by
    unfold StrayLine
    rw [text]
    exact ⟨"A1 NOOP ".toList, [], rfl, by decide⟩
  have lines : linesWith {} (strayCommand ++ [13, 10]) = [strayCommand] := by decide +kernel
  have meets : MeetsStray (linesWith {} (strayCommand ++ [13, 10])) :=
    ⟨[], strayCommand, [], lines, nofun, stray⟩
  exact ⟨fun all => (advances_all_iff (Scan.start strayCommand)).mp all stray,
    fun ends => (tokenizePass_ends_iff (Scan.start strayCommand)).mp ends stray,
    fun ends => (feedPass_ends_iff _ _).mp ends meets⟩

end Talk.Verif.Tokenizer
