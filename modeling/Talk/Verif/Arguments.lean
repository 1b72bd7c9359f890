import Talk.Verif.Markers
import Talk.Verif.TokenShapes

/-!
# Arguments on the wire

A client sends the arguments of a command as atoms, quoted strings and literals with a space before
each. The reader takes the markers away and puts what a literal holds into the line, between its
spaces, so that the line that is parsed is the text of the atoms, of the quoted strings with their
quotes, and of the literals as they are.
-/

namespace Talk.Verif.Arguments

open Imap Incremental ReaderSteps Text TokenShapes
open Markers (chars_of_marked literalCount_eq_some_iff spells_toString)
open Utf8 (bytes bytes_append)

/-! ## Commands -/

/-- A text that can be sent as an atom. -/
structure IsAtom (text : String) : Prop where
  /-- It is not empty. -/
  filled : text ≠ ""
  /-- It has no whitespace, no parenthesis and no quote. -/
  plain : ∀ c ∈ text.toList, isAtomChar c = true
  /-- It has no brace that begins a marker. -/
  unbraced : '\x7b' ∉ text.toList

/-- Whether a text can be sent as an atom can be decided. -/
instance (text : String) : Decidable (IsAtom text) :=
  decidable_of_iff (text ≠ "" ∧ text.toList.all isAtomChar = true ∧ '\x7b' ∉ text.toList)
    ⟨fun all => ⟨all.1, List.all_eq_true.mp all.2.1, all.2.2⟩,
      fun atom => ⟨atom.filled, List.all_eq_true.mpr atom.plain, atom.unbraced⟩⟩

/-- An argument, and how it is sent. -/
inductive Argument where
  /-- As an atom. -/
  | atom (text : String) (plain : IsAtom text)
  /-- As a quoted string on one line. -/
  | quoted (text : String) (oneLine : '\n' ∉ text.toList)
  /-- As a literal of at most 1 MiB. -/
  | literal (text : String) (small : (bytes text).length ≤ 2 ^ 20)

/-- The argument. -/
def Argument.text : Argument → String
  | .atom text _ | .quoted text _ | .literal text _ => text

/-- The argument in the line that is parsed. -/
def Argument.spelled : Argument → String
  | .atom text _ | .literal text _ => text
  | .quoted text _ => quote text

/-- The argument on the wire. -/
def Argument.sent : Argument → String
  | .atom text _ => text
  | .quoted text _ => quote text
  | .literal text _ =>
    "\x7b" ++ toString (bytes text).length ++ "\x7d" ++ "\r\n" ++ text

/-- Arguments, each behind a space. -/
def spaced (write : Argument → String) : List Argument → String
  | [] => ""
  | arg :: args => " " ++ write arg ++ spaced write args

/-- A command that a client sends. -/
structure SentCommand where
  /-- The tag. -/
  tag : String
  /-- The tag is an atom. -/
  tagAtom : IsAtom tag
  /-- The name. -/
  name : String
  /-- The name is an atom. -/
  nameAtom : IsAtom name
  /-- The arguments. -/
  args : List Argument

/-- The bytes on the wire. -/
def SentCommand.wire (sent : SentCommand) : List UInt8 :=
  bytes (sent.tag ++ " " ++ sent.name ++ spaced Argument.sent sent.args ++ "\r\n")

/-- The line that is parsed. -/
def SentCommand.line (sent : SentCommand) : String :=
  sent.tag ++ " " ++ sent.name ++ spaced Argument.spelled sent.args

/-- The command that is meant. -/
def SentCommand.command (sent : SentCommand) : ParsedCommand :=
  ⟨sent.tag, toAsciiUppercase sent.name, sent.args.map Argument.text⟩

/-! ## Markers -/

/-- A line without a brace that begins a marker: every brace is in a quoted string. -/
def Unmarked (line : List Char) : Prop :=
  '\x7b' ∉ line ∨ ∃ front back, line = front ++ '"' :: back ∧ '\x7b' ∉ back

/-- More characters without a brace begin no marker. -/
theorem Unmarked.append {line more : List Char} (unmarked : Unmarked line)
    (free : '\x7b' ∉ more) : Unmarked (line ++ more) := by
  rcases unmarked with none | ⟨front, back, rfl, none⟩
  · exact .inl fun member => (List.mem_append.mp member).elim none free
  · refine .inr ⟨front, back ++ more, by simp, ?_⟩
    exact fun member => (List.mem_append.mp member).elim none free

/-- Such a line has no marker. -/
theorem literalCount_unmarked {line : String} (unmarked : Unmarked line.toList) :
    literalCount (bytes line) = none := by
  cases found : literalCount (bytes line) with
  | none => rfl
  | some parts =>
    exfalso
    obtain ⟨-, front, inner, zeros, shape, -, spells⟩ := literalCount_eq_some_iff.mp found
    obtain ⟨before, whole⟩ := chars_of_marked shape
    rcases unmarked with free | ⟨left, back, quoted, free⟩
    · exact free (whole ▸ List.mem_append_right before List.mem_cons_self)
    · -- The last quote stands behind the brace, between the braces of the marker.
      have inside : '"' ∈ inner.toList := by
        rw [whole] at quoted
        rcases List.append_eq_append_iff.mp quoted with ⟨middle, -, tail⟩ | ⟨middle, -, tail⟩
        · cases middle with
          | nil => cases (List.cons.inj tail).1
          | cons c middle =>
            have member : '"' ∈ inner.toList ++ ['\x7d'] := by
              rw [(List.cons.inj tail).2]
              simp
            simpa using member
        · cases middle with
          | nil => cases (List.cons.inj tail).1
          | cons c middle =>
            obtain ⟨-, rfl⟩ := List.cons.inj tail
            exact absurd (List.mem_append_right middle List.mem_cons_self) free
      exact absurd (spells.mem inside) (by decide)

/-- The count of a literal is read from the marker that the line ends with. -/
theorem literalCount_marked (line : String) {count : Nat} (small : count ≤ 2 ^ 20) :
    literalCount (bytes (line ++ "\x7b" ++ toString count ++ "\x7d")) =
      some (count, (bytes ("\x7b" ++ toString count ++ "\x7d")).length) := by
  refine literalCount_eq_some_iff.mpr
    ⟨small, bytes line, toString count, 0, ?_, rfl, spells_toString count⟩
  rw [Markers.marker, ← bytes_append, ← String.append_assoc, ← String.append_assoc]

/-! ## What is read -/

/-- The characters of a quoted string. -/
theorem toList_quote (text : String) :
    (quote text).toList = '"' :: (text.toList.flatMap quoteChar ++ ['"']) := by
  simp [quote]

/-- A quoted string has an LF only where its text has. -/
theorem lf_quote {text : String} (free : '\n' ∉ text.toList) : '\n' ∉ (quote text).toList := by
  rw [toList_quote]
  intro member
  have inside : '\n' ∈ text.toList.flatMap quoteChar := by simpa using member
  obtain ⟨c, found, here⟩ := List.mem_flatMap.mp inside
  unfold quoteChar at here
  by_cases special : c = '\\' ∨ c = '"'
  · rw [if_pos special] at here
    rcases special with rfl | rfl
    · exact absurd here (by decide)
    · exact absurd here (by decide)
  · rw [if_neg special] at here
    exact free (List.mem_singleton.mp here ▸ found)

/-- An atom is on one line. -/
theorem IsAtom.lf {text : String} (atom : IsAtom text) : '\n' ∉ text.toList := fun member =>
  absurd (atom.plain '\n' member) (by decide)

/-- An argument that is sent as a literal. -/
def Argument.isLiteral : Argument → Bool
  | .literal _ _ => true
  | .atom _ _ | .quoted _ _ => false

/-- The steps through the arguments of a line lead through the markers to its last part, and put the
literals in their places. -/
structure Reaches (reader : CommandReader) (markers : Nat) (whole : List UInt8) (last : String)
    (front : List UInt8) : Prop where
  /-- These are the steps. -/
  reads : Reads move reader (List.replicate markers .marker) ⟨bytes (last ++ "\r\n"), front, none⟩
  /-- The last part is on one line. -/
  oneLine : '\n' ∉ last.toList
  /-- It has no marker. -/
  unmarked : Unmarked last.toList
  /-- This is the line. -/
  line : front ++ bytes last = whole

/-- The marker of a literal, and the literal, are read. -/
theorem reads_argument {line : String} (free : '\n' ∉ line.toList) {text : String}
    (small : (bytes text).length ≤ 2 ^ 20) (rest : String) (pending : List UInt8) :
    Reads move ⟨bytes (line ++ "\x7b" ++ toString (bytes text).length ++ "\x7d" ++ "\r\n" ++ text ++
        rest), pending, none⟩ [.marker]
      ⟨bytes rest, pending ++ bytes line ++ bytes text, none⟩ := by
  generalize marks : "\x7b" ++ toString (bytes text).length ++ "\x7d" = marker
  have marked := literalCount_marked line small
  have joined : line ++ "\x7b" ++ toString (bytes text).length ++ "\x7d" = line ++ marker := by
    rw [← marks]
    simp only [String.append_assoc]
  rw [joined, marks] at marked
  have oneLine : 10 ∉ bytes (line ++ marker) ++ [13] := by
    have digits : '\n' ∉ marker.toList := by
      rw [← marks]
      intro member
      have inside : '\n' ∈ (toString (bytes text).length).toList := by simpa using member
      exact absurd (isDigit_toString inside) (by decide)
    have whole : '\n' ∉ (line ++ marker).toList := by
      rw [String.toList_append, List.mem_append]
      exact fun member => member.elim free digits
    have bare : 10 ∉ bytes (line ++ marker) := fun member =>
      whole (Utf8.ascii_mem_bytes (by decide) member)
    simpa using bare
  have ended : Ended (bytes (line ++ marker) ++ [13]) := ⟨oneLine, by simp⟩
  have dropped : (bytes (line ++ marker) ++ [13]).dropLast = bytes (line ++ marker) :=
    List.dropLast_concat
  have here : literalCount (bytes (line ++ marker) ++ [13]).dropLast =
      some ((bytes text).length, (bytes marker).length) := by rw [dropped, marked]
  have first := Moves.marker ended here (bytes text ++ bytes rest) pending
  have kept : (bytes (line ++ marker) ++ [13]).dropLast.take
      ((bytes (line ++ marker) ++ [13]).dropLast.length - (bytes marker).length) = bytes line := by
    rw [dropped, bytes_append, List.length_append, Nat.add_sub_cancel, List.take_left]
  rw [kept] at first
  have literal := reads_literal (bytes text) (bytes rest) (pending ++ bytes line) 0
  have finish := Moves.finish (bytes rest) (pending ++ bytes line ++ bytes text)
  have all := (Reads.single (move_iff.mpr first)).trans
    (literal.trans (.single (move_iff.mpr finish)))
  have wire : bytes (line ++ "\x7b" ++ toString (bytes text).length ++ "\x7d" ++ "\r\n" ++ text ++
      rest) = (bytes (line ++ marker) ++ [13]) ++ 10 :: (bytes text ++ bytes rest) := by
    have crlf : bytes "\r\n" = [13, 10] := by decide
    rw [joined, bytes_append, bytes_append, bytes_append, crlf]
    simp
  rw [wire]
  exact all

/-- The steps through the arguments behind a part of a line. -/
theorem reaches_args (args : List Argument) {line : String} (free : '\n' ∉ line.toList)
    (unmarked : Unmarked line.toList) (pending : List UInt8) :
    ∃ last front, Reaches ⟨bytes (line ++ spaced Argument.sent args ++ "\r\n"), pending, none⟩
      (args.countP Argument.isLiteral) (pending ++ bytes (line ++ spaced Argument.spelled args))
      last front := by
  have space : '\n' ∉ " ".toList ∧ '\x7b' ∉ " ".toList := by decide
  induction args generalizing line pending with
  | nil =>
    refine ⟨line, pending, ?_, free, unmarked, ?_⟩
    · rw [spaced, String.append_empty]
      exact .refl _
    · rw [spaced, String.append_empty]
  | cons arg args ih =>
    cases arg with
    | atom text plain =>
      have longer : '\n' ∉ (line ++ (" " ++ text)).toList := by
        simp only [String.toList_append, List.mem_append, not_or]
        exact ⟨free, space.1, plain.lf⟩
      have more : Unmarked (line ++ (" " ++ text)).toList := by
        rw [String.toList_append, String.toList_append]
        refine unmarked.append fun member => ?_
        exact (List.mem_append.mp member).elim space.2 plain.unbraced
      have rest := ih longer more pending
      have counted : (Argument.atom text plain :: args).countP Argument.isLiteral =
          args.countP Argument.isLiteral := List.countP_cons_of_neg Bool.false_ne_true
      rw [counted]
      simp only [spaced, Argument.sent, Argument.spelled, String.append_assoc] at rest ⊢
      exact rest
    | quoted text oneLine =>
      have longer : '\n' ∉ (line ++ (" " ++ quote text)).toList := by
        simp only [String.toList_append, List.mem_append, not_or]
        exact ⟨free, space.1, lf_quote oneLine⟩
      have more : Unmarked (line ++ (" " ++ quote text)).toList := by
        refine .inr ⟨(line ++ " ").toList ++ '"' :: text.toList.flatMap quoteChar, [], ?_,
          List.not_mem_nil⟩
        rw [String.toList_append, String.toList_append, String.toList_append, toList_quote]
        simp
      have rest := ih longer more pending
      have counted : (Argument.quoted text oneLine :: args).countP Argument.isLiteral =
          args.countP Argument.isLiteral := List.countP_cons_of_neg Bool.false_ne_true
      rw [counted]
      simp only [spaced, Argument.sent, Argument.spelled, String.append_assoc] at rest ⊢
      exact rest
    | literal text small =>
      have longer : '\n' ∉ (line ++ " ").toList := by
        simp only [String.toList_append, List.mem_append, not_or]
        exact ⟨free, space.1⟩
      have first := reads_argument longer small (spaced Argument.sent args ++ "\r\n") pending
      have bare : '\n' ∉ "".toList := by decide
      have blank : Unmarked "".toList := .inl (by decide)
      obtain ⟨last, front, rest⟩ := ih bare blank (pending ++ bytes (line ++ " ") ++ bytes text)
      refine ⟨last, front, ?_, rest.oneLine, rest.unmarked, ?_⟩
      · have steps := rest.reads
        rw [String.empty_append] at steps
        have all := first.trans steps
        have counted : List.replicate (List.countP Argument.isLiteral (.literal text small :: args))
            Event.marker =
              [.marker] ++ List.replicate (args.countP Argument.isLiteral) .marker := by
          rw [List.countP_cons_of_pos rfl, List.replicate_succ]
          rfl
        rw [counted]
        simp only [spaced, Argument.sent, String.append_assoc] at all ⊢
        exact all
      · rw [rest.line, String.empty_append]
        simp only [spaced, Argument.spelled, bytes_append, List.append_assoc]

/-! ## The command that is parsed -/

/-- An argument is one token of the line, wherever it stands. -/
def OneToken (arg : Argument) : Prop :=
  ∀ after : List Char, (∀ c ∈ after.head?, c = ' ') →
    Token arg.spelled.toList arg.text.toList after

/-- An atom is one token. -/
theorem oneToken_atom {text : String} (plain : IsAtom text) : OneToken (.atom text plain) := by
  intro after behind
  refine .atom (fun empty => plain.filled (String.toList_eq_nil_iff.mp empty)) plain.plain ?_
  intro c first
  rw [behind c first]
  decide

/-- A quoted string is one token. -/
theorem oneToken_quoted {text : String} (oneLine : '\n' ∉ text.toList) :
    OneToken (.quoted text oneLine) := by
  intro after _
  rw [Argument.spelled, toList_quote]
  exact .quoted (escapes_quote text.toList) after

/-- Behind an argument there is a space, or nothing. -/
theorem head_spaced (write : Argument → String) (args : List Argument) :
    ∀ c ∈ (spaced write args).toList.head?, c = ' ' := by
  cases args with
  | nil => simp [spaced]
  | cons arg args => simp [spaced]

/-- Arguments that are one token each are the tokens of the line. -/
theorem tokens_args (first : Argument) (args : List Argument)
    (each : ∀ arg ∈ first :: args, OneToken arg) :
    Tokens (first.spelled ++ spaced Argument.spelled args).toList
      ((first :: args).map Argument.text) := by
  have token := each first List.mem_cons_self _ (head_spaced Argument.spelled args)
  have rest : Tokens (spaced Argument.spelled args).toList (args.map Argument.text) := by
    induction args generalizing first with
    | nil => exact .blank nofun
    | cons next args ih =>
      have here := each next (by simp) _ (head_spaced Argument.spelled args)
      have later := ih next (fun arg member => each arg (List.mem_cons_of_mem first member)) here
      have whole : (spaced Argument.spelled (next :: args)).toList =
          [' '] ++ (next.spelled.toList ++ (spaced Argument.spelled args).toList) := by
        simp [spaced]
      rw [whole, List.map_cons, ← String.ofList_toList (s := next.text)]
      exact .token (by simp; decide) here later
  rw [String.toList_append, List.map_cons, ← String.ofList_toList (s := first.text),
    ← List.nil_append (first.spelled.toList ++ _)]
  exact .token nofun token rest

/-- An atom at the beginning of a text is its first token. -/
theorem tokens_of_atom {text : String} (plain : IsAtom text) {rest : List Char}
    (behind : ∀ c ∈ rest.head?, c = ' ') {values : List String}
    (tokens : Tokens (text.toList ++ rest) values) :
    ∃ later, values = text :: later ∧ Tokens rest later := by
  cases chars : text.toList with
  | nil => exact absurd (String.toList_eq_nil_iff.mp chars) plain.filled
  | cons c more =>
    have each := plain.plain
    rw [chars] at tokens each
    have tokens : Tokens (c :: (more ++ rest)) values := tokens
    have here := each c List.mem_cons_self
    have inner : ∀ d ∈ more, isAtomChar d = true := fun d member =>
      each d (List.mem_cons_of_mem c member)
    have list : c ≠ '(' := fun same => absurd (same ▸ here) (by decide)
    have quote : c ≠ '"' := fun same => absurd (same ▸ here) (by decide)
    obtain ⟨span, value, after, later, cut, token, rfl, read⟩ :=
      tokens_solid (solid_of_begins (.inr (.inr here))) tokens
    obtain ⟨-, rfl, rfl⟩ := token.of_atom list quote cut
    have stops : rest.takeWhile isAtomChar = [] ∧ rest.dropWhile isAtomChar = rest := by
      cases rest with
      | nil => exact ⟨rfl, rfl⟩
      | cons d rest =>
        obtain rfl : d = ' ' := behind d rfl
        have blank : isAtomChar ' ' = false := by decide
        simp [blank]
    rw [List.takeWhile_append_of_pos inner, stops.1, List.append_nil, ← chars,
      String.ofList_toList]
    rw [List.dropWhile_append_of_pos inner, stops.2] at read
    exact ⟨later, rfl, read⟩

/-- The tag, the name and the arguments of a command. -/
def SentCommand.units (sent : SentCommand) : List Argument :=
  .atom sent.tag sent.tagAtom :: .atom sent.name sent.nameAtom :: sent.args

/-- A sent command is its line in parts. -/
theorem SentCommand.line_eq (sent : SentCommand) :
    sent.line =
      sent.tag ++ spaced Argument.spelled (.atom sent.name sent.nameAtom :: sent.args) := by
  simp only [SentCommand.line, spaced, Argument.spelled, String.append_assoc]

/-- The line is parsed as the command just when its tokens are those that are meant. -/
theorem parse_iff (sent : SentCommand) :
    parseLine (bytes sent.line) = .ok sent.command ↔
      Tokens sent.line.toList (sent.units.map Argument.text) := by
  have read (values : List String) : tokenize (bytes sent.line) = .ok values ↔
      Tokens sent.line.toList values := by
    rw [tokenize, Utf8.fromUtf8Lossy_bytes]
    exact tokens_iff (Nat.lt_succ_self _)
  constructor
  · intro parsed
    unfold parseLine at parsed
    cases outcome : tokenize (bytes sent.line) with
    | diverges =>
      rw [outcome] at parsed
      cases parsed
    | failed error =>
      rw [outcome] at parsed
      cases parsed
    | ok values =>
      have tokens := (read values).mp outcome
      rw [outcome] at parsed
      have tokens' := tokens
      rw [sent.line_eq, String.toList_append] at tokens'
      obtain ⟨later, rfl, rest⟩ :=
        tokens_of_atom sent.tagAtom (head_spaced Argument.spelled _) tokens'
      have whole : (spaced Argument.spelled (.atom sent.name sent.nameAtom :: sent.args)).toList =
          ' ' :: (sent.name.toList ++ (spaced Argument.spelled sent.args).toList) := by
        simp [spaced, Argument.spelled]
      rw [whole, tokens_blank (by decide)] at rest
      obtain ⟨args, rfl, -⟩ :=
        tokens_of_atom sent.nameAtom (head_spaced Argument.spelled _) rest
      have same : args = sent.args.map Argument.text :=
        congrArg ParsedCommand.args (Parse.ok.inj parsed)
      rw [same] at tokens
      exact tokens
  · intro tokens
    rw [parseLine, (read _).mpr tokens]
    rfl

/-- What the steps through the whole command come to. -/
theorem reaches_wire (sent : SentCommand) :
    ∃ last front, Reaches (more {} sent.wire) (sent.args.countP Argument.isLiteral)
      (bytes sent.line) last front := by
  have free : '\n' ∉ (sent.tag ++ " " ++ sent.name).toList := by
    simp only [String.toList_append, List.mem_append, not_or]
    exact ⟨⟨sent.tagAtom.lf, by decide⟩, sent.nameAtom.lf⟩
  have unbraced : '\x7b' ∉ (sent.tag ++ " " ++ sent.name).toList := by
    simp only [String.toList_append, List.mem_append, not_or]
    exact ⟨⟨sent.tagAtom.unbraced, by decide⟩, sent.nameAtom.unbraced⟩
  exact reaches_args sent.args free (.inl unbraced) []

/-- The last line ends, and has no marker. -/
theorem Reaches.ended {reader : CommandReader} {markers : Nat} {whole front : List UInt8}
    {last : String} (reaches : Reaches reader markers whole last front) :
    Ended (bytes last ++ [13]) ∧ literalCount (bytes last ++ [13]).dropLast = none ∧
      front ++ (bytes last ++ [13]).dropLast = whole ∧
      bytes (last ++ "\r\n") = (bytes last ++ [13]) ++ 10 :: [] := by
  have bare : 10 ∉ bytes last := fun member =>
    reaches.oneLine (Utf8.ascii_mem_bytes (by decide) member)
  have crlf : bytes "\r\n" = [13, 10] := by decide
  refine ⟨⟨by simpa using bare, by simp⟩, ?_, ?_, ?_⟩
  · rw [List.dropLast_concat]
    exact literalCount_unmarked reaches.unmarked
  · rw [List.dropLast_concat]
    exact reaches.line
  · rw [bytes_append, crlf]
    simp

/-- A command that is parsed is what the steps come upon, behind the markers. -/
theorem Reaches.command {reader : CommandReader} {markers : Nat} {whole front : List UInt8}
    {last : String} (reaches : Reaches reader markers whole last front) {cmd : ParsedCommand}
    (parsed : parseLine whole = .ok cmd) :
    Reads move reader (List.replicate markers .marker ++ [.command cmd]) {} := by
  obtain ⟨ended, unmarked, line, wire⟩ := reaches.ended
  have reads := reaches.reads
  rw [wire] at reads
  exact reads.trans (.single (move_iff.mpr (.command ended unmarked (line ▸ parsed) [])))

end Talk.Verif.Arguments
