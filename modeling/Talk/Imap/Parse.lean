import Talk.Lib.Text

/-!
# IMAP command parsing

The reader of a connection's bytes, which assembles command lines with their literals, and the
parser of one line. The tokenizer does not return on a line with a closing parenthesis where a
token begins, so a parse has that outcome beside a value and an error.
-/

namespace Talk.Imap

open Text

/-- `ParseError`. -/
inductive ParseError where
  /-- A line without a command. -/
  | invalidCommand
  /-- A line that does not end with CRLF. -/
  | unterminated
  /-- A quoted string or a list that is not closed. -/
  | unclosedQuote
  deriving DecidableEq

/-- The name of an error, as it is displayed. -/
def ParseError.word : ParseError → String
  | .invalidCommand => "InvalidCommand"
  | .unterminated => "Unterminated"
  | .unclosedQuote => "UnclosedQuote"

/-- `ParsedCommand`. -/
structure ParsedCommand where
  /-- The tag. -/
  tag : String
  /-- The name, in uppercase. -/
  name : String
  /-- The arguments. -/
  args : List String
  deriving DecidableEq

/-- How a parse ends. -/
inductive Parse (α : Type) where
  /-- It does not. -/
  | diverges
  /-- With an error. -/
  | failed (error : ParseError)
  /-- With a value. -/
  | ok (value : α)
  deriving DecidableEq

/-- Apply a function to the value of a parse. -/
def Parse.map {α β : Type} (change : α → β) : Parse α → Parse β
  | .diverges => .diverges
  | .failed error => .failed error
  | .ok value => .ok (change value)

/-! ## Lines -/

/-- A list up to the parenthesis that closes `depth` open ones, and the text after it. -/
def closingParen : Nat → List Char → Option (List Char × List Char)
  | _, [] => none
  | depth, c :: rest =>
    if c = ')' ∧ depth = 1 then some ([c], rest)
    else
      let depth := if c = '(' then depth + 1 else if c = ')' then depth - 1 else depth
      (closingParen depth rest).map fun (inside, after) => (c :: inside, after)

/-- A quoted string after its first quote, and the text after it. -/
def closingQuote : List Char → Option (List Char × List Char)
  | [] => none
  | '"' :: rest => some ([], rest)
  | '\\' :: c :: rest => (closingQuote rest).map fun (inside, after) => (c :: inside, after)
  | c :: rest => (closingQuote rest).map fun (inside, after) => (c :: inside, after)

/-- A character of a bare atom. -/
def isAtomChar (c : Char) : Bool := !isWhitespace c && c != '(' && c != ')' && c != '"'

/-- The tokens of a text, with as many steps as it may take. -/
def tokens : Nat → List Char → Parse (List String)
  | 0, _ => .ok []
  | _, [] => .ok []
  | steps + 1, c :: rest =>
    if isWhitespace c then tokens steps rest
    else if c = '(' then
      match closingParen 1 rest with
      | none => .failed .unclosedQuote
      | some (inside, after) => (tokens steps after).map (String.ofList (c :: inside) :: ·)
    else if c = '"' then
      match closingQuote rest with
      | none => .failed .unclosedQuote
      | some (inside, after) => (tokens steps after).map (String.ofList inside :: ·)
    else if c = ')' then
      -- The atom is empty and nothing is consumed, again and again.
      .diverges
    else
      (tokens steps (rest.dropWhile isAtomChar)).map
        (String.ofList (c :: rest.takeWhile isAtomChar) :: ·)

/-- `tokenize`. -/
def tokenize (line : List UInt8) : Parse (List String) :=
  let chars := (Utf8.fromUtf8Lossy line).toList
  tokens (chars.length + 1) chars

/-- `parse_line`. -/
def parseLine (line : List UInt8) : Parse ParsedCommand :=
  match tokenize line with
  | .diverges => .diverges
  | .failed error => .failed error
  | .ok [] => .failed .invalidCommand
  | .ok [name] => .ok ⟨"", toAsciiUppercase name, []⟩
  | .ok (tag :: name :: args) => .ok ⟨tag, toAsciiUppercase name, args⟩

/-- `literal_count`: the length of the literal and of its marker. -/
def literalCount (line : List UInt8) : Option (Nat × Nat) :=
  match splitLast '\x7b' (Utf8.fromUtf8Lossy line).toList with
  | none => none
  | some (_, rest) =>
    if rest.getLast? = some '\x7d' then
      let inner := String.ofList rest.dropLast
      match parseUnsigned (2 ^ 64) (trim inner) with
      | none => none
      | some count =>
        if 2 ^ 20 < count then none else some (count, 2 + (Utf8.bytes inner).length)
    else none

/-! ## The reader -/

/-- `CommandReader`. -/
structure CommandReader where
  /-- The bytes that are not used yet. -/
  buf : List UInt8 := []
  /-- The command line so far. -/
  pendingLine : List UInt8 := []
  /-- The bytes of a literal that are still to come. -/
  literalRemaining : Option Nat := none
  deriving DecidableEq

/-- What a feed returns, and the reader it leaves. -/
abbrev Fed := Parse (List ParsedCommand) × CommandReader

/-- Add a command to what a feed returns. -/
def Fed.push (cmd : ParsedCommand) (fed : Fed) : Fed := (fed.1.map (cmd :: ·), fed.2)

/-- A complete line of the buffer, without its end, and the bytes after it. -/
def nextLine (buf : List UInt8) : Option (List UInt8 × List UInt8) :=
  if 10 ∈ buf then some (buf.takeWhile (· != 10), (buf.dropWhile (· != 10)).drop 1) else none

/-- The loop of `feed`, with as many rounds as it may take. -/
def feedLoop : Nat → CommandReader → Fed
  | 0, reader => (.ok [], reader)
  | rounds + 1, reader =>
    match reader.literalRemaining with
    | some count =>
      let taken := reader.buf.take count
      let reader := { reader with
        buf := reader.buf.drop count, pendingLine := reader.pendingLine ++ taken }
      if taken.length < count then
        (.ok [], { reader with literalRemaining := some (count - taken.length) })
      else feedLoop rounds { reader with literalRemaining := none }
    | none =>
      match nextLine reader.buf with
      | none => (.ok [], reader)
      | some (line, after) =>
        if line ≠ [] ∧ line.getLast? ≠ some 13 then
          (.failed .unterminated, { reader with buf := [] })
        else
          let line := line.dropLast
          match literalCount line with
          | some (count, marker) =>
            (.ok [], ⟨after, reader.pendingLine ++ line.take (line.length - marker), some count⟩)
          | none =>
            match parseLine (reader.pendingLine ++ line) with
            | .diverges => (.diverges, ⟨after, [], none⟩)
            | .failed error => (.failed error, ⟨after, [], none⟩)
            | .ok cmd => (feedLoop rounds ⟨after, [], none⟩).push cmd

/-- `feed`. Each round uses a line or a literal, so the rounds suffice. -/
def CommandReader.feed (reader : CommandReader) (data : List UInt8) : Fed :=
  let buf := reader.buf ++ data
  feedLoop (2 * buf.length + 2) { reader with buf := buf }

/-- `needs_continuation`. -/
def CommandReader.needsContinuation (reader : CommandReader) : Bool :=
  reader.literalRemaining.isSome

end Talk.Imap
