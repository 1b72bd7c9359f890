import Talk.Imap.Response
import Talk.Lib.Words
import Talk.Verif.Tokenizer

/-!
# The shapes of tokens

The tokens of a text without the way they are found: between blanks there are lists up to the
parenthesis that closes them, quoted strings up to the first quote without an escape, and atoms as
long as they go. The tokenizer returns the tokens of a text exactly when the text has these.
-/

namespace Talk.Verif.TokenShapes

open Imap Text

/-! ## Shapes -/

/-- The body of a quoted string, and the text that it means. -/
inductive Escapes : List Char → List Char → Prop where
  /-- Nothing. -/
  | nil : Escapes [] []
  /-- A character that means itself. -/
  | plain {c : Char} {body text : List Char} (quote : c ≠ '"') (slash : c ≠ '\\')
    (rest : Escapes body text) : Escapes (c :: body) (c :: text)
  /-- A character behind a backslash. -/
  | pair (c : Char) {body text : List Char} (rest : Escapes body text) :
    Escapes ('\\' :: c :: body) (c :: text)

/-- A token, what it means, and the text behind it. -/
inductive Token : List Char → List Char → List Char → Prop where
  /-- A list. -/
  | list {inner : List Char} (closed : balanced '(' ')' 0 inner = true) (after : List Char) :
    Token ('(' :: (inner ++ [')'])) ('(' :: (inner ++ [')'])) after
  /-- A quoted string. -/
  | quoted {body text : List Char} (escapes : Escapes body text) (after : List Char) :
    Token ('"' :: (body ++ ['"'])) text after
  /-- An atom. -/
  | atom {span after : List Char} (filled : span ≠ []) (each : ∀ c ∈ span, isAtomChar c = true)
    (stops : ∀ c ∈ after.head?, isAtomChar c = false) : Token span span after

/-- The tokens of a text. -/
inductive Tokens : List Char → List String → Prop where
  /-- There are none in blanks. -/
  | blank {chars : List Char} (blanks : ∀ c ∈ chars, isWhitespace c = true) : Tokens chars []
  /-- There is one behind blanks. -/
  | token {blank span value after : List Char} {values : List String}
    (blanks : ∀ c ∈ blank, isWhitespace c = true) (first : Token span value after)
    (rest : Tokens after values) :
    Tokens (blank ++ (span ++ after)) (String.ofList value :: values)

/-! ## Quoted strings and lists -/

/-- The quote that ends a quoted string. -/
theorem closingQuote_iff {chars text after : List Char} :
    closingQuote chars = some (text, after) ↔
      ∃ body, chars = body ++ '"' :: after ∧ Escapes body text := by
  constructor
  · intro closed
    fun_induction closingQuote chars generalizing text after with
    | case1 => cases closed
    | case2 rest =>
      obtain ⟨rfl, rfl⟩ := Prod.mk.inj (Option.some.inj closed)
      exact ⟨[], rfl, .nil⟩
    | case3 c rest ih =>
      obtain ⟨⟨inside, behind⟩, found, same⟩ := Option.map_eq_some_iff.mp closed
      obtain ⟨rfl, rfl⟩ := Prod.mk.inj same
      obtain ⟨body, rfl, escapes⟩ := ih found
      exact ⟨'\\' :: c :: body, rfl, .pair c escapes⟩
    | case4 c rest quote pair ih =>
      obtain ⟨⟨inside, behind⟩, found, same⟩ := Option.map_eq_some_iff.mp closed
      obtain ⟨rfl, rfl⟩ := Prod.mk.inj same
      obtain ⟨body, rfl, escapes⟩ := ih found
      refine ⟨c :: body, rfl, .plain quote ?_ escapes⟩
      intro slash
      cases body with
      | nil => exact pair _ _ slash rfl
      | cons next body => exact pair _ _ slash rfl
  · rintro ⟨body, rfl, escapes⟩
    induction escapes with
    | nil => rfl
    | @plain c body text quote slash rest ih =>
      have step : closingQuote (c :: (body ++ '"' :: after)) =
          (closingQuote (body ++ '"' :: after)).map
            fun found => (c :: found.1, found.2) := by
        rw [closingQuote.eq_4]
        · exact fun same => quote same
        · exact fun _ _ same => absurd same slash
      rw [List.cons_append, step, ih]
      rfl
    | pair c rest ih =>
      rw [List.cons_append, List.cons_append, closingQuote, ih]
      rfl

/-- A body has one meaning, and ends at its first quote without an escape. -/
theorem Escapes.unique {body other text value after behind : List Char}
    (escapes : Escapes body text) (also : Escapes other value)
    (same : body ++ '"' :: after = other ++ '"' :: behind) :
    text = value ∧ after = behind := by
  have one := closingQuote_iff.mpr ⟨body, Eq.refl (body ++ '"' :: after), escapes⟩
  have two := closingQuote_iff.mpr ⟨other, Eq.refl (other ++ '"' :: behind), also⟩
  rw [same, two] at one
  obtain ⟨rfl, rfl⟩ := Prod.mk.inj (Option.some.inj one)
  exact ⟨rfl, rfl⟩

/-- What a body means is no longer than it is. -/
theorem Escapes.length_le {body text : List Char} (escapes : Escapes body text) :
    text.length ≤ body.length := by
  induction escapes with
  | nil => exact Nat.le_refl _
  | plain _ _ _ ih => exact Nat.succ_le_succ ih
  | pair _ _ ih =>
    rw [List.length_cons, List.length_cons, List.length_cons]
    omega

/-- A quoted string that the server writes. -/
theorem escapes_quote (text : List Char) : Escapes (text.flatMap quoteChar) text := by
  induction text with
  | nil => exact .nil
  | cons c text ih =>
    rw [List.flatMap_cons, quoteChar]
    by_cases special : c = '\\' ∨ c = '"'
    · rw [if_pos special]
      exact .pair c ih
    · rw [if_neg special]
      exact .plain (fun same => special (.inr same)) (fun same => special (.inl same)) ih

/-- The parenthesis that ends a list is the one behind a balanced text. -/
theorem closingParen_iff {chars inside after : List Char} :
    closingParen 1 chars = some (inside, after) ↔
      ∃ text, chars = text ++ ')' :: after ∧ inside = text ++ [')'] ∧
        balanced '(' ')' 0 text = true := by
  have same (depth : Nat) : closingParen depth chars =
      (upToClosing '(' ')' depth chars).map fun found => (found.1 ++ [')'], found.2) := by
    induction chars generalizing depth with
    | nil => rfl
    | cons c chars ih =>
      rw [closingParen, upToClosing]
      by_cases ends : c = ')' ∧ depth = 1
      · rw [if_pos ends, if_pos ends, ends.1]
        rfl
      · rw [if_neg ends, if_neg ends]
        dsimp only
        rw [ih, Option.map_map, Option.map_map]
        rfl
  rw [same, Option.map_eq_some_iff]
  constructor
  · rintro ⟨⟨text, rest⟩, found, pair⟩
    obtain ⟨rfl, rfl⟩ := Prod.mk.inj pair
    obtain ⟨cut, even⟩ := (upToClosing_iff (by decide)).mp found
    exact ⟨text, cut, rfl, even⟩
  · rintro ⟨text, cut, rfl, even⟩
    exact ⟨(text, after), (upToClosing_iff (by decide)).mpr ⟨cut, even⟩, rfl⟩

/-! ## The first token -/

/-- What a token means is no longer than it is. -/
theorem Token.length_le {span value after : List Char} (token : Token span value after) :
    value.length ≤ span.length := by
  cases token with
  | list => exact Nat.le_refl _
  | quoted escapes =>
    have least := escapes.length_le
    rw [List.length_cons, List.length_append]
    omega
  | atom => exact Nat.le_refl _

/-- The first character of a token. -/
theorem Token.head {span value after : List Char} (token : Token span value after) :
    ∃ c rest, span = c :: rest ∧ (c = '(' ∨ c = '"' ∨ isAtomChar c = true) := by
  cases token with
  | list => exact ⟨_, _, rfl, .inl rfl⟩
  | quoted => exact ⟨_, _, rfl, .inr (.inl rfl)⟩
  | atom filled each =>
    obtain ⟨c, rest, rfl⟩ := List.exists_cons_of_ne_nil filled
    exact ⟨c, rest, rfl, .inr (.inr (each c List.mem_cons_self))⟩

/-- A character that begins a token is no blank. -/
theorem solid_of_begins {c : Char} (begins : c = '(' ∨ c = '"' ∨ isAtomChar c = true) :
    isWhitespace c = false := by
  rcases begins with rfl | rfl | plain
  · decide
  · decide
  · simp only [isAtomChar, Bool.and_eq_true, Bool.not_eq_true'] at plain
    exact plain.1.1.1

/-- The last character of a token. -/
theorem Token.last {span value after : List Char} (token : Token span value after) :
    ∃ front c, span = front ++ [c] ∧ (c = ')' ∨ c = '"' ∨ isAtomChar c = true) := by
  cases token with
  | @list inner => exact ⟨'(' :: inner, ')', rfl, .inl rfl⟩
  | @quoted body => exact ⟨'"' :: body, '"', rfl, .inr (.inl rfl)⟩
  | atom filled each =>
    obtain ⟨front, c, rfl⟩ := (List.eq_nil_or_concat' span).resolve_left filled
    exact ⟨front, c, rfl, .inr (.inr (each c (by simp)))⟩

/-- A blank before tokens is none of them. -/
theorem tokens_blank {c : Char} (blank : isWhitespace c = true) {chars : List Char}
    {values : List String} : Tokens (c :: chars) values ↔ Tokens chars values := by
  constructor
  · intro tokens
    generalize whole : c :: chars = text at tokens
    cases tokens with
    | blank blanks =>
      exact .blank fun other member => blanks other (whole ▸ List.mem_cons_of_mem c member)
    | @token before span value after values blanks first rest =>
      cases before with
      | nil =>
        obtain ⟨d, more, rfl, begins⟩ := first.head
        obtain ⟨rfl, -⟩ := List.cons.inj whole
        rw [solid_of_begins begins] at blank
        cases blank
      | cons d before =>
        obtain ⟨rfl, rfl⟩ := List.cons.inj whole
        exact .token (fun other member => blanks other (List.mem_cons_of_mem _ member)) first rest
  · intro tokens
    cases tokens with
    | blank blanks =>
      refine .blank fun other member => ?_
      rcases List.mem_cons.mp member with rfl | later
      · exact blank
      · exact blanks other later
    | @token before span value after values blanks first rest =>
      have more : ∀ other ∈ c :: before, isWhitespace other = true := fun other member => by
        rcases List.mem_cons.mp member with rfl | later
        · exact blank
        · exact blanks other later
      exact .token more first rest

/-- The first token of a text that does not begin with a blank. -/
theorem tokens_solid {c : Char} (solid : isWhitespace c = false) {chars : List Char}
    {values : List String} (tokens : Tokens (c :: chars) values) :
    ∃ span value after rest, c :: chars = span ++ after ∧ Token span value after ∧
      values = String.ofList value :: rest ∧ Tokens after rest := by
  generalize whole : c :: chars = text at tokens
  cases tokens with
  | blank blanks =>
    have here := blanks c (whole ▸ List.mem_cons_self)
    rw [solid] at here
    cases here
  | @token before span value after rest blanks first later =>
    cases before with
    | nil => exact ⟨span, value, after, rest, rfl, first, rfl, later⟩
    | cons d before =>
      obtain ⟨rfl, -⟩ := List.cons.inj whole
      have here := blanks c List.mem_cons_self
      rw [solid] at here
      cases here

/-- The first token of a text. -/
theorem tokens_first {chars : List Char} {first : String} {values : List String}
    (tokens : Tokens chars (first :: values)) :
    ∃ blank span value after, chars = blank ++ (span ++ after) ∧ Token span value after ∧
      first = String.ofList value ∧ Tokens after values := by
  cases tokens with
  | @token blank span value after _ _ token rest =>
    exact ⟨blank, span, value, after, rfl, token, rfl, rest⟩

/-- A token that begins with a parenthesis is a list. -/
theorem Token.of_list {span value after rest : List Char} (token : Token span value after)
    (cut : '(' :: rest = span ++ after) :
    ∃ inside, closingParen 1 rest = some (inside, after) ∧ value = '(' :: inside := by
  cases token with
  | @list inner closed =>
    have same : rest = inner ++ ')' :: after := by simpa using (List.cons.inj cut).2
    exact ⟨inner ++ [')'], closingParen_iff.mpr ⟨inner, same, rfl, closed⟩, rfl⟩
  | quoted => cases (List.cons.inj cut).1
  | atom filled each =>
    obtain ⟨c, more, rfl⟩ := List.exists_cons_of_ne_nil filled
    obtain ⟨rfl, -⟩ := List.cons.inj cut
    exact absurd (each _ List.mem_cons_self) (by decide)

/-- A token that begins with a quote is a quoted string. -/
theorem Token.of_quote {span value after rest : List Char} (token : Token span value after)
    (cut : '"' :: rest = span ++ after) : closingQuote rest = some (value, after) := by
  cases token with
  | list => cases (List.cons.inj cut).1
  | @quoted body _ escapes =>
    have same : rest = body ++ '"' :: after := by simpa using (List.cons.inj cut).2
    exact closingQuote_iff.mpr ⟨body, same, escapes⟩
  | atom filled each =>
    obtain ⟨c, more, rfl⟩ := List.exists_cons_of_ne_nil filled
    obtain ⟨rfl, -⟩ := List.cons.inj cut
    exact absurd (each _ List.mem_cons_self) (by decide)

/-- Any other token is an atom. -/
theorem Token.of_atom {span value after rest : List Char} (token : Token span value after)
    {c : Char} (list : c ≠ '(') (quote : c ≠ '"') (cut : c :: rest = span ++ after) :
    isAtomChar c = true ∧ value = c :: rest.takeWhile isAtomChar ∧
      after = rest.dropWhile isAtomChar := by
  cases token with
  | list => exact absurd (List.cons.inj cut).1 list
  | quoted => exact absurd (List.cons.inj cut).1 quote
  | atom filled each stops =>
    obtain ⟨d, more, rfl⟩ := List.exists_cons_of_ne_nil filled
    have cut : c :: rest = d :: (more ++ after) := cut
    obtain ⟨rfl, rfl⟩ := List.cons.inj cut
    have inner : ∀ d ∈ more, isAtomChar d = true := fun d member =>
      each d (List.mem_cons_of_mem _ member)
    refine ⟨each c List.mem_cons_self, ?_, ?_⟩
    · rw [List.takeWhile_append_of_pos inner]
      cases after with
      | nil => simp
      | cons next after => simp [stops next rfl]
    · rw [List.dropWhile_append_of_pos inner]
      cases after with
      | nil => rfl
      | cons next after => simp [stops next rfl]

/-- An atom as long as it goes. -/
theorem token_atom {c : Char} (plain : isAtomChar c = true) (rest : List Char) :
    Token (c :: rest.takeWhile isAtomChar) (c :: rest.takeWhile isAtomChar)
      (rest.dropWhile isAtomChar) := by
  refine .atom (List.cons_ne_nil _ _) (fun d member => ?_) fun d first => ?_
  · rcases List.mem_cons.mp member with rfl | inside
    · exact plain
    · exact List.all_eq_true.mp List.all_takeWhile d inside
  · have stop := List.head?_dropWhile_not isAtomChar rest
    rw [Option.mem_def.mp first] at stop
    exact stop

/-- The first token of a text, and what is behind it: no other one can be cut off. -/
structure First (chars value behind : List Char) : Prop where
  /-- The token is cut off. -/
  token : ∃ span, Token span value behind ∧ chars = span ++ behind
  /-- A token that is cut off is this one. -/
  unique : ∀ {span other after : List Char}, Token span other after → chars = span ++ after →
    other = value ∧ after = behind

/-- A list that is closed is the first token. -/
theorem first_list {rest inside behind : List Char}
    (closed : closingParen 1 rest = some (inside, behind)) :
    First ('(' :: rest) ('(' :: inside) behind := by
  obtain ⟨inner, rfl, rfl, even⟩ := closingParen_iff.mp closed
  refine ⟨⟨_, .list even behind, by simp⟩, fun token cut => ?_⟩
  obtain ⟨inside, some, rfl⟩ := token.of_list cut
  rw [closed] at some
  obtain ⟨rfl, rfl⟩ := Prod.mk.inj (Option.some.inj some)
  exact ⟨rfl, rfl⟩

/-- A quoted string that is closed is the first token. -/
theorem first_quote {rest inside behind : List Char}
    (closed : closingQuote rest = some (inside, behind)) : First ('"' :: rest) inside behind := by
  obtain ⟨body, rfl, escapes⟩ := closingQuote_iff.mp closed
  refine ⟨⟨_, .quoted escapes behind, by simp⟩, fun token cut => ?_⟩
  have some := token.of_quote cut
  rw [closed] at some
  obtain ⟨rfl, rfl⟩ := Prod.mk.inj (Option.some.inj some)
  exact ⟨rfl, rfl⟩

/-- An atom is the first token, as long as it goes. -/
theorem first_atom {c : Char} (plain : isAtomChar c = true) (list : c ≠ '(') (quote : c ≠ '"')
    (rest : List Char) :
    First (c :: rest) (c :: rest.takeWhile isAtomChar) (rest.dropWhile isAtomChar) :=
  ⟨⟨_, token_atom plain rest, by simp⟩, fun token cut => (token.of_atom list quote cut).2⟩

/-- What is behind the first token is shorter than the text. -/
theorem First.shorter {c : Char} {rest value behind : List Char}
    (first : First (c :: rest) value behind) : behind.length ≤ rest.length := by
  obtain ⟨span, token, cut⟩ := first.token
  obtain ⟨d, more, rfl, -⟩ := token.head
  have lengths := congrArg List.length cut
  rw [List.length_cons, List.length_append, List.length_cons] at lengths
  omega

/-- The tokens of a text are the first one and those behind it. -/
theorem First.tokens_iff {c : Char} {rest value behind : List Char}
    (first : First (c :: rest) value behind) (solid : isWhitespace c = false)
    {values : List String} : Tokens (c :: rest) values ↔
      ∃ later, values = String.ofList value :: later ∧ Tokens behind later := by
  constructor
  · intro whole
    obtain ⟨span, other, after, later, also, token, rfl, read⟩ := tokens_solid solid whole
    obtain ⟨rfl, rfl⟩ := first.unique token also
    exact ⟨later, rfl, read⟩
  · rintro ⟨later, rfl, read⟩
    obtain ⟨span, token, cut⟩ := first.token
    rw [cut, ← List.nil_append (span ++ behind)]
    exact .token (fun c member => absurd member List.not_mem_nil) token read

/-- The empty text has no tokens. -/
theorem tokens_nil_iff {values : List String} : Tokens [] values ↔ values = [] := by
  constructor
  · intro tokens
    generalize whole : ([] : List Char) = text at tokens
    cases tokens with
    | blank => rfl
    | token _ first =>
      obtain ⟨c, rest, rfl, -⟩ := first.head
      simp at whole
  · rintro rfl
    exact .blank fun c member => absurd member List.not_mem_nil

/-- A list that is not closed has no tokens. -/
theorem not_tokens_list {rest : List Char} (closed : closingParen 1 rest = none)
    {values : List String} : ¬Tokens ('(' :: rest) values := by
  intro whole
  obtain ⟨span, value, behind, later, cut, token, -, -⟩ := tokens_solid (by decide) whole
  obtain ⟨inside, some, -⟩ := token.of_list cut
  rw [closed] at some
  cases some

/-- A quoted string that is not closed has no tokens. -/
theorem not_tokens_quote {rest : List Char} (closed : closingQuote rest = none)
    {values : List String} : ¬Tokens ('"' :: rest) values := by
  intro whole
  obtain ⟨span, value, behind, later, cut, token, -, -⟩ := tokens_solid (by decide) whole
  have some := token.of_quote cut
  rw [closed] at some
  cases some

/-- A text that begins with a closing parenthesis has no tokens. -/
theorem not_tokens_stray {rest : List Char} {values : List String} :
    ¬Tokens (')' :: rest) values := by
  intro whole
  obtain ⟨span, value, behind, later, cut, token, -, -⟩ := tokens_solid (by decide) whole
  exact absurd (token.of_atom (by decide) (by decide) cut).1 (by decide)

/-! ## The tokenizer -/

/-- A changed parse returns a value when the parse returns one that is changed to it. -/
theorem map_eq_ok {α β : Type} {parse : Parse α} {change : α → β} {value : β} :
    parse.map change = .ok value ↔ ∃ inner, parse = .ok inner ∧ change inner = value := by
  cases parse with
  | diverges =>
    refine iff_of_false (fun same => by cases same) ?_
    rintro ⟨inner, same, -⟩
    cases same
  | failed error =>
    refine iff_of_false (fun same => by cases same) ?_
    rintro ⟨inner, same, -⟩
    cases same
  | ok inner =>
    constructor
    · intro same
      exact ⟨inner, rfl, Parse.ok.inj same⟩
    · rintro ⟨other, same, rfl⟩
      rw [Parse.ok.inj same]
      rfl

/-- The tokenizer returns the tokens of a text. -/
theorem tokens_iff {steps : Nat} {chars : List Char} (enough : chars.length < steps)
    {values : List String} : tokens steps chars = .ok values ↔ Tokens chars values := by
  induction steps generalizing chars values with
  | zero => exact absurd enough (Nat.not_lt_zero _)
  | succ steps ih =>
    cases chars with
    | nil =>
      have nothing : tokens (steps + 1) [] = .ok [] := rfl
      rw [nothing, tokens_nil_iff, Parse.ok.injEq, eq_comm]
    | cons c rest =>
      rw [List.length_cons] at enough
      -- A first token that is found is followed by the tokens behind it.
      have found {value behind : List Char} (first : First (c :: rest) value behind)
          (solid : isWhitespace c = false) :
          (tokens steps behind).map (String.ofList value :: ·) = .ok values ↔
            Tokens (c :: rest) values := by
        have shorter := first.shorter
        rw [first.tokens_iff solid, map_eq_ok]
        constructor
        · rintro ⟨later, read, rfl⟩
          exact ⟨later, rfl, (ih (by omega)).mp read⟩
        · rintro ⟨later, rfl, read⟩
          exact ⟨later, (ih (by omega)).mpr read, rfl⟩
      rw [tokens]
      by_cases blank : isWhitespace c = true
      · rw [if_pos blank, tokens_blank blank]
        exact ih (by omega)
      rw [if_neg blank]
      have solid := Bool.eq_false_of_not_eq_true blank
      by_cases list : c = '('
      · subst list
        rw [if_pos rfl]
        cases closed : closingParen 1 rest with
        | none => exact iff_of_false (fun same => by cases same) (not_tokens_list closed)
        | some parts => exact found (first_list closed) solid
      rw [if_neg list]
      by_cases quote : c = '"'
      · subst quote
        rw [if_pos rfl]
        cases closed : closingQuote rest with
        | none => exact iff_of_false (fun same => by cases same) (not_tokens_quote closed)
        | some parts => exact found (first_quote closed) solid
      rw [if_neg quote]
      by_cases stray : c = ')'
      · subst stray
        rw [if_pos rfl]
        exact iff_of_false (fun same => by cases same) not_tokens_stray
      · rw [if_neg stray]
        have plain : isAtomChar c = true := by
          simp [isAtomChar, solid, list, quote, stray]
        exact found (first_atom plain list quote rest) solid

end Talk.Verif.TokenShapes
