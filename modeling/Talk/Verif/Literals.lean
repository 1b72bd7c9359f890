import Talk.Verif.Arguments

/-!
# Literals among the arguments

What a literal holds is put into the line and cut into tokens again. It comes out as one argument
exactly when it is itself one atom or one list: then its place in the line is that of one token.
Another literal is behind or ahead of the tokens from its place on, and no argument that follows it
brings them together again.
-/

namespace Talk.Verif.Literals

open Imap Text Arguments Chunking Incremental ReaderSteps TokenShapes
open Utf8 (bytes)

/-! ## Literals that are tokens -/

/-- A text that is one atom, or one list. -/
def Bare (text : String) : Prop :=
  (text ≠ "" ∧ ∀ c ∈ text.toList, isAtomChar c = true) ∨
    ∃ inner, text.toList = '(' :: (inner ++ [')']) ∧ balanced '(' ')' 0 inner = true

/-- Every literal is one atom or one list. -/
def AllBare (args : List Argument) : Prop :=
  ∀ arg ∈ args, match arg with
    | .atom _ _ | .quoted _ _ => True
    | .literal text _ => Bare text

/-- However the bytes of the command are cut into feeds, they return this one command in the end,
and nothing is left of it. -/
def Exact (sent : SentCommand) : Prop :=
  ∀ chunks : List (List UInt8), chunks.flatten = sent.wire →
    ∃ count, feeds {} (chunks ++ List.replicate count []) = (.ok [sent.command], {})

/-- Such a literal is one token. -/
theorem oneToken_literal {text : String} (small : (bytes text).length ≤ 2 ^ 20)
    (bare : Bare text) : OneToken (.literal text small) := by
  intro after behind
  rcases bare with ⟨filled, each⟩ | ⟨inner, shape, closed⟩
  · refine .atom (fun empty => filled (String.toList_eq_nil_iff.mp empty)) each ?_
    intro c first
    rw [behind c first]
    decide
  · have chars : (Argument.literal text small).spelled.toList = '(' :: (inner ++ [')']) := shape
    have also : (Argument.literal text small).text.toList = '(' :: (inner ++ [')']) := shape
    rw [chars, also]
    exact .list closed after

/-! ## Bodies of quoted strings -/

/-- A quote in a body has a backslash before it and is part of what the body means. -/
theorem escapes_split {body text front back : List Char} (escapes : Escapes body text)
    (cut : body = front ++ '"' :: back) :
    ∃ before after, text = before ++ '"' :: after ∧ Escapes back after := by
  induction escapes generalizing front with
  | nil => simp at cut
  | @plain c body text quote slash rest ih =>
    cases front with
    | nil => exact absurd (List.cons.inj cut).1 quote
    | cons first front =>
      obtain ⟨-, inner⟩ := List.cons.inj cut
      obtain ⟨before, after, rfl, later⟩ := ih inner
      exact ⟨c :: before, after, rfl, later⟩
  | @pair c body text rest ih =>
    cases front with
    | nil => cases (List.cons.inj cut).1
    | cons first front =>
      obtain ⟨-, cut⟩ := List.cons.inj cut
      cases front with
      | nil =>
        obtain ⟨rfl, rfl⟩ := List.cons.inj cut
        exact ⟨[], text, rfl, rest⟩
      | cons second front =>
        obtain ⟨-, inner⟩ := List.cons.inj cut
        obtain ⟨before, after, rfl, later⟩ := ih inner
        exact ⟨c :: before, after, rfl, later⟩

/-- A body and what it means have the same characters other than backslashes. -/
theorem escapes_countP {body text : List Char} (escapes : Escapes body text) :
    body.countP (· != '\\') = text.countP (· != '\\') := by
  induction escapes with
  | nil => rfl
  | plain _ _ _ ih => rw [List.countP_cons, List.countP_cons, ih]
  | pair c _ ih =>
    have slash : ('\\' != '\\') = false := by decide
    rw [List.countP_cons, List.countP_cons, List.countP_cons, ih, slash]
    rfl

/-- A body and what it means have the same last character. -/
theorem escapes_last {front : List Char} {c : Char} {text : List Char}
    (escapes : Escapes (front ++ [c]) text) : ∃ before, text = before ++ [c] := by
  generalize whole : front ++ [c] = body at escapes
  induction escapes generalizing front with
  | nil => simp at whole
  | @plain d body text quote slash rest ih =>
    cases front with
    | nil =>
      obtain ⟨rfl, rfl⟩ := List.cons.inj whole
      cases rest
      exact ⟨[], rfl⟩
    | cons first front =>
      obtain ⟨-, inner⟩ := List.cons.inj whole
      obtain ⟨before, rfl⟩ := ih inner
      exact ⟨d :: before, rfl⟩
  | @pair d body text rest ih =>
    cases front with
    | nil => cases (List.cons.inj whole).2
    | cons first front =>
      obtain ⟨-, whole⟩ := List.cons.inj whole
      cases front with
      | nil =>
        obtain ⟨rfl, rfl⟩ := List.cons.inj whole
        cases rest
        exact ⟨[], rfl⟩
      | cons second front =>
        obtain ⟨-, inner⟩ := List.cons.inj whole
        obtain ⟨before, rfl⟩ := ih inner
        exact ⟨d :: before, rfl⟩

/-- The first space of a body is no later in what the body means. -/
theorem escapes_space {front back text : List Char} (escapes : Escapes (front ++ ' ' :: back) text)
    (free : ' ' ∉ front) : ∃ before after, text = before ++ ' ' :: after ∧
      before.length ≤ front.length := by
  generalize whole : front ++ ' ' :: back = body at escapes
  induction escapes generalizing front with
  | nil => simp at whole
  | @plain d body text quote slash rest ih =>
    cases front with
    | nil =>
      obtain ⟨rfl, rfl⟩ := List.cons.inj whole
      exact ⟨[], text, rfl, Nat.le_refl _⟩
    | cons first front =>
      obtain ⟨rfl, inner⟩ := List.cons.inj whole
      obtain ⟨before, after, rfl, short⟩ :=
        ih (fun member => free (List.mem_cons_of_mem _ member)) inner
      exact ⟨first :: before, after, rfl, Nat.succ_le_succ short⟩
  | @pair d body text rest ih =>
    cases front with
    | nil => cases (List.cons.inj whole).1
    | cons first front =>
      obtain ⟨-, whole⟩ := List.cons.inj whole
      cases front with
      | nil =>
        obtain ⟨rfl, rfl⟩ := List.cons.inj whole
        exact ⟨[], text, rfl, Nat.zero_le _⟩
      | cons second front =>
        obtain ⟨rfl, inner⟩ := List.cons.inj whole
        obtain ⟨before, after, rfl, short⟩ := ih (fun member =>
          free (List.mem_cons_of_mem _ (List.mem_cons_of_mem _ member))) inner
        refine ⟨second :: before, after, rfl, ?_⟩
        rw [List.length_cons, List.length_cons, List.length_cons]
        omega

/-- A body that begins with a space is not what it means, as far as that goes. -/
theorem not_shifted {body text rest after : List Char} (escapes : Escapes body text)
    (same : body ++ '"' :: after = (' ' :: text) ++ rest) : False := by
  induction escapes with
  | nil => cases (List.cons.inj same).1
  | plain _ _ _ ih =>
    obtain ⟨rfl, inner⟩ := List.cons.inj same
    exact ih inner
  | pair => cases (List.cons.inj same).1

/-- A quoted string does not mean itself: the first space in it, or behind it, would be too early in
what it means. -/
theorem not_own_quote {text body rest after : List Char} (escapes : Escapes body ('"' :: text))
    (same : body ++ '"' :: after = text ++ rest) (behind : ∀ c ∈ rest.head?, c = ' ') : False := by
  have long := escapes.length_le
  rw [List.length_cons] at long
  obtain ⟨more, rfl⟩ : ∃ more, body = text ++ more := by
    have cut : body <+: text ++ rest := ⟨_, same⟩
    obtain ⟨more, whole⟩ := List.prefix_of_prefix_length_le (List.prefix_append text rest) cut
      (by omega)
    exact ⟨more, whole.symm⟩
  cases more with
  | nil =>
    rw [List.append_nil] at long
    omega
  | cons c more =>
    rw [List.append_assoc] at same
    have tail := List.append_cancel_left same
    obtain rfl : c = ' ' := behind c (by rw [← tail]; rfl)
    obtain ⟨front, back, shape, free⟩ :=
      List.eq_append_cons_of_mem (show ' ' ∈ text ++ ' ' :: more by simp)
    rw [shape] at escapes
    obtain ⟨before, later, meant, short⟩ := escapes_space escapes free
    cases before with
    | nil => cases (List.cons.inj meant).1
    | cons first before =>
      obtain ⟨-, rfl⟩ := List.cons.inj meant
      rw [List.length_cons] at short
      have cut : before ++ ' ' :: (later ++ ' ' :: more) = front ++ ' ' :: back := by
        simpa using shape
      rcases List.append_eq_append_iff.mp cut with ⟨middle, rfl, tail⟩ | ⟨middle, rfl, tail⟩
      · cases middle with
        | nil => simp at short
        | cons d middle =>
          obtain ⟨rfl, -⟩ := List.cons.inj tail
          exact free (List.mem_append_right before List.mem_cons_self)
      · rw [List.length_append] at short
        omega

/-! ## Tokens out of place -/

/-- The line behind a first argument. -/
abbrev tail (args : List Argument) : List Char := (spaced Argument.spelled args).toList

/-- The line behind an argument, one argument on. -/
theorem tail_cons (arg : Argument) (args : List Argument) :
    tail (arg :: args) = ' ' :: (arg.spelled.toList ++ tail args) := by
  simp [tail, spaced]

/-- Where a body holds what it means as it is, it has only backslashes besides, and these and the
last quote are left behind. -/
theorem slashes_left {body meant front left : List Char} (escapes : Escapes body meant)
    {before : List Char} {c : Char} (last : meant = before ++ [c]) (other : c ≠ '"')
    (cut : body ++ ['"'] = front ++ (meant ++ left)) :
    ∃ slashes, left = slashes ++ ['"'] ∧ (∀ d ∈ slashes, d = '\\') ∧
      body = front ++ (meant ++ slashes) := by
  rcases List.eq_nil_or_concat' left with rfl | ⟨slashes, d, rfl⟩
  · have ends : body ++ ['"'] = (front ++ before) ++ [c] := by
      rw [cut, last]
      simp
    have same := List.append_inj_right' ends rfl
    exact absurd (List.cons.inj same).1.symm other
  · have ends : body ++ ['"'] = (front ++ (meant ++ slashes)) ++ [d] := by
      rw [cut]
      simp
    have whole := List.append_inj_left' ends rfl
    obtain ⟨rfl, -⟩ := List.cons.inj (List.append_inj_right' ends rfl)
    have counted := escapes_countP escapes
    rw [whole, List.countP_append, List.countP_append] at counted
    have none : slashes.countP (· != '\\') = 0 := by omega
    refine ⟨slashes, rfl, fun d member => ?_, whole⟩
    have plain := List.countP_eq_zero.mp none d member
    simpa using plain

/-- A token inside an argument that means the argument but does not begin where it begins: the
argument is quoted, and only its last quote is left. -/
theorem inside_argument {arg : Argument} {front span left after : List Char} (some : front ≠ [])
    (cut : arg.spelled.toList = front ++ (span ++ left))
    (token : Token span arg.text.toList (left ++ after)) : left = ['"'] := by
  have long := token.length_le
  cases arg with
  | atom text plain | literal text small =>
    have lengths := congrArg List.length cut
    have positive := List.length_pos_iff.mpr some
    simp only [Argument.spelled, Argument.text, List.length_append] at lengths long
    omega
  | quoted text oneLine =>
    rw [Argument.spelled, toList_quote] at cut
    rw [Argument.text] at token
    have escapes := escapes_quote text.toList
    generalize text.toList = meant at cut token escapes
    generalize meant.flatMap quoteChar = body at cut escapes
    obtain ⟨first, front, rfl⟩ := List.exists_cons_of_ne_nil some
    have cut : body ++ ['"'] = front ++ (span ++ left) := (List.cons.inj cut).2
    cases token with
    | @quoted inner _ also =>
      exfalso
      obtain ⟨rest, ending⟩ : ∃ rest, inner ++ '"' :: left = rest ++ ['"'] := by
        rcases List.eq_nil_or_concat' left with rfl | ⟨rest, d, rfl⟩
        · exact ⟨inner, rfl⟩
        · have ends : body ++ ['"'] = (front ++ ('"' :: (inner ++ '"' :: rest))) ++ [d] := by
            simpa using cut
          obtain ⟨rfl, -⟩ := List.cons.inj (List.append_inj_right' ends rfl)
          exact ⟨inner ++ '"' :: rest, by simp⟩
      have whole : body = front ++ '"' :: rest := by
        have grouped : body ++ ['"'] = (front ++ '"' :: rest) ++ ['"'] := by
          rw [List.append_assoc, List.cons_append, ← ending]
          simpa using cut
        exact List.append_cancel_right grouped
      obtain ⟨before, later, shape, tail⟩ := escapes_split escapes whole
      have same := tail.unique also ending.symm
      have lengths := congrArg List.length shape
      rw [same.1, List.length_append, List.length_cons] at lengths
      omega
    | @list inner closed =>
      have last : '(' :: (inner ++ [')']) = ('(' :: inner) ++ [')'] := rfl
      obtain ⟨slashes, rfl, only, whole⟩ := slashes_left escapes last (by decide) cut
      rcases List.eq_nil_or_concat' slashes with rfl | ⟨others, d, rfl⟩
      · rfl
      · obtain rfl := only d (by simp)
        have grouped : body = (front ++ ('(' :: (inner ++ [')'] ++ others))) ++ ['\\'] := by
          rw [whole]
          simp
        obtain ⟨before, shape⟩ := escapes_last (grouped ▸ escapes)
        have same := List.append_inj_right' (last.symm.trans shape) rfl
        exact absurd (List.cons.inj same).1 (by decide)
    | atom filled each stops =>
      obtain ⟨before, c, last⟩ := (List.eq_nil_or_concat' span).resolve_left filled
      have plain := each c (by rw [last]; simp)
      have other : c ≠ '"' := fun same => absurd (same ▸ plain) (by decide)
      obtain ⟨slashes, rfl, only, -⟩ := slashes_left escapes last other cut
      cases slashes with
      | nil => rfl
      | cons d slashes =>
        obtain rfl := only d List.mem_cons_self
        exact absurd (stops '\\' rfl) (by decide)

/-- The last quote of an argument does not begin the arguments that follow it. -/
theorem not_reopened (args : List Argument) :
    ¬Tokens ('"' :: tail args) (args.map Argument.text) := by
  have solid : isWhitespace '"' = false := by decide
  induction args with
  | nil =>
    intro tokens
    obtain ⟨_, _, _, _, -, -, same, -⟩ := tokens_solid solid tokens
    cases same
  | cons next args ih =>
    intro tokens
    obtain ⟨span, value, after, later, cut, token, same, rest⟩ := tokens_solid solid tokens
    obtain ⟨named, others⟩ := List.cons.inj same
    obtain ⟨body, shape, escapes⟩ := closingQuote_iff.mp (token.of_quote cut)
    have meant : next.text.toList = value := by rw [named, String.toList_ofList]
    rw [tail_cons] at shape
    cases escapes with
    | nil => cases (List.cons.inj shape).1
    | pair => cases (List.cons.inj shape).1
    | @plain c body value quote slash inner =>
      have parts := List.cons.inj shape
      have blank : ' ' = c := parts.1
      have behind : next.spelled.toList ++ tail args = body ++ '"' :: after := parts.2
      subst blank
      cases next with
      | atom text plain =>
        have chars : text.toList = ' ' :: value := meant
        have first : ' ' ∈ text.toList := chars ▸ List.mem_cons_self
        exact absurd (plain.plain ' ' first) (by decide)
      | literal text small =>
        have chars : (Argument.literal text small).spelled.toList = ' ' :: value := meant
        rw [chars] at behind
        exact not_shifted inner behind.symm
      | quoted text oneLine =>
        rw [Argument.spelled, toList_quote] at behind
        cases inner with
        | plain other => exact absurd (List.cons.inj behind).1.symm other
        | pair => cases (List.cons.inj behind).1
        | nil =>
          have chars : text.toList = [' '] := meant
          have escaped : [' '].flatMap quoteChar = [' '] := by decide
          rw [chars, escaped] at behind
          have left : after = ' ' :: '"' :: tail args := (List.cons.inj behind).2.symm
          rw [← others, left] at rest
          exact ih ((tokens_blank (by decide)).mp rest)

/-- Tokens that begin behind the place of an argument are not this one and those that follow it. -/
theorem not_behind (args : List Argument) (first : Argument) {front chars : List Char}
    (some : front ≠ []) (cut : front ++ chars = first.spelled.toList ++ tail args) :
    ¬Tokens chars ((first :: args).map Argument.text) := by
  induction args generalizing first front chars with
  | nil =>
    intro tokens
    obtain ⟨blank, span, value, after, rfl, token, named, rest⟩ := tokens_first tokens
    have meant : value = first.text.toList := by rw [named, String.toList_ofList]
    have whole : first.spelled.toList = (front ++ blank) ++ (span ++ after) := by
      have empty : tail [] = [] := rfl
      rw [empty, List.append_nil] at cut
      rw [← cut, List.append_assoc]
    have placed : Token span first.text.toList (after ++ []) := by
      rw [← meant, List.append_nil]
      exact token
    have left := inside_argument (by simp [some]) whole placed
    rw [left] at rest
    exact not_reopened [] rest
  | cons next args ih =>
    intro tokens
    obtain ⟨blank, span, value, after, rfl, token, named, rest⟩ := tokens_first tokens
    have meant : value = first.text.toList := by rw [named, String.toList_ofList]
    have filled : front ++ blank ≠ [] := by simp [some]
    have cut : ((front ++ blank) ++ span) ++ after =
        first.spelled.toList ++ tail (next :: args) := by simpa using cut
    rcases List.append_eq_append_iff.mp cut with ⟨left, whole, behind⟩ | ⟨over', whole, behind⟩
    · -- The token ends in the argument.
      rw [List.append_assoc] at whole
      have placed : Token span first.text.toList (left ++ tail (next :: args)) := by
        rw [← meant, ← behind]
        exact token
      have quote := inside_argument filled whole placed
      rw [behind, quote] at rest
      exact not_reopened (next :: args) rest
    · rw [tail_cons] at behind
      cases over' with
      | nil =>
        -- It ends with the argument, which is the case before with nothing left.
        have same : first.spelled.toList = (front ++ blank) ++ (span ++ []) := by
          simpa using whole.symm
        have placed : Token span first.text.toList ([] ++ after) := by
          rw [← meant]
          exact token
        exact absurd (inside_argument filled same placed) nofun
      | cons c more =>
        have parts := List.cons.inj behind
        have onward : next.spelled.toList ++ tail args = more ++ after := parts.2
        have blank' : ' ' = c := parts.1
        subst blank'
        cases more with
        | nil =>
          obtain ⟨inner, d, shape, ends⟩ := token.last
          have grouped : (front ++ blank ++ inner) ++ [d] = first.spelled.toList ++ [' '] := by
            rw [← whole, shape]
            simp
          obtain ⟨rfl, -⟩ := List.cons.inj (List.append_inj_right' grouped rfl)
          exact absurd ends (by decide)
        | cons d more => exact ih next (List.cons_ne_nil d more) onward.symm rest

/-- Where the tokens of a line are the arguments and the first one is quoted, the other tokens are
the other arguments. -/
theorem rest_of_quoted (args : List Argument) {text : String} {oneLine : '\n' ∉ text.toList}
    (tokens : Tokens ((Argument.quoted text oneLine).spelled.toList ++ tail args)
      ((Argument.quoted text oneLine :: args).map Argument.text)) :
    Tokens (tail args) (args.map Argument.text) := by
  rw [Argument.spelled, toList_quote] at tokens
  obtain ⟨span, value, after, later, cut, token, same, rest⟩ := tokens_solid (by decide) tokens
  obtain ⟨body, shape, escapes⟩ := closingQuote_iff.mp (token.of_quote cut)
  have whole : text.toList.flatMap quoteChar ++ '"' :: tail args = body ++ '"' :: after := by
    rw [← shape]
    simp
  rwa [← ((escapes_quote text.toList).unique escapes whole).2, ← (List.cons.inj same).2] at rest

/-- An empty literal leaves its place to the next argument. -/
theorem not_tokens_empty (args : List Argument) {first : Argument}
    (empty : first.spelled.toList = []) :
    ¬Tokens (tail args) ((first :: args).map Argument.text) := by
  intro tokens
  cases args with
  | nil =>
    obtain ⟨blank, span, value, after, none, token, -, -⟩ := tokens_first tokens
    obtain ⟨c, rest, rfl, -⟩ := token.head
    have length := congrArg List.length none
    have zero : (tail []).length = 0 := rfl
    rw [zero, List.length_append, List.length_append, List.length_cons] at length
    omega
  | cons next args =>
    rw [tail_cons] at tokens
    refine not_behind (next :: args) first (List.cons_ne_nil ' ' []) ?_
      ((tokens_blank (by decide)).mp tokens)
    rw [empty, tail_cons]
    rfl

/-- A token that is the text of a literal at the front of a line is one atom or one list, and it is
the whole literal. -/
theorem bare_of_token {text : String} {span after rest : List Char} (filled : text.toList ≠ [])
    (cut : text.toList ++ rest = span ++ after) (token : Token span text.toList after)
    (behind : ∀ c ∈ rest.head?, c = ' ') : Bare text ∧ rest = after := by
  generalize meant : text.toList = value at token
  cases token with
  | @list inner closed =>
    rw [meant] at cut
    exact ⟨.inr ⟨inner, meant, closed⟩, List.append_cancel_left cut⟩
  | @quoted body _ escapes =>
    exfalso
    obtain ⟨c, more, shape⟩ := List.exists_cons_of_ne_nil filled
    rw [shape] at cut
    have parts := List.cons.inj cut
    have inside : more ++ rest = body ++ '"' :: after := by simpa using parts.2
    rw [← meant, shape, parts.1] at escapes
    exact not_own_quote escapes inside.symm behind
  | atom some each stops =>
    rw [meant] at cut
    rw [← meant] at each
    refine ⟨.inl ⟨fun empty => filled ?_, each⟩, List.append_cancel_left cut⟩
    rw [empty]
    rfl

/-- Where the tokens of a line are the arguments and the first one is a literal, it is one atom or
one list, and the other tokens are the other arguments. -/
theorem bare_of_literal (args : List Argument) {text : String}
    {small : (bytes text).length ≤ 2 ^ 20}
    (tokens : Tokens ((Argument.literal text small).spelled.toList ++ tail args)
      ((Argument.literal text small :: args).map Argument.text)) :
    Bare text ∧ Tokens (tail args) (args.map Argument.text) := by
  have chars : (Argument.literal text small).spelled.toList = text.toList := rfl
  cases shape : text.toList with
  | nil =>
    rw [chars, shape, List.nil_append] at tokens
    exact absurd tokens (not_tokens_empty args (chars.trans shape))
  | cons c more =>
    rw [chars, shape] at tokens
    by_cases blank : isWhitespace c = true
    · refine absurd ((tokens_blank blank).mp tokens)
        (not_behind args (.literal text small) (List.cons_ne_nil c []) ?_)
      rw [chars, shape]
      rfl
    · obtain ⟨span, value, after, later, cut, token, same, rest⟩ :=
        tokens_solid (Bool.eq_false_of_not_eq_true blank) tokens
      obtain ⟨named, others⟩ := List.cons.inj same
      have meant : value = text.toList := by
        rw [← String.toList_ofList (l := value), ← named]
        rfl
      rw [meant] at token
      have cut : text.toList ++ tail args = span ++ after := by
        rw [shape]
        exact cut
      have filled : text.toList ≠ [] := by
        rw [shape]
        exact List.cons_ne_nil c more
      obtain ⟨bare, same⟩ := bare_of_token filled cut token (head_spaced Argument.spelled args)
      rw [others, same]
      exact ⟨bare, rest⟩

/-- Where the tokens of a line are the arguments, the first one is not a literal or is one atom or
one list, and the other tokens are the other arguments. -/
theorem bare_of_first (args : List Argument) (first : Argument)
    (tokens : Tokens (first.spelled.toList ++ tail args) ((first :: args).map Argument.text)) :
    AllBare [first] ∧ Tokens (tail args) (args.map Argument.text) := by
  unfold AllBare
  simp only [List.mem_singleton, forall_eq]
  cases first with
  | atom text plain =>
    obtain ⟨later, same, rest⟩ := tokens_of_atom plain (head_spaced Argument.spelled args) tokens
    rw [(List.cons.inj same).2]
    exact ⟨trivial, rest⟩
  | quoted text oneLine => exact ⟨trivial, rest_of_quoted args tokens⟩
  | literal text small => exact bare_of_literal args tokens

/-- Where the tokens of a line are the arguments, every literal is one atom or one list. -/
theorem bare_of_tokens (args : List Argument) (first : Argument)
    (tokens : Tokens (first.spelled.toList ++ tail args) ((first :: args).map Argument.text)) :
    AllBare (first :: args) := by
  induction args generalizing first with
  | nil => exact (bare_of_first [] first tokens).1
  | cons next args ih =>
    obtain ⟨here, rest⟩ := bare_of_first (next :: args) first tokens
    rw [tail_cons, tokens_blank (by decide)] at rest
    have later := ih next rest
    intro arg member
    rcases List.mem_cons.mp member with rfl | member
    · exact here arg (List.mem_singleton_self arg)
    · exact later arg member

/-! ## Literals on the wire -/

/-- The line is parsed as the command just when every literal is one atom or one list. -/
theorem parse_iff_bare (sent : SentCommand) :
    parseLine (bytes sent.line) = .ok sent.command ↔ AllBare sent.args := by
  rw [parse_iff, sent.line_eq]
  constructor
  · intro tokens
    rw [String.toList_append] at tokens
    have all := bare_of_tokens _ (.atom sent.tag sent.tagAtom) tokens
    exact fun arg member =>
      all arg (List.mem_cons_of_mem _ (List.mem_cons_of_mem _ member))
  · intro bare
    refine tokens_args (.atom sent.tag sent.tagAtom) _ fun arg member => ?_
    rcases List.mem_cons.mp member with rfl | member
    · exact oneToken_atom sent.tagAtom
    · rcases List.mem_cons.mp member with rfl | member
      · exact oneToken_atom sent.nameAtom
      · have here := bare arg member
        cases arg with
        | atom text plain => exact oneToken_atom plain
        | quoted text oneLine => exact oneToken_quoted oneLine
        | literal text small => exact oneToken_literal small here

/-- Markers are no commands. -/
theorem commandsOf_markers (count : Nat) (rest : List Event) :
    commandsOf (List.replicate count .marker ++ rest) = commandsOf rest := by
  induction count with
  | zero => rfl
  | succ count ih =>
    rw [List.replicate_succ, List.cons_append]
    exact ih

/-- A command is returned as it is meant just when its line is parsed so. -/
theorem exact_iff_parse (sent : SentCommand) :
    Exact sent ↔ parseLine (bytes sent.line) = .ok sent.command := by
  obtain ⟨last, front, reaches⟩ := reaches_wire sent
  constructor
  · intro exact'
    obtain ⟨count, fed⟩ := exact' [sent.wire] (by simp)
    have all := feeds_all {} ([sent.wire] ++ List.replicate count [])
    rw [fed] at all
    have bytes' : ([sent.wire] ++ List.replicate count []).flatten = sent.wire := by simp
    rw [bytes'] at all
    generalize outcome : ((.ok [sent.command], {}) : Fed) = whole at all
    cases all with
    | stopped _ _ fails =>
      rw [← outcome] at fails
      exact absurd rfl (fails [sent.command])
    | @sound events end' clear reads =>
      obtain ⟨returned, rfl⟩ := Prod.mk.inj outcome
      have returned : [sent.command] = commandsOf events := Parse.ok.inj returned
      obtain ⟨after, rfl, onward⟩ := reads.residue rests_empty.1 reaches.reads
      rw [commandsOf_markers] at returned
      obtain ⟨ended, unmarked, line, wire⟩ := reaches.ended
      rw [wire] at onward
      rw [← line]
      cases parsed : parseLine (front ++ (bytes last ++ [13]).dropLast) with
      | diverges =>
        have taken := ended.nextLine []
        have broken : Broken ⟨(bytes last ++ [13]) ++ 10 :: [], front, none⟩ :=
          ⟨rfl, _, _, taken, .inr ⟨unmarked, parsed⟩⟩
        have stuck := congrArg CommandReader.buf (onward.of_rests broken.rests).2
        simp at stuck
      | failed error =>
        have step := Moves.failure ended unmarked parsed []
        obtain ⟨rest, rfl, -⟩ := onward.residue rests_empty.1 (.single (move_iff.mpr step))
        exact absurd (List.mem_append_right _ (by simp)) clear
      | ok cmd =>
        have step := Moves.command ended unmarked parsed []
        have same := (onward.unique rests_empty.1 (.single (move_iff.mpr step)) rests_empty.1).1
        rw [same] at returned
        rw [(List.cons.inj returned).1]
  · intro parsed chunks whole
    have reads := reaches.command parsed
    rw [← whole] at reads
    have clear : Event.failure ∉
        List.replicate (sent.args.countP Argument.isLiteral) Event.marker ++
          [.command sent.command] := by simp
    obtain ⟨count, fed⟩ := feeds_settle reads clear rests_empty.1 rests_empty.2
    rw [commandsOf_markers] at fed
    exact ⟨count, fed⟩

/-- For every command whose arguments are sent as atoms, quoted strings and literals: however its
bytes are cut into feeds, it is returned with exactly these arguments just when every literal is one
atom or one list. -/
theorem literals_exact_iff (sent : SentCommand) : Exact sent ↔ AllBare sent.args :=
  (exact_iff_parse sent).trans (parse_iff_bare sent)

/-- `A1 LOGIN {3} {3}` with a password of two words. -/
def spacedPassword : SentCommand where
  tag := "A1"
  tagAtom := by decide
  name := "LOGIN"
  nameAtom := by decide
  args := [.literal "bob" (by decide), .literal "p w" (by decide)]

/-- The password comes out as two arguments. -/
theorem spaced_password_split :
    feeds {} [spacedPassword.wire, [], []] = (.ok [⟨"A1", "LOGIN", ["bob", "p", "w"]⟩], {}) ∧
      ¬Exact spacedPassword :=
  ⟨by decide +kernel, fun exact' =>
    absurd ((exact_iff_parse spacedPassword).mp exact') (by decide +kernel)⟩

end Talk.Verif.Literals
