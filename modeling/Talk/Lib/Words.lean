import Mathlib.Data.List.Infix
import Talk.Lib.Text

/-!
# Words

Texts that are made of words with spaces between them, whatever the case of their letters: how they
are cut into words again, and what trimming leaves of a word with brackets around it.
-/

namespace Talk.Text

/-! ## Cutting -/

/-- A space cuts a text in two. -/
theorem splitWhitespace_space (left right : String) :
    splitWhitespace (left ++ " " ++ right) = splitWhitespace left ++ splitWhitespace right := by
  have blank : isWhitespace ' ' = true := by decide
  have cut := List.splitOnP_append_cons left.toList right.toList blank
  simp only [splitWhitespace, String.toList_append, List.append_assoc]
  rw [show " ".toList = [' '] from rfl, List.singleton_append, cut, List.filter_append,
    List.map_append]

/-- A space cuts a list of characters in two. -/
theorem splitWhitespace_blank (left right : List Char) :
    splitWhitespace (String.ofList (left ++ ' ' :: right)) =
      splitWhitespace (String.ofList left) ++ splitWhitespace (String.ofList right) := by
  rw [← splitWhitespace_space]
  congr 1
  rw [← String.toList_inj]
  simp

/-- Tokens that are joined by spaces are read back. -/
theorem splitWhitespace_intercalate {tokens : List String}
    (each : ∀ token ∈ tokens, IsToken token) :
    splitWhitespace (" ".intercalate tokens) = tokens := by
  induction tokens with
  | nil => decide
  | cons token tokens ih =>
    have first := each token List.mem_cons_self
    cases tokens with
    | nil => exact splitWhitespace_token first
    | cons next tokens =>
      rw [String.intercalate_cons_cons, splitWhitespace_cons first,
        ih fun other member => each other (List.mem_cons_of_mem token member)]

/-- The pieces of a list have what is not a separator. -/
theorem flatten_splitOnP {α : Type} (separates : α → Bool) (items : List α) :
    (items.splitOnP separates).flatten = items.filter fun item => !separates item := by
  induction items with
  | nil => rfl
  | cons item items ih =>
    rw [List.splitOnP_cons_eq_if_modifyHead, List.filter_cons]
    obtain ⟨first, rest, pieces⟩ :=
      List.exists_cons_of_ne_nil (List.splitOnP_ne_nil separates items)
    cases cut : separates item with
    | true => simp [ih]
    | false =>
      rw [pieces] at ih ⊢
      simp [← ih]

/-- The words of a text have every character that is not whitespace. -/
theorem count_splitWhitespace {c : Char} (solid : isWhitespace c = false) (text : String) :
    ((splitWhitespace text).map fun word => word.toList.count c).sum = text.toList.count c := by
  have pieces (list : List (List Char)) :
      (((list.filter fun piece => !piece.isEmpty).map String.ofList).map
        fun word => word.toList.count c).sum = list.flatten.count c := by
    induction list with
    | nil => rfl
    | cons piece list ih =>
      rw [List.filter_cons, List.flatten_cons, List.count_append, ← ih]
      cases piece with
      | nil => simp
      | cons first rest => simp
  have kept : (fun item => !isWhitespace item) c = true := by simp [solid]
  rw [splitWhitespace, pieces, flatten_splitOnP]
  exact List.count_filter kept

/-! ## Parts -/

/-- A text contains another just when the other is a part of it. -/
theorem containsText_iff {text inner : String} :
    containsText text inner = true ↔ inner.toList <:+: text.toList := by
  rw [containsText, List.any_eq_true, List.infix_iff_prefix_suffix]
  constructor
  · rintro ⟨rest, member, starts⟩
    exact ⟨rest, List.isPrefixOf_iff_prefix.mp starts, (List.mem_tails rest text.toList).mp member⟩
  · rintro ⟨rest, starts, ends⟩
    exact ⟨rest, (List.mem_tails rest text.toList).mpr ends, List.isPrefixOf_iff_prefix.mpr starts⟩

/-- A part without the separator stands on one side of it. -/
theorem infix_join {α : Type} {sep : α} {part : List α} (free : sep ∉ part) (left right : List α) :
    part <:+: left ++ sep :: right ↔ part <:+: left ∨ part <:+: right := by
  constructor
  · rintro ⟨before, after, same⟩
    rcases List.append_eq_append_iff.mp same with ⟨more, whole, -⟩ | ⟨more, start, rest⟩
    · exact .inl ⟨before, more, whole.symm⟩
    · cases more with
      | nil =>
        rw [List.append_nil] at start
        exact .inl ⟨before, [], by rw [List.append_nil, start]⟩
      | cons first more =>
        obtain rfl : sep = first := (List.cons.inj rest).1
        rcases List.append_eq_append_iff.mp start with ⟨inner, _, inside⟩ | ⟨inner, _, inside⟩
        · rw [inside] at free
          exact absurd (List.mem_append_right inner List.mem_cons_self) free
        · cases inner with
          | nil =>
            rw [List.nil_append] at inside
            exact absurd (inside ▸ List.mem_cons_self) free
          | cons first inner =>
            refine .inr ⟨inner, after, ?_⟩
            have tail : more = inner ++ part := (List.cons.inj inside).2
            rw [← tail]
            exact (List.cons.inj rest).2.symm
  · rintro (inside | inside)
    · exact inside.trans (List.prefix_append _ _).isInfix
    · exact inside.trans ((List.suffix_cons sep right).trans (List.suffix_append _ _)).isInfix

/-- A part without a space, of words that are joined by spaces, is a part of one of them. -/
theorem infix_intercalate {part : List Char} (some : part ≠ []) (free : ' ' ∉ part)
    (words : List (List Char)) :
    part <:+: List.intercalate [' '] words ↔ ∃ word ∈ words, part <:+: word := by
  induction words with
  | nil =>
    refine iff_of_false (fun inside => some (List.infix_nil.mp inside)) ?_
    rintro ⟨word, member, -⟩
    exact absurd member List.not_mem_nil
  | cons word words ih =>
    cases words with
    | nil => simp
    | cons next words =>
      have split : (∃ other ∈ word :: next :: words, part <:+: other) ↔
          part <:+: word ∨ ∃ other ∈ next :: words, part <:+: other :=
        List.exists_mem_cons_iff _ _ _
      rw [List.intercalate_cons_cons, List.append_assoc, List.singleton_append, infix_join free, ih,
        split]

/-! ## Case -/

/-- What holds of the letters from `a` to `z` holds of every lowercase letter. -/
theorem of_lowercase {property : Char → Prop}
    (letters : ∀ index < 26, property (Char.ofNat (97 + index))) {c : Char}
    (lower : 'a' ≤ c ∧ c ≤ 'z') : property c := by
  have low : 97 ≤ c.toNat := Char.le_def.mp lower.1
  have high : c.toNat ≤ 122 := Char.le_def.mp lower.2
  have letter := letters (c.toNat - 97) (by omega)
  rw [show 97 + (c.toNat - 97) = c.toNat by omega, Char.ofNat_toNat] at letter
  exact letter

/-- What is raised to no capital letter is that character. -/
theorem eq_of_upperChar {c raised : Char} (same : upperChar c = raised)
    (other : ¬('A' ≤ raised ∧ raised ≤ 'Z')) : c = raised := by
  by_cases lower : 'a' ≤ c ∧ c ≤ 'z'
  · have capital : 'A' ≤ upperChar c ∧ upperChar c ≤ 'Z' :=
      @of_lowercase (fun c => 'A' ≤ upperChar c ∧ upperChar c ≤ 'Z') (by decide) _ lower
    rw [same] at capital
    exact absurd capital other
  · rw [← same, upperChar, if_neg lower]

/-- A character that is no letter is its own uppercase form. -/
theorem upperChar_other {c : Char} (other : ¬('a' ≤ c ∧ c ≤ 'z')) : upperChar c = c := by
  rw [upperChar, if_neg other]

/-- Case does not matter to whitespace. -/
theorem isWhitespace_upperChar (c : Char) : isWhitespace (upperChar c) = isWhitespace c := by
  by_cases lower : 'a' ≤ c ∧ c ≤ 'z'
  · exact @of_lowercase (fun c => isWhitespace (upperChar c) = isWhitespace c) (by decide) _ lower
  · rw [upperChar_other lower]

/-- The characters of an uppercase form. -/
theorem toList_toAsciiUppercase (text : String) :
    (toAsciiUppercase text).toList = text.toList.map upperChar := String.toList_ofList

/-- Case does not matter to a token. -/
theorem isToken_of_upper {text : String} (token : IsToken (toAsciiUppercase text)) :
    IsToken text := by
  constructor
  · rintro rfl
    exact token.1 rfl
  · intro c member
    rw [← isWhitespace_upperChar]
    refine token.2 _ ?_
    rw [toList_toAsciiUppercase]
    exact List.mem_map_of_mem member

/-! ## Trimming -/

/-- Trimming takes away what stands around a part of which nothing is dropped. -/
theorem trimMatches_around {drops : Char → Bool} {before inner after : List Char}
    (front : ∀ c ∈ before, drops c = true) (kept : ∀ c ∈ inner, drops c = false)
    (back : ∀ c ∈ after, drops c = true) :
    trimMatches drops (String.ofList (before ++ inner ++ after)) = String.ofList inner := by
  have last : (inner.reverse).dropWhile drops = inner.reverse := by
    cases reversed : inner.reverse with
    | nil => rfl
    | cons c rest =>
      have member : c ∈ inner := List.mem_reverse.mp (reversed ▸ List.mem_cons_self)
      rw [List.dropWhile_cons_of_neg (by rw [kept c member]; exact Bool.false_ne_true)]
  have backward : ∀ c ∈ after.reverse, drops c = true := fun c member =>
    back c (List.mem_reverse.mp member)
  rw [trimMatches, String.toList_ofList, List.append_assoc, List.dropWhile_append_of_pos front]
  congr 1
  cases inner with
  | nil =>
    rw [List.nil_append]
    have none := @List.dropWhile_append_of_pos Char drops after [] back
    rw [List.append_nil] at none
    rw [none]
    rfl
  | cons c inner =>
    have first : drops c = false := kept c List.mem_cons_self
    rw [List.cons_append, List.dropWhile_cons_of_neg (by rw [first]; exact Bool.false_ne_true),
      ← List.cons_append, List.reverse_append, List.dropWhile_append_of_pos backward, last,
      List.reverse_reverse]

/-! ## Nesting -/

/-- Two kinds of brackets are balanced in a text, where so many are open before it. -/
def balanced (opening closing : Char) : Nat → List Char → Bool
  | depth, [] => depth == 0
  | depth, c :: rest =>
    if c = opening then balanced opening closing (depth + 1) rest
    else if c = closing then depth != 0 && balanced opening closing (depth - 1) rest
    else balanced opening closing depth rest

/-- The text up to the bracket that closes `depth` open ones, and the text after it. -/
def upToClosing (opening closing : Char) : Nat → List Char → Option (List Char × List Char)
  | _, [] => none
  | depth, c :: rest =>
    if c = closing ∧ depth = 1 then some ([], rest)
    else
      let depth := if c = opening then depth + 1 else if c = closing then depth - 1 else depth
      (upToClosing opening closing depth rest).map fun (inside, after) => (c :: inside, after)

/-- A bracket is closed behind a text that is balanced. -/
theorem upToClosing_iff {opening closing : Char} (apart : opening ≠ closing) {depth : Nat}
    {chars text after : List Char} :
    upToClosing opening closing (depth + 1) chars = some (text, after) ↔
      chars = text ++ closing :: after ∧ balanced opening closing depth text = true := by
  induction chars generalizing depth text with
  | nil =>
    refine iff_of_false (fun same => by cases same) ?_
    rintro ⟨cut, -⟩
    cases text <;> cases cut
  | cons c chars ih =>
    -- What follows a character that does not close the last bracket.
    have step (inner : Nat) (level : ∀ text, balanced opening closing depth (c :: text) =
        balanced opening closing inner text) (other : ¬(c = closing ∧ depth = 0)) :
        (upToClosing opening closing (inner + 1) chars).map
            (fun found => (c :: found.1, found.2)) = some (text, after) ↔
          c :: chars = text ++ closing :: after ∧ balanced opening closing depth text = true := by
      rw [Option.map_eq_some_iff]
      constructor
      · rintro ⟨⟨inside, behind⟩, found, same⟩
        obtain ⟨rfl, rfl⟩ := Prod.mk.inj same
        obtain ⟨rfl, closed⟩ := ih.mp found
        exact ⟨rfl, (level inside).trans closed⟩
      · rintro ⟨cut, closed⟩
        cases text with
        | nil =>
          rw [balanced, beq_iff_eq] at closed
          exact absurd ⟨(List.cons.inj cut).1, closed⟩ other
        | cons first text =>
          obtain ⟨rfl, rfl⟩ := List.cons.inj cut
          exact ⟨(text, after), ih.mpr ⟨rfl, (level text).symm.trans closed⟩, rfl⟩
    rw [upToClosing]
    by_cases opens : c = opening
    · have other : c ≠ closing := opens ▸ apart
      rw [if_neg fun both => other both.1]
      simp only [if_pos opens]
      refine step (depth + 1) (fun text => ?_) fun both => other both.1
      rw [balanced, if_pos opens]
    · by_cases closes : c = closing
      · cases depth with
        | zero =>
          rw [if_pos ⟨closes, rfl⟩, closes]
          constructor
          · intro same
            obtain ⟨rfl, rfl⟩ := Prod.mk.inj (Option.some.inj same)
            exact ⟨rfl, rfl⟩
          · rintro ⟨cut, closed⟩
            cases text with
            | nil =>
              rw [(List.cons.inj cut).2]
            | cons first text =>
              rw [← (List.cons.inj cut).1, balanced, if_neg apart.symm, if_pos rfl] at closed
              cases closed
        | succ depth =>
          rw [if_neg fun both => absurd both.2 (by omega)]
          simp only [if_neg opens, if_pos closes]
          refine step depth (fun text => ?_) fun both => absurd both.2 (Nat.succ_ne_zero depth)
          have deep : (depth + 1 != 0) = true := bne_iff_ne.mpr (Nat.succ_ne_zero depth)
          rw [balanced, if_neg opens, if_pos closes, deep, Bool.true_and]
          rfl
      · rw [if_neg fun both => closes both.1]
        simp only [if_neg opens, if_neg closes]
        refine step depth (fun text => ?_) fun both => closes both.1
        rw [balanced, if_neg opens, if_neg closes]

/-- Whether so many brackets are open at once before the first one is closed, where `depth` of them
are open before the text. -/
def reaches (opening closing : Char) (limit : Nat) : Nat → List Char → Bool
  | _, [] => false
  | depth, c :: rest =>
    if c = closing ∧ depth = 1 then false
    else if c = opening then depth + 1 == limit || reaches opening closing limit (depth + 1) rest
    else if c = closing then reaches opening closing limit (depth - 1) rest
    else reaches opening closing limit depth rest

/-- A text with few opening brackets does not nest deeply. -/
theorem reaches_of_count {opening closing : Char} {limit depth : Nat} {chars : List Char}
    (few : depth + chars.count opening < limit) :
    reaches opening closing limit depth chars = false := by
  induction chars generalizing depth with
  | nil => rfl
  | cons c chars ih =>
    rw [List.count_cons] at few
    rw [reaches]
    split_ifs with closes opens other
    · rfl
    · have one : (c == opening) = true := beq_iff_eq.mpr opens
      rw [one, if_pos rfl] at few
      have apart : (depth + 1 == limit) = false := beq_eq_false_iff_ne.mpr (by omega)
      rw [apart, Bool.false_or]
      exact ih (by omega)
    · exact ih (by omega)
    · exact ih (by omega)

/-- Nothing but opening brackets nests as deeply as there are brackets. -/
theorem reaches_replicate {opening closing : Char} (apart : opening ≠ closing) {limit depth : Nat}
    {count : Nat} (low : depth < limit) (many : limit ≤ depth + count) :
    reaches opening closing limit depth (List.replicate count opening) = true := by
  induction count generalizing depth with
  | zero => omega
  | succ count ih =>
    rw [List.replicate_succ, reaches, if_neg fun both => apart both.1, if_pos rfl]
    by_cases reached : depth + 1 = limit
    · simp [reached]
    · rw [ih (by omega) (by omega), Bool.or_true]

end Talk.Text
