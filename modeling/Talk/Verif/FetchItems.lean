import Talk.Imap.Fetch
import Talk.Lib.Words

/-!
# The data items of a FETCH

A list of data items should mean the same in every order. The server cuts the body section out of
the text first: from the first item that starts with `BODY` up to the bracket that closes the next
one. The item `BODYSTRUCTURE` starts with these letters too, so before a body section it is cut out
with everything between the two.
-/

namespace Talk.Verif.FetchItems

open Imap Text

/-! ## Lists of items -/

/-- A data item other than a body section. -/
inductive Item where
  /-- FLAGS. -/
  | flags
  /-- UID. -/
  | uid
  /-- RFC822.SIZE. -/
  | size
  /-- INTERNALDATE. -/
  | internaldate
  /-- ENVELOPE. -/
  | envelope
  /-- BODYSTRUCTURE. -/
  | bodystructure
  deriving DecidableEq

/-- The name of an item. -/
def Item.word : Item → String
  | .flags => "FLAGS"
  | .uid => "UID"
  | .size => "RFC822.SIZE"
  | .internaldate => "INTERNALDATE"
  | .envelope => "ENVELOPE"
  | .bodystructure => "BODYSTRUCTURE"

/-- A request asks for an item. -/
def Item.asked (req : FetchRequest) : Item → Bool
  | .flags => req.flags
  | .uid => req.uid
  | .size => req.size
  | .internaldate => req.internaldate
  | .envelope => req.envelope
  | .bodystructure => req.bodystructure

/-- The text between the brackets of a body section, and what it means. -/
inductive Spells : BodySection → String → Prop
  /-- Nothing. -/
  | full : Spells .full ""
  /-- HEADER. -/
  | header {text : String} (upper : toAsciiUppercase text = "HEADER") : Spells .header text
  /-- TEXT. -/
  | text {text : String} (upper : toAsciiUppercase text = "TEXT") : Spells .text text
  /-- MIME. -/
  | mime {text : String} (upper : toAsciiUppercase text = "MIME") : Spells .mime text
  /-- HEADER.FIELDS, with the names of fields. -/
  | headerFields {word : String} (upper : toAsciiUppercase word = "HEADER.FIELDS")
    {names : List String} (tokens : ∀ name ∈ names, IsToken name) :
    Spells (.headerFields names) (word ++ " (" ++ " ".intercalate names ++ ")")
  /-- HEADER.FIELDS.NOT, with the names of fields. -/
  | headerFieldsNot {word : String} (upper : toAsciiUppercase word = "HEADER.FIELDS.NOT")
    {names : List String} (tokens : ∀ name ∈ names, IsToken name) :
    Spells (.headerFieldsNot names) (word ++ " (" ++ " ".intercalate names ++ ")")
  /-- Another section, by its number for example. -/
  | other {text : String} (some : text ≠ "") (trimmed : trim text = text)
    (unknown : toAsciiUppercase text ∉ ["HEADER", "TEXT", "MIME"])
    (noFields : startsWith (toAsciiUppercase text) "HEADER.FIELDS" = false) :
    Spells (.other text) text

/-- A data item as it is written. -/
inductive Datum where
  /-- An item, its letters in any case. -/
  | item (item : Item) (word : String) (spelled : toAsciiUppercase word = item.word)
  /-- A body section, with its keyword in any case. -/
  | body (keyword : String) (spelled : toAsciiUppercase keyword ∈ ["BODY", "BODY.PEEK"])
    (meaning : BodySection) (inside : String) (spells : Spells meaning inside)

/-- The text of a data item. -/
def Datum.text : Datum → String
  | .item _ word _ => word
  | .body keyword _ _ inside _ => keyword ++ "[" ++ inside ++ "]"

/-- A body section. -/
def Datum.isBody : Datum → Bool
  | .item _ _ _ => false
  | .body _ _ _ _ _ => true

/-- The item is this one. -/
def Datum.isItem (item : Item) : Datum → Bool
  | .item other _ _ => item = other
  | .body _ _ _ _ _ => false

/-- The text of a list of data items, in parentheses or not. -/
def listText (enclosed : Bool) (list : List Datum) : String :=
  let text := " ".intercalate (list.map Datum.text)
  if enclosed then "(" ++ text ++ ")" else text

/-- The section that a list gives. -/
def givenSection (list : List Datum) : BodySection :=
  (list.findSome? fun
    | .body _ _ meaning _ _ => some meaning
    | .item _ _ _ => none).getD .none

/-- The request has every item of the list and its section, in whatever order the list is. -/
structure OrderFree (enclosed : Bool) (list : List Datum) : Prop where
  /-- Every item is asked for. -/
  items : ∀ item, list.any (Datum.isItem item) = true →
    item.asked (parseFetchItems (listText enclosed list)) = true
  /-- The section is the one that is given. -/
  body : (parseFetchItems (listText enclosed list)).body = givenSection list
  /-- Another order yields the same request. -/
  order : ∀ other, other.Perm list →
    parseFetchItems (listText enclosed other) = parseFetchItems (listText enclosed list)

/-! ## Brackets -/

/-- The bracket that closes the section is the one behind a balanced text. -/
theorem closingBracket_iff {chars text after : List Char} :
    closingBracket 1 chars = some (text, after) ↔
      chars = text ++ ']' :: after ∧ balanced '[' ']' 0 text = true := by
  have same (depth : Nat) : closingBracket depth chars = upToClosing '[' ']' depth chars := by
    induction chars generalizing depth with
    | nil => rfl
    | cons c chars ih => simp only [closingBracket, upToClosing, ih]
  rw [same]
  exact upToClosing_iff (by decide)

/-! ## Finding the section -/

/-- A text without an opening bracket has no body section. -/
theorem findBodySection_free {starts : Bool} {text : List Char} (free : '[' ∉ text) :
    findBodySection starts text = none := by
  induction text generalizing starts with
  | nil => rfl
  | cons c text ih =>
    have rest : '[' ∉ text := fun member => free (List.mem_cons_of_mem c member)
    have none : bodySectionAt (c :: text) = none := by
      have cut : splitFirst '[' ((c :: text).drop 4) = none :=
        splitFirst_free fun member => free (List.mem_of_mem_drop member)
      rw [bodySectionAt, cut, ite_self]
    rw [findBodySection, none, ite_self]
    simp only [ih rest, Option.map_none]

/-- The text before a body section. -/
def prepend (before : List Char) (found : List Char × List Char × List Char) :
    List Char × List Char × List Char := (before ++ found.1, found.2)

/-- A word that does not start as a body section does is passed over. -/
theorem findBodySection_word {first : Char} {word : List Char} (other : upperChar first ≠ 'B')
    (plain : ∀ c ∈ first :: word, startsItem c = false) (rest : List Char) :
    findBodySection true (first :: word ++ ' ' :: rest) =
      (findBodySection true rest).map (prepend (first :: word ++ [' '])) := by
  have inner (chars : List Char) (each : ∀ c ∈ chars, startsItem c = false) :
      findBodySection false (chars ++ ' ' :: rest) =
        (findBodySection true rest).map (prepend (chars ++ [' '])) := by
    induction chars with
    | nil =>
      have blank : startsItem ' ' = true := by decide
      rw [List.nil_append, findBodySection, if_neg Bool.false_ne_true, blank]
      rfl
    | cons c chars ih =>
      have more := ih fun other member => each other (List.mem_cons_of_mem c member)
      rw [List.cons_append, findBodySection, if_neg Bool.false_ne_true,
        each c List.mem_cons_self]
      simp only [more, Option.map_map]
      rfl
  have none : bodySectionAt (first :: word ++ ' ' :: rest) = none := by
    refine if_neg fun starts => other ?_
    have letters : "BODY".toList = 'B' :: ['O', 'D', 'Y'] := rfl
    rw [letters, List.cons_append, List.map_cons, List.isPrefixOf_cons_cons,
      Bool.and_eq_true] at starts
    exact (beq_iff_eq.mp starts.1).symm
  rw [List.cons_append] at none
  rw [List.cons_append, findBodySection, if_pos rfl, none, plain first List.mem_cons_self]
  simp only [inner word fun c member => plain c (List.mem_cons_of_mem first member),
    Option.map_map]
  rfl

/-- A body section begins with its keyword, and ends where its bracket is closed. -/
theorem bodySectionAt_keyword {keyword : String}
    (spelled : startsWith (toAsciiUppercase keyword) "BODY" = true)
    (free : '[' ∉ keyword.toList) (rest : List Char) :
    bodySectionAt (keyword.toList ++ '[' :: rest) = closingBracket 1 rest := by
  rw [startsWith, toList_toAsciiUppercase] at spelled
  have begins : "BODY".toList.isPrefixOf
      ((keyword.toList ++ '[' :: rest).map upperChar) = true := by
    rw [List.map_append]
    obtain ⟨more, same⟩ := List.isPrefixOf_iff_prefix.mp spelled
    rw [← same, List.append_assoc]
    exact List.isPrefixOf_iff_prefix.mpr (List.prefix_append _ _)
  have long : 4 ≤ keyword.toList.length := by
    have length := (List.isPrefixOf_iff_prefix.mp spelled).length_le
    rw [List.length_map] at length
    exact length
  have cut : splitFirst '[' ((keyword.toList ++ '[' :: rest).drop 4) =
      some (keyword.toList.drop 4, rest) := by
    rw [List.drop_append_of_le_length long]
    exact splitFirst_join (fun member => free (List.mem_of_mem_drop member)) rest
  rw [bodySectionAt, if_pos begins, cut]

/-- What is found as a section stands between two brackets, and its own are balanced. -/
theorem eq_of_findBodySection {starts : Bool} {text before inside after : List Char}
    (found : findBodySection starts text = some (before, inside, after)) :
    ∃ middle, text = middle ++ '[' :: (inside ++ ']' :: after) ∧
      balanced '[' ']' 0 inside = true := by
  induction text generalizing starts before with
  | nil => cases found
  | cons c text ih =>
    rw [findBodySection] at found
    cases here : (if starts then bodySectionAt (c :: text) else none) with
    | none =>
      rw [here] at found
      obtain ⟨⟨more, rest⟩, later, same⟩ := Option.map_eq_some_iff.mp found
      obtain ⟨rfl, rfl⟩ := Prod.mk.inj same
      obtain ⟨middle, written, closed⟩ := ih later
      exact ⟨c :: middle, by rw [written, List.cons_append], closed⟩
    | some pair =>
      obtain ⟨part, rest⟩ := pair
      rw [here] at found
      obtain ⟨rfl, same⟩ := Prod.mk.inj (Option.some.inj found)
      obtain ⟨rfl, rfl⟩ := Prod.mk.inj same
      have section' : bodySectionAt (c :: text) = some (part, rest) := by
        cases starts with
        | false => cases here
        | true => exact here
      rw [bodySectionAt] at section'
      by_cases begins : "BODY".toList.isPrefixOf ((c :: text).map upperChar) = true
      · rw [if_pos begins] at section'
        cases cut : splitFirst '[' ((c :: text).drop 4) with
        | none =>
          rw [cut] at section'
          cases section'
        | some halves =>
          obtain ⟨left, right⟩ := halves
          rw [cut] at section'
          have closed : closingBracket 1 right = some (part, rest) := section'
          obtain ⟨written, even⟩ := closingBracket_iff.mp closed
          refine ⟨(c :: text).take 4 ++ left, ?_, even⟩
          rw [← written, List.append_assoc, ← splitFirst_eq cut, List.take_append_drop]
      · rw [if_neg begins] at section'
        cases section'

/-! ## What is inside -/

/-- The brackets in what a section means. -/
def brackets (bracket : Char) : BodySection → Nat
  | .headerFields names | .headerFieldsNot names =>
    (names.map fun name => name.toList.count bracket).sum
  | .other text => text.toList.count bracket
  | .none | .full | .header | .text | .mime => 0

/-- A character that keeps its place in a text, whatever is made of the text. -/
structure Plain (c : Char) : Prop where
  /-- It is no whitespace. -/
  solid : isWhitespace c = false
  /-- It is its own uppercase form. -/
  upper : upperChar c = c
  /-- It is no capital letter. -/
  other : ¬('A' ≤ c ∧ c ≤ 'Z')

/-- A character is in a text just when it is in its uppercase form. -/
theorem mem_upper {c : Char} (plain : Plain c) {text : String} :
    c ∈ (toAsciiUppercase text).toList ↔ c ∈ text.toList := by
  rw [toList_toAsciiUppercase, List.mem_map]
  constructor
  · rintro ⟨first, member, raised⟩
    rwa [← eq_of_upperChar raised plain.other]
  · exact fun member => ⟨c, member, plain.upper⟩

/-- The opening bracket is plain. -/
theorem plain_open : Plain '[' := ⟨by decide, by decide, by decide⟩

/-- The closing bracket is plain. -/
theorem plain_close : Plain ']' := ⟨by decide, by decide, by decide⟩

/-- The opening parenthesis is plain. -/
theorem plain_paren : Plain '(' := ⟨by decide, by decide, by decide⟩

/-- Trimming takes away no character but whitespace. -/
theorem count_trim_le {c : Char} (text : String) :
    (trim text).toList.count c ≤ text.toList.count c := (trim_sublist text).count_le c

/-- A section that is read has no more brackets than its text. -/
theorem brackets_parse_le {bracket : Char} (solid : isWhitespace bracket = false) (text : String) :
    brackets bracket (parseBodySection text) ≤ text.toList.count bracket := by
  have least := @count_trim_le bracket text
  have fields {list : String} (found : extractFieldList (trim text) = some list) :
      ((splitWhitespace list).map fun name => name.toList.count bracket).sum ≤
        text.toList.count bracket := by
    rw [count_splitWhitespace solid]
    obtain ⟨⟨left, after⟩, opened, found⟩ := Option.bind_eq_some_iff.mp found
    obtain ⟨⟨inside, right⟩, closed, rfl⟩ := Option.map_eq_some_iff.mp found
    refine Nat.le_trans ?_ least
    rw [splitFirst_eq opened, splitLast_eq closed, String.toList_ofList, List.count_append,
      List.count_cons, List.count_append]
    omega
  unfold parseBodySection
  dsimp only
  generalize toAsciiUppercase (trim text) = upper
  split
  · exact Nat.zero_le _
  · split
    · exact Nat.zero_le _
    · split
      · exact Nat.zero_le _
      · split
        · exact Nat.zero_le _
        · split
          · cases found : extractFieldList (trim text) with
            | none => exact least
            | some list =>
              dsimp only
              split
              · exact fields found
              · exact fields found
          · exact least

/-- The brackets of the names of fields are those of the list they are written in. -/
theorem sum_count_names {bracket : Char} (solid : isWhitespace bracket = false)
    {names : List String} (tokens : ∀ name ∈ names, IsToken name) :
    (" ".intercalate names).toList.count bracket =
      (names.map fun name => name.toList.count bracket).sum := by
  rw [← count_splitWhitespace solid, splitWhitespace_intercalate tokens]

/-- A section that is spelled has the brackets of its text. -/
theorem brackets_spells {bracket : Char} (either : bracket = '[' ∨ bracket = ']')
    {meaning : BodySection} {inside : String} (spells : Spells meaning inside) :
    inside.toList.count bracket = brackets bracket meaning := by
  have plain : Plain bracket := by
    rcases either with rfl | rfl
    · exact plain_open
    · exact plain_close
  have free {text word : String} (upper : toAsciiUppercase text = word)
      (none : bracket ∉ word.toList) : text.toList.count bracket = 0 := by
    refine List.count_eq_zero.mpr fun member => none ?_
    rw [← upper]
    exact (mem_upper plain).mpr member
  have list {word : String} (none : word.toList.count bracket = 0) {names : List String}
      (tokens : ∀ name ∈ names, IsToken name) :
      (word ++ " (" ++ " ".intercalate names ++ ")").toList.count bracket =
        (names.map fun name => name.toList.count bracket).sum := by
    have paren : " (".toList.count bracket = 0 ∧ ")".toList.count bracket = 0 := by
      rcases either with rfl | rfl <;> decide
    rw [String.toList_append, String.toList_append, String.toList_append, List.count_append,
      List.count_append, List.count_append, none, paren.1, paren.2,
      sum_count_names plain.solid tokens]
    omega
  cases spells with
  | full => rfl
  | header upper | text upper | mime upper =>
    exact free upper (by rcases either with rfl | rfl <;> decide)
  | headerFields upper tokens | headerFieldsNot upper tokens =>
    exact list (free upper (by rcases either with rfl | rfl <;> decide)) tokens
  | other => rfl

/-- A section that is found and means what is given is the one that was written. -/
theorem eq_of_meaning {before after first last : List Char} {inside found : String}
    {meaning : BodySection} (spells : Spells meaning inside)
    (opens : '[' ∉ before ++ after) (closes : ']' ∉ before ++ after)
    (same : before ++ '[' :: (inside.toList ++ ']' :: after) =
      first ++ '[' :: (found.toList ++ ']' :: last))
    (parsed : parseBodySection found = meaning) : found = inside := by
  have least {bracket : Char} (either : bracket = '[' ∨ bracket = ']')
      (solid : isWhitespace bracket = false) :
      inside.toList.count bracket ≤ found.toList.count bracket := by
    rw [brackets_spells either spells, ← parsed]
    exact brackets_parse_le solid found
  have outer {bracket : Char} (none : bracket ∉ before ++ after) :
      before.count bracket = 0 ∧ after.count bracket = 0 := by
    rw [List.mem_append, not_or] at none
    exact ⟨List.count_eq_zero.mpr none.1, List.count_eq_zero.mpr none.2⟩
  have opened := congrArg (List.count '[') same
  have closed := congrArg (List.count ']') same
  simp only [List.count_append, List.count_cons, outer opens, outer closes] at opened closed
  have leastOpen := least (.inl rfl) plain_open.solid
  have leastClose := least (.inr rfl) plain_close.solid
  have front : '[' ∉ first := List.count_eq_zero.mp (by simp at opened; omega)
  have rear : ']' ∉ last := List.count_eq_zero.mp (by simp at closed; omega)
  have cut := splitFirst_join (fun member => opens (List.mem_append_left after member))
    (inside.toList ++ ']' :: after)
  rw [same, splitFirst_join front, Option.some.injEq, Prod.mk.injEq] at cut
  have end' := splitLast_join inside.toList fun member =>
    closes (List.mem_append_right before member)
  rw [← cut.2, splitLast_join found.toList rear, Option.some.injEq, Prod.mk.injEq] at end'
  exact String.toList_inj.mp end'.1

/-- The names of the fields have no `.NOT` in them, or these are the fields to be left out. -/
def NotClear : BodySection → Prop
  | .headerFields names =>
    ∀ name ∈ names, containsText (toAsciiUppercase name) ".NOT" = false
  | _ => True

/-- A word in any case is no whitespace. -/
theorem token_of_upper {text word : String} (upper : toAsciiUppercase text = word)
    (token : IsToken word) : IsToken text := isToken_of_upper (upper ▸ token)

/-- The list of fields after a keyword, as it is read. -/
theorem parse_fields {word keyword : String} (upper : toAsciiUppercase word = keyword)
    (known : keyword ∈ ["HEADER.FIELDS", "HEADER.FIELDS.NOT"]) {names : List String}
    (tokens : ∀ name ∈ names, IsToken name) :
    parseBodySection (word ++ " (" ++ " ".intercalate names ++ ")") =
      if containsText (toAsciiUppercase (word ++ " (" ++ " ".intercalate names ++ ")")) ".NOT" then
        .headerFieldsNot names
      else .headerFields names := by
  have shape : IsToken keyword ∧ startsWith keyword "HEADER.FIELDS" = true ∧
      '(' ∉ keyword.toList := by
    simp only [List.mem_cons, List.not_mem_nil, or_false] at known
    rcases known with rfl | rfl <;> decide
  have token := token_of_upper upper shape.1
  have chars : (word ++ " (" ++ " ".intercalate names ++ ")").toList =
      word.toList ++ ' ' :: '(' :: ((" ".intercalate names).toList ++ [')']) := by
    simp
  generalize whole : word ++ " (" ++ " ".intercalate names ++ ")" = text at chars ⊢
  have filled : text ≠ "" := by
    rintro rfl
    simp at chars
  have trimmed : trim text = text := by
    rw [trim_eq_self_iff, chars]
    constructor
    · intro c first
      cases written : word.toList with
      | nil => exact absurd (String.toList_eq_nil_iff.mp written) token.1
      | cons head tail =>
        rw [written, List.cons_append, List.head?_cons, Option.mem_some_iff] at first
        exact first ▸ token.2 head (written ▸ List.mem_cons_self)
    · intro c last
      rw [← List.cons_append, ← List.cons_append, ← List.append_assoc, List.getLast?_concat,
        Option.mem_some_iff] at last
      exact last ▸ by decide
  have paren : '(' ∈ (toAsciiUppercase text).toList := by
    rw [mem_upper plain_paren, chars]
    simp
  have other {plain : String} (free : '(' ∉ plain.toList) : toAsciiUppercase text ≠ plain :=
    fun same => free (same ▸ paren)
  have begins : startsWith (toAsciiUppercase text) "HEADER.FIELDS" = true := by
    obtain ⟨more, same⟩ := List.isPrefixOf_iff_prefix.mp shape.2.1
    rw [startsWith, toList_toAsciiUppercase, chars, List.map_append, ← toList_toAsciiUppercase,
      upper, ← same, List.append_assoc]
    exact List.isPrefixOf_iff_prefix.mpr (List.prefix_append _ _)
  have list : extractFieldList text = some (" ".intercalate names) := by
    have opened : splitFirst '(' text.toList =
        some (word.toList ++ [' '], (" ".intercalate names).toList ++ [')']) := by
      have free : '(' ∉ word.toList ++ [' '] := by
        rw [List.mem_append, not_or]
        exact ⟨fun member => shape.2.2 (upper ▸ (mem_upper plain_paren).mpr member), by decide⟩
      have cut := splitFirst_join free ((" ".intercalate names).toList ++ [')'])
      rw [chars]
      rw [List.append_assoc, List.singleton_append] at cut
      exact cut
    have closed := @splitLast_join ')' (" ".intercalate names).toList [] List.not_mem_nil
    rw [extractFieldList, opened, Option.bind_some]
    dsimp only
    rw [closed, Option.map_some, String.ofList_toList]
  unfold parseBodySection
  dsimp only
  rw [trimmed, if_neg filled, if_neg (other (by decide)), if_neg (other (by decide)),
    if_neg (other (by decide)), if_pos begins, list]
  dsimp only
  rw [splitWhitespace_intercalate tokens]

/-- A list of fields has `.NOT` in it just when its keyword or a name has. -/
theorem contains_not {word keyword : String} (upper : toAsciiUppercase word = keyword)
    (names : List String) :
    containsText (toAsciiUppercase (word ++ " (" ++ " ".intercalate names ++ ")")) ".NOT" = true ↔
      containsText keyword ".NOT" = true ∨
        ∃ name ∈ names, containsText (toAsciiUppercase name) ".NOT" = true := by
  have chars : (toAsciiUppercase (word ++ " (" ++ " ".intercalate names ++ ")")).toList =
      keyword.toList ++ ' ' :: ([] ++ '(' ::
        (List.intercalate [' '] (names.map fun name => (toAsciiUppercase name).toList) ++
          ')' :: [])) := by
    have inner : (" ".intercalate names).toList.map upperChar =
        List.intercalate [' '] (names.map fun name => (toAsciiUppercase name).toList) := by
      rw [String.toList_intercalate]
      have blank : " ".toList.map upperChar = [' '] := by decide
      induction names with
      | nil => rfl
      | cons name names ih =>
        cases names with
        | nil => simp [toList_toAsciiUppercase]
        | cons next names =>
          simp only [List.map_cons, List.intercalate_cons_cons, List.map_append] at ih ⊢
          rw [ih, blank, ← toList_toAsciiUppercase name]
    have raised : "(".toList.map upperChar = ['('] ∧ ")".toList.map upperChar = [')'] := by decide
    rw [toList_toAsciiUppercase, String.toList_append, String.toList_append, String.toList_append,
      List.map_append, List.map_append, List.map_append, inner, ← toList_toAsciiUppercase word,
      upper, List.append_assoc, List.append_assoc]
    rfl
  have letters : ".NOT".toList ≠ [] ∧ ' ' ∉ ".NOT".toList ∧ '(' ∉ ".NOT".toList ∧
      ')' ∉ ".NOT".toList := by decide
  have nothing : ¬".NOT".toList <:+: ([] : List Char) := fun inside =>
    letters.1 (List.infix_nil.mp inside)
  rw [containsText_iff, chars, infix_join letters.2.1, infix_join letters.2.2.1,
    infix_join letters.2.2.2, or_iff_right nothing, or_iff_left nothing,
    infix_intercalate letters.1 letters.2.1, containsText_iff]
  refine or_congr_right ?_
  constructor
  · rintro ⟨chars, member, inside⟩
    obtain ⟨name, found, rfl⟩ := List.mem_map.mp member
    exact ⟨name, found, containsText_iff.mpr inside⟩
  · rintro ⟨name, found, inside⟩
    exact ⟨_, List.mem_map_of_mem found, containsText_iff.mp inside⟩

/-- A section is read as what it means just when no name of a field has `.NOT` in it. -/
theorem parse_spells {meaning : BodySection} {inside : String} (spells : Spells meaning inside) :
    parseBodySection inside = meaning ↔ NotClear meaning := by
  have bare {text word : String} (upper : toAsciiUppercase text = word) (token : IsToken word) :
      trim text = text ∧ text ≠ "" := by
    have free := token_of_upper upper token
    exact ⟨trim_free free.2, free.1⟩
  cases spells with
  | full => exact iff_of_true (by decide) trivial
  | header upper =>
    obtain ⟨trimmed, some⟩ := bare upper (by decide)
    refine iff_of_true ?_ trivial
    unfold parseBodySection
    dsimp only
    rw [trimmed, if_neg some, if_pos upper]
  | text upper =>
    obtain ⟨trimmed, some⟩ := bare upper (by decide)
    refine iff_of_true ?_ trivial
    unfold parseBodySection
    dsimp only
    rw [trimmed, if_neg some, upper, if_neg (by decide), if_pos rfl]
  | mime upper =>
    obtain ⟨trimmed, some⟩ := bare upper (by decide)
    refine iff_of_true ?_ trivial
    unfold parseBodySection
    dsimp only
    rw [trimmed, if_neg some, upper, if_neg (by decide), if_neg (by decide), if_pos rfl]
  | @headerFields word upper names tokens =>
    have keyword : containsText "HEADER.FIELDS" ".NOT" = false := by decide
    have holds := contains_not upper names
    rw [parse_fields upper (by decide) tokens]
    rw [keyword, or_iff_right Bool.false_ne_true] at holds
    by_cases stray : containsText (toAsciiUppercase (word ++ " (" ++ " ".intercalate names ++ ")"))
        ".NOT" = true
    · rw [if_pos stray]
      obtain ⟨name, member, inside⟩ := holds.mp stray
      refine iff_of_false (fun same => nomatch same) fun clear => ?_
      rw [clear name member] at inside
      exact absurd inside Bool.false_ne_true
    · rw [if_neg stray]
      refine iff_of_true rfl fun name member => ?_
      by_contra inside
      exact stray (holds.mpr ⟨name, member, Bool.eq_true_of_not_eq_false inside⟩)
  | @headerFieldsNot word upper names tokens =>
    have keyword : containsText "HEADER.FIELDS.NOT" ".NOT" = true := by decide
    rw [parse_fields upper (by decide) tokens,
      if_pos ((contains_not upper names).mpr (.inl keyword))]
    exact iff_of_true rfl trivial
  | other some trimmed unknown noFields =>
    simp only [List.mem_cons, List.not_mem_nil, or_false, not_or] at unknown
    refine iff_of_true ?_ trivial
    unfold parseBodySection
    dsimp only
    rw [trimmed, if_neg some, if_neg unknown.1, if_neg unknown.2.1, if_neg unknown.2.2, noFields,
      if_neg Bool.false_ne_true]

/-! ## The text of a list -/

/-- An item is a word. -/
theorem token_item (item : Item) : IsToken item.word := by cases item <;> decide

/-- The items as words. -/
def wordsOf (list : List Datum) : List String := list.map Datum.text

/-- The characters of a list around one of its items. -/
theorem toList_around (before : List Datum) (datum : Datum) (after : List Datum) :
    (" ".intercalate (wordsOf (before ++ datum :: after))).toList =
      (before.flatMap fun other => other.text.toList ++ [' ']) ++
        (datum.text.toList ++ after.flatMap fun other => ' ' :: other.text.toList) := by
  have rest (first : Datum) (others : List Datum) :
      (" ".intercalate (wordsOf (first :: others))).toList =
        first.text.toList ++ others.flatMap fun other => ' ' :: other.text.toList := by
    induction others generalizing first with
    | nil => simp [wordsOf]
    | cons next others ih =>
      have cut : " ".intercalate (wordsOf (first :: next :: others)) =
          first.text ++ " " ++ " ".intercalate (wordsOf (next :: others)) :=
        String.intercalate_cons_cons
      rw [cut, String.toList_append, String.toList_append, ih, List.flatMap_cons]
      simp
  induction before with
  | nil => rw [List.nil_append, rest, List.flatMap_nil, List.nil_append]
  | cons first before ih =>
    have more : wordsOf (before ++ datum :: after) ≠ [] := by simp [wordsOf]
    have cut : " ".intercalate (wordsOf (first :: before ++ datum :: after)) =
        first.text ++ " " ++ " ".intercalate (wordsOf (before ++ datum :: after)) :=
      String.intercalate_cons_of_ne_nil more
    rw [cut, String.toList_append, String.toList_append, ih, List.flatMap_cons]
    simp

/-- The words around a section that is cut out. -/
theorem words_around (before after : List Datum)
    (plain : ∀ datum ∈ before ++ after, IsToken datum.text) :
    splitWhitespace (String.ofList ((before.flatMap fun other => other.text.toList ++ [' ']) ++
      after.flatMap fun other => ' ' :: other.text.toList)) = wordsOf (before ++ after) := by
  have later (others : List Datum) (each : ∀ datum ∈ others, IsToken datum.text) :
      splitWhitespace (String.ofList (others.flatMap fun other => ' ' :: other.text.toList)) =
        wordsOf others := by
    induction others with
    | nil => decide
    | cons first others ih =>
      have more := ih fun other member => each other (List.mem_cons_of_mem first member)
      have token := splitWhitespace_token (each first List.mem_cons_self)
      have cut := splitWhitespace_blank [] (first.text.toList ++
        others.flatMap fun other => ' ' :: other.text.toList)
      have empty : splitWhitespace (String.ofList []) = [] := by decide
      rw [List.flatMap_cons, List.cons_append, ← List.nil_append (' ' :: _), cut, empty,
        List.nil_append]
      cases others with
      | nil =>
        rw [List.flatMap_nil, List.append_nil, String.ofList_toList, token]
        rfl
      | cons next others =>
        rw [List.flatMap_cons, List.cons_append, splitWhitespace_blank, String.ofList_toList, token]
        have tail := splitWhitespace_blank [] (next.text.toList ++
          others.flatMap fun other => ' ' :: other.text.toList)
        rw [List.nil_append, empty, List.nil_append] at tail
        rw [List.flatMap_cons, List.cons_append, tail] at more
        rw [more]
        rfl
  induction before with
  | nil => exact later after plain
  | cons first before ih =>
    have more := ih fun datum member => plain datum (List.mem_cons_of_mem first member)
    have token := splitWhitespace_token (plain first List.mem_cons_self)
    rw [List.flatMap_cons, List.append_assoc, List.append_assoc, List.singleton_append,
      splitWhitespace_blank, String.ofList_toList, token, more]
    rfl

/-! ## The request -/

/-- A word names an item. -/
def names (item : Item) (word : String) : Bool := toAsciiUppercase word == item.word

/-- The request for a section and some words. -/
def request (body : BodySection) (words : List String) : FetchRequest :=
  let req := words.foldl addItem { body := body }
  if body = .none then req else { req with flags := true, uid := true, size := true }

/-- The request for a list without its parentheses. -/
def parsed (text : String) : FetchRequest :=
  let (rest, found) := extractBodySection text
  request ((found.map parseBodySection).getD .none) (splitWhitespace rest)

/-- A word adds the item that it names. -/
theorem addItem_eq (req : FetchRequest) (word : String) :
    addItem req word = ⟨req.flags || names .flags word, req.uid || names .uid word,
      req.size || names .size word, req.internaldate || names .internaldate word,
      req.envelope || names .envelope word, req.bodystructure || names .bodystructure word,
      req.body⟩ := by
  unfold addItem names Item.word
  generalize toAsciiUppercase word = upper
  split
  iterate 6 simp
  · rename_i flags uid size internaldate envelope bodystructure
    simp [beq_eq_false_iff_ne.mpr flags, beq_eq_false_iff_ne.mpr uid,
      beq_eq_false_iff_ne.mpr size, beq_eq_false_iff_ne.mpr internaldate,
      beq_eq_false_iff_ne.mpr envelope, beq_eq_false_iff_ne.mpr bodystructure]

/-- Words add the items that they name. -/
theorem foldl_addItem (words : List String) (req : FetchRequest) :
    words.foldl addItem req = ⟨req.flags || words.any (names .flags),
      req.uid || words.any (names .uid), req.size || words.any (names .size),
      req.internaldate || words.any (names .internaldate),
      req.envelope || words.any (names .envelope),
      req.bodystructure || words.any (names .bodystructure), req.body⟩ := by
  induction words generalizing req with
  | nil => simp
  | cons word words ih =>
    rw [List.foldl_cons, ih, addItem_eq]
    simp only [List.any_cons, Bool.or_assoc]

/-- A request keeps its section. -/
theorem request_body (body : BodySection) (words : List String) :
    (request body words).body = body := by
  unfold request
  rw [foldl_addItem]
  split
  · rfl
  · rfl

/-- The order of the words does not matter. -/
theorem request_perm (body : BodySection) {words others : List String} (same : words.Perm others) :
    request body words = request body others := by
  unfold request
  rw [foldl_addItem, foldl_addItem]
  simp only [same.any_eq]

/-- An item that is named is asked for. -/
theorem asked_request (body : BodySection) {words : List String} {item : Item}
    (named : words.any (names item) = true) : item.asked (request body words) = true := by
  unfold request
  rw [foldl_addItem]
  split
  · cases item <;> simp [Item.asked, named]
  · cases item <;> simp [Item.asked, named]

/-- BODYSTRUCTURE is asked for only by its name. -/
theorem structure_request (body : BodySection) (words : List String) :
    (request body words).bodystructure = words.any (names .bodystructure) := by
  unfold request
  rw [foldl_addItem]
  split
  · exact Bool.false_or _
  · exact Bool.false_or _

/-- Words name the items of a list. -/
theorem any_names {list : List Datum} (plain : ∀ datum ∈ list, datum.isBody = false) (item : Item) :
    (wordsOf list).any (names item) = list.any (Datum.isItem item) := by
  induction list with
  | nil => rfl
  | cons datum list ih =>
    have rest := ih fun other member => plain other (List.mem_cons_of_mem datum member)
    have first : names item datum.text = datum.isItem item := by
      cases datum with
      | body => cases plain _ List.mem_cons_self
      | item other word spelled =>
        simp only [Datum.text, names, spelled, Datum.isItem]
        cases other <;> cases item <;> decide
    rw [wordsOf, List.map_cons, List.any_cons, List.any_cons, first, ← wordsOf, rest]

/-! ## Reading the text of a list -/

/-- The letters that items begin with. -/
def beginnings : List (Char × Char) :=
  [('F', 'L'), ('U', 'I'), ('R', 'F'), ('I', 'N'), ('E', 'N'), ('B', 'O')]

/-- A text with two letters in its uppercase form begins with these. -/
theorem exists_two {text word : String} (upper : toAsciiUppercase text = word) {first second : Char}
    {rest : List Char} (letters : word.toList = first :: second :: rest) :
    ∃ c d tail, text.toList = c :: d :: tail ∧ upperChar c = first ∧ upperChar d = second := by
  rw [← upper, toList_toAsciiUppercase] at letters
  obtain ⟨c, more, written, raised, later⟩ := List.map_eq_cons_iff.mp letters
  obtain ⟨d, tail, also, other, -⟩ := List.map_eq_cons_iff.mp later
  exact ⟨c, d, tail, by rw [written, also], raised, other⟩

/-- A data item begins with two letters. -/
theorem begins (datum : Datum) : ∃ c d tail, datum.text.toList = c :: d :: tail ∧
    (upperChar c, upperChar d) ∈ beginnings := by
  cases datum with
  | item item word spelled =>
    have letters : ∃ first second rest, item.word.toList = first :: second :: rest ∧
        (first, second) ∈ beginnings := by
      cases item <;> exact ⟨_, _, _, rfl, by decide⟩
    obtain ⟨first, second, rest, shape, known⟩ := letters
    obtain ⟨c, d, tail, written, raised, other⟩ := exists_two spelled shape
    exact ⟨c, d, tail, written, by rw [raised, other]; exact known⟩
  | body keyword spelled meaning inside spells =>
    have letters : ∃ rest, (toAsciiUppercase keyword).toList = 'B' :: 'O' :: rest := by
      simp only [List.mem_cons, List.not_mem_nil, or_false] at spelled
      rcases spelled with upper | upper <;> exact ⟨_, by rw [upper]; rfl⟩
    obtain ⟨rest, shape⟩ := letters
    obtain ⟨c, d, tail, written, raised, other⟩ := exists_two rfl shape
    refine ⟨c, d, tail ++ "[".toList ++ inside.toList ++ "]".toList, ?_, ?_⟩
    · rw [Datum.text, String.toList_append, String.toList_append, String.toList_append, written]
      simp
    · rw [raised, other]
      decide

/-- A data item ends with no whitespace. -/
theorem ends (datum : Datum) : ∃ c, datum.text.toList.getLast? = some c ∧
    isWhitespace c = false := by
  cases datum with
  | item item word spelled =>
    have token := token_of_upper spelled (token_item item)
    have some : word.toList ≠ [] := fun empty => token.1 (String.toList_eq_nil_iff.mp empty)
    exact ⟨_, List.getLast?_eq_some_getLast some, token.2 _ (List.getLast_mem some)⟩
  | body keyword spelled meaning inside spells =>
    refine ⟨']', ?_, by decide⟩
    rw [Datum.text, String.toList_append]
    exact List.getLast?_concat

/-- A letter that an item begins with is no whitespace, and no parenthesis. -/
theorem solid_of_begins {c d : Char} (known : (upperChar c, upperChar d) ∈ beginnings) :
    isWhitespace c = false ∧ c ≠ '(' := by
  have each : ∀ pair ∈ beginnings, isWhitespace pair.1 = false ∧ pair.1 ≠ '(' := by decide
  have first := each _ known
  refine ⟨(isWhitespace_upperChar c).symm.trans first.1, ?_⟩
  rintro rfl
  exact first.2 plain_paren.upper

/-- A list is read without its parentheses. -/
theorem parse_listText (enclosed : Bool) {list : List Datum} (some : list ≠ []) :
    parseFetchItems (listText enclosed list) = parsed (" ".intercalate (wordsOf list)) := by
  obtain ⟨c, d, tail, chars, known⟩ : ∃ c d tail,
      (" ".intercalate (wordsOf list)).toList = c :: d :: tail ∧
        (upperChar c, upperChar d) ∈ beginnings := by
    obtain ⟨first, rest, rfl⟩ := List.exists_cons_of_ne_nil some
    obtain ⟨c, d, tail, written, known⟩ := begins first
    exact ⟨c, d, _, by rw [← List.nil_append (first :: rest), toList_around, written]; rfl, known⟩
  obtain ⟨z, last, solid⟩ : ∃ z, (" ".intercalate (wordsOf list)).toList.getLast? = Option.some z ∧
      isWhitespace z = false := by
    obtain ⟨before, final, rfl⟩ := (List.eq_nil_or_concat' list).resolve_left some
    obtain ⟨z, written, solid⟩ := ends final
    refine ⟨z, ?_, solid⟩
    rw [toList_around, List.flatMap_nil, List.append_nil, List.getLast?_append, written,
      Option.some_or]
  have first := solid_of_begins known
  have text : listText enclosed list =
      if enclosed then "(" ++ " ".intercalate (wordsOf list) ++ ")"
      else " ".intercalate (wordsOf list) := rfl
  generalize " ".intercalate (wordsOf list) = joined at chars last text ⊢
  have other {word : String} (member : word ∈ ["", "*", "ALL", "FULL", "FAST"]) :
      toAsciiUppercase joined ≠ word := by
    intro same
    have apart : ∀ word ∈ ["", "*", "ALL", "FULL", "FAST"], ∀ pair ∈ beginnings,
        [pair.1, pair.2].isPrefixOf word.toList = false := by decide
    have none := apart word member _ known
    rw [← same, toList_toAsciiUppercase, chars] at none
    simp at none
  -- What the parentheses leave of the text.
  have inner : (let inner := trim (listText enclosed list)
      if startsWith inner "(" && endsWith inner ")" then
        String.ofList (inner.toList.drop 1).dropLast
      else inner) = joined := by
    cases enclosed with
    | false =>
      have trimmed : trim joined = joined := by
        rw [trim_eq_self_iff, chars, ← chars, last]
        simp [chars, first.1, solid]
      have plain : startsWith joined "(" = false := by
        rw [startsWith, chars]
        exact Bool.and_eq_false_imp.mpr fun same => absurd (beq_iff_eq.mp same).symm first.2
      dsimp only
      rw [text, if_neg Bool.false_ne_true, trimmed, plain, Bool.false_and,
        if_neg Bool.false_ne_true]
    | true =>
      have written : ("(" ++ joined ++ ")").toList = '(' :: (joined.toList ++ [')']) := by simp
      have trimmed : trim ("(" ++ joined ++ ")") = "(" ++ joined ++ ")" := by
        rw [trim_eq_self_iff, written, ← List.cons_append, List.getLast?_concat]
        simp only [List.cons_append, List.head?_cons, Option.mem_some_iff, forall_eq']
        decide
      have starts : startsWith ("(" ++ joined ++ ")") "(" = true := by
        rw [String.append_assoc]
        exact startsWith_append _ _
      have finishes : endsWith ("(" ++ joined ++ ")") ")" = true := by
        rw [endsWith, String.toList_append]
        exact List.isSuffixOf_iff_suffix.mpr (List.suffix_append _ _)
      dsimp only
      rw [text, if_pos rfl, trimmed, starts, finishes, Bool.true_and, if_pos rfl, written,
        List.drop_succ_cons, List.drop_zero, List.dropLast_concat, String.ofList_toList]
  unfold parseFetchItems
  dsimp only at inner ⊢
  rw [inner, if_neg (not_or.mpr ⟨other (by decide), other (by decide)⟩),
    if_neg (not_or.mpr ⟨other (by decide), other (by decide)⟩), if_neg (other (by decide))]
  rfl

/-! ## Scanning a list -/

/-- The characters of an item that is no body section. -/
theorem plain_item {datum : Datum} (plain : datum.isBody = false) : IsToken datum.text ∧
    ∀ c ∈ datum.text.toList, c ≠ '[' ∧ c ≠ ']' ∧ startsItem c = false := by
  cases datum with
  | body => cases plain
  | item item word spelled =>
    have token := token_of_upper spelled (token_item item)
    have free {bracket : Char} (plain : Plain bracket) (none : ∀ item : Item,
        bracket ∉ item.word.toList) {c : Char} (member : c ∈ word.toList) : c ≠ bracket := by
      rintro rfl
      exact none item (spelled ▸ (mem_upper plain).mpr member)
    refine ⟨token, fun c member => ?_⟩
    have opens := free plain_open (fun item => by cases item <;> decide) member
    have closes := free plain_close (fun item => by cases item <;> decide) member
    have paren := free plain_paren (fun item => by cases item <;> decide) member
    refine ⟨opens, closes, ?_⟩
    by_contra starts
    have either : (isWhitespace c = true ∨ c = '(') ∨ c = '[' := by
      simp only [startsItem, Bool.not_eq_false, Bool.or_eq_true, decide_eq_true_eq] at starts
      rcases starts with ((((((rfl | rfl) | rfl) | rfl) | rfl) | rfl) | rfl)
      iterate 5 exact .inl (.inl (by decide))
      · exact .inl (.inr rfl)
      · exact .inr rfl
    rcases either with (blank | same) | same
    · rw [token.2 c member] at blank
      exact absurd blank Bool.false_ne_true
    · exact paren same
    · exact opens same

/-- Items without a body section are words. -/
theorem tokens_of_plain {list : List Datum} (plain : ∀ datum ∈ list, datum.isBody = false) :
    ∀ datum ∈ list, IsToken datum.text :=
  fun datum member => (plain_item (plain datum member)).1

/-- Neither have they brackets, nor have the blanks around them. -/
theorem free_around {bracket : Char} (either : bracket = '[' ∨ bracket = ']') {list : List Datum}
    (plain : ∀ datum ∈ list, datum.isBody = false) :
    (bracket ∉ list.flatMap fun datum => datum.text.toList ++ [' ']) ∧
      bracket ∉ list.flatMap fun datum => ' ' :: datum.text.toList := by
  have blank : bracket ≠ ' ' := by rcases either with rfl | rfl <;> decide
  have inner (datum : Datum) (member : datum ∈ list) : bracket ∉ datum.text.toList := by
    intro found
    have apart := (plain_item (plain datum member)).2 bracket found
    rcases either with rfl | rfl
    · exact apart.1 rfl
    · exact apart.2.1 rfl
  constructor
  · intro found
    obtain ⟨datum, member, found⟩ := List.mem_flatMap.mp found
    rcases List.mem_append.mp found with letters | last
    · exact inner datum member letters
    · exact blank (List.mem_singleton.mp last)
  · intro found
    obtain ⟨datum, member, found⟩ := List.mem_flatMap.mp found
    rcases List.mem_cons.mp found with first | letters
    · exact blank first
    · exact inner datum member letters

/-- Only BODYSTRUCTURE begins as a body section does. -/
theorem first_letter {datum : Datum} (plain : datum.isBody = false)
    (other : datum.isItem .bodystructure = false) :
    ∃ first rest, datum.text.toList = first :: rest ∧ upperChar first ≠ 'B' := by
  cases datum with
  | body => cases plain
  | item item word spelled =>
    have letters : ∃ first second rest, item.word.toList = first :: second :: rest ∧
        first ≠ 'B' := by
      cases item with
      | bodystructure => simp [Datum.isItem] at other
      | flags | uid | size | internaldate | envelope => exact ⟨_, _, _, rfl, by decide⟩
    obtain ⟨first, second, rest, shape, apart⟩ := letters
    obtain ⟨c, d, tail, written, raised, -⟩ := exists_two spelled shape
    exact ⟨c, d :: tail, written, raised ▸ apart⟩

/-- Items without a section are passed over. -/
theorem findBodySection_items {before : List Datum}
    (plain : ∀ datum ∈ before, datum.isBody = false)
    (other : ∀ datum ∈ before, datum.isItem .bodystructure = false) (rest : List Char) :
    findBodySection true ((before.flatMap fun datum => datum.text.toList ++ [' ']) ++ rest) =
      (findBodySection true rest).map
        (prepend (before.flatMap fun datum => datum.text.toList ++ [' '])) := by
  induction before with
  | nil =>
    rw [List.flatMap_nil, List.nil_append]
    exact Option.map_id'.symm
  | cons datum before ih =>
    have more := ih (fun datum member => plain datum (List.mem_cons_of_mem _ member))
      fun datum member => other datum (List.mem_cons_of_mem _ member)
    have none := plain datum List.mem_cons_self
    obtain ⟨first, tail, written, apart⟩ := first_letter none (other datum List.mem_cons_self)
    have each : ∀ c ∈ first :: tail, startsItem c = false := fun c member =>
      ((plain_item none).2 c (written ▸ member)).2.2
    have skip := findBodySection_word apart each
      ((before.flatMap fun datum => datum.text.toList ++ [' ']) ++ rest)
    rw [List.flatMap_cons, written, List.append_assoc, List.append_assoc, List.singleton_append,
      skip, more, Option.map_map]
    congr 1
    funext found
    simp [prepend]

/-- A balanced section is found at its keyword. -/
theorem findBodySection_body {keyword : String}
    (spelled : startsWith (toAsciiUppercase keyword) "BODY" = true)
    (free : '[' ∉ keyword.toList) {inside : List Char} (closed : balanced '[' ']' 0 inside = true)
    (after : List Char) :
    findBodySection true (keyword.toList ++ '[' :: (inside ++ ']' :: after)) =
      some ([], inside, after) := by
  have here := bodySectionAt_keyword spelled free (inside ++ ']' :: after)
  rw [closingBracket_iff.mpr ⟨rfl, closed⟩] at here
  cases chars : keyword.toList ++ '[' :: (inside ++ ']' :: after) with
  | nil => simp at chars
  | cons c rest =>
    rw [chars] at here
    rw [findBodySection, if_pos rfl, here]

/-- A keyword of a body section. -/
theorem keyword_shape {keyword : String}
    (spelled : toAsciiUppercase keyword ∈ ["BODY", "BODY.PEEK"]) :
    startsWith (toAsciiUppercase keyword) "BODY" = true ∧ '[' ∉ keyword.toList := by
  have each : ∀ upper ∈ ["BODY", "BODY.PEEK"], startsWith upper "BODY" = true ∧
      '[' ∉ upper.toList := by decide
  have known := each _ spelled
  exact ⟨known.1, fun member => known.2 ((mem_upper plain_open).mpr member)⟩

/-- The characters of a body section. -/
theorem toList_body {keyword : String} (spelled : toAsciiUppercase keyword ∈ ["BODY", "BODY.PEEK"])
    {meaning : BodySection} {inside : String} (spells : Spells meaning inside)
    (after : List Char) :
    (Datum.body keyword spelled meaning inside spells).text.toList ++ after =
      keyword.toList ++ '[' :: (inside.toList ++ ']' :: after) := by
  rw [Datum.text, String.toList_append, String.toList_append, String.toList_append]
  simp

/-- What is read when a section has been found. -/
theorem parsed_found {text : String} {before inside after : List Char}
    (found : findBodySection true text.toList = some (before, inside, after)) :
    parsed text = request (parseBodySection (String.ofList inside))
      (splitWhitespace (String.ofList (before ++ after))) := by
  rw [parsed, extractBodySection, found]
  dsimp only
  rw [Option.map_some, Option.getD_some]

/-- What is read when there is no section. -/
theorem parsed_none {text : String} (none : findBodySection true text.toList = none) :
    parsed text = request .none (splitWhitespace text) := by
  rw [parsed, extractBodySection, none]
  rfl

/-- A list without a body section asks for its items. -/
theorem read_plain (enclosed : Bool) {list : List Datum} (some : list ≠ [])
    (plain : ∀ datum ∈ list, datum.isBody = false) :
    parseFetchItems (listText enclosed list) = request .none (wordsOf list) := by
  have tokens : ∀ word ∈ wordsOf list, IsToken word := fun word member => by
    obtain ⟨datum, found, rfl⟩ := List.mem_map.mp member
    exact tokens_of_plain plain datum found
  have free : '[' ∉ (" ".intercalate (wordsOf list)).toList := by
    obtain ⟨first, rest, rfl⟩ := List.exists_cons_of_ne_nil some
    have head := (plain_item (plain first List.mem_cons_self)).2
    have tail := (free_around (.inl rfl) fun datum member =>
      plain datum (List.mem_cons_of_mem first member)).2
    rw [← List.nil_append (first :: rest), toList_around, List.flatMap_nil, List.nil_append,
      List.mem_append, not_or]
    exact ⟨fun member => (head _ member).1 rfl, tail⟩
  rw [parse_listText enclosed some, parsed_none (findBodySection_free free),
    splitWhitespace_intercalate tokens]

/-- A list with a balanced section and no BODYSTRUCTURE before it asks for both. -/
theorem read_body (enclosed : Bool) {before after : List Datum}
    (plain : ∀ datum ∈ before ++ after, datum.isBody = false)
    (other : ∀ datum ∈ before, datum.isItem .bodystructure = false) {keyword : String}
    (spelled : toAsciiUppercase keyword ∈ ["BODY", "BODY.PEEK"]) {meaning : BodySection}
    {inside : String} (spells : Spells meaning inside)
    (closed : balanced '[' ']' 0 inside.toList = true) :
    parseFetchItems (listText enclosed (before ++ .body keyword spelled meaning inside spells ::
      after)) = request (parseBodySection inside) (wordsOf (before ++ after)) := by
  have shape := keyword_shape spelled
  have found : findBodySection true (" ".intercalate (wordsOf (before ++
      .body keyword spelled meaning inside spells :: after))).toList =
        some (before.flatMap fun datum => datum.text.toList ++ [' '], inside.toList,
          after.flatMap fun datum => ' ' :: datum.text.toList) := by
    rw [toList_around, toList_body, findBodySection_items
      (fun datum member => plain datum (List.mem_append_left after member)) other,
      findBodySection_body shape.1 shape.2 closed, Option.map_some, prepend, List.append_nil]
  rw [parse_listText enclosed (by simp), parsed_found found, String.ofList_toList,
    words_around before after (tokens_of_plain plain)]

/-- BODYSTRUCTURE before a balanced section is cut out with it. -/
theorem read_structure (enclosed : Bool) {before after : List Datum} (some : before ≠ [])
    (plain : ∀ datum ∈ before ++ after, datum.isBody = false)
    (each : ∀ datum ∈ before, datum.isItem .bodystructure = true) {keyword : String}
    (spelled : toAsciiUppercase keyword ∈ ["BODY", "BODY.PEEK"]) {meaning : BodySection}
    {inside : String} (spells : Spells meaning inside)
    (closed : balanced '[' ']' 0 inside.toList = true) :
    parseFetchItems (listText enclosed (before ++ .body keyword spelled meaning inside spells ::
      after)) = request (parseBodySection inside) (wordsOf after) := by
  have shape := keyword_shape spelled
  have chars := toList_around before (.body keyword spelled meaning inside spells) after
  rw [toList_body, ← List.append_assoc, ← String.toList_ofList
    (l := (before.flatMap fun datum => datum.text.toList ++ [' ']) ++ keyword.toList)] at chars
  have free := (free_around (.inl rfl)
    fun datum member => plain datum (List.mem_append_left after member)).1
  have starts : startsWith (toAsciiUppercase (String.ofList
      ((before.flatMap fun datum => datum.text.toList ++ [' ']) ++ keyword.toList))) "BODY" =
        true := by
    obtain ⟨first, rest, rfl⟩ := List.exists_cons_of_ne_nil some
    have item := each first List.mem_cons_self
    cases first with
    | body => cases item
    | item kind word raised =>
      simp only [Datum.isItem, decide_eq_true_eq] at item
      subst item
      have prefix' : toAsciiUppercase word = "BODY" ++ "STRUCTURE" := raised
      have letters := @String.toList_ofList
        (((Datum.item .bodystructure word raised :: rest).flatMap
          fun datum => datum.text.toList ++ [' ']) ++ keyword.toList)
      rw [startsWith, toList_toAsciiUppercase, letters, List.flatMap_cons, List.append_assoc,
        List.append_assoc, List.map_append, Datum.text, ← toList_toAsciiUppercase, prefix',
        String.toList_append, List.append_assoc]
      exact List.isPrefixOf_iff_prefix.mpr (List.prefix_append _ _)
  have none : '[' ∉ (String.ofList
      ((before.flatMap fun datum => datum.text.toList ++ [' ']) ++ keyword.toList)).toList := by
    rw [String.toList_ofList, List.mem_append, not_or]
    exact ⟨free, shape.2⟩
  have found := findBodySection_body starts none closed
    (after.flatMap fun datum => ' ' :: datum.text.toList)
  rw [← chars] at found
  have words := words_around [] after
    (tokens_of_plain fun datum member => plain datum (List.mem_append_right before member))
  rw [parse_listText enclosed (by simp), parsed_found found, String.ofList_toList]
  exact congrArg _ words

/-! ## Orders -/

/-- The section in a list can be read: its brackets are balanced, the names of its fields do not
look like its keyword, and there is no BODYSTRUCTURE beside it. -/
structure Readable (list : List Datum) (meaning : BodySection) (inside : String) : Prop where
  /-- The brackets are balanced. -/
  closed : balanced '[' ']' 0 inside.toList = true
  /-- The names are clear. -/
  clear : NotClear meaning
  /-- There is no BODYSTRUCTURE. -/
  alone : list.any (Datum.isItem .bodystructure) = false

/-- Every section of the list can be read. -/
def AllReadable (list : List Datum) : Prop :=
  ∀ datum ∈ list, match datum with
    | .item _ _ _ => True
    | .body _ _ meaning inside _ => Readable list meaning inside

/-- A list with no body section gives none. -/
theorem givenSection_plain {list : List Datum} (plain : ∀ datum ∈ list, datum.isBody = false) :
    givenSection list = .none := by
  have none : (list.findSome? fun
      | .body _ _ meaning _ _ => some meaning
      | .item _ _ _ => none) = none := by
    rw [List.findSome?_eq_none_iff]
    intro datum member
    cases datum with
    | item => rfl
    | body => cases plain _ member
  rw [givenSection, none]
  rfl

/-- A list gives the section that is in it. -/
theorem givenSection_body {before after : List Datum}
    (plain : ∀ datum ∈ before, datum.isBody = false) {keyword : String}
    (spelled : toAsciiUppercase keyword ∈ ["BODY", "BODY.PEEK"]) {meaning : BodySection}
    {inside : String} (spells : Spells meaning inside) :
    givenSection (before ++ .body keyword spelled meaning inside spells :: after) = meaning := by
  induction before with
  | nil => rfl
  | cons first before ih =>
    have rest := ih fun datum member => plain datum (List.mem_cons_of_mem first member)
    cases first with
    | item => exact rest
    | body => cases plain _ List.mem_cons_self

/-- A section that is spelled is one. -/
theorem ne_none {meaning : BodySection} {inside : String} (spells : Spells meaning inside) :
    meaning ≠ .none := by cases spells <;> nofun

/-- A list that has no section or has one and items. -/
theorem plain_or_body {list : List Datum} (single : list.countP Datum.isBody ≤ 1) :
    (∀ datum ∈ list, datum.isBody = false) ∨
      ∃ before after keyword spelled meaning inside spells,
        list = before ++ .body keyword spelled meaning inside spells :: after ∧
          ∀ datum ∈ before ++ after, datum.isBody = false := by
  by_cases none : list.countP Datum.isBody = 0
  · left
    intro datum member
    exact Bool.eq_false_of_not_eq_true (List.countP_eq_zero.mp none datum member)
  · right
    obtain ⟨datum, member, body⟩ := List.countP_pos_iff.mp (Nat.pos_of_ne_zero none)
    obtain ⟨before, after, rfl⟩ := List.append_of_mem member
    cases datum with
    | item => cases body
    | body keyword spelled meaning inside spells =>
      refine ⟨before, after, keyword, spelled, meaning, inside, spells, rfl, ?_⟩
      rw [List.countP_append, List.countP_cons_of_pos body] at single
      intro datum member
      have zero : (before ++ after).countP Datum.isBody = 0 := by
        rw [List.countP_append]
        omega
      exact Bool.eq_false_of_not_eq_true (List.countP_eq_zero.mp zero datum member)

/-- A section can be read in a list just when it can be in another order of the list. -/
theorem allReadable_perm {list other : List Datum} (same : other.Perm list)
    (readable : AllReadable list) : AllReadable other := by
  intro datum member
  have here := readable datum (same.mem_iff.mp member)
  cases datum with
  | item => trivial
  | body keyword spelled meaning inside spells =>
    exact ⟨here.closed, here.clear, same.any_eq.trans here.alone⟩

/-- What is read of a list whose sections can be read. -/
theorem read_readable (enclosed : Bool) {list : List Datum} (some : list ≠ [])
    (single : list.countP Datum.isBody ≤ 1) (readable : AllReadable list) :
    parseFetchItems (listText enclosed list) =
      request (givenSection list) (wordsOf (list.filter fun datum => !datum.isBody)) := by
  rcases plain_or_body single with plain |
    ⟨before, after, keyword, spelled, meaning, inside, spells, rfl, plain⟩
  · have kept : (list.filter fun datum => !datum.isBody) = list :=
      List.filter_eq_self.mpr fun datum member => by rw [plain datum member]; rfl
    rw [read_plain enclosed some plain, givenSection_plain plain, kept]
  · have here : Readable _ meaning inside :=
      readable (.body keyword spelled meaning inside spells) (by simp)
    have other : ∀ datum ∈ before, datum.isItem .bodystructure = false := fun datum member =>
      Bool.eq_false_of_not_eq_true
        (List.any_eq_false.mp here.alone datum (List.mem_append_left _ member))
    have kept : ((before ++ Datum.body keyword spelled meaning inside spells :: after).filter
        fun datum => !datum.isBody) = before ++ after := by
      rw [List.filter_append, List.filter_cons_of_neg (by simp [Datum.isBody]),
        ← List.filter_append]
      exact List.filter_eq_self.mpr fun datum member => by rw [plain datum member]; rfl
    rw [read_body enclosed plain other spelled spells here.closed,
      givenSection_body (fun datum member => plain datum (List.mem_append_left after member)), kept,
      (parse_spells spells).mpr here.clear]

/-- A section that is read as what is given is balanced, and its names are clear. -/
theorem closed_of_body (enclosed : Bool) {before after : List Datum}
    (plain : ∀ datum ∈ before ++ after, datum.isBody = false) {keyword : String}
    (spelled : toAsciiUppercase keyword ∈ ["BODY", "BODY.PEEK"]) {meaning : BodySection}
    {inside : String} (spells : Spells meaning inside)
    (body : (parseFetchItems (listText enclosed
      (before ++ .body keyword spelled meaning inside spells :: after))).body = meaning) :
    balanced '[' ']' 0 inside.toList = true ∧ NotClear meaning := by
  rw [parse_listText enclosed (by simp)] at body
  have chars := toList_around before (.body keyword spelled meaning inside spells) after
  rw [toList_body, ← List.append_assoc] at chars
  generalize " ".intercalate (wordsOf (before ++ .body keyword spelled meaning inside spells ::
    after)) = text at body chars
  cases found : findBodySection true text.toList with
  | none =>
    rw [parsed_none found, request_body] at body
    exact absurd body.symm (ne_none spells)
  | some parts =>
    obtain ⟨first, part, last⟩ := parts
    rw [parsed_found found, request_body] at body
    obtain ⟨middle, written, closed⟩ := eq_of_findBodySection found
    have outer {bracket : Char} (either : bracket = '[' ∨ bracket = ']')
        (none : bracket ∉ keyword.toList) :
        bracket ∉ ((before.flatMap fun datum => datum.text.toList ++ [' ']) ++ keyword.toList) ++
          after.flatMap fun datum => ' ' :: datum.text.toList := by
      rw [List.mem_append, List.mem_append, not_or, not_or]
      exact ⟨⟨(free_around either fun datum member =>
        plain datum (List.mem_append_left after member)).1, none⟩,
        (free_around either fun datum member =>
          plain datum (List.mem_append_right before member)).2⟩
    have ends : ']' ∉ keyword.toList := by
      have each : ∀ upper ∈ ["BODY", "BODY.PEEK"], ']' ∉ upper.toList := by decide
      exact fun member => each _ spelled ((mem_upper plain_close).mpr member)
    have same := eq_of_meaning spells (outer (.inl rfl) (keyword_shape spelled).2)
      (outer (.inr rfl) ends) (chars.symm.trans (written.trans (by rw [String.toList_ofList])))
      body
    rw [same] at body
    have whole : part = inside.toList := by rw [← same, String.toList_ofList]
    exact ⟨whole ▸ closed, (parse_spells spells).mp body⟩

/-- The only section of a list. -/
theorem eq_of_isBody {before after : List Datum} {found datum : Datum}
    (plain : ∀ datum ∈ before ++ after, datum.isBody = false)
    (member : datum ∈ before ++ found :: after) (body : datum.isBody = true) : datum = found := by
  rcases List.mem_append.mp member with front | member
  · rw [plain datum (List.mem_append_left after front)] at body
    cases body
  · rcases List.mem_cons.mp member with same | rear
    · exact same
    · rw [plain datum (List.mem_append_right before rear)] at body
      cases body

/-- Another order gives the same section. -/
theorem givenSection_perm {list other : List Datum} (same : other.Perm list)
    (single : list.countP Datum.isBody ≤ 1) : givenSection other = givenSection list := by
  rcases plain_or_body single with plain |
    ⟨before, after, keyword, spelled, meaning, inside, spells, rfl, plain⟩
  · rw [givenSection_plain plain,
      givenSection_plain fun datum member => plain datum (same.mem_iff.mp member)]
  · rw [givenSection_body fun datum member => plain datum (List.mem_append_left after member)]
    have member := same.mem_iff.mpr (List.mem_append_right before List.mem_cons_self)
    rcases plain_or_body (same.countP_eq Datum.isBody ▸ single) with none |
      ⟨front, rear, keyword', spelled', meaning', inside', spells', rfl, around⟩
    · cases none _ member
    · rw [givenSection_body fun datum member => around datum (List.mem_append_left rear member)]
      cases eq_of_isBody around member rfl
      rfl

/-- Beside a section that is read in every order there is no BODYSTRUCTURE: in front of the section,
it would not be asked for. -/
theorem alone_of_orderFree {enclosed : Bool} {before after : List Datum}
    (plain : ∀ datum ∈ before ++ after, datum.isBody = false) {keyword : String}
    {spelled : toAsciiUppercase keyword ∈ ["BODY", "BODY.PEEK"]} {meaning : BodySection}
    {inside : String} {spells : Spells meaning inside}
    (closed : balanced '[' ']' 0 inside.toList = true)
    (holds : OrderFree enclosed (before ++ .body keyword spelled meaning inside spells :: after)) :
    (before ++ Datum.body keyword spelled meaning inside spells :: after).any
      (Datum.isItem .bodystructure) = false := by
  by_contra beside
  have beside := Bool.eq_true_of_not_eq_false beside
  let chosen := (before ++ after).filter (Datum.isItem .bodystructure)
  let others := (before ++ after).filter fun datum => !datum.isItem .bodystructure
  have order : (chosen ++ .body keyword spelled meaning inside spells :: others).Perm
      (before ++ .body keyword spelled meaning inside spells :: after) := by
    have parts := List.filter_append_perm (Datum.isItem .bodystructure) (before ++ after)
    exact List.perm_middle.trans ((parts.cons _).trans List.perm_middle.symm)
  have front : chosen ≠ [] := by
    intro empty
    have missing : (before ++ after).any (Datum.isItem .bodystructure) = false :=
      List.any_eq_false.mpr (List.filter_eq_nil_iff.mp empty)
    rw [List.any_append] at missing
    simp [Datum.isItem, Bool.or_eq_false_iff.mp missing] at beside
  have kept : ∀ datum ∈ chosen ++ others, datum.isBody = false := by
    intro datum member
    rcases List.mem_append.mp member with inner | inner
    · exact plain datum (List.mem_of_mem_filter inner)
    · exact plain datum (List.mem_of_mem_filter inner)
  have lost := read_structure enclosed front kept
    (fun datum member => (List.mem_filter.mp member).2) spelled spells closed
  have asked := holds.items .bodystructure beside
  rw [← holds.order _ order, lost] at asked
  have none := (structure_request (parseBodySection inside) (wordsOf others)).symm.trans asked
  rw [any_names fun datum member => kept datum (List.mem_append_right chosen member)] at none
  obtain ⟨datum, member, item⟩ := List.any_eq_true.mp none
  have other := (List.mem_filter.mp member).2
  rw [item] at other
  cases other

/-- Sections that are read in every order can be read. -/
theorem readable_of_orderFree {enclosed : Bool} {list : List Datum}
    (single : list.countP Datum.isBody ≤ 1) (holds : OrderFree enclosed list) :
    AllReadable list := by
  intro datum member
  cases datum with
  | item => trivial
  | body keyword' spelled' meaning' inside' spells' =>
    rcases plain_or_body single with plain |
      ⟨before, after, keyword, spelled, meaning, inside, spells, rfl, plain⟩
    · cases plain _ member
    · cases eq_of_isBody plain member rfl
      have given := holds.body
      rw [givenSection_body fun datum member => plain datum (List.mem_append_left after member)]
        at given
      have shape := closed_of_body enclosed plain spelled spells given
      exact ⟨shape.1, shape.2, alone_of_orderFree plain shape.1 holds⟩

/-- A list whose sections can be read is read in every order. -/
theorem orderFree_of_readable {enclosed : Bool} {list : List Datum} (some : list ≠ [])
    (single : list.countP Datum.isBody ≤ 1) (readable : AllReadable list) :
    OrderFree enclosed list := by
  have read := read_readable enclosed some single readable
  refine ⟨fun item named => ?_, ?_, fun other same => ?_⟩
  · rw [read]
    refine asked_request _ ?_
    rw [any_names fun datum member => by simpa using (List.mem_filter.mp member).2]
    obtain ⟨datum, member, this⟩ := List.any_eq_true.mp named
    refine List.any_eq_true.mpr ⟨datum, List.mem_filter.mpr ⟨member, ?_⟩, this⟩
    cases datum with
    | item => rfl
    | body => cases this
  · rw [read, request_body]
  · have nonempty : other ≠ [] := fun empty => some (empty ▸ same).symm.eq_nil
    have count : other.countP Datum.isBody ≤ 1 := same.countP_eq Datum.isBody ▸ single
    rw [read_readable enclosed nonempty count (allReadable_perm same readable), read,
      givenSection_perm same single]
    exact request_perm _ ((same.filter _).map _)

/-- For every list of data items with at most one body section: the request has every item of the
list and its section, in whatever order the list is, just when the list is not empty, and beside a
body section there is no BODYSTRUCTURE, the brackets inside it are balanced, and no name among
fields to be returned has `.NOT` in it. -/
theorem items_orderFree_iff (enclosed : Bool) (list : List Datum)
    (single : list.countP Datum.isBody ≤ 1) :
    OrderFree enclosed list ↔ list ≠ [] ∧ AllReadable list := by
  constructor
  · intro holds
    refine ⟨?_, readable_of_orderFree single holds⟩
    rintro rfl
    have full : parseFetchItems (listText enclosed []) =
        ⟨true, true, true, true, true, true, .full⟩ := by cases enclosed <;> decide
    have body := holds.body
    rw [full] at body
    cases body
  · exact fun both => orderFree_of_readable both.1 single both.2

/-- FLAGS and a section are read in both orders. -/
theorem flags_with_section : OrderFree true
    [.item .flags "flags" (by decide), .body "body.peek" (by decide) .text "text"
      (.text (by decide))] :=
  (items_orderFree_iff true _ (by decide)).mpr ⟨by simp, fun datum member => by
    simp only [List.mem_cons, List.not_mem_nil, or_false] at member
    rcases member with rfl | rfl
    · trivial
    · exact ⟨by decide, trivial, by decide⟩⟩

/-- `FETCH 1 (BODYSTRUCTURE FLAGS BODY[])` asks for no BODYSTRUCTURE. -/
theorem structure_before_section :
    ¬OrderFree true [.item .bodystructure "BODYSTRUCTURE" (by decide),
      .item .flags "FLAGS" (by decide), .body "BODY" (by decide) .full "" .full] := by
  intro holds
  have asked := holds.items .bodystructure (by decide)
  have read : parseFetchItems "(BODYSTRUCTURE FLAGS BODY[])" =
      ⟨true, true, true, false, false, false, .full⟩ := by decide
  have text : listText true [.item .bodystructure "BODYSTRUCTURE" (by decide),
      .item .flags "FLAGS" (by decide), .body "BODY" (by decide) .full "" .full] =
        "(BODYSTRUCTURE FLAGS BODY[])" := by decide
  rw [text, read] at asked
  cases asked

end Talk.Verif.FetchItems
