import Mathlib.Algebra.Order.Ring.Int
import Talk.Lib.Utf8

/-!
# Text operations

The operations of the Rust standard library's `str` that line protocols are parsed with:
splitting at a character, at whitespace and at the last separator, prefixes, trimming, ASCII
case and decimal numbers. Each works on the list of scalar values of the text, with the
standard library's own treatment of empty pieces, of Unicode whitespace and of signs.
-/

namespace Talk.Text

/-! ## Splitting -/

/-- The two parts around the first separator. -/
def splitFirst (sep : Char) : List Char → Option (List Char × List Char)
  | [] => none
  | c :: rest =>
    if c = sep then some ([], rest)
    else (splitFirst sep rest).map fun (left, right) => (c :: left, right)

/-- The two parts around the last separator. -/
def splitLast (sep : Char) : List Char → Option (List Char × List Char)
  | [] => none
  | c :: rest =>
    match splitLast sep rest with
    | some (left, right) => some (c :: left, right)
    | none => if c = sep then some ([], rest) else none

/-- At most `count` pieces, the last one with its separators. -/
def pieces (sep : Char) : Nat → List Char → List (List Char)
  | 0, _ => []
  | 1, text => [text]
  | count + 2, text =>
    match splitFirst sep text with
    | none => [text]
    | some (left, right) => left :: pieces sep (count + 1) right

/-- `str::split_once`. -/
def splitOnce (sep : Char) (text : String) : Option (String × String) :=
  (splitFirst sep text.toList).map fun (left, right) => (String.ofList left, String.ofList right)

/-- `str::rsplit_once`. -/
def rsplitOnce (sep : Char) (text : String) : Option (String × String) :=
  (splitLast sep text.toList).map fun (left, right) => (String.ofList left, String.ofList right)

/-- `str::splitn`. -/
def splitn (count : Nat) (sep : Char) (text : String) : List String :=
  (pieces sep count text.toList).map String.ofList

/-- `str::split` at one character; the pieces may be empty. -/
def split (sep : Char) (text : String) : List String :=
  (text.toList.splitOn sep).map String.ofList

/-- `char::is_whitespace`: the Unicode property `White_Space`. -/
def isWhitespace (c : Char) : Bool :=
  let code := c.toNat
  (0x9 ≤ code && code ≤ 0xD) || code == 0x20 || code == 0x85 || code == 0xA0 || code == 0x1680
    || (0x2000 ≤ code && code ≤ 0x200A) || code == 0x2028 || code == 0x2029 || code == 0x202F
    || code == 0x205F || code == 0x3000

/-- `str::split_whitespace`: the non-empty pieces between whitespace. -/
def splitWhitespace (text : String) : List String :=
  ((text.toList.splitOnP isWhitespace).filter fun piece => !piece.isEmpty).map String.ofList

/-- `str::trim_matches`. -/
def trimMatches (drops : Char → Bool) (text : String) : String :=
  String.ofList ((text.toList.dropWhile drops).reverse.dropWhile drops).reverse

/-- `str::trim`. -/
def trim (text : String) : String :=
  String.ofList ((text.toList.dropWhile isWhitespace).reverse.dropWhile isWhitespace).reverse

/-- `str::trim_start`. -/
def trimStart (text : String) : String := String.ofList (text.toList.dropWhile isWhitespace)

/-! ## Prefixes and case -/

/-- `str::starts_with`. -/
def startsWith (text start : String) : Bool := start.toList.isPrefixOf text.toList

/-- `str::strip_prefix`. -/
def stripStart (start text : String) : Option String :=
  if startsWith text start then some (String.ofList (text.toList.drop start.toList.length))
  else none

/-- `str::ends_with`. -/
def endsWith (text tail : String) : Bool := tail.toList.isSuffixOf text.toList

/-- `str::strip_suffix`. -/
def stripEnd (tail text : String) : Option String :=
  if endsWith text tail then
    some (String.ofList (text.toList.take (text.toList.length - tail.toList.length)))
  else none

/-- `str::contains`. -/
def containsText (text inner : String) : Bool :=
  text.toList.tails.any fun rest => inner.toList.isPrefixOf rest

/-- The uppercase form of an ASCII letter. -/
def upperChar (c : Char) : Char :=
  if 'a' ≤ c ∧ c ≤ 'z' then Char.ofNat (c.toNat - 32) else c

/-- The lowercase form of an ASCII letter. -/
def lowerChar (c : Char) : Char :=
  if 'A' ≤ c ∧ c ≤ 'Z' then Char.ofNat (c.toNat + 32) else c

/-- `str::to_ascii_uppercase`. -/
def toAsciiUppercase (text : String) : String := String.ofList (text.toList.map upperChar)

/-- `str::to_ascii_lowercase`. -/
def toAsciiLowercase (text : String) : String := String.ofList (text.toList.map lowerChar)

/-- `str::eq_ignore_ascii_case`. -/
def eqIgnoreAsciiCase (left right : String) : Bool :=
  toAsciiLowercase left == toAsciiLowercase right

/-! ## Decimal numbers -/

/-- The value of a non-empty list of decimal digits. -/
def digits (text : List Char) : Option Nat :=
  if text ≠ [] ∧ text.all Char.isDigit then some (Nat.ofDigitChars 10 text 0) else none

/-- `parse` at an unsigned type below `bound`: an optional plus sign, then digits. -/
def parseUnsigned (bound : Nat) (text : String) : Option Nat :=
  let body := match text.toList with
    | '+' :: rest => rest
    | all => all
  (digits body).bind fun value => if value < bound then some value else none

/-- `parse::<i64>`: an optional sign, then digits, within the range of the type. -/
def parseI64 (text : String) : Option Int64 :=
  let value : Option Int := match text.toList with
    | '+' :: rest => (digits rest).map Int.ofNat
    | '-' :: rest => (digits rest).map Int.negOfNat
    | all => (digits all).map Int.ofNat
  value.bind fun value =>
    if -2 ^ 63 ≤ value ∧ value < 2 ^ 63 then some (Int64.ofInt value) else none

/-! ## Splitting joined text -/

/-- The first separator of a joined text is the one joined with. -/
theorem splitFirst_join {sep : Char} {left : List Char} (free : sep ∉ left) (right : List Char) :
    splitFirst sep (left ++ sep :: right) = some (left, right) := by
  induction left with
  | nil => simp [splitFirst]
  | cons c left ih =>
    simp only [List.mem_cons, not_or] at free
    simp [splitFirst, Ne.symm free.1, ih free.2]

/-- The first piece is what stands before the separator. -/
theorem head_splitOn (sep : Char) (text : List Char) :
    (text.splitOn sep).head? = some (text.takeWhile (· != sep)) := by
  induction text with
  | nil => rfl
  | cons c rest ih =>
    rw [List.splitOn_cons_eq_if_modifyHead]
    by_cases same : c = sep
    · simp [same]
    · have pieces : rest.splitOn sep ≠ [] := List.splitOn_ne_nil sep rest
      obtain ⟨piece, others, split⟩ := List.exists_cons_of_ne_nil pieces
      rw [split] at ih ⊢
      simp_all

/-- A text without the separator is not split. -/
theorem splitFirst_free {sep : Char} {text : List Char} (free : sep ∉ text) :
    splitFirst sep text = none := by
  induction text with
  | nil => rfl
  | cons c text ih =>
    simp only [List.mem_cons, not_or] at free
    simp [splitFirst, Ne.symm free.1, ih free.2]

/-- A text without the separator is not split at its last separator either. -/
theorem splitLast_free {sep : Char} {text : List Char} (free : sep ∉ text) :
    splitLast sep text = none := by
  induction text with
  | nil => rfl
  | cons c text ih =>
    simp only [List.mem_cons, not_or] at free
    simp [splitLast, Ne.symm free.1, ih free.2]

/-- The last separator of a joined text is the one joined with. -/
theorem splitLast_join {sep : Char} (left : List Char) {right : List Char} (free : sep ∉ right) :
    splitLast sep (left ++ sep :: right) = some (left, right) := by
  induction left with
  | nil => simp [splitLast, splitLast_free free]
  | cons c left ih => simp [splitLast, ih]

/-- A text split at its last separator is its two parts around it. -/
theorem splitLast_eq {sep : Char} {text left right : List Char}
    (found : splitLast sep text = some (left, right)) : text = left ++ sep :: right := by
  induction text generalizing left right with
  | nil => cases found
  | cons c text ih =>
    rw [splitLast] at found
    split at found
    next inner after inside =>
      cases found
      rw [ih inside, List.cons_append]
    next =>
      split at found
      next same =>
        cases found
        rw [same, List.nil_append]
      next => cases found

/-- Joining with a separator and splitting at the last one gives both parts back. -/
theorem rsplitOnce_join (left : String) {right : String} (free : '|' ∉ right.toList) :
    rsplitOnce '|' (left ++ "|" ++ right) = some (left, right) := by
  simp [rsplitOnce, splitLast_join _ free]

/-- A split text is its two parts around the separator. -/
theorem splitFirst_eq {sep : Char} {text left right : List Char}
    (found : splitFirst sep text = some (left, right)) : text = left ++ sep :: right := by
  induction text generalizing left with
  | nil => cases found
  | cons c text ih =>
    rw [splitFirst] at found
    split at found
    · rename_i same
      cases found
      simp [same]
    · obtain ⟨⟨first, rest⟩, inner, same⟩ := Option.map_eq_some_iff.mp found
      cases same
      simp [ih inner]

/-- The characters of a piece stand in the text in the same order. -/
theorem sublist_of_mem_splitn {sep : Char} {count : Nat} {text piece : String}
    (member : piece ∈ splitn count sep text) : piece.toList.Sublist text.toList := by
  have inside : ∀ (count : Nat) (text piece : List Char), piece ∈ pieces sep count text →
      piece.Sublist text := by
    intro count text piece member
    induction count, text using pieces.induct sep with
    | case1 => cases member
    | case2 text => simp_all [pieces]
    | case3 text count whole => simp_all [pieces]
    | case4 text count left right found ih =>
      rw [pieces, found] at member
      rw [splitFirst_eq found]
      rcases List.mem_cons.mp member with rfl | later
      · exact List.sublist_append_left _ _
      · exact (ih later).trans
          ((List.sublist_cons_self _ _).trans (List.sublist_append_right _ _))
  obtain ⟨chars, found, rfl⟩ := List.mem_map.mp member
  simpa using inside count text.toList chars found

/-- What stands before the first separator holds none. -/
theorem free_of_splitFirst {sep : Char} {text left right : List Char}
    (found : splitFirst sep text = some (left, right)) : sep ∉ left := by
  induction text generalizing left with
  | nil => cases found
  | cons c text ih =>
    rw [splitFirst] at found
    split at found
    · cases found
      exact List.not_mem_nil
    · rename_i other
      obtain ⟨⟨first, rest⟩, inner, same⟩ := Option.map_eq_some_iff.mp found
      cases same
      exact List.not_mem_cons_of_ne_of_not_mem (Ne.symm other) (ih inner)

/-- A text that is not split holds no separator. -/
theorem free_of_splitFirst_none {sep : Char} {text : List Char}
    (whole : splitFirst sep text = none) : sep ∉ text := by
  intro member
  obtain ⟨left, right, shape, free⟩ := List.eq_append_cons_of_mem member
  rw [shape, splitFirst_join free] at whole
  cases whole

/-- Only the last of the pieces allowed for can hold a separator. -/
theorem free_of_getElem?_splitn {sep : Char} {count index : Nat} {text piece : String}
    (found : (splitn (count + 1) sep text)[index]? = some piece) (early : index < count) :
    sep ∉ piece.toList := by
  have inside : ∀ (count index : Nat) (text piece : List Char),
      (pieces sep (count + 1) text)[index]? = some piece → index < count → sep ∉ piece := by
    intro count
    induction count with
    | zero => exact fun index _ _ _ early => absurd early (Nat.not_lt_zero index)
    | succ count ih =>
      intro index text piece found early
      rw [pieces] at found
      cases split : splitFirst sep text with
      | none =>
        simp only [split] at found
        have member := List.mem_of_getElem? found
        rw [List.mem_singleton] at member
        exact member ▸ free_of_splitFirst_none split
      | some parts =>
        simp only [split] at found
        cases index with
        | zero =>
          rw [List.getElem?_cons_zero, Option.some.injEq] at found
          exact found ▸ free_of_splitFirst split
        | succ index =>
          rw [List.getElem?_cons_succ] at found
          exact ih index parts.2 piece found (Nat.lt_of_succ_lt_succ early)
  rw [splitn, List.getElem?_map] at found
  obtain ⟨chars, found, same⟩ := Option.map_eq_some_iff.mp found
  rw [← same, String.toList_ofList]
  exact inside count index text.toList chars found early

/-- The characters between separators stand in the text in the same order. -/
theorem sublist_of_mem_splitOnP {separates : Char → Bool} {text piece : List Char}
    (member : piece ∈ text.splitOnP separates) : piece.Sublist text := by
  induction text generalizing piece with
  | nil => simp_all
  | cons c text ih =>
    rw [List.splitOnP_cons_eq_if_modifyHead] at member
    obtain ⟨first, rest, parts⟩ :=
      List.exists_cons_of_ne_nil (List.splitOnP_ne_nil separates text)
    rw [parts] at member ih
    split at member
    · rcases List.mem_cons.mp member with rfl | later
      · exact List.nil_sublist _
      · exact (ih later).trans (List.sublist_cons_self _ _)
    · rw [List.modifyHead_cons] at member
      rcases List.mem_cons.mp member with rfl | later
      · exact (ih List.mem_cons_self).cons_cons c
      · exact (ih (List.mem_cons_of_mem _ later)).trans (List.sublist_cons_self _ _)

/-- The characters of a piece of a split stand in the text in the same order. -/
theorem sublist_of_mem_split {sep : Char} {text piece : String} (member : piece ∈ split sep text) :
    piece.toList.Sublist text.toList := by
  obtain ⟨chars, found, rfl⟩ := List.mem_map.mp member
  rw [List.splitOn_eq_splitOnP] at found
  simpa using sublist_of_mem_splitOnP found

/-- The characters of a token stand in the text in the same order. -/
theorem sublist_of_mem_splitWhitespace {text token : String}
    (member : token ∈ splitWhitespace text) : token.toList.Sublist text.toList := by
  obtain ⟨chars, found, rfl⟩ := List.mem_map.mp member
  simpa using sublist_of_mem_splitOnP (List.mem_of_mem_filter found)

/-- No character of a piece of a split separates. -/
theorem free_of_mem_splitOnP {separates : Char → Bool} {text piece : List Char}
    (member : piece ∈ text.splitOnP separates) : ∀ c ∈ piece, separates c = false := by
  induction text generalizing piece with
  | nil =>
    simp only [List.splitOnP_nil, List.mem_singleton] at member
    simp [member]
  | cons c text ih =>
    rw [List.splitOnP_cons_eq_if_modifyHead] at member
    split at member
    · rcases List.mem_cons.mp member with rfl | later
      · simp
      · exact ih later
    · rename_i other
      obtain ⟨first, rest, parts⟩ :=
        List.exists_cons_of_ne_nil (List.splitOnP_ne_nil separates text)
      rw [parts, List.modifyHead_cons, List.mem_cons] at member
      rcases member with rfl | later
      · intro d found
        rcases List.mem_cons.mp found with same | inside
        · rw [same]
          exact Bool.eq_false_of_not_eq_true other
        · exact ih (parts ▸ List.mem_cons_self) d inside
      · exact ih (parts ▸ List.mem_cons_of_mem _ later)

/-- Every piece of a split is free of the separator. -/
theorem free_of_mem_splitOn {sep : Char} {text piece : List Char}
    (member : piece ∈ text.splitOn sep) : sep ∉ piece := by
  rw [List.splitOn_eq_splitOnP] at member
  intro found
  have other := free_of_mem_splitOnP member sep found
  simp at other

/-- Every piece of a split text is free of the separator. -/
theorem free_of_mem_split {sep : Char} {text piece : String} (member : piece ∈ split sep text) :
    sep ∉ piece.toList := by
  obtain ⟨chars, found, rfl⟩ := List.mem_map.mp member
  simpa using free_of_mem_splitOn found

/-- A non-empty text without whitespace. -/
def IsToken (text : String) : Prop := text ≠ "" ∧ ∀ c ∈ text.toList, isWhitespace c = false

instance (text : String) : Decidable (IsToken text) :=
  decidable_of_iff (text ≠ "" ∧ text.toList.all (fun c => !isWhitespace c) = true)
    (by simp [IsToken])

/-- What stands between whitespace is a token. -/
theorem isToken_of_mem_splitWhitespace {text token : String}
    (member : token ∈ splitWhitespace text) : IsToken token := by
  obtain ⟨chars, found, rfl⟩ := List.mem_map.mp member
  obtain ⟨piece, nonempty⟩ := List.mem_filter.mp found
  refine ⟨fun empty => ?_, ?_⟩
  · have none : chars = [] := by simpa using congrArg String.toList empty
    simp [none] at nonempty
  · rw [String.toList_ofList]
    exact free_of_mem_splitOnP piece

/-- A token alone is its only piece. -/
theorem splitWhitespace_token {text : String} (token : IsToken text) :
    splitWhitespace text = [text] := by
  have nonempty : text.toList ≠ [] := fun empty => token.1 (String.ext empty)
  simp [splitWhitespace, List.splitOnP_eq_singleton token.2, nonempty]

/-- A token before a space is the first piece. -/
theorem splitWhitespace_cons {text : String} (token : IsToken text) (rest : String) :
    splitWhitespace (text ++ " " ++ rest) = text :: splitWhitespace rest := by
  have nonempty : text.toList ≠ [] := fun empty => token.1 (String.ext empty)
  have split := List.splitOnP_append_cons_of_forall_mem token.2 ' ' (by decide) rest.toList
  simp only [splitWhitespace, String.toList_append, List.append_assoc]
  rw [show " ".toList = [' '] from rfl, List.singleton_append, split]
  simp [nonempty]

/-! ## Prefixes and trimming -/

/-- A text starts with what was put before it. -/
@[simp] theorem startsWith_append (start rest : String) :
    startsWith (start ++ rest) start = true := by
  simp [startsWith]

/-- Stripping what was put before a text leaves the text. -/
@[simp] theorem stripStart_append (start rest : String) :
    stripStart start (start ++ rest) = some rest := by
  simp [stripStart]

/-- A text whose start is stripped is the start and what is left. -/
theorem eq_append_of_stripStart {start text rest : String}
    (stripped : stripStart start text = some rest) : text = start ++ rest := by
  unfold stripStart at stripped
  split at stripped
  next starts =>
    obtain ⟨tail, whole⟩ := List.isPrefixOf_iff_prefix.mp starts
    cases stripped
    rw [← String.toList_inj, String.toList_append, String.toList_ofList, ← whole,
      List.drop_left]
  next => cases stripped

/-- Nothing is dropped exactly where the first item is kept. -/
theorem dropWhile_eq_self {α : Type} {drops : α → Bool} {items : List α} :
    items.dropWhile drops = items ↔ ∀ item ∈ items.head?, drops item = false := by
  cases items with
  | nil => simp
  | cons item rest =>
    rw [List.dropWhile_cons]
    cases dropped : drops item with
    | false => simp [dropped]
    | true =>
      have short := (List.dropWhile_sublist drops (l := rest)).length_le
      constructor
      · intro same
        have longer := congrArg List.length same
        rw [if_pos rfl, List.length_cons] at longer
        omega
      · intro kept
        exact absurd (kept item rfl) (by simp [dropped])

/-- What is trimmed is a part of the text. -/
theorem trim_sublist (text : String) : (trim text).toList.Sublist text.toList := by
  rw [trim, String.toList_ofList, ← List.reverse_sublist, List.reverse_reverse]
  exact (List.dropWhile_sublist _).trans (List.reverse_sublist.mpr (List.dropWhile_sublist _))

/-- Only whitespace is trimmed off. -/
theorem mem_trim {text : String} {c : Char} (solid : isWhitespace c = false)
    (member : c ∈ text.toList) : c ∈ (trim text).toList := by
  have kept : ∀ chars : List Char, c ∈ chars → c ∈ chars.dropWhile isWhitespace := by
    intro chars member
    rw [← List.takeWhile_append_dropWhile (p := isWhitespace) (l := chars)] at member
    rcases List.mem_append.mp member with dropped | rest
    · have blank := List.all_eq_true.mp (List.all_takeWhile (p := isWhitespace)) c dropped
      rw [solid] at blank
      cases blank
    · exact rest
  rw [trim, String.toList_ofList, List.mem_reverse]
  exact kept _ (List.mem_reverse.mpr (kept _ member))

/-- A text is not trimmed exactly where it neither starts nor ends in whitespace. -/
theorem trim_eq_self_iff {text : String} :
    trim text = text ↔ (∀ c ∈ text.toList.head?, isWhitespace c = false) ∧
      ∀ c ∈ text.toList.getLast?, isWhitespace c = false := by
  rw [← dropWhile_eq_self, ← List.head?_reverse, ← dropWhile_eq_self, ← String.toList_inj, trim,
    String.toList_ofList]
  constructor
  · intro same
    have inner : text.toList.dropWhile isWhitespace = text.toList := by
      have outer := (List.dropWhile_sublist isWhitespace
        (l := (text.toList.dropWhile isWhitespace).reverse)).length_le
      rw [← List.length_reverse, same, List.length_reverse] at outer
      exact (List.dropWhile_sublist _).eq_of_length_le outer
    rw [inner] at same
    exact ⟨inner, by rw [← List.reverse_eq_iff, same]⟩
  · rintro ⟨start, rear⟩
    rw [start, rear, List.reverse_reverse]

/-- A text without whitespace is not trimmed. -/
theorem trim_free {text : String} (free : ∀ c ∈ text.toList, isWhitespace c = false) :
    trim text = text :=
  trim_eq_self_iff.mpr ⟨fun c first => free c (List.mem_of_mem_head? first),
    fun c last => free c (List.mem_of_mem_getLast? last)⟩

/-- What is trimmed off a text is whitespace. -/
theorem trim_split (text : String) :
    ∃ before after, text.toList = before ++ (trim text).toList ++ after ∧
      ∀ c ∈ before ++ after, isWhitespace c = true := by
  have cut := List.takeWhile_append_dropWhile (p := isWhitespace) (l := text.toList)
  generalize kept : text.toList.dropWhile isWhitespace = front at cut
  have back := List.takeWhile_append_dropWhile (p := isWhitespace) (l := front.reverse)
  refine ⟨text.toList.takeWhile isWhitespace, (front.reverse.takeWhile isWhitespace).reverse,
    ?_, fun c member => ?_⟩
  · rw [trim, kept, String.toList_ofList, List.append_assoc, ← List.reverse_append, back,
      List.reverse_reverse, cut]
  · rcases List.mem_append.mp member with first | last
    · exact List.all_eq_true.mp List.all_takeWhile c first
    · exact List.all_eq_true.mp List.all_takeWhile c (List.mem_reverse.mp last)

/-- Blanks around a text are trimmed off, where the text has none. -/
theorem trim_blanks {text : String} {before after : List Char} {core : String}
    (shape : text.toList = before ++ core.toList ++ after)
    (blank : ∀ c ∈ before ++ after, isWhitespace c = true)
    (solid : ∀ c ∈ core.toList, isWhitespace c = false) : trim text = core := by
  have front : ∀ c ∈ before, isWhitespace c = true := fun c member =>
    blank c (List.mem_append_left after member)
  have back : ∀ c ∈ after.reverse, isWhitespace c = true := fun c member =>
    blank c (List.mem_append_right before (List.mem_reverse.mp member))
  have gone := @List.dropWhile_append_of_pos _ isWhitespace after [] fun c member =>
    back c (List.mem_reverse.mpr member)
  rw [List.append_nil, List.dropWhile_nil] at gone
  rw [← String.toList_inj, trim, String.toList_ofList, shape, List.append_assoc,
    List.dropWhile_append_of_pos front]
  cases chars : core.toList with
  | nil =>
    rw [List.nil_append, gone]
    rfl
  | cons c rest =>
    have first : ∀ d ∈ (c :: rest ++ after).head?, isWhitespace d = false := by
      intro d found
      cases found
      exact solid c (chars ▸ List.mem_cons_self)
    have last : ∀ d ∈ (c :: rest).reverse.head?, isWhitespace d = false := fun d found =>
      solid d (chars ▸ List.mem_reverse.mp (List.mem_of_mem_head? found))
    rw [dropWhile_eq_self.mpr first, List.reverse_append, List.dropWhile_append_of_pos back,
      dropWhile_eq_self.mpr last, List.reverse_reverse]

/-- Case does not matter to a text itself. -/
@[simp] theorem eqIgnoreAsciiCase_refl (text : String) : eqIgnoreAsciiCase text text = true := by
  simp [eqIgnoreAsciiCase]

/-- Raising a letter first does not matter when it is lowered. -/
theorem lowerChar_upperChar (c : Char) : lowerChar (upperChar c) = lowerChar c := by
  have letters : ∀ index < 26, lowerChar (upperChar (Char.ofNat (97 + index))) =
      lowerChar (Char.ofNat (97 + index)) := by decide
  by_cases lower : 'a' ≤ c ∧ c ≤ 'z'
  · have low : 97 ≤ c.toNat := Char.le_def.mp lower.1
    have high : c.toNat ≤ 122 := Char.le_def.mp lower.2
    have letter := letters (c.toNat - 97) (by omega)
    rw [show 97 + (c.toNat - 97) = c.toNat by omega, Char.ofNat_toNat] at letter
    exact letter
  · rw [upperChar, if_neg lower]

/-- Texts with the same uppercase form differ in case only. -/
theorem eqIgnoreAsciiCase_of_upper {left right : String}
    (same : toAsciiUppercase left = toAsciiUppercase right) :
    eqIgnoreAsciiCase left right = true := by
  have lowered (text : String) :
      toAsciiLowercase (toAsciiUppercase text) = toAsciiLowercase text := by
    unfold toAsciiLowercase toAsciiUppercase
    rw [String.toList_ofList, List.map_map]
    congr 2
    funext c
    exact lowerChar_upperChar c
  rw [eqIgnoreAsciiCase, beq_iff_eq, ← lowered left, ← lowered right, same]

/-- Texts that differ in case only are equally long. -/
theorem length_eq_of_eqIgnoreAsciiCase {left right : String}
    (same : eqIgnoreAsciiCase left right = true) : left.toList.length = right.toList.length := by
  have lower : toAsciiLowercase left = toAsciiLowercase right := by
    simpa [eqIgnoreAsciiCase] using same
  have lengths := congrArg (fun text => text.toList.length) lower
  simpa [toAsciiLowercase] using lengths

/-- An end is stripped exactly where the text has it. -/
theorem stripEnd_eq_none_iff {tail text : String} :
    stripEnd tail text = none ↔ endsWith text tail = false := by
  cases ends : endsWith text tail with
  | false => simp [stripEnd, ends]
  | true => simp [stripEnd, ends]

/-- An end without the separator is an end of what stands behind it. -/
theorem suffix_join {sep : Char} {tail : List Char} (free : sep ∉ tail) (left right : List Char) :
    tail <:+ left ++ sep :: right ↔ tail <:+ right := by
  constructor
  · intro ends
    rcases List.suffix_or_suffix_of_suffix ends (List.suffix_append left (sep :: right)) with
      short | long
    · rcases List.suffix_cons_iff.mp short with whole | behind
      · exact absurd (whole ▸ List.mem_cons_self) free
      · exact behind
    · exact absurd (long.subset List.mem_cons_self) free
  · intro ends
    exact List.suffix_append_of_suffix (ends.trans (List.suffix_cons sep right))

/-! ## Numbers -/

/-- A decimal number consists of digits. -/
theorem isDigit_toString {value : Nat} {c : Char} (member : c ∈ (toString value).toList) :
    c.isDigit = true :=
  Nat.isDigit_of_mem_toDigits (by decide : 0 < 10) (by decide) (Nat.toList_repr ▸ member)

/-- A digit is an ASCII character other than whitespace. -/
theorem whitespace_of_isDigit {c : Char} (digit : c.isDigit = true) :
    isWhitespace c = false ∧ c.toNat < 128 := by
  have range : 48 ≤ c.toNat ∧ c.toNat ≤ 57 := by
    simpa using Char.isDigit_iff_toNat.mp digit
  simp only [isWhitespace, Bool.or_eq_false_iff, Bool.and_eq_false_iff, decide_eq_false_iff_not,
    beq_eq_false_iff_ne]
  omega

/-- Trimming leaves a decimal number alone. -/
@[simp] theorem trim_toString (value : Nat) : trim (toString value) = toString value :=
  trim_free fun _ member => (whitespace_of_isDigit (isDigit_toString member)).1

/-- A decimal number takes one byte for each digit. -/
theorem length_bytes_toString (value : Nat) :
    (Utf8.bytes (toString value)).length = (Nat.toDigits 10 value).length := by
  have one : ∀ chars : List Char, (∀ c ∈ chars, c.isDigit = true) →
      (chars.flatMap String.utf8EncodeChar).length = chars.length := by
    intro chars digit
    induction chars with
    | nil => rfl
    | cons c chars ih =>
      have ascii := (whitespace_of_isDigit (digit c List.mem_cons_self)).2
      have size : c.utf8Size = 1 := Char.utf8Size_eq_one_iff.mpr (by
        rw [UInt32.le_iff_toNat_le]
        exact Nat.le_of_lt_succ ascii)
      rw [List.flatMap_cons, List.length_append, String.length_utf8EncodeChar, size,
        ih fun d member => digit d (List.mem_cons_of_mem c member), List.length_cons]
      omega
  have text : (toString value).toList = Nat.toDigits 10 value := Nat.toList_repr
  rw [Utf8.bytes, text]
  exact one _ fun c member => isDigit_toString (text ▸ member)

/-- A digit is the digit of a number below ten. -/
theorem exists_digitChar {c : Char} (digit : c.isDigit = true) :
    ∃ number < 10, c = Nat.digitChar number := by
  have range : 48 ≤ c.toNat ∧ c.toNat ≤ 57 := by
    simpa using Char.isDigit_iff_toNat.mp digit
  refine ⟨c.toNat - 48, by omega, Char.toNat_inj.mp ?_⟩
  rw [Nat.toNat_digitChar_of_lt_ten (by omega)]
  omega

/-- The digits of a number that is not zero, with more digits behind them, are the digits of a
number. -/
theorem toDigits_append {value : Nat} (positive : 0 < value) {rest : List Char}
    (digit : ∀ c ∈ rest, c.isDigit = true) :
    Nat.toDigits 10 value ++ rest = Nat.toDigits 10 (Nat.ofDigitChars 10 rest value) := by
  induction rest generalizing value with
  | nil => rw [List.append_nil, Nat.ofDigitChars_nil]
  | cons c rest ih =>
    obtain ⟨number, small, rfl⟩ := exists_digitChar (digit c List.mem_cons_self)
    have joined := Nat.toDigits_append_toDigits (by decide : 1 < 10) positive small
    rw [Nat.toDigits_of_lt_base small] at joined
    have later := ih (by omega : 0 < 10 * value + number) fun d member =>
      digit d (List.mem_cons_of_mem _ member)
    rw [Nat.ofDigitChars_cons_digitChar_of_lt_ten small, ← later, ← joined, List.append_assoc,
      List.singleton_append]

/-- Digits are the digits of their value, perhaps behind zeros. -/
theorem zeros_toDigits {text : List Char} (filled : text ≠ [])
    (digit : ∀ c ∈ text, c.isDigit = true) :
    ∃ zeros, text = List.replicate zeros '0' ++ Nat.toDigits 10 (Nat.ofDigitChars 10 text 0) := by
  induction text with
  | nil => exact absurd rfl filled
  | cons c rest ih =>
    have later : ∀ d ∈ rest, d.isDigit = true := fun d member =>
      digit d (List.mem_cons_of_mem c member)
    obtain ⟨number, small, rfl⟩ := exists_digitChar (digit c List.mem_cons_self)
    rw [Nat.ofDigitChars_cons_digitChar_of_lt_ten small, Nat.mul_zero, Nat.zero_add]
    rcases Nat.eq_zero_or_pos number with rfl | positive
    · cases rest with
      | nil => exact ⟨0, by decide⟩
      | cons d rest =>
        obtain ⟨zeros, shape⟩ := ih (List.cons_ne_nil d rest) later
        refine ⟨zeros + 1, ?_⟩
        rw [List.replicate_succ, List.cons_append, ← shape]
        rfl
    · refine ⟨0, ?_⟩
      rw [← toDigits_append positive later, Nat.toDigits_of_lt_base small]
      rfl

/-- A list of digits is read as the number whose digits it has, perhaps behind zeros. -/
theorem digits_iff {text : List Char} {value : Nat} :
    digits text = some value ↔
      ∃ zeros, text = List.replicate zeros '0' ++ (toString value).toList := by
  have written : (toString value).toList = Nat.toDigits 10 value := Nat.toList_repr
  rw [written]
  constructor
  · intro read
    unfold digits at read
    split at read
    next proper =>
      obtain rfl := Option.some.inj read
      exact zeros_toDigits proper.1 (List.all_eq_true.mp proper.2)
    next => cases read
  · rintro ⟨zeros, rfl⟩
    have filled : List.replicate zeros '0' ++ Nat.toDigits 10 value ≠ [] :=
      List.append_ne_nil_of_right_ne_nil _ Nat.toDigits_ne_nil
    have digit : (List.replicate zeros '0' ++ Nat.toDigits 10 value).all Char.isDigit = true := by
      rw [List.all_eq_true]
      intro c member
      rcases List.mem_append.mp member with zero | inner
      · rw [List.eq_of_mem_replicate zero]
        decide
      · exact Nat.isDigit_of_mem_toDigits (by decide) (by decide) inner
    rw [digits, if_pos ⟨filled, digit⟩, Nat.ofDigitChars_append, Nat.ofDigitChars_replicate_zero,
      Nat.mul_zero, Nat.ofDigitChars_ten_toDigits]

/-- The decimal digits of a number are read back. -/
theorem digits_toDigits (value : Nat) : digits (Nat.toDigits 10 value) = some value :=
  digits_iff.mpr ⟨0, Nat.toList_repr.symm⟩

/-- Different numbers have different digits. -/
theorem toString_injective {left right : Nat} (same : toString left = toString right) :
    left = right := by
  have texts : (toString left).toList = (toString right).toList := congrArg String.toList same
  have leftDigits : (toString left).toList = Nat.toDigits 10 left := Nat.toList_repr
  have rightDigits : (toString right).toList = Nat.toDigits 10 right := Nat.toList_repr
  rw [leftDigits, rightDigits] at texts
  have read := digits_toDigits left
  rw [texts, digits_toDigits] at read
  exact (Option.some.inj read).symm

/-- The number at the end of a text, between a character that is no digit and a last one. -/
theorem number_at_end {left right : List Char} {sep stop : Char} (other : sep.isDigit = false)
    {first second : Nat}
    (same : left ++ sep :: ((toString first).toList ++ [stop]) =
      right ++ sep :: ((toString second).toList ++ [stop])) : first = second := by
  have free : ∀ value : Nat, sep ∉ (toString value).toList := fun value member => by
    rw [isDigit_toString member] at other
    cases other
  have grouped : left ++ sep :: (toString first).toList ++ [stop] =
      right ++ sep :: (toString second).toList ++ [stop] := by simpa using same
  have cut : left ++ sep :: (toString first).toList = right ++ sep :: (toString second).toList :=
    List.append_cancel_right grouped
  have parts := congrArg (splitLast sep) cut
  rw [splitLast_join left (free first), splitLast_join right (free second)] at parts
  exact toString_injective (String.toList_inj.mp (Prod.mk.inj (Option.some.inj parts)).2)

/-- A decimal number starts with a digit, so it has no sign to strip. -/
theorem toDigits_head (value : Nat) : ∃ c rest, Nat.toDigits 10 value = c :: rest ∧
    c ≠ '+' ∧ c ≠ '-' := by
  obtain ⟨c, rest, shape⟩ := List.exists_cons_of_ne_nil (Nat.toDigits_ne_nil (n := value) (b := 10))
  have digit : c.isDigit = true :=
    Nat.isDigit_of_mem_toDigits (by decide : 0 < 10) (by decide) (shape ▸ List.mem_cons_self)
  refine ⟨c, rest, shape, ?_, ?_⟩ <;> rintro rfl <;> exact absurd digit (by decide)

/-- A number has at least one digit. -/
theorem toString_ne_nil (value : Nat) : (toString value).toList ≠ [] := by
  obtain ⟨c, rest, shape, -⟩ := toDigits_head value
  have digits : (toString value).toList = Nat.toDigits 10 value := by simp [toString, Nat.repr]
  rw [digits, shape]
  exact List.cons_ne_nil c rest

/-- A number is a token. -/
theorem isToken_toString (value : Nat) : IsToken (toString value) :=
  ⟨fun empty => toString_ne_nil value (by rw [empty]; rfl),
    fun _ member => (whitespace_of_isDigit (isDigit_toString member)).1⟩

/-- The texts that are read as an unsigned number: its digits, perhaps behind a plus sign and
zeros. -/
theorem parseUnsigned_iff {bound value : Nat} {text : String} :
    parseUnsigned bound text = some value ↔ value < bound ∧ ∃ sign zeros,
      (sign = [] ∨ sign = ['+']) ∧
        text.toList = sign ++ (List.replicate zeros '0' ++ (toString value).toList) := by
  have bounded (body : List Char) :
      ((digits body).bind fun value => if value < bound then some value else none) = some value ↔
        digits body = some value ∧ value < bound := by
    cases digits body with
    | none => simp
    | some other =>
      simp only [Option.bind_some, Option.ite_none_right_eq_some, Option.some.injEq]
      constructor
      · rintro ⟨small, rfl⟩
        exact ⟨rfl, small⟩
      · rintro ⟨rfl, small⟩
        exact ⟨small, rfl⟩
  rw [parseUnsigned, bounded, digits_iff]
  constructor
  · rintro ⟨⟨zeros, shape⟩, small⟩
    refine ⟨small, ?_⟩
    split at shape
    next rest signed =>
      exact ⟨['+'], zeros, .inr rfl, by rw [signed, shape]; rfl⟩
    next => exact ⟨[], zeros, .inl rfl, shape⟩
  · rintro ⟨small, sign, zeros, rfl | rfl, shape⟩
    · refine ⟨⟨zeros, ?_⟩, small⟩
      split
      next rest signed =>
        -- The first character is a digit.
        have member : '+' ∈ List.replicate zeros '0' ++ (toString value).toList := by
          rw [← List.nil_append (List.replicate _ _ ++ _), ← shape, signed]
          exact List.mem_cons_self
        rcases List.mem_append.mp member with zero | digit
        · exact absurd (List.eq_of_mem_replicate zero) (by decide)
        · exact absurd (isDigit_toString digit) (by decide)
      next => exact shape
    · refine ⟨⟨zeros, ?_⟩, small⟩
      rw [shape]
      rfl

/-- An unsigned number within the bound is read back from its decimal text. -/
theorem parseUnsigned_toString {bound value : Nat} (small : value < bound) :
    parseUnsigned bound (toString value) = some value :=
  parseUnsigned_iff.mpr ⟨small, [], 0, .inl rfl, rfl⟩

/-- The decimal text of an integer is the digits of its absolute value, after a minus sign
when it is negative. -/
theorem toString_int (value : Int) : (toString value).toList =
    if value < 0 then '-' :: Nat.toDigits 10 value.natAbs
    else Nat.toDigits 10 value.natAbs := by
  cases value with
  | ofNat number => exact Nat.toList_repr
  | negSucc number =>
    rw [if_pos (Int.negSucc_lt_zero number)]
    change ("-" ++ (number + 1).repr).toList = _
    rw [String.toList_append, Nat.toList_repr]
    rfl

/-- The decimal text of an integer holds digits, and a minus sign. -/
theorem free_int (value : Int) {c : Char} (sign : c ≠ '-') (other : c.isDigit = false) :
    c ∉ (toString value).toList := by
  have digits : c ∉ Nat.toDigits 10 value.natAbs := fun member => by
    rw [Nat.isDigit_of_mem_toDigits (by decide) (by decide) member] at other
    cases other
  rw [toString_int]
  split
  · exact List.not_mem_cons_of_ne_of_not_mem sign digits
  · exact digits

/-- A 64-bit number is read back from its decimal text. -/
theorem parseI64_toString (value : Int64) : parseI64 (toString value.toInt) = some value := by
  have low := Int64.le_toInt value
  have high := Int64.toInt_lt value
  obtain ⟨c, rest, shape, plus, minus⟩ := toDigits_head value.toInt.natAbs
  have read := digits_toDigits value.toInt.natAbs
  have back : Int64.ofInt value.toInt = value := Int64.ofInt_toInt value
  simp only [parseI64, toString_int]
  by_cases negative : value.toInt < 0
  · have size : Int.negOfNat value.toInt.natAbs = value.toInt := by
      rw [Int.negOfNat_eq, Int.ofNat_eq_natCast]
      omega
    simp only [negative, ↓reduceIte, read, Option.map_some, Option.bind_some, size]
    rw [if_pos ⟨by omega, by omega⟩, back]
  · have size : Int.ofNat value.toInt.natAbs = value.toInt := by
      rw [Int.ofNat_eq_natCast]
      omega
    simp only [negative, ↓reduceIte, shape]
    rw [shape] at read
    split
    · rename_i same
      exact absurd (List.cons.inj same).1 plus
    · rename_i same
      exact absurd (List.cons.inj same).1 minus
    · simp only [read, Option.map_some, Option.bind_some, size]
      rw [if_pos ⟨by omega, by omega⟩, back]

end Talk.Text
