import Talk.Imap.BodySection
import Talk.Verif.FetchItems

/-!
# Where a body section is cut out

The extraction walks over bytes and slices the text where it has seen an ASCII byte, so every
slice begins and ends at a character. Its result is the first body item whose brackets are
closed. The depth of the brackets is a signed 32-bit number: a text with 2^31 brackets open at
once makes it overflow.
-/

namespace Talk.Verif.BodySections

open Imap Text Slices FetchItems
open Utf8 (bytes)

/-! ## What is to be cut out -/

/-- A body item may begin behind a text: the text is empty or ends in whitespace, `(` or `[`. -/
def Starts (before : List Char) : Prop := before.getLast?.all startsItem = true

instance (before : List Char) : Decidable (Starts before) :=
  inferInstanceAs (Decidable (_ = true))

/-- A text as a body item with what stands before and behind it. -/
structure Cut (text before word inside after : List Char) : Prop where
  /-- The parts make up the text. -/
  whole : text = before ++ word ++ '[' :: (inside ++ ']' :: after)
  /-- An item may begin there. -/
  starts : Starts before
  /-- The item's word begins with BODY in any case. -/
  body : "BODY".toList.isPrefixOf (word.map upperChar) = true
  /-- The word has no bracket. -/
  free : '[' ∉ word
  /-- The brackets inside are balanced. -/
  closed : balanced '[' ']' 0 inside = true

/-- The extraction returns, and returns the text as it is if nothing can be cut out of it, and
else what is left with what was cut out. -/
def Exact (text : String) : Prop :=
  (extractBodySectionBytes text = .ok (text, none) ∧
    ¬∃ before word inside after, Cut text.toList before word inside after) ∨
  ∃ before word inside after, Cut text.toList before word inside after ∧
    extractBodySectionBytes text =
      .ok (String.ofList (before ++ after), some (String.ofList inside))

/-- The brackets of a body item are 2^31 deep before the first one is closed. -/
def deepAt (item : List Char) : Bool :=
  "BODY".toList.isPrefixOf (item.map upperChar) &&
    (splitFirst '[' (item.drop 4)).any fun halves => reaches '[' ']' (2 ^ 31) 1 halves.2

/-- No body item is too deep before one is closed: wherever an item may begin and no item that
begins before is closed, it is not 2^31 deep. -/
def Shallow (text : List Char) : Prop :=
  ∀ before item, text = before ++ item → Starts before →
    (∀ earlier rest, text = earlier ++ rest → earlier.length < before.length → Starts earlier →
      bodySectionAt rest = none) → deepAt item = false

/-! ## The scans over bytes -/

/-- The bytes of a text have an ASCII byte only where the text has the character. -/
theorem ascii_mem_encode {byte : UInt8} {chars : List Char} (ascii : byte.toNat < 128)
    (member : byte ∈ encode chars) : Char.ofNat byte.toNat ∈ chars := by
  have found := @Utf8.ascii_mem_bytes byte (String.ofList chars) ascii
  rw [← encode_toList, String.toList_ofList] at found
  exact found member

/-- The scan for an opening bracket passes over other bytes. -/
theorem openingFrom_skip {passed : List UInt8} (free : 91 ∉ passed) (j : Nat)
    (rest : List UInt8) :
    openingFrom j (passed ++ rest) = openingFrom (j + passed.length) rest := by
  induction passed generalizing j with
  | nil => rfl
  | cons byte passed ih =>
    simp only [List.mem_cons, not_or] at free
    rw [List.cons_append, openingFrom, if_neg (Ne.symm free.1), ih free.2, List.length_cons,
      Nat.add_right_comm]
    rfl

/-- The scan finds the first bracket of a text. -/
theorem openingFrom_encode {left : List Char} (free : '[' ∉ left) (j : Nat)
    (right : List Char) :
    openingFrom j (encode (left ++ '[' :: right)) = j + (encode left).length := by
  have passed : 91 ∉ encode left := fun member => free (ascii_mem_encode (by decide) member)
  rw [encode_append, openingFrom_skip passed, encode_cons]
  rfl

/-- Without a bracket the scan ends at the end. -/
theorem openingFrom_free {chars : List Char} (free : '[' ∉ chars) (j : Nat) :
    openingFrom j (encode chars) = j + (encode chars).length := by
  have passed : 91 ∉ encode chars := fun member => free (ascii_mem_encode (by decide) member)
  rw [← List.append_nil (encode chars), openingFrom_skip passed, List.append_nil]
  rfl

/-- The scan for the closing bracket passes over other bytes. -/
theorem closingFrom_skip {passed : List UInt8} (opening : 91 ∉ passed) (closing : 93 ∉ passed)
    (depth : Int) (k : Nat) (rest : List UInt8) :
    closingFrom depth k (passed ++ rest) = closingFrom depth (k + passed.length) rest := by
  induction passed generalizing k with
  | nil => rfl
  | cons byte passed ih =>
    simp only [List.mem_cons, not_or] at opening closing
    rw [List.cons_append, closingFrom, if_neg (Ne.symm opening.1), if_neg (Ne.symm closing.1),
      ih opening.2 closing.2, List.length_cons, Nat.add_right_comm]
    rfl

/-- How the scan for the closing bracket ends, with so many brackets open and the text that
follows. -/
inductive Closes (depth k : Nat) (chars : List Char) : Except Panic (Nat × Int) → Prop where
  /-- The depth overflows. -/
  | deep (reached : reaches '[' ']' (2 ^ 31) depth chars = true) :
      Closes depth k chars (.error .overflow)
  /-- The bracket is closed. -/
  | closed (shallow : reaches '[' ']' (2 ^ 31) depth chars = false) (inside after : List Char)
      (found : closingBracket depth chars = some (inside, after)) :
      Closes depth k chars (.ok (k + (encode inside).length, 0))
  /-- The text ends first. -/
  | unclosed (shallow : reaches '[' ']' (2 ^ 31) depth chars = false)
      (missing : closingBracket depth chars = none) (left : Int) :
      Closes depth k chars (.ok (k + (encode chars).length, left))

/-- A character behind which the scan goes on belongs to what is inside. -/
theorem Closes.behind {depth inner k : Nat} {c : Char} {chars : List Char}
    {result : Except Panic (Nat × Int)}
    (closes : Closes inner (k + (String.utf8EncodeChar c).length) chars result)
    (level : reaches '[' ']' (2 ^ 31) depth (c :: chars) = reaches '[' ']' (2 ^ 31) inner chars)
    (next : closingBracket depth (c :: chars) =
      (closingBracket inner chars).map fun found => (c :: found.1, found.2)) :
    Closes depth k (c :: chars) result := by
  cases closes with
  | deep reached => exact .deep (level.trans reached)
  | closed shallow inside after found =>
    have behind : closingBracket depth (c :: chars) = some (c :: inside, after) := by
      rw [next, found]
      rfl
    have size : k + (String.utf8EncodeChar c).length + (encode inside).length =
        k + (encode (c :: inside)).length := by
      rw [encode_cons, List.length_append, Nat.add_assoc]
    rw [size]
    exact .closed (level.trans shallow) _ _ behind
  | unclosed shallow missing left =>
    have behind : closingBracket depth (c :: chars) = none := by
      rw [next, missing]
      rfl
    have size : k + (String.utf8EncodeChar c).length + (encode chars).length =
        k + (encode (c :: chars)).length := by
      rw [encode_cons, List.length_append, Nat.add_assoc]
    rw [size]
    exact .unclosed (level.trans shallow) behind left

/-- The scan for the closing bracket ends as the text says. -/
theorem closes {depth : Nat} (positive : 0 < depth) (small : depth < 2 ^ 31) (k : Nat)
    (chars : List Char) : Closes depth k chars (closingFrom depth k (encode chars)) := by
  induction chars generalizing depth k with
  | nil => exact .unclosed rfl rfl _
  | cons c chars ih =>
    by_cases opens : c = '['
    · subst opens
      have shape : encode ('[' :: chars) = 91 :: encode chars := rfl
      have one : (String.utf8EncodeChar '[').length = 1 := by decide
      have other : ¬('[' = ']' ∧ depth = 1) := fun both => absurd both.1 (by decide)
      rw [shape, closingFrom, if_pos rfl]
      by_cases room : depth + 1 < 2 ^ 31
      · have within : checkedI32 ((depth : Int) + 1) = .ok ((depth + 1 : Nat) : Int) := by
          rw [checkedI32, if_pos (by omega)]
          rfl
        rw [within]
        refine Closes.behind (one.symm ▸ ih (Nat.succ_pos depth) room (k + 1)) ?_ ?_
        · have apart : (depth + 1 == 2 ^ 31) = false := beq_eq_false_iff_ne.mpr (by omega)
          rw [reaches, if_neg other, if_pos rfl, apart, Bool.false_or]
        · rw [closingBracket, if_neg other]
          rfl
      · have outside : checkedI32 ((depth : Int) + 1) = .error .overflow := by
          rw [checkedI32, if_neg (by omega)]
        rw [outside]
        refine .deep ?_
        have limit : (depth + 1 == 2 ^ 31) = true := beq_iff_eq.mpr (by omega)
        rw [reaches, if_neg other, if_pos rfl, limit, Bool.true_or]
    · by_cases closing : c = ']'
      · subst closing
        have shape : encode (']' :: chars) = 93 :: encode chars := rfl
        have one : (String.utf8EncodeChar ']').length = 1 := by decide
        have within : checkedI32 ((depth : Int) - 1) = .ok ((depth - 1 : Nat) : Int) := by
          rw [checkedI32, if_pos (by omega), Nat.cast_sub positive]
          rfl
        rw [shape, closingFrom, if_neg (by decide), if_pos rfl, within]
        by_cases last : depth = 1
        · subst last
          exact .closed rfl [] chars rfl
        · have rest : Closes (depth - 1) (k + (String.utf8EncodeChar ']').length) chars
              (closingFrom ((depth - 1 : Nat) : Int) (k + 1) (encode chars)) := by
            rw [one]
            exact ih (by omega) (by omega) (k + 1)
          have more : ¬((depth - 1 : Nat) : Int) = 0 := by omega
          change Closes depth k (']' :: chars)
            (if ((depth - 1 : Nat) : Int) = 0 then _ else _)
          rw [if_neg more]
          refine Closes.behind rest ?_ ?_
          · rw [reaches, if_neg fun both => last both.2, if_neg (by decide), if_pos rfl]
          · rw [closingBracket, if_neg fun both => last both.2]
            rfl
      · have opening : 91 ∉ String.utf8EncodeChar c := by
          intro member
          have same := Utf8.ascii_mem_utf8EncodeChar (by decide) member
          exact opens (Char.toNat_inj.mp same)
        have closer : 93 ∉ String.utf8EncodeChar c := by
          intro member
          have same := Utf8.ascii_mem_utf8EncodeChar (by decide) member
          exact closing (Char.toNat_inj.mp same)
        rw [encode_cons, closingFrom_skip opening closer]
        refine Closes.behind (ih positive small _) ?_ ?_
        · rw [reaches, if_neg fun both => closing both.1, if_neg opens, if_neg closing]
        · rw [closingBracket, if_neg fun both => closing both.1]
          simp only [if_neg opens, if_neg closing]

/-! ## Slices -/

/-- No item begins behind a byte above 127. -/
theorem startsItemByte_high {byte : UInt8} (high : 128 ≤ byte.toNat) :
    startsItemByte byte = false := by
  have other (ascii : UInt8) (low : ascii.toNat < 128) : byte ≠ ascii := by
    rintro rfl
    omega
  simp [startsItemByte, other]

/-- The byte before a position next to a character lets an item begin there exactly when the
character does. -/
theorem startsItemByte_last (before : List Char) :
    (encode before).getLast?.all startsItemByte = before.getLast?.all startsItem := by
  rcases List.eq_nil_or_concat' before with rfl | ⟨start, c, rfl⟩
  · rfl
  · rw [encode_append, List.getLast?_append_of_ne_nil _ (by simp), List.getLast?_concat]
    have bytesOf : encode [c] = String.utf8EncodeChar c := by simp
    rw [bytesOf]
    rcases utf8EncodeChar_cases c with ⟨ascii, one⟩ | ⟨high, wide⟩
    · have each (byte : UInt8) (letter : Char) (same : letter = Char.ofNat byte.toNat) :
          decide (UInt8.ofNat c.toNat = byte) = decide (c = letter) := by
        rw [same, decide_eq_decide, ofNat_eq_iff ascii]
      rw [one]
      simp only [List.getLast?_singleton, Option.all_some, startsItemByte, startsItem,
        each 32 ' ' rfl, each 9 '\t' rfl, each 10 '\n' rfl, each 12 '\x0c' rfl, each 13 '\x0d' rfl,
        each 40 '(' rfl, each 91 '[' rfl]
    · have last := List.getLast?_eq_some_getLast (@String.utf8EncodeChar_ne_nil c)
      have other (letter : Char) (low : letter.toNat < 128) : c ≠ letter := by
        rintro rfl
        omega
      have none : startsItem c = false := by
        simp [startsItem, other]
      rw [last, Option.all_some, Option.all_some, none]
      exact startsItemByte_high (wide _ (List.getLast_mem _))

/-- An item begins with four characters of one byte each. -/
theorem four_letters {item : List Char}
    (begins : "BODY".toList.isPrefixOf (item.map upperChar) = true) :
    ∃ word tail, item = word ++ tail ∧ word.length = 4 ∧ (encode word).length = 4 ∧
      '[' ∉ word := by
  obtain ⟨more, same⟩ := List.isPrefixOf_iff_prefix.mp begins
  obtain ⟨word, tail, rfl, letters, -⟩ := List.append_eq_map_iff.mp same
  refine ⟨word, tail, rfl, ?_, ?_, ?_⟩
  · rw [← @List.length_map _ _ _ upperChar, letters]
    rfl
  · refine (length_encode_ascii fun c member => ?_).trans ?_
    · have raised : upperChar c ∈ "BODY".toList := letters ▸ List.mem_map_of_mem member
      by_cases lower : 'a' ≤ c ∧ c ≤ 'z'
      · exact lt_of_le_of_lt (Char.le_def.mp lower.2) (by decide)
      · rw [upperChar_other lower] at raised
        have table : ("BODY".toList.all fun c => decide (c.toNat < 128)) = true := by decide
        exact of_decide_eq_true (List.all_eq_true.mp table c raised)
    · rw [← @List.length_map _ _ _ upperChar, letters]
      rfl
  · intro member
    have raised : upperChar '[' ∈ "BODY".toList := letters ▸ List.mem_map_of_mem member
    exact absurd raised (by decide)

/-- A step that returns is followed by the next. -/
theorem ok_bind {ε α β : Type} (value : α) (next : α → Except ε β) :
    (Except.ok value >>= next) = next value := rfl

/-- The bytes of a text from the end of some first characters on. -/
theorem drop_bytes {items : String} {before rest : List Char}
    (shape : items.toList = before ++ rest) :
    (bytes items).drop (encode before).length = encode rest := by
  rw [← encode_toList, shape, encode_append, List.drop_left]

/-- An opening bracket opens one level. -/
theorem closingFrom_opened (j : Nat) (right : List Char) :
    closingFrom 0 j (encode ('[' :: right)) = closingFrom 1 (j + 1) (encode right) := by
  have shape : encode ('[' :: right) = 91 :: encode right := rfl
  rw [shape, closingFrom, if_pos rfl]
  rfl

/-- What the extraction returns for a section that was found. -/
def resultOf (before : List Char) (found : List Char × List Char) : String × Option String :=
  (String.ofList (before ++ found.2), some (String.ofList found.1))

/-- The text before a position next to a character. -/
theorem slice_start {items : String} {before rest : List Char}
    (shape : items.toList = before ++ rest) :
    slice items 0 (encode before).length = some (String.ofList before) := by
  have first := @slice_encode items [] before rest shape
  rwa [encode_nil, List.nil_append, List.length_nil] at first

/-- Between two brackets and behind them the text can be sliced. -/
theorem slices_closed {items : String} {lead inside after : List Char}
    (whole : items.toList = lead ++ '[' :: (inside ++ ']' :: after)) :
    (encode lead).length + 1 + (encode inside).length < (bytes items).length ∧
    slice items ((encode lead).length + 1)
      ((encode lead).length + 1 + (encode inside).length) = some (String.ofList inside) ∧
    sliceFrom items ((encode lead).length + 1 + (encode inside).length + 1) =
      some (String.ofList after) := by
  have opening : (encode lead).length + 1 = (encode (lead ++ ['['])).length := by
    rw [encode_append, List.length_append]
    rfl
  have middle : (encode (lead ++ ['['])).length + (encode inside).length =
      (encode (lead ++ ['['] ++ inside)).length := by
    rw [encode_append _ inside, List.length_append]
  have closing : (encode (lead ++ ['['] ++ inside)).length + 1 =
      (encode (lead ++ ['['] ++ inside ++ [']'])).length := by
    rw [encode_append _ [']'], List.length_append]
    rfl
  have cut : items.toList = lead ++ ['['] ++ inside ++ ']' :: after := by
    rw [whole]
    simp
  have last : items.toList = lead ++ ['['] ++ inside ++ [']'] ++ after := by
    rw [whole]
    simp
  refine ⟨?_, ?_, ?_⟩
  · have total : (bytes items).length =
        (encode (lead ++ ['['] ++ inside ++ [']'])).length + (encode after).length := by
      rw [← encode_toList, last, encode_append _ after, List.length_append]
    omega
  · rw [opening, middle]
    exact slice_encode cut
  · rw [opening, middle, closing]
    exact sliceFrom_encode last

/-- The inner loops overflow on brackets that are too deep, and else cut the section out. -/
theorem sectionBehind_encode {items : String} {before word tail : List Char}
    (shape : items.toList = before ++ word ++ tail)
    (four : (encode before).length + 4 = (encode (before ++ word)).length) :
    sectionBehind items (encode before).length =
      if (splitFirst '[' tail).any (fun halves => reaches '[' ']' (2 ^ 31) 1 halves.2) then
        .error .overflow
      else .ok (((splitFirst '[' tail).bind fun halves => closingBracket 1 halves.2).map
        (resultOf before)) := by
  have size : (bytes items).length = (encode (before ++ word)).length + (encode tail).length := by
    rw [← encode_toList, shape, encode_append, List.length_append]
  have rest : (bytes items).drop ((encode before).length + 4) = encode tail := by
    rw [four]
    exact drop_bytes shape
  rw [sectionBehind]
  simp only [rest]
  cases cut : splitFirst '[' tail with
  | none =>
    have free : '[' ∉ tail := free_of_splitFirst_none cut
    rw [openingFrom_free free, if_neg (by omega)]
    rfl
  | some halves =>
    obtain ⟨left, right⟩ := halves
    have shapes : tail = left ++ '[' :: right := splitFirst_eq cut
    have free : '[' ∉ left := free_of_splitFirst cut
    have lead : items.toList = before ++ word ++ left ++ '[' :: right := by
      rw [shape, shapes, List.append_assoc (before ++ word)]
    have position : (encode before).length + 4 + (encode left).length =
        (encode (before ++ word ++ left)).length := by
      rw [four, encode_append (before ++ word), List.length_append]
    have total : (bytes items).length =
        (encode (before ++ word ++ left)).length + 1 + (encode right).length := by
      have bracket : (String.utf8EncodeChar '[').length = 1 := by decide
      rw [← encode_toList, lead, encode_append (before ++ word ++ left), List.length_append,
        encode_cons, List.length_append, bracket, Nat.add_assoc]
    rw [shapes, openingFrom_encode free, position, drop_bytes lead, closingFrom_opened,
      if_pos (by omega)]
    have ends : Closes 1 ((encode (before ++ word ++ left)).length + 1) right
        (closingFrom 1 ((encode (before ++ word ++ left)).length + 1) (encode right)) :=
      closes Nat.one_pos (by decide) _ right
    generalize closingFrom 1 ((encode (before ++ word ++ left)).length + 1) (encode right) = result
      at ends ⊢
    cases ends with
    | deep reached =>
      rw [Option.any_some, if_pos reached]
      rfl
    | unclosed shallow missing depth =>
      have ended : ¬(encode (before ++ word ++ left)).length + 1 + (encode right).length <
          (bytes items).length := by omega
      rw [Option.any_some, shallow, ok_bind]
      simp only [ended, false_and, Option.bind_some, missing]
      rfl
    | closed shallow inside after found =>
      obtain ⟨written, -⟩ := closingBracket_iff.mp found
      have whole : items.toList = before ++ word ++ left ++ '[' :: (inside ++ ']' :: after) := by
        rw [lead, written]
      have first := slice_start (shape.trans (List.append_assoc ..))
      obtain ⟨within, inner, outer⟩ := slices_closed whole
      have sliceable (part : String) : sliced (some part) = .ok part := rfl
      rw [Option.any_some, shallow, ok_bind]
      simp only [within, true_and, ↓reduceIte, inner, first, outer, sliceable, ok_bind,
        Option.bind_some, found, Option.map_some, resultOf, String.ofList_append,
        Bool.false_eq_true]

/-- At a character, the body of the loop overflows on an item that is too deep, and else returns
what the text of the item says. -/
theorem sectionFrom_encode {items : String} {before item : List Char}
    (shape : items.toList = before ++ item) :
    sectionFrom items (encode before).length =
      if deepAt item then .error .overflow
      else .ok ((bodySectionAt item).map (resultOf before)) := by
  have upper : startsWith (toAsciiUppercase (String.ofList item)) "BODY" =
      "BODY".toList.isPrefixOf (item.map upperChar) := by
    rw [startsWith, toList_toAsciiUppercase, @String.toList_ofList item]
  have here : sliced (sliceFrom items (encode before).length) = .ok (String.ofList item) := by
    rw [sliceFrom_encode shape, sliced]
  rw [sectionFrom, here, ok_bind, upper]
  cases begins : "BODY".toList.isPrefixOf (item.map upperChar) with
  | false =>
    rw [deepAt, begins, bodySectionAt, begins]
    rfl
  | true =>
    obtain ⟨word, tail, rfl, four, letters, -⟩ := four_letters begins
    have behind : (word ++ tail).drop 4 = tail := by rw [← four, List.drop_left]
    have start : (encode before).length + 4 = (encode (before ++ word)).length := by
      rw [encode_append, List.length_append, letters]
    have found := sectionBehind_encode (shape.trans (List.append_assoc ..).symm) start
    have same : bodySectionAt (word ++ tail) =
        (splitFirst '[' tail).bind fun halves => closingBracket 1 halves.2 := by
      rw [bodySectionAt, if_pos begins, behind]
      cases splitFirst '[' tail <;> rfl
    rw [if_pos rfl, found, deepAt, begins, behind, same, Bool.true_and]

/-! ## The outer loop -/

/-- Behind a byte above 127 the loop goes on. -/
theorem extractFrom_skip (items : String) {previous : UInt8} {passed : List UInt8}
    (high : 128 ≤ previous.toNat) (wide : ∀ byte ∈ passed, 128 ≤ byte.toNat) (i : Nat)
    (rest : List UInt8) :
    extractFrom items (some previous) i (passed ++ rest) =
      extractFrom items (previous :: passed).getLast? (i + passed.length) rest := by
  induction passed generalizing previous i with
  | nil => rfl
  | cons byte passed ih =>
    have behind := ih (wide byte List.mem_cons_self)
      (fun other member => wide other (List.mem_cons_of_mem byte member)) (i + 1)
    rw [List.cons_append, extractFrom, Option.all_some, startsItemByte_high high]
    rw [List.getLast?_cons_cons, List.length_cons, Nat.add_comm passed.length 1, ← Nat.add_assoc]
    exact behind

variable {items : String} {before rest : List Char} {c : Char}

/-- The loop at a character where an item may begin looks for its section there. -/
theorem extractFrom_starts (starts : Starts before) :
    ∃ byte tail, String.utf8EncodeChar c = byte :: tail ∧
      extractFrom items (encode before).getLast? (encode before).length (encode (c :: rest)) =
        (sectionFrom items (encode before).length >>= fun found =>
          match found with
          | some result => .ok result
          | none => extractFrom items (some byte) ((encode before).length + 1)
              (tail ++ encode rest)) := by
  obtain ⟨byte, tail, written⟩ := List.exists_cons_of_ne_nil (@String.utf8EncodeChar_ne_nil c)
  refine ⟨byte, tail, written, ?_⟩
  rw [encode_cons, written, List.cons_append, extractFrom, startsItemByte_last, starts]
  rfl

/-- An item that is too deep ends the loop. -/
theorem extractFrom_deep (shape : items.toList = before ++ c :: rest) (starts : Starts before)
    (deep : deepAt (c :: rest) = true) :
    extractFrom items (encode before).getLast? (encode before).length (encode (c :: rest)) =
      .error .overflow := by
  obtain ⟨byte, tail, -, loop⟩ := @extractFrom_starts items before rest c starts
  rw [loop, sectionFrom_encode shape, if_pos deep]
  rfl

/-- An item with a closed section ends the loop. -/
theorem extractFrom_found (shape : items.toList = before ++ c :: rest) (starts : Starts before)
    (shallow : deepAt (c :: rest) = false) {found : List Char × List Char}
    (here : bodySectionAt (c :: rest) = some found) :
    extractFrom items (encode before).getLast? (encode before).length (encode (c :: rest)) =
      .ok (resultOf before found) := by
  obtain ⟨byte, tail, -, loop⟩ := @extractFrom_starts items before rest c starts
  rw [loop, sectionFrom_encode shape, shallow, here]
  rfl

/-- A character where no section is cut out is passed. -/
theorem extractFrom_passed (shape : items.toList = before ++ c :: rest)
    (none : Starts before → deepAt (c :: rest) = false ∧ bodySectionAt (c :: rest) = none) :
    extractFrom items (encode before).getLast? (encode before).length (encode (c :: rest)) =
      extractFrom items (encode (before ++ [c])).getLast? (encode (before ++ [c])).length
        (encode rest) := by
  obtain ⟨byte, tail, written⟩ := List.exists_cons_of_ne_nil (@String.utf8EncodeChar_ne_nil c)
  have single : encode [c] = byte :: tail := by simpa using written
  have last : (encode (before ++ [c])).getLast? = (byte :: tail).getLast? := by
    rw [encode_append, single, List.getLast?_append_of_ne_nil _ (List.cons_ne_nil _ _)]
  have size : (encode (before ++ [c])).length = (encode before).length + 1 + tail.length := by
    rw [encode_append, single, List.length_append, List.length_cons]
    omega
  have next : extractFrom items (encode before).getLast? (encode before).length
      (encode (c :: rest)) =
        extractFrom items (some byte) ((encode before).length + 1) (tail ++ encode rest) := by
    by_cases starts : Starts before
    · obtain ⟨shallow, missing⟩ := none starts
      obtain ⟨first, behind, same, loop⟩ := @extractFrom_starts items before rest c starts
      obtain ⟨rfl, rfl⟩ := List.cons.inj (same.symm.trans written)
      rw [loop, sectionFrom_encode shape, shallow, missing]
      rfl
    · have other : before.getLast?.all startsItem = false := by simpa [Starts] using starts
      rw [encode_cons, written, List.cons_append, extractFrom, startsItemByte_last, other]
      rfl
  rw [next, last, size]
  rcases utf8EncodeChar_cases c with ⟨-, one⟩ | ⟨-, wide⟩
  · have alone : tail = [] := (List.cons.inj (written.symm.trans one)).2
    rw [alone]
    rfl
  · rw [written] at wide
    exact extractFrom_skip items (wide byte List.mem_cons_self)
      (fun other member => wide other (List.mem_cons_of_mem byte member)) _ _

/-- No section is cut out, and none is too deep, at the characters of a part of the text. -/
def Passed (before part rest : List Char) : Prop :=
  ∀ first second, part = first ++ second → second ≠ [] → Starts (before ++ first) →
    deepAt (second ++ rest) = false ∧ bodySectionAt (second ++ rest) = none

/-- One more character is passed. -/
theorem passed_cons {part : List Char}
    (none : Starts before →
      deepAt (c :: part ++ rest) = false ∧ bodySectionAt (c :: part ++ rest) = none)
    (passed : Passed (before ++ [c]) part rest) : Passed before (c :: part) rest := by
  intro first second cut nonempty starts
  cases first with
  | nil =>
    rw [List.nil_append] at cut
    rw [List.append_nil] at starts
    rw [← cut]
    exact none starts
  | cons head first =>
    obtain ⟨same, behind⟩ : c = head ∧ part = first ++ second := List.cons.inj cut
    subst same
    refine passed first second behind nonempty ?_
    rw [List.append_assoc]
    exact starts

/-- How the loop ends on the rest of a text. -/
inductive Outcome (items : String) (before rest : List Char) :
    Except Panic (String × Option String) → Prop where
  /-- At an item that is too deep. -/
  | deep (part item : List Char) (cut : rest = part ++ item) (passed : Passed before part item)
      (starts : Starts (before ++ part)) (deep : deepAt item = true) :
      Outcome items before rest (.error .overflow)
  /-- At an item with a closed section. -/
  | found (part item : List Char) (cut : rest = part ++ item) (passed : Passed before part item)
      (starts : Starts (before ++ part)) (shallow : deepAt item = false)
      (section' : List Char × List Char) (here : bodySectionAt item = some section') :
      Outcome items before rest (.ok (resultOf (before ++ part) section'))
  /-- At the end. -/
  | none (passed : Passed before rest []) : Outcome items before rest (.ok (items, Option.none))

/-- The loop ends in one of these ways. -/
theorem outcome (shape : items.toList = before ++ rest) :
    Outcome items before rest
      (extractFrom items (encode before).getLast? (encode before).length (encode rest)) := by
  induction rest generalizing before with
  | nil =>
    refine .none fun first second cut nonempty => ?_
    exact absurd (List.append_eq_nil_iff.mp cut.symm).2 nonempty
  | cons c rest ih =>
    have here : Passed before [] (c :: rest) := fun first second cut nonempty =>
      absurd (List.append_eq_nil_iff.mp cut.symm).2 nonempty
    by_cases passing : Starts before → deepAt (c :: rest) = false ∧ bodySectionAt (c :: rest) = none
    · have behind : items.toList = before ++ [c] ++ rest := by
        rw [shape]
        simp
      rw [extractFrom_passed shape passing]
      -- The rest of the loop ends in one of the ways, with the character before it.
      have later := ih behind
      generalize extractFrom items (encode (before ++ [c])).getLast?
        (encode (before ++ [c])).length (encode rest) = result at later ⊢
      cases later with
      | deep part item cut passed starts deep =>
        rw [cut] at passing ⊢
        rw [List.append_assoc] at starts
        exact .deep (c :: part) item rfl (passed_cons passing passed) starts deep
      | found part item cut passed starts shallow section' here =>
        rw [cut] at passing ⊢
        rw [List.append_assoc] at starts ⊢
        exact .found (c :: part) item rfl (passed_cons passing passed) starts shallow section' here
      | none passed =>
        have whole : c :: rest ++ [] = c :: rest := List.append_nil _
        exact .none (passed_cons (whole.symm ▸ passing) passed)
    · rw [Classical.not_imp] at passing
      obtain ⟨starts, stops⟩ := passing
      have begins : Starts (before ++ []) := by rwa [List.append_nil]
      cases deep : deepAt (c :: rest) with
      | true =>
        rw [extractFrom_deep shape starts deep]
        exact .deep [] _ rfl here begins deep
      | false =>
        obtain ⟨section', found⟩ := Option.ne_none_iff_exists'.mp fun none => stops ⟨deep, none⟩
        rw [extractFrom_found shape starts deep found]
        have ends := @Outcome.found items before _ [] _ rfl here begins deep section' found
        rwa [List.append_nil] at ends

/-! ## When the extraction is exact -/

/-- A section is cut out at an item exactly when the item is a word and balanced brackets. -/
theorem bodySectionAt_iff {item inside after : List Char} :
    bodySectionAt item = some (inside, after) ↔
      ∃ word, item = word ++ '[' :: (inside ++ ']' :: after) ∧
        "BODY".toList.isPrefixOf (word.map upperChar) = true ∧ '[' ∉ word ∧
        balanced '[' ']' 0 inside = true := by
  constructor
  · intro found
    cases begins : "BODY".toList.isPrefixOf (item.map upperChar) with
    | false =>
      rw [bodySectionAt, begins] at found
      cases found
    | true =>
      obtain ⟨letters, tail, rfl, four, -, free⟩ := four_letters begins
      have behind : (letters ++ tail).drop 4 = tail := by rw [← four, List.drop_left]
      rw [bodySectionAt, if_pos begins, behind] at found
      cases cut : splitFirst '[' tail with
      | none =>
        rw [cut] at found
        cases found
      | some halves =>
        obtain ⟨left, right⟩ := halves
        rw [cut] at found
        obtain ⟨written, even⟩ := closingBracket_iff.mp found
        refine ⟨letters ++ left, ?_, ?_, ?_, even⟩
        · rw [splitFirst_eq cut, written, List.append_assoc]
        · have start := List.isPrefixOf_iff_prefix.mp begins
          rw [List.map_append] at start ⊢
          have short : "BODY".toList.length ≤ (letters.map upperChar).length := by
            rw [List.length_map, four]
            decide
          have inside := List.prefix_of_prefix_length_le start (List.prefix_append _ _) short
          exact List.isPrefixOf_iff_prefix.mpr (inside.trans (List.prefix_append _ _))
        · rw [List.mem_append, not_or]
          exact ⟨free, free_of_splitFirst cut⟩
  · rintro ⟨word, whole, begins, free, even⟩
    have spelled : startsWith (toAsciiUppercase (String.ofList word)) "BODY" = true := by
      rw [startsWith, toList_toAsciiUppercase, @String.toList_ofList word]
      exact begins
    have letters : (String.ofList word).toList = word := String.toList_ofList
    have here := bodySectionAt_keyword spelled (letters.symm ▸ free) (inside ++ ']' :: after)
    rw [letters] at here
    rw [whole, here]
    exact closingBracket_iff.mpr ⟨rfl, even⟩

/-- An item that is cut out of a text. -/
theorem cut_iff {text before inside after : List Char} :
    (∃ word, Cut text before word inside after) ↔
      ∃ item, text = before ++ item ∧ Starts before ∧
        bodySectionAt item = some (inside, after) := by
  constructor
  · intro ⟨word, cut⟩
    refine ⟨word ++ '[' :: (inside ++ ']' :: after), ?_, cut.starts, ?_⟩
    · rw [cut.whole, List.append_assoc]
    · exact bodySectionAt_iff.mpr ⟨word, rfl, cut.body, cut.free, cut.closed⟩
  · intro ⟨item, whole, starts, found⟩
    obtain ⟨word, shape, body, free, closed⟩ := bodySectionAt_iff.mp found
    refine ⟨word, ?_, starts, body, free, closed⟩
    rw [whole, shape, List.append_assoc]

/-- Two cuts of a text at different places: the later one starts in what the earlier one leaves. -/
theorem later_cut {before item part rest : List Char} (same : before ++ item = part ++ rest)
    (shorter : before.length < part.length) :
    ∃ second, part = before ++ second ∧ item = second ++ rest ∧ second ≠ [] := by
  have inside := List.prefix_of_prefix_length_le (List.prefix_append before item)
    (same ▸ List.prefix_append part rest) (Nat.le_of_lt shorter)
  obtain ⟨second, rfl⟩ := inside
  refine ⟨second, rfl, ?_, ?_⟩
  · rw [List.append_assoc] at same
    exact List.append_cancel_left same
  · rintro rfl
    rw [List.append_nil] at shorter
    exact absurd shorter (Nat.lt_irrefl _)

/-- In a text that is not too deep, the item at which the loop stops is not. -/
theorem shallow_at_stop {text part item : List Char} (shallow : Shallow text)
    (whole : text = part ++ item) (passed : Passed [] part item) (starts : Starts part) :
    deepAt item = false := by
  apply shallow part item whole starts
  intro first rest same shorter begins
  obtain ⟨second, cut, behind, nonempty⟩ := later_cut (same.symm.trans whole) shorter
  rw [behind]
  exact (passed first second cut nonempty begins).2

/-- The extraction is exact exactly when no item is too deep before one is closed. -/
theorem extraction_exact_iff (text : String) : Exact text ↔ Shallow text.toList := by
  have ends : Outcome text [] text.toList (extractBodySectionBytes text) :=
    outcome (List.nil_append _).symm
  unfold Exact
  generalize extractBodySectionBytes text = result at ends ⊢
  cases ends with
  | deep part item whole passed starts deep =>
    refine iff_of_false ?_ fun shallow => ?_
    · rintro (⟨other, -⟩ | ⟨_, _, _, _, _, other⟩) <;> cases other
    · have earlier := shallow_at_stop shallow whole passed starts
      rw [deep] at earlier
      cases earlier
  | found part item whole passed starts shallow section' here =>
    obtain ⟨inside, after⟩ := section'
    refine iff_of_true (.inr ?_) fun before other same begins unclosed => ?_
    · obtain ⟨word, cut⟩ := cut_iff.mpr ⟨item, whole, starts, here⟩
      exact ⟨part, word, inside, after, cut, rfl⟩
    · rcases Nat.lt_trichotomy before.length part.length with shorter | equal | longer
      · obtain ⟨second, cut, behind, nonempty⟩ := later_cut (same.symm.trans whole) shorter
        rw [behind]
        exact (passed before second cut nonempty begins).1
      · have parts := List.append_inj (same.symm.trans whole) equal
        rw [parts.2]
        exact shallow
      · have none := unclosed part item whole longer starts
        rw [here] at none
        cases none
  | none passed =>
    have each (before item : List Char) (same : text.toList = before ++ item)
        (begins : Starts before) : deepAt item = false ∧ bodySectionAt item = none := by
      by_cases empty : item = []
      · rw [empty]
        exact ⟨by decide, by decide⟩
      · have both := passed before item same empty begins
        rwa [List.append_nil] at both
    refine iff_of_true (.inl ⟨rfl, ?_⟩) fun before item same begins _ =>
      (each before item same begins).1
    rintro ⟨before, word, inside, after, cut⟩
    obtain ⟨item, whole, begins, found⟩ := cut_iff.mp ⟨word, cut⟩
    rw [(each before item whole begins).2] at found
    cases found

/-- No slice of the extraction begins or ends inside a character. -/
theorem slices_at_characters (text : String) :
    extractBodySectionBytes text ≠ .error .boundary := by
  have ends : Outcome text [] text.toList (extractBodySectionBytes text) :=
    outcome (List.nil_append _).symm
  intro panics
  rw [panics] at ends
  cases ends

/-- A text with fewer than 2^31 opening brackets is not too deep anywhere. -/
theorem shallow_of_count {text : List Char} (few : text.count '[' < 2 ^ 31) : Shallow text := by
  intro before item whole _ _
  rw [deepAt]
  cases cut : splitFirst '[' (item.drop 4) with
  | none => rw [Option.any_none, Bool.and_false]
  | some halves =>
    obtain ⟨left, right⟩ := halves
    have inside : ('[' :: right).Sublist text := by
      rw [whole]
      refine List.Sublist.trans ?_ (List.sublist_append_right before item)
      refine List.Sublist.trans ?_ (List.drop_sublist 4 item)
      rw [splitFirst_eq cut]
      exact List.sublist_append_right left _
    have fewer := inside.count_le '['
    rw [List.count_cons_self] at fewer
    have level : reaches '[' ']' (2 ^ 31) 1 right = false := reaches_of_count (by omega)
    rw [Option.any_some, level, Bool.and_false]

/-! ## The model over characters -/

/-- The search over characters passes the same characters. -/
theorem findBodySection_passed {part : List Char} (passed : Passed before part rest) :
    findBodySection (before.getLast?.all startsItem) (part ++ rest) =
      (findBodySection ((before ++ part).getLast?.all startsItem) rest).map (prepend part) := by
  induction part generalizing before with
  | nil =>
    rw [List.append_nil]
    exact Option.map_id'.symm
  | cons c part ih =>
    have here : (if before.getLast?.all startsItem then bodySectionAt (c :: (part ++ rest))
        else none) = none := by
      by_cases starts : before.getLast?.all startsItem = true
      · rw [if_pos starts]
        exact (passed [] (c :: part) rfl (List.cons_ne_nil _ _) (by rwa [List.append_nil])).2
      · rw [if_neg starts]
    have behind : Passed (before ++ [c]) part rest := by
      intro first second cut nonempty starts
      refine passed (c :: first) second (by rw [cut, List.cons_append]) nonempty ?_
      rwa [List.append_assoc] at starts
    have last : (before ++ [c]).getLast?.all startsItem = startsItem c := by
      rw [List.getLast?_concat, Option.all_some]
    have later := ih behind
    rw [last, List.append_assoc] at later
    rw [List.cons_append, findBodySection, here]
    simp only [later, Option.map_map]
    rfl

/-- Where no item is too deep, the extraction over bytes is the one over characters. -/
theorem extractBodySectionBytes_eq {text : String} (shallow : Shallow text.toList) :
    extractBodySectionBytes text = .ok (extractBodySection text) := by
  have ends : Outcome text [] text.toList (extractBodySectionBytes text) :=
    outcome (List.nil_append _).symm
  generalize extractBodySectionBytes text = result at ends ⊢
  cases ends with
  | deep part item whole passed starts deep =>
    have earlier := shallow_at_stop shallow whole passed starts
    rw [deep] at earlier
    cases earlier
  | found part item whole passed starts shallow section' here =>
    obtain ⟨inside, after⟩ := section'
    have search := findBodySection_passed passed
    rw [← whole, starts] at search
    have first : findBodySection true item = some ([], inside, after) := by
      cases item with
      | nil => cases here
      | cons c item => rw [findBodySection, if_pos rfl, here]
    have found : findBodySection true text.toList = some (part, inside, after) := by
      rw [first, Option.map_some, prepend, List.append_nil] at search
      exact search
    rw [extractBodySection, found]
    rfl
  | none passed =>
    have found := findBodySection_passed passed
    rw [List.append_nil] at found
    have missing : findBodySection true text.toList = none := found
    rw [extractBodySection, missing]

/-- The extraction slices no character, and on a text with fewer than 2^31 opening brackets it
returns what the extraction over characters does. -/
theorem bytes_as_characters (text : String) :
    extractBodySectionBytes text ≠ .error .boundary ∧
      (text.toList.count '[' < 2 ^ 31 →
        extractBodySectionBytes text = .ok (extractBodySection text)) :=
  ⟨slices_at_characters text, fun few => extractBodySectionBytes_eq (shallow_of_count few)⟩

/-! ## Too many brackets -/

/-- An item with so many opening brackets. -/
def nested (count : Nat) : String := String.ofList ("BODY[".toList ++ List.replicate count '[')

/-- 2^31 brackets overflow the depth. -/
theorem nested_overflows {count : Nat} (many : 2 ^ 31 ≤ 1 + count) :
    extractBodySectionBytes (nested count) = .error .overflow := by
  have shape : (nested count).toList =
      [] ++ 'B' :: (['O', 'D', 'Y', '['] ++ List.replicate count '[') :=
    String.toList_ofList
  have deep : deepAt ('B' :: (['O', 'D', 'Y', '['] ++ List.replicate count '[')) = true := by
    have nest : reaches '[' ']' (2 ^ 31) 1 (List.replicate count '[') = true :=
      reaches_replicate (by decide) (by decide) many
    have cut : splitFirst '[' ('[' :: List.replicate count '[') =
        some ([], List.replicate count '[') := splitFirst_join List.not_mem_nil _
    change ((_ : Bool) && (splitFirst '[' ('[' :: List.replicate count '[')).any _) = true
    rw [cut, Option.any_some, nest, Bool.and_true]
    exact List.isPrefixOf_iff_prefix.mpr ⟨_, rfl⟩
  have ends := extractFrom_deep shape rfl deep
  rw [List.nil_append] at shape
  rw [← shape] at ends
  exact ends

/-- The extraction overflows on BODY with 2^31 opening brackets. -/
theorem deep_section_overflows : ¬∀ text, Exact text := by
  intro exact'
  have overflows : extractBodySectionBytes (nested (2 ^ 31 - 1)) = .error .overflow :=
    nested_overflows (by decide)
  rcases exact' (nested (2 ^ 31 - 1)) with ⟨returned, -⟩ | ⟨_, _, _, _, _, returned⟩
  · rw [overflows] at returned
    cases returned
  · rw [overflows] at returned
    cases returned

end Talk.Verif.BodySections
