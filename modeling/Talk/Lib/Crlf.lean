import Mathlib.Data.List.Infix
import Talk.Lib.Text

/-!
# Line breaks inside a text

A text that is put into one line must not hold CR LF. The predicate has a rule for each way a line
is put together: one character in front, two texts side by side, and an escaping that leaves CR and
LF alone. A block of lines ends with a mark of its own; reading it gives back the fields that were
written exactly when no value of theirs breaks its line.
-/

namespace Talk.Crlf

open Text (splitFirst)

/-! ## Two units in a row

What holds of CR LF holds of any two units, so that it can be used of characters and of octets. -/

section Pair

variable {α : Type} {first second : α}

/-- The first unit begins a pair, or the pair is behind it. -/
theorem pair_cons {unit : α} {rest : List α} :
    [first, second] <:+: unit :: rest ↔
      (unit = first ∧ rest.head? = some second) ∨ [first, second] <:+: rest := by
  rw [List.infix_cons_iff, List.cons_prefix_cons]
  refine or_congr (and_congr eq_comm ?_) Iff.rfl
  cases rest with
  | nil => simp
  | cons next rest => simp [List.cons_prefix_cons, eq_comm]

/-- A pair lies in one of two lists, or across them. -/
theorem pair_append {left right : List α} :
    [first, second] <:+: left ++ right ↔
      [first, second] <:+: left ∨ [first, second] <:+: right ∨
        (left.getLast? = some first ∧ right.head? = some second) := by
  induction left with
  | nil => simp
  | cons unit left ih =>
    rw [List.cons_append, pair_cons, ih, pair_cons]
    cases left with
    | nil => simp [or_comm]
    | cons next left =>
      rw [List.getLast?_cons_cons, List.cons_append, List.head?_cons, List.head?_cons]
      simp only [or_assoc]

/-- A list without the first unit in front adds no pair. -/
theorem pair_append_right {left right : List α} (free : first ∉ left) :
    [first, second] <:+: left ++ right ↔ [first, second] <:+: right := by
  have last : left.getLast? ≠ some first := fun ends => free (List.mem_of_getLast? ends)
  have inside : ¬[first, second] <:+: left :=
    fun pair => free (pair.subset (List.mem_cons_self ..))
  rw [pair_append]
  simp [inside, last]

/-- A list without the second unit behind adds no pair. -/
theorem pair_append_left {left right : List α} (free : second ∉ right) :
    [first, second] <:+: left ++ right ↔ [first, second] <:+: left := by
  have starts : right.head? ≠ some second := fun starts => free (List.mem_of_head? starts)
  have inside : ¬[first, second] <:+: right := fun pair => free (pair.subset (by simp))
  rw [pair_append]
  simp [inside, starts]

end Pair

/-! ## A break -/

/-- The text holds CR LF. -/
def Broken (text : List Char) : Prop := ['\r', '\n'] <:+: text

instance (text : List Char) : Decidable (Broken text) :=
  inferInstanceAs (Decidable (['\r', '\n'] <:+: text))

/-- The first character begins a break, or the break is behind it. -/
theorem broken_cons {c : Char} {rest : List Char} :
    Broken (c :: rest) ↔ (c = '\r' ∧ rest.head? = some '\n') ∨ Broken rest := pair_cons

/-- The empty text holds no break. -/
@[simp] theorem not_broken_nil : ¬Broken [] := by
  decide

/-- A text without CR holds none. -/
theorem not_broken_of_cr {text : List Char} (free : '\r' ∉ text) : ¬Broken text :=
  fun broken => free (broken.subset (List.mem_cons_self ..))

/-- A text without CR in front adds no break. -/
theorem broken_append_right {left right : List Char} (free : '\r' ∉ left) :
    Broken (left ++ right) ↔ Broken right := pair_append_right free

/-- A text without LF behind adds no break. -/
theorem broken_append_left {left right : List Char} (free : '\n' ∉ right) :
    Broken (left ++ right) ↔ Broken left := pair_append_left free

/-- Behind a text that starts with another character than LF the two sides are apart. -/
theorem broken_append_of_head {left right : List Char} (first : right.head? ≠ some '\n') :
    Broken (left ++ right) ↔ Broken left ∨ Broken right := by
  unfold Broken
  rw [pair_append]
  simp [first]

/-- Texts joined by another character break where one of them does. -/
theorem broken_intercalate {sep : Char} (cr : sep ≠ '\r') (lf : sep ≠ '\n')
    (pieces : List (List Char)) :
    Broken (List.intercalate [sep] pieces) ↔ ∃ piece ∈ pieces, Broken piece := by
  induction pieces with
  | nil => simp
  | cons piece pieces ih =>
    cases pieces with
    | nil => simp
    | cons next pieces =>
      rw [List.intercalate_cons_cons, List.append_assoc, broken_append_of_head (by simp [lf]),
        broken_append_right (by simp [Ne.symm cr]), ih]
      simp only [List.exists_mem_cons_iff]

/-! ## Escaping -/

/-- An encoding of characters that leaves CR and LF alone, as the units `first` and `second`, and
puts neither for another character. -/
structure Escapes {α : Type} (escape : Char → List α) (first second : α) : Prop where
  /-- CR is left alone. -/
  cr : escape '\r' = [first]
  /-- LF is left alone. -/
  lf : escape '\n' = [second]
  /-- The two differ. -/
  apart : first ≠ second
  /-- Any other character becomes units among which neither is. -/
  other : ∀ c, c ≠ '\r' → c ≠ '\n' → escape c ≠ [] ∧ first ∉ escape c ∧ second ∉ escape c

section Escaping

variable {α : Type} {escape : Char → List α} {first second : α}

/-- An encoded text starts with LF exactly when the text does. -/
theorem Escapes.head_flatMap (escapes : Escapes escape first second) (text : List Char) :
    (text.flatMap escape).head? = some second ↔ text.head? = some '\n' := by
  cases text with
  | nil => simp
  | cons c text =>
    rw [List.flatMap_cons, List.head?_cons]
    by_cases isCr : c = '\r'
    · rw [isCr, escapes.cr]
      simp [escapes.apart]
    by_cases isLf : c = '\n'
    · rw [isLf, escapes.lf]
      simp
    · obtain ⟨nonempty, -, free⟩ := escapes.other c isCr isLf
      rw [List.head?_append_of_ne_nil _ nonempty]
      constructor
      · intro starts
        exact absurd (List.mem_of_head? starts) free
      · intro same
        exact absurd (Option.some.inj same) isLf

/-- An encoded text breaks its line exactly when the text does. -/
theorem Escapes.pair_flatMap (escapes : Escapes escape first second) (text : List Char) :
    [first, second] <:+: text.flatMap escape ↔ Broken text := by
  induction text with
  | nil => simp
  | cons c text ih =>
    rw [List.flatMap_cons, broken_cons]
    by_cases isCr : c = '\r'
    · rw [isCr, escapes.cr, List.singleton_append, pair_cons, escapes.head_flatMap, ih]
      simp only [true_and]
    · by_cases isLf : c = '\n'
      · rw [isLf, escapes.lf, List.singleton_append, pair_cons, ih]
        simp [Ne.symm escapes.apart]
      · obtain ⟨-, free, -⟩ := escapes.other c isCr isLf
        rw [pair_append_right free, ih]
        simp [isCr]

end Escaping

/-! ## Octets -/

/-- The octets hold CR LF. -/
def BrokenOctets (octets : List UInt8) : Prop := [13, 10] <:+: octets

instance (octets : List UInt8) : Decidable (BrokenOctets octets) :=
  inferInstanceAs (Decidable ([13, 10] <:+: octets))

/-- UTF-8 leaves CR and LF alone. -/
theorem escapes_utf8EncodeChar : Escapes String.utf8EncodeChar 13 10 := by
  refine ⟨by decide, by decide, by decide, fun c cr lf => ⟨?_, fun member => ?_, fun member => ?_⟩⟩
  · exact List.ne_nil_of_length_pos (by
      rw [String.length_utf8EncodeChar]
      exact Char.utf8Size_pos c)
  · exact cr (Char.ext (UInt32.toNat_inj.mp (Utf8.ascii_mem_utf8EncodeChar (by decide) member)))
  · exact lf (Char.ext (UInt32.toNat_inj.mp (Utf8.ascii_mem_utf8EncodeChar (by decide) member)))

/-- The octets of a text break where the text does. -/
theorem brokenOctets_bytes (text : String) : BrokenOctets (Utf8.bytes text) ↔ Broken text.toList :=
  escapes_utf8EncodeChar.pair_flatMap text.toList

/-- The only break of the octets is at their end. -/
def EndsOnce (octets : List UInt8) : Prop :=
  ∃ line, ¬BrokenOctets line ∧ octets = line ++ [13, 10]

/-- Octets with an end put behind them end once when they hold no break. -/
theorem endsOnce_iff {line : List UInt8} : EndsOnce (line ++ [13, 10]) ↔ ¬BrokenOctets line := by
  constructor
  · rintro ⟨other, whole, same⟩
    rw [List.append_cancel_right same]
    exact whole
  · intro whole
    exact ⟨line, whole, rfl⟩

/-! ## Lines and fields -/

/-- The first line and what follows its end. -/
def cut : List Char → Option (List Char × List Char)
  | [] => none
  | c :: rest =>
    if c = '\r' ∧ rest.head? = some '\n' then some ([], rest.tail)
    else (cut rest).map fun (line, after) => (c :: line, after)

/-- A line without a break is cut at its end. -/
theorem cut_append {line : List Char} (whole : ¬Broken line) (rest : List Char) :
    cut (line ++ '\r' :: '\n' :: rest) = some (line, rest) := by
  induction line with
  | nil => simp [cut]
  | cons c line ih =>
    rw [broken_cons, not_or] at whole
    have inside : ¬(c = '\r' ∧ (line ++ '\r' :: '\n' :: rest).head? = some '\n') := by
      rintro ⟨cr, starts⟩
      cases line with
      | nil => simp at starts
      | cons d line => exact whole.1 ⟨cr, starts⟩
    rw [List.cons_append, cut, if_neg inside, ih whole.2]
    rfl

/-- What follows a line is shorter. -/
theorem cut_shorter {text line rest : List Char} (found : cut text = some (line, rest)) :
    rest.length < text.length := by
  induction text generalizing line with
  | nil => cases found
  | cons c text ih =>
    rw [cut] at found
    split at found
    · cases found
      rw [List.length_tail, List.length_cons]
      omega
    · obtain ⟨⟨inner, after⟩, inside, same⟩ := Option.map_eq_some_iff.mp found
      cases same
      have shorter := ih inside
      rw [List.length_cons]
      omega

/-- A broken text is a whole line, its end, and the rest. -/
theorem exists_cut {text : List Char} (broken : Broken text) :
    ∃ line rest, ¬Broken line ∧ text = line ++ '\r' :: '\n' :: rest := by
  induction text with
  | nil => exact absurd broken not_broken_nil
  | cons c text ih =>
    by_cases starts : c = '\r' ∧ text.head? = some '\n'
    · obtain ⟨rest, rfl⟩ := List.head?_eq_some_iff.mp starts.2
      exact ⟨[], rest, not_broken_nil, by rw [starts.1, List.nil_append]⟩
    · rcases broken_cons.mp broken with here | inside
      · exact absurd here starts
      · obtain ⟨line, rest, whole, rfl⟩ := ih inside
        refine ⟨c :: line, rest, fun breaks => ?_, rfl⟩
        rcases broken_cons.mp breaks with here | behind
        · cases line with
          | nil => simp at here
          | cons d line => exact starts here
        · exact whole behind

/-- The name and the value of a line. -/
def fieldOf (line : List Char) : Option (String × String) :=
  match splitFirst ':' line with
  | some (name, ' ' :: value) => some (String.ofList name, String.ofList value)
  | _ => none

/-- The fields of a block that ends with a mark. -/
def readFields (mark : List Char) (text : List Char) : Option (List (String × String)) :=
  if mark <+: text then some []
  else match _found : cut text with
  | none => none
  | some (line, rest) =>
    match fieldOf line with
    | none => none
    | some field => (readFields mark rest).map (field :: ·)
termination_by text.length
decreasing_by exact cut_shorter ‹_›

/-- The mark alone is a block without fields. -/
theorem readFields_mark (mark : List Char) : readFields mark mark = some [] := by
  rw [readFields, if_pos List.prefix_rfl]

/-- The line of a field, without its end. -/
def fieldLine (field : String × String) : List Char :=
  field.1.toList ++ ':' :: ' ' :: field.2.toList

/-- The lines of fields. -/
def writeFields (fields : List (String × String)) : List Char :=
  fields.flatMap fun field => fieldLine field ++ ['\r', '\n']

/-- A name that a line can start with. -/
structure IsName (name : String) : Prop where
  /-- It is not empty. -/
  nonempty : name.toList ≠ []
  /-- It holds no colon. -/
  colon : ':' ∉ name.toList
  /-- It holds no CR. -/
  cr : '\r' ∉ name.toList
  /-- It holds no LF. -/
  lf : '\n' ∉ name.toList

/-- A line gives its field. -/
theorem fieldOf_line {name : String} (isName : IsName name) (value : List Char) :
    fieldOf (name.toList ++ ':' :: ' ' :: value) = some (name, String.ofList value) := by
  rw [fieldOf, Text.splitFirst_join isName.colon]
  simp

/-- A line breaks where its value does. -/
theorem broken_fieldLine {name : String} (isName : IsName name) (value : List Char) :
    Broken (name.toList ++ ':' :: ' ' :: value) ↔ Broken value := by
  rw [broken_append_right isName.cr, broken_cons, broken_cons]
  simp

/-- A mark of CR and LF does not begin a line. -/
theorem not_mark {mark : List Char} {first : Char} (starts : mark.head? = some first)
    (control : first = '\r' ∨ first = '\n') {name : String} (isName : IsName name)
    (rest : List Char) : ¬mark <+: name.toList ++ rest := by
  obtain ⟨others, rfl⟩ := List.head?_eq_some_iff.mp starts
  obtain ⟨c, tail, shape⟩ := List.exists_cons_of_ne_nil isName.nonempty
  have inside : c ∈ name.toList := shape ▸ List.mem_cons_self ..
  intro begins
  rw [shape, List.cons_append, List.cons_prefix_cons] at begins
  rw [← begins.1] at inside
  rcases control with same | same
  · exact isName.cr (same ▸ inside)
  · exact isName.lf (same ▸ inside)

/-- One line is read as its field. -/
theorem readFields_line {mark line rest : List Char} {field : String × String}
    (unmarked : ¬mark <+: line ++ '\r' :: '\n' :: rest) (whole : ¬Broken line)
    (read : fieldOf line = some field) :
    readFields mark (line ++ '\r' :: '\n' :: rest) =
      (readFields mark rest).map (field :: ·) := by
  rw [readFields, if_neg unmarked]
  split
  next none => simp [cut_append whole] at none
  next found =>
    rw [cut_append whole] at found
    cases found
    rw [read]

/-- Written fields are read back exactly when no value breaks its line and the end is the mark. -/
theorem readFields_writeFields {mark : List Char} {first : Char}
    (starts : mark.head? = some first) (control : first = '\r' ∨ first = '\n')
    {fields : List (String × String)} (names : ∀ field ∈ fields, IsName field.1)
    (last : List Char) :
    readFields mark (writeFields fields ++ last) = some fields ↔
      (∀ field ∈ fields, ¬Broken field.2.toList) ∧ readFields mark last = some [] := by
  induction fields with
  | nil => simp [writeFields]
  | cons field fields ih =>
    obtain ⟨name, value⟩ := field
    have isName : IsName name := names _ (List.mem_cons_self ..)
    have later := ih fun field member => names field (List.mem_cons_of_mem _ member)
    have shape : writeFields ((name, value) :: fields) ++ last =
        name.toList ++ ':' :: ' ' :: value.toList ++
          '\r' :: '\n' :: (writeFields fields ++ last) := by
      simp [writeFields, fieldLine]
    have unmarked : ∀ after, ¬mark <+: name.toList ++ ':' :: ' ' :: after := fun after =>
      not_mark starts control isName _
    by_cases broken : Broken value.toList
    · -- The value ends early, so that the field read is another one.
      obtain ⟨line, rest, whole, split⟩ := exists_cut broken
      have other : String.ofList line ≠ value := by
        intro same
        rw [← same, String.toList_ofList] at broken
        exact whole broken
      have cutShort : writeFields ((name, value) :: fields) ++ last =
          name.toList ++ ':' :: ' ' :: line ++ '\r' :: '\n' ::
            (rest ++ '\r' :: '\n' :: (writeFields fields ++ last)) := by
        simp [shape, split]
      rw [cutShort, readFields_line (by simpa using unmarked _)
        (mt (broken_fieldLine isName line).mp whole) (fieldOf_line isName line)]
      constructor
      · intro read
        obtain ⟨others, -, same⟩ := Option.map_eq_some_iff.mp read
        exact absurd (Prod.mk.inj (List.cons.inj same).1).2 other
      · intro kept
        exact absurd broken (kept.1 _ (List.mem_cons_self ..))
    · rw [shape, readFields_line (by simpa using unmarked _)
        (mt (broken_fieldLine isName value.toList).mp broken) (fieldOf_line isName value.toList),
        String.ofList_toList]
      have whole : readFields mark (writeFields fields ++ last) = some fields ↔
          (readFields mark (writeFields fields ++ last)).map ((name, value) :: ·) =
            some ((name, value) :: fields) := by
        simp [Option.map_eq_some_iff]
      rw [← whole, later, List.forall_mem_cons]
      simp [broken]

end Talk.Crlf
