import Mathlib.Data.List.Infix
import Talk.Lib.Text

/-!
# SQL LIKE

The pattern match of SQLite's LIKE without an escape character: `%` stands for any characters, `_`
for any one, and every other character for itself, with the case of ASCII letters ignored.
-/

namespace Talk.Like

open Text

/-- A character of a text matches one of a pattern other than `%`. -/
def matchesChar (symbol c : Char) : Bool := symbol = '_' || lowerChar symbol == lowerChar c

/-- `text LIKE pattern`, on characters. -/
def likeChars : List Char → List Char → Bool
  | [], text => text.isEmpty
  | symbol :: pattern, text =>
    if symbol = '%' then text.tails.any fun rest => likeChars pattern rest
    else match text with
    | [] => false
    | c :: text => matchesChar symbol c && likeChars pattern text

/-- `text LIKE pattern`. -/
def like (text pattern : String) : Bool := likeChars pattern.toList text.toList

end Talk.Like
