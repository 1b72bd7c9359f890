import Talk.Verif.Arguments

/-!
# Quoted strings are read back

The server writes a string in quotes, with a backslash before each quote and each backslash in it.
A command whose arguments are written so is read back whatever the strings are, as long as each is
on one line.
-/

namespace Talk.Verif.Quoting

open Imap Text Arguments ReaderSteps TokenShapes
open Utf8 (bytes)

/-- Words joined by spaces are the first one and the others, each behind a space. -/
theorem intercalate_eq (first : String) (write : Argument → String) (args : List Argument) :
    " ".intercalate (first :: args.map write) = first ++ spaced write args := by
  induction args generalizing first with
  | nil => simp [spaced]
  | cons arg args ih =>
    have cut : " ".intercalate (first :: write arg :: args.map write) =
        first ++ " " ++ " ".intercalate (write arg :: args.map write) :=
      String.intercalate_cons_cons
    rw [List.map_cons, cut, ih, spaced]
    simp only [String.append_assoc]

/-- For every tag and name that are atoms and every list of strings, each on one line: the line of
the tag, the name and the quoted strings is returned as one command with these arguments, and
nothing is left of it. -/
theorem quoted_strings_read_back {tag name : String} (tagAtom : IsAtom tag) (nameAtom : IsAtom name)
    {strings : List String} (lines : ∀ text ∈ strings, '\n' ∉ text.toList) :
    ({} : CommandReader).feed
        (bytes (" ".intercalate (tag :: name :: strings.map quote) ++ "\r\n")) =
      (.ok [⟨tag, toAsciiUppercase name, strings⟩], {}) := by
  let args := strings.pmap Argument.quoted lines
  have texts : args.map Argument.text = strings := by
    rw [List.map_pmap]
    exact (List.pmap_eq_map ..).trans (List.map_id' strings)
  have written : args.map Argument.sent = strings.map quote := by
    rw [List.map_pmap]
    exact List.pmap_eq_map ..
  have plain : ∀ arg ∈ args, arg.isLiteral = false ∧ OneToken arg := by
    intro arg member
    obtain ⟨text, inside, rfl⟩ := List.mem_pmap.mp member
    exact ⟨rfl, oneToken_quoted _⟩
  let sent : SentCommand := ⟨tag, tagAtom, name, nameAtom, args⟩
  have wire : bytes (" ".intercalate (tag :: name :: strings.map quote) ++ "\r\n") = sent.wire := by
    have cut : " ".intercalate (tag :: name :: strings.map quote) =
        tag ++ " " ++ " ".intercalate (name :: strings.map quote) := String.intercalate_cons_cons
    rw [cut, ← written, intercalate_eq]
    simp only [SentCommand.wire, sent, String.append_assoc]
  have tokens : Tokens sent.line.toList (sent.units.map Argument.text) := by
    rw [sent.line_eq]
    refine tokens_args (.atom tag tagAtom) (.atom name nameAtom :: args) fun arg member => ?_
    rcases List.mem_cons.mp member with rfl | member
    · exact oneToken_atom tagAtom
    · rcases List.mem_cons.mp member with rfl | member
      · exact oneToken_atom nameAtom
      · exact (plain arg member).2
  obtain ⟨last, front, reaches⟩ := reaches_wire sent
  have reads := reaches.command ((parse_iff sent).mpr tokens)
  have none : sent.args.countP Argument.isLiteral = 0 :=
    List.countP_eq_zero.mpr fun arg member => by rw [(plain arg member).1]; exact Bool.false_ne_true
  rw [none, List.replicate_zero, List.nil_append] at reads
  have fed := @feed_of_reads {} _ _ [sent.command] reads rests_empty.1 rests_empty.2
  have command : sent.command = ⟨tag, toAsciiUppercase name, strings⟩ := by
    rw [SentCommand.command, texts]
  rw [wire, fed, command]

/-- A password of quotes, backslashes, braces and a CR. -/
theorem odd_password_read_back :
    ({} : CommandReader).feed
        (bytes (" ".intercalate ("A1" :: "login" :: ["bob", "a\"\\ (\x7b3\x7d\r"].map quote) ++
          "\r\n")) =
      (.ok [⟨"A1", toAsciiUppercase "login", ["bob", "a\"\\ (\x7b3\x7d\r"]⟩], {}) :=
  quoted_strings_read_back (by decide) (by decide) (by decide)

end Talk.Verif.Quoting
