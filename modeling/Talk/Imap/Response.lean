import Talk.Lib.Utf8

/-!
# IMAP responses

A response is a list of lines, kept apart by their kind so that a completion can be told from
untagged data whatever the tag and the text are; `render` is the text that is written.
-/

namespace Talk.Imap

/-- `Status`. -/
inductive Status where
  /-- Done. -/
  | ok
  /-- Refused. -/
  | no
  /-- Not understood. -/
  | bad
  deriving DecidableEq

/-- `Status::as_str`. -/
def Status.word : Status → String
  | .ok => "OK"
  | .no => "NO"
  | .bad => "BAD"

/-- A line of a response. -/
inductive Reply where
  /-- `untagged`. -/
  | untagged (body : String)
  /-- `tagged`: a completion. -/
  | tagged (tag : String) (status : Status) (text : String)
  /-- `continuation`. -/
  | continuation (text : String)
  /-- The bytes of a literal and the end of the list it closes. -/
  | literal (content : List UInt8)
  deriving DecidableEq

/-- The text of a line. -/
def Reply.render : Reply → String
  | .untagged body => "* " ++ body ++ "\r\n"
  | .tagged tag status text => tag ++ " " ++ status.word ++ " " ++ text ++ "\r\n"
  | .continuation text => "+ " ++ text ++ "\r\n"
  | .literal content => Utf8.fromUtf8Lossy content ++ ")\r\n"

/-- The text of a response. -/
def render (replies : List Reply) : String := String.join (replies.map Reply.render)

/-- `greeting`. -/
def greeting (hostname : String) : Reply :=
  .untagged ("OK [CAPABILITY IMAP4rev1 IDLE NAMESPACE AUTH=PLAIN] " ++ hostname ++
    " Talk IMAP ready")

/-- `select_responses`. -/
def selectResponses (count unseen uidvalidity uidnext : UInt32) : List Reply :=
  [.untagged (toString count ++ " EXISTS"),
    .untagged "0 RECENT",
    .untagged "FLAGS (\\Seen \\Answered \\Flagged \\Deleted)",
    .untagged ("OK [UNSEEN " ++ toString unseen ++ "]"),
    .untagged ("OK [UIDVALIDITY " ++ toString uidvalidity ++ "]"),
    .untagged ("OK [UIDNEXT " ++ toString uidnext ++ "]")]

/-- A quoted character, escaped where it has to be. -/
def quoteChar (c : Char) : List Char := if c = '\\' ∨ c = '"' then ['\\', c] else [c]

/-- `quote`. -/
def quote (text : String) : String :=
  "\"" ++ String.ofList (text.toList.flatMap quoteChar) ++ "\""

end Talk.Imap
