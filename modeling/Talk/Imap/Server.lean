import Talk.Imap.Session

/-!
# The IMAP server loop

One connection, read by read. A response is buffered until the commands of its read are done, while
a continuation is written at once. An IDLE stops in the middle of a read's commands and keeps the
rest of them, with what is buffered, until a later read has DONE.
-/

namespace Talk.Imap

open Mailstore

/-- What a connection is doing. -/
inductive Activity where
  /-- It waits for commands. -/
  | serving
  /-- `idle_until_done`: the tag of the IDLE, the commands of its read after it and the responses
  that are not written yet. -/
  | idling (tag : String) (commands : List ParsedCommand) (out : List Reply)
  /-- It is closed. -/
  | closed
  /-- The tokenizer does not return. -/
  | hung
  deriving DecidableEq

/-- A connection. -/
structure Conn where
  /-- The session. -/
  session : Session
  /-- The store, which other connections and the delivery share. -/
  db : Db
  /-- The reader. -/
  reader : CommandReader
  /-- What it is doing. -/
  activity : Activity
  deriving DecidableEq

/-- What a connection waits for. -/
inductive Input where
  /-- Bytes are read; none at the end of the stream. -/
  | read (data : List UInt8)
  /-- `MailboxEvent::MessageAppended`. -/
  | event (userId : Nat)
  /-- Another party changes the store. -/
  | store (db : Db)

/-- The loop over the commands of a read, with the responses that are not written yet. -/
def serveCommands (env : Environment) (conn : Conn) :
    List Reply → List ParsedCommand → Conn × List Reply
  | out, [] => ({ conn with activity := .serving }, out)
  | out, cmd :: rest =>
    if cmd.name = "IDLE" then
      ({ conn with activity := .idling cmd.tag rest out }, [.continuation "idle"])
    else
      let (replies, session, db) := handle env conn.session conn.db cmd
      let conn := { conn with session := session, db := db }
      if cmd.name = "LOGOUT" then ({ conn with activity := .closed }, out ++ replies)
      else serveCommands env conn (out ++ replies) rest

/-- The continuation for a literal. -/
def literalContinuation (reader : CommandReader) : List Reply :=
  if reader.needsContinuation then [.continuation "send literal"] else []

/-- A round of `serve_connection`. -/
def serveRead (env : Environment) (conn : Conn) (data : List UInt8) :
    Conn × List Reply :=
  let (fed, reader) := conn.reader.feed data
  let conn := { conn with reader := reader }
  match fed with
  | .diverges => ({ conn with activity := .hung }, [])
  | .failed .unterminated =>
    ({ conn with activity := .closed }, [.tagged "" .bad "malformed line"])
  | .failed error => (conn, [.untagged ("BAD Invalid command: " ++ error.word)])
  | .ok commands =>
    let (conn, written) := serveCommands env conn [] commands
    (conn, literalContinuation reader ++ written)

/-- A round of `idle_until_done`: the commands of the read are searched for DONE only. -/
def idleRead (env : Environment) (conn : Conn) (tag : String)
    (commands : List ParsedCommand) (out : List Reply) (data : List UInt8) :
    Conn × List Reply :=
  let (fed, reader) := conn.reader.feed data
  let conn := { conn with reader := reader }
  match fed with
  | .diverges => ({ conn with activity := .hung }, [])
  | .failed _ => ({ conn with activity := .closed }, [])
  | .ok found =>
    if found.any (·.name == "DONE") then
      serveCommands env conn (out ++ [.tagged tag .ok "IDLE terminated"]) commands
    else (conn, [])

/-- The messages of a user's INBOX, counted. -/
def existsCount (db : Db) (userId : Nat) : Nat :=
  match db.listMessagesIn userId inbox with
  | .ok messages => messages.length
  | .error _ => 0

/-- `serve_connection`, one input at a time: the connection after it and the lines written. -/
def Conn.step (env : Environment) (conn : Conn) : Input → Conn × List Reply
  | .store db => ({ conn with db := db }, [])
  | .event userId =>
    match conn.activity with
    | .idling _ _ _ =>
      if userId = conn.session.userId then
        (conn, [.untagged (toString (existsCount conn.db userId) ++ " EXISTS")])
      else (conn, [])
    -- An event waits in the channel until the connection idles.
    | _ => (conn, [])
  | .read data =>
    match conn.activity with
    | .serving =>
      if data = [] then ({ conn with activity := .closed }, []) else serveRead env conn data
    | .idling tag commands out =>
      if data = [] then ({ conn with activity := .closed }, [])
      else idleRead env conn tag commands out data
    | .closed | .hung => (conn, [])

/-- A connection that is accepted, and what is written first. -/
def accepted (authMode : AuthMode) (domain hostname : String) (db : Db) :
    Conn × List Reply :=
  (⟨newSession authMode domain, db, {}, .serving⟩, [greeting hostname])

end Talk.Imap
