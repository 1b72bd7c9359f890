import Talk.Daemon.Parallel
import Talk.Imap.Sections
import Talk.Mailstore.Calls

/-!
# IMAP connections at once

Connections take the sections of their commands one at a time, with the sections of deliveries and
of other connections between them. What the local channel and talkctl do to the store comes between
them too, as calls of the store. The server loop of one connection, its IDLE and the tokenizer are
in `Talk.Imap.Server`: a connection here is given the commands it will handle.
-/

namespace Talk.Daemon

open Imap Interleaving Mailstore

/-- A connection. -/
structure Client where
  /-- The session. -/
  session : Session
  /-- What is left of the command that runs. -/
  running : Option (ParsedCommand × Mailstore.Sections (List Reply × Session))
  /-- The commands after it. -/
  waiting : List ParsedCommand
  /-- The commands before it, with their answers. -/
  answered : List (ParsedCommand × List Reply)

/-- A connection takes its next section; before the first and after the last one of a command it
takes up the command and answers it. -/
def Client.step (env : Environment) (db : Db) (client : Client) : Db × Client :=
  match client.running with
  | none =>
    match client.waiting with
    | [] => (db, client)
    | cmd :: waiting =>
      (db, { client with
        running := some (cmd, Imap.Sections.handle env client.session cmd), waiting := waiting })
  | some (cmd, .done (replies, session)) =>
    (db, { client with
      session := session, running := none, answered := client.answered ++ [(cmd, replies)] })
  | some (cmd, .ask op next) =>
    ((op.exec db).2, { client with running := some (cmd, next (op.exec db).1) })

/-- Who takes sections. -/
inductive Party where
  /-- A connection. -/
  | client (client : Client)
  /-- A delivery. -/
  | delivery (thread : Thread)

/-- A party takes its next section. -/
def Party.step (env : Environment) (db : Db) : Party → Db × Party
  | .client place => ((place.step env db).1, .client (place.step env db).2)
  | .delivery thread => ((thread.step db).1, .delivery (thread.step db).2)

/-- A call that leaves the users and the messages they have: IMAP connections alone set flags and
expunge. -/
def isAdministration : StoreCall → Bool
  | .deleteUser _ | .setFlagsIn _ _ _ _ _ | .expungeIn _ _ => false
  | _ => true

/-- What else happens to the store. -/
structure Administration where
  /-- A call. -/
  call : StoreCall
  /-- It leaves the users and the messages they have. -/
  harmless : isAdministration call = true

/-- The store after it. -/
def Administration.apply (db : Db) (administration : Administration) : Db :=
  db.perform administration.call

/-- Parties and a store after events. -/
def runParties (env : Environment) (pool : Pool Db Party) (events : List (Event Administration)) :
    Pool Db Party :=
  Transition.run (Pool.take (Party.step env) Administration.apply) pool events

/-- Who connects, and what it will send. -/
structure Visitor where
  /-- How users authenticate. -/
  authMode : AuthMode
  /-- The local domain. -/
  domain : String
  /-- The commands. -/
  commands : List ParsedCommand

/-- A connection that is accepted. -/
def Visitor.client (visitor : Visitor) : Client :=
  ⟨newSession visitor.authMode visitor.domain, none, visitor.commands, []⟩

/-- A store with connections that are accepted and deliveries that begin. -/
def arrived (db : Db) (visitors : List Visitor) (jobs : List Job) : Pool Db Party :=
  ⟨db, visitors.map (fun visitor => .client visitor.client) ++
    jobs.map fun job => .delivery ⟨job, .start⟩⟩

end Talk.Daemon
