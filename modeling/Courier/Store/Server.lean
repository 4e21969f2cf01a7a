import Courier.Text.Entries

/-!
# The record server

The server keeps a text for each key and answers one command after another. Records outlive every
session here: a span is handed over with a record but nothing expires. A fault may be laid on the
next commands; a command with a fault leaves the data as they are.

## Main definitions

* `Store.Command`, `Store.Command.words`.
* `Store.Server`, `Store.Server.answer`.
-/

namespace Courier.Store

/-- What the server can be asked to do. -/
inductive Command where
  /-- Set a key to a text for a span of seconds, unless it is set. -/
  | setIfAbsent (key text : String) (seconds : Nat)
  /-- Set a key to a text for a span of seconds. -/
  | set (key text : String) (seconds : Nat)
  /-- Forget a key. -/
  | delete (key : String)
  /-- Answer. -/
  | ping
  deriving DecidableEq, Repr

/-- The words that a command is sent as. -/
def Command.words : Command → List String
  | setIfAbsent key text seconds => ["SET", key, text, "NX", "EX", toString seconds]
  | set key text seconds => ["SETEX", key, toString seconds, text]
  | delete key => ["DEL", key]
  | ping => ["PING"]

/-- What becomes of a command. -/
inductive Fault where
  /-- It is carried out. -/
  | ok
  /-- The server answers with an error. -/
  | error
  /-- The server does not answer. -/
  | hang
  deriving DecidableEq, Repr

/-- The server's answer. -/
inductive Reply where
  /-- The command was carried out. -/
  | done
  /-- The key was set already. -/
  | present
  /-- The command was not carried out. -/
  | error
  /-- There is no answer. -/
  | silence
  deriving DecidableEq, Repr

/-- A server. -/
structure Server where
  /-- The texts by their keys, in the order of the keys. -/
  data : List (String × String) := []
  /-- The faults laid on the next commands; without one a command is carried out. -/
  faults : List Fault := []
  /-- The commands so far. -/
  commands : List Command := []
  deriving DecidableEq, Repr

namespace Server

/-- Carry out a command. -/
def carryOut (s : Server) : Command → Server × Reply
  | .setIfAbsent key text _ =>
    if (s.data.lookup key).isSome then (s, .present)
    else ({ s with data := Entries.insert key text s.data }, .done)
  | .set key text _ => ({ s with data := Entries.insert key text s.data }, .done)
  | .delete key => ({ s with data := s.data.filter (·.1 != key) }, .done)
  | .ping => (s, .done)

/-- Take a command. -/
def answer (s : Server) (command : Command) : Server × Reply :=
  let fault := s.faults.headD .ok
  let s := { s with faults := s.faults.tail, commands := s.commands ++ [command] }
  match fault with
  | .ok => s.carryOut command
  | .error => (s, .error)
  | .hang => (s, .silence)

end Server

end Courier.Store
