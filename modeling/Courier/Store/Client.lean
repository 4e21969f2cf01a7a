import Courier.Notice
import Courier.Retry
import Courier.Store.Server

/-!
# Records of jobs

A job that has been claimed or done has a record, under a key of its own, that says when. Setting
the record only if there is none is one command, so of several claimants one alone goes ahead. That
a job is done is written down with several attempts; the other operations have one.

## Main definitions

* `Store.key`.
* `Store.claim`, `Store.mark`, `Store.remove`, `Store.ping`.
-/

namespace Courier.Store

open Time (Stamp)

/-- The key of a job's record. -/
def key (requestId : String) : String :=
  "push:processed:" ++ requestId

/-- A span in whole seconds, at least one. -/
def spanSeconds (millis : Nat) : Nat :=
  max 1 (millis / 1000)

/-- The text of a record: the moment, to the second. -/
def recordText (moment : Stamp) : String :=
  Stamp.text ⟨moment.seconds, 0⟩

/-- What a server's error says. -/
def serverErrorText : String :=
  "An error was signalled by the server - ResponseError: boom"

/-- Send a command and wait for the answer. -/
def call (command : Command) (s : Server) : Except StoreError Reply × Server :=
  match s.answer command with
  | (s, .error) => (.error (.server serverErrorText), s)
  | (s, .silence) => (.error .timeout, s)
  | (s, reply) => (.ok reply, s)

/-- Claim a job. -/
def claim (requestId : String) (span : Nat) (moment : Stamp) (s : Server) :
    Except StoreError Claim × Server :=
  let (answer, s) := call (.setIfAbsent (key requestId) (recordText moment) (spanSeconds span)) s
  (answer.map fun reply => if reply = .present then .alreadyPresent else .claimed, s)

/-- The command that writes down that a job is done. -/
def markCommand (requestId : String) (span : Nat) (moment : Stamp) : Command :=
  .set (key requestId) (recordText moment) (spanSeconds span)

/-- Write down that a job is done. -/
def mark (policy : RetryPolicy) (requestId : String) (span : Nat) (moment : Stamp) (s : Server) :
    Except StoreError Unit × List Notice × Server :=
  let tried := policy.run (call (markCommand requestId span moment)) s
  match tried.result with
  | .ok _ => (.ok (), [], tried.state)
  | .error e =>
    (.error e, [.retriesExhausted "mark_processed" policy.attempts e.text], tried.state)

/-- Forget a job. -/
def remove (requestId : String) (s : Server) : Except StoreError Unit × Server :=
  let (answer, s) := call (.delete (key requestId)) s
  (answer.map fun _ => (), s)

/-- See whether the server answers. -/
def ping (s : Server) : Except StoreError Unit × Server :=
  let (answer, s) := call .ping s
  (answer.map fun _ => (), s)

end Courier.Store
