import Courier.Json.Printer
import Courier.Json.Record
import Courier.Text.Blank

/-!
# Jobs

A job asks for one push notification to one user. It travels as JSON in the body of a message, and
everything that is known about it travels there: its request id, which stays the same however often
the job goes around, and the number of transient failures it has been through.

## Main definitions

* `Job`, `Job.next`.
* `Job.decode`: the job of a message's body, whose three ids must not be blank.
* `Job.encode`: the body of a job.
-/

namespace Courier

open Json (Reader Value Fault)

/-- A request to notify a user. -/
structure Job where
  /-- Names the notification; two jobs with one request id are copies of each other. -/
  requestId : String
  /-- Whom to notify. -/
  userId : String
  /-- What to notify of. -/
  templateId : String
  /-- The texts that the template refers to. -/
  «variables» : Dictionary := .empty
  /-- Handed on to the device as it is. -/
  correlationId : String := ""
  /-- How many transient failures the job has been through. -/
  retryCount : UInt32 := 0
  deriving DecidableEq, Inhabited

namespace Job

/-- The copy that goes around again. Its count stays at the greatest once it is there. -/
def next (job : Job) : Job :=
  { job with
    retryCount := if job.retryCount = UInt32.ofNat (UInt32.size - 1) then job.retryCount
      else job.retryCount + 1 }

/-! ## The wire format -/

/-- A job of which some entries have been read. -/
structure Draft where
  requestId : Option String := none
  userId : Option String := none
  templateId : Option String := none
  «variables» : Option Dictionary := none
  correlationId : Option String := none
  retryCount : Option UInt32 := none

/-- A map of texts. -/
def readVariables : Reader Dictionary :=
  fun depth d => (Reader.pairs Reader.string depth d).map Dictionary.ofList

/-- A count of 32 bits. -/
def readCount : Reader UInt32 :=
  fun depth d => (Reader.natural (UInt32.size - 1) depth d).map UInt32.ofNat

/-- The entries of a job's document. -/
def fields : List (Json.Field Draft) :=
  [.entry "request_id" (·.requestId) (fun a d => { d with requestId := some a }) Reader.string,
    .entry "user_id" (·.userId) (fun a d => { d with userId := some a }) Reader.string,
    .entry "template_id" (·.templateId) (fun a d => { d with templateId := some a }) Reader.string,
    .entry "variables" (·.«variables») (fun a d => { d with «variables» := some a })
      readVariables true,
    .entry "correlation_id" (·.correlationId) (fun a d => { d with correlationId := some a })
      Reader.string true,
    .entry "retry_count" (·.retryCount) (fun a d => { d with retryCount := some a }) readCount true]

/-- The three ids must be there; the rest has defaults. -/
def Draft.finish (d : Draft) : Except Fault Job := do
  let requestId ← Json.require "request_id" d.requestId
  let userId ← Json.require "user_id" d.userId
  let templateId ← Json.require "template_id" d.templateId
  return {
    requestId, userId, templateId
    «variables» := d.variables.getD .empty
    correlationId := d.correlationId.getD ""
    retryCount := d.retryCount.getD 0 }

/-- Read a job, blank ids and all. -/
def read : Reader Job :=
  Reader.record fields {} Draft.finish

/-- An id of a job. -/
inductive Id where
  | request
  | user
  | template
  deriving DecidableEq, Repr

/-- The name of an id in a document. -/
def Id.name : Id → String
  | request => "request_id"
  | user => "user_id"
  | template => "template_id"

/-- The id of a job. -/
def id (job : Job) : Id → String
  | .request => job.requestId
  | .user => job.userId
  | .template => job.templateId

/-- Why a message's body is no job. -/
inductive DecodeError where
  /-- It is no JSON of a job. -/
  | json (fault : Fault)
  /-- The id of this name has nothing but blanks in it. -/
  | blank (name : String)
  deriving DecidableEq, Repr

/-- The words for an error. -/
def DecodeError.text : DecodeError → String
  | json fault => "Invalid job JSON: " ++ fault.text
  | blank name => "Job is missing required field '" ++ name ++ "'"

/-- The first id that is blank. -/
def blankId? (job : Job) : Option Id :=
  [Id.request, Id.user, Id.template].find? fun i => Text.IsBlank (job.id i)

/-- The job of a message's body. -/
def decode (payload : List UInt8) : Except DecodeError Job :=
  match Json.decode read payload with
  | .error fault => .error (.json fault)
  | .ok job =>
    match job.blankId? with
    | some id => .error (.blank id.name)
    | none => .ok job

/-- A job as JSON. -/
def toJson (job : Job) : Value :=
  .object [
    ("request_id", .string job.requestId),
    ("user_id", .string job.userId),
    ("template_id", .string job.templateId),
    ("variables", .object (job.variables.entries.map fun e => (e.1, .string e.2))),
    ("correlation_id", .string job.correlationId),
    ("retry_count", .nat job.retryCount.toNat)]

/-- The body of a job. -/
def encode (job : Job) : List UInt8 :=
  Text.Utf8.encode job.toJson.chars

end Job

end Courier
