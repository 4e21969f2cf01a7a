import Courier.Collaborator.Basic
import Courier.Json.Record

/-!
# Envelopes

Both services answer in one format: whether the request succeeded, the data if so, an error and a
message if not, and the page of a longer list. The data of an envelope is read in two steps, so that
a fault of the envelope is told from data that does not fit its schema.

## Main definitions

* `Pagination`, `Envelope`, `Envelope.success`, `Envelope.failure`.
* `Envelope.read`, `Envelope.toJson`.
* `Envelope.failureReason`: the best words for an unsuccessful answer.
* `Envelope.decodeData`: the data of a successful answer.
-/

namespace Courier

open Json (Reader Value Fault)

/-- Where an answer stands in a longer list. -/
structure Pagination where
  total : UInt64 := 0
  limit : UInt64 := 0
  page : UInt64 := 0
  totalPages : UInt64 := 0
  hasNext : Bool := false
  hasPrevious : Bool := false
  deriving DecidableEq, Repr

namespace Pagination

/-- A page of which some entries have been read. -/
structure Draft where
  total : Option UInt64 := none
  limit : Option UInt64 := none
  page : Option UInt64 := none
  totalPages : Option UInt64 := none
  hasNext : Option Bool := none
  hasPrevious : Option Bool := none

/-- A count of 64 bits. -/
def readCount : Reader UInt64 :=
  fun depth d => (Reader.natural (UInt64.size - 1) depth d).map UInt64.ofNat

/-- The entries that a document may have. -/
def fields : List (Json.Field Draft) :=
  [.entry "total" (·.total) (fun a d => { d with total := some a }) readCount true,
    .entry "limit" (·.limit) (fun a d => { d with limit := some a }) readCount true,
    .entry "page" (·.page) (fun a d => { d with page := some a }) readCount true,
    .entry "total_pages" (·.totalPages) (fun a d => { d with totalPages := some a }) readCount true,
    .entry "has_next" (·.hasNext) (fun a d => { d with hasNext := some a }) Reader.bool true,
    .entry "has_previous" (·.hasPrevious) (fun a d => { d with hasPrevious := some a })
      Reader.bool true]

/-- Read a page; what is absent is zero or false. -/
def read : Reader Pagination :=
  Reader.record fields {} fun d =>
    .ok ⟨d.total.getD 0, d.limit.getD 0, d.page.getD 0, d.totalPages.getD 0,
      d.hasNext.getD false, d.hasPrevious.getD false⟩

/-- A page as JSON. -/
def toJson (p : Pagination) : Value :=
  .object [("total", .nat p.total.toNat), ("limit", .nat p.limit.toNat),
    ("page", .nat p.page.toNat), ("total_pages", .nat p.totalPages.toNat),
    ("has_next", .bool p.hasNext), ("has_previous", .bool p.hasPrevious)]

end Pagination

/-- An answer of a service, with data of some type. -/
structure Envelope (α : Type) where
  succeeded : Bool
  data : Option α
  error : Option String
  message : String
  page : Option Pagination
  deriving DecidableEq, Repr

namespace Envelope

variable {α : Type}

/-- The answer to a request that succeeded. -/
def success (data : α) (message : String) : Envelope α :=
  ⟨true, some data, none, message, none⟩

/-- The answer to a request that failed. -/
def failure (error message : String) : Envelope α :=
  ⟨false, none, some error, message, none⟩

/-- An envelope of which some entries have been read. -/
structure Draft (α : Type) where
  succeeded : Option Bool := none
  data : Option (Option α) := none
  error : Option (Option String) := none
  message : Option String := none
  page : Option (Option Pagination) := none

/-- The entries of an envelope's document. An object may do without `data`, but an array must not
end before it. -/
def fields (readData : Reader α) : List (Json.Field (Draft α)) :=
  [.entry "success" (·.succeeded) (fun a d => { d with succeeded := some a }) Reader.bool,
    .entry "data" (·.data) (fun a d => { d with data := some a }) (Reader.optional readData),
    .entry "error" (·.error) (fun a d => { d with error := some a })
      (Reader.optional Reader.string) true,
    .entry "message" (·.message) (fun a d => { d with message := some a }) Reader.string true,
    .entry "meta" (·.page) (fun a d => { d with page := some a })
      (Reader.optional Pagination.read) true]

/-- Whether the request succeeded must be said; the rest may be absent. -/
def Draft.finish (d : Draft α) : Except Fault (Envelope α) := do
  let succeeded ← Json.require "success" d.succeeded
  return ⟨succeeded, d.data.getD none, d.error.getD none, d.message.getD "", d.page.getD none⟩

/-- Read an envelope whose data is read in the given way. -/
def read (readData : Reader α) : Reader (Envelope α) :=
  Reader.record (fields readData) {} Draft.finish

/-- An envelope as JSON. -/
def toJson (dataToJson : α → Value) (e : Envelope α) : Value :=
  .object <| [("success", .bool e.succeeded)]
    ++ Value.optionalMember "data" (e.data.map dataToJson)
    ++ Value.optionalMember "error" (e.error.map .string)
    ++ [("message", .string e.message)]
    ++ Value.optionalMember "meta" (e.page.map Pagination.toJson)

/-- The best words for an unsuccessful answer: its error, its message, or both. -/
def failureReason (e : Envelope α) : String :=
  match e.error, e.message.isEmpty with
  | some error, true => error
  | some error, false => error ++ ": " ++ e.message
  | none, false => e.message
  | none, true => "no reason given"

/-- The data of a successful answer. The envelope is read for itself first, its data skipped, and
only a successful one with data is read again for the data. -/
def decodeData (readData : Reader α) (body : List UInt8) : Except LookupError α :=
  match Json.decode (read Reader.skip) body with
  | .error fault => .error (.envelope fault.text)
  | .ok probe =>
    if !probe.succeeded then
      .error (.envelope ("service reported failure: " ++ probe.failureReason))
    else if probe.data.isNone then .error (.envelope "successful response without data")
    else
      match Json.decode (read readData) body with
      | .error fault => .error (.payload fault.text)
      | .ok e => e.data.elim (.error (.envelope "successful response without data")) .ok

end Envelope

end Courier
