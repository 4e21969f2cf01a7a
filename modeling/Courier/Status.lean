import Courier.Json.Printer
import Courier.Json.Record
import Courier.Time.Reading

/-!
# Status events

A status event tells the gateway's tracking how a notification ended: that it was delivered, or that
it failed and why.

## Main definitions

* `Status`, `StatusEvent`, `StatusEvent.delivered`, `StatusEvent.failed`.
* `StatusEvent.read`, `StatusEvent.toJson`.
-/

namespace Courier

open Json (Reader Value Fault)
open Time (Stamp)

/-- How a notification ended. -/
inductive Status where
  | delivered
  | failed
  deriving DecidableEq, Repr

namespace Status

/-- The word for a status. -/
def text : Status → String
  | delivered => "delivered"
  | failed => "failed"

/-- The status of a word. -/
def ofText? (word : String) : Option Status :=
  [delivered, failed].find? (·.text == word)

end Status

/-- How a notification ended, and when. -/
structure StatusEvent where
  notificationId : String
  status : Status
  timestamp : Stamp
  error : Option String
  service : String
  deriving DecidableEq, Repr

namespace StatusEvent

/-- The service that the events of this library come from. -/
def serviceName : String := "push"

/-- The notification was delivered. -/
def delivered (id : String) (moment : Stamp) : StatusEvent :=
  ⟨id, .delivered, moment, none, serviceName⟩

/-- The notification was given up. -/
def failed (id error : String) (moment : Stamp) : StatusEvent :=
  ⟨id, .failed, moment, some error, serviceName⟩

/-- An event of which some entries have been read. -/
structure Draft where
  notificationId : Option String := none
  status : Option Status := none
  timestamp : Option Stamp := none
  error : Option (Option String) := none
  service : Option String := none

/-- A stamp, as a text. -/
def readStamp : Reader Stamp :=
  fun depth d => do
    let text ← Reader.string depth d
    (Stamp.parse? text).elim (.error .malformed) .ok

/-- The entries of an event's document. An object may do without `error`, an array may not. -/
def fields : List (Json.Field Draft) :=
  [.entry "notification_id" (·.notificationId) (fun a d => { d with notificationId := some a })
      Reader.string,
    .entry "status" (·.status) (fun a d => { d with status := some a })
      (Reader.choice Status.ofText?),
    .entry "timestamp" (·.timestamp) (fun a d => { d with timestamp := some a }) readStamp,
    .entry "error" (·.error) (fun a d => { d with error := some a })
      (Reader.optional Reader.string),
    .entry "service" (·.service) (fun a d => { d with service := some a }) Reader.string]

/-- Everything but the error must be there. -/
def Draft.finish (d : Draft) : Except Fault StatusEvent := do
  let notificationId ← Json.require "notification_id" d.notificationId
  let status ← Json.require "status" d.status
  let timestamp ← Json.require "timestamp" d.timestamp
  let service ← Json.require "service" d.service
  return ⟨notificationId, status, timestamp, d.error.getD none, service⟩

/-- Read an event. -/
def read : Reader StatusEvent :=
  Reader.record fields {} Draft.finish

/-- An event as JSON. -/
def toJson (e : StatusEvent) : Value :=
  .object <| [("notification_id", .string e.notificationId), ("status", .string e.status.text),
      ("timestamp", .string e.timestamp.text)]
    ++ Value.optionalMember "error" (e.error.map .string) ++ [("service", .string e.service)]

end StatusEvent

end Courier
