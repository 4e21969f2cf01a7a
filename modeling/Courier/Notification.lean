import Courier.Job
import Courier.Template.Render

/-!
# Notifications

A notification is what is delivered: rendered texts, addressed to one device. It reads the job and
the template once more, for the parts that are handed on as they are.

## Main definitions

* `Notification`, `Notification.compose`.
* `Notification.pushMessage`: the document that the push gateway takes.
-/

namespace Courier

open Json (Value Reader)

/-- A notification for one device. -/
structure Notification where
  deviceToken : String
  title : String
  body : String
  linkUrl : String
  image : Option String
  correlationId : String
  deriving DecidableEq, Repr, Inhabited

namespace Notification

/-- The notification of a job. An image without an address is none. -/
def compose (job : Job) (deviceToken : String) (template : Template)
    (rendered : Template.Rendered) : Notification where
  deviceToken := deviceToken
  title := rendered.title
  body := rendered.body
  linkUrl := template.linkUrl
  image := template.image.filter fun image => !image.isEmpty
  correlationId := job.correlationId

/-- A notification as JSON. -/
def toJson (n : Notification) : Value :=
  .object [("device_token", .string n.deviceToken), ("title", .string n.title),
    ("body", .string n.body), ("link_url", .string n.linkUrl),
    ("image", Value.stringOrNull n.image), ("correlation_id", .string n.correlationId)]

end Notification

/-- The document that asks the push gateway for a delivery. -/
structure PushMessage where
  token : String
  title : String
  body : String
  image : Option String
  /-- What the application on the device gets besides. -/
  data : List (String × String)
  deriving DecidableEq, Repr

namespace PushMessage

/-- The document as JSON; without an image, or without data, it has no such member. -/
def toJson (m : PushMessage) : Value :=
  .object [("message", .object <|
    [("token", .string m.token),
      ("notification", .object <| [("title", .string m.title), ("body", .string m.body)]
        ++ Value.optionalMember "image" (m.image.map .string))]
    ++ if m.data.isEmpty then []
      else [("data", .object (m.data.map fun e => (e.1, .string e.2)))])]

/-- A link and a correlation id go along if there are any. -/
def ofNotification (n : Notification) : PushMessage where
  token := n.deviceToken
  title := n.title
  body := n.body
  image := n.image
  data :=
    [("link_url", n.linkUrl), ("correlation_id", n.correlationId)].filter fun e => !e.2.isEmpty

/-- The name that the gateway gives a delivery. -/
def readReceipt : Reader String :=
  Reader.record
    [Json.Field.entry "name" id (fun a _ => some a) Reader.string]
    none (fun name => Json.require "name" name)

end PushMessage

end Courier
