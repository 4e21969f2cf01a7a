import Courier.Collaborator.Basic
import Courier.Collaborator.Exchange
import Courier.Notification
import Courier.Text.ByteOrder
import Courier.Url.Parser

/-!
# The push gateway

The gateway delivers the notifications of one project. Every request carries an access token, and
whoever issues the tokens may fail to. An answer of success means that the notification has been
delivered, whatever else it says; any other answer is kept as a text.

## Main definitions

* `Gateway`, `Gateway.ofProject?`.
* `AccessToken.read`: the token in an issuer's answer.
* `Gateway.request`: the request for a delivery.
* `Gateway.send`: what comes of a delivery.
-/

namespace Courier

open Json (Value Reader)

/-- What a request is authorised with. -/
structure AccessToken where
  text : String
  deriving DecidableEq, Repr

namespace AccessToken

/-- A number of seconds, which may be negative. -/
def readSeconds : Reader Int
  | _, .number (some (.natural n)) => if n < UInt64.size / 2 then .ok n else .error .invalidValue
  | _, .number (some (.negative n)) =>
    if n ≤ UInt64.size / 2 then .ok (-n) else .error .invalidValue
  | _, d => .error (Reader.mismatch d)

/-- The token in an issuer's answer, which also says how long it is good for. -/
def read : Reader AccessToken :=
  Reader.record
    [Json.Field.entry "access_token" Prod.fst
        (fun a (d : Option String × Option Int) => (some a, d.2)) Reader.string,
      Json.Field.entry "expires_in" Prod.snd (fun a d => (d.1, some a)) readSeconds]
    (none, none)
    (fun d => do
      let text ← Json.require "access_token" d.1
      let _ ← Json.require "expires_in" d.2
      return ⟨text⟩)

/-- The token can stand in the head of a request. -/
def isSendable (t : AccessToken) : Bool :=
  t.text.toList.all fun c => c == '\t' || (0x20 ≤ c.toNat && c.toNat != 0x7F)

end AccessToken

/-- The gateway for one project. -/
structure Gateway where
  project : String
  deriving DecidableEq, Repr

namespace Gateway

/-- What is wrong when there is no project. -/
def projectMissingText : String := "FCM_PROJECT_ID is not set"

/-- The gateway for a project, if there is one. -/
def ofProject? (project : Option String) : Option Gateway :=
  (project.filter fun p => !p.isEmpty).map Gateway.mk

/-- The scheme of the gateway's URLs, and its port. -/
def scheme : String × Nat := ("https", 443)

/-- The name of the gateway's host. -/
def host : String := "fcm.googleapis.com"

/-- Where deliveries are asked for. -/
def endpoint (g : Gateway) : Url :=
  .within scheme.1 { host := .name host.toList }
    ("/v1/projects/" ++ g.project ++ "/messages:send").toList

/-- A request for a delivery. -/
structure Request where
  /-- The line that asks for a connection to the gateway. -/
  connect : String
  line : String
  headers : List String
  body : Value

/-- The request for the delivery of a notification. -/
def request (g : Gateway) (token : AccessToken) (n : Notification) : Request where
  connect := "CONNECT " ++ host ++ ":" ++ toString scheme.2 ++ " HTTP/1.1"
  line := g.endpoint.requestLine "POST"
  headers := ["authorization: Bearer " ++ token.text, "content-type: application/json"]
  body := (PushMessage.ofNotification n).toJson

/-- What an exchange with the gateway says about a delivery. -/
def interpret : Exchange → Except DeliveryError Unit
  | .silent => .error .timeout
  | .failed reason => .error (.transport reason)
  | .answered status body =>
    if Exchange.isSuccess status then .ok ()
    else .error (.rejected status ((body.map Text.decodeMarked).toOption.getD ""))

/-- Send a notification. Without a token nothing is sent; with one, what is sent is answered by the
next of the gateway's answers, and by success when there are none left. -/
def send (g : Gateway) (token : Except String AccessToken) (n : Notification)
    (answers : List Exchange) : Option Request × Except DeliveryError Unit × List Exchange :=
  match token with
  | .error reason => (none, .error (.auth reason), answers)
  | .ok token =>
    if token.isSendable then
      (some (g.request token n), interpret (answers.headD (.answered 200 (.ok []))), answers.tail)
    else (none, .error (.transport "invalid access token"), answers)

end Gateway

end Courier
