import Courier.Url.Basic

/-!
# Exchanges

Services and the gateway are spoken to in requests, each of which has an answer or none. Some
answers have no body, whatever is sent after them.

## Main definitions

* `Exchange`: what comes of a request.
* `Exchange.ofAnswer`: an answer of which a part may be missing.
* `Url.requestLine`: the first line of a request.
-/

namespace Courier

/-- The first line of a request. -/
def Url.requestLine (method : String) (u : Url) : String :=
  method ++ " " ++ String.ofList u.target ++ " HTTP/1.1"

/-- What comes of a request. -/
inductive Exchange where
  /-- There is an answer; there is no body if it broke off. -/
  | answered (status : Nat) (body : Except String (List UInt8))
  /-- There is no answer in time. -/
  | silent
  /-- The connection fails. -/
  | failed (reason : String)
  deriving Repr

namespace Exchange

/-- An answer with the status has no body. -/
def isBodiless (status : Nat) : Bool :=
  status == 204 || status == 304

/-- An answer. If bytes of its body are missing, the reason says why. -/
def ofAnswer (status : Nat) (body : List UInt8) (missing : Option String) : Exchange :=
  if isBodiless status then answered status (.ok [])
  else answered status (missing.elim (.ok body) .error)

/-- The status is one of success. -/
def isSuccess (status : Nat) : Bool :=
  200 ≤ status && status < 300

end Exchange

end Courier
