import Courier.Collaborator.Exchange
import Courier.Envelope
import Courier.Profile
import Courier.Template.Basic
import Courier.Url.Parser

/-!
# Lookup services

A lookup service is asked for one thing at a time: the id is the last segment of the URL, and the
answer is an envelope with the thing in it. An id with points alone names the collection itself
rather than a thing in it.

## Main definitions

* `LookupService`, `LookupService.ofAddress`.
* `LookupService.urlFor`: where a thing is asked for.
* `LookupService.interpret`: the thing, or why there is none.
-/

namespace Courier

open Json (Reader)

/-- A service that is asked for things by their ids. -/
structure LookupService where
  name : String
  base : Url
  deriving DecidableEq, Repr

namespace LookupService

/-- The address of a service is no URL that ids can be added to. -/
structure AddressError where
  service : String
  address : String
  reason : Url.Error
  deriving DecidableEq, Repr

/-- The words for an error. -/
def AddressError.text (e : AddressError) : String :=
  let named := e.service ++ " base URL '" ++ e.address ++ "'"
  match e.reason with
  | .noSegments => named ++ " " ++ e.reason.text
  | _ => "Invalid " ++ named ++ ": " ++ e.reason.text

/-- The service at an address. -/
def ofAddress (name address : String) : Except AddressError LookupService :=
  match Url.parse address.toList with
  | .ok base => .ok ⟨name, base⟩
  | .error reason => .error ⟨name, address, reason⟩

/-- The URL at which the thing with an id is asked for. -/
def urlFor (s : LookupService) (id : String) : Url :=
  s.base.child id.toList

/-- The request for the thing with an id. -/
def requestLine (s : LookupService) (id : String) : String :=
  (s.urlFor id).requestLine "GET"

/-- What a request has brought. The status is looked at before the body. -/
def interpret {α : Type} (s : LookupService) (read : Reader α) :
    Exchange → Except LookupError α
  | .silent => .error (.unreachable (s.name ++ " request timed out"))
  | .failed reason => .error (.unreachable (s.name ++ ": " ++ reason))
  | .answered status body =>
    if Exchange.isSuccess status then
      match body with
      | .ok bytes => Envelope.decodeData read bytes
      | .error reason => .error (.unreachable (s.name ++ ": " ++ reason))
    else .error (.status status)

/-- The name of the service that knows users. -/
def users : String := "user_service"

/-- The name of the service that knows templates. -/
def templates : String := "template_service"

/-- The user that a request has brought. -/
def interpretUser (s : LookupService) (e : Exchange) : Except LookupError Recipient :=
  (s.interpret Profile.read e).map Profile.recipient

/-- The template that a request has brought. -/
def interpretTemplate (s : LookupService) (e : Exchange) : Except LookupError Template :=
  s.interpret Template.read e

end LookupService

end Courier
