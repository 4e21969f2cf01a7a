import Courier.Json.Record
import Courier.Text.Blank

/-!
# Users

What the user service knows of a user, as far as a push notification needs it. A user without a
push token is no error: there is nowhere to deliver to, and trying again does not change that.

## Main definitions

* `Profile`, `Profile.read`, `Profile.toJson`.
* `Recipient`, `Profile.recipient`: where to deliver to.
-/

namespace Courier

open Json (Reader Value)

/-- A user. -/
structure Profile where
  pushToken : String := ""
  language : String := ""
  isActive : Bool := false
  deriving DecidableEq, Repr, Inhabited

namespace Profile

/-- A profile of which some entries have been read. -/
structure Draft where
  pushToken : Option String := none
  language : Option String := none
  isActive : Option Bool := none

/-- The entries that a document may have. -/
def fields : List (Json.Field Draft) :=
  [.entry "push_token" (·.pushToken) (fun a d => { d with pushToken := some a })
      (Reader.nullAsDefault "" Reader.string) true,
    .entry "language" (·.language) (fun a d => { d with language := some a })
      (Reader.nullAsDefault "" Reader.string) true,
    .entry "is_active" (·.isActive) (fun a d => { d with isActive := some a })
      (Reader.nullAsDefault false Reader.bool) true]

/-- Read a profile; what is absent is empty or false. -/
def read : Reader Profile :=
  Reader.record fields {} fun d =>
    .ok ⟨d.pushToken.getD "", d.language.getD "", d.isActive.getD false⟩

/-- A profile as JSON. -/
def toJson (p : Profile) : Value :=
  .object [("push_token", .string p.pushToken), ("language", .string p.language),
    ("is_active", .bool p.isActive)]

/-- There is somewhere to deliver to. -/
def hasEndpoint (p : Profile) : Bool :=
  ¬ Text.IsBlank p.pushToken

end Profile

/-- The answer to the question whom to deliver to. -/
inductive Recipient where
  /-- This user, who has a push token. -/
  | deliverable (profile : Profile)
  /-- Nobody. -/
  | noEndpoint
  deriving DecidableEq, Repr

/-- A user with a push token can be delivered to. -/
def Profile.recipient (p : Profile) : Recipient :=
  if p.hasEndpoint then .deliverable p else .noEndpoint

end Courier
