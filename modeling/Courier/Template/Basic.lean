import Courier.Json.Record

/-!
# Notification templates

What the template service stores for a kind of notification: the sources of a title and a body, a
link and an image. A document may leave any of them out or give null for it.

## Main definitions

* `Template`, `Template.read`, `Template.toJson`.
-/

namespace Courier

open Json (Reader Value)

/-- A notification's template. -/
structure Template where
  title : String := ""
  body : String := ""
  linkUrl : String := ""
  image : Option String := none
  deriving DecidableEq, Repr, Inhabited

namespace Template

/-- A template of which some entries have been read. -/
structure Draft where
  title : Option String := none
  body : Option String := none
  linkUrl : Option String := none
  image : Option (Option String) := none

/-- The entries that a document may have. -/
def fields : List (Json.Field Draft) :=
  [.entry "title" (·.title) (fun a d => { d with title := some a })
      (Reader.nullAsDefault "" Reader.string) true,
    .entry "body" (·.body) (fun a d => { d with body := some a })
      (Reader.nullAsDefault "" Reader.string) true,
    .entry "link_url" (·.linkUrl) (fun a d => { d with linkUrl := some a })
      (Reader.nullAsDefault "" Reader.string) true,
    .entry "image" (·.image) (fun a d => { d with image := some a })
      (Reader.optional Reader.string) true]

/-- Read a template; absent texts are empty. -/
def read : Reader Template :=
  Reader.record fields {} fun d =>
    .ok ⟨d.title.getD "", d.body.getD "", d.linkUrl.getD "", d.image.getD none⟩

/-- A template as JSON; an absent image is left out. -/
def toJson (t : Template) : Value :=
  .object <| [("title", .string t.title), ("body", .string t.body), ("link_url", .string t.linkUrl)]
    ++ Value.optionalMember "image" (t.image.map .string)

end Template

end Courier
