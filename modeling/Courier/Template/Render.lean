import Courier.Template.Basic
import Courier.Template.Parser
import Courier.Text.Entries

/-!
# Rendering

A template is rendered by putting the job's variables in the place of its references, as they are
and without any escaping. A variable that the job does not give renders as nothing and is noted.

## Main definitions

* `renderSource`: a source's text and the variables that it misses.
* `Template.render`: title and body, with the variables that each of them misses.
-/

namespace Courier

namespace Template

/-- The two parts of a template that are rendered. -/
inductive Part where
  | title
  | body
  deriving DecidableEq, Repr

/-- The name of a part. -/
def Part.name : Part → String
  | title => "title"
  | body => "body"

/-- A part whose source is no template. -/
structure RenderError where
  part : Part
  reason : SyntaxError
  deriving DecidableEq, Repr

/-- The words for a part that fails for a reason. -/
def Part.failureText (part : Part) (reason : String) : String :=
  "Failed to parse " ++ part.name ++ " template: " ++ reason

/-- The words for an error. -/
def RenderError.text (e : RenderError) : String :=
  e.part.failureText e.reason.text

/-- A text, and the names of the variables that were missing for it, as they occur. -/
structure Rendering where
  text : List Char
  missing : List (List Char)
  deriving DecidableEq, Repr

/-- Two renderings, one after the other. -/
def Rendering.append (r s : Rendering) : Rendering :=
  ⟨r.text ++ s.text, r.missing ++ s.missing⟩

/-- The rendering of one segment. -/
def Segment.render (values : Dictionary) : Segment → Rendering
  | .text cs => ⟨cs, []⟩
  | .reference name =>
    match values.get? (String.ofList name) with
    | some value => ⟨value.toList, []⟩
    | none => ⟨[], [name]⟩

/-- The rendering of segments, in their order. -/
def renderSegments (values : Dictionary) (segments : List Segment) : Rendering :=
  segments.foldr (fun s r => (s.render values).append r) ⟨[], []⟩

/-- The rendering of a source. -/
def renderSource (values : Dictionary) (source : String) : Except SyntaxError Rendering :=
  (parse source).map (renderSegments values)

/-- A title and a body. -/
structure Rendered where
  title : String
  body : String
  deriving DecidableEq, Repr

/-- A variable that a part misses. -/
structure Missing where
  part : Part
  name : String
  deriving DecidableEq, Repr

/-- Render one part of a template. -/
def renderPart (values : Dictionary) (part : Part) (source : String) :
    List Missing × Except RenderError String :=
  match renderSource values source with
  | .ok r => (r.missing.map fun name => ⟨part, String.ofList name⟩, .ok (String.ofList r.text))
  | .error reason => ([], .error ⟨part, reason⟩)

/-- Render the title and then the body. What the title misses is known even if the body fails. -/
def render (t : Template) (values : Dictionary) :
    List Missing × Except RenderError Rendered :=
  match renderPart values .title t.title with
  | (missing, .error e) => (missing, .error e)
  | (missing, .ok title) =>
    match renderPart values .body t.body with
    | (more, .error e) => (missing ++ more, .error e)
    | (more, .ok body) => (missing ++ more, .ok ⟨title, body⟩)

end Template

end Courier
