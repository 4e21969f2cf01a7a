import Courier.Json.Reader

/-!
# Records

A record is an object with fields that are known by name. It may also be written as an array of its
fields in their order. Members that are no field are skipped; a field that stands there twice is a
fault at its second name, before its second value is looked at; and which fields are absent is asked
at the closing brace, in their order.

A reader fills a draft, a structure with one optional entry for each field, and turns the draft into
the record at the end.

## Main definitions

* `Field`: one field of a draft.
* `record`: the reader of a record.
* `require`: the entry of a field that must be there.
-/

namespace Courier.Json

/-- One field of a record whose draft is a `δ`. -/
structure Field (δ : Type) where
  /-- The name in an object. -/
  name : String
  /-- The draft already has the field. -/
  isSet : δ → Bool
  /-- Read the field into the draft. -/
  read : δ → Reader δ
  /-- An array may end before the field. -/
  mayLack : Bool

/-- A field that is an entry of the draft. -/
def Field.entry {δ α : Type} (name : String) (get : δ → Option α) (set : α → δ → δ)
    (read : Reader α) (mayLack : Bool := false) : Field δ where
  name := name
  isSet draft := (get draft).isSome
  read draft := fun depth d => (read depth d).map fun a => set a draft
  mayLack := mayLack

namespace Reader

variable {δ α : Type}

/-- Read members into a draft. -/
def fieldMembers (fields : List (Field δ)) (depth : Nat) : δ → Members → Except Fault δ
  | draft, .closed => .ok draft
  | _, .cut _ => .error .malformed
  | _, .cons none _ _ => .error .malformed
  | draft, .cons (some name) d tail =>
    match fields.find? (·.name == name) with
    | none => if d.isWhole then fieldMembers fields depth draft tail else .error .malformed
    | some field =>
      if field.isSet draft then .error (.duplicateField name)
      else do fieldMembers fields depth (← field.read draft depth d) tail

/-- Read items into a draft, one for each field. -/
def fieldItems (depth : Nat) : List (Field δ) → δ → Items → Except Fault δ
  | [], draft, .closed => .ok draft
  | [], _, _ => .error .malformed
  | field :: fields, draft, .cons d tail => do
    fieldItems depth fields (← field.read draft depth d) tail
  | _ :: _, _, .cut => .error .malformed
  | field :: fields, draft, .closed =>
    if field.mayLack then fieldItems depth fields draft .closed else .error .invalidLength

/-- A record with the given fields, from an empty draft to the finished record. -/
def record (fields : List (Field δ)) (empty : δ) (finish : δ → Except Fault α) : Reader α
  | depth + 1, .object members => do finish (← fieldMembers fields depth empty members)
  | depth + 1, .array items => do finish (← fieldItems depth fields empty items)
  | 0, .object _ | 0, .array _ => .error .malformed
  | _, d => .error (mismatch d)

end Reader

/-- The entry of a field that must be there. -/
def require {α : Type} (name : String) : Option α → Except Fault α
  | some a => .ok a
  | none => .error (.missingField name)

end Courier.Json
