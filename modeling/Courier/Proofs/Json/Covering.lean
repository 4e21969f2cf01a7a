import Courier.Json.Record
import Mathlib.Data.List.Forall2

/-!
# Readers that cover each other

One text may be read in more than one way: to take its values in, or to see what else it says and
skip them. The second way accepts more, since what is skipped may nest at will and need not spell
anything; but it must not accept less. A reader covers another if it reads all that the other reads,
and reads it to the image of what the other reads it to.

Records cover each other field by field. The text is walked once for both, and their drafts go side
by side, so whatever one of them decides (which field a name is, whether it stands there twice,
which items an array may lack) the other decides alike.

## Main definitions

* `Reader.Covers`, `Field.Covers`: the second reader covers the first.
* `Reader.Covers.record`: records whose fields cover each other.
* `Reader.IsThorough`: what is read goes to its end, so that it can be skipped.
* `Reader.Covers.decode`: what covering says of texts.
-/

namespace Courier.Json

variable {α β δ ε : Type}

/-! ## Results -/

theorem exists_of_map_eq_ok {x : Except Fault α} {f : α → β} {b : β} (h : x.map f = .ok b) :
    ∃ a, x = .ok a ∧ f a = b := by
  cases x with
  | error fault => cases h
  | ok a => exact ⟨a, rfl, Except.ok.inj h⟩

theorem exists_of_bind_eq_ok {x : Except Fault α} {f : α → Except Fault β} {b : β}
    (h : (x >>= f) = .ok b) : ∃ a, x = .ok a ∧ f a = .ok b := by
  cases x with
  | error fault => cases h
  | ok a => exact ⟨a, rfl, h⟩

/-! ## Covering -/

/-- Whatever the first reader makes of a document, the second makes the image of it. -/
def Reader.Covers (f : α → β) (read : Reader α) (other : Reader β) : Prop :=
  ∀ ⦃depth : Nat⦄ ⦃d : Document⦄ ⦃a : α⦄, read depth d = .ok a → other depth d = .ok (f a)

/-- Two fields are told apart from others alike, and the reader of the second covers the reader of
the first. -/
structure Field.Covers (f : δ → ε) (field : Field δ) (other : Field ε) : Prop where
  name : other.name = field.name
  mayLack : other.mayLack = field.mayLack
  isSet : ∀ draft, other.isSet (f draft) = field.isSet draft
  read : ∀ draft, Reader.Covers f (field.read draft) (other.read (f draft))

theorem Field.Covers.entry {name : String} {f : δ → ε} {g : α → β} {get : δ → Option α}
    {set : α → δ → δ} {get' : ε → Option β} {set' : β → ε → ε} {read : Reader α} {other : Reader β}
    {mayLack : Bool} (hget : ∀ draft, get' (f draft) = (get draft).map g)
    (hset : ∀ a draft, set' (g a) (f draft) = f (set a draft))
    (hread : Reader.Covers g read other) :
    Field.Covers f (.entry name get set read mayLack) (.entry name get' set' other mayLack) where
  name := rfl
  mayLack := rfl
  isSet draft := by simp [Field.entry, hget]
  read draft := by
    intro depth d draft' h
    obtain ⟨a, ha, rfl⟩ := exists_of_map_eq_ok h
    simp only [Field.entry, hread ha, Except.map, hset]

namespace Reader

variable {f : δ → ε} {fields : List (Field δ)} {others : List (Field ε)}

theorem Covers.refl (read : Reader α) : Covers id read read := fun _ _ _ h => h

theorem Covers.optional {g : α → β} {read : Reader α} {other : Reader β}
    (h : Covers g read other) : Covers (Option.map g) (optional read) (optional other) := by
  intro depth d a hread
  cases d with
  | null =>
    obtain rfl : none = a := Except.ok.inj hread
    rfl
  | _ =>
    obtain ⟨b, hb, rfl⟩ := exists_of_map_eq_ok hread
    simp only [Reader.optional, h hb, Except.map, Option.map_some]

/-- A name that is no field to the one is none to the other. -/
theorem find?_eq_none_of_covers (h : List.Forall₂ (Field.Covers f) fields others) {name : String}
    (hfields : fields.find? (·.name == name) = none) : others.find? (·.name == name) = none := by
  induction h with
  | nil => rfl
  | @cons field other fields others hfield _ ih =>
    rw [List.find?_cons] at hfields ⊢
    rw [hfield.name]
    cases hname : field.name == name with
    | true => simp [hname] at hfields
    | false =>
      simp only [hname] at hfields
      exact ih hfields

/-- A name is the same field to both. -/
theorem exists_find?_of_covers (h : List.Forall₂ (Field.Covers f) fields others) {name : String}
    {field : Field δ} (hfields : fields.find? (·.name == name) = some field) :
    ∃ other, others.find? (·.name == name) = some other ∧ Field.Covers f field other := by
  induction h with
  | nil => cases hfields
  | @cons first other fields others hfirst _ ih =>
    rw [List.find?_cons] at hfields ⊢
    rw [hfirst.name]
    cases hname : first.name == name with
    | true =>
      simp only [hname, Option.some.injEq] at hfields
      exact ⟨other, rfl, hfields ▸ hfirst⟩
    | false =>
      simp only [hname] at hfields
      exact ih hfields

theorem fieldMembers_of_covers (h : List.Forall₂ (Field.Covers f) fields others) {depth : Nat} :
    ∀ (members : Members) {draft draft' : δ}, fieldMembers fields depth draft members = .ok draft' →
      fieldMembers others depth (f draft) members = .ok (f draft')
  | .closed, draft, draft', hread => by
    obtain rfl : draft = draft' := Except.ok.inj hread
    rfl
  | .cut _, _, _, hread => by cases hread
  | .cons none _ _, _, _, hread => by cases hread
  | .cons (some name) d tail, draft, draft', hread => by
    unfold fieldMembers at hread ⊢
    cases hfield : fields.find? (·.name == name) with
    | none =>
      rw [find?_eq_none_of_covers h hfield]
      cases hwhole : d.isWhole with
      | false => simp [hfield, hwhole] at hread
      | true =>
        simp only [hfield, hwhole, if_true] at hread ⊢
        exact fieldMembers_of_covers h tail hread
    | some field =>
      obtain ⟨other, hother, hcovers⟩ := exists_find?_of_covers h hfield
      simp only [hfield] at hread
      simp only [hother, hcovers.isSet]
      cases hset : field.isSet draft with
      | true => simp [hset] at hread
      | false =>
        simp only [hset, Bool.false_eq_true, if_false] at hread ⊢
        obtain ⟨next, hnext, hrest⟩ := exists_of_bind_eq_ok hread
        rw [hcovers.read draft hnext]
        exact fieldMembers_of_covers h tail hrest

/-- An array that has ended lacks the same fields for both. -/
theorem fieldItems_closed_of_covers (h : List.Forall₂ (Field.Covers f) fields others) {depth : Nat}
    {draft draft' : δ} (hread : fieldItems depth fields draft .closed = .ok draft') :
    fieldItems depth others (f draft) .closed = .ok (f draft') := by
  induction h with
  | nil =>
    obtain rfl : draft = draft' := Except.ok.inj hread
    rfl
  | @cons field other fields others hfield _ ih =>
    unfold fieldItems at hread ⊢
    rw [hfield.mayLack]
    cases hlack : field.mayLack with
    | false => simp [hlack] at hread
    | true =>
      simp only [hlack, if_true] at hread ⊢
      exact ih hread

theorem fieldItems_of_covers (h : List.Forall₂ (Field.Covers f) fields others) {depth : Nat}
    {items : Items} {draft draft' : δ} (hread : fieldItems depth fields draft items = .ok draft') :
    fieldItems depth others (f draft) items = .ok (f draft') := by
  induction h generalizing draft items with
  | nil =>
    cases items with
    | closed => exact fieldItems_closed_of_covers .nil hread
    | cut => cases hread
    | cons d tail => cases hread
  | @cons field other fields others hfield hfields ih =>
    cases items with
    | closed => exact fieldItems_closed_of_covers (.cons hfield hfields) hread
    | cut => cases hread
    | cons d tail =>
      unfold fieldItems at hread ⊢
      obtain ⟨next, hnext, hrest⟩ := exists_of_bind_eq_ok hread
      rw [hfield.read draft hnext]
      exact ih hrest

/-- A record covers another if its fields do, from one empty draft to the other. -/
theorem Covers.record {g : α → β} {empty : δ} {empty' : ε} {finish : δ → Except Fault α}
    {finish' : ε → Except Fault β} (hfields : List.Forall₂ (Field.Covers f) fields others)
    (hempty : f empty = empty')
    (hfinish : ∀ {draft a}, finish draft = .ok a → finish' (f draft) = .ok (g a)) :
    Covers g (record fields empty finish) (record others empty' finish') := by
  subst hempty
  intro depth d a hread
  cases depth with
  | zero => cases d <;> cases hread
  | succ depth =>
    cases d with
    | object members =>
      obtain ⟨draft, hdraft, hend⟩ := exists_of_bind_eq_ok hread
      have hother := fieldMembers_of_covers hfields members hdraft
      simp only [Reader.record, hother]
      exact hfinish hend
    | array items =>
      obtain ⟨draft, hdraft, hend⟩ := exists_of_bind_eq_ok hread
      have hother := fieldItems_of_covers hfields hdraft
      simp only [Reader.record, hother]
      exact hfinish hend
    | _ => cases hread

/-- What covering says of texts: the one value that the first reader finds, with nothing after it,
the second finds too. -/
theorem Covers.decode {g : α → β} {read : Reader α} {other : Reader β} (h : Covers g read other)
    {bytes : List UInt8} {a : α} (hread : Json.decode read bytes = .ok a) :
    Json.decode other bytes = .ok (g a) := by
  simp only [Json.decode, decodeUnits] at hread ⊢
  obtain ⟨b, hb, hend⟩ := exists_of_bind_eq_ok hread
  rw [h hb]
  split at hend
  · next atEnd =>
    obtain rfl : b = a := Except.ok.inj hend
    simp only [atEnd, if_true, bind, Except.bind]
  · cases hend

/-! ## What is read goes to its end -/

/-- The reader accepts no document that breaks off. -/
def IsThorough (read : Reader α) : Prop :=
  ∀ ⦃depth : Nat⦄ ⦃d : Document⦄ ⦃a : α⦄, read depth d = .ok a → d.isWhole

/-- What can be read can be skipped. -/
theorem IsThorough.covers_skip {read : Reader α} (h : IsThorough read) :
    Covers (fun _ => ()) read skip := by
  intro depth d a hread
  simp only [skip, h hread, if_true]

theorem isClosed_of_fieldMembers {depth : Nat} :
    ∀ (members : Members) {draft draft' : δ}, fieldMembers fields depth draft members = .ok draft' →
      members.isClosed
  | .closed, _, _, _ => rfl
  | .cut _, _, _, hread => by cases hread
  | .cons none _ _, _, _, hread => by cases hread
  | .cons (some name) d tail, draft, draft', hread => by
    unfold fieldMembers at hread
    split at hread
    · split at hread
      · exact isClosed_of_fieldMembers tail hread
      · cases hread
    · split at hread
      · cases hread
      · obtain ⟨next, -, hrest⟩ := exists_of_bind_eq_ok hread
        exact isClosed_of_fieldMembers tail hrest

theorem isClosed_of_fieldItems {depth : Nat} {items : Items} {draft draft' : δ}
    (hread : fieldItems depth fields draft items = .ok draft') : items.isClosed := by
  induction fields generalizing draft items with
  | nil =>
    cases items with
    | closed => rfl
    | cut => cases hread
    | cons d tail => cases hread
  | cons field fields ih =>
    cases items with
    | closed => rfl
    | cut => cases hread
    | cons d tail =>
      obtain ⟨next, -, hrest⟩ := exists_of_bind_eq_ok hread
      have htail : tail.isClosed = true := ih hrest
      exact htail

theorem IsThorough.record {empty : δ} {finish : δ → Except Fault α} :
    IsThorough (record fields empty finish) := by
  intro depth d a hread
  cases depth with
  | zero => cases d <;> cases hread
  | succ depth =>
    cases d with
    | object members =>
      obtain ⟨draft, hdraft, -⟩ := exists_of_bind_eq_ok hread
      exact isClosed_of_fieldMembers members hdraft
    | array items =>
      obtain ⟨draft, hdraft, -⟩ := exists_of_bind_eq_ok hread
      exact isClosed_of_fieldItems hdraft
    | _ => cases hread

theorem isClosed_of_valueItems {depth : Nat} :
    ∀ (items : Items) {vs : List Value}, valueItems depth items = .ok vs → items.isClosed
  | .closed, _, _ => rfl
  | .cut, _, hread => by cases hread
  | .cons d tail, _, hread => by
    obtain ⟨v, -, hrest⟩ := exists_of_bind_eq_ok hread
    obtain ⟨vs, hvs, -⟩ := exists_of_bind_eq_ok hrest
    exact isClosed_of_valueItems tail hvs

theorem isClosed_of_valueMembers {depth : Nat} :
    ∀ (members : Members) {before vs : List (String × Value)},
      valueMembers depth before members = .ok vs → members.isClosed
  | .closed, _, _, _ => rfl
  | .cut _, _, _, hread => by cases hread
  | .cons none _ _, _, _, hread => by cases hread
  | .cons (some name) d tail, _, _, hread => by
    obtain ⟨v, -, hrest⟩ := exists_of_bind_eq_ok hread
    exact isClosed_of_valueMembers tail hrest

theorem isThorough_value : IsThorough value := by
  intro depth d a hread
  cases d with
  | array items =>
    cases depth with
    | zero => cases hread
    | succ depth =>
      obtain ⟨vs, hvs, -⟩ := exists_of_map_eq_ok hread
      exact isClosed_of_valueItems items hvs
  | object members =>
    cases depth with
    | zero => cases hread
    | succ depth =>
      obtain ⟨vs, hvs, -⟩ := exists_of_map_eq_ok hread
      exact isClosed_of_valueMembers members hvs
  | broken => cases depth <;> cases hread
  | _ => rfl

end Reader

end Courier.Json
