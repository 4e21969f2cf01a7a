import Courier.Proofs.Json.Covering
import Mathlib.Data.List.Nodup

/-!
# What a record is read from

A record has a part for each of its fields, found by name in an object and by position in an array.
A field takes its value from its part and from nothing else, and may be absent. Where null is a
value that comes to the same as an absent part, an object may as well have a null member as none;
and wherever the null stands among the members, the others are read as they are without it.

Both are said of the fields of a draft: which of its entries a field fills, and that the other
fields leave it alone.

## Main definitions

* `Members.member?`, `Items.part?`, `Document.part?`: the part of a field.
* `Members.AddsNull`: the same members, with a null member more.
* `Field.NullIsAbsent`, `Field.NullIsAbsent.record_addsNull`: null comes to the same as no member.
* `Members.Differ`, `Reader.fieldMembers_differ`: the same members but for one value.
* `Field.IsEntry`, `Field.IsEntry.exists_of_record`: a value and the part that it is read from.
-/

namespace Courier.Json

variable {α β δ : Type}

/-- What is read of a text is read of its document. -/
theorem read_of_decode {read : Reader α} {bytes : List UInt8} {a : α}
    (h : decode read bytes = .ok a) : read depthLimit (Document.ofBytes bytes).1 = .ok a := by
  obtain ⟨b, hread, hend⟩ := exists_of_bind_eq_ok h
  split at hend
  · obtain rfl := Except.ok.inj hend
    exact hread
  · cases hend

/-- Texts whose documents are read alike are read alike, if both end with their documents or both
do not. -/
theorem decode_congr {read : Reader α} {bytes bytes' : List UInt8}
    (same : ∀ depth, read depth (Document.ofBytes bytes').1 = read depth (Document.ofBytes bytes).1)
    (atEnd : (Document.ofBytes bytes').2 = (Document.ofBytes bytes).2) :
    decode read bytes' = decode read bytes := by
  have hsame := same depthLimit
  simp only [Document.ofBytes] at hsame atEnd
  simp only [decode, decodeUnits, hsame, atEnd]

/-! ## Parts -/

/-- The first member of a name. -/
def Members.member? (name : String) : Members → Option Document
  | .cons (some other) d tail => if other = name then some d else tail.member? name
  | .cons none _ tail => tail.member? name
  | .closed | .cut _ => none

/-- The item at the position that a name has among others. -/
def Items.part? (name : String) : List String → Items → Option Document
  | other :: names, .cons d tail => if other = name then some d else tail.part? name names
  | _, _ => none

/-- The part of a record for one of its names: a member by that name, or the item at its place. -/
def Document.part? (names : List String) (name : String) : Document → Option Document
  | .object members => members.member? name
  | .array items => items.part? name names
  | _ => none

theorem Members.member?_cons_eq_none {name other : String} {d : Document} {tail : Members} :
    (Members.cons (some other) d tail).member? name = none ↔
      other ≠ name ∧ tail.member? name = none := by
  rw [Members.member?]
  split <;> simp [*]

@[simp] theorem Items.part?_closed (name : String) (names : List String) :
    Items.part? name names .closed = none := by
  cases names <;> rfl

/-- The second members are the first with a null member of the name put in somewhere. -/
inductive Members.AddsNull (name : String) : Members → Members → Prop where
  | here (rest : Members) : AddsNull name rest (.cons (some name) .null rest)
  | there (other : Option String) (d : Document) {rest rest' : Members}
      (tail : AddsNull name rest rest') : AddsNull name (.cons other d rest) (.cons other d rest')

theorem Members.AddsNull.isClosed {name : String} {members members' : Members}
    (h : Members.AddsNull name members members') : members'.isClosed = members.isClosed := by
  induction h with
  | here rest => rfl
  | there other d tail ih => exact ih

/-! ## Fields beside each other -/

/-- Reading the field does not change an entry of the draft. -/
def Field.Keeps (field : Field δ) (get : δ → Option β) : Prop :=
  ∀ ⦃draft depth d next⦄, field.read draft depth d = .ok next → get next = get draft

/-- Reading the field does not hang on whether the draft has been cleared in some entry. -/
structure Field.Ignores (field : Field δ) (clear : δ → δ) : Prop where
  isSet : ∀ draft, field.isSet (clear draft) = field.isSet draft
  read : ∀ draft depth d,
    field.read (clear draft) depth d = (field.read draft depth d).map clear

/-- The field has nothing to do with an entry of the draft. -/
structure Field.IsBeside (field : Field δ) (get : δ → Option β) (clear : δ → δ) : Prop where
  ignores : field.Ignores clear
  keeps : field.Keeps get

section Entry

variable {name : String} {get : δ → Option α} {get' : δ → Option β} {set : α → δ → δ}
  {read : Reader α} {mayLack : Bool}

theorem Field.Keeps.entry (h : ∀ a draft, get' (set a draft) = get' draft) :
    (Field.entry name get set read mayLack).Keeps get' := by
  intro draft depth d next hread
  obtain ⟨a, -, rfl⟩ := exists_of_map_eq_ok hread
  exact h a draft

theorem Field.IsBeside.entry {clear : δ → δ} (hget : ∀ draft, get (clear draft) = get draft)
    (hset : ∀ a draft, set a (clear draft) = clear (set a draft))
    (hkeep : ∀ a draft, get' (set a draft) = get' draft) :
    (Field.entry name get set read mayLack).IsBeside get' clear where
  ignores := {
    isSet := fun draft => congrArg Option.isSome (hget draft)
    read := fun draft depth d => by
      simp only [Field.entry, hset]
      cases read depth d <;> rfl }
  keeps := .entry hkeep

end Entry

/-! ## Null and absent -/

theorem Field.of_find? {fields : List (Field δ)} {field : Field δ} {name : String}
    (h : fields.find? (·.name == name) = some field) : field ∈ fields ∧ field.name = name := by
  have hname := List.find?_some h
  exact ⟨List.mem_of_find?_eq_some h, eq_of_beq hname⟩

/-- What reading null does to a draft, `clear`, comes to the same as leaving the field out, and
reading the other fields neither hangs on it nor touches the field. -/
structure Field.NullIsAbsent (fields : List (Field δ)) (finish : δ → Except Fault α)
    (field : Field δ) (clear : δ → δ) : Prop where
  find : fields.find? (·.name == field.name) = some field
  null : ∀ draft depth, field.read draft depth .null = .ok (clear draft)
  finish : ∀ draft, field.isSet draft = false → finish (clear draft) = finish draft
  ignores : ∀ other ∈ fields, other.name ≠ field.name → other.Ignores clear
  unset : ∀ other ∈ fields, other.name ≠ field.name →
    ∀ ⦃draft depth d next⦄, other.read draft depth d = .ok next →
      field.isSet next = field.isSet draft

namespace Field.NullIsAbsent

variable {fields : List (Field δ)} {finish : δ → Except Fault α} {field : Field δ} {clear : δ → δ}

/-- An entry of the draft, beside fields that ignore it. -/
theorem entry {name : String} {get : δ → Option β} {set : β → δ → δ} {read : Reader β}
    {mayLack : Bool} {b : β}
    (find : fields.find? (·.name == name) = some (.entry name get set read mayLack))
    (null : ∀ depth, read depth .null = .ok b)
    (finish_set : ∀ draft, get draft = none → finish (set b draft) = finish draft)
    (others : ∀ other ∈ fields, other.name = name ∨ other.IsBeside get (set b)) :
    NullIsAbsent fields finish (.entry name get set read mayLack) (set b) where
  find := find
  null draft depth := by simp only [Field.entry, null, Except.map]
  finish draft unset := by
    have hget : (get draft).isSome = false := unset
    exact finish_set draft (by rwa [Option.isSome_eq_false_iff, Option.isNone_iff_eq_none] at hget)
  ignores other hmem hname := ((others other hmem).resolve_left hname).ignores
  unset other hmem hname _ _ _ _ hread :=
    congrArg Option.isSome (((others other hmem).resolve_left hname).keeps hread)

/-- Clearing the field beforehand clears it in what is read, if no member is of its name. -/
theorem fieldMembers_clear (h : NullIsAbsent fields finish field clear) {depth : Nat} :
    ∀ (members : Members) (draft : δ), members.member? field.name = none →
      Reader.fieldMembers fields depth (clear draft) members =
        (Reader.fieldMembers fields depth draft members).map clear
  | .closed, _, _ => rfl
  | .cut _, _, _ => rfl
  | .cons none _ _, _, _ => rfl
  | .cons (some name) d tail, draft, absent => by
    obtain ⟨hname, habsent⟩ := Members.member?_cons_eq_none.1 absent
    unfold Reader.fieldMembers
    cases hother : fields.find? (·.name == name) with
    | none =>
      cases hwhole : d.isWhole with
      | false => rfl
      | true => exact fieldMembers_clear h tail draft habsent
    | some other =>
      obtain ⟨hmem, rfl⟩ := Field.of_find? hother
      simp only [(h.ignores other hmem hname).isSet, (h.ignores other hmem hname).read]
      cases hset : other.isSet draft with
      | true => rfl
      | false =>
        cases hread : other.read draft depth d with
        | error fault => rfl
        | ok next => exact fieldMembers_clear h tail next habsent

/-- The field stays unset where no member is of its name. -/
theorem isSet_of_fieldMembers (h : NullIsAbsent fields finish field clear) {depth : Nat} :
    ∀ (members : Members) {draft next : δ}, members.member? field.name = none →
      Reader.fieldMembers fields depth draft members = .ok next →
        field.isSet next = field.isSet draft
  | .closed, draft, next, _, hread => by
    obtain rfl : draft = next := Except.ok.inj hread
    rfl
  | .cut _, _, _, _, hread => by cases hread
  | .cons none _ _, _, _, _, hread => by cases hread
  | .cons (some name) d tail, draft, next, absent, hread => by
    obtain ⟨hname, habsent⟩ := Members.member?_cons_eq_none.1 absent
    unfold Reader.fieldMembers at hread
    split at hread
    · split at hread
      · exact isSet_of_fieldMembers h tail habsent hread
      · cases hread
    · next other hother =>
      obtain ⟨hmem, rfl⟩ := Field.of_find? hother
      split at hread
      · cases hread
      · obtain ⟨after, hafter, hrest⟩ := exists_of_bind_eq_ok hread
        rw [isSet_of_fieldMembers h tail habsent hrest, h.unset other hmem hname hafter]

/-- A null member clears the field, wherever it stands. -/
theorem fieldMembers_addsNull (h : NullIsAbsent fields finish field clear) {depth : Nat}
    {members members' : Members} (adds : Members.AddsNull field.name members members')
    {draft : δ} (unset : field.isSet draft = false) (absent : members.member? field.name = none) :
    Reader.fieldMembers fields depth draft members' =
      (Reader.fieldMembers fields depth draft members).map clear := by
  induction adds generalizing draft with
  | here rest =>
    rw [← h.fieldMembers_clear rest draft absent]
    simp only [Reader.fieldMembers, h.find, unset, h.null]
    rfl
  | @there other d rest rest' tail ih =>
    cases other with
    | none => rfl
    | some name =>
      obtain ⟨hname, habsent⟩ := Members.member?_cons_eq_none.1 absent
      unfold Reader.fieldMembers
      cases hother : fields.find? (·.name == name) with
      | none =>
        cases hwhole : d.isWhole with
        | false => rfl
        | true => exact ih unset habsent
      | some other =>
        obtain ⟨hmem, rfl⟩ := Field.of_find? hother
        cases hset : other.isSet draft with
        | true => simp only [hset]; rfl
        | false =>
          simp only [hset]
          cases hread : other.read draft depth d with
          | error fault => rfl
          | ok next =>
            refine ih ?_ habsent
            rw [h.unset other hmem hname hread, unset]

/-- **Null and absent come to the same.** -/
theorem record_addsNull (h : NullIsAbsent fields finish field clear) {empty : δ}
    (unset : field.isSet empty = false) {members members' : Members}
    (adds : Members.AddsNull field.name members members')
    (absent : members.member? field.name = none) (depth : Nat) :
    Reader.record fields empty finish depth (.object members') =
      Reader.record fields empty finish depth (.object members) := by
  cases depth with
  | zero => rfl
  | succ depth =>
    simp only [Reader.record, h.fieldMembers_addsNull adds unset absent]
    cases hread : Reader.fieldMembers fields depth empty members with
    | error fault => rfl
    | ok next =>
      have hnext := (h.isSet_of_fieldMembers members absent hread).trans unset
      exact h.finish next hnext

end Field.NullIsAbsent

/-! ## One value changed -/

/-- The members are the same but for one of the name, which is `d` in one and `d'` in the other. -/
inductive Members.Differ (name : String) (d d' : Document) : Members → Members → Prop where
  | here (rest : Members) : Differ name d d' (.cons (some name) d rest) (.cons (some name) d' rest)
  | there (other : Option String) (e : Document) {rest rest' : Members}
      (tail : Differ name d d' rest rest') :
      Differ name d d' (.cons other e rest) (.cons other e rest')

/-- A field that reads the one value as it reads the other does not tell the members apart. -/
theorem Reader.fieldMembers_differ {fields : List (Field δ)} {field : Field δ} {name : String}
    {d d' : Document} {depth : Nat} (find : fields.find? (·.name == name) = some field)
    (same : ∀ draft, field.read draft depth d' = field.read draft depth d)
    {members members' : Members} (differ : Members.Differ name d d' members members') (draft : δ) :
    fieldMembers fields depth draft members' = fieldMembers fields depth draft members := by
  induction differ generalizing draft with
  | here rest => simp only [fieldMembers, find, same]
  | there other e tail ih =>
    cases other with
    | none => rfl
    | some name => simp only [fieldMembers, ih]

/-! ## A value and its part -/

/-- A field fills an entry of the draft with what is read of its part, and the other fields leave
the entry alone. -/
structure Field.IsEntry (fields : List (Field δ)) (field : Field δ) (get : δ → Option β)
    (read : Reader β) : Prop where
  find : fields.find? (·.name == field.name) = some field
  once : (fields.map (·.name)).Nodup
  isSet : ∀ draft, field.isSet draft = (get draft).isSome
  read : ∀ {draft depth d next}, field.read draft depth d = .ok next →
    ∃ b, read depth d = .ok b ∧ get next = some b
  keeps : ∀ other ∈ fields, other.name ≠ field.name → other.Keeps get

namespace Field.IsEntry

variable {fields others : List (Field δ)} {field : Field δ} {get : δ → Option β}
  {read : Reader β} {depth : Nat}

/-- An entry of the draft, beside fields that keep it. -/
theorem entry {name : String} {set : β → δ → δ} {mayLack : Bool}
    (find : fields.find? (·.name == name) = some (.entry name get set read mayLack))
    (once : (fields.map (·.name)).Nodup) (get_set : ∀ b draft, get (set b draft) = some b)
    (others : ∀ other ∈ fields, other.name = name ∨ other.Keeps get) :
    IsEntry fields (.entry name get set read mayLack) get read where
  find := find
  once := once
  isSet _ := rfl
  read hread := by
    obtain ⟨b, hb, rfl⟩ := exists_of_map_eq_ok hread
    exact ⟨b, hb, get_set b _⟩
  keeps other hmem hname := (others other hmem).resolve_left hname

theorem eq_of_find? (h : IsEntry fields field get read) {name : String} {other : Field δ}
    (hother : fields.find? (·.name == name) = some other) (hname : name = field.name) :
    other = field := by
  rw [hname, h.find] at hother
  exact (Option.some.inj hother).symm

theorem eq_of_mem (h : IsEntry fields field get read) {other : Field δ} (hmem : other ∈ fields)
    (hname : other.name = field.name) : other = field :=
  List.inj_on_of_nodup_map h.once hmem (List.mem_of_find?_eq_some h.find) hname

/-- What is set stays as it is. -/
theorem get_of_fieldMembers (h : IsEntry fields field get read) :
    ∀ (members : Members) {draft next : δ}, (get draft).isSome →
      Reader.fieldMembers fields depth draft members = .ok next → get next = get draft
  | .closed, draft, next, _, hread => by
    obtain rfl : draft = next := Except.ok.inj hread
    rfl
  | .cut _, _, _, _, hread => by cases hread
  | .cons none _ _, _, _, _, hread => by cases hread
  | .cons (some name) d tail, draft, next, isSet, hread => by
    unfold Reader.fieldMembers at hread
    split at hread
    · split at hread
      · exact get_of_fieldMembers h tail isSet hread
      · cases hread
    · next other hother =>
      by_cases hname : name = field.name
      · obtain rfl := h.eq_of_find? hother hname
        rw [h.isSet, isSet] at hread
        cases hread
      · obtain ⟨hmem, rfl⟩ := Field.of_find? hother
        split at hread
        · cases hread
        · obtain ⟨after, hafter, hrest⟩ := exists_of_bind_eq_ok hread
          have hkept := h.keeps other hmem hname hafter
          rw [get_of_fieldMembers h tail (by rwa [hkept]) hrest, hkept]

/-- What is not set yet is read of the member of the field. -/
theorem rel_of_fieldMembers (h : IsEntry fields field get read) :
    ∀ (members : Members) {draft next : δ}, get draft = none →
      Reader.fieldMembers fields depth draft members = .ok next →
        Option.Rel (fun d b => read depth d = .ok b) (members.member? field.name) (get next)
  | .closed, draft, next, unset, hread => by
    obtain rfl : draft = next := Except.ok.inj hread
    rw [unset]
    exact .none
  | .cut _, _, _, _, hread => by cases hread
  | .cons none _ _, _, _, _, hread => by cases hread
  | .cons (some name) d tail, draft, next, unset, hread => by
    unfold Reader.fieldMembers at hread
    rw [Members.member?]
    split at hread
    · next hnone =>
      have hname : name ≠ field.name := by
        rintro rfl
        rw [h.find] at hnone
        cases hnone
      rw [if_neg hname]
      split at hread
      · exact rel_of_fieldMembers h tail unset hread
      · cases hread
    · next other hother =>
      split at hread
      · cases hread
      · obtain ⟨after, hafter, hrest⟩ := exists_of_bind_eq_ok hread
        by_cases hname : name = field.name
        · obtain rfl := h.eq_of_find? hother hname
          obtain ⟨b, hb, hget⟩ := h.read hafter
          rw [if_pos hname, h.get_of_fieldMembers tail (by rw [hget]; rfl) hrest, hget]
          exact .some hb
        · obtain ⟨hmem, rfl⟩ := Field.of_find? hother
          rw [if_neg hname]
          exact rel_of_fieldMembers h tail ((h.keeps other hmem hname hafter).trans unset) hrest

/-- Items of other fields leave the entry alone. -/
theorem get_of_fieldItems (h : IsEntry fields field get read) {draft next : δ} {items : Items}
    (sub : ∀ other ∈ others, other ∈ fields ∧ other.name ≠ field.name)
    (hread : Reader.fieldItems depth others draft items = .ok next) : get next = get draft := by
  induction others generalizing draft items with
  | nil =>
    cases items with
    | closed =>
      obtain rfl : draft = next := Except.ok.inj hread
      rfl
    | cut => cases hread
    | cons d tail => cases hread
  | cons other others ih =>
    have hothers := (List.forall_mem_cons.1 sub).2
    obtain ⟨hmem, hname⟩ := sub other List.mem_cons_self
    cases items with
    | closed =>
      unfold Reader.fieldItems at hread
      split at hread
      · exact ih hothers hread
      · cases hread
    | cut => cases hread
    | cons d tail =>
      obtain ⟨after, hafter, hrest⟩ := exists_of_bind_eq_ok hread
      exact (ih hothers hrest).trans (h.keeps other hmem hname hafter)

/-- What is not set yet is read of the item at the place of the field. -/
theorem rel_of_fieldItems (h : IsEntry fields field get read) {draft next : δ} {items : Items}
    (sub : ∀ other ∈ others, other ∈ fields) (once : (others.map (·.name)).Nodup)
    (unset : get draft = none) (hread : Reader.fieldItems depth others draft items = .ok next) :
    Option.Rel (fun d b => read depth d = .ok b)
      (items.part? field.name (others.map (·.name))) (get next) := by
  induction others generalizing draft items with
  | nil =>
    cases items with
    | closed =>
      obtain rfl : draft = next := Except.ok.inj hread
      rw [unset]
      exact .none
    | cut => cases hread
    | cons d tail => cases hread
  | cons other others ih =>
    obtain ⟨hmem, hothers⟩ := List.forall_mem_cons.1 sub
    obtain ⟨hfirst, hrest⟩ := List.nodup_cons.1 once
    cases items with
    | closed =>
      unfold Reader.fieldItems at hread
      split at hread
      · have hrel := ih hothers hrest unset hread
        rwa [Items.part?_closed] at hrel ⊢
      · cases hread
    | cut => cases hread
    | cons d tail =>
      obtain ⟨after, hafter, hend⟩ := exists_of_bind_eq_ok hread
      rw [List.map_cons, Items.part?]
      by_cases hname : other.name = field.name
      · obtain rfl := h.eq_of_mem hmem hname
        obtain ⟨b, hb, hget⟩ := h.read hafter
        have hkept := h.get_of_fieldItems (fun o ho => ⟨hothers o ho, fun hsame =>
          hfirst (List.mem_map.2 ⟨o, ho, hsame⟩)⟩) hend
        rw [if_pos rfl, hkept, hget]
        exact .some hb
      · rw [if_neg hname]
        exact ih hothers hrest ((h.keeps other hmem hname hafter).trans unset) hend

/-- **A value is read of its part alone**, and is absent just when the part is. -/
theorem exists_of_record (h : IsEntry fields field get read) {empty : δ}
    {finish : δ → Except Fault α} (unset : get empty = none) {d : Document} {a : α}
    (hread : Reader.record fields empty finish depth d = .ok a) :
    ∃ inner draft, depth = inner + 1 ∧ finish draft = .ok a ∧
      Option.Rel (fun part b => read inner part = .ok b)
        (d.part? (fields.map (·.name)) field.name) (get draft) := by
  cases depth with
  | zero => cases d <;> cases hread
  | succ inner =>
    cases d with
    | object members =>
      obtain ⟨draft, hdraft, hend⟩ := exists_of_bind_eq_ok hread
      exact ⟨inner, draft, rfl, hend, h.rel_of_fieldMembers members unset hdraft⟩
    | array items =>
      obtain ⟨draft, hdraft, hend⟩ := exists_of_bind_eq_ok hread
      exact ⟨inner, draft, rfl, hend,
        h.rel_of_fieldItems (fun _ hmem => hmem) h.once unset hdraft⟩
    | _ => cases hread

end Field.IsEntry

end Courier.Json
