import Courier.Json.Reader
import Courier.Proofs.Json.Tokens
import Courier.Proofs.Text.Utf8

/-!
# The document of a printed value

The builder puts the tokens of a value together again, whatever containers it stands in. So a text
that was printed is seen as the very tree that it was printed from, with its end in sight.

## Main definitions

* `Value.document`: a value as a document.
* `resume`: what the builder does once a value is complete.
* `ofBytes_encode`: the document of the bytes of a printed value.
-/

namespace Courier.Json

namespace Value

mutual

/-- A value as a document. -/
def document : Value → Document
  | .null => .null
  | .bool b => .bool b
  | .number n => .number (some n)
  | .string s => .string (some s)
  | .array items => .array (itemsDocument items)
  | .object members => .object (membersDocument members)

/-- The items of an array as a chain. -/
def itemsDocument : List Value → Items
  | [] => .closed
  | v :: vs => .cons (document v) (itemsDocument vs)

/-- The members of an object as a chain. -/
def membersDocument : List (String × Value) → Members
  | [] => .closed
  | (name, v) :: members => .cons (some name) (document v) (membersDocument members)

end

end Value

/-- The builder goes on after a complete value. -/
def resume (d : Document) (outer : List Frame) (rest : List Token) : Document × List Token :=
  match place d outer with
  | .done d => (d, rest)
  | .more expected outer => build expected outer rest

@[simp] theorem resume_nil (d : Document) (rest : List Token) : resume d [] rest = (d, rest) := rfl

@[simp] theorem resume_items (d : Document) (before : List Document) (outer : List Frame)
    (rest : List Token) :
    resume d (.items before :: outer) rest = build (.nextItem (d :: before)) outer rest := rfl

@[simp] theorem resume_members (d : Document) (before : List (Option String × Document))
    (name : Option String) (outer : List Frame) (rest : List Token) :
    resume d (.members before name :: outer) rest =
      build (.nextMember ((name, d) :: before)) outer rest := rfl

/-- The first item of an array is read like any other value. -/
theorem build_firstItem (v : Value) (outer : List Frame) (rest : List Token) :
    build .firstItem outer (v.tokens ++ rest) =
      build .value (.items [] :: outer) (v.tokens ++ rest) := by
  cases v <;> (rw [Value.tokens]; rfl)

/-- A name, the colon after it, and then the value. -/
theorem build_name (mayEnd : Bool) (before : List (Option String × Document)) (name : String)
    (outer : List Frame) (rest : List Token) :
    build (.name mayEnd before) outer (.string (some name) :: .colon :: rest) =
      build .value (.members before (some name) :: outer) rest := by
  cases mayEnd <;> rfl

mutual

/-- The tokens of a value make its document, whatever it is a part of. -/
theorem build_tokens : ∀ (v : Value) (outer : List Frame) (rest : List Token),
    build .value outer (v.tokens ++ rest) = resume v.document outer rest
  | .null, _, _ => by rw [Value.tokens, Value.document]; rfl
  | .bool _, _, _ => by rw [Value.tokens, Value.document]; rfl
  | .number _, _, _ => by rw [Value.tokens, Value.document]; rfl
  | .string _, _, _ => by rw [Value.tokens, Value.document]; rfl
  | .array [], _, _ => by
    rw [Value.tokens, Value.document, Value.itemsTokens, Value.itemsDocument]; rfl
  | .array (v :: vs), outer, rest => by
    have hopen (rest : List Token) :
        build .value outer (.openArray :: rest) = build .firstItem outer rest := rfl
    rw [Value.tokens, Value.document, Value.itemsTokens, Value.itemsDocument]
    simp only [if_true, List.nil_append, List.cons_append, List.append_assoc]
    rw [hopen, build_firstItem, build_tokens v, resume_items, build_itemsTokens vs]
    rfl
  | .object [], _, _ => by
    rw [Value.tokens, Value.document, Value.membersTokens, Value.membersDocument]; rfl
  | .object ((name, v) :: members), outer, rest => by
    have hopen (rest : List Token) :
        build .value outer (.openObject :: rest) = build (.name true []) outer rest := rfl
    rw [Value.tokens, Value.document, Value.membersTokens, Value.membersDocument]
    simp only [if_true, List.nil_append, List.cons_append, List.append_assoc]
    rw [hopen, build_name, build_tokens v, resume_members, build_membersTokens members]
    rfl

/-- The items of an array after the first, up to its closing bracket. -/
theorem build_itemsTokens : ∀ (items : List Value) (before : List Document) (outer : List Frame)
    (rest : List Token),
    build (.nextItem before) outer (Value.itemsTokens false items ++ .closeArray :: rest) =
      resume (.array (Items.prepend before (Value.itemsDocument items))) outer rest
  | [], _, _, _ => by rw [Value.itemsTokens, Value.itemsDocument]; rfl
  | v :: vs, before, outer, rest => by
    have hcomma (rest : List Token) : build (.nextItem before) outer (.comma :: rest) =
        build .value (.items before :: outer) rest := rfl
    rw [Value.itemsTokens, Value.itemsDocument]
    simp only [Bool.false_eq_true, if_false, List.nil_append, List.cons_append, List.append_assoc]
    rw [hcomma, build_tokens v, resume_items, build_itemsTokens vs]
    rfl

/-- The members of an object after the first, up to its closing brace. -/
theorem build_membersTokens : ∀ (members : List (String × Value))
    (before : List (Option String × Document)) (outer : List Frame) (rest : List Token),
    build (.nextMember before) outer
        (Value.membersTokens false members ++ .closeObject :: rest) =
      resume (.object (Members.prepend before (Value.membersDocument members))) outer rest
  | [], _, _, _ => by rw [Value.membersTokens, Value.membersDocument]; rfl
  | (name, v) :: members, before, outer, rest => by
    have hcomma (rest : List Token) : build (.nextMember before) outer (.comma :: rest) =
        build (.name false before) outer rest := rfl
    rw [Value.membersTokens, Value.membersDocument]
    simp only [Bool.false_eq_true, if_false, List.nil_append, List.cons_append, List.append_assoc]
    rw [hcomma, build_name, build_tokens v, resume_members, build_membersTokens members]
    rfl

end

/-- A printed value is seen as the tree that it was printed from, and nothing after it. -/
theorem ofBytes_encode {v : Value} (exact : v.isExact) :
    Document.ofBytes (Text.Utf8.encode v.chars) = (v.document, true) := by
  have hbuild := build_tokens v [] []
  rw [List.append_nil, resume_nil] at hbuild
  rw [Document.ofBytes, Document.ofUnits, Text.Utf8.decode_encode, tokens_chars exact, hbuild]
  rfl

/-- A reader of a printed value is given its document. -/
theorem decode_encode {α : Type} (read : Reader α) {v : Value} (exact : v.isExact) :
    decode read (Text.Utf8.encode v.chars) = read depthLimit v.document := by
  have h := ofBytes_encode exact
  unfold Document.ofBytes at h
  rw [decode, decodeUnits, h]
  cases hread : read depthLimit v.document with
  | error fault => simp only [hread]; rfl
  | ok a => simp only [hread]; rfl

/-- A natural number is read as it was written, up to the bound. -/
theorem Reader.natural_document {bound n : Nat} (depth : Nat) (h : n ≤ bound) :
    natural bound depth (Value.nat n).document = .ok n := by
  rw [Value.nat, Value.document, natural, if_pos h]

end Courier.Json
