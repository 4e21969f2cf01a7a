import Courier.Proofs.Json.Documents
import Courier.Proofs.Json.Parts

/-!
# Numbers in range

Whatever the bytes of a text are, the integers that are seen in it fit into 64 bits: the machine
gives out no other number, and the builder makes none of its own. Doubles are not bounded here.

## Main definitions

* `Number.IsInRange`, `Token.IsInRange`, `Document.IsInRange`.
* `Document.isInRange_ofBytes`.
-/

namespace Courier.Json

/-- An integer of 64 bits, or a double. -/
def Number.IsInRange : Number → Prop
  | .natural n => n < UInt64.size
  | .negative n => 0 < n ∧ n ≤ UInt64.size / 2
  | .double _ => True

/-! ## Tokens -/

/-- The token is no number out of range. -/
def Token.IsInRange : Token → Prop
  | .number (some n) => n.IsInRange
  | _ => True

/-- No token that the machine is in the midst of is a number out of range. -/
def State.IsInRange : State → Prop
  | .word _ token => token.IsInRange
  | _ => True

theorem NumberText.isInRange_value? (text : NumberText) : (Token.number text.value?).IsInRange := by
  unfold NumberText.value?
  have hdouble : (Token.number (text.double?.map .double)).IsInRange := by
    cases text.double? <;> trivial
  split
  · simp only
    split
    · next h => exact h.2
    · split
      · next h => exact h.2
      · exact hdouble
  · exact hdouble

/-- What a step gives out, and where it leads. -/
def AreInRange (result : List Token × State) : Prop :=
  (∀ token ∈ result.1, token.IsInRange) ∧ result.2.IsInRange

@[simp] theorem areInRange_nil {state : State} : AreInRange ([], state) ↔ state.IsInRange := by
  simp [AreInRange]

@[simp] theorem areInRange_cons {token : Token} {tokens : List Token} {state : State} :
    AreInRange (token :: tokens, state) ↔ token.IsInRange ∧ AreInRange (tokens, state) := by
  simp [AreInRange, and_assoc]

theorem areInRange_stop : AreInRange stop := by
  simp [stop, Token.IsInRange, State.IsInRange]

theorem areInRange_begin (unit : Option Char) : AreInRange (begin unit) := by
  unfold begin
  split
  case h_17 =>
    split
    · simp [State.IsInRange]
    · exact areInRange_stop
  case h_18 => exact areInRange_stop
  all_goals simp [Token.IsInRange, State.IsInRange]

theorem areInRange_stepNumber (place : Place) (text : NumberText) (unit : Option Char) :
    AreInRange (stepNumber place text unit) := by
  have hended : AreInRange (if place.isFinal then
      (.number text.value? :: (begin unit).1, (begin unit).2) else stop) := by
    split
    · exact areInRange_cons.2 ⟨text.isInRange_value?, areInRange_begin unit⟩
    · exact areInRange_stop
  unfold stepNumber
  extract_lets ended
  split
  · exact hended
  · split
    · split
      · simp [State.IsInRange]
      · exact areInRange_stop
    · split
      · simp [State.IsInRange]
      · split
        · simp [State.IsInRange]
        · split
          · simp [State.IsInRange]
          · exact hended

theorem areInRange_stepString (inside : Inside) (high : Option Nat) (text : Option (List Char))
    (unit : Option Char) : AreInRange (stepString inside high text unit) := by
  have hcode (number : Nat) : (appendCode high text number).IsInRange := by
    unfold appendCode
    repeat' split
    all_goals trivial
  unfold stepString
  split
  case h_1 => simp [State.IsInRange]
  case h_2 => simp [Token.IsInRange, State.IsInRange]
  case h_3 => simp [State.IsInRange]
  case h_4 =>
    split
    · exact areInRange_stop
    · simp [State.IsInRange]
  case h_5 => simp [State.IsInRange]
  case h_6 =>
    split
    · simp [State.IsInRange]
    · exact areInRange_stop
  case h_7 =>
    split
    · exact areInRange_stop
    · simp only
      split
      · simpa using hcode _
      · simp [State.IsInRange]
  case h_8 => exact areInRange_stop

theorem areInRange_step {state : State} (h : state.IsInRange) (unit : Option Char) :
    AreInRange (step state unit) := by
  cases state with
  | between => exact areInRange_begin unit
  | word rest token =>
    have htoken : token.IsInRange := h
    simp only [step]
    split
    · split
      · simp [htoken, State.IsInRange]
      · exact areInRange_stop
    · split
      · exact areInRange_nil.2 htoken
      · exact areInRange_stop
    · exact areInRange_stop
  | number place text => exact areInRange_stepNumber place text unit
  | string inside high text => exact areInRange_stepString inside high text unit
  | stopped => simp [step, State.IsInRange]

theorem isInRange_finish {state : State} : ∀ token ∈ finish state, token.IsInRange := by
  cases state with
  | number place text =>
    rw [finish]
    split
    · simpa using text.isInRange_value?
    · simp [Token.IsInRange]
  | _ => simp [finish, Token.IsInRange]

theorem isInRange_tokensFrom (units : List (Option Char)) {state : State} (h : state.IsInRange) :
    ∀ token ∈ tokensFrom state units, token.IsInRange := by
  induction units generalizing state with
  | nil => exact isInRange_finish
  | cons unit units ih =>
    obtain ⟨htokens, hstate⟩ := areInRange_step h unit
    intro token hmem
    rw [tokensFrom, List.mem_append] at hmem
    rcases hmem with hmem | hmem
    · exact htokens token hmem
    · exact ih hstate token hmem

/-- No number in the tokens of a text is out of range. -/
theorem isInRange_tokens (units : List (Option Char)) : ∀ token ∈ tokens units, token.IsInRange :=
  isInRange_tokensFrom units trivial

/-! ## Documents -/

mutual

/-- No number in the document is out of range. -/
def Document.IsInRange : Document → Prop
  | .number (some n) => n.IsInRange
  | .array items => items.AreInRange
  | .object members => members.AreInRange
  | _ => True

/-- No number in the items is out of range. -/
def Items.AreInRange : Items → Prop
  | .closed | .cut => True
  | .cons d tail => d.IsInRange ∧ tail.AreInRange

/-- No number in the members is out of range. -/
def Members.AreInRange : Members → Prop
  | .closed | .cut _ => True
  | .cons _ d tail => d.IsInRange ∧ tail.AreInRange

end

theorem Members.isInRange_of_member? {name : String} {d : Document} : ∀ {members : Members},
    members.AreInRange → members.member? name = some d → d.IsInRange
  | .closed, _, h => by cases h
  | .cut _, _, h => by cases h
  | .cons none _ _, range, h => isInRange_of_member? range.2 h
  | .cons (some other) e tail, range, h => by
    rw [Members.member?] at h
    split at h
    · obtain rfl := Option.some.inj h
      exact range.1
    · exact isInRange_of_member? range.2 h

theorem Items.isInRange_of_part? {name : String} {d : Document} : ∀ {names : List String}
    {items : Items}, items.AreInRange → items.part? name names = some d → d.IsInRange
  | [], _, _, h => by cases h
  | _ :: _, .closed, _, h => by cases h
  | _ :: _, .cut, _, h => by cases h
  | _ :: _, .cons e tail, range, h => by
    rw [Items.part?] at h
    split at h
    · obtain rfl := Option.some.inj h
      exact range.1
    · exact isInRange_of_part? range.2 h

/-- No number in a part of the document is out of range. -/
theorem Document.isInRange_of_part? {names : List String} {name : String} {d part : Document}
    (range : d.IsInRange) (h : d.part? names name = some part) : part.IsInRange := by
  cases d with
  | array items => exact Items.isInRange_of_part? range h
  | object members => exact Members.isInRange_of_member? range h
  | _ => cases h

theorem Items.areInRange_prepend {before : List Document} {items : Items}
    (hbefore : ∀ d ∈ before, d.IsInRange) (h : items.AreInRange) :
    (Items.prepend before items).AreInRange := by
  induction before generalizing items with
  | nil => exact h
  | cons d before ih =>
    obtain ⟨hd, hrest⟩ := List.forall_mem_cons.1 hbefore
    exact ih hrest ⟨hd, h⟩

theorem Members.areInRange_prepend {before : List (Option String × Document)} {members : Members}
    (hbefore : ∀ p ∈ before, p.2.IsInRange) (h : members.AreInRange) :
    (Members.prepend before members).AreInRange := by
  induction before generalizing members with
  | nil => exact h
  | cons p before ih =>
    obtain ⟨hp, hrest⟩ := List.forall_mem_cons.1 hbefore
    exact ih hrest ⟨hp, h⟩

/-! ## The builder -/

/-- No number in the open container is out of range. -/
def Frame.IsInRange : Frame → Prop
  | .items before => ∀ d ∈ before, d.IsInRange
  | .members before _ => ∀ p ∈ before, p.2.IsInRange

/-- No number in the container that the builder stands in is out of range. -/
def Expected.IsInRange : Expected → Prop
  | .value | .firstItem | .colon => True
  | .nextItem before => ∀ d ∈ before, d.IsInRange
  | .name _ before | .nextMember before => ∀ p ∈ before, p.2.IsInRange

theorem isInRange_breakOff {outer : List Frame} (houter : ∀ f ∈ outer, f.IsInRange) {d : Document}
    (h : d.IsInRange) : (breakOff outer d).IsInRange := by
  induction outer generalizing d with
  | nil => exact h
  | cons f outer ih =>
    obtain ⟨hf, hrest⟩ := List.forall_mem_cons.1 houter
    cases f with
    | items before =>
      have hitems : (Items.prepend before (.cons d .cut)).AreInRange :=
        Items.areInRange_prepend hf ⟨h, trivial⟩
      exact ih hrest hitems
    | members before name =>
      have hmembers : (Members.prepend before (.cons name d (.cut false))).AreInRange :=
        Members.areInRange_prepend hf ⟨h, trivial⟩
      exact ih hrest hmembers

theorem isInRange_cutAt {expected : Expected} (h : expected.IsInRange) {outer : List Frame}
    (houter : ∀ f ∈ outer, f.IsInRange) : (cutAt expected outer).IsInRange := by
  cases expected with
  | value | colon => exact isInRange_breakOff houter trivial
  | firstItem => exact isInRange_breakOff houter trivial
  | nextItem before =>
    exact isInRange_breakOff houter (Items.areInRange_prepend h trivial)
  | name mayEnd before | nextMember before =>
    exact isInRange_breakOff houter (Members.areInRange_prepend h trivial)

section Builder

variable {rest : List Token}
  (hbuild : ∀ {expected : Expected}, expected.IsInRange → ∀ {outer : List Frame},
    (∀ f ∈ outer, f.IsInRange) → (build expected outer rest).1.IsInRange)

include hbuild

theorem isInRange_resume {d : Document} (hd : d.IsInRange) {outer : List Frame}
    (houter : ∀ f ∈ outer, f.IsInRange) : (resume d outer rest).1.IsInRange := by
  cases outer with
  | nil => exact hd
  | cons f outer =>
    obtain ⟨hf, hrest⟩ := List.forall_mem_cons.1 houter
    cases f with
    | items before =>
      have hnext : (Expected.nextItem (d :: before)).IsInRange :=
        List.forall_mem_cons.2 ⟨hd, hf⟩
      exact hbuild hnext hrest
    | members before name =>
      have hnext : (Expected.nextMember ((name, d) :: before)).IsInRange :=
        List.forall_mem_cons.2 ⟨hd, hf⟩
      exact hbuild hnext hrest

end Builder

/-- The builder makes no number out of range of tokens in range. -/
theorem isInRange_build (tokens : List Token) (htokens : ∀ token ∈ tokens, token.IsInRange)
    {expected : Expected} (h : expected.IsInRange) {outer : List Frame}
    (houter : ∀ f ∈ outer, f.IsInRange) : (build expected outer tokens).1.IsInRange := by
  induction tokens generalizing expected outer with
  | nil => exact isInRange_cutAt h houter
  | cons token rest ih =>
    obtain ⟨htoken, hrest⟩ := List.forall_mem_cons.1 htokens
    have hbuild {expected : Expected} (h : expected.IsInRange) {outer : List Frame}
        (houter : ∀ f ∈ outer, f.IsInRange) : (build expected outer rest).1.IsInRange :=
      ih hrest h houter
    unfold build
    extract_lets complete value
    have hcomplete {d : Document} (hd : d.IsInRange) {outer : List Frame}
        (houter : ∀ f ∈ outer, f.IsInRange) : (complete d outer).1.IsInRange :=
      isInRange_resume hbuild hd houter
    have hvalue {outer : List Frame} (houter : ∀ f ∈ outer, f.IsInRange)
        {otherwise : Document × List Token} (hotherwise : otherwise.1.IsInRange) :
        (value outer otherwise).1.IsInRange := by
      cases token with
      | null | bool b | string s => exact hcomplete (by trivial) houter
      | number n =>
        have hnumber : (Document.number n).IsInRange := by
          cases n with
          | none => trivial
          | some n => exact htoken
        exact hcomplete hnumber houter
      | openArray => exact hbuild (by trivial) houter
      | openObject => exact hbuild (by simp [Expected.IsInRange]) houter
      | _ => exact hotherwise
    have hcut := isInRange_cutAt h houter
    have hitems {before : List Document} (hbefore : ∀ d ∈ before, d.IsInRange) :
        (Document.array (Items.prepend before .closed)).IsInRange :=
      Items.areInRange_prepend hbefore trivial
    have hmembers {before : List (Option String × Document)}
        (hbefore : ∀ p ∈ before, p.2.IsInRange) :
        (Document.object (Members.prepend before .closed)).IsInRange :=
      Members.areInRange_prepend hbefore trivial
    split
    case h_1 => exact hcomplete (by trivial) houter
    case h_2 =>
      have hframe : (Frame.items []).IsInRange := by simp [Frame.IsInRange]
      exact hvalue (List.forall_mem_cons.2 ⟨hframe, houter⟩) hcut
    case h_3 => exact hvalue houter hcut
    case h_4 => exact hbuild (by trivial) (List.forall_mem_cons.2 ⟨h, houter⟩)
    case h_5 => exact hcomplete (hitems h) houter
    case h_6 => exact hbuild (by trivial) (List.forall_mem_cons.2 ⟨h, houter⟩)
    case h_7 => exact hcomplete (hmembers h) houter
    case h_8 => exact isInRange_breakOff houter (Members.areInRange_prepend h trivial)
    case h_9 => exact hbuild (by trivial) houter
    case h_10 before => exact @hbuild (.name false before) h _ houter
    case h_11 => exact hcomplete (hmembers h) houter
    case h_12 => exact hcut

/-- **No number that is seen in a text is out of range.** -/
theorem Document.isInRange_ofBytes (bytes : List UInt8) : (ofBytes bytes).1.IsInRange :=
  have hvalue : Expected.value.IsInRange := trivial
  isInRange_build (tokens _) (isInRange_tokens _) hvalue (by simp)

end Courier.Json
