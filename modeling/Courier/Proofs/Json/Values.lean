import Courier.Proofs.Json.Ranges

/-!
# Values are read as they were written

A value that was read has its numbers in range and its objects in the order of their names, and
nests no deeper than the reader may go. Such a value is read back from its document as it is: its
members come in their order and none of them twice, so that each is set behind those before it.

## Main definitions

* `Value.nesting`: how deep a value nests.
* `Value.IsProper`: what a value that was read is like.
* `Value.isIntegral`: a value without doubles.
* `Reader.isProper_of_value`, `Reader.value_document`.
-/

namespace Courier

namespace Entries

variable {α : Type}

/-- What comes after all names is set behind them. -/
theorem insert_append {name : String} (a : α) {entries : List (String × α)}
    (last : ∀ e ∈ entries, e.1 < name) : insert name a entries = entries ++ [(name, a)] := by
  induction entries with
  | nil => rfl
  | cons e entries ih =>
    obtain ⟨other, b⟩ := e
    have hlt : other < name := last (other, b) List.mem_cons_self
    have hne : name ≠ other := fun h => String.lt_irrefl other (h ▸ hlt)
    rw [insert, if_neg (String.lt_asymm hlt), if_neg hne,
      ih fun f hf => last f (List.mem_cons_of_mem _ hf)]
    rfl

end Entries

namespace Json

namespace Value

mutual

/-- How many containers stand one within the other. -/
def nesting : Value → Nat
  | .array items => itemsNesting items + 1
  | .object members => membersNesting members + 1
  | _ => 0

/-- How deep the items nest. -/
def itemsNesting : List Value → Nat
  | [] => 0
  | v :: vs => max v.nesting (itemsNesting vs)

/-- How deep the values of the members nest. -/
def membersNesting : List (String × Value) → Nat
  | [] => 0
  | (_, v) :: members => max v.nesting (membersNesting members)

end

mutual

/-- The integers of a value are of 64 bits, and its objects have each name once and in order. -/
def IsProper : Value → Prop
  | .number n => n.IsInRange
  | .array items => AreProper items
  | .object members => Entries.Ascending members ∧ MembersAreProper members
  | _ => True

/-- All items are proper. -/
def AreProper : List Value → Prop
  | [] => True
  | v :: vs => v.IsProper ∧ AreProper vs

/-- The values of all members are proper. -/
def MembersAreProper : List (String × Value) → Prop
  | [] => True
  | (_, v) :: members => v.IsProper ∧ MembersAreProper members

end

mutual

/-- No number of the value is a double. -/
def isIntegral : Value → Bool
  | .number (.double _) => false
  | .array items => areIntegral items
  | .object members => membersAreIntegral members
  | _ => true

/-- No number of the items is a double. -/
def areIntegral : List Value → Bool
  | [] => true
  | v :: vs => v.isIntegral && areIntegral vs

/-- No number of the members is a double. -/
def membersAreIntegral : List (String × Value) → Bool
  | [] => true
  | (_, v) :: members => v.isIntegral && membersAreIntegral members

end

theorem membersNesting_le_iff {depth : Nat} {members : List (String × Value)} :
    membersNesting members ≤ depth ↔ ∀ e ∈ members, e.2.nesting ≤ depth := by
  induction members with
  | nil => simp [membersNesting]
  | cons e members ih => rw [membersNesting, Nat.max_le, List.forall_mem_cons, ih]

theorem membersAreProper_iff {members : List (String × Value)} :
    MembersAreProper members ↔ ∀ e ∈ members, e.2.IsProper := by
  induction members with
  | nil => simp [MembersAreProper]
  | cons e members ih => rw [MembersAreProper, List.forall_mem_cons, ih]

mutual

/-- Without doubles all numbers of a proper value are integers of 64 bits. -/
theorem isExact_of_isProper : ∀ (v : Value), v.IsProper → v.isIntegral → v.isExact
  | .null, _, _ => rfl
  | .bool _, _, _ => rfl
  | .string _, _, _ => rfl
  | .number (.natural n), h, _ => decide_eq_true h
  | .number (.negative n), h, _ => by
    obtain ⟨hpos, hle⟩ := h
    simp [isExact, Number.isExact, hpos, hle]
  | .number (.double _), _, integral => by cases integral
  | .array items, h, integral => areExact_of_areProper items h integral
  | .object members, h, integral => membersAreExact_of_membersAreProper members h.2 integral

theorem areExact_of_areProper : ∀ (items : List Value), AreProper items → areIntegral items →
    areExact items
  | [], _, _ => rfl
  | v :: vs, h, integral => by
    obtain ⟨hv, hvs⟩ := Bool.and_eq_true_iff.1 integral
    exact Bool.and_eq_true_iff.2
      ⟨isExact_of_isProper v h.1 hv, areExact_of_areProper vs h.2 hvs⟩

theorem membersAreExact_of_membersAreProper : ∀ (members : List (String × Value)),
    MembersAreProper members → membersAreIntegral members → membersAreExact members
  | [], _, _ => rfl
  | (_, v) :: members, h, integral => by
    obtain ⟨hv, hmembers⟩ := Bool.and_eq_true_iff.1 integral
    exact Bool.and_eq_true_iff.2
      ⟨isExact_of_isProper v h.1 hv, membersAreExact_of_membersAreProper members h.2 hmembers⟩

end

end Value

namespace Reader

/-! ## What is read -/

mutual

/-- What is read is proper, and does not nest deeper than the reader may go. -/
theorem isProper_of_value : ∀ {depth : Nat} (d : Document) {v : Value}, d.IsInRange →
    value depth d = .ok v → v.IsProper ∧ v.nesting ≤ depth
  | _, .null, v, _, h => by
    simp only [value, Except.ok.injEq] at h
    subst h
    exact ⟨trivial, Nat.zero_le _⟩
  | _, .bool _, v, _, h => by
    simp only [value, Except.ok.injEq] at h
    subst h
    exact ⟨trivial, Nat.zero_le _⟩
  | _, .number (some n), v, range, h => by
    simp only [value, Except.ok.injEq] at h
    subst h
    exact ⟨range, Nat.zero_le _⟩
  | _, .string (some s), v, _, h => by
    simp only [value, Except.ok.injEq] at h
    subst h
    exact ⟨trivial, Nat.zero_le _⟩
  | _, .number none, _, _, h | _, .string none, _, _, h | _, .broken, _, _, h => by
    simp only [value, reduceCtorEq] at h
  | 0, .array items, v, range, h => by cases h
  | depth + 1, .array items, v, range, h => by
    obtain ⟨vs, hvs, rfl⟩ := exists_of_map_eq_ok h
    obtain ⟨hproper, hnesting⟩ := areProper_of_valueItems items range hvs
    exact ⟨hproper, Nat.succ_le_succ hnesting⟩
  | 0, .object members, v, range, h => by cases h
  | depth + 1, .object members, v, range, h => by
    obtain ⟨ms, hms, rfl⟩ := exists_of_map_eq_ok h
    obtain ⟨hascending, hmembers⟩ := proper_of_valueMembers members range hms .nil (by simp)
    have hproper := Value.membersAreProper_iff.2 fun e he => (hmembers e he).1
    have hnesting := Value.membersNesting_le_iff.2 fun e he => (hmembers e he).2
    exact ⟨⟨hascending, hproper⟩, Nat.succ_le_succ hnesting⟩

theorem areProper_of_valueItems : ∀ {depth : Nat} (items : Items) {vs : List Value},
    items.AreInRange → valueItems depth items = .ok vs →
      Value.AreProper vs ∧ Value.itemsNesting vs ≤ depth
  | depth, .closed, vs, _, h => by
    obtain rfl : [] = vs := Except.ok.inj h
    exact ⟨trivial, Nat.zero_le _⟩
  | _, .cut, _, _, h => by cases h
  | depth, .cons d tail, vs, range, h => by
    obtain ⟨v, hv, hrest⟩ := exists_of_bind_eq_ok h
    obtain ⟨tailValues, htail, hend⟩ := exists_of_bind_eq_ok hrest
    obtain rfl := Except.ok.inj hend
    obtain ⟨hproper, hnesting⟩ := isProper_of_value d range.1 hv
    obtain ⟨hpropers, hnestings⟩ := areProper_of_valueItems tail range.2 htail
    exact ⟨⟨hproper, hpropers⟩, Nat.max_le.2 ⟨hnesting, hnestings⟩⟩

theorem proper_of_valueMembers : ∀ {depth : Nat} (members : Members)
    {before ms : List (String × Value)}, members.AreInRange →
      valueMembers depth before members = .ok ms → Entries.Ascending before →
        (∀ e ∈ before, e.2.IsProper ∧ e.2.nesting ≤ depth) →
          Entries.Ascending ms ∧ ∀ e ∈ ms, e.2.IsProper ∧ e.2.nesting ≤ depth
  | _, .closed, before, ms, _, h, ascending, hbefore => by
    obtain rfl : before = ms := Except.ok.inj h
    exact ⟨ascending, hbefore⟩
  | _, .cut _, _, _, _, h, _, _ => by cases h
  | _, .cons none _ _, _, _, _, h, _, _ => by cases h
  | depth, .cons (some name) d tail, before, ms, range, h, ascending, hbefore => by
    obtain ⟨v, hv, hrest⟩ := exists_of_bind_eq_ok h
    have hvalue := isProper_of_value d range.1 hv
    refine proper_of_valueMembers tail range.2 hrest (ascending.insert name v) fun e he => ?_
    rcases Entries.mem_insert he with rfl | he
    · exact hvalue
    · exact hbefore e he

end

/-- Only null is read as null. -/
theorem eq_null_of_value {depth : Nat} {d : Document} (h : value depth d = .ok .null) :
    d = .null := by
  unfold value at h
  split at h
  case h_1 => rfl
  case h_5 | h_6 => obtain ⟨_, -, ⟨⟩⟩ := exists_of_map_eq_ok h
  all_goals cases h

/-! ## What is read again -/

mutual

/-- A proper value is read back, if the reader may go as deep as it nests. -/
theorem value_document : ∀ {depth : Nat} (v : Value), v.IsProper → v.nesting ≤ depth →
    value depth v.document = .ok v
  | _, .null, _, _ => by simp only [Value.document, value]
  | _, .bool _, _, _ => by simp only [Value.document, value]
  | _, .number _, _, _ => by simp only [Value.document, value]
  | _, .string _, _, _ => by simp only [Value.document, value]
  | 0, .array items, _, h => absurd h (Nat.not_succ_le_zero _)
  | depth + 1, .array items, proper, h => by
    rw [Value.document, value,
      valueItems_document items proper (Nat.le_of_succ_le_succ h)]
    rfl
  | 0, .object members, _, h => absurd h (Nat.not_succ_le_zero _)
  | depth + 1, .object members, proper, h => by
    rw [Value.document, value,
      valueMembers_document members [] proper.1 proper.2 (Nat.le_of_succ_le_succ h)]
    rfl

theorem valueItems_document : ∀ {depth : Nat} (items : List Value), Value.AreProper items →
    Value.itemsNesting items ≤ depth →
      valueItems depth (Value.itemsDocument items) = .ok items
  | _, [], _, _ => rfl
  | depth, v :: vs, proper, h => by
    obtain ⟨hv, hvs⟩ := Nat.max_le.1 h
    rw [Value.itemsDocument, valueItems, value_document v proper.1 hv,
      valueItems_document vs proper.2 hvs]
    rfl

theorem valueMembers_document : ∀ {depth : Nat} (members before : List (String × Value)),
    Entries.Ascending (before ++ members) → Value.MembersAreProper members →
      Value.membersNesting members ≤ depth →
        valueMembers depth before (Value.membersDocument members) = .ok (before ++ members)
  | _, [], before, _, _, _ => by
    rw [List.append_nil]
    rfl
  | depth, (name, v) :: members, before, ascending, proper, h => by
    obtain ⟨hv, hmembers⟩ := Nat.max_le.1 h
    have hlast : ∀ e ∈ before, e.1 < name := fun e he =>
      (List.pairwise_append.1 ascending).2.2 e he (name, v) List.mem_cons_self
    have hsplit : before ++ (name, v) :: members = (before ++ [(name, v)]) ++ members := by
      rw [List.append_assoc, List.singleton_append]
    rw [hsplit] at ascending ⊢
    rw [Value.membersDocument, valueMembers, value_document v proper.1 hv]
    show valueMembers depth (Entries.insert name v before) (Value.membersDocument members) = _
    rw [Entries.insert_append v hlast]
    exact valueMembers_document members _ ascending proper.2 hmembers

end

/-- What is not null is read where null may stand for nothing. -/
theorem optional_document {α : Type} {read : Reader α} {depth : Nat} {v : Value} {a : α}
    (given : v ≠ .null) (h : read depth v.document = .ok a) :
    optional read depth v.document = .ok (some a) := by
  have hgiven : v.document ≠ .null := by
    cases v with
    | null => exact absurd rfl given
    | _ => rw [Value.document]; rintro ⟨⟩
  rw [optional, h]
  · rfl
  · exact hgiven

end Reader

end Json

end Courier
