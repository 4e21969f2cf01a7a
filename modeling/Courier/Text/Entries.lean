/-!
# Entries by name

Finite maps from names, as lists of entries in the order of the names. Every map has one such list,
so two maps are equal exactly when they have the same entries, and the order in which entries were
set leaves no trace: of two with one name the later counts.

## Main definitions

* `Entries.insert`: set an entry.
* `Entries.Ascending`: the order, which `insert` keeps.
* `Dictionary`: a map of texts, `Dictionary.ofList`, `Dictionary.get?`.
-/

namespace Courier

namespace Entries

variable {α : Type}

/-- Set the entry of a name. -/
def insert (name : String) (a : α) : List (String × α) → List (String × α)
  | [] => [(name, a)]
  | (other, b) :: entries =>
    if name < other then (name, a) :: (other, b) :: entries
    else if name = other then (name, a) :: entries
    else (other, b) :: insert name a entries

/-- Every name comes before all that follow it. -/
def Ascending (entries : List (String × α)) : Prop :=
  entries.Pairwise fun e f => e.1 < f.1

/-- Of two different names one comes first. -/
theorem lt_of_not_lt_of_ne {a b : String} (h : ¬ a < b) (hne : a ≠ b) : b < a := by
  by_cases hba : b < a
  · exact hba
  · exact absurd (String.le_antisymm hba h) hne

/-- What is not found is none of the names. -/
theorem lookup_eq_none_iff_not_mem {κ : Type} [BEq κ] [LawfulBEq κ] {entries : List (κ × α)}
    {name : κ} : entries.lookup name = none ↔ name ∉ entries.map Prod.fst := by
  rw [List.lookup_eq_none_iff, List.mem_map]
  constructor
  · rintro h ⟨e, he, rfl⟩
    simpa using h e he
  · intro h e he
    exact bne_iff_ne.2 fun hname => h ⟨e, he, hname.symm⟩

@[simp] theorem lookup_insert_self (name : String) (a : α) (entries : List (String × α)) :
    (insert name a entries).lookup name = some a := by
  induction entries with
  | nil => simp [insert]
  | cons e entries ih =>
    obtain ⟨other, b⟩ := e
    unfold insert
    split
    · simp
    · split
      · simp
      · next hne =>
        have : (name == other) = false := by simpa using hne
        simp [List.lookup_cons, this, ih]

theorem lookup_insert_of_ne {name other : String} (h : other ≠ name) (a : α)
    (entries : List (String × α)) :
    (insert name a entries).lookup other = entries.lookup other := by
  have hne : (other == name) = false := by simpa using h
  induction entries with
  | nil => simp [insert, List.lookup_cons, hne]
  | cons e entries ih =>
    obtain ⟨next, b⟩ := e
    unfold insert
    split
    · simp [List.lookup_cons, hne]
    · split
      · next heq => subst heq; simp [List.lookup_cons, hne]
      · cases hn : other == next <;> simp [List.lookup_cons, hn, ih]

/-- The names after setting an entry are those before it and the entry's. -/
theorem mem_insert {name : String} {a : α} {entries : List (String × α)} {e : String × α}
    (h : e ∈ insert name a entries) : e = (name, a) ∨ e ∈ entries := by
  induction entries with
  | nil => simpa [insert] using h
  | cons f entries ih =>
    obtain ⟨other, b⟩ := f
    unfold insert at h
    split at h
    · rcases List.mem_cons.1 h with rfl | h
      · exact .inl rfl
      · exact .inr h
    · split at h
      · rcases List.mem_cons.1 h with rfl | h
        · exact .inl rfl
        · exact .inr (List.mem_cons_of_mem _ h)
      · rcases List.mem_cons.1 h with rfl | h
        · exact .inr (List.mem_cons_self ..)
        · rcases ih h with h | h
          · exact .inl h
          · exact .inr (List.mem_cons_of_mem _ h)

theorem Ascending.insert {entries : List (String × α)} (h : Ascending entries) (name : String)
    (a : α) : Ascending (insert name a entries) := by
  induction entries with
  | nil => simp [Entries.insert, Ascending]
  | cons e entries ih =>
    obtain ⟨other, b⟩ := e
    obtain ⟨hhead, htail⟩ := List.pairwise_cons.1 h
    unfold Entries.insert
    split
    · next hlt =>
      refine List.pairwise_cons.2 ⟨?_, h⟩
      intro f hf
      rcases List.mem_cons.1 hf with rfl | hf
      · exact hlt
      · exact String.lt_trans hlt (hhead f hf)
    · next hnlt =>
      split
      · next heq => subst heq; exact List.pairwise_cons.2 ⟨hhead, htail⟩
      · next hne =>
        refine List.pairwise_cons.2 ⟨?_, ih htail⟩
        intro f hf
        rcases mem_insert hf with rfl | hf
        · exact lt_of_not_lt_of_ne hnlt hne
        · exact hhead f hf

end Entries

/-- A map from names to texts. -/
structure Dictionary where
  /-- The entries, in the order of their names. -/
  entries : List (String × String)
  ascending : Entries.Ascending entries

namespace Dictionary

theorem ext {d e : Dictionary} (h : d.entries = e.entries) : d = e := by
  cases d; cases e; cases h; rfl

instance : DecidableEq Dictionary := fun d e =>
  if h : d.entries = e.entries then isTrue (ext h) else isFalse fun he => h (he ▸ rfl)

/-- No entries. -/
def empty : Dictionary := ⟨[], List.Pairwise.nil⟩

instance : Inhabited Dictionary := ⟨empty⟩

/-- Set the entry of a name. -/
def insert (d : Dictionary) (name text : String) : Dictionary :=
  ⟨Entries.insert name text d.entries, d.ascending.insert name text⟩

/-- The text of a name. -/
def get? (d : Dictionary) (name : String) : Option String :=
  d.entries.lookup name

/-- Set all entries of a list, from the first to the last. -/
def ofList (entries : List (String × String)) : Dictionary :=
  entries.foldl (fun d e => d.insert e.1 e.2) empty

@[simp] theorem get?_empty (name : String) : empty.get? name = none := rfl

@[simp] theorem get?_insert_self (d : Dictionary) (name text : String) :
    (d.insert name text).get? name = some text :=
  Entries.lookup_insert_self name text d.entries

theorem get?_insert_of_ne (d : Dictionary) {name other : String} (h : other ≠ name)
    (text : String) : (d.insert name text).get? other = d.get? other :=
  Entries.lookup_insert_of_ne h text d.entries

end Dictionary

end Courier
