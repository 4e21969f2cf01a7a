import Courier.Settings.Basic

/-!
# Accepted settings

What is true of all settings that are accepted, whatever variables they have been read from: each
variable has been read as its kind says, within the bound of its kind if it is a number, and the
settings fit together.

## Main definitions

* `Settings.Kind.Admits`: the values of a kind.
* `Settings.Accepted`: settings that have been read and fit together; `accepted_of_load` says that
  these are the ones that are loaded.

## Main results

* `Settings.readVariables_natural`: a number within its bound is read from its digits.
* `Settings.AreAdmitted.getD_le`: a number that is read, or left as it is, is within its bound.
-/

namespace Courier.Settings

/-! ## Numbers -/

theorem le_of_naturalFrom {bound n m : Nat} {cs : List Char} (hn : n ≤ bound)
    (h : naturalFrom bound n cs = .ok m) : m ≤ bound := by
  induction cs generalizing n with
  | nil =>
    obtain rfl : n = m := Except.ok.inj h
    exact hn
  | cons c cs ih =>
    simp only [naturalFrom] at h
    split at h
    · cases h
    · split at h
      · cases h
      · next fits => exact ih (Nat.le_of_not_lt fits) h

/-- No number beyond the bound is read. -/
theorem le_of_natural? {bound n : Nat} {text : String} (h : natural? bound text = .ok n) :
    n ≤ bound := by
  unfold natural? at h
  split at h
  · cases h
  · cases h
  · exact le_of_naturalFrom (Nat.zero_le bound) h
  · exact le_of_naturalFrom (Nat.zero_le bound) h

/-- One more digit of a number. -/
theorem naturalFrom_digitChar {bound n d : Nat} (hd : d < 10) (h : n * 10 + d ≤ bound)
    (cs : List Char) :
    naturalFrom bound n (Nat.digitChar d :: cs) = naturalFrom bound (n * 10 + d) cs := by
  have hdigit : (Nat.digitChar d).isDigit = true := by
    rw [Nat.isDigit_digitChar, decide_eq_true hd]
  simp only [naturalFrom, hdigit, Text.digitChar_toNat_sub hd, not_true_eq_false, if_false]
  rw [if_neg (by omega)]

/-- The digits of a number are read as the number. -/
theorem naturalFrom_toDigits {bound n : Nat} (h : n ≤ bound) (cs : List Char) :
    naturalFrom bound 0 (Nat.toDigits 10 n ++ cs) = naturalFrom bound n cs := by
  induction n using Nat.strongRecOn generalizing cs with
  | ind n ih =>
    by_cases hsmall : n < 10
    · rw [Nat.toDigits_of_lt_base hsmall, List.singleton_append,
        naturalFrom_digitChar hsmall (by omega), Nat.zero_mul, Nat.zero_add]
    · rw [Nat.toDigits_of_base_le (by omega) (by omega), List.append_assoc,
        List.singleton_append, ih (n / 10) (by omega) (by omega),
        naturalFrom_digitChar (by omega) (by omega), Nat.div_add_mod']

/-- A number within the bound is read from its digits. -/
theorem natural?_ofList_toDigits {bound n : Nat} (h : n ≤ bound) :
    natural? bound (String.ofList (Nat.toDigits 10 n)) = .ok n := by
  have hread : naturalFrom bound 0 (Nat.toDigits 10 n) = .ok n := by
    have hcs := naturalFrom_toDigits h []
    rwa [List.append_nil] at hcs
  have hplus : '+' ∉ Nat.toDigits 10 n := by
    intro hmem
    exact absurd (Nat.isDigit_of_mem_toDigits (by omega) (Nat.le_refl 10) hmem) (by decide)
  rw [natural?, String.toList_ofList]
  split
  · next hnil => exact absurd hnil Nat.toDigits_ne_nil
  · next hsign => exact absurd (by rw [hsign]; exact List.mem_singleton_self _) hplus
  · next hsign => exact absurd (by rw [hsign]; exact List.mem_cons_self) hplus
  · exact hread

/-! ## Values -/

/-- The values of a kind. -/
def Kind.Admits : Kind → Assigned → Prop
  | .text, .text _ | .flag, .flag _ | .real, .real _ | .sink, .sink _ => True
  | .natural bound, .natural n => n ≤ bound
  | _, _ => False

/-- What is read is a value of the kind. -/
theorem Kind.admits_of_read {kind : Kind} {var value : String} {a : Assigned}
    (h : kind.read var value = .ok a) : kind.Admits a := by
  cases kind with
  | text =>
    cases h
    trivial
  | flag =>
    simp only [Kind.read] at h
    split at h
    · cases h
      trivial
    · split at h
      · cases h
        trivial
      · cases h
  | natural bound =>
    simp only [Kind.read] at h
    split at h
    · next n hn =>
      cases h
      exact le_of_natural? hn
    · cases h
  | real =>
    simp only [Kind.read] at h
    split at h
    · cases h
      trivial
    · cases h
  | sink =>
    simp only [Kind.read] at h
    split at h
    · cases h
      trivial
    · cases h

/-- Every value is one of the kind of its setting. -/
def AreAdmitted (assigned : List (String × Assigned)) : Prop :=
  ∀ p ∈ assigned, ∃ kind, schema.lookup p.1 = some kind ∧ kind.Admits p.2

theorem areAdmitted_of_readVariables {before assigned : List (String × Assigned)}
    {given : List (String × String)} (hbefore : AreAdmitted before)
    (h : readVariables before given = .ok assigned) : AreAdmitted assigned := by
  induction given generalizing before with
  | nil =>
    obtain rfl : before = assigned := Except.ok.inj h
    exact hbefore
  | cons first rest ih =>
    obtain ⟨var, value⟩ := first
    simp only [readVariables] at h
    split at h
    · exact ih hbefore h
    · next kind hkind =>
      split at h
      · cases h
      · split at h
        · cases h
        · next a hread =>
          refine ih ?_ h
          intro p hp
          rcases List.mem_cons.1 hp with rfl | hp
          · exact ⟨kind, hkind, Kind.admits_of_read hread⟩
          · exact hbefore p hp

/-- A variable that is a number within the bound of its setting is read. -/
theorem readVariables_natural {assigned : List (String × Assigned)} {var name : String}
    {bound n : Nat} (lower : lowerCase var = name)
    (kind : schema.lookup name = some (.natural bound)) (fresh : assigned.lookup name = none)
    (h : n ≤ bound) (rest : List (String × String)) :
    readVariables assigned ((var, String.ofList (Nat.toDigits 10 n)) :: rest) =
      readVariables ((name, .natural n) :: assigned) rest := by
  rw [readVariables, lower]
  simp only [kind, fresh, Option.isSome_none, Bool.false_eq_true, if_false, Kind.read,
    natural?_ofList_toDigits h]

/-- A number is within the bound of its setting. -/
theorem AreAdmitted.le {assigned : List (String × Assigned)} {name : String} {bound n : Nat}
    (h : AreAdmitted assigned) (kind : schema.lookup name = some (.natural bound))
    (value : assigned.lookup name = some (.natural n)) : n ≤ bound := by
  obtain ⟨before, after, rfl, -⟩ := List.lookup_eq_some_iff.1 value
  obtain ⟨other, hother, hadmits⟩ := h (name, .natural n) (by simp)
  rw [kind] at hother
  cases hother
  exact hadmits

/-- A setting that is a number is within its bound, set or left as it is by default. -/
theorem AreAdmitted.getD_le {assigned : List (String × Assigned)} {name : String}
    {bound default : Nat} (h : AreAdmitted assigned)
    (kind : schema.lookup name = some (.natural bound)) (small : default ≤ bound) :
    (match assigned.lookup name with
      | some (.natural n) => n
      | _ => default) ≤ bound := by
  split
  · next n value => exact h.le kind value
  · exact small

/-- Settings that have been read and fit together. -/
structure Accepted (s : Settings) : Prop where
  read : ∃ assigned, AreAdmitted assigned ∧ s = ofAssigned assigned
  valid : s.validate = .ok ()

theorem accepted_of_load {given : List (String × String)} {s : Settings} (h : load given = .ok s) :
    Accepted s := by
  simp only [load] at h
  split at h
  · cases h
  · next assigned hread =>
    split at h
    · cases h
    · next hvalid =>
      cases h
      exact ⟨⟨assigned, areAdmitted_of_readVariables (by simp [AreAdmitted]) hread, rfl⟩, hvalid⟩

/-- Settings fit together that deliver to the log and leave the rest as it is by default, as far as
it is looked at. -/
theorem validate_of_log {s : Settings} (ratio : s.breakerFailureRatio = .ofRatio 3 5)
    (prefetch : s.prefetch = 1) (slots : s.slots = 1) (trials : s.breakerHalfOpenRequests = 1)
    (sink : s.sink = .log) : s.validate = .ok () := by
  have hratio : Binary64.zero.lt (.ofRatio 3 5) ∧ (Binary64.ofRatio 3 5).le (.ofNat 1) := by
    decide +kernel
  simp [validate, ratio, prefetch, slots, trials, sink, hratio]

/-- Variables that are loaded, and what is seen of the settings. -/
theorem exists_of_any_load {given : List (String × String)} {p : Settings → Bool}
    (h : (load given).toOption.any p) : ∃ s, load given = .ok s ∧ p s := by
  cases hload : load given with
  | error e =>
    rw [hload] at h
    cases h
  | ok s =>
    rw [hload] at h
    exact ⟨s, rfl, h⟩

namespace Accepted

variable {s : Settings}

/-- The breaker never needs more calls than its tallies can count. -/
theorem breakerMinRequests_lt (h : Accepted s) : s.breakerMinRequests < UInt32.size := by
  obtain ⟨assigned, hadmitted, rfl⟩ := h.read
  exact Nat.lt_succ_of_le (hadmitted.getD_le (by decide +kernel) (by decide))

/-- The failure ratio is a share. -/
theorem breakerFailureRatio_le (h : Accepted s) : s.breakerFailureRatio.le (.ofNat 1) := by
  have hvalid := h.valid
  unfold validate at hvalid
  split at hvalid
  · cases hvalid
  · next share => exact (Decidable.not_not.1 share).2

end Accepted

end Courier.Settings
