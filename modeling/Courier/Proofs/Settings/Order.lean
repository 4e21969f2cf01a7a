import Courier.Proofs.Settings
import Courier.Text.Entries
import Mathlib.Data.List.Nodup
import Mathlib.Data.List.Perm.Basic

/-!
# The order of variables

Variables are read one after another, but the settings do not depend on their order, which in an
environment nobody has chosen. Variables are accepted exactly if each that is one of a setting can
be read, no two of them are of the same setting, and the settings that they make fit together; and a
setting is looked up among what was read by its name. What is no setting counts for nothing, and two
variables of one setting are refused wherever they stand.

Only that variables are refused is said here: of several reasons the first in their order is given.

## Main definitions

* `Settings.isKnown`, `Settings.assigned?`: what one variable sets.
* `Settings.AreReadable`: variables that can be read, in any order.
* `Settings.load_eq_ok_iff`: which settings variables make.
* `Settings.FitTogether`: settings that fit together, `Settings.validate_eq_ok_iff`.
* `Settings.load_whatever_order`.
-/

namespace Courier

namespace Entries

variable {α : Type} {entries others : List (String × α)}

/-- If every name stands there once, all entries are found. -/
theorem lookup_eq_some_iff_mem (once : (entries.map Prod.fst).Nodup) {name : String} {a : α} :
    entries.lookup name = some a ↔ (name, a) ∈ entries := by
  induction entries with
  | nil => simp
  | cons e entries ih =>
    obtain ⟨other, b⟩ := e
    rw [List.map_cons, List.nodup_cons] at once
    rw [List.lookup_cons, List.mem_cons, Prod.mk.injEq]
    cases hname : name == other with
    | true =>
      obtain rfl : name = other := eq_of_beq hname
      have habsent : (name, a) ∉ entries := fun h => once.1 (List.mem_map.2 ⟨(name, a), h, rfl⟩)
      simp [habsent, eq_comm]
    | false =>
      have hne : name ≠ other := by simpa using hname
      simpa [hne] using ih once.2

/-- It does not matter in which order entries with names of their own stand. -/
theorem lookup_eq_of_perm (once : (entries.map Prod.fst).Nodup) (perm : entries.Perm others)
    (name : String) : entries.lookup name = others.lookup name := by
  have once' : (others.map Prod.fst).Nodup := (perm.map Prod.fst).nodup_iff.1 once
  refine Option.ext fun a => ?_
  rw [lookup_eq_some_iff_mem once, lookup_eq_some_iff_mem once', perm.mem_iff]

end Entries

namespace Settings

variable {given others : List (String × String)} {before assigned : List (String × Assigned)}
  {v w : String × String} {p : String × Assigned} {name : String}

/-! ## One variable -/

/-- The variable is one of a setting. -/
def isKnown (v : String × String) : Bool :=
  (schema.lookup (lowerCase v.1)).isSome

/-- What a variable sets, if it is one of a setting and can be read. -/
def assigned? (v : String × String) : Option (String × Assigned) :=
  match schema.lookup (lowerCase v.1) with
  | none => none
  | some kind => (kind.read v.1 v.2).toOption.map (lowerCase v.1, ·)

/-- What a variable sets was read from its text. -/
theorem exists_read_of_assigned? (h : assigned? v = some p) :
    ∃ kind a, schema.lookup (lowerCase v.1) = some kind ∧ kind.read v.1 v.2 = .ok a ∧
      p = (lowerCase v.1, a) := by
  unfold assigned? at h
  split at h
  · cases h
  · next kind hkind =>
    obtain ⟨a, ha, rfl⟩ := Option.map_eq_some_iff.1 h
    cases hread : kind.read v.1 v.2 with
    | error e => rw [hread] at ha; cases ha
    | ok b =>
      rw [hread] at ha
      cases ha
      exact ⟨kind, a, hkind, hread, rfl⟩

theorem name_of_assigned? (h : assigned? v = some p) : p.1 = lowerCase v.1 := by
  obtain ⟨kind, a, -, -, rfl⟩ := exists_read_of_assigned? h
  rfl

theorem assigned?_of_not_isKnown (h : isKnown v = false) : assigned? v = none := by
  rw [isKnown, Option.isSome_eq_false_iff, Option.isNone_iff_eq_none] at h
  rw [assigned?, h]

/-! ## All variables -/

/-- What is no setting is passed over. -/
theorem readVariables_of_not_isKnown (h : isKnown v = false) :
    readVariables before (v :: given) = readVariables before given := by
  rw [isKnown, Option.isSome_eq_false_iff, Option.isNone_iff_eq_none] at h
  simp only [readVariables, h]

theorem readVariables_of_assigned? (h : assigned? v = some p) (fresh : before.lookup p.1 = none) :
    readVariables before (v :: given) = readVariables (p :: before) given := by
  obtain ⟨kind, a, hkind, hread, rfl⟩ := exists_read_of_assigned? h
  have hfresh : (before.lookup (lowerCase v.1)).isSome = false := by rw [fresh]; rfl
  simp only [readVariables, hkind, hfresh, hread]
  rfl

/-- A variable that can be read and is read for the first time is all that reading goes on after,
unless it is none of a setting. -/
theorem exists_of_readVariables (known : isKnown v)
    (h : readVariables before (v :: given) = .ok assigned) :
    ∃ p, assigned? v = some p ∧ before.lookup p.1 = none := by
  obtain ⟨kind, hkind⟩ := Option.isSome_iff_exists.1 known
  simp only [readVariables, hkind] at h
  split at h
  · cases h
  · next fresh =>
    split at h
    · cases h
    · next a hread =>
      refine ⟨(lowerCase v.1, a), ?_, Option.not_isSome_iff_eq_none.1 fresh⟩
      simp only [assigned?, hkind, hread]
      rfl

/-- Variables that can be read, in whatever order: each that is one of a setting has a value of its
kind, and no two are of the same setting. -/
structure AreReadable (given : List (String × String)) : Prop where
  values : ∀ v ∈ given, isKnown v → (assigned? v).isSome
  once : ((given.filterMap assigned?).map Prod.fst).Nodup

theorem readVariables_eq_ok_iff (once : (before.map Prod.fst).Nodup) :
    readVariables before given = .ok assigned ↔
      (∀ v ∈ given, isKnown v → (assigned? v).isSome) ∧
        assigned = (given.filterMap assigned?).reverse ++ before ∧
        (assigned.map Prod.fst).Nodup := by
  induction given generalizing before with
  | nil =>
    constructor
    · intro h
      obtain rfl : before = assigned := Except.ok.inj h
      exact ⟨by simp, rfl, once⟩
    · rintro ⟨-, rfl, -⟩
      rfl
  | cons v given ih =>
    cases hknown : isKnown v with
    | false =>
      rw [readVariables_of_not_isKnown hknown, ih once,
        List.filterMap_cons_none (assigned?_of_not_isKnown hknown)]
      simp [hknown]
    | true =>
      constructor
      · intro h
        obtain ⟨p, hp, hfresh⟩ := exists_of_readVariables hknown h
        rw [readVariables_of_assigned? hp hfresh] at h
        have honce : ((p :: before).map Prod.fst).Nodup :=
          List.nodup_cons.2 ⟨Entries.lookup_eq_none_iff_not_mem.1 hfresh, once⟩
        obtain ⟨hvalues, hassigned, hnames⟩ := (ih honce).1 h
        refine ⟨List.forall_mem_cons.2 ⟨fun _ => by rw [hp]; rfl, hvalues⟩, ?_, hnames⟩
        rw [hassigned, List.filterMap_cons_some hp, List.reverse_cons, List.append_assoc]
        rfl
      · rintro ⟨hvalues, hassigned, hnames⟩
        obtain ⟨p, hp⟩ := Option.isSome_iff_exists.1 (hvalues v List.mem_cons_self hknown)
        rw [List.filterMap_cons_some hp, List.reverse_cons, List.append_assoc,
          List.singleton_append] at hassigned
        have honce : ((p :: before).map Prod.fst).Nodup := by
          rw [hassigned, List.map_append] at hnames
          exact hnames.of_append_right
        have hfresh : before.lookup p.1 = none :=
          Entries.lookup_eq_none_iff_not_mem.2 (List.nodup_cons.1 honce).1
        rw [readVariables_of_assigned? hp hfresh, ih honce]
        exact ⟨(List.forall_mem_cons.1 hvalues).2, hassigned, hnames⟩

/-! ## The settings that variables make -/

/-- Settings depend only on what is found under each name. -/
theorem ofAssigned_congr {some other : List (String × Assigned)}
    (h : ∀ name, some.lookup name = other.lookup name) : ofAssigned some = ofAssigned other := by
  simp only [ofAssigned, h]

/-- Which settings variables make, said without their order. -/
theorem load_eq_ok_iff {s : Settings} :
    load given = .ok s ↔
      AreReadable given ∧ s = ofAssigned (given.filterMap assigned?) ∧ s.validate = .ok () := by
  have hreads : ∀ assigned, readVariables [] given = .ok assigned ↔
      AreReadable given ∧ assigned = (given.filterMap assigned?).reverse := by
    intro assigned
    have hnone : (([] : List (String × Assigned)).map Prod.fst).Nodup := List.nodup_nil
    rw [readVariables_eq_ok_iff hnone, List.append_nil]
    constructor
    · rintro ⟨hvalues, rfl, hnames⟩
      rw [List.map_reverse, List.nodup_reverse] at hnames
      exact ⟨⟨hvalues, hnames⟩, rfl⟩
    · rintro ⟨hreadable, rfl⟩
      refine ⟨hreadable.values, rfl, ?_⟩
      rw [List.map_reverse, List.nodup_reverse]
      exact hreadable.once
  have hsame (hreadable : AreReadable given) :
      ofAssigned (given.filterMap assigned?).reverse = ofAssigned (given.filterMap assigned?) :=
    (ofAssigned_congr (Entries.lookup_eq_of_perm hreadable.once (List.reverse_perm _).symm)).symm
  constructor
  · intro h
    simp only [load] at h
    split at h
    · cases h
    · next assigned hread =>
      obtain ⟨hreadable, rfl⟩ := (hreads assigned).1 hread
      rw [hsame hreadable] at h
      split at h
      · cases h
      · next hvalid =>
        obtain rfl := Except.ok.inj h
        exact ⟨hreadable, rfl, hvalid⟩
  · rintro ⟨hreadable, rfl, hvalid⟩
    simp only [load, (hreads _).2 ⟨hreadable, rfl⟩, hsame hreadable, hvalid]

/-- The order of variables leaves no trace in the settings that they make. -/
theorem load_eq_ok_of_perm (perm : given.Perm others) {s : Settings} (h : load given = .ok s) :
    load others = .ok s := by
  obtain ⟨hreadable, hs, hvalid⟩ := load_eq_ok_iff.1 h
  have hassigned : (given.filterMap assigned?).Perm (others.filterMap assigned?) :=
    perm.filterMap _
  refine load_eq_ok_iff.2 ⟨⟨fun v hv => hreadable.values v (perm.mem_iff.2 hv), ?_⟩, ?_, hvalid⟩
  · exact (hassigned.map Prod.fst).nodup_iff.1 hreadable.once
  · rw [hs]
    exact ofAssigned_congr (Entries.lookup_eq_of_perm hreadable.once hassigned)

/-- What is no setting can be left out, even if the others are refused. -/
theorem load_filter_isKnown (given : List (String × String)) :
    load (given.filter isKnown) = load given := by
  have hreads : ∀ before, readVariables before (given.filter isKnown) =
      readVariables before given := by
    induction given with
    | nil => exact fun _ => rfl
    | cons v given ih =>
      intro before
      cases hknown : isKnown v with
      | false => rw [List.filter_cons_of_neg (by simp [hknown]), ih,
          readVariables_of_not_isKnown hknown]
      | true =>
        rw [List.filter_cons_of_pos hknown]
        simp only [readVariables, ih]
  simp only [load, hreads]

/-- Two variables of one setting are refused. -/
theorem not_areReadable_of_twice (twice : [v, w].Sublist given) (known : isKnown v)
    (same : lowerCase v.1 = lowerCase w.1) : ¬ AreReadable given := by
  intro hreadable
  have hknown : isKnown w := by rwa [isKnown, ← same]
  have hmem : ∀ u ∈ [v, w], u ∈ given := fun u hu => twice.subset hu
  obtain ⟨p, hp⟩ := Option.isSome_iff_exists.1 (hreadable.values v (hmem v (by simp)) known)
  obtain ⟨q, hq⟩ := Option.isSome_iff_exists.1 (hreadable.values w (hmem w (by simp)) hknown)
  have hnames : [p.1, q.1].Sublist ((given.filterMap assigned?).map Prod.fst) := by
    have hsub := (twice.filterMap assigned?).map Prod.fst
    rwa [List.filterMap_cons_some hp, List.filterMap_cons_some hq] at hsub
  have hdistinct := hnames.nodup hreadable.once
  rw [name_of_assigned? hp, name_of_assigned? hq, same] at hdistinct
  simp at hdistinct

/-! ## Settings that fit together -/

/-- What settings that fit together fulfil. -/
structure FitTogether (s : Settings) : Prop where
  /-- The failure ratio is above zero; a NaN is above nothing. -/
  ratio_pos : Binary64.zero.lt s.breakerFailureRatio
  ratio_le_one : s.breakerFailureRatio.le (.ofNat 1)
  prefetch : 0 < s.prefetch
  slots : 0 < s.slots
  trials : 0 < s.breakerHalfOpenRequests
  project : s.sink = .gateway → ∃ project, s.gatewayProject = some project ∧ project ≠ ""

theorem validate_eq_ok_iff {s : Settings} : s.validate = .ok () ↔ FitTogether s := by
  have hproject : ¬ (s.sink = .gateway ∧ s.gatewayProject.all (·.isEmpty)) ↔
      (s.sink = .gateway → ∃ project, s.gatewayProject = some project ∧ project ≠ "") := by
    cases s.gatewayProject <;> simp
  constructor
  · intro h
    unfold validate at h
    split at h
    · cases h
    · next share =>
      obtain ⟨hpos, hle⟩ := Decidable.not_not.1 share
      split at h
      · cases h
      · next prefetch =>
        split at h
        · cases h
        · next slots =>
          split at h
          · cases h
          · next trials =>
            split at h
            · cases h
            · next project =>
              exact ⟨hpos, hle, Nat.pos_of_ne_zero prefetch, Nat.pos_of_ne_zero slots,
                Nat.pos_of_ne_zero trials, hproject.1 project⟩
  · intro h
    rw [validate, if_neg (not_not_intro ⟨h.ratio_pos, h.ratio_le_one⟩),
      if_neg (Nat.ne_of_gt h.prefetch), if_neg (Nat.ne_of_gt h.slots),
      if_neg (Nat.ne_of_gt h.trials), if_neg (hproject.2 h.project)]

/-- **Settings do not depend on the order of variables.** In whatever order variables come, they
make the same settings or none; those that are no settings may be added or left out, even if others
are refused; two of the same setting are refused wherever they stand; and the settings that are made
fit together. -/
theorem load_whatever_order :
    (∀ given others : List (String × String), given.Perm others →
      ∀ s, load given = .ok s ↔ load others = .ok s) ∧
    (∀ given others : List (String × String), given.filter isKnown = others.filter isKnown →
      load given = load others) ∧
    (∀ (given : List (String × String)) (v w : String × String), [v, w].Sublist given →
      isKnown v → lowerCase v.1 = lowerCase w.1 → ∃ e, load given = .error e) ∧
    (∀ (given : List (String × String)) (s : Settings), load given = .ok s → FitTogether s) := by
  refine ⟨fun given others perm s => ⟨?_, ?_⟩, fun given others same => ?_,
    fun given v w twice known same => ?_, fun given s h => ?_⟩
  · exact load_eq_ok_of_perm perm
  · exact load_eq_ok_of_perm perm.symm
  · rw [← load_filter_isKnown given, same, load_filter_isKnown]
  · cases hload : load given with
    | error e => exact ⟨e, rfl⟩
    | ok s => exact absurd (load_eq_ok_iff.1 hload).1 (not_areReadable_of_twice twice known same)
  · exact validate_eq_ok_iff.1 (load_eq_ok_iff.1 h).2.2

/-- Three variables in two orders, with one of no setting among them; and the first of them twice,
once in small letters. -/
theorem loaded_in_either_order :
    (∃ s, load [("MAX_RETRIES", "3"), ("DELIVERY_SINK", "log"), ("PREFETCH_COUNT", "+20")] = .ok s ∧
      load [("PREFETCH_COUNT", "+20"), ("HOME", "/"), ("DELIVERY_SINK", "log"),
        ("MAX_RETRIES", "3")] = .ok s ∧ FitTogether s ∧ s.maxRetries = 3 ∧ s.prefetch = 20) ∧
    ∃ e, load [("MAX_RETRIES", "3"), ("HOME", "/"), ("max_retries", "3")] = .error e := by
  obtain ⟨horder, hunknown, htwice, hfit⟩ := load_whatever_order
  have hany : (load [("MAX_RETRIES", "3"), ("DELIVERY_SINK", "log"),
      ("PREFETCH_COUNT", "+20")]).toOption.any fun s => s.maxRetries = 3 ∧ s.prefetch = 20 := by
    decide +kernel
  obtain ⟨s, hload, hvalues⟩ := exists_of_any_load hany
  obtain ⟨hretries, hprefetch⟩ := of_decide_eq_true hvalues
  refine ⟨⟨s, hload, ?_, hfit _ s hload, hretries, hprefetch⟩, ?_⟩
  · rw [hunknown _ [("PREFETCH_COUNT", "+20"), ("DELIVERY_SINK", "log"), ("MAX_RETRIES", "3")]
      (by decide +kernel)]
    exact (horder _ _ (by decide) s).1 hload
  · exact htwice _ ("MAX_RETRIES", "3") ("max_retries", "3") (by decide) (by decide +kernel)
      (by decide +kernel)

end Settings

end Courier
