import Courier.Proofs.Json.Documents
import Courier.Run.Basic

/-!
# Jobs survive their journey

A job travels as the JSON that it is written as. Whoever reads it gets the same job, as long as none
of its ids is blank, which every job that was read itself meets. So a copy that goes around is taken
up as the job that was sent around. The variables of a job are a map, and nothing hangs on the order
in which they are written.

## Main definitions

* `Job.IsWritten`: what may be the body of a job.
* `Job.survives_journey`: the job of the body of a job, and of its copy.
* `Run.begin_of_isWritten_next`: the job of a copy.
-/

namespace Courier

open Json (Reader Value Document Members)

namespace Entries

variable {α : Type}

/-- A new entry is set among those before it, which stay as they are. -/
theorem insert_perm {name : String} (a : α) {entries : List (String × α)}
    (new : ∀ e ∈ entries, name ≠ e.1) : (insert name a entries).Perm ((name, a) :: entries) := by
  induction entries with
  | nil => exact .refl _
  | cons e entries ih =>
    obtain ⟨other, b⟩ := e
    have hne : name ≠ other := new (other, b) List.mem_cons_self
    rw [insert, if_neg hne]
    split
    · exact .refl _
    · have hrest := ih fun f hf => new f (List.mem_cons_of_mem _ hf)
      exact (hrest.cons _).trans (.swap _ _ _)

/-- There is one way to put entries into the order of their names. -/
theorem Ascending.eq_of_perm {entries others : List (String × α)} (h : Ascending entries)
    (h' : Ascending others) (perm : entries.Perm others) : entries = others :=
  perm.eq_of_pairwise (fun _ _ _ _ hlt hgt => absurd hgt (String.lt_asymm hlt)) h h'

end Entries

namespace Dictionary

/-- Entries with names of their own are set among those of a map, in whatever order. -/
theorem foldl_insert_perm (entries : List (String × String)) (d : Dictionary)
    (h : (d.entries ++ entries).Pairwise fun e f => e.1 ≠ f.1) :
    (entries.foldl (fun d e => d.insert e.1 e.2) d).entries.Perm (d.entries ++ entries) := by
  induction entries generalizing d with
  | nil => simp
  | cons e entries ih =>
    have hinsert : (d.insert e.1 e.2).entries.Perm (e :: d.entries) :=
      Entries.insert_perm e.2 fun f hf =>
        ((List.pairwise_append.1 h).2.2 f hf e List.mem_cons_self).symm
    have hmiddle : ((d.insert e.1 e.2).entries ++ entries).Perm (d.entries ++ e :: entries) :=
      (hinsert.append_right entries).trans List.perm_middle.symm
    exact (ih (d.insert e.1 e.2) (hmiddle.symm.pairwise h Ne.symm)).trans hmiddle

/-- A map is the map of its entries, in whatever order they are set. -/
theorem ofList_perm {d : Dictionary} {entries : List (String × String)}
    (perm : entries.Perm d.entries) : ofList entries = d := by
  have hnames : entries.Pairwise fun e f => e.1 ≠ f.1 :=
    perm.symm.pairwise (d.ascending.imp String.ne_of_lt) Ne.symm
  have hset : (ofList entries).entries.Perm entries := foldl_insert_perm entries empty hnames
  exact ext ((ofList entries).ascending.eq_of_perm d.ascending (hset.trans perm))

end Dictionary

namespace Job

variable {job : Job} {payload : List UInt8}

/-- The texts of a map as members of an object. -/
def memberTexts (entries : List (String × String)) : List (String × Value) :=
  entries.map fun e => (e.1, .string e.2)

theorem membersAreExact_memberTexts (entries : List (String × String)) :
    Value.membersAreExact (memberTexts entries) := by
  induction entries with
  | nil => rfl
  | cons e entries ih => simpa [memberTexts, Value.membersAreExact, Value.isExact] using ih

theorem membersWith_memberTexts (depth : Nat) (entries : List (String × String)) :
    Reader.membersWith Reader.string depth (Value.membersDocument (memberTexts entries)) =
      .ok entries := by
  induction entries with
  | nil => rfl
  | cons e entries ih =>
    have hcons : Value.membersDocument (memberTexts (e :: entries)) =
        .cons (some e.1) (.string (some e.2)) (Value.membersDocument (memberTexts entries)) := rfl
    rw [hcons, Reader.membersWith, ih]
    rfl

/-- A job as JSON, with its variables in some order. -/
def jsonIn (job : Job) (order : List (String × String)) : Value :=
  .object [
    ("request_id", .string job.requestId),
    ("user_id", .string job.userId),
    ("template_id", .string job.templateId),
    ("variables", .object (memberTexts order)),
    ("correlation_id", .string job.correlationId),
    ("retry_count", .nat job.retryCount.toNat)]

theorem isExact_jsonIn (order : List (String × String)) : (job.jsonIn order).isExact := by
  have hcount : Value.isExact (Value.nat job.retryCount.toNat) :=
    decide_eq_true (Nat.lt_trans job.retryCount.toNat_lt_size (by decide))
  simp [jsonIn, Value.isExact, Value.membersAreExact, membersAreExact_memberTexts, hcount]

/-- The map of a job's variables is read as it was written, whatever the order. -/
theorem readVariables_document (depth : Nat) {d : Dictionary} {order : List (String × String)}
    (perm : order.Perm d.entries) :
    readVariables (depth + 1) (Value.object (memberTexts order)).document = .ok d := by
  rw [Value.document, readVariables, Reader.pairs, membersWith_memberTexts]
  exact congrArg Except.ok (Dictionary.ofList_perm perm)

theorem readCount_document (depth : Nat) (n : UInt32) :
    readCount depth (Value.nat n.toNat).document = .ok n := by
  have hbound : n.toNat ≤ UInt32.size - 1 := Nat.le_sub_one_of_lt n.toNat_lt_size
  rw [readCount, Reader.natural_document depth hbound]
  exact congrArg Except.ok (UInt32.ofNat_toNat)

/-- A job is read as it was written. -/
theorem read_document (depth : Nat) {order : List (String × String)}
    (perm : order.Perm job.variables.entries) :
    read (depth + 2) (job.jsonIn order).document = .ok job := by
  have hvariables := readVariables_document depth perm
  have hcount := readCount_document (depth + 1) job.retryCount
  simp only [jsonIn, read, Reader.record, Value.document, Value.membersDocument]
  rw [Value.document] at hvariables
  simp [Reader.fieldMembers, fields, Json.Field.entry, Reader.string, hvariables, hcount,
    Except.map, Except.bind, bind]
  rfl

/-- The bytes may be the body of the job: its variables have no order of their own, and may have
been written in any. -/
def IsWritten (job : Job) (body : List UInt8) : Prop :=
  ∃ order, order.Perm job.variables.entries ∧ body = Text.Utf8.encode (job.jsonIn order).chars

theorem isWritten_encode (job : Job) : job.IsWritten job.encode :=
  ⟨job.variables.entries, .refl _, rfl⟩

/-- Whoever reads the body of a job gets the job, if none of its ids is blank. -/
theorem decode_of_isWritten {body : List UInt8} (ids : job.blankId? = none)
    (written : job.IsWritten body) : decode body = .ok job := by
  obtain ⟨order, perm, rfl⟩ := written
  have hread := read_document 125 perm
  rw [decode, Json.decode_encode read (isExact_jsonIn order)]
  simp only [Json.depthLimit, hread, ids]

theorem decode_encode (ids : job.blankId? = none) : decode job.encode = .ok job :=
  decode_of_isWritten ids job.isWritten_encode

/-- A job that was read has no blank id. -/
theorem blankId?_of_decode (h : decode payload = .ok job) : job.blankId? = none := by
  unfold decode at h
  split at h
  · cases h
  · next read _ =>
    split at h
    · cases h
    · next hids =>
      obtain rfl := Except.ok.inj h
      exact hids

/-- A copy has the ids of the job. -/
@[simp] theorem id_next (i : Id) : job.next.id i = job.id i := by
  cases i <;> rfl

@[simp] theorem blankId?_next : job.next.blankId? = job.blankId? := by
  unfold blankId?
  simp only [id_next]

/-- None of the ids is blank if each has a character that is not. -/
theorem blankId?_eq_none_iff :
    job.blankId? = none ↔ ∀ i, ∃ c ∈ (job.id i).toList, Text.isBlank c = false := by
  have hblank (i : Id) : ¬ Text.IsBlank (job.id i) ↔
      ∃ c ∈ (job.id i).toList, Text.isBlank c = false := by
    simp [Text.IsBlank]
  simp only [← hblank]
  rw [blankId?, List.find?_eq_none]
  constructor
  · intro h i
    simpa using h i (by cases i <;> simp)
  · intro h i _
    simpa using h i

theorem retryCount_next :
    job.next.retryCount = .ofNat (min (UInt32.size - 1) (job.retryCount.toNat + 1)) := by
  have hlt := job.retryCount.toNat_lt_size
  rw [next]
  split
  · next last =>
    have hlast : job.retryCount.toNat = UInt32.size - 1 := by rw [last]; rfl
    rw [Nat.min_eq_left (by omega), ← last]
  · next more =>
    have hmore : job.retryCount.toNat ≠ UInt32.size - 1 := fun h =>
      more (by rw [← h, UInt32.ofNat_toNat])
    rw [Nat.min_eq_right (by omega), UInt32.ofNat_add, UInt32.ofNat_toNat]
    rfl

/-- **A job survives its journey.** A job none of whose ids is blank is read from its body as it was
written, whatever characters its texts are made of and in whatever order its variables were written.
Every job that was read has such ids; so it is read again when it is sent around again, and its copy
is read as the copy, whose count is one more unless it is at its greatest. -/
theorem survives_journey :
    (∀ (job : Job) (body : List UInt8), (∀ i, ∃ c ∈ (job.id i).toList, Text.isBlank c = false) →
      job.IsWritten body → decode body = .ok job) ∧
    (∀ (payload : List UInt8) (job : Job), decode payload = .ok job →
      (∀ i, ∃ c ∈ (job.id i).toList, Text.isBlank c = false) ∧
      (∀ body, job.IsWritten body → decode body = .ok job) ∧
      (∀ body, job.next.IsWritten body → decode body = .ok { job with
        retryCount := .ofNat (min (UInt32.size - 1) (job.retryCount.toNat + 1)) })) := by
  refine ⟨fun job body ids written => ?_, fun payload job decoded => ⟨?_, ?_, ?_⟩⟩
  · exact decode_of_isWritten (blankId?_eq_none_iff.2 ids) written
  · exact blankId?_eq_none_iff.1 (blankId?_of_decode decoded)
  · intro body written
    exact decode_of_isWritten (blankId?_of_decode decoded) written
  · intro body written
    have hids : job.next.blankId? = none := by
      rw [blankId?_next]
      exact blankId?_of_decode decoded
    rw [decode_of_isWritten hids written, ← retryCount_next]
    rfl

/-- A job with two variables, the second of which is written first, goes around for the last time
that is counted. -/
theorem last_journey_survived :
    ∃ job : Job, job.variables.entries = [("a", "é"), ("b", "\"\n\\")] ∧
      job.retryCount = 4294967295 ∧ job.IsWritten (Text.Utf8.encode
        (job.jsonIn [("b", "\"\n\\"), ("a", "é")]).chars) ∧
      decode (Text.Utf8.encode (job.jsonIn [("b", "\"\n\\"), ("a", "é")]).chars) = .ok job ∧
      decode job.next.encode = .ok job := by
  let job : Job := {
    requestId := "r\u0000"
    userId := " u"
    templateId := "t"
    «variables» := ⟨[("a", "é"), ("b", "\"\n\\")], List.pairwise_pair.2 (by decide)⟩
    correlationId := "\u2028"
    retryCount := 4294967295 }
  have hids : ∀ i, ∃ c ∈ (job.id i).toList, Text.isBlank c = false := by
    intro i
    cases i with
    | request => exact ⟨'r', by decide, by decide⟩
    | user => exact ⟨'u', by decide, by decide⟩
    | template => exact ⟨'t', by decide, by decide⟩
  have hwritten : job.IsWritten (Text.Utf8.encode
      (job.jsonIn [("b", "\"\n\\"), ("a", "é")]).chars) := ⟨_, .swap _ _ _, rfl⟩
  obtain ⟨hread, hagain⟩ := survives_journey
  have hdecoded := hread job _ hids hwritten
  exact ⟨job, rfl, rfl, hwritten, hdecoded,
    (hagain _ job hdecoded).2.2 job.next.encode job.next.isWritten_encode⟩

end Job

/-- The copy of a job that was taken up is taken up as that very copy. -/
theorem Run.begin_of_isWritten_next {payload body : List UInt8} {job : Job}
    (h : begin payload = .ok job) (written : job.next.IsWritten body) :
    begin body = .ok job.next := by
  have hdecode : Job.decode payload = .ok job := by
    unfold begin at h
    split at h
    · next decoded hdecoded =>
      obtain rfl := Except.ok.inj h
      exact hdecoded
    · cases h
  have hids : job.next.blankId? = none := by
    rw [Job.blankId?_next]
    exact Job.blankId?_of_decode hdecode
  rw [begin, Job.decode_of_isWritten hids written]

end Courier
