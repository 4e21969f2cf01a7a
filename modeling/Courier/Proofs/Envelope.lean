import Courier.Envelope
import Courier.Profile
import Courier.Template.Basic
import Courier.Proofs.Json.Parts

/-!
# The data of an envelope, in two steps and in one

The data of an answer is read in two steps, first as something that is skipped and then as what it
should be. The steps go by different rules: what is skipped may nest without limit and may hold
strings and numbers that cannot be read. Still both see the same envelope. Whatever the second step
reads, the first has read up to its data, and they agree on whether there is any; so the two steps
together come to reading the envelope with its data at once, and a fault of the data is told from a
fault of the envelope just when the envelope alone is in order.

## Main definitions

* `Envelope.outline`: an envelope as it is when its data is skipped.
* `Envelope.covers_read`: reading an envelope with its data skipped covers reading it with them.
* `Envelope.Carries`, `Envelope.Mismatches`: what a body is, said without the two steps.
* `Envelope.ComesToOne`, `Envelope.decodeData_comesToOne`: what comes of the two steps.
* `Envelope.data?`: the part of a document that the data is read of.
-/

namespace Courier.Envelope

open Json (Reader Fault Document)

variable {α : Type} {readData : Reader α} {body : List UInt8} {a : α} {fault : Fault}

/-! ## The envelope that both steps see -/

/-- An envelope as it is when its data is skipped. -/
def outline (e : Envelope α) : Envelope Unit where
  succeeded := e.succeeded
  data := e.data.map fun _ => ()
  error := e.error
  message := e.message
  page := e.page

/-- A draft as it is when the data is skipped. -/
def Draft.outline (d : Draft α) : Draft Unit where
  succeeded := d.succeeded
  data := d.data.map (Option.map fun _ => ())
  error := d.error
  message := d.message
  page := d.page

/-- Every entry but the data is read the same way in both steps. -/
theorem covers_fields (h : readData.IsThorough) :
    List.Forall₂ (Json.Field.Covers Draft.outline) (fields readData) (fields Reader.skip) := by
  have hdata := Reader.Covers.optional h.covers_skip
  refine .cons ?success (.cons ?data (.cons ?error (.cons ?message (.cons ?page .nil))))
  case data => exact .entry (fun _ => rfl) (fun _ _ => rfl) hdata
  all_goals
    exact .entry (fun _ => (congrFun Option.map_id _).symm) (fun _ _ => rfl) (Reader.Covers.refl _)

theorem finish_outline {d : Draft α} {e : Envelope α} (h : d.finish = .ok e) :
    d.outline.finish = .ok e.outline := by
  obtain ⟨succeeded, hsucceeded, hrest⟩ := Json.exists_of_bind_eq_ok h
  obtain rfl := Except.ok.inj hrest
  simp only [Draft.finish, Draft.outline, hsucceeded]
  cases d.data <;> rfl

/-- What is read with its data is read without them, too. -/
theorem covers_read (h : readData.IsThorough) :
    Reader.Covers outline (read readData) (read Reader.skip) :=
  .record (covers_fields h) rfl finish_outline

/-! ## What a body is -/

/-- The body is a successful answer with these data. -/
def Carries (readData : Reader α) (body : List UInt8) (a : α) : Prop :=
  ∃ e, Json.decode (read readData) body = .ok e ∧ e.succeeded ∧ e.data = some a

/-- The body is a successful answer with data if the data is skipped, and cannot be read with it. -/
def Mismatches (readData : Reader α) (body : List UInt8) (fault : Fault) : Prop :=
  (∃ probe, Json.decode (read Reader.skip) body = .ok probe ∧ probe.succeeded ∧
    probe.data.isSome) ∧
  Json.decode (read readData) body = .error fault

theorem decodeData_of_carries (h : readData.IsThorough) (carries : Carries readData body a) :
    decodeData readData body = .ok a := by
  obtain ⟨e, hread, hsucceeded, hdata⟩ := carries
  have hprobe := (covers_read h).decode hread
  simp [decodeData, hprobe, hread, outline, hsucceeded, hdata]

theorem decodeData_of_mismatches (mismatches : Mismatches readData body fault) :
    decodeData readData body = .error (.payload fault.text) := by
  obtain ⟨⟨probe, hprobe, hsucceeded, hdata⟩, hread⟩ := mismatches
  have hnone : probe.data.isNone = false := by
    rw [← Option.not_isSome, hdata]
    rfl
  simp [decodeData, hprobe, hread, hsucceeded, hnone]

/-- An answer that says that it has data has them when they are read. -/
theorem isSome_data (h : readData.IsThorough) {probe : Envelope Unit} {e : Envelope α}
    (hprobe : Json.decode (read Reader.skip) body = .ok probe)
    (hread : Json.decode (read readData) body = .ok e) : e.data.isSome = probe.data.isSome := by
  have hsame := (covers_read h).decode hread
  rw [hprobe] at hsame
  rw [Except.ok.inj hsame, outline, Option.isSome_map]

theorem decodeData_otherwise (h : readData.IsThorough) (empty : ¬ ∃ a, Carries readData body a)
    (fits : ¬ ∃ fault, Mismatches readData body fault) :
    ∃ text, decodeData readData body = .error (.envelope text) := by
  unfold decodeData
  cases hprobe : Json.decode (read Reader.skip) body with
  | error fault => exact ⟨_, rfl⟩
  | ok probe =>
    cases hsucceeded : probe.succeeded with
    | false => exact ⟨_, if_pos (by rw [hsucceeded]; rfl)⟩
    | true =>
      have hgoesOn : ¬ (!probe.succeeded) = true := by simp [hsucceeded]
      cases hdata : probe.data with
      | none => exact ⟨_, (if_neg hgoesOn).trans (if_pos (by rw [hdata]; rfl))⟩
      | some _ =>
        exfalso
        have hsome : probe.data.isSome = true := by rw [hdata]; rfl
        cases hread : Json.decode (read readData) body with
        | error fault => exact fits ⟨fault, ⟨probe, hprobe, hsucceeded, hsome⟩, hread⟩
        | ok e =>
          obtain ⟨a, ha⟩ := Option.isSome_iff_exists.1 ((isSome_data h hprobe hread).trans hsome)
          have hsame := (covers_read h).decode hread
          rw [hprobe] at hsame
          obtain rfl := Except.ok.inj hsame
          exact empty ⟨a, e, hread, hsucceeded, ha⟩

/-! ## Both steps -/

/-- The two steps come to reading the envelope with its data at once. -/
structure ComesToOne (readData : Reader α) (body : List UInt8) : Prop where
  data : ∀ a, decodeData readData body = .ok a ↔ Carries readData body a
  mismatch : ∀ text, decodeData readData body = .error (.payload text) ↔
    ∃ fault, Mismatches readData body fault ∧ fault.text = text
  /-- Whatever is neither is a fault of the envelope. -/
  otherwise : (∃ text, decodeData readData body = .error (.envelope text)) ↔
    (¬ ∃ a, Carries readData body a) ∧ ¬ ∃ fault, Mismatches readData body fault
  /-- The second step does not find data missing that the first has seen. -/
  neverWithout : ∀ {probe : Envelope Unit} {e : Envelope α},
    Json.decode (read Reader.skip) body = .ok probe → probe.data.isSome →
      Json.decode (read readData) body = .ok e → e.data.isSome

/-- A body is of one of three kinds, and what the two steps make of it tells which. -/
theorem decodeData_cases (h : readData.IsThorough) (body : List UInt8) :
    (∃ a, Carries readData body a ∧ decodeData readData body = .ok a) ∨
    (∃ fault, Mismatches readData body fault ∧
      decodeData readData body = .error (.payload fault.text)) ∨
    ((¬ ∃ a, Carries readData body a) ∧ (¬ ∃ fault, Mismatches readData body fault) ∧
      ∃ text, decodeData readData body = .error (.envelope text)) := by
  by_cases hcarries : ∃ a, Carries readData body a
  · obtain ⟨a, ha⟩ := hcarries
    exact .inl ⟨a, ha, decodeData_of_carries h ha⟩
  · by_cases hmismatches : ∃ fault, Mismatches readData body fault
    · obtain ⟨fault, hfault⟩ := hmismatches
      exact .inr (.inl ⟨fault, hfault, decodeData_of_mismatches hfault⟩)
    · exact .inr (.inr ⟨hcarries, hmismatches, decodeData_otherwise h hcarries hmismatches⟩)

theorem comesToOne_of_isThorough (h : readData.IsThorough) (body : List UInt8) :
    ComesToOne readData body := by
  have hcases := decodeData_cases h body
  refine ⟨fun a => ⟨fun hresult => ?_, decodeData_of_carries h⟩,
    fun text => ⟨fun hresult => ?_, ?_⟩, ⟨?_, fun ⟨hempty, hfits⟩ => ?_⟩, ?_⟩
  · rcases hcases with ⟨b, hb, hdecoded⟩ | ⟨fault, -, hdecoded⟩ | ⟨-, -, text, hdecoded⟩
    · obtain rfl : b = a := Except.ok.inj (hdecoded.symm.trans hresult)
      exact hb
    · cases hdecoded.symm.trans hresult
    · cases hdecoded.symm.trans hresult
  · rcases hcases with ⟨b, -, hdecoded⟩ | ⟨fault, hfault, hdecoded⟩ | ⟨-, -, text, hdecoded⟩
    · cases hdecoded.symm.trans hresult
    · have hsame := Except.error.inj (hdecoded.symm.trans hresult)
      exact ⟨fault, hfault, LookupError.payload.inj hsame⟩
    · cases hdecoded.symm.trans hresult
  · rintro ⟨fault, hfault, rfl⟩
    exact decodeData_of_mismatches hfault
  · rintro ⟨text, hresult⟩
    rcases hcases with ⟨b, -, hdecoded⟩ | ⟨fault, -, hdecoded⟩ | ⟨hempty, hfits, -⟩
    · cases hdecoded.symm.trans hresult
    · cases hdecoded.symm.trans hresult
    · exact ⟨hempty, hfits⟩
  · exact decodeData_otherwise h hempty hfits
  · intro probe e hprobe hdata hread
    exact (isSome_data h hprobe hread).trans hdata

/-- Whatever a body is, and whether its data should be a user, a template or any value, reading the
data in two steps comes to reading the envelope with the data at once. -/
theorem decodeData_comesToOne (body : List UInt8) :
    ComesToOne Profile.read body ∧ ComesToOne Template.read body ∧ ComesToOne Reader.value body :=
  ⟨comesToOne_of_isThorough .record body, comesToOne_of_isThorough .record body,
    comesToOne_of_isThorough Reader.isThorough_value body⟩

-- a number that is out of range can be skipped and not read
example : decodeData Profile.read (Text.Utf8.encode
      "\x7b\"success\":true,\"data\":\x7b\"language\":1e400\x7d\x7d".toList) =
    .error (.payload "malformed JSON") := by
  decide +kernel

/-! ## Where the data is found -/

/-- The part of an envelope that is its data. -/
def data? (d : Document) : Option Document :=
  d.part? ["success", "data", "error", "message", "meta"] "data"

theorem isEntry_data (readData : Reader α) :
    ∃ field : Json.Field (Draft α), field.name = "data" ∧
      field.IsEntry (fields readData) (·.data) (Reader.optional readData) := by
  have honce : ["success", "data", "error", "message", "meta"].Nodup := by decide
  refine ⟨_, rfl, .entry rfl honce (fun _ _ => rfl) ?_⟩
  simp only [fields, List.forall_mem_cons]
  exact ⟨.inr (.entry fun _ _ => rfl), .inl rfl, .inr (.entry fun _ _ => rfl),
    .inr (.entry fun _ _ => rfl), .inr (.entry fun _ _ => rfl), by simp⟩

/-- The data is read of its part, one level below the envelope. -/
theorem exists_data_of_read {depth : Nat} {d : Document} {e : Envelope α}
    (hread : read readData depth d = .ok e) (hdata : e.data = some a) :
    ∃ inner part, depth = inner + 1 ∧ data? d = some part ∧ part ≠ .null ∧
      readData inner part = .ok a := by
  obtain ⟨field, hname, hentry⟩ := isEntry_data readData
  obtain ⟨inner, draft, hinner, hfinish, hrel⟩ := hentry.exists_of_record rfl hread
  obtain ⟨succeeded, -, hrest⟩ := Json.exists_of_bind_eq_ok hfinish
  obtain rfl := Except.ok.inj hrest
  have hsome : draft.data = some (some a) := by
    cases hdraft : draft.data with
    | none => simp [hdraft] at hdata
    | some given => simpa [hdraft] using hdata
  rw [hname, hsome] at hrel
  change Option.Rel _ (data? d) _ at hrel
  generalize data? d = part? at hrel ⊢
  cases hrel with
  | @some part _ hpart =>
    cases part with
    | null => cases hpart
    | _ =>
      obtain ⟨b, hb, hsame⟩ := Json.exists_of_map_eq_ok hpart
      rw [Option.some.inj hsame] at hb
      exact ⟨inner, _, hinner, rfl, Document.noConfusion, hb⟩

end Courier.Envelope
