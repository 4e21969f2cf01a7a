import Courier.Proofs.Envelope
import Courier.Proofs.Json.Values

/-!
# Answers are read as they were written

An answer leaves out what it does not have, and whoever reads it takes what is left out for absent.
So an answer is read as it was written if its data is: if it is not null, which would be taken for
absent, and nests no deeper than the reader may go within an envelope. What was read itself meets
both. Only doubles may come back as others, and data that holds one is left aside here.

## Main definitions

* `Pagination.read_document`, `Envelope.read_document`: a page and an answer are read back.
* `Envelope.encode`: the body of an answer with any data.
* `Envelope.IsPlain`, `Envelope.isPlain_of_decode`: data that is read back, as is all that was read.
* `Envelope.StandsIn`: an answer as it stands in a body.
* `Envelope.read_as_written`.
-/

namespace Courier

open Json (Reader Value Document)

namespace Pagination

theorem readCount_document (depth : Nat) (n : UInt64) :
    readCount depth (Value.nat n.toNat).document = .ok n := by
  have hbound : n.toNat ≤ UInt64.size - 1 := Nat.le_sub_one_of_lt n.toNat_lt_size
  rw [readCount, Reader.natural_document depth hbound]
  exact congrArg Except.ok UInt64.ofNat_toNat

/-- A page is read as it was written, with all that it says. -/
theorem read_document (p : Pagination) (depth : Nat) :
    read (depth + 1) p.toJson.document = .ok p := by
  simp only [toJson, read, Reader.record, Value.document, Value.membersDocument]
  simp [Reader.fieldMembers, fields, Json.Field.entry, readCount_document, Reader.bool,
    Except.map, Except.bind, bind]

theorem isExact_toJson (p : Pagination) : p.toJson.isExact := by
  have hcount (n : UInt64) : Value.isExact (Value.nat n.toNat) := decide_eq_true n.toNat_lt_size
  simp [toJson, Value.isExact, Value.membersAreExact, hcount]

end Pagination

namespace Envelope

variable {α β : Type} {dataToJson : α → Value}

/-- The body of an answer. -/
def encode (dataToJson : α → Value) (e : Envelope α) : List UInt8 :=
  Text.Utf8.encode (e.toJson dataToJson).chars

theorem isExact_toJson {e : Envelope α} (exact : ∀ a, e.data = some a → (dataToJson a).isExact) :
    (e.toJson dataToJson).isExact := by
  obtain ⟨succeeded, data, error, message, page⟩ := e
  have hpage (p : Pagination) : p.toJson.isExact := p.isExact_toJson
  cases data <;> cases error <;> cases page <;>
    simp_all [toJson, Value.optionalMember, Value.isExact, Value.membersAreExact]

/-- An answer is read as it was written but for its data, of which there is what is read of its
member. -/
theorem read_document {readData : Reader β} (e : Envelope α) {data : Option β} (depth : Nat)
    (absent : e.data = none → data = none)
    (present : ∀ a, e.data = some a →
      Reader.optional readData (depth + 1) (dataToJson a).document = .ok data) :
    read readData (depth + 2) (e.toJson dataToJson).document =
      .ok ⟨e.succeeded, data, e.error, e.message, e.page⟩ := by
  obtain ⟨succeeded, written, error, message, page⟩ := e
  have hpage (p : Pagination) :
      Reader.optional Pagination.read (depth + 1) p.toJson.document = .ok (some p) :=
    Reader.optional_document (by rintro ⟨⟩) (p.read_document depth)
  cases written <;> cases error <;> cases page <;>
    simp_all [toJson, Value.optionalMember, Value.document, Value.membersDocument, read,
      Reader.record, Reader.fieldMembers, fields, Json.Field.entry, Reader.bool, Reader.string,
      Reader.optional, Draft.finish, Json.require, Except.map, Except.bind, bind, pure, Except.pure]

/-! ## Any data -/

/-- Data that is read back: it is not null, it is as it would be read, without doubles, and fits
into an envelope. -/
structure IsPlain (v : Value) : Prop where
  given : v ≠ .null
  proper : v.IsProper
  integral : v.isIntegral
  nesting : v.nesting ≤ 126

theorem IsPlain.isExact {v : Value} (h : IsPlain v) : v.isExact :=
  Value.isExact_of_isProper v h.proper h.integral

theorem IsPlain.optional_document {v : Value} (h : IsPlain v) :
    Reader.optional Reader.value 126 v.document = .ok (some v) :=
  Reader.optional_document h.given (Reader.value_document v h.proper h.nesting)

/-- An answer whose data is plain is read from its body as it was written. -/
theorem decode_encode {e : Envelope Value} (plain : ∀ v, e.data = some v → IsPlain v) :
    Json.decode (read Reader.value) (e.encode id) = .ok e := by
  have hexact : (e.toJson id).isExact := isExact_toJson fun v hv => (plain v hv).isExact
  rw [encode, Json.decode_encode _ hexact]
  refine read_document e 125 id fun v hv => ?_
  rw [hv]
  exact (plain v hv).optional_document

/-- Data that was read is plain but for its doubles. -/
theorem isPlain_of_decode {body : List UInt8} {e : Envelope Value} {v : Value}
    (h : Json.decode (read Reader.value) body = .ok e) (hdata : e.data = some v)
    (integral : v.isIntegral) : IsPlain v := by
  obtain ⟨inner, part, hinner, hpart, hgiven, hread⟩ :=
    exists_data_of_read (Json.read_of_decode h) hdata
  obtain rfl : 126 = inner := Nat.succ.inj hinner
  have hrange := Document.isInRange_of_part? (Document.isInRange_ofBytes body) hpart
  obtain ⟨hproper, hnesting⟩ := Reader.isProper_of_value part hrange hread
  refine ⟨?_, hproper, integral, hnesting⟩
  rintro rfl
  exact hgiven (Reader.eq_null_of_value hread)

/-- The answer as it stands in a body, where what it does not have is left out. -/
def StandsIn (e : Envelope Value) (body : List UInt8) : Prop :=
  ∃ members, (Document.ofBytes body).1 = .object members ∧
    members.member? "success" = some (.bool e.succeeded) ∧
    members.member? "data" = e.data.map Value.document ∧
    members.member? "error" = e.error.map (fun s => .string (some s)) ∧
    members.member? "message" = some (.string (some e.message)) ∧
    members.member? "meta" = e.page.map (fun p => p.toJson.document)

theorem standsIn_encode {e : Envelope Value} (exact : ∀ v, e.data = some v → v.isExact) :
    e.StandsIn (e.encode id) := by
  refine ⟨_, congrArg Prod.fst (Json.ofBytes_encode (isExact_toJson exact)), ?_⟩
  obtain ⟨succeeded, data, error, message, page⟩ := e
  cases data <;> cases error <;> cases page <;>
    simp [Value.optionalMember, Value.membersDocument, Value.document, Json.Members.member?]

/-- **An answer is read as it was written.** Whatever body an answer was read from, if its data
holds no double, then it is read from its own body as the same answer, with all of its page, and
what it does not have does not stand in that body. The same holds of answers that are made here: of
every failure, and of every success with data without doubles that nests no deeper than an envelope
lets it, its integers of 64 bits and its objects with each name once and in order, as a value has
them in memory. Only the success that has null for its data is read as one without data. -/
theorem read_as_written :
    (∀ (body : List UInt8) (e : Envelope Value), Json.decode (read Reader.value) body = .ok e →
      (∀ v, e.data = some v → v.isIntegral) →
        Json.decode (read Reader.value) (e.encode id) = .ok e ∧ e.StandsIn (e.encode id)) ∧
    (∀ error message : String,
      Json.decode (read Reader.value) ((failure error message).encode id) =
        .ok (failure error message)) ∧
    (∀ (v : Value) (message : String), v ≠ .null → v.IsProper → v.isIntegral → v.nesting ≤ 126 →
      Json.decode (read Reader.value) ((success v message).encode id) =
        .ok (success v message)) ∧
    (∀ message : String,
      Json.decode (read Reader.value) ((success Value.null message).encode id) =
        .ok { success Value.null message with data := none }) := by
  refine ⟨fun body e decoded integral => ?_, fun error message => ?_,
    fun v message given proper integral nesting => ?_, fun message => ?_⟩
  · have hplain (v : Value) (hv : e.data = some v) : IsPlain v :=
      isPlain_of_decode decoded hv (integral v hv)
    exact ⟨decode_encode hplain, standsIn_encode fun v hv => (hplain v hv).isExact⟩
  · exact decode_encode (by rintro v ⟨⟩)
  · refine decode_encode ?_
    rintro _ ⟨⟩
    exact ⟨given, proper, integral, nesting⟩
  · have hexact : ((success Value.null message).toJson id).isExact := by
      refine isExact_toJson ?_
      rintro _ ⟨⟩
      rfl
    rw [encode, Json.decode_encode _ hexact]
    refine read_document (success Value.null message) 125 (by rintro ⟨⟩) ?_
    rintro _ ⟨⟩
    rfl

/-- An answer that was not written here: it says what it has in another order, and names a member of
its data twice. -/
def foreignAnswer : Value :=
  .object [("meta", .object [("total", .nat 7)]),
    ("data", .object [("b", .array [.nat 1, .number (.negative 2)]), ("a", .bool true),
      ("a", .null)]),
    ("success", .bool true)]

/-- Such an answer is read, and read again from its own body; and so is an answer that is made
here. -/
theorem foreignAnswer_read_again :
    ∃ e, Json.decode (read Reader.value) (Text.Utf8.encode foreignAnswer.chars) = .ok e ∧
      e.data.map Value.text = some "\x7b\"a\":null,\"b\":[1,-2]\x7d" ∧
      e.page = some { total := 7 } ∧
      Json.decode (read Reader.value) (e.encode id) = .ok e ∧ e.StandsIn (e.encode id) ∧
      Json.decode (read Reader.value) ((success (.array [.string "é"]) "made").encode id) =
        .ok (success (.array [.string "é"]) "made") := by
  have hparts : (Json.decode (read Reader.value) (Text.Utf8.encode foreignAnswer.chars)).map
      (fun e => (e.data.map Value.text, e.page, e.data.all Value.isIntegral)) =
        .ok (some "\x7b\"a\":null,\"b\":[1,-2]\x7d", some { total := 7 }, true) := by
    decide +kernel
  obtain ⟨e, hdecoded, hequal⟩ := Json.exists_of_map_eq_ok hparts
  obtain ⟨hdata, hrest⟩ := Prod.mk.inj hequal
  obtain ⟨hpage, hintegral⟩ := Prod.mk.inj hrest
  rw [Option.all_eq_true] at hintegral
  obtain ⟨hagain, -, hmade, -⟩ := read_as_written
  obtain ⟨hread, hstands⟩ := hagain _ e hdecoded hintegral
  have hnesting : (Value.array [.string "é"]).nesting ≤ 126 := by decide
  exact ⟨e, hdecoded, hdata, hpage, hread, hstands,
    hmade _ _ (by rintro ⟨⟩) ⟨trivial, trivial⟩ rfl hnesting⟩

end Envelope

end Courier
