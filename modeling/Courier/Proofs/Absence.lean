import Courier.Proofs.Envelope
import Courier.Proofs.Json.Documents

/-!
# Null, missing and blank

The services leave out what they do not know, or give null for it. To whoever looks something up
there is no difference: users and templates are read alike with a null member and without it,
wherever it stands among the others and whatever else is wrong with them. And a user whose token is
left out, null or blank is one that nothing can be delivered to, not one that cannot be read.

## Main definitions

* `Profile.token?`, `Profile.IsTokenless`: the part of a user that is the token, and whether it says
  nothing.
* `Envelope.DataDiffer`, `Envelope.GivesNull`: two bodies that differ in the data, of which one has
  a null member more.
* `Envelope.null_missing_and_blank`.
-/

namespace Courier

open Json (Reader Value Fault Document Members Items)

/-! ## Users and templates -/

namespace Profile

/-- What is absent is empty or false. -/
def Draft.finish (d : Draft) : Except Fault Profile :=
  .ok ⟨d.pushToken.getD "", d.language.getD "", d.isActive.getD false⟩

/-- Every field of a user may as well be null as be left out. -/
theorem nullIsAbsent : ∀ field ∈ fields, field.isSet {} = false ∧
    ∃ clear, field.NullIsAbsent fields Draft.finish clear := by
  simp only [fields, List.forall_mem_cons]
  refine ⟨⟨rfl, _, .entry rfl (fun _ => rfl) ?_ ?token⟩,
    ⟨rfl, _, .entry rfl (fun _ => rfl) ?_ ?language⟩,
    ⟨rfl, _, .entry rfl (fun _ => rfl) ?_ ?active⟩, by simp⟩
  case token =>
    simp only [List.forall_mem_cons]
    refine ⟨.inl rfl, .inr (.entry ?_ ?_ ?_), .inr (.entry ?_ ?_ ?_), by simp⟩
    all_goals intros; rfl
  case language =>
    simp only [List.forall_mem_cons]
    refine ⟨.inr (.entry ?_ ?_ ?_), .inl rfl, .inr (.entry ?_ ?_ ?_), by simp⟩
    all_goals intros; rfl
  case active =>
    simp only [List.forall_mem_cons]
    refine ⟨.inr (.entry ?_ ?_ ?_), .inr (.entry ?_ ?_ ?_), .inl rfl, by simp⟩
    all_goals intros; rfl
  all_goals
    intro draft hget
    cases draft
    cases hget
    rfl

/-- A user is read alike with a null member and without it. -/
theorem read_addsNull {field : Json.Field Draft} (hfield : field ∈ fields)
    {members members' : Members} (adds : Members.AddsNull field.name members members')
    (absent : members.member? field.name = none) (depth : Nat) :
    read depth (.object members') = read depth (.object members) := by
  obtain ⟨unset, clear, hnull⟩ := nullIsAbsent field hfield
  exact hnull.record_addsNull unset adds absent depth

end Profile

namespace Template

/-- An absent text is empty, and an absent image is none. -/
def Draft.finish (d : Draft) : Except Fault Template :=
  .ok ⟨d.title.getD "", d.body.getD "", d.linkUrl.getD "", d.image.getD none⟩

/-- Every field of a template may as well be null as be left out. -/
theorem nullIsAbsent : ∀ field ∈ fields, field.isSet {} = false ∧
    ∃ clear, field.NullIsAbsent fields Draft.finish clear := by
  simp only [fields, List.forall_mem_cons]
  refine ⟨⟨rfl, _, .entry rfl (fun _ => rfl) ?_ ?title⟩,
    ⟨rfl, _, .entry rfl (fun _ => rfl) ?_ ?body⟩, ⟨rfl, _, .entry rfl (fun _ => rfl) ?_ ?link⟩,
    ⟨rfl, _, .entry rfl (fun _ => rfl) ?_ ?image⟩, by simp⟩
  case title =>
    simp only [List.forall_mem_cons]
    refine ⟨.inl rfl, .inr (.entry ?_ ?_ ?_), .inr (.entry ?_ ?_ ?_), .inr (.entry ?_ ?_ ?_),
      by simp⟩
    all_goals intros; rfl
  case body =>
    simp only [List.forall_mem_cons]
    refine ⟨.inr (.entry ?_ ?_ ?_), .inl rfl, .inr (.entry ?_ ?_ ?_), .inr (.entry ?_ ?_ ?_),
      by simp⟩
    all_goals intros; rfl
  case link =>
    simp only [List.forall_mem_cons]
    refine ⟨.inr (.entry ?_ ?_ ?_), .inr (.entry ?_ ?_ ?_), .inl rfl, .inr (.entry ?_ ?_ ?_),
      by simp⟩
    all_goals intros; rfl
  case image =>
    simp only [List.forall_mem_cons]
    refine ⟨.inr (.entry ?_ ?_ ?_), .inr (.entry ?_ ?_ ?_), .inr (.entry ?_ ?_ ?_), .inl rfl,
      by simp⟩
    all_goals intros; rfl
  all_goals
    intro draft hget
    cases draft
    cases hget
    rfl

/-- A template is read alike with a null member and without it. -/
theorem read_addsNull {field : Json.Field Draft} (hfield : field ∈ fields)
    {members members' : Members} (adds : Members.AddsNull field.name members members')
    (absent : members.member? field.name = none) (depth : Nat) :
    read depth (.object members') = read depth (.object members) := by
  obtain ⟨unset, clear, hnull⟩ := nullIsAbsent field hfield
  exact hnull.record_addsNull unset adds absent depth

end Template

/-! ## Tokens -/

namespace Profile

/-- The part of a user that is the token. -/
def token? (d : Document) : Option Document :=
  d.part? ["push_token", "language", "is_active"] "push_token"

/-- The token of a user is left out, null or blank. -/
def IsTokenless (d : Document) : Prop :=
  token? d = none ∨ token? d = some .null ∨
    ∃ s, token? d = some (.string (some s)) ∧ Text.IsBlank s

theorem isEntry_pushToken : ∃ field : Json.Field Draft, field.name = "push_token" ∧
    field.IsEntry fields (·.pushToken) (Reader.nullAsDefault "" Reader.string) := by
  refine ⟨_, rfl, .entry rfl (by decide) (fun _ _ => rfl) ?_⟩
  simp only [fields, List.forall_mem_cons]
  exact ⟨.inl rfl, .inr (.entry fun _ _ => rfl), .inr (.entry fun _ _ => rfl), by simp⟩

/-- The token that is read is the one that is given, or empty if none is. -/
theorem token?_of_read {depth : Nat} {d : Document} {p : Profile} (h : read depth d = .ok p) :
    p.pushToken = "" ∧ (token? d = none ∨ token? d = some .null) ∨
      token? d = some (.string (some p.pushToken)) := by
  obtain ⟨field, hname, hentry⟩ := isEntry_pushToken
  obtain ⟨inner, draft, -, hfinish, hrel⟩ := hentry.exists_of_record rfl h
  have htoken : p.pushToken = draft.pushToken.getD "" := by
    obtain rfl := Except.ok.inj hfinish
    rfl
  rw [hname] at hrel
  change Option.Rel _ (token? d) draft.pushToken at hrel
  rw [htoken]
  generalize token? d = part, draft.pushToken = token at hrel ⊢
  cases hrel with
  | none => exact .inl ⟨rfl, .inl rfl⟩
  | @some part s hread =>
    cases part with
    | null =>
      obtain rfl : "" = s := Except.ok.inj hread
      exact .inl ⟨rfl, .inr rfl⟩
    | string text =>
      cases text with
      | none => cases hread
      | some text =>
        obtain rfl : text = s := Except.ok.inj hread
        exact .inr rfl
    | _ => cases hread

/-- Nothing can be delivered to a user whose token is left out, null or blank, and to any other
something can, with the token as it is given. -/
theorem recipient_of_read {depth : Nat} {d : Document} {p : Profile} (h : read depth d = .ok p) :
    (p.recipient = .noEndpoint ↔ IsTokenless d) ∧
    (¬ IsTokenless d → p.recipient = .deliverable p ∧
      token? d = some (.string (some p.pushToken))) := by
  have hblank : Text.IsBlank "" := by decide
  have hrecipient : p.recipient =
      if Text.IsBlank p.pushToken then .noEndpoint else .deliverable p := by
    by_cases hp : Text.IsBlank p.pushToken <;> simp [recipient, hasEndpoint, hp]
  have hiff : Text.IsBlank p.pushToken ↔ IsTokenless d := by
    rcases token?_of_read h with ⟨hempty, hnone | hnull⟩ | htoken
    · simp [IsTokenless, hempty, hblank, hnone]
    · simp [IsTokenless, hempty, hblank, hnull]
    · simp [IsTokenless, htoken]
  constructor
  · rw [← hiff, hrecipient]
    by_cases hp : Text.IsBlank p.pushToken <;> simp [hp]
  · intro htoken
    rw [hrecipient, if_neg (mt hiff.1 htoken)]
    rcases token?_of_read h with ⟨-, hnone | hnull⟩ | hgiven
    · exact absurd (.inl hnone) htoken
    · exact absurd (.inr (.inl hnull)) htoken
    · exact ⟨rfl, hgiven⟩

end Profile

/-! ## Envelopes -/

namespace Envelope

variable {α : Type} {readData : Reader α} {d d' e e' : Document} {body body' : List UInt8}

/-- Two envelopes are the same but for their data. -/
inductive DataDiffer (d d' : Document) : Document → Document → Prop where
  | object {members members' : Members} (h : Members.Differ "data" d d' members members') :
    DataDiffer d d' (.object members) (.object members')
  | array (success : Document) (rest : Items) :
    DataDiffer d d' (.array (.cons success (.cons d rest))) (.array (.cons success (.cons d' rest)))

/-- An envelope is read alike with data that are read alike. -/
theorem read_of_dataDiffer
    (same : ∀ depth, Reader.optional readData depth d' = Reader.optional readData depth d)
    (differ : DataDiffer d d' e e') (depth : Nat) :
    read readData depth e' = read readData depth e := by
  cases depth with
  | zero => cases differ <;> rfl
  | succ depth =>
    cases differ with
    | object h =>
      have hfind : (fields readData).find? (·.name == "data") = some (.entry "data" (·.data)
        (fun a d => { d with data := some a }) (Reader.optional readData)) := rfl
      have hsame (draft : Draft α) : (Json.Field.entry "data" Draft.data
          (fun a d => { d with data := some a }) (Reader.optional readData)).read draft depth d' =
            (Json.Field.entry "data" Draft.data (fun a d => { d with data := some a })
              (Reader.optional readData)).read draft depth d := by
        simp only [Json.Field.entry, same]
      have hmembers := Reader.fieldMembers_differ hfind hsame h {}
      simp only [read, Reader.record, hmembers]
    | array success rest =>
      simp only [read, Reader.record, fields, Reader.fieldItems, Json.Field.entry, same]

/-- The second body is the first with a null member of the name more in its data. -/
def GivesNull (name : String) (body body' : List UInt8) : Prop :=
  ∃ members members', Members.AddsNull name members members' ∧ members.member? name = none ∧
    DataDiffer (.object members) (.object members') (Document.ofBytes body).1
      (Document.ofBytes body').1 ∧
    (Document.ofBytes body').2 = (Document.ofBytes body).2

/-- A null member of a name does not tell bodies apart whose data is read alike with it. -/
theorem decodeData_of_givesNull {name : String}
    (same : ∀ {members members'}, Members.AddsNull name members members' →
      members.member? name = none →
        ∀ depth, readData depth (.object members') = readData depth (.object members))
    (h : GivesNull name body body') : decodeData readData body' = decodeData readData body := by
  obtain ⟨members, members', hadds, habsent, hdiffer, hend⟩ := h
  have hread (depth : Nat) : Reader.optional readData depth (.object members') =
      Reader.optional readData depth (.object members) :=
    congrArg (Except.map some) (same hadds habsent depth)
  have hwhole : (Document.object members').isWhole = (Document.object members).isWhole :=
    hadds.isClosed
  have hskip (depth : Nat) : Reader.optional Reader.skip depth (.object members') =
      Reader.optional Reader.skip depth (.object members) := by
    refine congrArg (Except.map some) ?_
    rw [Reader.skip, Reader.skip, hwhole]
  rw [decodeData, decodeData, Json.decode_congr (read_of_dataDiffer hread hdiffer) hend,
    Json.decode_congr (read_of_dataDiffer hskip hdiffer) hend]

/-- **Null, missing and blank mean the same.** Two bodies of which one has a null member more in its
data, for a field that the other does not have there, come to the same, be it a user or a template
that is looked up, be the member put in or taken out, and be it read at last or not: a fault is told
by its words, not by the place where it was met. And a user that was read is one that nothing can be
delivered to just when the token is left out, null or blank; to any other something can be
delivered, with the token as it is given. -/
theorem null_missing_and_blank :
    (∀ field ∈ Profile.fields, ∀ body body', GivesNull field.name body body' →
      decodeData Profile.read body' = decodeData Profile.read body) ∧
    (∀ field ∈ Template.fields, ∀ body body', GivesNull field.name body body' →
      decodeData Template.read body' = decodeData Template.read body) ∧
    (∀ body p, decodeData Profile.read body = .ok p →
      ∃ d, data? (Document.ofBytes body).1 = some d ∧
      (p.recipient = .noEndpoint ↔ Profile.IsTokenless d) ∧
      (¬ Profile.IsTokenless d → p.recipient = .deliverable p ∧
        Profile.token? d = some (.string (some p.pushToken)))) := by
  refine ⟨fun field hfield body body' h => ?_, fun field hfield body body' h => ?_,
    fun body p hdecoded => ?_⟩
  · exact decodeData_of_givesNull (Profile.read_addsNull hfield) h
  · exact decodeData_of_givesNull (Template.read_addsNull hfield) h
  · obtain ⟨e, hbody, -, he⟩ := ((comesToOne_of_isThorough .record body).data p).1 hdecoded
    obtain ⟨_, d, -, hdata, -, hread⟩ := exists_data_of_read (Json.read_of_decode hbody) he
    exact ⟨d, hdata, Profile.recipient_of_read hread⟩

/-- The body of a successful answer with an object for its data. -/
def bodyWith (members : List (String × Value)) : List UInt8 :=
  Text.Utf8.encode (Value.object [("success", .bool true), ("data", .object members)]).chars

theorem ofBytes_bodyWith {members : List (String × Value)}
    (exact : Value.membersAreExact members) :
    Document.ofBytes (bodyWith members) =
      (.object (.cons (some "success") (.bool true)
        (.cons (some "data") (.object (Value.membersDocument members)) .closed)), true) := by
  have hexact : (Value.object [("success", .bool true), ("data", .object members)]).isExact := by
    simpa [Value.isExact, Value.membersAreExact] using exact
  rw [bodyWith, Json.ofBytes_encode hexact]
  simp only [Value.document, Value.membersDocument]

theorem givesNull_bodyWith {name : String} {members members' : List (String × Value)}
    (exact : Value.membersAreExact members) (exact' : Value.membersAreExact members')
    (adds : Members.AddsNull name (Value.membersDocument members) (Value.membersDocument members'))
    (absent : (Value.membersDocument members).member? name = none) :
    GivesNull name (bodyWith members) (bodyWith members') := by
  rw [GivesNull, ofBytes_bodyWith exact, ofBytes_bodyWith exact']
  exact ⟨_, _, adds, absent, .object (.there _ _ (.here _)), rfl⟩

/-- Of a user more is known than is asked for, but no token. With a null for it the user is read as
the same, and nothing can be delivered to it; and a template without a link is read alike with a
null link. -/
theorem user_without_token :
    decodeData Profile.read (bodyWith [("id", .nat 7), ("language", .string "en")]) =
      .ok ⟨"", "en", false⟩ ∧
    decodeData Profile.read
      (bodyWith [("id", .nat 7), ("push_token", .null), ("language", .string "en")]) =
        .ok ⟨"", "en", false⟩ ∧
    (∃ d, data? (Document.ofBytes
        (bodyWith [("id", .nat 7), ("push_token", .null), ("language", .string "en")])).1 = some d ∧
      Profile.IsTokenless d ∧ (Profile.mk "" "en" false).recipient = .noEndpoint) ∧
    decodeData Template.read (bodyWith [("link_url", .null), ("title", .string "Hi")]) =
      decodeData Template.read (bodyWith [("title", .string "Hi")]) := by
  obtain ⟨hprofile, htemplate, hfound⟩ := null_missing_and_blank
  have hread : decodeData Profile.read (bodyWith [("id", .nat 7), ("language", .string "en")]) =
      .ok ⟨"", "en", false⟩ := by
    decide +kernel
  have htoken : GivesNull "push_token" (bodyWith [("id", .nat 7), ("language", .string "en")])
      (bodyWith [("id", .nat 7), ("push_token", .null), ("language", .string "en")]) :=
    givesNull_bodyWith (by decide) (by decide) (.there _ _ (.here _)) rfl
  have hlink : GivesNull "link_url" (bodyWith [("title", .string "Hi")])
      (bodyWith [("link_url", .null), ("title", .string "Hi")]) :=
    givesNull_bodyWith (by decide) (by decide) (.here _) rfl
  have hthird : Template.fields[2] ∈ Template.fields := List.getElem_mem _
  have hnull := (hprofile _ List.mem_cons_self _ _ htoken).trans hread
  obtain ⟨d, hdata, hiff, -⟩ := hfound _ _ hnull
  exact ⟨hread, hnull, ⟨d, hdata, hiff.1 rfl, rfl⟩, htemplate _ hthird _ _ hlink⟩

end Envelope

end Courier
