import Courier.Proofs.Template.Agreement

/-!
# Sources put together

Two sources may be written one behind the other. The actions of the one stay what they are, and so
do those of the other, unless the braces that meet make a mark of their own, or an action next to
the seam takes the blanks off the text on the other side of it.

The text behind the last action of the first source and the text in front of the first action of the
second become one text. The parser comes to it with the flag of an action of the first source and
leaves it with an action of the second, which is why neither may take blanks off.

## Main definitions

* `Reading.plain`, `Reading.action`: readings put together from their parts.
* `Reading.Joins`: two sources that can be put together.

## Main results

* `splitAtDouble_append`, `splitAtDouble_append_of_absent`: where two texts are cut.
* `map_parseFrom_append`: the rest of a source behind an action, with more behind it.
* `renderPart_append`: two sources that are put together.
-/

namespace Courier.Template

variable {c : Char} {cs more before after : List Char}

/-! ## Cutting -/

/-- A text that is cut is cut at the same place when more comes behind it. -/
theorem splitAtDouble_append (h : splitAtDouble c cs = some (before, after))
    (more : List Char) : splitAtDouble c (cs ++ more) = some (before, after ++ more) := by
  fun_induction splitAtDouble c cs generalizing before after with
  | case1 => cases h
  | case2 => cases h
  | case3 x y rest hxy =>
    obtain ⟨rfl, rfl⟩ := Prod.mk.inj (Option.some.inj h)
    exact if_pos hxy
  | case4 x y rest hxy ih =>
    obtain ⟨⟨front, back⟩, hsplit, hcons⟩ := Option.map_eq_some_iff.1 h
    obtain ⟨rfl, rfl⟩ := Prod.mk.inj hcons
    have hrest : splitAtDouble c (y :: (rest ++ more)) = some (front, back ++ more) := ih hsplit
    rw [List.cons_append, List.cons_append, splitAtDouble, if_neg hxy, hrest]
    rfl

/-- A text that is not cut leaves it to what comes behind it, if the two do not make a mark where
they meet. -/
theorem splitAtDouble_append_of_absent (plain : ¬ [c, c] <:+: cs)
    (seam : ¬ ([c] <:+ cs ∧ [c] <+: more)) :
    splitAtDouble c (cs ++ more) = (splitAtDouble c more).map fun p => (cs ++ p.1, p.2) := by
  induction cs with
  | nil => simp
  | cons x cs ih =>
    have hplain : ¬ [c, c] <:+: cs := fun h => plain (List.infix_cons h)
    have hseam : ¬ ([c] <:+ cs ∧ [c] <+: more) := by
      rintro ⟨hsuffix, hprefix⟩
      exact seam ⟨hsuffix.trans (List.suffix_cons x cs), hprefix⟩
    -- what stands behind the first character, to see whether the two are a mark
    cases hrest : cs ++ more with
    | nil =>
      obtain ⟨rfl, rfl⟩ := List.append_eq_nil_iff.1 hrest
      rfl
    | cons y rest =>
      have hmark : ¬ (x = c ∧ y = c) := by
        rintro ⟨rfl, rfl⟩
        cases cs with
        | nil =>
          obtain rfl : more = y :: rest := hrest
          exact seam ⟨List.suffix_rfl, List.prefix_append [y] rest⟩
        | cons z cs =>
          obtain ⟨rfl, -⟩ := List.cons.inj hrest
          exact plain (List.prefix_append [z, z] cs).isInfix
      rw [List.cons_append, hrest, splitAtDouble, if_neg hmark, ← hrest, ih hplain hseam,
        Option.map_map]
      rfl

/-- A mark at the beginning of a text is its first. -/
theorem CutAt.here (c : Char) (after : List Char) : CutAt [c, c] ([c, c] ++ after) [] after :=
  ⟨rfl, fun _ _ _ => Nat.zero_le _⟩

/-- The first mark of a text is the first mark of the text with more behind it. -/
theorem CutAt.append (h : CutAt [c, c] cs before after) (more : List Char) :
    CutAt [c, c] (cs ++ more) before (after ++ more) :=
  cutAt_of_splitAtDouble (splitAtDouble_append (splitAtDouble_of_cutAt h) more)

/-- The first mark of a text is the first mark of the text with another in front of it. -/
theorem CutAt.append_left (h : CutAt [c, c] more before after) (plain : ¬ [c, c] <:+: cs)
    (seam : ¬ ([c] <:+ cs ∧ [c] <+: more)) :
    CutAt [c, c] (cs ++ more) (cs ++ before) after := by
  apply cutAt_of_splitAtDouble
  rw [splitAtDouble_append_of_absent plain seam, splitAtDouble_of_cutAt h]
  rfl

/-- Two texts without a mark have none together. -/
theorem not_infix_append (plain : ¬ [c, c] <:+: cs) (seam : ¬ ([c] <:+ cs ∧ [c] <+: more))
    (later : ¬ [c, c] <:+: more) : ¬ [c, c] <:+: cs ++ more := by
  rw [← splitAtDouble_eq_none_iff] at later ⊢
  rw [splitAtDouble_append_of_absent plain seam, later]
  rfl

/-! ## Markers -/

/-- What does not begin with a minus sign begins with no marker. -/
theorem LeftMarker.of_head? (h : cs.head? ≠ some '-') : LeftMarker cs false cs := by
  refine .absent ?_
  rintro c rest rfl
  exact absurd rfl h

/-- What does not end with a minus sign ends with no marker. -/
theorem RightMarker.of_getLast? (h : cs.getLast? ≠ some '-') : RightMarker cs false cs := by
  refine .absent ?_
  rintro front c rfl
  exact absurd (by simp) h

/-! ## Parsing -/

variable {values : Dictionary}

@[simp] theorem strip_false (text : List Char) : strip false false text = text := rfl

/-- Segments in front of parsed ones. -/
theorem map_append_renderSegments (parsed : Except SyntaxError (List Segment))
    (front : List Segment) :
    (parsed.map (front ++ ·)).map (renderSegments values) =
      (parsed.map (renderSegments values)).map
        (Rendering.append (renderSegments values front)) := by
  cases parsed with
  | error e => rfl
  | ok segments => exact congrArg Except.ok (renderSegments_append front segments)

/-- One rendering in front of another that is in front of a third. -/
theorem map_append_append (rendered : Except SyntaxError Rendering) (r s : Rendering) :
    (rendered.map (Rendering.append s)).map (Rendering.append r) =
      rendered.map (Rendering.append (r.append s)) := by
  cases rendered with
  | error e => rfl
  | ok t => exact congrArg Except.ok (Rendering.append_assoc r s t).symm

/-- Text in front of a source is rendered as it is. -/
theorem map_parseFrom_append_left (plain : ¬ opening <:+: cs) (r : Reading more)
    (left : ∀ a ∈ r.actions.head?, a.left = false)
    (seam : ¬ (['\x7b'] <:+ cs ∧ ['\x7b'] <+: more)) :
    (parseFrom false (cs ++ more)).map (renderSegments values) =
      ((parseFrom false more).map (renderSegments values)).map (Rendering.append ⟨cs, []⟩) := by
  obtain ⟨cuttings, tail, actions, cuts, reads⟩ := r
  cases cuts with
  | text later =>
    rw [parseFrom_plain (not_infix_append plain seam later), parseFrom_plain later]
    simp [Except.map, Rendering.append]
  | unclosed opens unclosed =>
    rw [parseFrom_unclosed (opens.append_left plain seam) unclosed,
      parseFrom_unclosed opens unclosed]
    rfl
  | action opens closes later =>
    cases reads with
    | @cons _ a _ actions hread hreads =>
    have hleft : a.left = false := left a rfl
    rw [parseFrom_action (opens.append_left plain seam) closes hread,
      parseFrom_action opens closes hread, hleft]
    cases a.meaning with
    | error e => rfl
    | ok name =>
      simp only [Except.bind, strip_false, map_append_renderSegments, map_append_append]
      congr 2
      simp [renderSegments_append, Rendering.append]

/-- The rest of a source behind an action renders with another source behind it as the two do by
themselves. The flag of its last action, or the given one if there is none, is what the other source
begins with. -/
theorem map_parseFrom_append {cuttings : List Cutting} {tail : Tail} {actions : List Action}
    {segments : List Segment} {trimming : Bool} (cuts : Cuts cs cuttings tail)
    (reads : List.Forall₂ (fun cutting action => Action.IsReadOf cutting.inner action)
      cuttings actions)
    (parsed : parseFrom trimming cs = .ok segments)
    (right : (actions.map Action.right).getLastD trimming = false) (r : Reading more)
    (left : ∀ a ∈ r.actions.head?, a.left = false)
    (seam : ¬ (['\x7b'] <:+ cs ∧ ['\x7b'] <+: more)) :
    (parseFrom trimming (cs ++ more)).map (renderSegments values) =
      ((parseFrom false more).map (renderSegments values)).map
        (Rendering.append (renderSegments values segments)) := by
  induction cuts generalizing actions segments trimming with
  | text plain =>
    obtain rfl := List.forall₂_nil_left_iff.1 reads
    obtain rfl : trimming = false := right
    obtain rfl := Except.ok.inj ((parseFrom_plain plain false).symm.trans parsed)
    rw [strip_false, renderSegments_textSegment]
    exact map_parseFrom_append_left plain r left seam
  | unclosed opens unclosed =>
    rw [parseFrom_unclosed opens unclosed] at parsed
    cases parsed
  | @action cs text opened inner rest cuttings tail opens closes later ih =>
    cases reads with
    | @cons _ a _ actions hread hreads =>
    rw [parseFrom_action opens closes hread] at parsed
    rw [parseFrom_action (opens.append more) (closes.append more) hread]
    cases hmeaning : a.meaning with
    | error e =>
      rw [hmeaning] at parsed
      cases parsed
    | ok name =>
      rw [hmeaning] at parsed
      cases hparse : parseFrom a.right rest with
      | error e =>
        simp [Except.bind, hparse, Except.map] at parsed
      | ok behind =>
        simp only [Except.bind, hparse, Except.map, Except.ok.injEq] at parsed
        have hseam : ¬ (['\x7b'] <:+ rest ∧ ['\x7b'] <+: more) := by
          rintro ⟨hsuffix, hprefix⟩
          refine seam ⟨?_, hprefix⟩
          rw [opens.eq, closes.eq]
          exact hsuffix.trans ((List.suffix_append _ _).trans (List.suffix_append _ _))
        have hright : (actions.map Action.right).getLastD a.right = false := by
          rwa [List.map_cons, List.getLastD_cons] at right
        rw [← parsed, renderSegments_append _ behind, Except.bind, map_append_renderSegments,
          ih hreads hparse hright hseam, map_append_append]

/-! ## Rendering -/

/-- A source without an action. -/
def Reading.plain (plain : ¬ opening <:+: cs) : Reading cs :=
  ⟨[], .text cs, [], .text plain, .nil⟩

/-- A source with an action in front of what can be read. -/
def Reading.action {text opened inner rest : List Char} {a : Action}
    (opens : CutAt opening cs text opened) (closes : CutAt closing opened inner rest)
    (reads : Action.IsReadOf inner a) (r : Reading rest) : Reading cs :=
  ⟨⟨text, inner⟩ :: r.cuttings, r.tail, a :: r.actions, .action opens closes r.cuts,
    .cons reads r.reads⟩

@[simp] theorem Reading.actions_plain (plain : ¬ opening <:+: cs) :
    (Reading.plain plain).actions = [] := rfl

@[simp] theorem Reading.actions_action {text opened inner rest : List Char} {a : Action}
    (opens : CutAt opening cs text opened) (closes : CutAt closing opened inner rest)
    (reads : Action.IsReadOf inner a) (r : Reading rest) :
    (Reading.action opens closes reads r).actions = a :: r.actions := rfl

/-- Two sources can be put together: neither of them takes blanks off the text of the other, and the
braces that meet are not two. -/
structure Reading.Joins {first second : List Char} (r : Reading first) (s : Reading second) :
    Prop where
  right : ∀ a ∈ r.actions.getLast?, a.right = false
  left : ∀ a ∈ s.actions.head?, a.left = false
  seam : ¬ (['\x7b'] <:+ first ∧ ['\x7b'] <+: second)

/-- If the first of two sources that can be put together is a template, together they render as they
do one after the other. -/
theorem Reading.Joins.renderSource {first second : String} {r : Reading first.toList}
    {s : Reading second.toList} (joins : r.Joins s) {rendering : Rendering}
    (rendered : renderSource values first = .ok rendering) :
    renderSource values (first ++ second) =
      (renderSource values second).map rendering.append := by
  have hright : (r.actions.map Action.right).getLastD false = false := by
    rw [List.getLastD_eq_getLast?, List.getLast?_map]
    cases hlast : r.actions.getLast? with
    | none => rfl
    | some a => exact joins.right a hlast
  cases hparse : parse first with
  | error e =>
    rw [Template.renderSource, hparse] at rendered
    cases rendered
  | ok segments =>
    rw [Template.renderSource, hparse] at rendered
    obtain rfl := Except.ok.inj rendered
    rw [Template.renderSource, parse, String.toList_append]
    exact map_parseFrom_append r.cuts r.reads hparse hright s joins.left joins.seam

/-- **Rendering is compositional.** Let the first of two sources that can be put together be a
template. If the second is one too, both together render to the first text with the second behind
it, and miss what the first misses and then what the second does. If it is none, both together are
none for the same reason. -/
theorem renderPart_append (part : Part) {first second : String} {r : Reading first.toList}
    {s : Reading second.toList} (joins : r.Joins s) {missing : List Missing} {text : String}
    (rendered : renderPart values part first = (missing, .ok text)) :
    (∀ more behind, renderPart values part second = (more, .ok behind) →
      renderPart values part (first ++ second) = (missing ++ more, .ok (text ++ behind))) ∧
    ∀ more e, renderPart values part second = (more, .error e) →
      renderPart values part (first ++ second) = ([], .error e) := by
  cases hfirst : renderSource values first with
  | error e =>
    rw [renderPart, hfirst] at rendered
    cases rendered
  | ok rendering =>
    rw [renderPart, hfirst] at rendered
    obtain ⟨rfl, htext⟩ := Prod.mk.inj rendered
    obtain rfl := Except.ok.inj htext
    have hboth := joins.renderSource hfirst
    simp only [renderPart, hboth]
    cases renderSource values second with
    | error e =>
      refine ⟨fun more behind h => (by cases h), fun more f h => ?_⟩
      obtain ⟨-, hreason⟩ := Prod.mk.inj h
      rw [← hreason]
      rfl
    | ok behind =>
      refine ⟨fun more text h => ?_, fun more f h => (by cases h)⟩
      obtain ⟨rfl, htext⟩ := Prod.mk.inj h
      obtain rfl := Except.ok.inj htext
      simp [Except.map, Rendering.append]

/-- The first source ends with a brace and the last action of the second takes blanks off, and a
third source has an action that is not closed. -/
theorem greeting_put_together :
    let values := Dictionary.ofList [("name", "Ann")]
    let first := "\x7b\x7b.Vars.name\x7d\x7d, \x7b"
    let second := " \x7b\x7b.Vars.item -\x7d\x7d \x7d"
    let third := "!\x7b\x7b.Vars.item"
    ∃ (r : Reading first.toList) (s : Reading second.toList) (t : Reading third.toList),
      r.Joins s ∧ r.Joins t ∧ renderPart values .title first = ([], .ok "Ann, \x7b") ∧
        renderPart values .title (first ++ second) =
          ([⟨.title, "item"⟩], .ok "Ann, \x7b \x7d") ∧
        renderPart values .title (first ++ third) = ([], .error ⟨.title, .unclosedAction⟩) := by
  intro values first second third
  have hname : CutAt opening first.toList [] ".Vars.name\x7d\x7d, \x7b".toList :=
    cutAt_of_splitAtDouble (by decide +kernel)
  have hitem : CutAt opening second.toList " ".toList ".Vars.item -\x7d\x7d \x7d".toList :=
    cutAt_of_splitAtDouble (by decide +kernel)
  have hopen : CutAt opening third.toList "!".toList ".Vars.item".toList :=
    cutAt_of_splitAtDouble (by decide +kernel)
  have hmarker : RightMarker (".Vars.item".toList ++ [' ', '-']) true
      (".Vars.item".toList ++ [' ']) := .present (by decide +kernel)
  let r : Reading first.toList := {
    cuttings := [⟨[], ".Vars.name".toList⟩]
    tail := .text ", \x7b".toList
    actions := [⟨false, false, .ok (some "name".toList)⟩]
    cuts := .action hname (cutAt_of_splitAtDouble (by decide +kernel)) (.text (by decide +kernel))
    reads := .cons (.intro (.of_head? (by decide +kernel)) (.of_getLast? (by decide +kernel))
      (.reference (by decide +kernel))) .nil }
  let s : Reading second.toList := {
    cuttings := [⟨" ".toList, ".Vars.item -".toList⟩]
    tail := .text " \x7d".toList
    actions := [⟨false, true, .ok (some "item".toList)⟩]
    cuts := .action hitem (cutAt_of_splitAtDouble (by decide +kernel)) (.text (by decide +kernel))
    reads := .cons (.intro (.of_head? (by decide +kernel)) hmarker
      (.reference (by decide +kernel))) .nil }
  let t : Reading third.toList := {
    cuttings := []
    tail := .unclosed
    actions := []
    cuts := .unclosed hopen (by decide +kernel)
    reads := .nil }
  have hrs : r.Joins s := ⟨by simp [r], by simp [s], by decide +kernel⟩
  have hrt : r.Joins t := ⟨by simp [r], by simp [t], by decide +kernel⟩
  have hfirst : renderPart values .title first = ([], .ok "Ann, \x7b") := by decide +kernel
  refine ⟨r, s, t, hrs, hrt, hfirst, ?_, ?_⟩
  · exact (renderPart_append .title hrs hfirst).1 [⟨.title, "item"⟩] " \x7d" (by decide +kernel)
  · exact (renderPart_append .title hrt hfirst).2 [] ⟨.title, .unclosedAction⟩ (by decide +kernel)

end Courier.Template
