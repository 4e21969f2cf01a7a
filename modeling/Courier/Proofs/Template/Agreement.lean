import Courier.Proofs.Template.Reference
import Mathlib.Data.List.Forall2
import Mathlib.Data.String.Basic

/-!
# Rendering agrees with the reference

The parser goes over a source once and carries along whether the last action takes the blanks off
what comes next. Every helper of it does what the reference says of its part, and by induction on
the cuts of a source, for either state of that flag, the whole does.

## Main results

* `renderSource_eq_outcome`: the rendering of a source is the outcome of a reading of it.
* `exists_reading`: every source has a reading.
* `renderPart_agrees`: both, for a part of a template.
-/

namespace Courier

namespace Text

/-- The blanks at the end come off as they come off at the beginning of the text turned around. -/
theorem trimEnd_eq_rdropWhile (cs : List Char) : trimEnd cs = cs.rdropWhile isBlank := by
  induction cs with
  | nil => rfl
  | cons c cs ih =>
    rw [trimEnd, ih, List.rdropWhile, List.rdropWhile, List.reverse_cons, List.dropWhile_append]
    by_cases h : (cs.reverse.dropWhile isBlank).isEmpty
    · rw [if_pos h, List.isEmpty_iff.1 h]
      by_cases hc : isBlank c <;> simp [hc]
    · rw [if_neg h, List.reverse_append, List.reverse_singleton, List.singleton_append]
      split
      · next hnil => exact absurd (by simpa using hnil) h
      · rfl

end Text

namespace Template

variable {mark cs before after before' after' : List Char} {c : Char}

/-! ## Cutting -/

/-- There is one place at which a text is cut. -/
theorem CutAt.unique (h : CutAt mark cs before after) (h' : CutAt mark cs before' after') :
    before = before' ∧ after = after' := by
  have hlength : before.length = before'.length :=
    Nat.le_antisymm (h.first _ _ h'.eq) (h'.first _ _ h.eq)
  have happend : before ++ (mark ++ after) = before' ++ (mark ++ after') := by
    rw [← List.append_assoc, ← List.append_assoc, ← h.eq, ← h'.eq]
  obtain ⟨hbefore, hafter⟩ := List.append_inj happend hlength
  exact ⟨hbefore, List.append_cancel_left hafter⟩

theorem splitAtDouble_eq_none_iff : splitAtDouble c cs = none ↔ ¬ [c, c] <:+: cs := by
  fun_induction splitAtDouble c cs with
  | case1 => simp
  | case2 x => simpa using fun h : [c, c] <:+: [x] => absurd h.length_le (by simp)
  | case3 x y rest hxy =>
    obtain ⟨rfl, rfl⟩ := hxy
    simp [List.infix_cons_iff]
  | case4 x y rest hxy ih =>
    have hprefix : ¬ [c, c] <+: x :: y :: rest := by
      simpa [List.cons_prefix_cons, eq_comm] using hxy
    have hinfix : [c, c] <:+: x :: y :: rest ↔ [c, c] <:+: y :: rest := by
      rw [List.infix_cons_iff]
      exact or_iff_right hprefix
    rw [Option.map_eq_none_iff, ih, hinfix]

theorem cutAt_of_splitAtDouble (h : splitAtDouble c cs = some (before, after)) :
    CutAt [c, c] cs before after := by
  fun_induction splitAtDouble c cs generalizing before after with
  | case1 => cases h
  | case2 => cases h
  | case3 x y rest hxy =>
    obtain ⟨rfl, rfl⟩ := hxy
    obtain ⟨rfl, rfl⟩ := Prod.mk.inj (Option.some.inj h)
    exact ⟨rfl, fun _ _ _ => Nat.zero_le _⟩
  | case4 x y rest hxy ih =>
    obtain ⟨⟨front, back⟩, hsplit, hcons⟩ := Option.map_eq_some_iff.1 h
    obtain ⟨rfl, rfl⟩ := Prod.mk.inj hcons
    -- The mark does not stand at the first character, so every cut is one of the rest.
    have hcut := ih hsplit
    refine ⟨by rw [List.cons_append, List.cons_append, ← hcut.eq], ?_⟩
    intro before' after' heq
    cases before' with
    | nil =>
      simp at heq
      exact absurd ⟨heq.1, heq.2.1⟩ hxy
    | cons d before' =>
      simp at heq
      exact Nat.succ_le_succ (hcut.first before' after' (by simpa using heq.2))

/-- A text is split where it is cut. -/
theorem splitAtDouble_of_cutAt (h : CutAt [c, c] cs before after) :
    splitAtDouble c cs = some (before, after) := by
  cases hsplit : splitAtDouble c cs with
  | none => exact absurd ⟨before, after, h.eq.symm⟩ (splitAtDouble_eq_none_iff.1 hsplit)
  | some parts =>
    obtain ⟨rfl, rfl⟩ := h.unique (cutAt_of_splitAtDouble hsplit)
    rfl

/-- Every source can be cut. -/
theorem exists_cuts (cs : List Char) : ∃ cuttings tail, Cuts cs cuttings tail := by
  induction hlength : cs.length using Nat.strongRecOn generalizing cs with
  | ind n ih =>
    cases hopen : splitAtDouble '\x7b' cs with
    | none => exact ⟨[], _, .text (splitAtDouble_eq_none_iff.1 hopen)⟩
    | some parts =>
      obtain ⟨text, opened⟩ := parts
      have opens := cutAt_of_splitAtDouble hopen
      cases hclose : splitAtDouble '\x7d' opened with
      | none => exact ⟨[], _, .unclosed opens (splitAtDouble_eq_none_iff.1 hclose)⟩
      | some parts =>
        obtain ⟨inner, rest⟩ := parts
        have closes := cutAt_of_splitAtDouble hclose
        have hlt : rest.length < n := by
          have hopened := length_lt_of_splitAtDouble hopen
          have hrest := length_lt_of_splitAtDouble hclose
          omega
        obtain ⟨cuttings, tail, later⟩ := ih rest.length hlt rest rfl
        exact ⟨_, tail, .action opens closes later⟩

/-! ## Reading -/

/-- A minus sign at the beginning of an action. -/
theorem leftTrimmed?_of_marker {inner middle : List Char} {left : Bool}
    (h : LeftMarker inner left middle) :
    leftTrimmed? inner = if left then some middle else none := by
  cases h with
  | present blank => simp [leftTrimmed?, blank]
  | absent h =>
    unfold leftTrimmed?
    split
    · next c rest => simp [h c rest rfl]
    · rfl

theorem rightTrimmed?_of_marker {middle core : List Char} {right : Bool}
    (h : RightMarker middle right core) :
    rightTrimmed? middle = if right then some core else none := by
  have hreverse : LeftMarker middle.reverse right core.reverse := by
    cases h with
    | present blank =>
      simp only [List.reverse_append, List.reverse_cons, List.reverse_nil, List.nil_append,
        List.cons_append]
      exact .present blank
    | absent h =>
      refine .absent ?_
      intro c rest heq
      exact h rest.reverse c (by simpa using congrArg List.reverse heq)
  rw [rightTrimmed?, leftTrimmed?_of_marker hreverse]
  cases right <;> simp

theorem LeftMarker.eq_of_absent {inner middle : List Char} (h : LeftMarker inner false middle) :
    middle = inner := by
  cases h
  rfl

theorem RightMarker.eq_of_absent {middle core : List Char} (h : RightMarker middle false core) :
    core = middle := by
  cases h
  rfl

theorem exists_leftMarker (inner : List Char) : ∃ left middle, LeftMarker inner left middle := by
  by_cases h : ∃ c rest, inner = '-' :: c :: rest ∧ Text.isBlank c
  · obtain ⟨c, rest, rfl, blank⟩ := h
    exact ⟨true, _, .present blank⟩
  · refine ⟨false, inner, .absent ?_⟩
    intro c rest heq blank
    exact h ⟨c, rest, heq, blank⟩

theorem exists_rightMarker (middle : List Char) : ∃ right core, RightMarker middle right core := by
  by_cases h : ∃ front c, middle = front ++ [c, '-'] ∧ Text.isBlank c
  · obtain ⟨front, c, rfl, blank⟩ := h
    exact ⟨true, _, .present blank⟩
  · refine ⟨false, middle, .absent ?_⟩
    intro front c heq blank
    exact h ⟨front, c, heq, blank⟩

theorem trim_eq_strip (cs : List Char) : Text.trim cs = strip true true cs := by
  rw [Text.trim, Text.trimEnd_eq_rdropWhile]
  rfl

theorem length_le_utf8ByteSize (cs : List Char) :
    cs.length ≤ (String.ofList cs).utf8ByteSize := by
  rw [String.utf8ByteSize_ofList]
  induction cs with
  | nil => exact Nat.zero_le _
  | cons c cs ih =>
    have hpos := Char.utf8Size_pos c
    rw [List.length_cons, String.utf8Len_cons]
    omega

/-- Whether a comment is long enough can be told from its bytes or from its characters. -/
theorem isComment_iff (begins : ['/', '*'] <+: cs) :
    IsComment cs ↔ 4 ≤ cs.length ∧ ['*', '/'] <:+ cs := by
  constructor
  · rintro ⟨-, ends, size⟩
    refine ⟨?_, ends⟩
    obtain ⟨rest, rfl⟩ := begins
    match rest with
    | [] => exact absurd ends (by decide)
    | [d] =>
      obtain rfl : '/' = d := by
        have := List.suffix_iff_eq_drop.1 ends
        simpa using this
      exact absurd size (by decide)
    | d :: e :: rest => exact Nat.le_add_left 4 rest.length
  · rintro ⟨size, ends⟩
    exact ⟨begins, ends, Nat.le_trans size (length_le_utf8ByteSize cs)⟩

theorem parseAction_reference (name : List Char) :
    parseAction (".Vars.".toList ++ name) =
      if Text.isIdentifier name then .ok (some name)
      else .error (.invalidReference (".Vars.".toList ++ name)) := by
  have hmark : ".Vars.".toList = referenceMark := rfl
  have hprefix : referenceMark.isPrefixOf (referenceMark ++ name) :=
    List.isPrefixOf_iff_prefix.2 (List.prefix_append ..)
  have hcomment : ¬ ['/', '*'].isPrefixOf (referenceMark ++ name) := Bool.false_ne_true
  have hempty : ¬ (referenceMark ++ name).isEmpty := Bool.false_ne_true
  rw [hmark, parseAction, if_neg hcomment, if_neg hempty, if_pos hprefix, List.drop_left]

/-- What is left of an action is taken for what it means. -/
theorem parseAction_of_meaning {meaning : Except SyntaxError (Option (List Char))}
    (h : Meaning cs meaning) : parseAction cs = meaning := by
  cases h with
  | comment comment =>
    have hlong := (isComment_iff comment.begins).1 comment
    rw [parseAction, if_pos (List.isPrefixOf_iff_prefix.2 comment.begins), if_pos]
    exact ⟨hlong.1, List.isSuffixOf_iff_suffix.2 hlong.2⟩
  | reference identifier => rw [parseAction_reference, if_pos identifier]
  | empty => rfl
  | unclosedComment begins comment =>
    rw [parseAction, if_pos (List.isPrefixOf_iff_prefix.2 begins), if_neg]
    rwa [List.isSuffixOf_iff_suffix, ← isComment_iff begins]
  | invalidReference identifier => rw [parseAction_reference, if_neg identifier]
  | unsupported nonempty comment reference =>
    rw [parseAction, if_neg, if_neg, if_neg]
    · rwa [List.isPrefixOf_iff_prefix]
    · rwa [List.isEmpty_iff]
    · rwa [List.isPrefixOf_iff_prefix]

theorem exists_meaning (cs : List Char) : ∃ meaning, Meaning cs meaning := by
  by_cases begins : ['/', '*'] <+: cs
  · by_cases comment : IsComment cs
    · exact ⟨_, .comment comment⟩
    · exact ⟨_, .unclosedComment begins comment⟩
  · by_cases nonempty : cs = []
    · subst nonempty
      exact ⟨_, .empty⟩
    · by_cases reference : ".Vars.".toList <+: cs
      · obtain ⟨name, rfl⟩ := reference
        by_cases identifier : Text.isIdentifier name
        · exact ⟨_, .reference identifier⟩
        · exact ⟨_, .invalidReference identifier⟩
      · exact ⟨_, .unsupported nonempty begins reference⟩

theorem exists_isReadOf (inner : List Char) : ∃ action, Action.IsReadOf inner action := by
  obtain ⟨left, middle, hleft⟩ := exists_leftMarker inner
  obtain ⟨right, core, hright⟩ := exists_rightMarker middle
  obtain ⟨meaning, hmeaning⟩ := exists_meaning (strip true true core)
  exact ⟨⟨left, right, meaning⟩, .intro hleft hright hmeaning⟩

/-! ## Parsing -/

theorem parseFrom_plain (plain : ¬ opening <:+: cs) (trimming : Bool) :
    parseFrom trimming cs = .ok (textSegment (strip trimming false cs)) := by
  have hopen : splitAtDouble '\x7b' cs = none := splitAtDouble_eq_none_iff.2 plain
  rw [parseFrom]
  split
  · rfl
  · next h => rw [hopen] at h; cases h

theorem parseFrom_unclosed {text opened : List Char} (opens : CutAt opening cs text opened)
    (unclosed : ¬ closing <:+: opened) (trimming : Bool) :
    parseFrom trimming cs = .error .unclosedAction := by
  have hopen : splitAtDouble '\x7b' cs = some (text, opened) := splitAtDouble_of_cutAt opens
  have hclose : splitAtDouble '\x7d' opened = none := splitAtDouble_eq_none_iff.2 unclosed
  rw [parseFrom]
  split
  · next h => rw [hopen] at h; cases h
  · next text' opened' h =>
    obtain ⟨rfl, rfl⟩ := Prod.mk.inj (Option.some.inj (hopen.symm.trans h))
    split
    · rfl
    · next h => rw [hclose] at h; cases h

/-- The parser takes an action for what it says, and the blanks off the text in front of it. -/
theorem parseFrom_action {text opened inner rest : List Char} {a : Action}
    (opens : CutAt opening cs text opened) (closes : CutAt closing opened inner rest)
    (reads : Action.IsReadOf inner a) (trimming : Bool) :
    parseFrom trimming cs = a.meaning.bind fun name => (parseFrom a.right rest).map
      (textSegment (strip trimming a.left text) ++ actionSegment name ++ ·) := by
  have hopen : splitAtDouble '\x7b' cs = some (text, opened) := splitAtDouble_of_cutAt opens
  have hclose : splitAtDouble '\x7d' opened = some (inner, rest) := splitAtDouble_of_cutAt closes
  obtain ⟨left, right, meaning⟩ := a
  cases reads with
  | intro hleft hright hmeaning =>
  have hbody := parseAction_of_meaning hmeaning
  rw [← trim_eq_strip] at hbody
  have hmiddle := leftTrimmed?_of_marker hleft
  have hcore := rightTrimmed?_of_marker hright
  rw [parseFrom]
  split
  · next h => rw [hopen] at h; cases h
  · next text' opened' h =>
    obtain ⟨rfl, rfl⟩ := Prod.mk.inj (Option.some.inj (hopen.symm.trans h))
    split
    · next h => rw [hclose] at h; cases h
    · next inner' rest' h =>
      obtain ⟨rfl, rfl⟩ := Prod.mk.inj (Option.some.inj (hclose.symm.trans h))
      have hstrip : strip trimming left text =
          if left then Text.trimEnd (if trimming then Text.trimStart text else text)
          else if trimming then Text.trimStart text else text := by
        rw [Text.trimEnd_eq_rdropWhile]
        rfl
      rw [hstrip]
      cases left with
      | true =>
        cases right with
        | true => cases meaning <;> simp [hmiddle, hcore, hbody, Except.bind]
        | false =>
          obtain rfl := hright.eq_of_absent
          cases meaning <;> simp [hmiddle, hcore, hbody, Except.bind]
      | false =>
        obtain rfl := hleft.eq_of_absent
        cases right with
        | true => cases meaning <;> simp [hmiddle, hcore, hbody, Except.bind]
        | false =>
          obtain rfl := hright.eq_of_absent
          cases meaning <;> simp [hmiddle, hcore, hbody, Except.bind]

/-! ## Rendering -/

variable {values : Dictionary}

theorem Rendering.append_assoc (r s t : Rendering) :
    (r.append s).append t = r.append (s.append t) := by
  simp [Rendering.append]

theorem renderSegments_append (segments more : List Segment) :
    renderSegments values (segments ++ more) =
      (renderSegments values segments).append (renderSegments values more) := by
  induction segments with
  | nil => rfl
  | cons segment segments ih =>
    have hcons : ∀ rest, renderSegments values (segment :: rest) =
        (segment.render values).append (renderSegments values rest) := fun rest => rfl
    rw [List.cons_append, hcons, hcons, ih, Rendering.append_assoc]

@[simp] theorem renderSegments_textSegment (cs : List Char) :
    renderSegments values (textSegment cs) = ⟨cs, []⟩ := by
  cases cs with
  | nil => rfl
  | cons c cs => simp [textSegment, renderSegments, Segment.render, Rendering.append]

/-- An action is replaced with its value, or noted as missing. -/
theorem renderSegments_actionSegment {a : Action} {name : Option (List Char)}
    (h : a.meaning = .ok name) :
    renderSegments values (actionSegment name) =
      ⟨a.value values, (a.missing? values).toList⟩ := by
  rw [Action.value, Action.missing?, h]
  cases name with
  | none => rfl
  | some name =>
    cases hvalue : values.get? (String.ofList name) <;>
      simp [actionSegment, renderSegments, Segment.render, Rendering.append, hvalue]

theorem assemble_cons (leading trailing : Bool) (text value : List Char)
    (moreLeading moreTrailing : List Bool) (texts values : List (List Char)) :
    assemble (leading :: moreLeading) (trailing :: moreTrailing) (text :: texts)
        (value :: values) =
      strip leading trailing text ++ value ++ assemble moreLeading moreTrailing texts values := by
  simp [assemble, List.zipWith3]

theorem firstError_cons_of_ok {a : Action} {name : Option (List Char)} (h : a.meaning = .ok name)
    (actions : List Action) (tail : Tail) :
    firstError (a :: actions) tail = firstError actions tail := by
  simp [firstError, Action.error?, h]

theorem firstError_cons_of_error {a : Action} {e : SyntaxError} (h : a.meaning = .error e)
    (actions : List Action) (tail : Tail) : firstError (a :: actions) tail = some e := by
  simp [firstError, Action.error?, h]

/-- The rest of a source behind an action renders as its cuts say, with the blanks at its beginning
taken off if the action does that. -/
theorem map_parseFrom {cuttings : List Cutting} {tail : Tail} {actions : List Action}
    (cuts : Cuts cs cuttings tail)
    (reads : List.Forall₂ (fun cutting action => Action.IsReadOf cutting.inner action)
      cuttings actions) (trimming : Bool) :
    (parseFrom trimming cs).map (renderSegments values) =
      match firstError actions tail with
      | some e => .error e
      | none => .ok {
          text := assemble (trimming :: actions.map Action.right)
            (actions.map Action.left ++ [false]) (cuttings.map Cutting.text ++ tail.texts)
            (actions.map (Action.value values) ++ [[]])
          missing := actions.filterMap (Action.missing? values) } := by
  -- The flag for the rest is what the first action says, so the induction is for both its values.
  induction cuts generalizing actions trimming with
  | text plain =>
    obtain rfl := List.forall₂_nil_left_iff.1 reads
    rw [parseFrom_plain plain]
    simp [firstError, Tail.texts, assemble, List.zipWith3, Except.map]
  | unclosed opens unclosed =>
    obtain rfl := List.forall₂_nil_left_iff.1 reads
    rw [parseFrom_unclosed opens unclosed]
    rfl
  | @action cs text opened inner rest cuttings tail opens closes later ih =>
    cases reads with
    | @cons _ a _ actions hread hreads =>
    rw [parseFrom_action opens closes hread]
    have hrest := ih hreads a.right
    cases hmeaning : a.meaning with
    | error e =>
      rw [firstError_cons_of_error hmeaning]
      rfl
    | ok name =>
      rw [firstError_cons_of_ok hmeaning, Except.bind]
      cases hparse : parseFrom a.right rest with
      | error e =>
        rw [hparse] at hrest
        cases hfirst : firstError actions tail with
        | some e' =>
          rw [hfirst] at hrest
          exact hrest
        | none =>
          rw [hfirst] at hrest
          cases hrest
      | ok segments =>
        rw [hparse] at hrest
        cases hfirst : firstError actions tail with
        | some e =>
          rw [hfirst] at hrest
          cases hrest
        | none =>
          rw [hfirst] at hrest
          have hrendered := Except.ok.inj hrest
          refine congrArg Except.ok ?_
          rw [renderSegments_append, renderSegments_append, renderSegments_textSegment,
            renderSegments_actionSegment hmeaning, hrendered]
          simp only [List.map_cons, List.cons_append, assemble_cons]
          cases hmissing : a.missing? values <;> simp [Rendering.append, hmissing]

/-- A source renders to the outcome of any reading of it. -/
theorem renderSource_eq_outcome {source : String} (r : Reading source.toList) :
    renderSource values source = r.outcome values :=
  map_parseFrom r.cuts r.reads false

/-- Every source can be read. -/
theorem exists_reading (source : List Char) : Nonempty (Reading source) := by
  obtain ⟨cuttings, tail, cuts⟩ := exists_cuts source
  have hactions : ∃ actions, List.Forall₂
      (fun cutting action => Action.IsReadOf cutting.inner action) cuttings actions := by
    clear cuts
    induction cuttings with
    | nil => exact ⟨[], .nil⟩
    | cons cutting cuttings ih =>
      obtain ⟨actions, hreads⟩ := ih
      obtain ⟨action, hread⟩ := exists_isReadOf cutting.inner
      exact ⟨action :: actions, .cons hread hreads⟩
  obtain ⟨actions, reads⟩ := hactions
  exact ⟨⟨cuttings, tail, actions, cuts, reads⟩⟩

/-- An outcome is an error for all values or for none. -/
theorem Reading.outcome_eq_error_iff {source : List Char} (r : Reading source) (e : SyntaxError) :
    r.outcome values = .error e ↔ firstError r.actions r.tail = some e := by
  unfold outcome
  split
  · next e' h => rw [h, Except.error.injEq, Option.some.injEq]
  · next h => simp [h]

/-- A part of a template renders to the outcome of any reading of its source. -/
theorem renderPart_eq_outcome (part : Part) {source : String} (r : Reading source.toList) :
    renderPart values part source =
      match r.outcome values with
      | .error reason => ([], .error ⟨part, reason⟩)
      | .ok rendering => (rendering.missing.map fun name => ⟨part, String.ofList name⟩,
          .ok (String.ofList rendering.text)) := by
  rw [renderPart, renderSource_eq_outcome r]
  cases r.outcome values <;> rfl

/-- **Rendering is what the reference says**, whatever the source and the values are: there is a
reading of the source, and by every reading a part of a template renders to what is assembled from
the texts and the values, with the variables noted that have none, or fails for the first reason
that there is. Whether it fails, and why, does not depend on the values. -/
theorem renderPart_agrees (part : Part) (source : String) :
    Nonempty (Reading source.toList) ∧
    (∀ (r : Reading source.toList) (values : Dictionary), renderPart values part source =
      match r.outcome values with
      | .error reason => ([], .error ⟨part, reason⟩)
      | .ok rendering => (rendering.missing.map fun name => ⟨part, String.ofList name⟩,
          .ok (String.ofList rendering.text))) ∧
    ∀ (values other : Dictionary) (e : RenderError),
      (renderPart values part source).2 = .error e →
        renderPart other part source = ([], .error e) := by
  refine ⟨exists_reading source.toList, fun r values => renderPart_eq_outcome part r, ?_⟩
  intro values other e h
  obtain ⟨r⟩ := exists_reading source.toList
  rw [renderPart_eq_outcome part r] at h ⊢
  cases hfirst : firstError r.actions r.tail with
  | some reason =>
    rw [(r.outcome_eq_error_iff reason).2 hfirst] at h ⊢
    obtain rfl := Except.error.inj h
    rfl
  | none =>
    unfold Reading.outcome at h
    rw [hfirst] at h
    cases h

/-- The first of two errors is told, whatever the values are. -/
theorem empty_action_refused :
    let source := "Dear \x7b\x7b \x7d\x7d, your \x7b\x7b.Vars.item"
    (renderPart .empty .title source).2 = .error ⟨.title, .emptyAction⟩ ∧
      ∀ values, renderPart values .title source = ([], .error ⟨.title, .emptyAction⟩) := by
  intro source
  have h : (renderPart .empty .title source).2 = .error ⟨.title, .emptyAction⟩ := by
    decide +kernel
  refine ⟨h, ?_⟩
  intro values
  exact (renderPart_agrees .title source).2.2 .empty values _ h

/-- A comment with a marker at either end leaves no blanks around it. -/
example : (renderPart (.ofList [("name", "Ann")]) .body
    "Dear \x7b\x7b- /* whom? */ -\x7d\x7d \x7b\x7b.Vars.name\x7d\x7d").2 = .ok "DearAnn" := by
  decide +kernel

end Template

end Courier
