import Courier.Proofs.Template.Writing
import Mathlib.Data.List.Infix

/-!
# Comments

A comment between two sources is not seen in what they render to, whatever it says, unless the mark
that closes actions stands in it. The parser looks for that mark before it knows that the action is
a comment, so such a comment ends too early, and the source with it is no template.

## Main definitions

* `commented`: a source with a comment in front of it.

## Main results

* `isReadOf_comment`, `exists_isReadOf_unclosedComment`: how a comment is read.
* `exists_reading_commented`: a source with a comment in front of it.
* `comment_invisible_iff`: the comments that are not seen.
-/

namespace Courier.Template

variable {cs more : List Char} {comment source : String} {values : Dictionary}

/-- A source with a comment in front of it. -/
def commented (comment source : String) : String :=
  "\x7b\x7b/*" ++ comment ++ "*/\x7d\x7d" ++ source

theorem toList_commented (comment source : String) :
    (commented comment source).toList =
      opening ++ (['/', '*'] ++ comment.toList ++ ['*', '/'] ++ (closing ++ source.toList)) := by
  have hopening : "\x7b\x7b/*".toList = opening ++ ['/', '*'] := by decide
  have hclosing : "*/\x7d\x7d".toList = ['*', '/'] ++ closing := by decide
  simp only [commented, String.toList_append, hopening, hclosing, List.append_assoc]

theorem getLast?_comment (cs : List Char) :
    (['/', '*'] ++ cs ++ ['*', '/']).getLast? = some '/' := by
  rw [List.getLast?_append_of_ne_nil _ (by simp)]
  rfl

/-! ## Cutting -/

/-- The mark in front of a comment is the first one. -/
theorem opens_commented (comment source : String) :
    CutAt opening (commented comment source).toList []
      (['/', '*'] ++ comment.toList ++ ['*', '/'] ++ (closing ++ source.toList)) := by
  rw [toList_commented]
  exact CutAt.here '\x7b' _

/-- A comment without the mark ends where it is meant to. -/
theorem closes_commented (plain : ¬ closing <:+: cs) (more : List Char) :
    CutAt closing (['/', '*'] ++ cs ++ ['*', '/'] ++ (closing ++ more))
      (['/', '*'] ++ cs ++ ['*', '/']) more := by
  have hfront : ¬ closing <:+: ['/', '*'] ++ cs :=
    not_infix_append (by decide) (fun h => absurd h.1 (by decide)) plain
  have hinner : ¬ closing <:+: ['/', '*'] ++ cs ++ ['*', '/'] :=
    not_infix_append hfront (fun h => absurd h.2 (by decide)) (by decide)
  have hcut : CutAt closing (['/', '*'] ++ cs ++ ['*', '/'] ++ (closing ++ more))
      (['/', '*'] ++ cs ++ ['*', '/'] ++ []) more := by
    apply (CutAt.here '\x7d' more).append_left hinner
    rintro ⟨⟨front, hsuffix⟩, -⟩
    have hlast := congrArg List.getLast? hsuffix
    rw [getLast?_comment, List.getLast?_concat] at hlast
    exact absurd hlast (by decide)
  rwa [List.append_nil] at hcut

/-- A comment with the mark in it ends there. -/
theorem exists_closes_commented (marked : closing <:+: cs) (more : List Char) :
    ∃ front rest, front <+: cs ∧
      CutAt closing (['/', '*'] ++ cs ++ ['*', '/'] ++ (closing ++ more))
        (['/', '*'] ++ front) rest := by
  cases hsplit : splitAtDouble '\x7d' cs with
  | none => exact absurd marked (splitAtDouble_eq_none_iff.1 hsplit)
  | some parts =>
    obtain ⟨front, back⟩ := parts
    have hcut : CutAt closing cs front back := cutAt_of_splitAtDouble hsplit
    refine ⟨front, back ++ (['*', '/'] ++ (closing ++ more)), ?_, ?_⟩
    · rw [hcut.eq, List.append_assoc]
      exact List.prefix_append _ _
    · rw [List.append_assoc, List.append_assoc]
      exact (hcut.append _).append_left (by decide) fun h => absurd h.1 (by decide)

/-! ## Reading -/

/-- A comment says nothing. -/
theorem isReadOf_comment (cs : List Char) :
    Action.IsReadOf (['/', '*'] ++ cs ++ ['*', '/']) ⟨false, false, .ok none⟩ := by
  have hnone : ∀ c ∈ [], Text.isBlank c := List.forall_mem_nil _
  have hstrip : strip true true ([] ++ (['/', '*'] ++ cs ++ ['*', '/']) ++ []) =
      ['/', '*'] ++ cs ++ ['*', '/'] := by
    refine strip_blanks hnone hnone ?_ ?_ (by simp)
    · rintro c ⟨⟩
      decide
    · intro c hc
      rw [getLast?_comment] at hc
      obtain rfl := Option.some.inj hc
      decide
  rw [List.nil_append, List.append_nil] at hstrip
  have hlast : (['/', '*'] ++ cs ++ ['*', '/']).getLast? ≠ some '-' := by
    rw [getLast?_comment]
    decide
  refine .intro (.of_head? (by simp)) (.of_getLast? hlast) ?_
  rw [hstrip]
  refine .comment ((isComment_iff ?_).2 ⟨by simp, List.suffix_append _ _⟩)
  rw [List.append_assoc]
  exact List.prefix_append _ _

/-- A marker at the end leaves the beginning of a comment as it is. -/
theorem RightMarker.exists_eq_append {right : Bool} {core : List Char}
    (h : RightMarker (['/', '*'] ++ cs) right core) :
    ∃ ds, core = ['/', '*'] ++ ds ∧ ds <+: cs := by
  generalize hinner : ['/', '*'] ++ cs = inner at h
  cases h with
  | absent _ => exact ⟨cs, hinner.symm, List.prefix_rfl⟩
  | @present c front blank =>
    simp only [List.cons_append, List.nil_append] at hinner
    -- The blank in front of the minus sign is neither of the first two characters.
    cases front with
    | nil =>
      obtain ⟨rfl, -⟩ := List.cons.inj hinner
      exact absurd blank (by decide)
    | cons d front =>
      obtain ⟨rfl, htail⟩ := List.cons.inj hinner
      cases front with
      | nil =>
        obtain ⟨rfl, -⟩ := List.cons.inj htail
        exact absurd blank (by decide)
      | cons e front =>
        obtain ⟨rfl, rfl⟩ := List.cons.inj htail
        exact ⟨front ++ [c], rfl, ['-'], by simp⟩

/-- Only blanks at the end come off a text that begins as a comment. -/
theorem strip_comment (cs : List Char) :
    strip true true (['/', '*'] ++ cs) = ['/', '*'] ++ Text.trimEnd cs := by
  have hslash : ¬ Text.isBlank '/' := by decide
  have hstar : ¬ Text.isBlank '*' := by decide
  calc strip true true ('/' :: '*' :: cs)
    _ = Text.trimEnd (Text.trimStart ('/' :: '*' :: cs)) := (trim_eq_strip _).symm
    _ = Text.trimEnd ('/' :: '*' :: cs) := by
      rw [Text.trimStart, List.dropWhile_cons_of_neg hslash]
    _ = '/' :: '*' :: Text.trimEnd cs := by
      rw [Text.trimEnd_cons_of_not_isBlank hslash, Text.trimEnd_cons_of_not_isBlank hstar]

/-- A text that begins as a comment and does not end as one is a comment that is not closed. -/
theorem exists_isReadOf_unclosedComment (unended : ¬ ['*', '/'] <:+: cs) :
    ∃ right, Action.IsReadOf (['/', '*'] ++ cs) ⟨false, right, .error .unclosedComment⟩ := by
  obtain ⟨right, core, hright⟩ := exists_rightMarker (['/', '*'] ++ cs)
  obtain ⟨ds, rfl, hds⟩ := hright.exists_eq_append
  refine ⟨right, .intro (.of_head? (by simp)) hright ?_⟩
  rw [strip_comment]
  have begins : ['/', '*'] <+: ['/', '*'] ++ Text.trimEnd ds := List.prefix_append _ _
  refine .unclosedComment begins ?_
  rw [isComment_iff begins]
  rintro ⟨size, ends⟩
  -- The star of the end is not that of the beginning, so the end would stand in the text.
  have hends : ['*', '/'] <:+ Text.trimEnd ds :=
    List.suffix_of_suffix_length_le ends (List.suffix_append _ _) (by simp at size ⊢; omega)
  obtain ⟨blanks, hblanks, -⟩ := Text.trimEnd_append_blank ds
  have htrimmed : Text.trimEnd ds <+: ds := ⟨blanks, hblanks.symm⟩
  exact unended (hends.isInfix.trans (htrimmed.trans hds).isInfix)

/-! ## Rendering -/

/-- A source with a comment in front of it can be read, and no marker stands at its beginning. A
comment without the mark is an action of its own; another ends too early. -/
theorem exists_reading_commented (unended : ¬ ['*', '/'] <:+: comment.toList) (source : String)
    (values : Dictionary) :
    ∃ r : Reading (commented comment source).toList, (∀ a ∈ r.actions.head?, a.left = false) ∧
      renderSource values (commented comment source) =
        if closing <:+: comment.toList then .error .unclosedComment
        else renderSource values source := by
  have opens := opens_commented comment source
  by_cases marked : closing <:+: comment.toList
  · obtain ⟨front, rest, hfront, closes⟩ := exists_closes_commented marked source.toList
    have hunended : ¬ ['*', '/'] <:+: front := fun h => unended (h.trans hfront.isInfix)
    obtain ⟨right, hread⟩ := exists_isReadOf_unclosedComment hunended
    obtain ⟨r⟩ := exists_reading rest
    refine ⟨.action opens closes hread r, ?_, ?_⟩
    · rintro a ⟨⟩
      rfl
    · rw [if_pos marked, renderSource, parse, parseFrom_action opens closes hread]
      rfl
  · have closes := closes_commented marked source.toList
    have hread := isReadOf_comment comment.toList
    obtain ⟨r⟩ := exists_reading source.toList
    refine ⟨.action opens closes hread r, ?_, ?_⟩
    · rintro a ⟨⟩
      rfl
    · rw [if_neg marked, renderSource, parse, parseFrom_action opens closes hread, renderSource,
        parse]
      cases parseFrom false source.toList <;> rfl

/-- A template with a commented source behind it renders as it does with the source alone, or is
none because of the comment. -/
theorem renderPart_append_commented {first second : String} {r : Reading first.toList}
    {s : Reading second.toList} (joins : r.Joins s) (free : ¬ ['\x7b'] <:+ first.toList)
    (unended : ¬ ['*', '/'] <:+: comment.toList) {segments : List Segment}
    (parsed : parse first = .ok segments) (values : Dictionary) (part : Part) :
    renderPart values part (first ++ commented comment second) =
      if closing <:+: comment.toList then ([], .error ⟨part, .unclosedComment⟩)
      else renderPart values part (first ++ second) := by
  have hfirst : renderSource values first = .ok (renderSegments values segments) := by
    rw [renderSource, parsed]
    rfl
  obtain ⟨t, hleft, hcommented⟩ := exists_reading_commented unended second values
  have hjoins : r.Joins t := ⟨joins.right, hleft, fun h => free h.1⟩
  rw [renderPart, hjoins.renderSource hfirst, hcommented]
  by_cases marked : closing <:+: comment.toList
  · rw [if_pos marked, if_pos marked]
    rfl
  · rw [if_neg marked, if_neg marked, renderPart, joins.renderSource hfirst]

/-- **Comments are invisible unless the mark that closes actions stands in them.** Between two
sources that are a template, the first alone and both together, a comment changes neither the text
nor what is missing, whatever the values are, just if the mark is not in it. With the mark in it the
whole is no template, for the comment is taken for one that is not closed. -/
theorem comment_invisible_iff {first second : String} {r : Reading first.toList}
    {s : Reading second.toList} (unended : ¬ ['*', '/'] <:+: comment.toList)
    (right : ∀ a ∈ r.actions.getLast?, a.right = false)
    (left : ∀ a ∈ s.actions.head?, a.left = false) (free : ¬ ['\x7b'] <:+ first.toList)
    {part : Part} {alone together : String}
    (rendered : (renderPart values part first).2 = .ok alone)
    (whole : (renderPart values part (first ++ second)).2 = .ok together) :
    ((∀ (values : Dictionary) (part : Part),
        renderPart values part (first ++ commented comment second) =
          renderPart values part (first ++ second)) ↔ ¬ closing <:+: comment.toList) ∧
      (closing <:+: comment.toList → ∀ (values : Dictionary) (part : Part),
        renderPart values part (first ++ commented comment second) =
          ([], .error ⟨part, .unclosedComment⟩)) := by
  have joins : r.Joins s := ⟨right, left, fun h => free h.1⟩
  cases hparse : parse first with
  | error e =>
    rw [renderPart, renderSource, hparse] at rendered
    cases rendered
  | ok segments =>
    have hcommented := renderPart_append_commented joins free unended hparse
    have hmarked (marked : closing <:+: comment.toList) (values : Dictionary) (part : Part) :
        renderPart values part (first ++ commented comment second) =
          ([], .error ⟨part, .unclosedComment⟩) := by
      rw [hcommented, if_pos marked]
    refine ⟨⟨fun same marked => ?_, fun plain values part => ?_⟩, hmarked⟩
    · rw [← same, hmarked marked] at whole
      cases whole
    · rw [hcommented, if_neg plain]

/-- A comment with single braces and a star at its end, between a reference and one that takes the
blanks off what comes behind it. -/
theorem braces_in_comment_invisible :
    let first := "Dear \x7b\x7b- .Vars.name\x7d\x7d"
    let second := " \x7b\x7b.Vars.item -\x7d\x7d !"
    let comment := "\x7b\x7b \x7d -*"
    let values := Dictionary.ofList [("name", "Ann")]
    ∃ (r : Reading first.toList) (s : Reading second.toList),
      ¬ ['*', '/'] <:+: comment.toList ∧ (∀ a ∈ r.actions.getLast?, a.right = false) ∧
        (∀ a ∈ s.actions.head?, a.left = false) ∧ ¬ ['\x7b'] <:+ first.toList ∧
        (renderPart values .title first).2 = .ok "DearAnn" ∧
        (renderPart values .title (first ++ second)).2 = .ok "DearAnn !" ∧
        renderPart values .title (first ++ commented comment second) =
          ([⟨.title, "item"⟩], .ok "DearAnn !") := by
  intro first second comment values
  have hname : CutAt opening first.toList "Dear ".toList "- .Vars.name\x7d\x7d".toList :=
    cutAt_of_splitAtDouble (by decide +kernel)
  have hnameEnd : CutAt closing "- .Vars.name\x7d\x7d".toList "- .Vars.name".toList [] :=
    cutAt_of_splitAtDouble (by decide +kernel)
  have hbefore : LeftMarker ('-' :: ' ' :: ".Vars.name".toList) true
      (' ' :: ".Vars.name".toList) := .present (by decide +kernel)
  have hgreeting : Action.IsReadOf "- .Vars.name".toList ⟨true, false, .ok (some "name".toList)⟩ :=
    .intro hbefore (.of_getLast? (by decide +kernel)) (.reference (by decide +kernel))
  have hitem : CutAt opening second.toList " ".toList ".Vars.item -\x7d\x7d !".toList :=
    cutAt_of_splitAtDouble (by decide +kernel)
  have hitemEnd : CutAt closing ".Vars.item -\x7d\x7d !".toList ".Vars.item -".toList
      " !".toList := cutAt_of_splitAtDouble (by decide +kernel)
  have hbehind : RightMarker (".Vars.item".toList ++ [' ', '-']) true
      (".Vars.item".toList ++ [' ']) := .present (by decide +kernel)
  have hlist : Action.IsReadOf ".Vars.item -".toList ⟨false, true, .ok (some "item".toList)⟩ :=
    .intro (.of_head? (by decide +kernel)) hbehind (.reference (by decide +kernel))
  let r : Reading first.toList := .action hname hnameEnd hgreeting (.plain (by decide +kernel))
  let s : Reading second.toList := .action hitem hitemEnd hlist (.plain (by decide +kernel))
  have unended : ¬ ['*', '/'] <:+: comment.toList := by decide +kernel
  have right : ∀ a ∈ r.actions.getLast?, a.right = false := by simp [r]
  have left : ∀ a ∈ s.actions.head?, a.left = false := by simp [s]
  have free : ¬ ['\x7b'] <:+ first.toList := by decide +kernel
  have rendered : (renderPart values .title first).2 = .ok "DearAnn" := by decide +kernel
  have whole : (renderPart values .title (first ++ second)).2 = .ok "DearAnn !" := by
    decide +kernel
  refine ⟨r, s, unended, right, left, free, rendered, whole, ?_⟩
  rw [(comment_invisible_iff unended right left free rendered whole).1.2 (by decide +kernel)]
  decide +kernel

/-- An action between the marks of a comment: the sources around it are a template, and with the
comment between them they are none. -/
theorem commented_action_refused :
    let comment := " \x7b\x7b.Vars.name\x7d\x7d "
    ∃ (r : Reading "Dear ".toList) (s : Reading " all".toList),
      ¬ ['*', '/'] <:+: comment.toList ∧ r.actions = [] ∧ s.actions = [] ∧
        ¬ ['\x7b'] <:+ "Dear ".toList ∧
        renderPart .empty .body "Dear " = ([], .ok "Dear ") ∧
        renderPart .empty .body ("Dear " ++ " all") = ([], .ok "Dear  all") ∧
        "Dear " ++ commented comment " all" =
          "Dear \x7b\x7b/* \x7b\x7b.Vars.name\x7d\x7d */\x7d\x7d all" ∧
        renderPart .empty .body ("Dear " ++ commented comment " all") =
          ([], .error ⟨.body, .unclosedComment⟩) := by
  exact ⟨.plain (by decide +kernel), .plain (by decide +kernel), by decide +kernel, rfl, rfl,
    by decide +kernel, by decide +kernel, by decide +kernel, by decide +kernel, by decide +kernel⟩

end Courier.Template
