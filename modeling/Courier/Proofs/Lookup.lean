import Courier.Lookup
import Courier.Proofs.Url.Path
import Courier.Text.Blank

/-!
# Where things are asked for

The id of a thing is put at the end of its service's address. It comes from a message, and all that
is known of it is that it is not blank. An id that is a name stays within its segment, and no two
names lead to the same URL unless they differ in tabs and line breaks alone. An id that comes to one
or two points is no name: it leads to the collection itself, or above it.

## Main definitions

* `LookupService.urlFor_names_one_further`: which ids lead to one thing.
* `LookupService.urlFor_faithful`: the id is read back from its URL.
-/

namespace Courier.LookupService

open Url (Path)

variable {s : LookupService}

/-- The characters that do not count in a path are blank. -/
theorem kept_ne_nil {id : String} (filled : ¬ Text.IsBlank id) : Url.Path.kept id.toList ≠ [] := by
  intro hnil
  apply filled
  intro c hmem
  have hignored : Url.Path.isIgnored c := by
    by_contra hkept
    have hc : c ∈ Url.Path.kept id.toList := List.mem_filter.2 ⟨hmem, by simpa using hkept⟩
    simp [hnil] at hc
  simp only [Url.Path.isIgnored, Bool.or_eq_true, beq_iff_eq] at hignored
  rcases hignored with (rfl | rfl) | rfl <;> rfl

theorem hasDrives_of_web (web : s.base.scheme = "http" ∨ s.base.scheme = "https") :
    (Url.pathStyle s.base.scheme).hasDrives = false := by
  rcases web with h | h <;> rw [h] <;> rfl

/-- **An id leads to one thing of its service if it is a name.** Whatever else the id has in it,
nothing but the path of the address is touched, and the id becomes one segment after those of the
address; only of an address whose path is two empty segments none is kept. An id that is no name
does not lead one segment further on. Ids lead to the same thing as a name only if they are that
name, tabs and line breaks apart. -/
theorem urlFor_names_one_further (web : s.base.scheme = "http" ∨ s.base.scheme = "https")
    {id : String} (filled : ¬ Text.IsBlank id) :
    s.urlFor id = { s.base with path := (s.urlFor id).path } ∧
      ((∃ segment, Url.Path.IsSegment (Url.pathStyle s.base.scheme) segment ∧
          (s.urlFor id).path = s.base.path.stem ++ [segment]) ↔
        Url.Path.IsName id.toList ∧ s.base.path ≠ [[], []]) ∧
      (Url.Path.IsName id.toList → ∀ other : String,
        s.urlFor other = s.urlFor id ↔
          Url.Path.kept other.toList = Url.Path.kept id.toList) := by
  have drives := hasDrives_of_web web
  have hkept := kept_ne_nil filled
  refine ⟨rfl, Url.Path.exists_child_eq_stem_append_iff drives hkept, fun name other => ?_⟩
  rw [← Url.Path.child_eq_child_iff drives (p := s.base.path) name hkept]
  constructor
  · intro h
    exact congrArg Url.path h
  · intro h
    exact congrArg (fun path => { s.base with path }) h

/-- A slash does not lead anywhere else, and only an id with the same characters leads there. -/
theorem slash_leads_to_one_user :
    ∃ s, ofAddress users "http://users.internal/api/v1/users" = .ok s ∧
      (s.base.scheme = "http" ∨ s.base.scheme = "https") ∧ ¬ Text.IsBlank "../u 2" ∧
      (∃ segment, Url.Path.IsSegment (Url.pathStyle s.base.scheme) segment ∧
        (s.urlFor "../u 2").path = s.base.path.stem ++ [segment]) ∧
      ∀ other : String, s.urlFor other = s.urlFor "../u 2" ↔
        Url.Path.kept other.toList = "../u 2".toList := by
  have hservice : ∃ s, ofAddress users "http://users.internal/api/v1/users" = .ok s ∧
      s.base.scheme = "http" ∧ s.base.path ≠ [[], []] :=
    ⟨⟨users,
      { scheme := "http"
        authority := some { host := .name "users.internal".toList }
        path := ["api".toList, "v1".toList, "users".toList] }⟩, by decide +kernel, rfl, by decide⟩
  obtain ⟨s, hs, hscheme, hpath⟩ := hservice
  have hfilled : ¬ Text.IsBlank "../u 2" := by decide
  obtain ⟨-, hsegment, hother⟩ := urlFor_names_one_further (.inl hscheme) hfilled
  exact ⟨s, hs, .inl hscheme, hfilled, hsegment.2 ⟨by decide, hpath⟩, hother (by decide)⟩

/-- Two points are an id that is not blank. They lead to the collection of all users and not one
segment further on, and two ids lead to one user. -/
theorem points_lead_to_all_users :
    ∃ s, ofAddress users "http://users.internal/api/v1/users" = .ok s ∧
      ¬ Text.IsBlank ".." ∧ s.urlFor ".." = s.base ∧
      (∀ segment ≠ [], (s.urlFor "..").path ≠ s.base.path.stem ++ [segment]) ∧
      ¬ Text.IsBlank "ab" ∧ ¬ Text.IsBlank "a\tb" ∧ "ab" ≠ "a\tb" ∧
      s.urlFor "ab" = s.urlFor "a\tb" := by
  refine ⟨⟨users,
    { scheme := "http"
      authority := some { host := .name "users.internal".toList }
      path := ["api".toList, "v1".toList, "users".toList] }⟩, by decide +kernel, by decide,
    by decide, ?_, by decide, by decide, by decide, by decide⟩
  intro segment _ h
  have hlength := congrArg List.length h
  simp [urlFor, Url.child, Url.Path.child, Url.Path.popEmpty, Url.Path.stem] at hlength

/-- An id without tabs and line breaks, as it can be checked. -/
theorem forall_not_isIgnored {id : String} (h : id.toList.all (!Url.Path.isIgnored ·)) :
    ∀ c ∈ id.toList, Url.Path.isIgnored c = false := by
  intro c mem
  simpa using List.all_eq_true.1 h c mem

/-- **An id is read back from its URL.** An id without tabs and line breaks that is neither empty
nor one or two points is the last segment of its URL, percent-encoded, even if it looks encoded
already or has signs in it that mean something in a URL. Before it stand the segments of the
address, but for an empty one at the end; only of an address whose path is two empty segments none
is kept. Nothing but the path is touched. -/
theorem urlFor_faithful (web : s.base.scheme = "http" ∨ s.base.scheme = "https") {id : String}
    (plain : ∀ c ∈ id.toList, Url.Path.isIgnored c = false) (filled : id ≠ "")
    (point : id ≠ ".") (points : id ≠ "..") :
    s.urlFor id = { s.base with path := (s.urlFor id).path } ∧
      ∃ last, Url.Path.IsSegment (Url.pathStyle s.base.scheme) last ∧
        Url.Percent.decode last = Text.Utf8.encode id.toList ∧
        (s.urlFor id).path =
          (if s.base.path = [[], []] then [] else s.base.path.stem) ++ [last] := by
  have hkept : Url.Path.kept id.toList = id.toList := Url.Path.kept_eq_self plain
  have hname : Url.Path.IsName id.toList := by
    constructor
    · intro h
      exact point (String.toList_injective (hkept.symm.trans h))
    · intro h
      exact points (String.toList_injective (hkept.symm.trans h))
  have hfilled : Url.Path.kept id.toList ≠ [] := by
    rw [hkept]
    exact fun h => filled (String.toList_injective h)
  refine ⟨rfl, _, Url.Path.isSegment_segment hname hfilled, ?_, ?_⟩
  · rw [Url.Path.decode_segment, hkept]
  · rw [← Url.Path.place_eq_ite]
    exact Url.Path.child_of_isName (hasDrives_of_web web) s.base.path hname

/-- An id with all the signs of a URL that looks encoded already, at an address that ends with two
empty segments and has a port, a query and a fragment. -/
theorem encoded_id_read_back :
    let id := "%2e%2e/a%2Fb\\?#é"
    ∃ s, ofAddress templates "https://h:8443/a//?q=1#f" = .ok s ∧
      (s.base.scheme = "http" ∨ s.base.scheme = "https") ∧
      (∀ c ∈ id.toList, Url.Path.isIgnored c = false) ∧ id ≠ "" ∧ id ≠ "." ∧ id ≠ ".." ∧
      (s.urlFor id).text =
        "https://h:8443/a//%252e%252e%2Fa%252Fb%5C%3F%23%C3%A9?q=1#f".toList ∧
      ∃ last, (s.urlFor id).path = ["a".toList, [], last] ∧
        Url.Percent.decode last = Text.Utf8.encode id.toList := by
  intro id
  have hservice : ∃ s, ofAddress templates "https://h:8443/a//?q=1#f" = .ok s ∧
      s.base.scheme = "https" ∧ s.base.path = ["a".toList, [], []] ∧
      (s.urlFor id).text =
        "https://h:8443/a//%252e%252e%2Fa%252Fb%5C%3F%23%C3%A9?q=1#f".toList :=
    ⟨⟨templates,
      { scheme := "https"
        authority := some { host := .name "h".toList, port := some 8443 }
        path := ["a".toList, [], []]
        query := some "q=1".toList
        fragment := some "f".toList }⟩, by decide +kernel, rfl, rfl, by decide +kernel⟩
  obtain ⟨s, hs, hscheme, hpath, htext⟩ := hservice
  have plain : ∀ c ∈ id.toList, Url.Path.isIgnored c = false :=
    forall_not_isIgnored (by decide +kernel)
  have filled : id ≠ "" := by decide
  have point : id ≠ "." := by decide
  have points : id ≠ ".." := by decide
  obtain ⟨-, last, -, hdecode, hlast⟩ := urlFor_faithful (.inr hscheme) plain filled point points
  rw [hpath] at hlast
  exact ⟨s, hs, .inr hscheme, plain, filled, point, points, htext, last, hlast, hdecode⟩

/-- Of an address with two empty segments and no others none is left in front of the id. -/
theorem two_empty_segments_dropped :
    ∃ s, ofAddress users "http://h//" = .ok s ∧ s.base.scheme = "http" ∧
      (∀ c ∈ "ab".toList, Url.Path.isIgnored c = false) ∧
      s.base.path = [[], []] ∧ (s.urlFor "ab").path = ["ab".toList] ∧
      ∀ front last, (s.urlFor "ab").path = front ++ [last] →
        front ≠ s.base.path ∧ s.base.path ≠ front ++ [[]] := by
  have hservice : ∃ s, ofAddress users "http://h//" = .ok s ∧ s.base.scheme = "http" ∧
      s.base.path = [[], []] ∧ (s.urlFor "ab").path = ["ab".toList] :=
    ⟨⟨users,
      { scheme := "http"
        authority := some { host := .name "h".toList }
        path := [[], []] }⟩, by decide +kernel, rfl, rfl, by decide +kernel⟩
  obtain ⟨s, hs, hscheme, hbase, hpath⟩ := hservice
  refine ⟨s, hs, hscheme, forall_not_isIgnored (by decide +kernel), hbase, hpath, ?_⟩
  intro front last h
  have hfront : [] = front := by
    rw [hpath] at h
    have hdrop := congrArg List.dropLast h
    rwa [List.dropLast_concat] at hdrop
  rw [hbase, ← hfront]
  exact ⟨by decide, by decide⟩

end Courier.LookupService
