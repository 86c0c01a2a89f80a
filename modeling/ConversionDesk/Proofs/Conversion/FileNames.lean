import ConversionDesk.Proofs.NothingBlank
import Mathlib.Data.List.DropRight

/-!
# File names of downloads

A file on the server is named by the last segment of its path. The segment is read from the end
of the path up to the nearest slash, so it is never looked for among the segments of the path.
This file shows that it is found nevertheless: it is the only text without a slash that ends the
path right after a slash, or makes up the whole path. A path that ends in a slash has an empty
last segment; a path without any segment does not exist, not even the empty one.

## Main definitions

* `Text.OpensSegment` — a text after which a segment begins
* `Text.segments` — a path cut at its slashes

## Main results

* `Text.lastSegment_eq_iff` — which text the last segment is
* `Text.getLast?_segments` — it is the last one when the path is cut at its slashes
* `Conversion.Body.download_named_by_last_segment` — downloads carry it with their path
-/

namespace ConversionDesk

namespace Text

/-- A text after which a segment begins: nothing, or a text that ends in a slash. -/
def OpensSegment (front : String) : Prop := front = "" ∨ ∃ path, front = path ++ "/"

/-- The segments of a path in order: it is cut at every slash. -/
def segments (path : String) : List String := (path.toList.splitOn '/').map String.ofList

theorem toList_lastSegment (path : String) :
    (lastSegment path).toList = path.toList.rtakeWhile (· != '/') := by
  rw [lastSegment, String.toList_ofList, List.rtakeWhile]

theorem slash_notMem_lastSegment (path : String) : '/' ∉ (lastSegment path).toList := by
  intro hmem
  rw [toList_lastSegment] at hmem
  simpa using List.mem_rtakeWhile_imp hmem

/-- A path is its last segment after a text that opens one. -/
theorem exists_front (path : String) :
    ∃ front, path = front ++ lastSegment path ∧ OpensSegment front := by
  have hparts := List.rdropWhile_append_rtakeWhile (p := (· != '/')) (l := path.toList)
  refine ⟨String.ofList (path.toList.rdropWhile (· != '/')), ?_, ?_⟩
  · rw [← String.toList_inj, String.toList_append, String.toList_ofList, toList_lastSegment, hparts]
  · by_cases hempty : path.toList.rdropWhile (· != '/') = []
    · exact Or.inl (by rw [hempty])
    · -- what is left begins a segment because the reading stopped at its last character
      have hlast := List.rdropWhile_last_not (· != '/') path.toList hempty
      refine Or.inr ⟨String.ofList (path.toList.rdropWhile (· != '/')).dropLast, ?_⟩
      rw [← String.toList_inj, String.toList_append, String.toList_ofList, String.toList_ofList]
      have hslash : (path.toList.rdropWhile (· != '/')).getLast hempty = '/' := by simpa using hlast
      rw [← List.dropLast_append_getLast hempty, hslash]
      simp

/-- After a text that opens a segment, a text without slashes is the last segment. -/
theorem lastSegment_append {front segment : String} (hfront : OpensSegment front)
    (hsegment : '/' ∉ segment.toList) : lastSegment (front ++ segment) = segment := by
  have hall : ∀ c ∈ segment.toList, (c != '/') = true := by
    intro c hc
    simpa using ne_of_mem_of_not_mem hc hsegment
  rw [← String.toList_inj, toList_lastSegment, String.toList_append]
  rcases hfront with rfl | ⟨path, rfl⟩
  · simpa using List.rtakeWhile_eq_self_iff.mpr hall
  · -- read backwards, the segment comes first and the slash ends it
    have hback : ∀ c ∈ segment.toList.reverse, (c != '/') = true := by simpa using hall
    simp [List.rtakeWhile, List.takeWhile_append_of_pos hback]

/-- The last segment is the only text without a slash that ends the path after a text that opens
a segment. -/
theorem lastSegment_eq_iff {path segment : String} :
    lastSegment path = segment ↔
      '/' ∉ segment.toList ∧ ∃ front, path = front ++ segment ∧ OpensSegment front := by
  constructor
  · rintro rfl
    exact ⟨slash_notMem_lastSegment path, exists_front path⟩
  · rintro ⟨hsegment, front, rfl, hfront⟩
    exact lastSegment_append hfront hsegment

theorem lastSegment_eq_empty_iff {path : String} : lastSegment path = "" ↔ OpensSegment path := by
  rw [lastSegment_eq_iff]
  simp

theorem OpensSegment.append_slash (front : String) {rest : String} (h : OpensSegment rest) :
    OpensSegment (front ++ "/" ++ rest) := by
  rcases h with rfl | ⟨path, rfl⟩
  · exact Or.inr ⟨front, String.append_empty⟩
  · exact Or.inr ⟨front ++ "/" ++ path, (String.append_assoc ..).symm⟩

/-- What comes before a slash does not matter. -/
theorem lastSegment_append_slash (front path : String) :
    lastSegment (front ++ "/" ++ path) = lastSegment path := by
  obtain ⟨before, hpath, hbefore⟩ := exists_front path
  rw [lastSegment_eq_iff]
  refine ⟨slash_notMem_lastSegment path, front ++ "/" ++ before, ?_, hbefore.append_slash front⟩
  calc front ++ "/" ++ path = front ++ "/" ++ (before ++ lastSegment path) := by rw [← hpath]
    _ = front ++ "/" ++ before ++ lastSegment path := String.append_assoc.symm

/-- Cut at its slashes, a path always has a last segment. -/
theorem getLast?_segments (path : String) : (segments path).getLast? = some (lastSegment path) := by
  obtain ⟨front, hpath, hfront⟩ := exists_front path
  have hlast := List.splitOn_eq_singleton (slash_notMem_lastSegment path)
  generalize lastSegment path = segment at hpath hlast ⊢
  rcases hfront with rfl | ⟨before, rfl⟩
  · subst hpath
    simp [segments, hlast]
  · subst hpath
    simp [segments, List.splitOn_append_cons_self, hlast]

/-- Also the empty path has one, which is empty. -/
example : segments "" = [""] ∧ segments "//files/" = ["", "", "files", ""] := by decide

end Text

namespace Conversion.Body

open Text

/-- A body comes to a download exactly if its path is not empty, and the download carries that
path and its last segment. -/
theorem outcome_eq_download_iff {b : Body} {url fileName : String} :
    b.outcome = .download url fileName ↔
      b.downloadUrl = some url ∧ url ≠ "" ∧ fileName = lastSegment url := by
  rcases b.outcome_cases with ⟨path, hpath, hne, houtcome⟩ | ⟨hpath, hrest⟩
  · rw [houtcome, hpath]
    constructor
    · intro h
      obtain ⟨rfl, rfl⟩ := Outcome.download.inj h
      exact ⟨rfl, hne, rfl⟩
    · rintro ⟨h, -, rfl⟩
      obtain rfl := Option.some.inj h
      rfl
  · constructor
    · intro h
      rcases hrest with ⟨v, -, -, houtcome⟩ | ⟨-, houtcome⟩
      · rw [houtcome] at h
        cases h
      · rw [houtcome] at h
        cases h
    · rintro ⟨h, hne, -⟩
      rcases hpath with hnone | hempty
      · rw [hnone] at h
        cases h
      · rw [hempty] at h
        exact absurd (Option.some.inj h).symm hne

/-- Downloads are named by the last segment of their path. It is the only text without a slash
that ends the path after nothing or after a slash. Cut at its slashes, every path has a last
segment, and this is it, so nothing has to stand in for a name. It is empty exactly if the path is
empty or ends in a slash, and does not depend on what comes before a slash. A body comes to a
download exactly if it holds a path that is not empty; the download carries that path as it is,
with its last segment. -/
theorem download_named_by_last_segment (url : String) :
    (∀ name, name = lastSegment url ↔ '/' ∉ name.toList ∧
      ∃ front, url = front ++ name ∧ (front = "" ∨ ∃ path, front = path ++ "/")) ∧
    (segments url).getLast? = some (lastSegment url) ∧
    (lastSegment url = "" ↔ url = "" ∨ ∃ path, url = path ++ "/") ∧
    (∀ front, lastSegment (front ++ "/" ++ url) = lastSegment url) ∧
    ∀ (b : Body) fileName, b.outcome = .download url fileName ↔
      b.downloadUrl = some url ∧ url ≠ "" ∧ fileName = lastSegment url := by
  refine ⟨fun name => ?_, getLast?_segments url, lastSegment_eq_empty_iff,
    fun front => lastSegment_append_slash front url, fun b fileName => outcome_eq_download_iff⟩
  rw [eq_comm]
  exact lastSegment_eq_iff

end Conversion.Body

end ConversionDesk
