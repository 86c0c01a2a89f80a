import ConversionDesk.Proofs.Conversion.BodyRoundTrip
import ConversionDesk.Proofs.Json.Indentation

/-!
# Shown data

A conversion that gives inline data shows them as text: strings as they are, arrays and objects
indented, everything else as JSON. This file asks what a reader of the text can know. An array or
object can be read back from its text, members in order, so nothing of it is lost.

Bodies may be equal although their objects name members in different orders, and then their
texts may differ. The text of an array or object keeps the order that its equality ignores, so
equal bodies need not show equal texts. What they show is still the same thing: both texts read
back, and to equal values.

## Main definitions

* `Json.Value.isContainer` — arrays and objects

## Main results

* `Json.Value.same_cases` — what equal values are
* `Conversion.shownText_reads_back` — the text of an array or object
* `Conversion.Body.outcomes_of_same` — what equal bodies show
-/

namespace ConversionDesk

open ConversionDesk.Json

/-- Equal numbers are the same number, except for the two zeros of binary64. -/
theorem Json.Number.eq_or_isZero_of_same {m n : Number} (h : m.same n = true) :
    m = n ∨ m.isZero = true ∧ n.isZero = true := by
  cases m with
  | integer i =>
    cases n with
    | integer j => exact Or.inl (by rw [eq_of_beq h])
    | float y => cases h
  | float x =>
    cases n with
    | integer j => cases h
    | float y =>
      rcases Bool.or_eq_true_iff.mp h with heq | hzero
      · exact Or.inl (by rw [eq_of_beq heq])
      · exact Or.inr (Bool.and_eq_true_iff.mp hzero)

namespace Json.Value

/-- Arrays and objects. -/
def isContainer : Value → Bool
  | array _ => true
  | object _ => true
  | _ => false

/-- More room does no harm. -/
theorem Nests.mono {room more : Nat} {v : Value} (h : v.Nests room) (hle : room ≤ more) :
    v.Nests more := by
  induction h generalizing more with
  | null => exact .null
  | bool b => exact .bool b
  | number n => exact .number n
  | string s => exact .string s
  | array _ ih =>
    obtain ⟨more, rfl⟩ := Nat.exists_eq_succ_of_ne_zero (by omega : more ≠ 0)
    exact .array fun x hx => ih x hx (by omega)
  | object names _ ih =>
    obtain ⟨more, rfl⟩ := Nat.exists_eq_succ_of_ne_zero (by omega : more ≠ 0)
    exact .object names fun m hm => ih m hm (by omega)

/-- Equal values are two containers, or the same value, or two zeros. -/
theorem same_cases {v w : Value} (h : v.same w = true) :
    v.isContainer = true ∧ w.isContainer = true ∨ v = w ∨
      ∃ m n, v = .number m ∧ w = .number n ∧ m.isZero = true ∧ n.isZero = true := by
  cases v with
  | array xs =>
    cases w with
    | array ys => exact Or.inl ⟨rfl, rfl⟩
    | _ => simp [same] at h
  | object ms =>
    cases w with
    | object ns => exact Or.inl ⟨rfl, rfl⟩
    | _ => simp [same] at h
  | null =>
    cases w with
    | null => exact Or.inr (Or.inl rfl)
    | _ => simp [same] at h
  | bool a =>
    cases w with
    | bool b => exact Or.inr (Or.inl (by simpa [same] using h))
    | _ => simp [same] at h
  | string s =>
    cases w with
    | string t => exact Or.inr (Or.inl (by simpa [same] using h))
    | _ => simp [same] at h
  | number m =>
    cases w with
    | number n =>
      rcases Number.eq_or_isZero_of_same (by simpa [same] using h) with rfl | ⟨hm, hn⟩
      · exact Or.inr (Or.inl rfl)
      · exact Or.inr (Or.inr ⟨m, n, rfl, rfl, hm, hn⟩)
    | _ => simp [same] at h

theorem isContainer_of_same {v w : Value} (h : v.same w = true) :
    v.isContainer = w.isContainer := by
  rcases same_cases h with ⟨hv, hw⟩ | rfl | ⟨m, n, rfl, rfl, -, -⟩
  · rw [hv, hw]
  · rfl
  · rfl

end Json.Value

namespace Conversion

/-! ### The text of an array or object -/

theorem shownText_of_isContainer {v : Value} (h : v.isContainer = true) :
    shownText v = v.indented := by
  cases v with
  | array | object => rfl
  | null | bool | number | string => cases h

/-- The text of an array or object is read back, with the members of objects in order. It is the
compact text of the value but for spaces and line breaks outside string literals. -/
theorem shownText_reads_back {v : Value} (hcontainer : v.isContainer = true) (hnests : v.Nests 127)
    (hnumbers : ∀ n ∈ v.numbers, ∃ i, n = .integer i ∧ Number.FitsInteger i) :
    Value.parse? (shownText v) = some v ∧ unspaced (shownText v) = v.compact := by
  rw [shownText_of_isContainer hcontainer]
  exact ⟨Value.parse?_indented hnests hnumbers, Value.unspaced_indented hnumbers⟩

/-- A record with blanks and quotes in its strings, empty containers, and the least integer. -/
def sampleRecord : Value :=
  .object [("a b", .array [.string "\" \n", .number (.integer (-9223372036854775808))]),
    ("", .object []), ("none", .array [])]

theorem shownText_sampleRecord :
    sampleRecord.Nests 127 ∧
      shownText sampleRecord =
        "\x7b\n  \"a b\": [\n    \"\\\" \\n\",\n    -9223372036854775808\n  ],\n" ++
          "  \"\": \x7b\x7d,\n  \"none\": []\n\x7d" ∧
      Value.parse? (shownText sampleRecord) = some sampleRecord ∧
      unspaced (shownText sampleRecord) =
        "\x7b\"a b\":[\"\\\" \\n\",-9223372036854775808],\"\":\x7b\x7d,\"none\":[]\x7d" := by
  have hnests : sampleRecord.Nests 127 := by
    refine .object (by decide) ?_
    simp only [List.forall_mem_cons]
    refine ⟨.array ?_, .object List.nodup_nil (by simp), .array (by simp), by simp⟩
    simp only [List.forall_mem_cons]
    exact ⟨.string _, .number _, by simp⟩
  have hnumbers : ∀ n ∈ sampleRecord.numbers, ∃ i, n = .integer i ∧ Number.FitsInteger i := by
    intro n hn
    obtain rfl : n = .integer (-9223372036854775808) := List.mem_singleton.mp hn
    exact ⟨_, rfl, by decide⟩
  obtain ⟨hback, hcompact⟩ := shownText_reads_back rfl hnests hnumbers
  exact ⟨hnests, by decide, hback, hcompact.trans (by decide)⟩

/-! ### Equal values -/

theorem hasContent_of_isContainer {v : Value} (h : v.isContainer = true) : hasContent v = true := by
  cases v with
  | array | object => rfl
  | null | bool | number | string => cases h

/-- Equal values are both worth showing, or neither is. -/
theorem hasContent_of_same {v w : Value} (h : v.same w = true) : hasContent v = hasContent w := by
  rcases Value.same_cases h with ⟨hv, hw⟩ | rfl | ⟨m, n, rfl, rfl, hm, hn⟩
  · rw [hasContent_of_isContainer hv, hasContent_of_isContainer hw]
  · rfl
  · rw [hasContent, hasContent, hm, hn]

/-- Equal values that are no containers and worth showing are the same value. -/
theorem eq_of_same {v w : Value} (h : v.same w = true) (hcontainer : v.isContainer = false)
    (hcontent : hasContent v = true) : v = w := by
  rcases Value.same_cases h with ⟨hv, -⟩ | rfl | ⟨m, n, rfl, rfl, hm, -⟩
  · exact absurd (hcontainer.symm.trans hv) Bool.false_ne_true
  · rfl
  · simp [hasContent, hm] at hcontent

namespace Body

/-! ### Equal bodies -/

theorem outcome_of_url {b : Body} {url : String} (h : b.downloadUrl.filter (· != "") = some url) :
    b.outcome = .download url (Text.lastSegment url) := by
  simp only [outcome, h, Outcome.ofUrl]

theorem outcome_of_data {b : Body} (hurl : b.downloadUrl.filter (· != "") = none) {v : Value}
    (hv : b.data = some v) (hcontent : hasContent v = true) :
    b.outcome = .display (shownText v) := by
  have hshown : b.data.filter hasContent = some v := by
    rw [hv, Option.filter_some, if_pos hcontent]
  simp only [outcome, hurl, hshown]

theorem outcome_of_no_content {b : Body} (hurl : b.downloadUrl.filter (· != "") = none)
    (hdata : ∀ v ∈ b.data, hasContent v = false) : b.outcome = .empty := by
  have hnone : b.data.filter hasContent = none := by
    rw [Option.filter_eq_none_iff]
    intro v hv
    simp [hdata v hv]
  simp only [outcome, hurl, hnone]

/-- Equal bodies have the same path, and data that are both absent or equal. -/
theorem data_of_same {a b : Body} (h : a.same b = true) :
    a.downloadUrl = b.downloadUrl ∧
      (a.data = none ∧ b.data = none ∨
        ∃ v w, a.data = some v ∧ b.data = some w ∧ v.same w = true) := by
  simp only [same, Bool.and_eq_true, beq_iff_eq] at h
  obtain ⟨⟨⟨hurl, hdata⟩, -⟩, -⟩ := h
  refine ⟨hurl, ?_⟩
  cases ha : a.data with
  | none =>
    cases hb : b.data with
    | none => exact Or.inl ⟨rfl, rfl⟩
    | some w => simp [ha, hb, Value.sameOption] at hdata
  | some v =>
    cases hb : b.data with
    | none => simp [ha, hb, Value.sameOption] at hdata
    | some w => exact Or.inr ⟨v, w, rfl, rfl, by simpa [ha, hb, Value.sameOption] using hdata⟩

/-- A container that a body shows is read back from its text. -/
theorem parse?_shownText {text : String} {b : Body} (h : parse? text = some b)
    (hfloat : ∀ x, Number.float x ∉ b.numbers) {v : Value} (hv : b.data = some v)
    (hcontainer : v.isContainer = true) : Value.parse? (shownText v) = some v := by
  have hmem : v ∈ b.values := by simp [values, hv]
  obtain ⟨-, hnests, hfits⟩ := nests_of_mem_values h hmem
  rw [shownText_of_isContainer hcontainer]
  refine Value.parse?_indented (hnests.mono (by decide)) fun n hn => ?_
  cases n with
  | integer i => exact ⟨i, rfl, hfits _ hn⟩
  | float x => exact absurd (List.mem_flatMap.mpr ⟨v, hmem, hn⟩) (hfloat x)

/-- Equal bodies without binary64 numbers show nothing both, or link to the same file under the
same name, or show texts. The texts are the same unless the data are an array or object, and
then both are read back to values that are equal up to the order of members. -/
theorem outcomes_of_same {text other : String} {a b : Body} (ha : parse? text = some a)
    (hb : parse? other = some b) (hfloat : ∀ x, Number.float x ∉ a.numbers)
    (hfloat' : ∀ x, Number.float x ∉ b.numbers) (h : a.same b = true) :
    (a.outcome = .empty ∧ b.outcome = .empty) ∨
    (∃ url fileName, a.outcome = .download url fileName ∧ b.outcome = .download url fileName) ∨
    ∃ v w shown shown', a.data = some v ∧ b.data = some w ∧
      a.outcome = .display shown ∧ b.outcome = .display shown' ∧
      (v.isContainer = false → shown = shown') ∧
      (v.isContainer = true → ∃ back back', Value.parse? shown = some back ∧
        Value.parse? shown' = some back' ∧ back.same back' = true) := by
  obtain ⟨hurl, hdata⟩ := data_of_same h
  cases hpath : a.downloadUrl.filter (· != "") with
  | some url => exact Or.inr (Or.inl ⟨url, _, outcome_of_url hpath, outcome_of_url (hurl ▸ hpath)⟩)
  | none =>
    have hpath' : b.downloadUrl.filter (· != "") = none := hurl ▸ hpath
    rcases hdata with ⟨hnone, hnone'⟩ | ⟨v, w, hv, hw, hsame⟩
    · exact Or.inl ⟨outcome_of_no_content hpath (by simp [hnone]),
        outcome_of_no_content hpath' (by simp [hnone'])⟩
    · have hcontent := hasContent_of_same hsame
      by_cases hworth : hasContent v = true
      · refine Or.inr (Or.inr ⟨v, w, shownText v, shownText w, hv, hw,
          outcome_of_data hpath hv hworth, outcome_of_data hpath' hw (hcontent ▸ hworth), ?_, ?_⟩)
        · intro hplain
          rw [eq_of_same hsame hplain hworth]
        · intro hcontainer
          exact ⟨v, w, parse?_shownText ha hfloat hv hcontainer,
            parse?_shownText hb hfloat' hw (Value.isContainer_of_same hsame ▸ hcontainer), hsame⟩
      · rw [Bool.not_eq_true] at hworth
        exact Or.inl ⟨outcome_of_no_content hpath (by simp [hv, hworth]),
          outcome_of_no_content hpath' (by simp [hw, ← hcontent, hworth])⟩

/-- A body as an object, and one as an array whose objects name their members in a different
order. -/
def orderedText : String :=
  "\x7b\"data\": \x7b\"a\": 1, \"b\": [\x7b\"c\": 2, \"d\": 3\x7d]\x7d\x7d"

def reorderedText : String := "[null, \x7b\"b\": [\x7b\"d\": 3, \"c\": 2\x7d], \"a\": 1\x7d]"

def orderedBody : Body where
  data := some (.object [("a", .number (.integer 1)),
    ("b", .array [.object [("c", .number (.integer 2)), ("d", .number (.integer 3))]])])

def reorderedBody : Body where
  data := some (.object [
    ("b", .array [.object [("d", .number (.integer 3)), ("c", .number (.integer 2))]]),
    ("a", .number (.integer 1))])

theorem outcomes_of_reordered :
    parse? orderedText = some orderedBody ∧ parse? reorderedText = some reorderedBody ∧
      orderedBody.same reorderedBody = true ∧ orderedBody.outcome ≠ reorderedBody.outcome ∧
      ∃ shown shown' back back', orderedBody.outcome = .display shown ∧
        reorderedBody.outcome = .display shown' ∧ Value.parse? shown = some back ∧
        Value.parse? shown' = some back' ∧ back.same back' = true := by
  have hordered : parse? orderedText = some orderedBody := by cbv
  have hreordered : parse? reorderedText = some reorderedBody := by cbv
  have hfloat : ∀ x, Number.float x ∉ orderedBody.numbers := by
    have hnumbers : orderedBody.numbers = [.integer 1, .integer 2, .integer 3] := rfl
    simp [hnumbers]
  have hfloat' : ∀ x, Number.float x ∉ reorderedBody.numbers := by
    have hnumbers : reorderedBody.numbers = [.integer 3, .integer 2, .integer 1] := rfl
    simp [hnumbers]
  have hsame : orderedBody.same reorderedBody = true := by decide
  have hdiffer : orderedBody.outcome ≠ reorderedBody.outcome := by decide
  refine ⟨hordered, hreordered, hsame, hdiffer, ?_⟩
  rcases outcomes_of_same hordered hreordered hfloat hfloat' hsame with ⟨hempty, hempty'⟩ |
    ⟨url, fileName, hlink, hlink'⟩ | ⟨v, w, shown, shown', hv, -, hshown, hshown', -, hback⟩
  · exact absurd (hempty.trans hempty'.symm) hdiffer
  · exact absurd (hlink.trans hlink'.symm) hdiffer
  · obtain rfl := Option.some.inj hv
    obtain ⟨back, back', hreads, hreads', hequal⟩ := hback rfl
    exact ⟨shown, shown', back, back', hshown, hshown', hreads, hreads', hequal⟩

end Body

end Conversion

end ConversionDesk
