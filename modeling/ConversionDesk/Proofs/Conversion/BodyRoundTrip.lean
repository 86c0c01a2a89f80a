import Mathlib
import ConversionDesk.Conversion.Body
import ConversionDesk.Proofs.Json.Fields

/-!
# Bodies through their text

A body that was read off a text is written as an object with all four fields, and that
object is read again. A field that the first text left out, or gave as `null`, is written as
`null` and read as absent. What the other fields hold came out of a text, so it nests within
the limit, none of its objects repeats a name, and its integers fit: it survives its own
compact text, with the members of objects in the same order. The one exception are
binary64 numbers, which the main result leaves out.

## Main definitions

* `Conversion.Body.values`, `Conversion.Body.numbers` — what the untyped fields hold

## Main results

* `Conversion.Body.ofFields?_eq_some_iff` — which body fields give
* `Conversion.Body.parse?_write_of_parse?` — a body is read back from its own text
-/

namespace ConversionDesk.Conversion.Body

open ConversionDesk.Json

/-- The values of the fields that may hold any type. -/
def values (b : Body) : List Value := b.data.toList ++ b.error.toList ++ b.preformatted.toList

/-- All numbers in these values. -/
def numbers (b : Body) : List Number := b.values.flatMap Value.numbers

/-! ### Fields and bodies -/

/-- Fields give a body exactly if the path is a string or left out. -/
theorem ofFields?_eq_some_iff {fields : List (String × Value)} {b : Body} :
    ofFields? fields = some b ↔
      Record.field? "download_url" fields = b.downloadUrl.map Value.string ∧
      Record.field? "data" fields = b.data ∧ Record.field? "error" fields = b.error ∧
      Record.field? "is_json_string" fields = b.preformatted := by
  obtain ⟨url, data, error, preformatted⟩ := b
  cases hurl : Record.field? "download_url" fields with
  | none => cases url <;> simp [ofFields?, hurl]
  | some v =>
    cases v with
    | string s => cases url <;> simp [ofFields?, hurl]
    | _ => cases url <;> simp [ofFields?, hurl]

theorem exists_fields_of_parse? {text : String} {b : Body} (h : parse? text = some b) :
    ∃ fields, Record.parse? names text = some fields ∧ ofFields? fields = some b :=
  Option.bind_eq_some_iff.mp h

/-- What the untyped fields of a body hold, if the body was read off a text. -/
theorem nests_of_mem_values {text : String} {b : Body} (h : parse? text = some b) {v : Value}
    (hv : v ∈ b.values) :
    v ≠ .null ∧ v.Nests (Tree.maxDepth - 1) ∧ ∀ n ∈ v.numbers, n.Fits := by
  obtain ⟨fields, hfields, hb⟩ := exists_fields_of_parse? h
  obtain ⟨-, hdata, herror, hflag⟩ := ofFields?_eq_some_iff.mp hb
  have hfield : ∃ name, Record.field? name fields = some v := by
    simp only [values, List.mem_append, Option.mem_toList] at hv
    rcases hv with (hv | hv) | hv
    · exact ⟨"data", hdata.trans hv⟩
    · exact ⟨"error", herror.trans hv⟩
    · exact ⟨"is_json_string", hflag.trans hv⟩
  obtain ⟨name, hname⟩ := hfield
  obtain ⟨hmem, hne⟩ := Record.mem_of_field? hname
  exact ⟨hne, Record.nests_of_parse? hfields hmem⟩

/-! ### Absent fields -/

theorem present_getD {v : Option Value} (h : ∀ w ∈ v, w ≠ .null) :
    (v.getD .null).present = v := by
  cases v with
  | none => rfl
  | some w => exact Record.present_eq_some_iff.mpr ⟨rfl, h w rfl⟩

/-- What holds of `null` and of a field that is given holds of the field as it is written. -/
theorem forall_getD {P : Value → Prop} (hnull : P .null) {v : Option Value} (h : ∀ w ∈ v, P w) :
    P (v.getD .null) := by
  cases v with
  | none => exact hnull
  | some w => exact h w rfl

/-- The fields as they are written. -/
def writtenFields (b : Body) : List (String × Value) :=
  [("download_url", (b.downloadUrl.map Value.string).getD .null),
    ("data", b.data.getD .null),
    ("error", b.error.getD .null),
    ("is_json_string", b.preformatted.getD .null)]

theorem write_eq_compact (b : Body) : b.write = (Value.object b.writtenFields).compact := rfl

theorem map_fst_writtenFields (b : Body) : b.writtenFields.map Prod.fst = names := rfl

/-- What holds of `null`, of strings and of the values of a body holds of all fields as they
are written. -/
theorem forall_writtenFields {P : Value → Prop} {b : Body} (hnull : P .null)
    (hstring : ∀ s, P (.string s)) (hvalues : ∀ v ∈ b.values, P v) :
    ∀ m ∈ b.writtenFields, P m.2 := by
  simp only [values, List.mem_append, Option.mem_toList] at hvalues
  simp only [writtenFields, List.forall_mem_cons]
  refine ⟨?_, ?_, ?_, ?_, by simp⟩
  · refine forall_getD hnull fun w hw => ?_
    obtain ⟨url, -, rfl⟩ := Option.map_eq_some_iff.mp hw
    exact hstring url
  · exact forall_getD hnull fun w hw => hvalues w (Or.inl (Or.inl hw))
  · exact forall_getD hnull fun w hw => hvalues w (Or.inl (Or.inr hw))
  · exact forall_getD hnull fun w hw => hvalues w (Or.inr hw)

theorem ofFields?_writtenFields {b : Body} (h : ∀ v ∈ b.values, v ≠ .null) :
    ofFields? b.writtenFields = some b := by
  simp only [values, List.mem_append, Option.mem_toList] at h
  have hurl : ∀ w ∈ b.downloadUrl.map Value.string, w ≠ .null := by
    intro w hw
    obtain ⟨url, -, rfl⟩ := Option.map_eq_some_iff.mp hw
    simp
  rw [ofFields?_eq_some_iff]
  simp only [writtenFields, Record.field?, Value.member?]
  refine ⟨?_, ?_, ?_, ?_⟩
  · exact present_getD hurl
  · exact present_getD fun w hw => h w (Or.inl (Or.inl hw))
  · exact present_getD fun w hw => h w (Or.inl (Or.inr hw))
  · exact present_getD fun w hw => h w (Or.inr hw)

/-! ### The round trip -/

theorem parse?_write {b : Body} (hnull : ∀ v ∈ b.values, v ≠ .null)
    (hnests : ∀ v ∈ b.values, v.Nests (Tree.maxDepth - 1))
    (hnumbers : ∀ v ∈ b.values, ∀ n ∈ v.numbers, ∃ i, n = .integer i ∧ Number.FitsInteger i) :
    parse? b.write = some b := by
  have hknown : ∀ m ∈ b.writtenFields, m.1 ∈ names := by
    intro m hm
    rw [← map_fst_writtenFields b]
    exact List.mem_map_of_mem hm
  have hnodup : (b.writtenFields.map Prod.fst).Nodup := by
    rw [map_fst_writtenFields]
    decide
  have hfields : Record.parse? names b.write = some b.writtenFields := by
    rw [write_eq_compact]
    refine Record.parse?_compact_object hknown hnodup ?_ ?_
    · exact forall_writtenFields .null .string hnests
    · exact forall_writtenFields (by simp [Value.numbers]) (by simp [Value.numbers]) hnumbers
  rw [parse?, hfields, Option.bind_some, ofFields?_writtenFields hnull]

/-- A body without binary64 numbers that was read off a text is read back from its own
compact text, member order included. Both texts then show the same outcome and settle every
status alike. -/
theorem parse?_write_of_parse? {text : String} {b : Body} (h : parse? text = some b)
    (hfloat : ∀ x, Number.float x ∉ b.numbers) :
    parse? b.write = some b ∧
      (parse? b.write).map outcome = (parse? text).map outcome ∧
      ∀ status, settle (.received status b.write) = settle (.received status text) := by
  have hback : parse? b.write = some b := by
    refine parse?_write (fun v hv => (nests_of_mem_values h hv).1)
      (fun v hv => (nests_of_mem_values h hv).2.1) fun v hv n hn => ?_
    have hfits := (nests_of_mem_values h hv).2.2 n hn
    cases n with
    | integer i => exact ⟨i, rfl, hfits⟩
    | float x => exact absurd (List.mem_flatMap.mpr ⟨v, hv, hn⟩) (hfloat x)
  refine ⟨hback, by rw [hback, h], fun status => ?_⟩
  simp only [settle, Reply.settle, hback, h]

/-- A text in array form: an empty path, an object with the extreme integers and a name that
needs escapes, no error, and a flag. -/
def sampleText : String :=
  "[\"\", \x7b\"a\": [-9223372036854775808, 18446744073709551615], " ++
    "\"\\\"\\u0001\\ud83d\\ude00\": [null]\x7d, null, false]"

def sampleBody : Body where
  downloadUrl := some ""
  data := some (.object [
    ("a", .array [.number (.integer (-9223372036854775808)),
      .number (.integer 18446744073709551615)]),
    ("\"\x01😀", .array [.null])])
  preformatted := some (.bool false)

theorem parse?_write_sample :
    parse? sampleText = some sampleBody ∧ (∀ x, Number.float x ∉ sampleBody.numbers) ∧
      parse? sampleBody.write = some sampleBody ∧
      ∀ status, settle (.received status sampleBody.write) =
        settle (.received status sampleText) := by
  have hread : parse? sampleText = some sampleBody := by cbv
  have hfloat : ∀ x, Number.float x ∉ sampleBody.numbers := by
    have hnumbers : sampleBody.numbers =
        [.integer (-9223372036854775808), .integer 18446744073709551615] := rfl
    simp [hnumbers]
  obtain ⟨hback, -, hsettle⟩ := parse?_write_of_parse? hread hfloat
  exact ⟨hread, hfloat, hback, hsettle⟩

end ConversionDesk.Conversion.Body
