import ConversionDesk.Column.Listing
import ConversionDesk.Proofs.Conversion.BodyRoundTrip
import ConversionDesk.Proofs.Json.RecordForms

/-!
# Replies in array form

A server may send the body of a reply as an object, by name, or as an array, by position. The
two are read in different ways, and this file shows that nobody behind the reader can tell
which of them was sent: the same values give the same body, the same result and the same
failure, and if one form cannot be read then neither can the other. An array may be shorter
than the list of fields, which leaves the last ones out, but never longer.

Conversion replies and column listings are two records with different fields and different
demands on them. That their forms agree has nothing to do with either, so it is shown once for
whatever is made of the fields of a record.

## Main definitions

* `Reply.Alike` — two bodies that come to the same
* `Reply.FormsAgree` — the array form and the object form of a body come to the same

## Main results

* `Reply.formsAgree_of_fields` — the forms agree for everything that is read as a record
* `Conversion.Body.parse?_array_eq_some_iff`, `Column.Listing.parse?_array_eq_some_iff` — what an
  array is read as
* `Reply.conversions_and_listings_agree` — both kinds of replies
-/

namespace ConversionDesk

open ConversionDesk.Json

/-! ### Bodies that come to the same -/

namespace Reply

variable {α β : Type}

/-- Two bodies come to the same: they are read alike or both not at all, their results are the
same, and so is what every status makes of them. -/
structure Alike (read : String → Option α) (result : α → β)
    (settle : Reply → Except Failure β) (body other : String) : Prop where
  read_eq : read body = read other
  result_eq : (read body).map result = (read other).map result
  settle_eq : ∀ status, settle (.received status body) = settle (.received status other)

/-- The array form and the object form of a body come to the same. This is said of the forms
that are made of given texts, and then of all texts with the same trees, whatever their blanks
and the spelling of their names. An array with more elements than there are fields cannot be
read. -/
structure FormsAgree (names : List String) (read : String → Option α) (result : α → β)
    (settle : Reply → Except Failure β) : Prop where
  texts : ∀ texts : List String, texts.length ≤ names.length →
    (∀ text ∈ texts, (Tree.parse? text).isSome = true) →
    Alike read result settle (Record.arrayText texts) (Record.objectText names texts)
  trees : ∀ array object ts, Tree.parse? array = some (.array ts) →
    Tree.parse? object = some (.object ((names.map some).zip ts)) → ts.length ≤ names.length →
    Alike read result settle array object
  longer : ∀ array ts, Tree.parse? array = some (.array ts) → names.length < ts.length →
    read array = none ∧ ∀ status, settle (.received status array) = .error (.noReply malformed)

section Fields

variable {names : List String} {ofFields? : List (String × Value) → Option α} {result : α → β}
  {error : α → Option Value} {settle : Reply → Except Failure β} {read : String → Option α}

theorem alike_of_read_eq (hsettle : ∀ reply, settle reply = reply.settle read result error)
    {body other : String} (h : read body = read other) : Alike read result settle body other where
  read_eq := h
  result_eq := congrArg (Option.map result) h
  settle_eq status := by simp only [hsettle, Reply.settle, h]

/-- The forms agree for everything that is read as a record, whatever is made of the fields. -/
theorem formsAgree_of_fields (hnodup : names.Nodup)
    (hread : ∀ text, read text = (Record.parse? names text).bind ofFields?)
    (hsettle : ∀ reply, settle reply = reply.settle read result error) :
    FormsAgree names read result settle := by
  have htrees : ∀ array object ts, Tree.parse? array = some (.array ts) →
      Tree.parse? object = some (.object ((names.map some).zip ts)) → ts.length ≤ names.length →
      Alike read result settle array object := by
    intro array object ts harray hobject hlength
    apply alike_of_read_eq hsettle
    rw [hread, hread, Record.parse?, Record.parse?, harray, hobject, Option.bind_some,
      Option.bind_some, Record.ofTree?_object_zip hnodup hlength]
  refine ⟨fun texts hlength htexts => ?_, htrees, fun array ts harray hlength => ?_⟩
  · obtain ⟨ts, hts⟩ := Tree.exists_forall₂_parse? htexts
    exact htrees _ _ ts (Tree.parse?_arrayText hts) (Tree.parse?_objectText names hts)
      (hts.length_eq ▸ hlength)
  · have hfields : Record.ofElements? names ts = none := by
      rw [← Option.not_isSome_iff_eq_none, Record.ofElements?_isSome_iff]
      exact fun hfit => absurd hfit.short (Nat.not_le.mpr hlength)
    have hnone : read array = none := by
      rw [hread, Record.parse?, harray, Option.bind_some, Record.ofTree?, hfields, Option.bind_none]
    exact ⟨hnone, fun status => by simp only [hsettle, Reply.settle, hnone]⟩

end Fields

end Reply

/-! ### What an array is read as -/

/-- Fields give a listing exactly if the headers are an array or left out. -/
theorem Column.Listing.ofFields?_eq_some_iff {fields : List (String × Value)}
    {l : Column.Listing} :
    ofFields? fields = some l ↔
      (∃ entries : Option (List Value), Record.field? "headers" fields = entries.map Value.array ∧
        l.headers = entries.map (List.map headerOf)) ∧
      Record.field? "error" fields = l.error := by
  obtain ⟨headers, error⟩ := l
  cases hheaders : Record.field? "headers" fields with
  | none => simp [ofFields?, hheaders, eq_comm]
  | some v =>
    cases v with
    | array entries => simp [ofFields?, hheaders, eq_comm]
    | _ => simp [ofFields?, hheaders]

section Arrays

variable {array : String} {ts : List Tree} (harray : Tree.parse? array = some (.array ts))

include harray

/-- A conversion body in array form. Its elements have to fit, and its path is a string or
left out. -/
theorem Conversion.Body.parse?_array_eq_some_iff {b : Conversion.Body} :
    Conversion.Body.parse? array = some b ↔ Record.ElementsFit 4 ts ∧
      Record.held? ts 0 = b.downloadUrl.map Value.string ∧ Record.held? ts 1 = b.data ∧
      Record.held? ts 2 = b.error ∧ Record.held? ts 3 = b.preformatted := by
  have hfit : (Record.ofElements? names ts).isSome = true ↔ Record.ElementsFit 4 ts :=
    Record.ofElements?_isSome_iff
  rw [parse?, Record.parse?, harray, Option.bind_some, Record.ofTree?, ← hfit]
  cases hfields : Record.ofElements? names ts with
  | none => simp
  | some fields =>
    have hnodup : names.Nodup := by decide
    rw [Option.bind_some, ofFields?_eq_some_iff, Record.field?_ofElements? hnodup hfields 0 rfl,
      Record.field?_ofElements? hnodup hfields 1 rfl,
      Record.field?_ofElements? hnodup hfields 2 rfl,
      Record.field?_ofElements? hnodup hfields 3 rfl, Option.isSome_some, and_iff_right rfl]

/-- A column listing in array form. Its elements have to fit, and its headers are an array or
left out. -/
theorem Column.Listing.parse?_array_eq_some_iff {l : Column.Listing} :
    Column.Listing.parse? array = some l ↔ Record.ElementsFit 2 ts ∧
      (∃ entries : Option (List Value), Record.held? ts 0 = entries.map Value.array ∧
        l.headers = entries.map (List.map headerOf)) ∧
      Record.held? ts 1 = l.error := by
  have hfit : (Record.ofElements? names ts).isSome = true ↔ Record.ElementsFit 2 ts :=
    Record.ofElements?_isSome_iff
  rw [parse?, Record.parse?, harray, Option.bind_some, Record.ofTree?, ← hfit]
  cases hfields : Record.ofElements? names ts with
  | none => simp
  | some fields =>
    have hnodup : names.Nodup := by decide
    rw [Option.bind_some, ofFields?_eq_some_iff, Record.field?_ofElements? hnodup hfields 0 rfl,
      Record.field?_ofElements? hnodup hfields 1 rfl, Option.isSome_some, and_iff_right rfl]

end Arrays

/-! ### Both kinds of replies -/

namespace Reply

/-- The object form and the array form of a reply agree, for conversions and for column
listings. The array form gives the fields in the order of the names here, with the last ones
left out if it is short. -/
theorem conversions_and_listings_agree :
    FormsAgree ["download_url", "data", "error", "is_json_string"]
        Conversion.Body.parse? Conversion.Body.outcome Conversion.settle ∧
      (∀ array ts b, Tree.parse? array = some (.array ts) →
        (Conversion.Body.parse? array = some b ↔ Record.ElementsFit 4 ts ∧
          Record.held? ts 0 = b.downloadUrl.map Value.string ∧ Record.held? ts 1 = b.data ∧
          Record.held? ts 2 = b.error ∧ Record.held? ts 3 = b.preformatted)) ∧
      FormsAgree ["headers", "error"]
        Column.Listing.parse? (fun l => l.headers.getD []) Column.discover ∧
      (∀ array ts l, Tree.parse? array = some (.array ts) →
        (Column.Listing.parse? array = some l ↔ Record.ElementsFit 2 ts ∧
          (∃ entries : Option (List Value), Record.held? ts 0 = entries.map Value.array ∧
            l.headers = entries.map (List.map Column.headerOf)) ∧
          Record.held? ts 1 = l.error)) := by
  refine ⟨?_, fun array ts b harray => ?_, ?_, fun array ts l harray => ?_⟩
  · exact formsAgree_of_fields (by decide) (fun _ => rfl) (fun _ => rfl)
  · exact Conversion.Body.parse?_array_eq_some_iff harray
  · exact formsAgree_of_fields (by decide) (fun _ => rfl) (fun _ => rfl)
  · exact Column.Listing.parse?_array_eq_some_iff harray

/-- A rejection that leaves out the last field, with blanks and an object among its values. -/
def rejectionTexts : List String := ["null", " \x7b\"rows\" : 3\x7d ", "\"No such column\""]

/-- The two forms of a rejection. -/
theorem rejection_forms_agree :
    Record.arrayText rejectionTexts = "[null, \x7b\"rows\" : 3\x7d ,\"No such column\"]" ∧
      Record.objectText ["download_url", "data", "error", "is_json_string"] rejectionTexts =
        "\x7b\"download_url\":null,\"data\": \x7b\"rows\" : 3\x7d ," ++
          "\"error\":\"No such column\"\x7d" ∧
      Conversion.settle (.received 400 (Record.arrayText rejectionTexts)) =
        .error (.rejected 400 (some "No such column")) ∧
      Conversion.settle (.received 400 (Record.objectText
        ["download_url", "data", "error", "is_json_string"] rejectionTexts)) =
        .error (.rejected 400 (some "No such column")) := by
  have htexts : ∀ text ∈ rejectionTexts, (Tree.parse? text).isSome = true := by
    simp only [rejectionTexts, List.forall_mem_cons]
    exact ⟨by cbv, by cbv, by cbv, by simp⟩
  have hforms := conversions_and_listings_agree.1.texts rejectionTexts (by decide) htexts
  have harray : Conversion.settle (.received 400 (Record.arrayText rejectionTexts)) =
      .error (.rejected 400 (some "No such column")) := by cbv
  exact ⟨by cbv, by cbv, harray, (hforms.settle_eq 400).symm.trans harray⟩

end Reply

end ConversionDesk
