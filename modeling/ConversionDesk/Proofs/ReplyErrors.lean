import ConversionDesk.Proofs.Column.DiscoveredColumns

/-!
# Errors that both kinds of replies report

A server that refuses a request says why in the field `error`, whether the request was for a
conversion or for the columns of a file. The two bodies are read by readers that know different
fields: each of them skips, as long as it is well formed, what the other one reads. This file
shows that they find the same error in every object that both can read, so the user is told the
same, except for the sentence that stands in for a missing reason.

What carries this is that the error of an object is the value that its members *give* under that
name, and what the members give does not depend on who reads them. It is different for an array,
where the place of a value decides which field it is.

## Main results

* `Column.Listing.error_eq_some_iff` — the error of a listing is what the members give
* `Reply.error_eq_error` — both readers find the same error in an object
* `Reply.errors_reported_alike` — what both kinds of requests make of an object
-/

namespace ConversionDesk

open ConversionDesk.Json

section Object

variable {text : String} {ms : List (Option String × Tree)}
  (htext : Tree.parse? text = some (.object ms))

include htext

theorem Column.Listing.error_eq_some_iff {l : Column.Listing} (h : parse? text = some l)
    {v : Value} : l.error = some v ↔ Record.Gives ms "error" v ∧ v ≠ .null := by
  obtain ⟨fields, hfields, hl⟩ := Option.bind_eq_some_iff.mp h
  rw [Record.parse?, htext, Option.bind_some] at hfields
  rw [← (ofFields?_eq_some_iff.mp hl).2]
  exact Record.field?_eq_some_iff_gives hfields (by decide)

namespace Reply

variable {b : Conversion.Body} {l : Column.Listing} (hb : Conversion.Body.parse? text = some b)
  (hl : Column.Listing.parse? text = some l)

include hb

/-- The message of a rejection is the text of the error that the members give. -/
theorem reasonText_error :
    (∀ v, Record.Gives ms "error" v → v ≠ .null → reasonText b.error = reasonText (some v)) ∧
      ((∀ v, Record.Gives ms "error" v → v = .null) → reasonText b.error = none) := by
  have herror := fun v => Conversion.Body.error_eq_some_iff (v := v) htext hb
  constructor
  · intro v hgives hnull
    rw [(herror v).mpr ⟨hgives, hnull⟩]
  · intro hnull
    have hnone : b.error = none := by
      refine Option.eq_none_iff_forall_ne_some.mpr fun v hv => ?_
      obtain ⟨hgives, hne⟩ := (herror v).mp hv
      exact hne (hnull v hgives)
    rw [hnone]
    rfl

include hl

/-- Both readers find the same error in an object. -/
theorem error_eq_error : b.error = l.error := by
  ext v
  rw [Conversion.Body.error_eq_some_iff htext hb, Column.Listing.error_eq_some_iff htext hl]

/-- What both kinds of requests make of an object that can be read as a conversion and as a
listing of columns. With a status of success both have a result, whatever the error is. With any
other status both are rejected with that status and the same message, which is the text of the
error that the object gives. The user reads the same about both if there is a message, and a
sentence of its own for each if there is none. -/
theorem errors_reported_alike (status : Nat) :
    (¬ (200 ≤ status ∧ status ≤ 299) → ∃ message,
      Conversion.settle (.received status text) = .error (.rejected status message) ∧
      Column.discover (.received status text) = .error (.rejected status message) ∧
      -- the message is that of the error in the text
      (∀ v, Record.Gives ms "error" v → v ≠ .null → message = reasonText (some v)) ∧
      ((∀ v, Record.Gives ms "error" v → v = .null) → message = none) ∧
      -- what the user reads
      let alert := Failure.notice Conversion.wording (.rejected status message)
      let placeholder := Failure.notice Column.wording (.rejected status message)
      (∀ reason, message = some reason →
        alert = "Error: " ++ reason ∧ placeholder = "Error: " ++ reason) ∧
      (message = none → alert = "Error: An unknown error occurred." ∧
        placeholder = "Error: Could not parse file.")) ∧
    (200 ≤ status ∧ status ≤ 299 →
      Conversion.settle (.received status text) = .ok b.outcome ∧
        Column.discover (.received status text) = .ok (l.headers.getD [])) := by
  rw [← Conversion.isSuccess_iff, Conversion.settle_of_parse? hb, Column.discover_of_parse? hl]
  constructor
  · intro hfailure
    obtain ⟨hgiven, habsent⟩ := reasonText_error htext hb
    refine ⟨reasonText b.error, if_neg hfailure, ?_, hgiven, habsent, ?_, ?_⟩
    · rw [if_neg hfailure, error_eq_error htext hb hl]
    · intro reason hreason
      rw [hreason]
      exact ⟨rfl, rfl⟩
    · intro hnone
      rw [hnone]
      exact ⟨rfl, rfl⟩
  · intro hsuccess
    exact ⟨if_pos hsuccess, if_pos hsuccess⟩

end Reply

end Object

namespace Reply

/-- An object that is both a conversion and a listing, with a structured error. -/
def sharedText : String :=
  "\x7b\"headers\": [\"A\", 7], \"error\": \x7b\"code\": 7\x7d, \"download_url\": \"/f\"\x7d"

def sharedMembers : List (Option String × Tree) :=
  [(some "headers", .array [.string (some "A"), .number (some (.integer 7))]),
    (some "error", .object [(some "code", .number (some (.integer 7)))]),
    (some "download_url", .string (some "/f"))]

/-- The error that the object gives. -/
def sharedError : Value := .object [("code", .number (.integer 7))]

theorem errors_of_sharedText :
    Tree.parse? sharedText = some (.object sharedMembers) ∧
      Conversion.Body.parse? sharedText =
        some { downloadUrl := some "/f", error := some sharedError } ∧
      Column.Listing.parse? sharedText =
        some { headers := some ["A", "7"], error := some sharedError } ∧
      Conversion.settle (.received 422 sharedText) =
        .error (.rejected 422 (some "\x7b\"code\":7\x7d")) ∧
      Column.discover (.received 422 sharedText) =
        .error (.rejected 422 (some "\x7b\"code\":7\x7d")) ∧
      Conversion.settle (.received 200 sharedText) = .ok (.download "/f" "f") ∧
      Column.discover (.received 200 sharedText) = .ok ["A", "7"] := by
  have htext : Tree.parse? sharedText = some (.object sharedMembers) := by cbv
  have hb : Conversion.Body.parse? sharedText =
      some { downloadUrl := some "/f", error := some sharedError } := by cbv
  have hl : Column.Listing.parse? sharedText =
      some { headers := some ["A", "7"], error := some sharedError } := by cbv
  have hgives : Record.Gives sharedMembers "error" sharedError :=
    ⟨.object [(some "code", .number (some (.integer 7)))], by simp [sharedMembers], rfl⟩
  obtain ⟨message, hsettle, hdiscover, hmessage, -⟩ :=
    (errors_reported_alike htext hb hl 422).1 (by decide)
  obtain rfl : message = some "\x7b\"code\":7\x7d" :=
    (hmessage _ hgives (by simp [sharedError])).trans (by decide)
  obtain ⟨hdownload, hheaders⟩ := (errors_reported_alike htext hb hl 200).2 (by decide)
  exact ⟨htext, hb, hl, hsettle, hdiscover, hdownload.trans (by decide), hheaders⟩

/-- In an array the error stands at another place for each reader, and what is an error to one of
them is data to the other. -/
example :
    (Conversion.Body.parse? "[null, \"x\"]").map (·.error.isSome) = some false ∧
      (Column.Listing.parse? "[null, \"x\"]").map (·.error.isSome) = some true := by
  decide +kernel

end Reply

end ConversionDesk
