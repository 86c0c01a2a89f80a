import ConversionDesk.Column.Listing
import ConversionDesk.Proofs.Conversion.ShownData

/-!
# Nothing blank reaches the user

What a server sends may be empty in many ways: an empty path, an empty string as data or as an
error, a zero, a `null`. Three rules sort these out before anything is shown, one each for paths,
for data and for errors, and they do not agree: a zero is no data, but it is an error like any
other. This file shows that together they let nothing empty through. A text that is shown is not
empty, neither is a path that is linked, and every rejection tells the user something.

Behind it is that every value has a text. Of strings this is false as soon as they are shown
without their quotes, and there the rules step in.

## Main definitions

* `Conversion.Outcome.Filled` — an outcome with nothing empty in it

## Main results

* `Json.Number.write_ne_nil`, `Json.Value.compact_ne_empty`, `Json.Value.indented_ne_empty` —
  every value has a text
* `reasonText_ne_empty` — a message is not empty
* `Conversion.Body.outcome_cases` — what a body comes to
* `Reply.nothing_blank` — what the user gets of every reply
-/

namespace ConversionDesk

open ConversionDesk.Json

/-! ### Every value has a text -/

theorem Binary64.isZero_iff {x : Binary64} : x.isZero = true ↔ ∃ negative, x = zero negative := by
  constructor
  · intro h
    exact ⟨x.negative, congrArg (Binary64.mk x.negative) (Fin.ext (eq_of_beq h))⟩
  · rintro ⟨negative, rfl⟩
    rfl

namespace Json.Number

theorem writeInteger_ne_nil (i : Int) : writeInteger i ≠ [] := by
  cases i with
  | ofNat n => exact naturalDigits_ne_nil n
  | negSucc n => exact List.cons_ne_nil _ _

theorem positional_ne_nil (ds : List Char) (k : Int) : positional ds k ≠ [] := by
  rw [positional]
  -- every layout puts a point between the digits
  split
  · exact List.cons_ne_nil _ _
  split
  · exact List.append_ne_nil_of_right_ne_nil _ (List.cons_ne_nil _ _)
  · exact List.append_ne_nil_of_right_ne_nil _ (List.cons_ne_nil _ _)

theorem scientific_ne_nil (ds : List Char) (k : Int) : scientific ds k ≠ [] :=
  List.append_ne_nil_of_right_ne_nil _ (List.cons_ne_nil _ _)

theorem writeMagnitude_ne_nil (layout : FloatLayout) (x : Binary64) :
    writeMagnitude layout x ≠ [] := by
  rw [writeMagnitude]
  split
  · exact List.cons_ne_nil _ _
  dsimp only
  split
  · exact positional_ne_nil _ _
  · exact scientific_ne_nil _ _

theorem write_ne_nil (n : Number) : n.write ≠ [] := by
  cases n with
  | integer i => exact writeInteger_ne_nil i
  | float x => exact List.append_ne_nil_of_right_ne_nil _ (writeMagnitude_ne_nil _ _)

/-- The zeros: the integer, and the two of binary64. -/
theorem isZero_iff {n : Number} :
    n.isZero = true ↔ n = .integer 0 ∨ n = .float (.zero false) ∨ n = .float (.zero true) := by
  cases n with
  | integer i => simp [isZero]
  | float x =>
    rw [isZero, Binary64.isZero_iff]
    constructor
    · rintro ⟨_ | _, rfl⟩
      · exact Or.inr (Or.inl rfl)
      · exact Or.inr (Or.inr rfl)
    · rintro (h | h | h)
      · cases h
      · exact ⟨false, Number.float.inj h⟩
      · exact ⟨true, Number.float.inj h⟩

end Json.Number

namespace Json.Value

theorem compactChars_ne_nil (v : Value) : v.compactChars ≠ [] := by
  cases v with
  | null => exact List.cons_ne_nil _ _
  | bool b => cases b <;> exact List.cons_ne_nil _ _
  | number n => exact n.write_ne_nil
  | string s => exact List.cons_ne_nil _ _
  | array xs => cases xs <;> exact List.cons_ne_nil _ _
  | object ms => cases ms <;> exact List.cons_ne_nil _ _

theorem indentedChars_ne_nil (level : Nat) (v : Value) : v.indentedChars level ≠ [] := by
  cases v with
  -- both layouts write leaves alike
  | null => exact compactChars_ne_nil null
  | bool b => exact compactChars_ne_nil (bool b)
  | number n => exact compactChars_ne_nil (number n)
  | string s => exact compactChars_ne_nil (string s)
  | array xs => cases xs <;> exact List.cons_ne_nil _ _
  | object ms => cases ms <;> exact List.cons_ne_nil _ _

theorem compact_ne_empty (v : Value) : v.compact ≠ "" :=
  fun h => v.compactChars_ne_nil (String.ofList_injective h)

theorem indented_ne_empty (v : Value) : v.indented ≠ "" :=
  fun h => v.indentedChars_ne_nil 0 (String.ofList_injective h)

end Json.Value

/-! ### Rejections -/

/-- A message is not empty. -/
theorem reasonText_ne_empty {error : Option Value} {message : String}
    (h : reasonText error = some message) : message ≠ "" := by
  unfold reasonText at h
  split at h
  · cases h
  · cases h
  · split_ifs at h with hs
    obtain rfl := Option.some.inj h
    exact hs
  · obtain rfl := Option.some.inj h
    exact Value.compact_ne_empty _

/-- A zero is no data, but it is a reason. -/
example : reasonText (some (.number (.integer 0))) = some "0" := by decide

namespace Reply

variable {α β : Type} {read : String → Option α} {result : α → β} {error : α → Option Value}
  {status reported : Nat} {body : String}

/-- A result comes of a body that can be read, with a status of success. -/
theorem settle_eq_ok_iff {x : β} :
    (received status body).settle read result error = .ok x ↔
      ∃ a, read body = some a ∧ isSuccess status = true ∧ result a = x := by
  cases hread : read body with
  | none => simp [settle, hread]
  | some a => cases hstatus : isSuccess status <;> simp [settle, hread, hstatus]

/-- A rejection comes of a body that can be read, with any other status. -/
theorem settle_eq_rejected_iff {message : Option String} :
    (received status body).settle read result error = .error (.rejected reported message) ↔
      ∃ a, read body = some a ∧ isSuccess status = false ∧ status = reported ∧
        reasonText (error a) = message := by
  cases hread : read body with
  | none => simp [settle, hread]
  | some a => cases hstatus : isSuccess status <;> simp [settle, hread, hstatus]

/-- What a rejected request tells the user, if there is something to say in place of a missing
reason. -/
theorem notice_of_rejected {w : Wording} (hw : w.unexplained ≠ "") {message : Option String}
    (h : (received status body).settle read result error = .error (.rejected reported message)) :
    message ≠ some "" ∧
      ∃ said, said ≠ "" ∧ Failure.notice w (.rejected reported message) = "Error: " ++ said := by
  obtain ⟨a, -, -, -, hmessage⟩ := settle_eq_rejected_iff.mp h
  have hne : message ≠ some "" := by
    rintro rfl
    exact reasonText_ne_empty hmessage rfl
  refine ⟨hne, message.getD w.unexplained, ?_, rfl⟩
  cases message with
  | none => exact hw
  | some reason => exact fun hreason => hne (congrArg some hreason)

end Reply

/-! ### Results -/

namespace Conversion

theorem shownText_ne_empty {v : Value} (h : hasContent v = true) : shownText v ≠ "" := by
  cases v with
  | null => cases h
  | string s => simpa [shownText, hasContent] using h
  | bool | number => exact Value.compact_ne_empty _
  | array | object => exact Value.indented_ne_empty _

/-- The values that are not worth showing. -/
theorem hasContent_eq_false_iff {v : Value} :
    hasContent v = false ↔ v = .null ∨ v = .bool false ∨ v = .string "" ∨
      ∃ n, v = .number n ∧
        (n = .integer 0 ∨ n = .float (.zero false) ∨ n = .float (.zero true)) := by
  cases v with
  | number n => simp [hasContent, Number.isZero_iff]
  | null | bool | string | array | object => simp [hasContent]

/-- An outcome with nothing empty in it. -/
def Outcome.Filled : Outcome → Prop
  | download url _ => url ≠ ""
  | display text => text ≠ ""
  | empty => True

namespace Body

/-- What a body comes to: its path if that is not empty, else its data if they are worth
showing. -/
theorem outcome_cases (b : Body) :
    (∃ url, b.downloadUrl = some url ∧ url ≠ "" ∧
        b.outcome = .download url (Text.lastSegment url)) ∨
      (b.downloadUrl = none ∨ b.downloadUrl = some "") ∧
        ((∃ v, b.data = some v ∧ hasContent v = true ∧ b.outcome = .display (shownText v)) ∨
          (∀ v, b.data = some v → hasContent v = false) ∧ b.outcome = .empty) := by
  cases hpath : b.downloadUrl.filter (· != "") with
  | some url =>
    obtain ⟨hurl, hne⟩ := Option.filter_eq_some_iff.mp hpath
    exact Or.inl ⟨url, hurl, by simpa using hne, outcome_of_url hpath⟩
  | none =>
    have hurl : b.downloadUrl = none ∨ b.downloadUrl = some "" := by
      cases hurl : b.downloadUrl with
      | none => exact Or.inl rfl
      | some url => simpa [hurl] using hpath
    refine Or.inr ⟨hurl, ?_⟩
    cases hshown : b.data.filter hasContent with
    | some v =>
      obtain ⟨hv, hcontent⟩ := Option.filter_eq_some_iff.mp hshown
      exact Or.inl ⟨v, hv, hcontent, outcome_of_data hpath hv hcontent⟩
    | none =>
      have hdata : ∀ v ∈ b.data, hasContent v = false := by
        simpa using Option.filter_eq_none_iff.mp hshown
      exact Or.inr ⟨hdata, outcome_of_no_content hpath hdata⟩

theorem filled_outcome (b : Body) : b.outcome.Filled := by
  rcases b.outcome_cases with ⟨url, -, hne, houtcome⟩ | ⟨-, ⟨v, -, hcontent, houtcome⟩ |
    ⟨-, houtcome⟩⟩
  · rw [houtcome]
    exact hne
  · rw [houtcome]
    exact shownText_ne_empty hcontent
  · rw [houtcome]
    trivial

theorem outcome_eq_empty_iff {b : Body} :
    b.outcome = .empty ↔ (b.downloadUrl = none ∨ b.downloadUrl = some "") ∧
      ∀ v, b.data = some v → hasContent v = false := by
  rcases b.outcome_cases with ⟨url, hurl, hne, houtcome⟩ | ⟨hurl, ⟨v, hv, hcontent, houtcome⟩ |
    ⟨hdata, houtcome⟩⟩
  · simp [houtcome, hurl, hne]
  · simp [houtcome, hv, hcontent]
  · exact iff_of_true houtcome ⟨hurl, hdata⟩

/-- Data that were read off a text are not worth showing exactly if they are `false`, the empty
string or a zero. A `null` in the text is no data. -/
theorem no_content_iff {text : String} {b : Body} (h : parse? text = some b) :
    (∀ v, b.data = some v → hasContent v = false) ↔
      b.data = none ∨ b.data = some (.bool false) ∨ b.data = some (.string "") ∨
        ∃ n, b.data = some (.number n) ∧
          (n = .integer 0 ∨ n = .float (.zero false) ∨ n = .float (.zero true)) := by
  cases hdata : b.data with
  | none => simp
  | some v =>
    have hnull : v ≠ .null := (nests_of_mem_values h (by simp [values, hdata])).1
    simp [hasContent_eq_false_iff, hnull]

end Body

end Conversion

/-! ### Every reply -/

/-- What the user gets of every reply. A text that is shown is not empty, and neither is a path
that is linked. A rejection has no empty message, and the user reads something after "Error: ",
from conversions and from column listings alike. A success shows nothing exactly if the path is
absent or empty and the data are absent, `false`, the empty string or a zero. -/
theorem Reply.nothing_blank (status : Nat) (text : String) :
    let reply := received status text
    -- results
    (∀ shown, Conversion.settle reply = .ok (.display shown) → shown ≠ "") ∧
    (∀ url fileName, Conversion.settle reply = .ok (.download url fileName) → url ≠ "") ∧
    -- rejections
    (∀ reported message, Conversion.settle reply = .error (.rejected reported message) →
      message ≠ some "" ∧ ∃ said, said ≠ "" ∧
        Failure.notice Conversion.wording (.rejected reported message) = "Error: " ++ said) ∧
    (∀ reported message, Column.discover reply = .error (.rejected reported message) →
      message ≠ some "" ∧ ∃ said, said ≠ "" ∧
        Failure.notice Column.wording (.rejected reported message) = "Error: " ++ said) ∧
    -- nothing to show
    ∀ b, Conversion.Body.parse? text = some b →
      (b.outcome = .empty ↔ (b.downloadUrl = none ∨ b.downloadUrl = some "") ∧
        (b.data = none ∨ b.data = some (.bool false) ∨ b.data = some (.string "") ∨
          ∃ n, b.data = some (.number n) ∧
            (n = .integer 0 ∨ n = .float (.zero false) ∨ n = .float (.zero true)))) := by
  intro reply
  have hfilled : ∀ outcome, Conversion.settle reply = .ok outcome → outcome.Filled := by
    intro outcome h
    obtain ⟨b, -, -, rfl⟩ := settle_eq_ok_iff.mp h
    exact b.filled_outcome
  refine ⟨fun shown h => hfilled _ h, fun url fileName h => hfilled _ h,
    fun reported message h => notice_of_rejected (by decide) h,
    fun reported message h => notice_of_rejected (by decide) h, fun b hb => ?_⟩
  rw [Conversion.Body.outcome_eq_empty_iff, Conversion.Body.no_content_iff hb]

end ConversionDesk
