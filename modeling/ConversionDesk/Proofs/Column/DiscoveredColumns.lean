import ConversionDesk.Column.Panel
import ConversionDesk.Proofs.Column.Changes
import ConversionDesk.Proofs.Conversion.ObjectReplies
import ConversionDesk.Proofs.ReplyForms

/-!
# From a reply to the controls

A server lists the columns of a file as an array of values, and the user is shown one control for
each. Between the two lie the reader of the body, the header that each value gives, the status
and the construction of the controls. This file follows a listing through all of them: every
entry has its control, in the same place, and nothing else has one. A listing without entries
leads to a panel that says so, and everything else to a panel that shows why it failed.

What a body lists is said of its text, in either of its two forms, and not of what the reader
makes of it.

## Main definitions

* `Column.HeaderFor` — the header that an entry gives
* `Column.Selection.Offers` — a selection with one unchecked control for each entry
* `Column.Panel.ofReply` — the panel that a reply leads to

## Main results

* `Column.Listing.headers_cases` — what a listing makes of the entries that its text holds
* `Column.Selection.offers_ofHeaders` — a fresh selection offers every entry
* `Column.Panel.columns_of_reply` — the panel of every reply
-/

namespace ConversionDesk.Column

open ConversionDesk.Json

/-- The header that an entry gives: a string itself, nothing for `null`, and for everything else
its compact text. -/
inductive HeaderFor : Value → String → Prop
  | string (s : String) : HeaderFor (.string s) s
  | null : HeaderFor .null ""
  | other {v : Value} (hnull : v ≠ .null) (hstring : ∀ s, v ≠ .string s) : HeaderFor v v.compact

theorem headerFor_headerOf (v : Value) : HeaderFor v (headerOf v) := by
  cases v with
  | string s => exact .string s
  | null => exact .null
  | bool | number | array | object => exact .other (by simp) (by simp)

/-! ### The entries that a body lists -/

namespace Listing

/-- The body holds a value as its headers. -/
def Sends (body : String) (v : Value) : Prop := Record.Holds names body "headers" v

variable {body : String} {l : Listing}

theorem exists_fields_of_parse? (h : parse? body = some l) :
    ∃ fields, ofFields? fields = some l ∧
      ∀ v, Value.member? "headers" fields = some v ↔ Sends body v := by
  obtain ⟨fields, hfields, hl⟩ := Option.bind_eq_some_iff.mp h
  refine ⟨fields, hl, fun v => ?_⟩
  exact Record.member?_eq_some_iff_holds (by decide) hfields (by simp [names])

/-- A body that is read holds one value as its headers. -/
theorem sends_unique (h : parse? body = some l) {v w : Value} (hv : Sends body v)
    (hw : Sends body w) : v = w := by
  obtain ⟨fields, -, hsends⟩ := exists_fields_of_parse? h
  exact Option.some.inj (((hsends v).mpr hv).symm.trans ((hsends w).mpr hw))

/-- What a listing makes of the headers that its text holds. They are left out, `null` or an
array, and every entry of the array gives one header. -/
theorem headers_cases (h : parse? body = some l) :
    ((∀ v, ¬ Sends body v) ∧ l.headers = none) ∨ (Sends body .null ∧ l.headers = none) ∨
      ∃ entries, Sends body (.array entries) ∧ l.headers = some (entries.map headerOf) := by
  obtain ⟨fields, hl, hsends⟩ := exists_fields_of_parse? h
  obtain ⟨⟨entries, hfield, hheaders⟩, -⟩ := ofFields?_eq_some_iff.mp hl
  rw [Record.field?] at hfield
  cases hmember : Value.member? "headers" fields with
  | none =>
    have hnothing : ∀ v, ¬ Sends body v := by
      intro v hv
      rw [← hsends, hmember] at hv
      cases hv
    cases entries with
    | none => exact Or.inl ⟨hnothing, hheaders⟩
    | some entries => simp [hmember] at hfield
  | some v =>
    have hv : Sends body v := (hsends v).mp hmember
    rw [hmember, Option.bind_some] at hfield
    cases entries with
    | none =>
      -- the only value that counts as absent is `null`
      cases v with
      | null => exact Or.inr (Or.inl ⟨hv, hheaders⟩)
      | bool | number | string | array | object => cases hfield
    | some entries =>
      obtain ⟨rfl, -⟩ := Record.present_eq_some_iff.mp hfield
      exact Or.inr (Or.inr ⟨entries, hv, hheaders⟩)

end Listing

/-! ### The controls for the entries -/

/-- A selection with one unchecked control for each entry, in the order of the entries. -/
structure Selection.Offers (container : String) (entries : List Value) (s : Selection) : Prop where
  length : s.controls.length = entries.length
  control : ∀ i v, entries[i]? = some v → ∃ header, HeaderFor v header ∧
    s.controls[i]? = some (Control.mk (controlId container i header) header false)

/-- A fresh selection offers every entry. -/
theorem Selection.offers_ofHeaders (container : String) (kind : Kind) (entries : List Value) :
    Offers container entries (ofHeaders container kind (entries.map headerOf)) where
  length := by rw [length_controls_ofHeaders, List.length_map]
  control i v hv :=
    ⟨headerOf v, headerFor_headerOf v, by simp [ofHeaders, List.getElem?_mapIdx, hv]⟩

/-! ### Panels -/

theorem discover_of_parse? {body : String} {l : Listing} (h : Listing.parse? body = some l)
    (status : Nat) :
    discover (.received status body) =
      if Reply.isSuccess status then .ok (l.headers.getD [])
      else .error (.rejected status (reasonText l.error)) := by
  simp only [discover, Reply.settle, h]

namespace Panel

/-- The panel that a reply leads to. -/
def ofReply (container : String) (kind : Kind) (reply : Reply) : Panel :=
  ofDiscovery container kind (discover reply)

variable {container : String} {kind : Kind} {status : Nat} {body : String} {l : Listing}

theorem ofReply_of_success (h : Listing.parse? body = some l)
    (hstatus : Reply.isSuccess status = true) :
    ofReply container kind (.received status body) =
      ofDiscovery container kind (.ok (l.headers.getD [])) := by
  rw [ofReply, discover_of_parse? h, if_pos hstatus]

theorem discover_of_rejection (h : Listing.parse? body = some l)
    (hstatus : ¬ Reply.isSuccess status = true) :
    discover (.received status body) = .error (.rejected status (reasonText l.error)) := by
  rw [discover_of_parse? h, if_neg hstatus]

theorem discover_of_unreadable (status : Nat) (h : Listing.parse? body = none) :
    discover (.received status body) = .error (.noReply Reply.malformed) := by
  simp only [discover, Reply.settle, h]

theorem ofReply_of_error {reply : Reply} {failure : Failure} (h : discover reply = .error failure) :
    ofReply container kind reply = .failed (failure.notice wording) := by
  simp only [ofReply, h, ofDiscovery]

theorem ofDiscovery_ok_of_ne_nil {headers : List String} (h : headers ≠ []) :
    ofDiscovery container kind (.ok headers) =
      .ready (Selection.ofHeaders container kind headers) := by
  cases headers with
  | nil => exact absurd rfl h
  | cons header headers => rfl

theorem ofReply_ne_idle (reply : Reply) :
    ofReply container kind reply ≠ .idle ∧ ofReply container kind reply ≠ .loading := by
  rw [ofReply]
  cases discover reply with
  | error failure => simp [ofDiscovery]
  | ok headers => cases headers <;> simp [ofDiscovery]

/-- The panel of a success, by what the body holds as its headers. -/
theorem ofReply_cases (container : String) (kind : Kind) (h : Listing.parse? body = some l)
    (hstatus : Reply.isSuccess status = true) :
    (((∀ v, ¬ Listing.Sends body v) ∨ Listing.Sends body .null ∨ Listing.Sends body (.array [])) ∧
      ofReply container kind (.received status body) = .noColumns) ∨
    ∃ entries, entries ≠ [] ∧ Listing.Sends body (.array entries) ∧
      ofReply container kind (.received status body) =
        .ready (Selection.ofHeaders container kind (entries.map headerOf)) := by
  rw [ofReply_of_success h hstatus]
  rcases Listing.headers_cases h with ⟨hnothing, hheaders⟩ | ⟨hnull, hheaders⟩ |
    ⟨entries, hsends, hheaders⟩
  · exact Or.inl ⟨Or.inl hnothing, by rw [hheaders]; rfl⟩
  · exact Or.inl ⟨Or.inr (Or.inl hnull), by rw [hheaders]; rfl⟩
  · rw [hheaders, Option.getD_some]
    by_cases hempty : entries = []
    · subst hempty
      exact Or.inl ⟨Or.inr (Or.inr hsends), rfl⟩
    · refine Or.inr ⟨entries, hempty, hsends, ofDiscovery_ok_of_ne_nil ?_⟩
      simpa using hempty

/-- The panel of every reply. A success is ready exactly if its body lists entries, and then it
offers them all, in order; it has no columns exactly if the headers are left out, `null` or
empty. Every other reply fails with the notice of its failure, and none leaves the panel idle or
loading. -/
theorem columns_of_reply (container : String) (kind : Kind) (status : Nat) (body : String) :
    (∀ l, Listing.parse? body = some l → 200 ≤ status ∧ status ≤ 299 →
      ((∃ s, ofReply container kind (.received status body) = .ready s) ↔
        ∃ entries, entries ≠ [] ∧ Listing.Sends body (.array entries)) ∧
      (∀ s entries, ofReply container kind (.received status body) = .ready s →
        Listing.Sends body (.array entries) →
        s.kind = kind ∧ s.restorePoint = none ∧ s.Offers container entries) ∧
      (ofReply container kind (.received status body) = .noColumns ↔
        (∀ v, ¬ Listing.Sends body v) ∨ Listing.Sends body .null ∨
          Listing.Sends body (.array []))) ∧
    (∀ l, Listing.parse? body = some l → ¬ (200 ≤ status ∧ status ≤ 299) →
      discover (.received status body) = .error (.rejected status (reasonText l.error)) ∧
      ofReply container kind (.received status body) =
        .failed (Failure.notice wording (.rejected status (reasonText l.error)))) ∧
    (Listing.parse? body = none →
      discover (.received status body) = .error (.noReply Reply.malformed) ∧
      ofReply container kind (.received status body) =
        .failed (Failure.notice wording (.noReply Reply.malformed))) ∧
    ofReply container kind (.received status body) ≠ .idle ∧
    ofReply container kind (.received status body) ≠ .loading := by
  rw [← Conversion.isSuccess_iff]
  refine ⟨fun l h hstatus => ?_, fun l h hstatus => ?_, fun h => ?_, ofReply_ne_idle _⟩
  · -- what the body holds decides between the two panels, and it holds one value only
    rcases ofReply_cases container kind h hstatus with ⟨hnone, hpanel⟩ |
      ⟨entries, hne, hsends, hpanel⟩
    · rw [hpanel]
      have hempty : ∀ entries, Listing.Sends body (.array entries) → entries = [] := by
        intro entries hentries
        rcases hnone with hnothing | hnull | harray
        · exact absurd hentries (hnothing _)
        · cases Listing.sends_unique h hentries hnull
        · simpa using Listing.sends_unique h hentries harray
      refine ⟨⟨?_, ?_⟩, ?_, iff_of_true rfl hnone⟩
      · rintro ⟨s, hs⟩
        cases hs
      · rintro ⟨entries, hne, hentries⟩
        exact absurd (hempty entries hentries) hne
      · intro s entries hs
        cases hs
    · rw [hpanel]
      refine ⟨iff_of_true ⟨_, rfl⟩ ⟨entries, hne, hsends⟩, ?_, iff_of_false (by simp) ?_⟩
      · intro s others hs hothers
        obtain rfl := Panel.ready.inj hs
        obtain rfl : others = entries := by simpa using Listing.sends_unique h hothers hsends
        exact ⟨rfl, rfl, Selection.offers_ofHeaders container kind others⟩
      · rintro (hnothing | hnull | harray)
        · exact hnothing _ hsends
        · cases Listing.sends_unique h hsends hnull
        · exact hne (by simpa using Listing.sends_unique h hsends harray)
  · have hfailure := discover_of_rejection h hstatus
    exact ⟨hfailure, ofReply_of_error hfailure⟩
  · have hfailure := discover_of_unreadable status h
    exact ⟨hfailure, ofReply_of_error hfailure⟩

/-- A listing whose entries are a number, a text with a blank and an empty cell. -/
def sampleListing : String := "\x7b\"headers\": [2023, \"Total sum\", null]\x7d"

def sampleEntries : List Value := [.number (.integer 2023), .string "Total sum", .null]

theorem columns_of_sampleListing :
    Listing.Sends sampleListing (.array sampleEntries) ∧
      ∃ s, ofReply "cols" .multiple (.received 200 sampleListing) = .ready s ∧
        s.Offers "cols" sampleEntries ∧
        s.controls[1]? = some (Control.mk "col-cols-1-Total-sum" "Total sum" false) := by
  have hread : Listing.parse? sampleListing =
      some { headers := some ["2023", "Total sum", ""] } := by cbv
  have htree : Tree.parse? sampleListing = some (.object [(some "headers", .array
      [.number (some (.integer 2023)), .string (some "Total sum"), .null])]) := by cbv
  have hsends : Listing.Sends sampleListing (.array sampleEntries) :=
    .member htree ⟨_, List.mem_cons_self, rfl⟩
  obtain ⟨hsuccess, -⟩ := columns_of_reply "cols" .multiple 200 sampleListing
  obtain ⟨hready, hoffers, -⟩ := hsuccess _ hread (by decide)
  obtain ⟨s, hs⟩ := hready.mpr ⟨sampleEntries, by simp [sampleEntries], hsends⟩
  obtain ⟨-, -, hs'⟩ := hoffers s sampleEntries hs hsends
  obtain ⟨header, hheader, hcontrol⟩ := hs'.control 1 (.string "Total sum") rfl
  obtain rfl : header = "Total sum" := by
    cases hheader with
    | string => rfl
    | other _ hstring => exact absurd rfl (hstring _)
  exact ⟨hsends, s, hs, hs', hcontrol.trans (by decide)⟩

end Panel

end ConversionDesk.Column
