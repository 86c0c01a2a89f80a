import ConversionDesk.Proofs.Conversion.BodyRoundTrip

/-!
# Replies with an object as their body

Three of the four fields of a body may hold any type, and a server that sends an unexpected
one there is still understood. The path of a file is different: it is a string, and a reply
that gives it as anything else but `null` counts as no reply at all, with the status and the
server's own error message lost. This file settles every reply whose body is an object.

## Main definitions

* `Conversion.MistypedUrl` — the path is given, and is neither a string nor `null`

## Main results

* `Conversion.settle_eq_noReply_iff` — only a body that cannot be read is no reply
* `Conversion.settle_object_reply` — what a reply with an object as its body comes to
* `Conversion.settle_mistyped_url` — a mistyped path hides a rejection and its message
-/

namespace ConversionDesk.Conversion

open ConversionDesk.Json

/-- The path is given, and is neither a string nor `null`. -/
def MistypedUrl (ms : List (Option String × Tree)) : Prop :=
  ∃ v, Record.Gives ms "download_url" v ∧ v ≠ .null ∧ ∀ url, v ≠ .string url

/-! ### Which objects are bodies -/

namespace Body

theorem ofFields?_eq_none_iff {fields : List (String × Value)} :
    ofFields? fields = none ↔
      ∃ v, Record.field? "download_url" fields = some v ∧ ∀ url, v ≠ .string url := by
  cases hurl : Record.field? "download_url" fields with
  | none => simp [ofFields?, hurl]
  | some v => cases v <;> simp [ofFields?, hurl]

variable {text : String} {ms : List (Option String × Tree)}

theorem parse?_object_eq_none_iff (htext : Tree.parse? text = some (.object ms)) :
    parse? text = none ↔ ¬ Record.WithinLimits names ms ∨ MistypedUrl ms := by
  have hparse : parse? text = (Record.ofTree? names (.object ms)).bind ofFields? := by
    rw [parse?, Record.parse?, htext, Option.bind_some]
  rw [hparse, ← Record.ofTree?_object_isSome_iff]
  cases hfields : Record.ofTree? names (.object ms) with
  | none => simp
  | some fields =>
    have hurl := fun v => Record.field?_eq_some_iff_gives (v := v) hfields
      (by decide : "download_url" ∈ names)
    simp only [Option.bind_some, Option.isSome_some, not_true, false_or, ofFields?_eq_none_iff, hurl,
      and_assoc, MistypedUrl]

theorem error_eq_some_iff (htext : Tree.parse? text = some (.object ms)) {b : Body}
    (h : parse? text = some b) {v : Value} :
    b.error = some v ↔ Record.Gives ms "error" v ∧ v ≠ .null := by
  obtain ⟨fields, hfields, hb⟩ := exists_fields_of_parse? h
  rw [Record.parse?, htext, Option.bind_some] at hfields
  rw [← (ofFields?_eq_some_iff.mp hb).2.2.1]
  exact Record.field?_eq_some_iff_gives hfields (by decide)

end Body

/-! ### Settling -/

theorem settle_eq_noReply_iff {status : Nat} {text detail : String} :
    settle (.received status text) = .error (.noReply detail) ↔
      Body.parse? text = none ∧ detail = Reply.malformed := by
  simp only [settle, Reply.settle]
  cases Body.parse? text with
  | none => simp [eq_comm]
  | some b => by_cases hstatus : Reply.isSuccess status = true <;> simp [hstatus]

theorem settle_of_parse? {text : String} {b : Body} (h : Body.parse? text = some b) (status : Nat) :
    settle (.received status text) =
      if Reply.isSuccess status then .ok b.outcome
      else .error (.rejected status (reasonText b.error)) := by
  simp only [settle, Reply.settle, h]

theorem isSuccess_iff {status : Nat} :
    Reply.isSuccess status = true ↔ 200 ≤ status ∧ status ≤ 299 := by
  simp only [Reply.isSuccess, Bool.and_eq_true, decide_eq_true_eq]
  omega

theorem reasonText_string {s : String} (h : s ≠ "") : reasonText (some (.string s)) = some s :=
  if_neg h

theorem reasonText_of_ne_string {v : Value} (hnull : v ≠ .null) (hstring : ∀ s, v ≠ .string s) :
    reasonText (some v) = some v.compact := by
  cases v with
  | null => exact absurd rfl hnull
  | string s => exact absurd rfl (hstring s)
  | bool | number | array | object => rfl

/-- What a reply with an object as its body comes to. It is no reply exactly if the members
leave the limits of a reader or the path is mistyped, whatever the status. Otherwise the
types of the fields do not matter: the status alone tells a result from a rejection, and a
rejection carries the server's error, a string as it is and any other value as its compact
text, unless the error is left out, `null` or the empty string. -/
theorem settle_object_reply (status : Nat) {text : String} {ms : List (Option String × Tree)}
    (htext : Tree.parse? text = some (.object ms)) :
    (settle (.received status text) = .error (.noReply Reply.malformed) ↔
      ¬ Record.WithinLimits Body.names ms ∨ MistypedUrl ms) ∧
    (Record.WithinLimits Body.names ms → ¬ MistypedUrl ms →
      (200 ≤ status ∧ status ≤ 299 →
        ∃ outcome, settle (.received status text) = .ok outcome) ∧
      (¬ (200 ≤ status ∧ status ≤ 299) →
        ∃ message, settle (.received status text) = .error (.rejected status message) ∧
          (∀ s, Record.Gives ms "error" (.string s) → s ≠ "" → message = some s) ∧
          (∀ v, Record.Gives ms "error" v → v ≠ .null → (∀ s, v ≠ .string s) →
            message = some v.compact) ∧
          ((∀ v, Record.Gives ms "error" v → v = .null ∨ v = .string "") → message = none))) := by
  have hnone := Body.parse?_object_eq_none_iff htext
  refine ⟨by rw [settle_eq_noReply_iff, hnone, and_iff_left rfl], fun hlimits hurl => ?_⟩
  have hsome : Body.parse? text ≠ none := by
    rw [ne_eq, hnone]
    exact fun h => h.elim (· hlimits) hurl
  obtain ⟨b, hb⟩ := Option.ne_none_iff_exists'.mp hsome
  rw [settle_of_parse? hb, ← isSuccess_iff]
  have herror := fun v => Body.error_eq_some_iff (v := v) htext hb
  constructor
  · intro hsuccess
    exact ⟨b.outcome, if_pos hsuccess⟩
  · intro hfailure
    refine ⟨reasonText b.error, if_neg hfailure, ?_, ?_, ?_⟩
    · intro s hgives hne
      rw [(herror _).mpr ⟨hgives, by simp⟩, reasonText_string hne]
    · intro v hgives hnull hstring
      rw [(herror v).mpr ⟨hgives, hnull⟩, reasonText_of_ne_string hnull hstring]
    · intro hblank
      cases hfield : b.error with
      | none => rfl
      | some v =>
        obtain ⟨hgives, hnull⟩ := (herror v).mp hfield
        rw [(hblank v hgives).resolve_left hnull]
        rfl

/-- A rejection with a structured error, and every other field of an unexpected type. -/
def structuredText : String :=
  "\x7b\"download_url\": null, \"data\": 7, \"error\": \x7b\"code\": 7\x7d, \"is_json_string\": []\x7d"

def structuredMembers : List (Option String × Tree) :=
  [(some "download_url", .null), (some "data", .number (some (.integer 7))),
    (some "error", .object [(some "code", .number (some (.integer 7)))]),
    (some "is_json_string", .array [])]

theorem settle_structured_error :
    Tree.parse? structuredText = some (.object structuredMembers) ∧
      Record.WithinLimits Body.names structuredMembers ∧ ¬ MistypedUrl structuredMembers ∧
      settle (.received 500 structuredText) =
        .error (.rejected 500 (some "\x7b\"code\":7\x7d")) := by
  have htext : Tree.parse? structuredText = some (.object structuredMembers) := by cbv
  have hlimits : Record.WithinLimits Body.names structuredMembers :=
    Record.ofTree?_object_isSome_iff.mp rfl
  have hurl : ¬ MistypedUrl structuredMembers := by
    rintro ⟨v, ⟨t, ht, hv⟩, hnull, -⟩
    simp only [structuredMembers, List.mem_cons, Prod.mk.injEq, Option.some.injEq] at ht
    obtain rfl : t = .null := by simpa using ht
    exact hnull (Option.some.inj hv).symm
  have herror : Record.Gives structuredMembers "error"
      (.object [("code", .number (.integer 7))]) :=
    ⟨.object [(some "code", .number (some (.integer 7)))], by simp [structuredMembers], rfl⟩
  obtain ⟨message, hsettle, -, hcompact, -⟩ :=
    ((settle_object_reply 500 htext).2 hlimits hurl).2 (by decide)
  have hmessage : message = some "\x7b\"code\":7\x7d" :=
    (hcompact _ herror (by simp) (by simp)).trans (by decide)
  exact ⟨htext, hlimits, hurl, hmessage ▸ hsettle⟩

/-- A rejection whose path is a number. -/
def mistypedText : String :=
  "\x7b\"download_url\": 5, \"error\": \"A column must be selected\"\x7d"

def mistypedMembers : List (Option String × Tree) :=
  [(some "download_url", .number (some (.integer 5))),
    (some "error", .string (some "A column must be selected"))]

/-- A mistyped path hides a rejection and its message. -/
theorem settle_mistyped_url :
    Tree.parse? mistypedText = some (.object mistypedMembers) ∧
      Record.WithinLimits Body.names mistypedMembers ∧
      settle (.received 400 mistypedText) = .error (.noReply Reply.malformed) := by
  have htext : Tree.parse? mistypedText = some (.object mistypedMembers) := by cbv
  refine ⟨htext, Record.ofTree?_object_isSome_iff.mp rfl, ?_⟩
  have hurl : MistypedUrl mistypedMembers :=
    ⟨.number (.integer 5), ⟨.number (some (.integer 5)), by simp [mistypedMembers], rfl⟩,
      by simp, by simp⟩
  rw [settle_eq_noReply_iff, Body.parse?_object_eq_none_iff htext]
  exact ⟨Or.inr hurl, rfl⟩

end ConversionDesk.Conversion
