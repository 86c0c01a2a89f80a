import ConversionDesk.Proofs.Column.Toggling
import Mathlib.Data.Fintype.Basic
import Mathlib.Logic.Function.Basic

/-!
# What a toggle has to remember

A selection writes down every configuration that a toggle of all controls finds, and the
next toggle brings it back. A leaner machine needs to write down a configuration only if it
is *mixed*, with some control checked and some not: to bring back a uniform one it is enough
to look at the controls and turn all of them over.

The leaner machine is the `Switchboard`. It knows nothing of ids and keeps its marks as a
function of the position, and its type admits no memory that is not mixed. Most of the time
the two machines remember different things, yet nobody who only looks at the controls can
tell them apart.

## Main definitions

* `Column.Mixed` — some control is checked and some is not
* `Column.Switchboard` — the machine that remembers only mixed configurations
* `Column.Switchboard.Recalls` — what the two machines may remember at the same time
* `Column.Switchboard.Mirrors` — a switchboard looks like a selection

## Main results

* `Column.Switchboard.Mirrors.step` — every change keeps the two alike
* `Column.Selection.looks_like_switchboard` — whatever is changed, the two look alike
-/

namespace ConversionDesk.Column

/-! ### Mixed configurations -/

section Mixed

variable {n : Nat} {marks : Fin n → Bool}

/-- Some control is checked and some is not. -/
def Mixed (marks : Fin n → Bool) : Prop := (∃ i, marks i = true) ∧ ∃ i, marks i = false

instance (marks : Fin n → Bool) : Decidable (Mixed marks) := inferInstanceAs (Decidable (_ ∧ _))

theorem not_mixed_const (b : Bool) : ¬ Mixed (fun _ : Fin n => b) := by
  rintro ⟨⟨_, htrue⟩, ⟨_, hfalse⟩⟩
  exact absurd (htrue.symm.trans hfalse) (by decide)

/-- What is not mixed is uniform. -/
theorem exists_eq_const (h : ¬ Mixed marks) : ∃ b, marks = fun _ => b := by
  by_cases hsome : ∃ i, marks i = true
  · refine ⟨true, ?_⟩
    funext i
    by_contra hi
    exact h ⟨hsome, i, Bool.eq_false_of_not_eq_true hi⟩
  · refine ⟨false, ?_⟩
    funext i
    exact Bool.eq_false_of_not_eq_true fun hi => hsome ⟨i, hi⟩

end Mixed

theorem ofFn_update {α : Type} {n : Nat} (f : Fin n → α) (i : Fin n) (a : α) :
    List.ofFn (Function.update f i a) = (List.ofFn f).set i a := by
  refine List.ext_getElem (by simp) fun j hj hj' => ?_
  simp [Function.update_apply, List.getElem_set, Fin.ext_iff, eq_comm]

/-! ### The machine -/

/-- A selection that remembers only mixed configurations. Kind and headers never change, so
they are no part of the state. -/
structure Switchboard (kind : Kind) (headers : List String) where
  /-- Which controls are checked. -/
  marks : Fin headers.length → Bool := fun _ => false
  /-- What the next toggle of all controls brings back. -/
  kept : Option { marks : Fin headers.length → Bool // Mixed marks } := none

namespace Switchboard

variable {kind : Kind} {headers : List String}

/-- Everything is checked, and there is something to check. -/
def isFull (m : Switchboard kind headers) : Bool :=
  decide (headers ≠ [] ∧ ∀ i, m.marks i = true)

/-- Changes one control and forgets what was kept. Checking a control of a single selection
unchecks the others. A position without a control changes nothing. -/
def set (m : Switchboard kind headers) (index : Nat) (checked : Bool) :
    Switchboard kind headers :=
  if h : index < headers.length then
    let others := if kind = .single ∧ checked = true then fun _ => false else m.marks
    { marks := Function.update others ⟨index, h⟩ checked }
  else m

/-- Toggles all controls, and tells whether it could. What was kept is brought back and
forgotten. Otherwise full marks are cleared and all others are filled, and only a mixed
configuration is kept. -/
def toggle (m : Switchboard kind headers) : Bool × Switchboard kind headers :=
  if kind = .multiple ∧ headers ≠ [] then
    match m.kept with
    | some previous => (true, { marks := previous })
    | none =>
      (true, {
        marks := fun _ => !m.isFull
        kept := if h : Mixed m.marks then some ⟨m.marks, h⟩ else none })
  else (false, m)

/-- The text of the button that toggles all controls. -/
def label (m : Switchboard kind headers) : String :=
  if m.isFull then "Deselect All" else "Select All"

/-- The headers of the checked controls, in order. -/
def selected (m : Switchboard kind headers) : List String :=
  ((List.finRange headers.length).filter m.marks).map headers.get

/-- Applies a change. -/
def apply (m : Switchboard kind headers) : Selection.Change → Switchboard kind headers
  | .set index checked => m.set index checked
  | .toggle => m.toggle.2

/-- Applies changes in order. -/
def applyAll (m : Switchboard kind headers) (changes : List Selection.Change) :
    Switchboard kind headers :=
  changes.foldl apply m

section Toggle

variable (m : Switchboard kind headers)

theorem fst_toggle : m.toggle.1 = decide (kind = .multiple ∧ headers ≠ []) := by
  rw [toggle]
  split
  · cases m.kept <;> simpa
  · rename_i hnot
    exact (decide_eq_false hnot).symm

theorem toggle_of_not (h : ¬ (kind = .multiple ∧ headers ≠ [])) : m.toggle.2 = m := by
  rw [toggle, if_neg h]

variable {m}

theorem toggle_of_kept_none (h : kind = .multiple ∧ headers ≠ []) (hnone : m.kept = none) :
    m.toggle.2 = {
      marks := fun _ => !m.isFull
      kept := if h : Mixed m.marks then some ⟨m.marks, h⟩ else none } := by
  rw [toggle, if_pos h, hnone]

theorem toggle_of_kept_some (h : kind = .multiple ∧ headers ≠ [])
    {previous : { marks : Fin headers.length → Bool // Mixed marks }}
    (hsome : m.kept = some previous) : m.toggle.2 = { marks := previous } := by
  rw [toggle, if_pos h, hsome]

end Toggle

theorem isFull_const (h : headers ≠ []) (b : Bool)
    {kept : Option { marks : Fin headers.length → Bool // Mixed marks }} :
    isFull ({ marks := fun _ => b, kept } : Switchboard kind headers) = b := by
  have hpos : 0 < headers.length := List.length_pos_iff.mpr h
  cases b with
  | true => exact decide_eq_true ⟨h, fun _ => rfl⟩
  | false => exact decide_eq_false fun hfull => Bool.false_ne_true (hfull.2 ⟨0, hpos⟩)

/-! ### Two machines that look alike -/

/-- What a selection and a switchboard may remember at the same time: nothing, the same mixed
configuration, or only the selection remembers, and then the controls are in one state and it
remembers the other. -/
inductive Recalls : Option (List Bool) → Switchboard kind headers → Prop
  | nothing {marks : Fin headers.length → Bool} : Recalls none { marks, kept := none }
  | mixed {marks : Fin headers.length → Bool}
    (previous : { marks : Fin headers.length → Bool // Mixed marks }) :
    Recalls (some (List.ofFn previous.1)) { marks, kept := some previous }
  | uniform (b : Bool) :
    Recalls (some (List.ofFn fun _ : Fin headers.length => !b))
      { marks := fun _ => b, kept := none }

/-- A switchboard looks like a selection. -/
structure Mirrors (m : Switchboard kind headers) (s : Selection) : Prop where
  kind : s.kind = kind
  headers : s.controls.map (·.header) = headers
  checks : s.checks = List.ofFn m.marks
  recalls : Recalls s.restorePoint m

theorem mirrors_ofHeaders (container : String) (kind : Kind) (headers : List String) :
    Mirrors ({} : Switchboard kind headers) (Selection.ofHeaders container kind headers) where
  kind := rfl
  headers := Selection.map_header_ofHeaders container kind headers
  checks := by rw [Selection.checks_ofHeaders, List.ofFn_const]
  recalls := .nothing

namespace Mirrors

variable {m : Switchboard kind headers} {s : Selection}

theorem length_eq (h : Mirrors m s) : s.controls.length = headers.length := by
  rw [← h.headers, List.length_map]

theorem headers_ne_nil_iff (h : Mirrors m s) : headers ≠ [] ↔ 0 < s.controls.length := by
  rw [h.length_eq, List.length_pos_iff]

/-- Both machines can be toggled, or neither can. -/
theorem canToggle_iff (h : Mirrors m s) :
    s.canToggle = true ↔ kind = .multiple ∧ headers ≠ [] := by
  rw [Selection.canToggle_iff, h.kind, h.headers_ne_nil_iff]

theorem isFull_eq (h : Mirrors m s) : s.isFull = m.isFull := by
  have hsome : s.isFull = true ↔ 0 < s.controls.length ∧ ∀ b ∈ s.checks, b = true := by
    simp [Selection.isFull, Selection.checks, List.length_pos_iff]
  rw [Bool.eq_iff_iff, hsome, ← h.headers_ne_nil_iff, h.checks, List.forall_mem_ofFn_iff, isFull,
    decide_eq_true_iff]

theorem toggleLabel_eq (h : Mirrors m s) : s.toggleLabel = m.label := by
  rw [Selection.toggleLabel, h.isFull_eq, label]

theorem selected_eq (h : Mirrors m s) : s.selected = m.selected :=
  Selection.selected_eq_of_checks h.headers h.checks

theorem fst_toggle_eq (h : Mirrors m s) : s.toggle.1 = m.toggle.1 := by
  rw [Selection.fst_toggle, Bool.eq_iff_iff, h.canToggle_iff, fst_toggle, decide_eq_true_iff]

/-- A change to one control shows on both machines alike. -/
theorem set (h : Mirrors m s) (index : Nat) (checked : Bool) :
    (s.set index checked).checks = List.ofFn (m.set index checked).marks ∧
      Recalls (s.set index checked).restorePoint (m.set index checked) := by
  by_cases hindex : index < headers.length
  · have hs : index < s.controls.length := h.length_eq ▸ hindex
    rw [Selection.checks_set checked hs, Selection.restorePoint_set_of_reaches checked hs,
      Switchboard.set, dif_pos hindex, h.kind, h.length_eq, h.checks]
    refine ⟨?_, .nothing⟩
    rw [ofFn_update]
    split
    · rw [List.ofFn_const]
    · rfl
  · rw [Selection.set_of_not_reaches checked (by rw [h.length_eq]; omega), Switchboard.set,
      dif_neg hindex]
    exact ⟨h.checks, h.recalls⟩

/-- A toggle of all controls shows on both machines alike. -/
theorem toggle (h : Mirrors m s) (hcan : s.canToggle = true) :
    s.toggle.2.checks = List.ofFn m.toggle.2.marks ∧
      Recalls s.toggle.2.restorePoint m.toggle.2 := by
  obtain ⟨marks, kept⟩ := m
  have hboth := h.canToggle_iff.mp hcan
  have hrecalls := h.recalls
  cases hpoint : s.restorePoint with
  | none =>
    rw [hpoint] at hrecalls
    cases hrecalls
    rw [toggle_of_kept_none hboth rfl, Selection.checks_toggle hcan hpoint,
      Selection.toggle_of_restorePoint_none hcan hpoint, h.checks, h.isFull_eq, List.ofFn_const,
      h.length_eq]
    refine ⟨rfl, ?_⟩
    dsimp only
    by_cases hmixed : Mixed marks
    · rw [dif_pos hmixed]
      exact .mixed ⟨marks, hmixed⟩
    · -- a uniform configuration is the opposite of what the toggle leaves
      obtain ⟨b, rfl⟩ := exists_eq_const hmixed
      rw [dif_neg hmixed, isFull_const hboth.2]
      have hopposite : Recalls (some (List.ofFn fun _ : Fin headers.length => !!b))
          ({ marks := fun _ => !b } : Switchboard kind headers) := .uniform (!b)
      rwa [Bool.not_not] at hopposite
  | some previous =>
    rw [hpoint] at hrecalls
    have hlength : previous.length = s.controls.length := by
      rw [h.length_eq]
      cases hrecalls <;> exact List.length_ofFn
    rw [Selection.checks_toggle_of_some hcan hpoint hlength,
      Selection.toggle_of_restorePoint_some hcan hpoint]
    cases hrecalls with
    | mixed previous =>
      rw [toggle_of_kept_some hboth rfl]
      exact ⟨rfl, .nothing⟩
    | uniform b =>
      rw [toggle_of_kept_none hboth rfl, isFull_const hboth.2, dif_neg (not_mixed_const b)]
      exact ⟨rfl, .nothing⟩

/-- Every change keeps the two machines alike. -/
theorem step (h : Mirrors m s) (change : Selection.Change) :
    Mirrors (m.apply change) (s.apply change) := by
  have hkind : (s.apply change).kind = kind := (Selection.kind_apply s change).trans h.kind
  have hheaders : (s.apply change).controls.map (·.header) = headers :=
    (Selection.map_controls_apply (fun _ _ => rfl) s change).trans h.headers
  cases change with
  | set index checked =>
    obtain ⟨hchecks, hrecalls⟩ := h.set index checked
    exact ⟨hkind, hheaders, hchecks, hrecalls⟩
  | toggle =>
    cases hcan : s.canToggle with
    | true =>
      obtain ⟨hchecks, hrecalls⟩ := h.toggle hcan
      exact ⟨hkind, hheaders, hchecks, hrecalls⟩
    | false =>
      have hnot : ¬ (kind = .multiple ∧ headers ≠ []) := by
        rw [← h.canToggle_iff, hcan]
        exact Bool.false_ne_true
      rw [Selection.apply, Selection.toggle_of_not_canToggle hcan, apply, toggle_of_not m hnot]
      exact h

theorem run (h : Mirrors m s) (changes : List Selection.Change) :
    Mirrors (m.applyAll changes) (s.applyAll changes) := by
  induction changes generalizing m s with
  | nil => exact h
  | cons change changes ih => exact ih (h.step change)

/-- The switchboard keeps what the selection would bring back, if that is mixed. -/
theorem kept_iff (h : Mirrors m s)
    (previous : { marks : Fin headers.length → Bool // Mixed marks }) :
    m.kept = some previous ↔ s.restorePoint = some (List.ofFn previous.1) := by
  obtain ⟨marks, kept⟩ := m
  have hrecalls := h.recalls
  generalize s.restorePoint = point at hrecalls
  cases hrecalls with
  | nothing => simp
  | mixed other => simp [Subtype.ext_iff, List.ofFn_inj]
  | uniform b =>
    refine iff_of_false (by simp) fun hsame => ?_
    have hconst := List.ofFn_injective (Option.some.inj hsame)
    exact not_mixed_const (!b) (hconst ▸ previous.2)

end Mirrors

end Switchboard

/-- Whatever is changed, a selection looks like the machine that remembers only mixed
configurations: the two agree on the checked controls, on fullness, on the label of the
button, on the selected headers and on whether a toggle can be carried out. The machine
keeps what the selection would bring back, if that is mixed. -/
theorem Selection.looks_like_switchboard (container : String) (kind : Kind)
    (headers : List String) (changes : List Change) :
    let s := (ofHeaders container kind headers).applyAll changes
    let m := ({} : Switchboard kind headers).applyAll changes
    s.checks = List.ofFn m.marks ∧
      s.isFull = m.isFull ∧
      s.toggleLabel = m.label ∧
      s.selected = m.selected ∧
      s.toggle.1 = m.toggle.1 ∧
      ∀ previous, m.kept = some previous ↔ s.restorePoint = some (List.ofFn previous.1) := by
  intro s m
  have h : Switchboard.Mirrors m s :=
    (Switchboard.mirrors_ofHeaders container kind headers).run changes
  exact ⟨h.checks, h.isFull_eq, h.toggleLabel_eq, h.selected_eq, h.fst_toggle_eq, h.kept_iff⟩

/-- After the first toggle only the selection remembers. -/
example :
    ((Selection.ofHeaders "columns" .multiple ["A", "B"]).applyAll [.toggle]).restorePoint =
        some [false, false] ∧
      (({} : Switchboard .multiple ["A", "B"]).applyAll [.toggle]).kept = none := by
  decide

end ConversionDesk.Column
