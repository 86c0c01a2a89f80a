import ConversionDesk.Proofs.Column.Changes
import Mathlib.Algebra.Ring.Parity
import Mathlib.Data.List.DropRight

/-!
# Toggling all controls

A toggle of all controls writes down what it found, and the toggle after it brings that
back. So the state of a selection of several columns never depends on more than two
things: the configuration that the last change to a single control left, called the
*baseline*, and whether the number of toggles since then is odd.

A change that addresses no control is transparent. It is no change to a single control,
and it does not come between two toggles.

The button of a toggle is labelled by the controls alone, while the toggle may bring back a
configuration that nobody sees. The label is right all the same, because a toggle turns a full
selection into one that is not and the other way round, whatever it brings back.

## Main definitions

* `Column.Selection.settled` — the changes up to the last one to a single control
* `Column.Selection.togglesSince` — the number of toggles after it

## Main results

* `Column.Selection.toggle_toggle` — without a restore point, two toggles undo each other
* `Column.Selection.isFull_toggle` — without a restore point, a toggle flips fullness
* `Column.Selection.applyAll_eq_baseline_or_toggle` — a selection is its baseline, or its
  baseline toggled once
* `Column.Selection.checks_of_toggle_parity` — the state after any sequence of changes
* `Column.Selection.checks_toggle_applyAll` — what the next toggle leaves
* `Column.Selection.toggle_keeps_label_promise` — the next toggle does what its label says
-/

namespace ConversionDesk.Column.Selection

/-! ### One toggle -/

theorem canToggle_iff {s : Selection} :
    s.canToggle = true ↔ s.kind = .multiple ∧ 0 < s.controls.length := by
  simp [canToggle, List.length_pos_iff]

theorem canToggle_apply (s : Selection) (change : Change) :
    (s.apply change).canToggle = s.canToggle := by
  rw [Bool.eq_iff_iff, canToggle_iff, canToggle_iff, kind_apply, length_controls_apply]

theorem fst_toggle (s : Selection) : s.toggle.1 = s.canToggle := by
  cases h : s.canToggle with
  | false => simp [toggle, h]
  | true => cases hpoint : s.restorePoint <;> simp [toggle, h, hpoint]

theorem toggle_of_not_canToggle {s : Selection} (h : s.canToggle = false) : s.toggle.2 = s := by
  simp [toggle, h]

/-- A toggle with nothing to bring back checks everything, or unchecks a full selection. -/
theorem toggle_of_restorePoint_none {s : Selection} (h : s.canToggle = true)
    (hnone : s.restorePoint = none) :
    s.toggle.2 = { s with
      controls := s.controls.map fun c => { c with checked := !s.isFull }
      restorePoint := some s.checks } := by
  simp [toggle, h, hnone]

/-- A toggle with something to bring back does so, and forgets it. -/
theorem toggle_of_restorePoint_some {s : Selection} {previous : List Bool}
    (h : s.canToggle = true) (hsome : s.restorePoint = some previous) :
    s.toggle.2 = { s with
      controls := withChecks s.controls previous
      restorePoint := none } := by
  simp [toggle, h, hsome]

/-- The states of a list of controls can be brought back after all were overwritten. -/
theorem withChecks_map_checked (controls : List Control) (b : Bool) :
    withChecks (controls.map fun c => { c with checked := b }) (controls.map (·.checked)) =
      controls := by
  induction controls with
  | nil => rfl
  | cons c cs ih => rw [List.map_cons, List.map_cons, withChecks, ih]

/-- Without a restore point, two toggles undo each other. -/
theorem toggle_toggle {s : Selection} (hnone : s.restorePoint = none) :
    s.toggle.2.toggle.2 = s := by
  cases h : s.canToggle with
  | false => rw [toggle_of_not_canToggle h, toggle_of_not_canToggle h]
  | true =>
    -- the first toggle records, the second finds the record and restores from it
    have hagain : s.toggle.2.canToggle = true := (canToggle_apply s .toggle).trans h
    have hrestore : s.toggle.2.restorePoint = some s.checks := by
      rw [toggle_of_restorePoint_none h hnone]
    rw [toggle_of_restorePoint_some hagain hrestore, toggle_of_restorePoint_none h hnone]
    simp only [checks, withChecks_map_checked, ← hnone]

/-! ### Fullness -/

theorem isFull_eq_all_checks {s : Selection} (h : 0 < s.controls.length) :
    s.isFull = s.checks.all id := by
  have hne : s.controls.isEmpty = false := by
    rw [List.isEmpty_eq_false_iff]
    exact List.ne_nil_of_length_pos h
  simp [isFull, checks, hne]

/-- Toggled controls are all in the same state. -/
theorem checks_toggle {s : Selection} (h : s.canToggle = true) (hnone : s.restorePoint = none) :
    s.toggle.2.checks = List.replicate s.controls.length (!s.isFull) := by
  rw [toggle_of_restorePoint_none h hnone]
  simp [checks, Function.comp_def, List.map_const']

/-- A configuration of the right length is brought back as it was. -/
theorem checks_toggle_of_some {s : Selection} {previous : List Bool} (h : s.canToggle = true)
    (hsome : s.restorePoint = some previous) (hlength : previous.length = s.controls.length) :
    s.toggle.2.checks = previous := by
  rw [toggle_of_restorePoint_some h hsome]
  exact map_checked_withChecks hlength

/-- Without a restore point, a toggle flips fullness. -/
theorem isFull_toggle {s : Selection} (h : s.canToggle = true) (hnone : s.restorePoint = none) :
    s.toggle.2.isFull = !s.isFull := by
  have hpos : 0 < s.controls.length := (canToggle_iff.mp h).2
  have hpos' : 0 < s.toggle.2.controls.length := by
    rw [show s.toggle.2.controls.length = _ from length_controls_apply s .toggle]
    exact hpos
  rw [isFull_eq_all_checks hpos', checks_toggle h hnone, List.all_replicate]
  simp [hpos.ne']

/-! ### The baseline -/

/-- The changes up to the last one that addresses a single control among `n`. -/
def settled (n : Nat) (changes : List Change) : List Change :=
  changes.rdropWhile fun change => !change.reaches n

/-- The number of toggles after the last change that addresses a single control among
`n`. -/
def togglesSince (n : Nat) (changes : List Change) : Nat :=
  (changes.rtakeWhile fun change => !change.reaches n).count .toggle

/-- Changes that address no single control are toggles, and transparent otherwise. -/
theorem applyAll_of_not_reaches {s : Selection} {changes : List Change}
    (h : ∀ change ∈ changes, change.reaches s.controls.length = false) :
    s.applyAll changes = (fun s => s.toggle.2)^[changes.count .toggle] s := by
  induction changes generalizing s with
  | nil => rfl
  | cons change changes ih =>
    have hhead := h change List.mem_cons_self
    have htail : ∀ c ∈ changes, c.reaches (s.apply change).controls.length = false := by
      intro c hc
      rw [length_controls_apply]
      exact h c (List.mem_cons_of_mem _ hc)
    rw [applyAll_cons, ih htail]
    cases change with
    | set index checked =>
      have hindex : s.controls.length ≤ index := by simpa [Change.reaches] using hhead
      rw [List.count_cons_of_ne (by simp), apply, set_of_not_reaches checked hindex]
    | toggle => rw [List.count_cons_self, Function.iterate_succ_apply, apply]

/-- Only the parity of the number of toggles counts. -/
theorem iterate_toggle {s : Selection} (hnone : s.restorePoint = none) (k : Nat) :
    (fun s => s.toggle.2)^[k] s = if Even k then s else s.toggle.2 := by
  induction k with
  | zero => simp
  | succ k ih =>
    rw [Function.iterate_succ_apply', ih]
    by_cases hk : Even k
    · rw [if_pos hk, if_neg (by rw [Nat.even_add_one]; exact not_not_intro hk)]
    · rw [if_neg hk, if_pos (Nat.even_add_one.mpr hk), toggle_toggle hnone]

/-- A baseline has nothing to bring back: it is fresh, or a control was just changed. -/
theorem restorePoint_applyAll_settled {s : Selection} (hnone : s.restorePoint = none)
    (changes : List Change) :
    (s.applyAll (settled s.controls.length changes)).restorePoint = none := by
  rcases List.eq_nil_or_concat (settled s.controls.length changes) with hnil | ⟨front, last, heq⟩
  · rw [hnil]
    exact hnone
  · rw [List.concat_eq_append] at heq
    have hne : changes.rdropWhile (fun c => !c.reaches s.controls.length) ≠ [] := by
      rw [show changes.rdropWhile _ = _ from heq]
      simp
    -- a last change that addresses no control would have been dropped
    have hlast := List.rdropWhile_last_not _ changes hne
    simp only [show changes.rdropWhile _ = _ from heq, List.getLast_append_singleton] at hlast
    rw [heq, applyAll_append, applyAll_cons, applyAll_nil]
    cases last with
    | set index checked =>
      refine restorePoint_set_of_reaches checked ?_
      rw [length_controls_applyAll]
      simpa [Change.reaches] using hlast
    | toggle => simp [Change.reaches] at hlast

/-- A selection is its baseline, or its baseline toggled once. -/
theorem applyAll_eq_baseline_or_toggle {s : Selection} (hnone : s.restorePoint = none)
    (changes : List Change) :
    s.applyAll changes =
      if Even (togglesSince s.controls.length changes)
      then s.applyAll (settled s.controls.length changes)
      else (s.applyAll (settled s.controls.length changes)).toggle.2 := by
  have hsplit : settled s.controls.length changes ++
      changes.rtakeWhile (fun c => !c.reaches s.controls.length) = changes :=
    List.rdropWhile_append_rtakeWhile ..
  rw [← iterate_toggle (restorePoint_applyAll_settled hnone changes), togglesSince,
    ← applyAll_of_not_reaches, ← applyAll_append, hsplit]
  intro change hchange
  rw [length_controls_applyAll]
  simpa using List.mem_rtakeWhile_imp hchange

theorem canToggle_applyAll (s : Selection) (changes : List Change) :
    (s.applyAll changes).canToggle = s.canToggle := by
  rw [Bool.eq_iff_iff, canToggle_iff, canToggle_iff, kind_applyAll, length_controls_applyAll]

/-- Two toggles in a row bring every reachable selection back, whether or not it had
something to bring back before them. -/
theorem toggle_toggle_applyAll {s : Selection} (hnone : s.restorePoint = none)
    (changes : List Change) :
    (s.applyAll changes).toggle.2.toggle.2 = s.applyAll changes := by
  have hbase := restorePoint_applyAll_settled hnone changes
  rw [applyAll_eq_baseline_or_toggle hnone]
  split_ifs
  · exact toggle_toggle hbase
  · rw [toggle_toggle hbase]

/-- Every toggle flips the fullness of a reachable selection. -/
theorem isFull_toggle_applyAll {s : Selection} (h : s.canToggle = true)
    (hnone : s.restorePoint = none) (changes : List Change) :
    (s.applyAll changes).toggle.2.isFull = !(s.applyAll changes).isFull := by
  have hbase := restorePoint_applyAll_settled hnone changes
  have hflip := isFull_toggle ((canToggle_applyAll s _).trans h) hbase
  rw [applyAll_eq_baseline_or_toggle hnone]
  split_ifs
  · exact hflip
  · -- the second toggle leads back to the baseline
    rw [toggle_toggle hbase, hflip, Bool.not_not]

/-! ### Fresh selections of several columns -/

/-- The state of a selection of several columns after any changes. With an even number of
toggles since the last change to a single control it is the baseline, without a restore
point; with an odd number every control is in the state opposite to the fullness of the
baseline, and the baseline is the restore point. The kind, the ids and the headers are
those of the fresh selection, two toggles bring every state back, and each toggle flips
fullness. -/
theorem checks_of_toggle_parity (container : String) {headers : List String}
    (hne : headers ≠ []) (changes : List Change) :
    let n := headers.length
    let fresh := ofHeaders container .multiple headers
    let base := (fresh.applyAll (settled n changes)).checks
    let s := fresh.applyAll changes
    -- the states and the restore point
    ((∀ change ∈ changes, change.reaches n = false) → base = List.replicate n false) ∧
      (s.checks =
        if Even (togglesSince n changes) then base else List.replicate n (!base.all id)) ∧
      (s.restorePoint = if Even (togglesSince n changes) then none else some base) ∧
      -- what never changes
      s.kind = .multiple ∧
      s.controls.map (·.id) = fresh.controls.map (·.id) ∧
      s.controls.map (·.header) = headers ∧
      (∀ index checked, n ≤ index → s.set index checked = s) ∧
      -- the next toggles
      s.toggle.2.toggle.2 = s ∧
      s.toggle.2.isFull = !s.isFull := by
  intro n fresh base s
  have hn : fresh.controls.length = n := length_controls_ofHeaders container .multiple headers
  have hcan : fresh.canToggle = true :=
    canToggle_iff.mpr ⟨rfl, hn ▸ List.length_pos_iff.mpr hne⟩
  have hbase := restorePoint_applyAll_settled (s := fresh) rfl changes
  have hs := applyAll_eq_baseline_or_toggle (s := fresh) rfl changes
  rw [hn] at hbase hs
  have hcan' : (fresh.applyAll (settled n changes)).canToggle = true :=
    (canToggle_applyAll fresh _).trans hcan
  refine ⟨?_, ?_, ?_, kind_applyAll fresh changes,
    map_controls_applyAll (fun _ _ => rfl) fresh changes, ?_, ?_,
    toggle_toggle_applyAll rfl changes, isFull_toggle_applyAll hcan rfl changes⟩
  · intro hquiet
    have hnil : settled n changes = [] :=
      List.rdropWhile_eq_nil_iff.mpr fun change hchange => by simp [hquiet change hchange]
    simp only [base, hnil, applyAll_nil]
    exact checks_ofHeaders container .multiple headers
  · simp only [s, hs]
    split_ifs
    · rfl
    · rw [checks_toggle hcan' hbase, isFull_eq_all_checks (canToggle_iff.mp hcan').2,
        length_controls_applyAll, hn]
  · simp only [s, hs]
    split_ifs
    · exact hbase
    · rw [toggle_of_restorePoint_none hcan' hbase]
  · rw [map_controls_applyAll (fun _ _ => rfl)]
    exact map_header_ofHeaders container .multiple headers
  · intro index checked hindex
    refine set_of_not_reaches checked ?_
    rw [length_controls_applyAll, hn]
    exact hindex

/-- With all of three columns but the second checked, a toggle, a change beside the
controls and two more toggles leave everything checked and the baseline to return to. -/
theorem checks_of_three_toggles :
    let s := (ofHeaders "columns" .multiple ["A", "B", "C"]).applyAll
      [.toggle, .set 1 false, .toggle, .set 3 false, .toggle, .toggle]
    ["A", "B", "C"] ≠ [] ∧ s.checks = [true, true, true] ∧
      s.restorePoint = some [true, false, true] := by
  have hne : ["A", "B", "C"] ≠ [] := by decide
  have h := checks_of_toggle_parity "columns" hne
    [.toggle, .set 1 false, .toggle, .set 3 false, .toggle, .toggle]
  exact ⟨hne, h.2.1.trans (by decide), h.2.2.1.trans (by decide)⟩

/-! ### What the label promises -/

theorem restorePoint_toggle {s : Selection} (hnone : s.restorePoint = none) :
    s.toggle.2.restorePoint = if s.canToggle then some s.checks else none := by
  cases h : s.canToggle with
  | false =>
    rw [toggle_of_not_canToggle h, hnone]
    rfl
  | true =>
    rw [toggle_of_restorePoint_none h hnone]
    rfl

/-- What a reachable selection would bring back has a state for each control. -/
theorem length_restorePoint_applyAll {s : Selection} (hnone : s.restorePoint = none)
    (changes : List Change) {previous : List Bool}
    (h : (s.applyAll changes).restorePoint = some previous) :
    previous.length = s.controls.length := by
  have hbase := restorePoint_applyAll_settled hnone changes
  rw [applyAll_eq_baseline_or_toggle hnone] at h
  split_ifs at h
  · rw [hbase] at h
    cases h
  · -- only the toggle of the baseline writes anything down
    rw [restorePoint_toggle hbase] at h
    split_ifs at h
    obtain rfl := Option.some.inj h
    rw [checks, List.length_map, length_controls_applyAll]

/-- What the next toggle of a reachable selection leaves, by what there is to bring back. -/
theorem checks_toggle_applyAll {s : Selection} (h : s.canToggle = true)
    (hnone : s.restorePoint = none) (changes : List Change) :
    (s.applyAll changes).toggle.2.checks = (s.applyAll changes).restorePoint.getD
      (List.replicate s.controls.length !(s.applyAll changes).isFull) := by
  have hcan : (s.applyAll changes).canToggle = true := (canToggle_applyAll s changes).trans h
  cases hpoint : (s.applyAll changes).restorePoint with
  | none => rw [checks_toggle hcan hpoint, length_controls_applyAll, Option.getD_none]
  | some previous =>
    have hlength := length_restorePoint_applyAll hnone changes hpoint
    rw [Option.getD_some]
    exact checks_toggle_of_some hcan hpoint (by rw [hlength, length_controls_applyAll])

theorem isFull_iff {s : Selection} :
    s.isFull = true ↔ 0 < s.controls.length ∧ ∀ c ∈ s.controls, c.checked = true := by
  simp [isFull, List.length_pos_iff]

theorem toggleLabel_eq_iff {s : Selection} :
    (s.toggleLabel = "Select All" ↔ s.isFull = false) ∧
      (s.toggleLabel = "Deselect All" ↔ s.isFull = true) := by
  cases h : s.isFull <;> simp [toggleLabel, h]

/-- A selection that is not full has a control that is not checked. -/
theorem exists_unchecked {s : Selection} (hpos : 0 < s.controls.length) (h : s.isFull = false) :
    ∃ c ∈ s.controls, c.checked = false := by
  by_contra hnone
  have hfull : s.isFull = true := by
    refine isFull_iff.mpr ⟨hpos, fun c hc => ?_⟩
    by_contra hunchecked
    exact hnone ⟨c, hc, Bool.eq_false_of_not_eq_true hunchecked⟩
  exact Bool.false_ne_true (h.symm.trans hfull)

/-- The next toggle does what the label of its button says. After "Select All" everything is
checked. After "Deselect All" something is unchecked; it is everything exactly if nothing is to
be brought back, or a configuration with nothing checked, and otherwise the toggle brings back
the mixed configuration that was written down. -/
theorem toggle_keeps_label_promise (container : String) {headers : List String}
    (hne : headers ≠ []) (changes : List Change) :
    let s := (ofHeaders container .multiple headers).applyAll changes
    let next := s.toggle.2
    s.toggle.1 = true ∧
      (s.toggleLabel = "Select All" ∨ s.toggleLabel = "Deselect All") ∧
      (s.toggleLabel = "Select All" → ∀ c ∈ next.controls, c.checked = true) ∧
      (s.toggleLabel = "Deselect All" →
        (∃ c ∈ next.controls, c.checked = false) ∧
        ((∀ c ∈ next.controls, c.checked = false) ↔ s.restorePoint = none ∨
          ∃ previous, s.restorePoint = some previous ∧ ∀ b ∈ previous, b = false) ∧
        ∀ previous, s.restorePoint = some previous → (¬ ∀ b ∈ previous, b = false) →
          next.checks = previous ∧ true ∈ previous ∧ false ∈ previous) := by
  intro s next
  have hlength := length_controls_ofHeaders container .multiple headers
  have hcan : (ofHeaders container .multiple headers).canToggle = true :=
    canToggle_iff.mpr ⟨rfl, hlength ▸ List.length_pos_iff.mpr hne⟩
  have hpos : 0 < next.controls.length := by
    rw [show next.controls.length = _ from length_controls_apply s .toggle,
      length_controls_applyAll]
    exact (canToggle_iff.mp hcan).2
  -- the label goes by fullness, and a toggle flips fullness whatever it brings back
  have hflip : next.isFull = !s.isFull := isFull_toggle_applyAll hcan rfl changes
  have hleft : next.checks = s.restorePoint.getD (List.replicate _ !s.isFull) :=
    checks_toggle_applyAll hcan rfl changes
  obtain ⟨hselect, hdeselect⟩ := toggleLabel_eq_iff (s := s)
  rw [hselect, hdeselect]
  refine ⟨(fst_toggle s).trans ((canToggle_applyAll _ changes).trans hcan),
    (Bool.eq_false_or_eq_true s.isFull).symm, fun hnot => ?_, fun hfull => ?_⟩
  · rw [hnot, Bool.not_false] at hflip
    exact (isFull_iff.mp hflip).2
  · rw [hfull, Bool.not_true] at hflip
    have hunchecked : ∃ c ∈ next.controls, c.checked = false := exists_unchecked hpos hflip
    refine ⟨hunchecked, ?_, ?_⟩
    · have hstates : (∀ b ∈ next.checks, b = false) ↔ ∀ c ∈ next.controls, c.checked = false :=
        List.forall_mem_map
      rw [← hstates, hleft]
      cases s.restorePoint with
      | none => simp [hfull]
      | some previous => simp
    · intro previous hpoint hmixed
      have hback : next.checks = previous := by rw [hleft, hpoint, Option.getD_some]
      have hchecked : true ∈ previous := by
        push Not at hmixed
        obtain ⟨b, hb, hne⟩ := hmixed
        rwa [Bool.eq_true_of_not_eq_false hne] at hb
      exact ⟨hback, hchecked, hback ▸ List.mem_map.mpr hunchecked⟩

/-- With one of two columns checked, the toggle after "Select All" checks the other one too, and
the one after "Deselect All" brings the mixed configuration back. -/
theorem toggle_after_both_labels :
    let fresh := ofHeaders "columns" .multiple ["A", "B"]
    let s := fresh.applyAll [.set 0 true]
    let t := fresh.applyAll [.set 0 true, .toggle]
    ["A", "B"] ≠ [] ∧ s.toggleLabel = "Select All" ∧ (∀ c ∈ s.toggle.2.controls, c.checked = true) ∧
      t.toggleLabel = "Deselect All" ∧ t.toggle.2.checks = [true, false] := by
  intro fresh s t
  have hne : ["A", "B"] ≠ [] := by decide
  have hselect : s.toggleLabel = "Select All" := by decide
  have hdeselect : t.toggleLabel = "Deselect All" := by decide
  obtain ⟨-, -, hall, -⟩ := toggle_keeps_label_promise "columns" hne [.set 0 true]
  obtain ⟨-, -, -, hback⟩ := toggle_keeps_label_promise "columns" hne [.set 0 true, .toggle]
  obtain ⟨-, -, hmixed⟩ := hback hdeselect
  exact ⟨hne, hselect, hall hselect, hdeselect, (hmixed [true, false] (by decide) (by decide)).1⟩

end ConversionDesk.Column.Selection
