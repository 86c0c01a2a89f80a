import ConversionDesk.Column.Selection
import Mathlib.Data.List.FinRange
import Mathlib.Data.List.OfFn

/-!
# Changes to a selection

A selection is changed one control at a time or as a whole. Either way only the states of
the controls move: the kind, the ids, the headers and the number of controls are those of
the selection that the first change met.

## Main definitions

* `Column.Selection.applyAll` — changes applied in order
* `Column.Selection.Change.reaches` — the change addresses one of so many controls

## Main results

* `Column.Selection.map_controls_applyAll`, `Column.Selection.kind_applyAll` — what no
  change touches
* `Column.Selection.set_of_not_reaches` — a position without a control changes nothing
* `Column.Selection.checks_set` — the states after a change to one control
* `Column.Selection.selected_eq_of_checks` — the selected headers, by position
-/

namespace ConversionDesk.Column.Selection

/-- Applies changes in order. -/
def applyAll (s : Selection) (changes : List Change) : Selection := changes.foldl apply s

@[simp] theorem applyAll_nil (s : Selection) : s.applyAll [] = s := rfl

@[simp] theorem applyAll_cons (s : Selection) (change : Change) (changes : List Change) :
    s.applyAll (change :: changes) = (s.apply change).applyAll changes := rfl

theorem applyAll_append (s : Selection) (first second : List Change) :
    s.applyAll (first ++ second) = (s.applyAll first).applyAll second :=
  List.foldl_append

/-- Whether a change addresses a single control among `n`. -/
def Change.reaches (n : Nat) : Change → Bool
  | .set index _ => index < n
  | .toggle => false

/-! ### What no change touches -/

section Untouched

variable {α : Type} {f : Control → α}

theorem map_withChecks (hf : ∀ c b, f { c with checked := b } = f c)
    (controls : List Control) (states : List Bool) :
    (withChecks controls states).map f = controls.map f := by
  fun_induction withChecks controls states with
  | case1 c cs b bs ih => rw [List.map_cons, List.map_cons, hf, ih]
  | case2 => rfl

/-- Whatever does not look at the state of a control is the same after a change. -/
theorem map_controls_apply (hf : ∀ c b, f { c with checked := b } = f c) (s : Selection)
    (change : Change) : (s.apply change).controls.map f = s.controls.map f := by
  cases change with
  | set index checked =>
    by_cases hindex : index < s.controls.length
    · rw [apply, set, if_pos hindex]
      refine List.ext_getElem (by simp) fun i hi hi' => ?_
      simp only [List.getElem_map, List.getElem_mapIdx]
      -- the control addressed, another control of a single selection, any other control
      split
      · exact hf _ _
      · split
        · exact hf _ _
        · rfl
    · rw [apply, set, if_neg hindex]
  | toggle =>
    simp only [apply, toggle]
    split
    · cases s.restorePoint with
      | some previous => exact map_withChecks hf _ _
      | none => simp [Function.comp_def, hf]
    · rfl

theorem map_controls_applyAll (hf : ∀ c b, f { c with checked := b } = f c) (s : Selection)
    (changes : List Change) : (s.applyAll changes).controls.map f = s.controls.map f := by
  induction changes generalizing s with
  | nil => rfl
  | cons change changes ih => rw [applyAll_cons, ih, map_controls_apply hf]

end Untouched

@[simp] theorem length_controls_apply (s : Selection) (change : Change) :
    (s.apply change).controls.length = s.controls.length := by
  have h := map_controls_apply (f := fun _ => ()) (fun _ _ => rfl) s change
  simpa using congrArg List.length h

@[simp] theorem length_controls_applyAll (s : Selection) (changes : List Change) :
    (s.applyAll changes).controls.length = s.controls.length := by
  have h := map_controls_applyAll (f := fun _ => ()) (fun _ _ => rfl) s changes
  simpa using congrArg List.length h

@[simp] theorem kind_apply (s : Selection) (change : Change) :
    (s.apply change).kind = s.kind := by
  cases change with
  | set index checked =>
    simp only [apply, set]
    split <;> rfl
  | toggle =>
    simp only [apply, toggle]
    split
    · cases s.restorePoint <;> rfl
    · rfl

@[simp] theorem kind_applyAll (s : Selection) (changes : List Change) :
    (s.applyAll changes).kind = s.kind := by
  induction changes generalizing s with
  | nil => rfl
  | cons change changes ih => rw [applyAll_cons, ih, kind_apply]

/-! ### Single controls -/

/-- A position without a control changes nothing, the restore point included. -/
theorem set_of_not_reaches {s : Selection} {index : Nat} (checked : Bool)
    (h : s.controls.length ≤ index) : s.set index checked = s :=
  if_neg (Nat.not_lt.mpr h)

theorem restorePoint_set_of_reaches {s : Selection} {index : Nat} (checked : Bool)
    (h : index < s.controls.length) : (s.set index checked).restorePoint = none := by
  rw [set, if_pos h]

/-- The states after a change to one control. -/
theorem checks_set {s : Selection} {index : Nat} (checked : Bool)
    (h : index < s.controls.length) :
    (s.set index checked).checks =
      (if s.kind = .single ∧ checked = true then List.replicate s.controls.length false
        else s.checks).set index checked := by
  have hlength : (s.set index checked).controls.length = s.controls.length :=
    length_controls_apply s (.set index checked)
  refine List.ext_getElem ?_ fun i hi hi' => ?_
  · split <;> simp [checks, hlength]
  · simp only [checks, set, if_pos h, List.getElem_map, List.getElem_mapIdx, List.getElem_set]
    -- the control addressed, another control of a single selection, any other control
    by_cases hsame : i = index
    · rw [if_pos hsame, if_pos hsame.symm]
    · rw [if_neg hsame, if_neg (Ne.symm hsame)]
      by_cases hsingle : s.kind = .single ∧ checked = true
      · simp only [if_pos hsingle, List.getElem_replicate]
      · simp only [if_neg hsingle, List.getElem_map]

/-! ### Selected headers -/

/-- The selected headers are those at the checked positions. -/
theorem selected_eq_of_checks {s : Selection} {headers : List String}
    {marks : Fin headers.length → Bool} (hheaders : s.controls.map (·.header) = headers)
    (hchecks : s.checks = List.ofFn marks) :
    s.selected = ((List.finRange headers.length).filter marks).map headers.get := by
  have hpairs : s.controls.map (fun c => (c.header, c.checked)) =
      (List.finRange headers.length).map fun i => (headers.get i, marks i) := by
    calc s.controls.map (fun c => (c.header, c.checked))
        = (s.controls.map (·.header)).zip s.checks := (List.zip_map' ..).symm
      _ = headers.zip (List.ofFn marks) := by rw [hheaders, hchecks]
      _ = ((List.finRange headers.length).map headers.get).zip
            ((List.finRange headers.length).map marks) := by
          rw [List.map_get_finRange, List.ofFn_eq_map]
      _ = (List.finRange headers.length).map fun i => (headers.get i, marks i) :=
          List.zip_map' ..
  have hselected := congrArg (fun pairs => (pairs.filter Prod.snd).map Prod.fst) hpairs
  rw [List.filter_map, List.map_map, List.filter_map, List.map_map] at hselected
  exact hselected

/-- As many headers are selected as controls are checked. -/
theorem length_selected (s : Selection) : s.selected.length = s.checks.count true := by
  rw [selected, List.length_map, checks, List.count_eq_countP, List.countP_map,
    List.countP_eq_length_filter]
  simp [Function.comp_def]

/-! ### Fresh selections -/

@[simp] theorem length_controls_ofHeaders (container : String) (kind : Kind)
    (headers : List String) :
    (ofHeaders container kind headers).controls.length = headers.length := by
  simp [ofHeaders]

/-- A fresh selection has nothing checked. -/
theorem checks_ofHeaders (container : String) (kind : Kind) (headers : List String) :
    (ofHeaders container kind headers).checks = List.replicate headers.length false := by
  refine List.ext_getElem (by simp [checks]) fun i hi hi' => ?_
  simp [checks, ofHeaders]

theorem map_header_ofHeaders (container : String) (kind : Kind) (headers : List String) :
    (ofHeaders container kind headers).controls.map (·.header) = headers := by
  refine List.ext_getElem (by simp) fun i hi hi' => ?_
  simp [ofHeaders]

end ConversionDesk.Column.Selection
