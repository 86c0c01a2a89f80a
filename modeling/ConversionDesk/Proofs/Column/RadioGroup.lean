import ConversionDesk.Proofs.Column.Toggling

/-!
# A selection of one column is a radio group

A selection keeps a mark for every control. That at most one of them is set when only one column
may be selected is nowhere in its type: it is the work of one branch of `Selection.set`, which
clears all marks before it sets one.

The radio group says the same by its type. It holds one position or none, so there is nothing to
clear. Whatever is changed, the two agree: the marks of the selection are those of the position
that the group holds, and its selected header, if any, is the one at that position. Headers may
be repeated, since both machines go by positions.

## Main definitions

* `Column.RadioGroup` — one position or none
* `Column.RadioGroup.Tracks` — a selection marks the position that a group holds

## Main results

* `Column.RadioGroup.Tracks.step` — every change keeps the two together
* `Column.RadioGroup.Tracks.count_checks_le_one` — at most one control is checked
* `Column.Selection.looks_like_radioGroup` — a selection of one column after any changes
-/

namespace ConversionDesk.Column

/-- One of `n` positions, or none. -/
structure RadioGroup (n : Nat) where
  chosen : Option (Fin n) := none

namespace RadioGroup

variable {n : Nat}

/-- Checking a position moves there, and unchecking the position that is held gives it up. All
else changes nothing. -/
def set (g : RadioGroup n) (index : Nat) (checked : Bool) : RadioGroup n :=
  if h : index < n then
    if checked then { chosen := some ⟨index, h⟩ }
    else if g.chosen = some ⟨index, h⟩ then { chosen := none }
    else g
  else g

/-- Applies a change. A radio group cannot be toggled as a whole. -/
def apply (g : RadioGroup n) : Selection.Change → RadioGroup n
  | .set index checked => g.set index checked
  | .toggle => g

/-- Applies changes in order. -/
def applyAll (g : RadioGroup n) (changes : List Selection.Change) : RadioGroup n :=
  changes.foldl apply g

/-- The position that is held, as one mark for each position. -/
def marks (g : RadioGroup n) (i : Fin n) : Bool := decide (g.chosen = some i)

/-- The marks after a change to one position: checking clears all the others. -/
theorem ofFn_marks_set (g : RadioGroup n) {index : Nat} (hindex : index < n) (checked : Bool) :
    List.ofFn (g.set index checked).marks =
      (if checked = true then List.replicate n false else List.ofFn g.marks).set index checked := by
  rw [set, dif_pos hindex]
  refine List.ext_getElem ?_ fun i hi hi' => ?_
  · split <;> simp
  · rw [List.getElem_ofFn, List.getElem_set]
    cases checked with
    | true => simp [marks]
    | false =>
      by_cases hheld : g.chosen = some ⟨index, hindex⟩
      · simp [marks, hheld]
      · -- the group holds another position, and keeps it
        by_cases hi : index = i
        · subst hi
          simp [marks, hheld]
        · simp [marks, hheld, hi]

/-! ### Following a selection -/

variable {headers : List String}

/-- A selection of one column marks the position that a radio group holds, and has nothing to
bring back. -/
structure Tracks (g : RadioGroup headers.length) (s : Selection) : Prop where
  kind : s.kind = .single
  headers : s.controls.map (·.header) = headers
  checks : s.checks = List.ofFn g.marks
  restorePoint : s.restorePoint = none

theorem tracks_ofHeaders (container : String) (headers : List String) :
    Tracks ({} : RadioGroup headers.length) (Selection.ofHeaders container .single headers) where
  kind := rfl
  headers := Selection.map_header_ofHeaders container .single headers
  checks := by
    rw [Selection.checks_ofHeaders, ← List.ofFn_const]
    rfl
  restorePoint := rfl

namespace Tracks

variable {g : RadioGroup headers.length} {s : Selection}

theorem length_eq (h : Tracks g s) : s.controls.length = headers.length := by
  rw [← h.headers, List.length_map]

/-- A selection of one column cannot be toggled. -/
theorem toggle_eq (h : Tracks g s) : s.toggle = (false, s) := by
  have hcan : s.canToggle = false := by simp [Selection.canToggle, h.kind]
  exact Prod.ext ((Selection.fst_toggle s).trans hcan) (Selection.toggle_of_not_canToggle hcan)

theorem set (h : Tracks g s) (index : Nat) (checked : Bool) :
    Tracks (g.set index checked) (s.set index checked) := by
  by_cases hindex : index < headers.length
  · have hs : index < s.controls.length := h.length_eq ▸ hindex
    refine ⟨(Selection.kind_apply s (.set index checked)).trans h.kind,
      (Selection.map_controls_apply (fun _ _ => rfl) s (.set index checked)).trans h.headers, ?_,
      Selection.restorePoint_set_of_reaches checked hs⟩
    rw [Selection.checks_set checked hs, ofFn_marks_set g hindex, h.kind, h.length_eq, h.checks]
    simp
  · rw [Selection.set_of_not_reaches checked (by rw [h.length_eq]; omega), RadioGroup.set,
      dif_neg hindex]
    exact h

/-- Every change keeps the two together. -/
theorem step (h : Tracks g s) (change : Selection.Change) :
    Tracks (g.apply change) (s.apply change) := by
  cases change with
  | set index checked => exact h.set index checked
  | toggle =>
    rw [Selection.apply, h.toggle_eq]
    exact h

theorem run (h : Tracks g s) (changes : List Selection.Change) :
    Tracks (g.applyAll changes) (s.applyAll changes) := by
  induction changes generalizing g s with
  | nil => exact h
  | cons change changes ih => exact ih (h.step change)

/-- The selected header is the one at the position that is held. -/
theorem selected_eq (h : Tracks g s) : s.selected = (g.chosen.map headers.get).toList := by
  rw [Selection.selected_eq_of_checks h.headers h.checks]
  cases hchosen : g.chosen with
  | none =>
    have hnone : ∀ i, g.marks i = false := fun i => by simp [marks, hchosen]
    simp [hnone]
  | some i =>
    have hmarks : g.marks = fun j => decide (j = i) := by
      funext j
      simp [marks, hchosen, eq_comm]
    -- the position stands once in the list of all positions
    rw [hmarks, List.filter_eq,
      List.count_eq_one_of_mem (List.nodup_finRange _) (List.mem_finRange i)]
    rfl

/-- At most one control is checked. -/
theorem count_checks_le_one (h : Tracks g s) : s.checks.count true ≤ 1 := by
  rw [← Selection.length_selected, h.selected_eq]
  exact Option.length_toList_le

end Tracks

end RadioGroup

/-- A selection of one column looks like a radio group, whatever is changed. A control is checked
exactly if the group holds its position. So at most one control is ever checked, and the selected
headers are none, or the one at that position. A toggle of all controls is refused and changes
nothing, and there is never anything to bring back. -/
theorem Selection.looks_like_radioGroup (container : String) (headers : List String)
    (changes : List Change) :
    let s := (ofHeaders container .single headers).applyAll changes
    let g := ({} : RadioGroup headers.length).applyAll changes
    s.controls.map (·.header) = headers ∧
      s.checks = List.ofFn (fun j => decide (g.chosen = some j)) ∧
      s.checks.count true ≤ 1 ∧
      s.selected = (g.chosen.map headers.get).toList ∧
      s.toggle = (false, s) ∧
      s.restorePoint = none := by
  intro s g
  have h : RadioGroup.Tracks g s := (RadioGroup.tracks_ofHeaders container headers).run changes
  exact ⟨h.headers, h.checks, h.count_checks_le_one, h.selected_eq, h.toggle_eq, h.restorePoint⟩

/-- Of two columns with the same header the second is checked, and neither unchecking the first
nor a toggle takes that back. -/
example :
    ((Selection.ofHeaders "columns" .single ["A", "A"]).applyAll
      [.set 0 true, .set 1 true, .set 0 false, .toggle]).checks = [false, true] := by
  decide

end ConversionDesk.Column
