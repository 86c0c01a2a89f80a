import ConversionDesk.Proofs.Column.Changes
import ConversionDesk.Proofs.Screen.Elements
import ConversionDesk.Screen.ColumnChooser
import Mathlib.Data.List.Nodup

/-!
# Control ids never collide

The id of a control is put together from the container, the position and the header, with
hyphens between them. All three may hold hyphens and digits of their own, so an id cannot be
taken apart in general. Within one container it can: what comes before the position is known,
and the position ends at the first hyphen, for its digits hold none.

So two controls of a container have different ids whatever their headers are, repeated, empty or
made to look like the end of another id. Changes leave the ids alone, and the view uses them as
keys, so that no control is taken for another when the controls are shown again.

## Main results

* `Column.controlId_eq_iff` — an id tells the position, and the header with its blanks replaced
* `Column.Selection.nodup_ids` — the ids of a fresh selection are distinct
* `Column.Selection.ids_and_keys_distinct` — and they are so after all changes, also as keys
-/

namespace ConversionDesk.Column

open Text (hyphenate)

/-! ### Taking an id apart -/

/-- A list is cut at its first separator in one way only. -/
theorem append_separator_inj {α : Type} {separator : α} {front front' rest rest' : List α}
    (h : separator ∉ front) (h' : separator ∉ front') :
    front ++ separator :: rest = front' ++ separator :: rest' ↔ front = front' ∧ rest = rest' := by
  constructor
  · intro heq
    induction front generalizing front' with
    | nil =>
      cases front' with
      | nil => exact ⟨rfl, List.tail_eq_of_cons_eq heq⟩
      | cons a front' => exact absurd (List.head_eq_of_cons_eq heq ▸ List.mem_cons_self) h'
    | cons a front ih =>
      cases front' with
      | nil => exact absurd (List.head_eq_of_cons_eq heq ▸ List.mem_cons_self) h
      | cons b front' =>
        obtain ⟨rfl, htail⟩ := List.cons.inj heq
        obtain ⟨rfl, hrest⟩ := ih (List.not_mem_of_not_mem_cons h)
          (List.not_mem_of_not_mem_cons h') htail
        exact ⟨rfl, hrest⟩
  · rintro ⟨rfl, rfl⟩
    rfl

theorem hyphen_notMem_toDigits (n : Nat) : '-' ∉ Nat.toDigits 10 n := by
  intro hmem
  exact absurd (Nat.isDigit_of_mem_toDigits (by decide) (by decide) hmem) (by decide)

theorem toDigits_inj {i j : Nat} : Nat.toDigits 10 i = Nat.toDigits 10 j ↔ i = j := by
  constructor
  · intro h
    have hread := congrArg (fun digits => Nat.ofDigitChars 10 digits 0) h
    simpa only [Nat.ofDigitChars_ten_toDigits] using hread
  · rintro rfl
    rfl

/-- Within a container, an id tells the position of its control, and the header with its blanks
replaced. -/
theorem controlId_eq_iff (container : String) {i j : Nat} {g h : String} :
    controlId container i g = controlId container j h ↔ i = j ∧ hyphenate g = hyphenate h := by
  have hparts : ∀ (n : Nat) (header : String), (controlId container n header).toList =
      ("col-" ++ container ++ "-").toList ++
        (Nat.toDigits 10 n ++ '-' :: (hyphenate header).toList) := by
    intro n header
    simp [controlId, Nat.toString_eq_repr]
  rw [← String.toList_inj, hparts, hparts, List.append_cancel_left_eq,
    append_separator_inj (hyphen_notMem_toDigits i) (hyphen_notMem_toDigits j), toDigits_inj,
    String.toList_inj]

/-- Across containers it tells neither. -/
example : controlId "a-1" 2 "x" = controlId "a" 1 "2-x" := by decide

/-! ### The ids of a selection -/

namespace Selection

theorem map_id_ofHeaders (container : String) (kind : Kind) (headers : List String) :
    (ofHeaders container kind headers).controls.map (·.id) =
      headers.mapIdx (controlId container) := by
  refine List.ext_getElem (by simp) fun i hi hi' => ?_
  simp [ofHeaders]

/-- The ids of a fresh selection are distinct, whatever its headers are. -/
theorem nodup_ids (container : String) (headers : List String) :
    (headers.mapIdx (controlId container)).Nodup := by
  rw [List.nodup_iff_getElem?_ne_getElem?]
  intro i j hij hj heq
  rw [List.length_mapIdx] at hj
  rw [List.getElem?_mapIdx, List.getElem?_mapIdx, List.getElem?_eq_getElem hj,
    List.getElem?_eq_getElem (Nat.lt_trans hij hj)] at heq
  obtain ⟨hsame, -⟩ := (controlId_eq_iff container).mp (Option.some.inj heq)
  exact Nat.ne_of_lt hij hsame

/-- The keys of the controls on display are their ids. -/
theorem map_key?_panelView (s : Selection) :
    (ColumnChooser.panelView (.ready s)).map Markup.key? = s.controls.map fun c => some c.id := by
  rw [ColumnChooser.panelView, List.map_map]
  rfl

/-- Ids never collide within a container. Two ids are the same exactly if they belong to the same
position and to headers that are the same once their blanks are replaced. So the ids of a selection
are distinct, whatever its headers are and whatever was changed since; they are those of the fresh
selection, and the controls on display have them as keys. -/
theorem ids_and_keys_distinct (container : String) :
    (∀ i j g h, controlId container i g = controlId container j h ↔
      i = j ∧ hyphenate g = hyphenate h) ∧
    ∀ kind headers changes,
      let fresh := ofHeaders container kind headers
      let s := fresh.applyAll changes
      (fresh.controls.map (·.id)).Nodup ∧
      (s.controls.map (·.id)).Nodup ∧
      s.controls.map (·.id) = fresh.controls.map (·.id) ∧
      (ColumnChooser.panelView (.ready s)).map Markup.key? = s.controls.map fun c => some c.id := by
  refine ⟨fun i j g h => controlId_eq_iff container, fun kind headers changes => ?_⟩
  intro fresh s
  have hfresh : (fresh.controls.map (·.id)).Nodup := by
    rw [map_id_ofHeaders]
    exact nodup_ids container headers
  have hsame : s.controls.map (·.id) = fresh.controls.map (·.id) :=
    map_controls_applyAll (fun _ _ => rfl) fresh changes
  exact ⟨hfresh, hsame ▸ hfresh, hsame, map_key?_panelView s⟩

end Selection

end ConversionDesk.Column
