import ConversionDesk.Column.Kind
import ConversionDesk.Text.Blank

/-!
# Column selections

One control per header, in header order, addressed by position. A selection of several
columns can be toggled as a whole: the first toggle checks or unchecks everything and
keeps the configuration it found, a second one right after it brings that configuration
back, and any change to a single control in between forgets it.

## Main definitions

* `Column.controlId` — the id of a control
* `Column.Selection` — the controls of a container
* `Column.Selection.set`, `Column.Selection.toggle` — the two ways to change it
-/

namespace ConversionDesk.Column

/-- The id of a control: container, position, and the header with its runs of blanks
replaced by hyphens. -/
def controlId (container : String) (index : Nat) (header : String) : String :=
  "col-" ++ container ++ "-" ++ toString index ++ "-" ++ Text.hyphenate header

/-- One control. -/
structure Control where
  id : String
  header : String
  checked : Bool
deriving DecidableEq, Repr

/-- The controls of a container. -/
structure Selection where
  kind : Kind
  controls : List Control
  /-- What the next toggle of all controls brings back. -/
  restorePoint : Option (List Bool) := none
deriving DecidableEq, Repr

namespace Selection

/-- A fresh selection, with nothing checked. -/
def ofHeaders (container : String) (kind : Kind) (headers : List String) : Selection where
  kind
  controls := headers.mapIdx fun i header =>
    { id := controlId container i header, header, checked := false }

/-- Which controls are checked, in order. -/
def checks (s : Selection) : List Bool := s.controls.map (·.checked)

/-- Gives controls new states in order; those beyond the end of the list keep theirs. -/
def withChecks : List Control → List Bool → List Control
  | c :: cs, b :: bs => { c with checked := b } :: withChecks cs bs
  | cs, _ => cs

@[simp] theorem length_withChecks (cs : List Control) (bs : List Bool) :
    (withChecks cs bs).length = cs.length := by
  fun_induction withChecks cs bs with
  | case1 c cs b bs ih => simp [ih]
  | case2 => rfl

/-- Equally many new states are the states afterwards. -/
theorem map_checked_withChecks {cs : List Control} {bs : List Bool} (h : bs.length = cs.length) :
    (withChecks cs bs).map (·.checked) = bs := by
  induction cs generalizing bs with
  | nil => simp_all [withChecks]
  | cons c cs ih =>
    cases bs with
    | nil => simp at h
    | cons b bs => simp [withChecks, ih (by simpa using h)]

/-- Changes one control. Checking a control of a single selection unchecks the others. A
position without a control changes nothing. -/
def set (s : Selection) (index : Nat) (checked : Bool) : Selection :=
  if index < s.controls.length then
    { s with
      controls := s.controls.mapIdx fun i c =>
        if i = index then { c with checked }
        else if s.kind = .single ∧ checked = true then { c with checked := false }
        else c
      restorePoint := none }
  else s

/-- Everything is checked, and there is something to check. -/
def isFull (s : Selection) : Bool := !s.controls.isEmpty && s.controls.all (·.checked)

/-- Whether a toggle of all controls does anything. -/
def canToggle (s : Selection) : Bool := s.kind == .multiple && !s.controls.isEmpty

/-- Toggles all controls, and tells whether it could. -/
def toggle (s : Selection) : Bool × Selection :=
  if s.canToggle then
    match s.restorePoint with
    | some previous =>
      (true, { s with controls := withChecks s.controls previous, restorePoint := none })
    | none =>
      let target := !s.isFull
      (true, { s with
        controls := s.controls.map fun c => { c with checked := target }
        restorePoint := some s.checks })
  else (false, s)

/-- The text of the button that toggles all controls. -/
def toggleLabel (s : Selection) : String := if s.isFull then "Deselect All" else "Select All"

/-- The headers of the checked controls, in order. -/
def selected (s : Selection) : List String := (s.controls.filter (·.checked)).map (·.header)

/-- A change to a selection. -/
inductive Change where
  | set (index : Nat) (checked : Bool)
  | toggle
deriving DecidableEq, Repr

/-- Applies a change. -/
def apply (s : Selection) : Change → Selection
  | .set index checked => s.set index checked
  | .toggle => s.toggle.2

end Selection

end ConversionDesk.Column
