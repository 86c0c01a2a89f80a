import ConversionDesk.Column.Listing
import ConversionDesk.Column.Selection

/-!
# Column panels

## Main definitions

* `Column.Panel` — what a column container shows
* `Column.Panel.ofDiscovery` — the panel for discovered headers
-/

namespace ConversionDesk.Column

/-- What a column container shows. -/
inductive Panel where
  /-- No file was chosen. -/
  | idle
  /-- The columns of a file are being asked for. -/
  | loading
  | ready (selection : Selection)
  | noColumns
  | failed (notice : String)
deriving DecidableEq, Repr

namespace Panel

/-- The text before a file is chosen. -/
def idleText : String := "Select a file to load its columns."

/-- The text while columns are asked for. -/
def loadingText : String := "Loading columns..."

/-- The text for a file without columns. -/
def noColumnsText : String := "No columns found in the file."

/-- The panel for what discovery found. -/
def ofDiscovery (container : String) (kind : Kind) : Except Failure (List String) → Panel
  | .ok [] => noColumns
  | .ok headers => ready (Selection.ofHeaders container kind headers)
  | .error failure => failed (failure.notice wording)

/-- The text shown in place of controls. -/
def placeholder? : Panel → Option String
  | idle => some idleText
  | loading => some loadingText
  | ready _ => none
  | noColumns => some noColumnsText
  | failed notice => some notice

/-- Whether the text tells of an error. -/
def isError : Panel → Bool
  | noColumns => true
  | failed _ => true
  | _ => false

/-- Whether the button that toggles all controls is shown. -/
def showsToggle : Panel → Bool
  | ready s => s.kind == .multiple
  | _ => false

/-- The text of that button, also while it is hidden. -/
def toggleLabel : Panel → String
  | ready s => s.toggleLabel
  | _ => "Select All"

/-- The controls, if there are any. -/
def selection? : Panel → Option Selection
  | ready s => some s
  | _ => none

end Panel

end ConversionDesk.Column
