import ConversionDesk.Tool

/-!
# Choices for pasted text

The clipboard tool offers three actions on pasted text. Each has a panel with a choice of
output of its own, and only the panel of the chosen action is visible. A panel's format
group is visible while its output is a file.

## Main definitions

* `PasteAction`, `PasteOutput` — the actions and outputs
* `PasteChoices` — the chosen action, and the chosen output of each action
-/

namespace ConversionDesk

/-- An action on pasted text. -/
inductive PasteAction where
  | toList
  | fromJson
  | extractLists
deriving DecidableEq, Repr

/-- Where the result of an action goes. -/
inductive PasteOutput where
  | display
  | file
deriving DecidableEq, Repr

namespace PasteOutput

/-- All outputs, in the order of the form. -/
def all : List PasteOutput := [display, file]

/-- The submitted name of the output. -/
def value : PasteOutput → String
  | display => "display"
  | file => "file"

/-- The shown name of the output. -/
def label : PasteOutput → String
  | display => "Display on page"
  | file => "Download as file"

end PasteOutput

namespace PasteAction

/-- All actions, in the order of the form. -/
def all : List PasteAction := [toList, fromJson, extractLists]

/-- The submitted name of the action. -/
def value : PasteAction → String
  | toList => "to_list"
  | fromJson => "from_json"
  | extractLists => "extract_lists"

/-- The shown name of the action. -/
def label : PasteAction → String
  | toList => "Convert column to list"
  | fromJson => "Convert JSON to table"
  | extractLists => "Extract lists from text"

/-- The id of the control that chooses the action. -/
def controlId : PasteAction → String
  | toList => "action-to-list"
  | fromJson => "action-from-json"
  | extractLists => "action-extract-lists"

/-- The id of the action's panel. -/
def panelId : PasteAction → String
  | toList => "to-list-options"
  | fromJson => "from-json-options"
  | extractLists => "extract-lists-options"

/-- The word that opens the ids and fields of the panel's controls. -/
def stem : PasteAction → String
  | toList => "list"
  | fromJson => "json"
  | extractLists => "extract"

/-- The field of the output choice. -/
def outputField (a : PasteAction) : String := a.stem ++ "_output_method"

/-- The field of the format choice. -/
def formatField (a : PasteAction) : String := a.stem ++ "_file_format"

/-- The id of the control that chooses an output. -/
def outputControlId (a : PasteAction) (o : PasteOutput) : String :=
  a.stem ++ "-output-" ++ o.value

/-- The id of the group that holds the format choice. -/
def formatGroupId (a : PasteAction) : String := a.stem ++ "-file-format-group"

/-- The formats the server writes for the action. -/
def formats : PasteAction → List FileFormat
  | toList => [.markdown]
  | fromJson => [.csv, .xlsx]
  | extractLists => [.markdown]

end PasteAction

/-- The chosen action, and the chosen output of each action. -/
structure PasteChoices where
  action : PasteAction := .toList
  listOutput : PasteOutput := .display
  tableOutput : PasteOutput := .display
  extractOutput : PasteOutput := .display
deriving DecidableEq, Repr

namespace PasteChoices

/-- Chooses an action. -/
def selectAction (c : PasteChoices) (action : PasteAction) : PasteChoices :=
  { c with action }

/-- The chosen output of an action. -/
def output (c : PasteChoices) : PasteAction → PasteOutput
  | .toList => c.listOutput
  | .fromJson => c.tableOutput
  | .extractLists => c.extractOutput

/-- Chooses the output of an action. -/
def selectOutput (c : PasteChoices) (action : PasteAction)
    (output : PasteOutput) : PasteChoices :=
  match action with
  | .toList => { c with listOutput := output }
  | .fromJson => { c with tableOutput := output }
  | .extractLists => { c with extractOutput := output }

/-- Whether an action's panel is visible. -/
def showsPanel (c : PasteChoices) (action : PasteAction) : Bool := c.action == action

/-- Whether the format group of an action's panel is visible. -/
def showsFormats (c : PasteChoices) (action : PasteAction) : Bool :=
  c.output action == .file

/-- A change of the choices. -/
inductive Change where
  | selectAction (action : PasteAction)
  | selectOutput (action : PasteAction) (output : PasteOutput)
deriving DecidableEq, Repr

/-- Applies a change. -/
def apply (c : PasteChoices) : Change → PasteChoices
  | .selectAction action => c.selectAction action
  | .selectOutput action output => c.selectOutput action output

end PasteChoices

end ConversionDesk
