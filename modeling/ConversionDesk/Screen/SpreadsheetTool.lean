import ConversionDesk.Screen.ColumnChooser
import ConversionDesk.Screen.Controls
import ConversionDesk.Screen.ToolForm

/-!
# Tools that read a spreadsheet

The list tool and the JSON tool: a column selector and a choice of output. The tool keeps
the chosen output, so showing it again never resets the choice.

## Main definitions

* `SpreadsheetTool.Settings` — what tells the two tools apart
* `SpreadsheetTool.list`, `SpreadsheetTool.json` — their settings
* `SpreadsheetTool.screen` — the tool as a screen
-/

namespace ConversionDesk.SpreadsheetTool

/-- What tells one tool from another. -/
structure Settings where
  tool : Tool
  submitLabel : String
  columns : ColumnChooser.Settings
  /-- The outputs offered, in order. -/
  outputs : List FileOutput

/-- The file types of spreadsheets. -/
def spreadsheets : String := ".xlsx,.xls,.csv"

/-- One column to a list. -/
def list : Settings where
  tool := .list
  submitLabel := "Convert to List"
  columns :=
    { fileInputId := "list-file"
      container := "columns-container"
      kind := .single
      accept := spreadsheets
      fileLabel := "Excel or CSV file" }
  outputs := [.file, .display]

/-- Several columns to JSON records. -/
def json : Settings where
  tool := .json
  submitLabel := "Convert to JSON"
  columns :=
    { fileInputId := "json-file"
      container := "json-columns-container"
      kind := .multiple
      toggleId := some "json-select-all-btn"
      accept := spreadsheets
      fileLabel := "Excel or CSV file" }
  outputs := [.file, .display, .addToTable]

/-- What the tool reacts to. -/
inductive Message where
  | selectOutput (output : FileOutput)
deriving DecidableEq, Repr

/-- The effect of a message on the chosen output. -/
def update (_ : FileOutput) : Message → Update FileOutput Empty
  | .selectOutput output => { state := output, changed := true }

/-- The choice of output. -/
def outputGroup (settings : Settings) (chosen : FileOutput) : Markup :=
  Controls.radioGroup "Output" (settings.outputs.map fun output =>
    Controls.radio (settings.tool.formId ++ "-output-" ++ output.value) Field.output
      output.value output.label (output == chosen))

/-- The form, with a column selector on which nothing has happened yet. -/
def view (settings : Settings) (chosen : FileOutput) : Markup :=
  ToolForm.view
    { tool := settings.tool
      submitLabel := settings.submitLabel
      fields := [ColumnChooser.view settings.columns {}, outputGroup settings chosen] } {}

/-- The tool as a screen. -/
def screen (settings : Settings) : Screen FileOutput Message Empty where
  initial := .file
  update := update
  view := view settings
  perform := nofun

end ConversionDesk.SpreadsheetTool
