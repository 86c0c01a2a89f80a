import ConversionDesk.PasteChoices
import ConversionDesk.Screen.Controls
import ConversionDesk.Screen.ToolForm

/-!
# The tool for pasted text

A text area for pasted data, a choice of action, and a panel of options for each action.
Hidden panels stay in the form.

## Main definitions

* `PasteTool.screen` — the tool as a screen
-/

namespace ConversionDesk.PasteTool

open Markup (element text)

/-- The text area. -/
def pastedData : Markup :=
  element "div" [.text "class" "form-group"] [
    element "label" [.text "for" "clipboard-data"] [text "Pasted data"],
    element "textarea" [
      .text "id" "clipboard-data", .text "name" Field.pasted,
      .text "placeholder" "Paste rows copied from a spreadsheet, a JSON array, or any text",
      .flag "required" true, .text "rows" "10"] []]

/-- The choice of action. -/
def actionGroup (c : PasteChoices) : Markup :=
  Controls.radioGroup "Action" (PasteAction.all.map fun a =>
    Controls.radio a.controlId Field.action a.value a.label (c.action == a))

/-- The panel of an action: its output, and the format if the output is a file. -/
def panel (c : PasteChoices) (a : PasteAction) : Markup :=
  element "div" [
    .text "class" "option-panel", .text "id" a.panelId, .key a.panelId,
    .text "style" (blockStyle (c.showsPanel a))] [
    Controls.radioGroup "Output" (PasteOutput.all.map fun o =>
      Controls.radio (a.outputControlId o) a.outputField o.value o.label (c.output a == o)),
    element "div" [
      .text "class" "form-group", .text "id" a.formatGroupId,
      .text "style" (blockStyle (c.showsFormats a))] [
      element "label" [.text "for" a.formatField] [text "File format"],
      element "select" [.text "id" a.formatField, .text "name" a.formatField]
        (Controls.formatOptions a.formats)]]

/-- The form. -/
def view (c : PasteChoices) : Markup :=
  ToolForm.view
    { tool := .clipboard
      submitLabel := "Process Data"
      fields := pastedData :: actionGroup c :: PasteAction.all.map (panel c) } {}

/-- The effect of a message: every change of the choices is shown. -/
def update (c : PasteChoices) (change : PasteChoices.Change) :
    Update PasteChoices Empty :=
  { state := c.apply change, changed := true }

/-- The tool as a screen. -/
def screen : Screen PasteChoices PasteChoices.Change Empty where
  initial := {}
  update := update
  view := view
  perform := nofun

end ConversionDesk.PasteTool
