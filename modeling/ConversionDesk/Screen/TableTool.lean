import ConversionDesk.Screen.Controls
import ConversionDesk.Screen.ToolForm

/-!
# The tool that makes tables

## Main definitions

* `TableTool.screen` — a JSON file and a table format; nothing to react to
-/

namespace ConversionDesk.TableTool

open Markup (element text)

/-- The file types of JSON records. -/
def jsonFiles : String := ".json,application/json"

/-- The form. -/
def view : Markup :=
  ToolForm.view
    { tool := .fromJson
      submitLabel := "Convert to Table"
      fields := [
        element "div" [.text "class" "form-group"] [
          element "label" [.text "for" "from-json-file"] [text "JSON file (a list of records)"],
          element "input" [
            .text "accept" jsonFiles, .text "id" "from-json-file", .text "name" Field.file,
            .flag "required" true, .text "type" "file"] []],
        element "div" [.text "class" "form-group"] [
          element "label" [.text "for" "from-json-format"] [text "Output format"],
          element "select" [.text "id" "from-json-format", .text "name" Field.tableFormat]
            (Controls.formatOptions FileFormat.tables)]] } {}

/-- The tool as a screen. -/
def screen : Screen Unit Empty Empty where
  initial := ()
  update := nofun
  view := fun _ => view
  perform := nofun

end ConversionDesk.TableTool
