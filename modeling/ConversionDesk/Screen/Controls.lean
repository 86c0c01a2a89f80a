import ConversionDesk.Markup
import ConversionDesk.Tool

/-!
# Shared controls

The groups of controls from which the tools build their forms.

## Main definitions

* `Controls.radio`, `Controls.radioGroup` — one of several choices
* `Controls.formatOptions` — the options of a format choice
-/

namespace ConversionDesk.Controls

open Markup (element text)

/-- One choice of a group: a radio button and its label. -/
def radio (id field value label : String) (isChosen : Bool) : Markup :=
  element "div" [.text "class" "radio-option", .key id] [
    element "input" [
      .checked isChosen, .text "id" id, .text "name" field, .text "type" "radio",
      .text "value" value] [],
    element "label" [.text "for" id] [text label]]

/-- A group of choices under a heading. -/
def radioGroup (heading : String) (radios : List Markup) : Markup :=
  element "div" [.text "class" "form-group"]
    (element "span" [.text "class" "group-label"] [text heading] :: radios)

/-- The options of a format choice; the first is selected. -/
def formatOptions (formats : List FileFormat) : List Markup :=
  formats.mapIdx fun i format =>
    element "option" [.flag "selected" (i == 0), .text "value" format.value] [text format.label]

end ConversionDesk.Controls
