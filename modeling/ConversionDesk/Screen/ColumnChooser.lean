import ConversionDesk.Column.Loader
import ConversionDesk.Screen.Basic
import ConversionDesk.Tool

/-!
# The column selector

A file input, and below it the columns of the chosen file as controls. Choosing a file asks
the server for its columns; only the answer for the file chosen last is shown. Failures
stay in the container as a text.

## Main definitions

* `ColumnChooser.Settings`, `ColumnChooser.Message`, `ColumnChooser.Task`
* `ColumnChooser.screen` — the selector as a screen
-/

namespace ConversionDesk.ColumnChooser

open Column
open Markup (element text)

/-- What a selector is made for. -/
structure Settings where
  fileInputId : String
  /-- The id of the container, which is also part of every control's id. -/
  container : String
  kind : Kind
  /-- The id of the button that toggles all controls; without one there is no button. -/
  toggleId : Option String := none
  /-- The file types offered. -/
  accept : String
  fileLabel : String

/-- What a selector reacts to. -/
inductive Message where
  | fileChosen
  | fileCleared
  | listed (ticket : Ticket) (result : Except Failure (List String))
  | set (index : Nat) (checked : Bool)
  | toggle

/-- The only task: to ask for the columns of the file that a ticket was issued for. -/
inductive Task where
  | discover (ticket : Ticket)
deriving DecidableEq, Repr

/-- The effect of a message. A failure is logged whether it still matters or not; a result
that no longer matters is logged and dropped. -/
def update (settings : Settings) (p : Loader) : Message → Update Loader Task
  | .fileCleared => { state := p, changed := false }
  | .fileChosen =>
    let (ticket, state) := p.start
    { state, changed := true, tasks := [.discover ticket] }
  | .listed ticket result =>
    let failures := match result with
      | .ok _ => []
      | .error failure => [Event.error ["Error fetching headers:", failure.logEntry wording]]
    let (applied, state) := p.finish ticket settings.container settings.kind result
    let discards := if applied then [] else
      [Event.log ["Discarding superseded header response for", settings.container]]
    { state, changed := applied, events := failures ++ discards }
  | .set index checked =>
    let (found, state) := p.set index checked
    { state, changed := found }
  | .toggle =>
    let (toggled, state) := p.toggle
    { state, changed := toggled.getD false }

/-- The input of a control. -/
def controlInput (kind : Kind) (c : Control) : Markup :=
  element "input" [
    .checked c.checked, .text "id" c.id, .text "name" kind.fieldName,
    .text "type" kind.inputType, .text "value" c.header] []

/-- The label of a control. -/
def controlLabel (c : Control) : Markup := element "label" [.text "for" c.id] [text c.header]

/-- One control and its label. -/
def controlView (kind : Kind) (c : Control) : Markup :=
  element "div" [.text "class" "selection-wrapper", .key c.id] [
    controlInput kind c, controlLabel c]

/-- The contents of the container: a text, or the controls in order. -/
def panelView (panel : Panel) : List Markup :=
  match panel with
  | .ready s => s.controls.map (controlView s.kind)
  | _ =>
    let cls := if panel.isError then "placeholder-text error-text" else "placeholder-text"
    [element "p" [.text "class" cls] [text (panel.placeholder?.getD "")]]

/-- The button that toggles all controls stays on the page and is only hidden. -/
def toggleView (toggleId : Option String) (panel : Panel) : List Markup :=
  toggleId.toList.map fun id =>
    element "button" [
      .text "class" "btn btn-secondary", .text "id" id,
      .text "style" (blockStyle panel.showsToggle), .text "type" "button"]
      [text panel.toggleLabel]

/-- The file input, and the group of columns. -/
def view (settings : Settings) (p : Loader) : Markup :=
  .fragment [
    element "div" [.text "class" "form-group"] [
      element "label" [.text "for" settings.fileInputId] [text settings.fileLabel],
      element "input" [
        .text "accept" settings.accept, .text "id" settings.fileInputId,
        .text "name" Field.file, .flag "required" true, .text "type" "file"] []],
    element "div" [.text "class" "form-group"] [
      element "div" [.text "class" "columns-header"]
        (element "span" [] [text settings.kind.heading] :: toggleView settings.toggleId p.panel),
      element "div" [.text "class" "columns-container", .text "id" settings.container]
        (panelView p.panel)]]

/-- Posts the file and reads the columns off the reply, unless the payload cannot be
built. -/
def perform : Task → Surroundings → List Event × Message
  | .discover ticket, around =>
    match around.payloadError with
    | some detail => ([], .listed ticket (.error (.noReply detail)))
    | none => ([.post discoveryEndpoint], .listed ticket (discover around.reply))

/-- The selector as a screen. -/
def screen (settings : Settings) : Screen Loader Message Task where
  initial := {}
  update := update settings
  view := view settings
  perform := perform

end ConversionDesk.ColumnChooser
