import ConversionDesk.CopyConfirmation
import ConversionDesk.Screen.Basic

/-!
# The result area

What the page shows of an outcome: a download link, a text, or nothing, and a button that copies
a displayed text. The page owns the outcome; the area only knows whether a copy is being
confirmed.

## Main definitions

* `ResultArea.Settings`, `ResultArea.Message`, `ResultArea.Task`
* `ResultArea.screen` — the area as a screen
-/

namespace ConversionDesk.ResultArea

open Conversion
open Markup (element text)

/-- What the page hands to the area. -/
structure Settings where
  /-- The outcome of the latest successful conversion. -/
  outcome : Option Outcome := none
  visible : Bool := false
deriving DecidableEq, Repr

/-- The text that the button copies, if there is one. -/
def Settings.copyable? (settings : Settings) : Option String :=
  settings.outcome.bind Outcome.copyable?

/-- What the area reacts to. -/
inductive Message where
  | copy
  | copied
  | copyFailed (detail : String)
  | timerFired (ticket : Ticket)
deriving DecidableEq, Repr

/-- What the area starts: to offer a text to the clipboard, and to wait for the end of a
confirmation. -/
inductive Task where
  | writeClipboard (text : String)
  | wait (ticket : Ticket)
deriving DecidableEq, Repr

/-- The alert after a refused copy. -/
def copyFailedNotice : String := "Failed to copy text."

/-- The effect of a message. -/
def update (settings : Settings) (c : CopyConfirmation) : Message → Update CopyConfirmation Task
  | .copy =>
    { state := c, changed := false, tasks := settings.copyable?.toList.map .writeClipboard }
  | .copied =>
    let (ticket, state) := c.confirm
    { state, changed := true, tasks := [.wait ticket] }
  | .copyFailed detail =>
    { state := c, changed := false
      events := [.error ["Failed to copy:", detail], .alert copyFailedNotice] }
  | .timerFired ticket =>
    let (changed, state) := c.expire ticket
    { state, changed }

/-- The label of the copy button. -/
def copyLabel (copied : Bool) : List Markup :=
  if copied then [element "i" [.text "class" "fas fa-check"] [], text " Copied!"]
  else [element "i" [.text "class" "fas fa-copy"] [], text " Copy"]

/-- The contents of the area. -/
def content : Option Outcome → List Markup
  | some (.download url fileName) =>
    [element "a" [.text "download" "", .text "href" url, .text "id" "download-link"]
      [text (Outcome.linkLabel fileName)]]
  | some (.display shown) => [element "pre" [.text "class" "result-display"] [text shown]]
  | _ => []

/-- Whether the copy button is shown. -/
def showsCopy (settings : Settings) : Bool := settings.visible && settings.copyable?.isSome

/-- The area: a header with the copy button, and the contents. -/
def view (settings : Settings) (c : CopyConfirmation) : Markup :=
  element "div" [
    .text "class" "result-container", .text "id" "result-container",
    .text "style" (blockStyle settings.visible)] [
    element "div" [.text "class" "result-header"] [
      element "h3" [] [text "Result"],
      element "button" [
        .text "class" "btn btn-secondary copy-btn", .text "id" "copy-btn",
        .text "style" (if showsCopy settings then "display: inline-block;" else "display: none;"),
        .text "type" "button"] (copyLabel c.copied)],
    element "div" [.text "id" "result-content"] (content settings.outcome)]

/-- Offers the text to the clipboard, or lets the time of a confirmation pass. -/
def perform : Task → Surroundings → List Event × Message
  | .writeClipboard shown, around =>
    ([.clipboard shown], match around.clipboardError with
      | some detail => .copyFailed detail
      | none => .copied)
  | .wait ticket, _ => ([.timeout CopyConfirmation.duration], .timerFired ticket)

/-- The area as a screen. -/
def screen (settings : Settings) : Screen CopyConfirmation Message Task where
  initial := {}
  update := update settings
  view := view settings
  perform := perform

end ConversionDesk.ResultArea
