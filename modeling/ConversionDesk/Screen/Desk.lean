import ConversionDesk.Screen.CardGrid
import ConversionDesk.Screen.PasteTool
import ConversionDesk.Screen.ResultArea
import ConversionDesk.Screen.SpreadsheetTool
import ConversionDesk.Screen.TableTool

/-!
# The page

The menu of tools, or an open tool with the result area below it. The page owns the
outcome: a tool tells it when a submission starts, which clears the result, and when one
succeeds, which shows it.

## Main definitions

* `Desk.State`, `Desk.Message`
* `Desk.screen` — the page as a screen
-/

namespace ConversionDesk.Desk

open Markup (element text)

/-- The open tool, and the result area. -/
structure State where
  tool : Option Tool := none
  /-- The outcome of the latest successful submission. -/
  outcome : Option Conversion.Outcome := none
  resultVisible : Bool := false
deriving DecidableEq, Repr

/-- What the page reacts to. -/
inductive Message where
  | openTool (tool : Tool)
  | showMenu
  | submissionStarted
  | converted (outcome : Conversion.Outcome)
deriving DecidableEq, Repr

/-- The page with an empty, hidden result area. -/
def State.clearResult (s : State) : State := { s with outcome := none, resultVisible := false }

/-- The state after a message. -/
def State.after (s : State) : Message → State
  | .openTool tool => { s with tool := some tool }.clearResult
  | .showMenu => { s with tool := none }.clearResult
  | .submissionStarted => s.clearResult
  | .converted outcome => { s with outcome := some outcome, resultVisible := true }

/-- The effect of a message: every message is shown. -/
def update (s : State) (message : Message) : Update State Empty :=
  { state := s.after message, changed := true }

/-- The title of the page. -/
def title : String := "Data Conversion Tools"

/-- The card of a tool in the menu. -/
def card (tool : Tool) : Markup :=
  element "button" [.text "class" "tool-card", .key tool.title, .text "type" "button"] [
    element "i" [.text "class" tool.icon] [],
    element "h2" [] [text tool.title],
    Markup.paragraph tool.description]

/-- The menu. -/
def menu : Markup := CardGrid.view 2 (Tool.all.map card)

/-- The form of a tool on which nothing has happened yet. -/
def form : Tool → Markup
  | .list => (SpreadsheetTool.screen SpreadsheetTool.list).view .file
  | .json => (SpreadsheetTool.screen SpreadsheetTool.json).view .file
  | .fromJson => TableTool.view
  | .clipboard => PasteTool.view {}

/-- What the page hands to its result area. -/
def State.resultSettings (s : State) : ResultArea.Settings :=
  { outcome := s.outcome, visible := s.resultVisible }

/-- An open tool with the result area. -/
def toolView (s : State) (tool : Tool) : Markup :=
  element "section" [.text "class" "tool"] [
    element "button" [.text "class" "btn btn-link", .text "type" "button"] [text "← All tools"],
    element "h2" [] [text tool.title],
    element "p" [.text "class" "tool-description"] [text tool.description],
    form tool,
    ResultArea.view s.resultSettings {}]

/-- The page. -/
def view (s : State) : Markup :=
  element "div" [.text "class" "container"] [
    element "header" [] [element "h1" [] [text title]],
    match s.tool with
    | some tool => toolView s tool
    | none => menu]

/-- The page as a screen. -/
def screen : Screen State Message Empty where
  initial := {}
  update := update
  view := view
  perform := nofun

end ConversionDesk.Desk
