import ConversionDesk.Screen.Basic
import ConversionDesk.Submission
import ConversionDesk.Tool

/-!
# The conversion form

The fields of a tool in a form with a submit button. Submitting posts the form to the
tool's endpoint; until the reply is settled the button is disabled and further submissions
are ignored. A failure alerts the user once the restored button has been shown.

## Main definitions

* `ToolForm.Settings`, `ToolForm.Message`, `ToolForm.Task`
* `ToolForm.screen` — the form as a screen
-/

namespace ConversionDesk.ToolForm

open Markup (element text)

/-- What a form is made for. -/
structure Settings where
  tool : Tool
  submitLabel : String
  /-- The fields of the form. -/
  fields : List Markup := []

/-- What the page holds when a form is to be submitted. -/
inductive Payload where
  /-- The form is not on the page. -/
  | missing
  /-- The fields cannot be collected. -/
  | broken (detail : String)
  | ready
deriving DecidableEq, Repr

/-- What a form reacts to. -/
inductive Message where
  | submit (payload : Payload)
  | finished (result : Except Failure Conversion.Outcome)

/-- The only task: to post the form. -/
inductive Task where
  | post
deriving DecidableEq, Repr

/-- A request has ended: its failure is logged, its outcome is logged and told to the
page. -/
def finish (settings : Settings) (s : Submission)
    (result : Except Failure Conversion.Outcome) : Update Submission Task :=
  let failures := match result with
    | .ok _ => []
    | .error failure => [Event.error ["Submission error:", failure.logEntry Conversion.wording]]
  let (outcome, state) := s.finish result
  let successes := match outcome with
    | some outcome =>
      [Event.log ["Conversion finished:", settings.tool.endpoint], .converted outcome]
    | none => []
  { state, changed := true, events := failures ++ successes }

/-- The effect of a message. -/
def update (settings : Settings) (s : Submission) : Message → Update Submission Task
  | .submit .missing => { state := s, changed := false }
  | .submit payload =>
    let (begun, state) := s.start
    if begun then
      match payload with
      | .broken detail => finish settings state (.error (.noReply detail))
      | _ => { state, changed := true, events := [.started], tasks := [.post] }
    else { state := s, changed := false }
  | .finished result => finish settings s result

/-- The form: the fields, then the button. -/
def view (settings : Settings) (s : Submission) : Markup :=
  element "form" [.text "class" "conversion-form", .text "id" settings.tool.formId]
    (settings.fields ++
      [element "button"
        [.text "class" "btn btn-primary", .flag "disabled" s.inFlight, .text "type" "submit"]
        [text (s.buttonLabel settings.submitLabel)]])

/-- Once the view is shown, the waiting notice is raised. -/
def rendered (s : Submission) : List Event × Submission :=
  let (notice, s) := s.takeNotice
  (notice.toList.map .alert, s)

/-- Posts the form and settles the reply. -/
def perform (settings : Settings) : Task → Surroundings → List Event × Message
  | .post, around => ([.post settings.tool.endpoint], .finished (Conversion.settle around.reply))

/-- The form as a screen. -/
def screen (settings : Settings) : Screen Submission Message Task where
  initial := {}
  update := update settings
  view := view settings
  rendered := rendered
  perform := perform settings

end ConversionDesk.ToolForm
