import ConversionDesk.Conversion.Outcome
import ConversionDesk.Markup
import ConversionDesk.Reply

/-!
# Screens and sessions

A screen is a state that messages update and that is shown as markup. An update may start
tasks, such as a request or a timer. A task does not run by itself: it is data, and when it
is run, what it does and the message it ends with depend on its surroundings alone. A
session is a screen's state together with all tasks started so far.

## Main definitions

* `Event` — what a screen does to the world, in order
* `Surroundings` — how the world answers a task
* `Screen`, `Update` — a screen and the effect of a message
* `Session`, `Report` — a running screen, and what one step of it shows
* `Session.deliver`, `Session.runTask` — a message arrives, a task runs
-/

namespace ConversionDesk

/-- Something a screen does to the world. -/
inductive Event where
  | log (parts : List String)
  | error (parts : List String)
  | alert (text : String)
  /-- A form is sent. -/
  | post (url : String)
  /-- A text is offered to the clipboard. -/
  | clipboard (text : String)
  /-- A timer fired after so many milliseconds. -/
  | timeout (milliseconds : Nat)
  /-- The page is told that a submission started. -/
  | started
  /-- The page is told an outcome. -/
  | converted (outcome : Conversion.Outcome)
deriving DecidableEq, Repr

/-- How the world answers a task that runs. -/
structure Surroundings where
  /-- Why the payload of a request cannot be built, if it cannot. -/
  payloadError : Option String := none
  /-- Why the clipboard refuses a text, if it does. -/
  clipboardError : Option String := none
  /-- What comes back for a request. -/
  reply : Reply := .received 0 ""

/-- The effect of a message on a screen. -/
structure Update (σ τ : Type) where
  state : σ
  /-- Whether the screen has to be shown again. -/
  changed : Bool
  events : List Event := []
  /-- The tasks that the update starts. -/
  tasks : List τ := []

/-- A screen with states `σ`, messages `μ` and tasks `τ`. -/
structure Screen (σ μ τ : Type) where
  initial : σ
  update : σ → μ → Update σ τ
  view : σ → Markup
  /-- What happens right after the view was shown. -/
  rendered : σ → List Event × σ := fun s => ([], s)
  /-- What a task does, and the message it ends with. -/
  perform : τ → Surroundings → List Event × μ

/-- A running screen: its state, and the tasks started so far. A task that was run is
`none`. -/
structure Session (σ τ : Type) where
  state : σ
  tasks : List (Option τ) := []

/-- What one step of a session shows. -/
structure Report where
  changed : Bool
  events : List Event
  /-- How many tasks were started so far. -/
  started : Nat
  /-- The view, if the step changed it. -/
  view : Option Markup

namespace Session

variable {σ μ τ : Type}

/-- The first showing of a screen. -/
def start (screen : Screen σ μ τ) : Report × Session σ τ :=
  let (events, state) := screen.rendered screen.initial
  ({ changed := true, events, started := 0, view := some (screen.view screen.initial) }, { state })

/-- Delivers a message; the events so far come before its own. -/
def deliverAfter (screen : Screen σ μ τ) (before : List Event) (s : Session σ τ)
    (message : μ) : Report × Session σ τ :=
  let u := screen.update s.state message
  let tasks := s.tasks ++ u.tasks.map some
  if u.changed then
    let (events, state) := screen.rendered u.state
    ({ changed := true
       events := before ++ u.events ++ events
       started := tasks.length
       view := some (screen.view u.state) },
     { state, tasks })
  else
    ({ changed := false, events := before ++ u.events, started := tasks.length, view := none },
     { state := u.state, tasks })

/-- Delivers a message. -/
def deliver (screen : Screen σ μ τ) (s : Session σ τ) (message : μ) : Report × Session σ τ :=
  s.deliverAfter screen [] message

/-- Runs a task to its end and delivers its message; `none` if there is no such task or it
was run before. -/
def runTask (screen : Screen σ μ τ) (s : Session σ τ) (n : Nat) (around : Surroundings) :
    Option (Report × Session σ τ) := do
  let task ← (s.tasks[n]?).join
  let (events, message) := screen.perform task around
  return deliverAfter screen events { s with tasks := s.tasks.set n none } message

/-- A step of a session: a message from outside, or the run of a task. -/
inductive Input (μ : Type) where
  | message (m : μ)
  | run (task : Nat) (around : Surroundings)

/-- Takes a step. A task that cannot be run changes nothing and gives no report. -/
def step (screen : Screen σ μ τ) (s : Session σ τ) : Input μ → Option Report × Session σ τ
  | .message m =>
    let (report, s) := s.deliver screen m
    (some report, s)
  | .run n around =>
    match s.runTask screen n around with
    | some (report, s) => (some report, s)
    | none => (none, s)

/-- Takes steps in order, and collects the reports. -/
def run (screen : Screen σ μ τ) (s : Session σ τ) :
    List (Input μ) → List (Option Report) × Session σ τ
  | [] => ([], s)
  | i :: is =>
    let (report, s) := s.step screen i
    let (reports, s) := s.run screen is
    (report :: reports, s)

end Session

end ConversionDesk
