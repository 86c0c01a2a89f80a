import ConversionDesk.Proofs.Screen.Session
import ConversionDesk.Screen.ToolForm

/-!
# The submit cycle of a form

From outside, a form is only ever asked to submit, and its tasks are run with whatever
reply comes back. This file follows such a session from its first showing on. At most one
task is outstanding at any time, the button on display tells whether one is, and every way
through the cycle ends with the button restored and a waiting notice raised.

The invariant is `ToolForm.Steady`: no notice waits between two steps, and the form is in
flight exactly while its one task is outstanding. Each step of a steady form is then
written out in full, report and session, and everything else is read off from that.

## Main definitions

* `ToolForm.session`, `ToolForm.displayed` — a form after a history, and what is on display
* `ToolForm.submitButton?` — the submit button of a form, as the user sees it
* `ToolForm.resultEvents` — what a form does about the result of a request
* `ToolForm.Steady` — nothing waits, and the flag tells of the outstanding task

## Main results

* `ToolForm.Steady.step` — every step keeps a form steady
* `ToolForm.button_of_session` — the button on display after any history
* `ToolForm.session_submit_cycle` — the button and the events of every step of a session
-/

namespace ConversionDesk.ToolForm

open Session (Input)
open Markup (element text)

/-! ### What the user sees -/

/-- A button as the user sees it. -/
structure Button where
  disabled : Bool
  label : String
deriving DecidableEq, Repr

/-- The button that an element shows. -/
def button? : Markup → Option Button
  | .element "button" attributes [.text label] =>
    some { disabled := attributes.contains (.flag "disabled" true), label }
  | _ => none

/-- The submit button of a form: it comes after the fields. -/
def submitButton? : Markup → Option Button
  | .element "form" _ children => children.getLast?.bind button?
  | _ => none

theorem submitButton?_view (settings : Settings) (s : Submission) :
    submitButton? (view settings s) =
      some { disabled := s.inFlight, label := s.buttonLabel settings.submitLabel } := by
  cases h : s.inFlight <;> simp [view, submitButton?, button?, h]

/-- What a form does about the result of a request: it logs a success and tells the page,
and it logs a failure and alerts the user. -/
def resultEvents (settings : Settings) : Except Failure Conversion.Outcome → List Event
  | .ok outcome => [.log ["Conversion finished:", settings.tool.endpoint], .converted outcome]
  | .error failure =>
    [.error ["Submission error:", failure.logEntry Conversion.wording],
      .alert (failure.notice Conversion.wording)]

/-! ### Sessions -/

/-- A form after a history of submissions and runs of tasks. -/
def session (settings : Settings) (inputs : List (Input Payload)) : Session Submission Task :=
  Session.after (screen settings) (inputs.map (Input.map .submit))

/-- What is on display after a history. -/
def displayed (settings : Settings) (inputs : List (Input Payload)) : Markup :=
  Session.display (screen settings) (inputs.map (Input.map .submit))

/-- A step of a form. -/
def step (settings : Settings) (s : Session Submission Task) (i : Input Payload) :
    Option Report × Session Submission Task :=
  s.step (screen settings) (i.map .submit)

/-- Between two steps no notice waits, and the form is in flight exactly while its one task
is outstanding. -/
structure Steady (s : Session Submission Task) : Prop where
  notice : s.state.pendingNotice = none
  outstanding : s.outstanding = if s.state.inFlight then 1 else 0

theorem steady_start (settings : Settings) : Steady (Session.start (screen settings)).2 :=
  ⟨rfl, rfl⟩

namespace Steady

variable {s : Session Submission Task}

theorem inFlight_iff (h : Steady s) : s.state.inFlight = true ↔ s.outstanding = 1 := by
  rw [h.outstanding]
  cases s.state.inFlight <;> simp

theorem not_inFlight_iff (h : Steady s) : s.state.inFlight = false ↔ s.outstanding = 0 := by
  rw [h.outstanding]
  cases s.state.inFlight <;> simp

theorem outstanding_le_one (h : Steady s) : s.outstanding ≤ 1 := by
  rw [h.outstanding]
  split <;> omega

end Steady

/-! ### One update -/

theorem update_missing (settings : Settings) (s : Submission) :
    update settings s (.submit .missing) = { state := s, changed := false } := rfl

theorem update_inFlight (settings : Settings) {s : Submission} (h : s.inFlight = true)
    (payload : Payload) :
    update settings s (.submit payload) = { state := s, changed := false } := by
  cases payload <;> simp [update, Submission.start, h]

/-- Ending a request is the same for a form in flight and one whose fields could not be
collected: both were just marked as in flight. -/
theorem update_broken (settings : Settings) {s : Submission} (h : s.inFlight = false)
    (detail : String) :
    update settings s (.submit (.broken detail)) =
      update settings { s with inFlight := true } (.finished (.error (.noReply detail))) := by
  simp [update, Submission.start, h]

/-- An update that reports no change makes none. -/
theorem state_update_of_unchanged {settings : Settings} {s : Submission} {m : Message}
    (h : (update settings s m).changed = false) : (update settings s m).state = s := by
  cases m with
  | finished result => simp [update, finish] at h
  | submit payload =>
    cases hflight : s.inFlight with
    | true => rw [update_inFlight settings hflight]
    | false =>
      -- with nothing in flight, only a missing form is no change
      cases payload with
      | missing => rfl
      | broken | ready => simp [update, Submission.start, hflight, finish] at h

/-- The events of a result are those of the update and those right after the showing of
the restored button: the alert comes last. -/
theorem events_finished (settings : Settings) {s : Submission} (h : s.pendingNotice = none)
    (result : Except Failure Conversion.Outcome) :
    (update settings s (.finished result)).events ++
        (rendered (update settings s (.finished result)).state).1 =
      resultEvents settings result := by
  cases result with
  | ok outcome =>
    simp [update, finish, rendered, Submission.finish, Submission.takeNotice, resultEvents, h]
  | error failure =>
    simp [update, finish, rendered, Submission.finish, Submission.takeNotice, resultEvents]

/-- Every result restores the form, and raises the notice it left. -/
theorem rendered_finished (settings : Settings) {s : Submission}
    (result : Except Failure Conversion.Outcome) :
    (rendered (update settings s (.finished result)).state).2 = {} := by
  cases result <;> rfl

/-- Every result shows the restored button. -/
theorem view_finished (settings : Settings) (s : Submission)
    (result : Except Failure Conversion.Outcome) :
    view settings (update settings s (.finished result)).state = view settings {} := by
  cases result <;> rfl

/-! ### One step -/

section Steps

variable (settings : Settings) {s : Session Submission Task}

/-- A submission without a form on the page changes nothing. -/
theorem step_missing :
    step settings s (.message .missing) =
      (some { changed := false, events := [], started := s.tasks.length, view := none }, s) := by
  rw [step, Input.map, Session.step_message,
    Session.deliverAfter_of_idle (update_missing settings s.state)]

/-- A submission while a request is in flight changes nothing. -/
theorem step_inFlight (h : s.state.inFlight = true) (payload : Payload) :
    step settings s (.message payload) =
      (some { changed := false, events := [], started := s.tasks.length, view := none }, s) := by
  rw [step, Input.map, Session.step_message,
    Session.deliverAfter_of_idle (update_inFlight settings h payload)]

/-- A submission that serializes starts a request and tells the page. -/
theorem step_ready (h : s.state = {}) :
    step settings s (.message .ready) =
      (some {
        changed := true
        events := [.started]
        started := s.tasks.length + 1
        view := some (view settings { inFlight := true }) },
       { state := { inFlight := true }, tasks := s.tasks ++ [some .post] }) := by
  have hupdate : (screen settings).update s.state (.submit .ready) =
      { state := { inFlight := true }, changed := true, events := [.started],
        tasks := [.post] } := by
    rw [h]
    rfl
  rw [step, Input.map, Session.step_message, Session.deliverAfter_of_changed hupdate rfl]
  rfl

/-- The end of a request restores the form, whatever the result. -/
theorem deliverAfter_finished (h : s.state.pendingNotice = none) (before : List Event)
    (result : Except Failure Conversion.Outcome) :
    s.deliverAfter (screen settings) before (.finished result) =
      ({ changed := true
         events := before ++ resultEvents settings result
         started := s.tasks.length
         view := some (view settings {}) },
       { state := {}, tasks := s.tasks }) := by
  rw [Session.deliverAfter_of_changed rfl rfl, List.append_assoc]
  simp only [screen, events_finished settings h, rendered_finished, view_finished]
  simp [update, finish]

/-- A submission that fails to serialize ends at once, without a request. -/
theorem step_broken (h : s.state = {}) (detail : String) :
    step settings s (.message (.broken detail)) =
      (some {
        changed := true
        events := resultEvents settings (.error (.noReply detail))
        started := s.tasks.length
        view := some (view settings {}) }, s) := by
  have hupdate : (screen settings).update s.state (.submit (.broken detail)) =
      update settings { inFlight := true } (.finished (.error (.noReply detail))) := by
    rw [h]
    exact update_broken settings (s := {}) rfl detail
  have hevents := events_finished settings (s := { inFlight := true }) rfl
    (.error (.noReply detail))
  rw [step, Input.map, Session.step_message, Session.deliverAfter_of_changed hupdate rfl]
  simp only [screen, List.nil_append, hevents, rendered_finished, view_finished]
  simp [update, finish, ← h]

/-- Running an outstanding task posts the form and ends the request. -/
theorem step_run (h : s.state.pendingNotice = none) {n : Nat}
    (hn : s.tasks[n]? = some (some .post)) (around : Surroundings) :
    step settings s (.run n around) =
      (some {
        changed := true
        events := .post settings.tool.endpoint ::
          resultEvents settings (Conversion.settle around.reply)
        started := s.tasks.length
        view := some (view settings {}) },
       { state := {}, tasks := s.tasks.set n none }) := by
  have hperform : (screen settings).perform .post around =
      ([.post settings.tool.endpoint], .finished (Conversion.settle around.reply)) := rfl
  rw [step, Input.map, Session.step_run_of_some hn hperform,
    deliverAfter_finished settings (s := { s with tasks := s.tasks.set n none }) h,
    List.length_set]
  rfl

/-- No other task can be run. -/
theorem step_run_of_none {n : Nat} (hn : (s.tasks[n]?).join = none) (around : Surroundings) :
    step settings s (.run n around) = (none, s) :=
  Session.step_run_of_none hn around

end Steps

/-! ### Whole sessions -/

namespace Steady

variable {s : Session Submission Task}

/-- A steady form that is not in flight is as fresh. -/
theorem state_eq (h : Steady s) (hidle : s.state.inFlight = false) : s.state = {} := by
  rw [← hidle, ← h.notice]

/-- Every step keeps a form steady. -/
theorem step (h : Steady s) (settings : Settings) (i : Input Payload) :
    Steady (step settings s i).2 := by
  cases i with
  | message payload =>
    cases hflight : s.state.inFlight with
    | true =>
      rw [step_inFlight settings hflight]
      exact h
    | false =>
      have hstate := h.state_eq hflight
      cases payload with
      | missing =>
        rw [step_missing]
        exact h
      | broken detail =>
        rw [step_broken settings hstate]
        exact h
      | ready =>
        rw [step_ready settings hstate]
        refine ⟨rfl, ?_⟩
        have hzero : s.outstanding = 0 := h.not_inFlight_iff.mp hflight
        have hone := Session.outstanding_append ({ inFlight := true } : Submission) s.tasks [.post]
        exact hone.trans (congrArg (· + 1) hzero)
  | run n around =>
    cases htask : (s.tasks[n]?).join with
    | none =>
      rw [step_run_of_none settings htask]
      exact h
    | some task =>
      have hn : s.tasks[n]? = some (some .post) := Option.join_eq_some_iff.mp htask
      rw [step_run settings h.notice hn]
      refine ⟨rfl, ?_⟩
      -- the task that was run was the only one
      have hless := Session.outstanding_set_none ({} : Submission) hn
      have hmost := h.outstanding_le_one
      have hsame : Session.outstanding { state := ({} : Submission), tasks := s.tasks } =
        s.outstanding := rfl
      change Session.outstanding { state := ({} : Submission), tasks := s.tasks.set n none } = 0
      omega

end Steady

/-- A form is steady after every history. -/
theorem steady_session (settings : Settings) (inputs : List (Input Payload)) :
    Steady (session settings inputs) :=
  Session.after_induction (steady_start settings) (fun _ i h => h.step settings i) inputs

/-- The display of a form is never stale. -/
theorem displayed_eq_view (settings : Settings) (inputs : List (Input Payload)) :
    displayed settings inputs = view settings (session settings inputs).state := by
  refine Session.display_eq_view (fun _ => rfl) (fun s m h => ?_) _
  exact congrArg (view settings) (state_update_of_unchanged h)

/-- The button on display is busy while the one task is outstanding, and idle when none
is. -/
theorem button_of_session (settings : Settings) (inputs : List (Input Payload)) :
    let s := session settings inputs
    let button := submitButton? (displayed settings inputs)
    (s.outstanding = 1 ∧ button = some ⟨true, Submission.busyLabel⟩) ∨
      (s.outstanding = 0 ∧ button = some ⟨false, settings.submitLabel⟩) := by
  intro s button
  have h : Steady s := steady_session settings inputs
  have hbutton : button =
      some ⟨s.state.inFlight, s.state.buttonLabel settings.submitLabel⟩ := by
    rw [← submitButton?_view, ← displayed_eq_view]
  cases hflight : s.state.inFlight with
  | true =>
    refine Or.inl ⟨h.inFlight_iff.mp hflight, ?_⟩
    rw [hbutton, Submission.buttonLabel, hflight, if_pos rfl]
  | false =>
    refine Or.inr ⟨h.not_inFlight_iff.mp hflight, ?_⟩
    rw [hbutton, Submission.buttonLabel, hflight, if_neg Bool.false_ne_true]

/-- The submit cycle of every session. The button on display is disabled and labelled as
busy exactly while one task is outstanding, and otherwise none is outstanding and the
button is enabled with its own label. A submission while a task is outstanding, or without
a form on the page, changes nothing and does nothing. A submission that serializes tells
the page and starts one task; one that does not logs the failure and alerts the user,
without a request. Running the outstanding task posts the form, and then either logs the
outcome and tells it to the page or logs the failure and alerts the user; no other task
can be run. -/
theorem session_submit_cycle (settings : Settings) (inputs : List (Input Payload)) :
    let s := session settings inputs
    let button := submitButton? (displayed settings inputs)
    -- the button on display
    ((s.outstanding = 1 ∧ button = some ⟨true, "Processing..."⟩) ∨
      (s.outstanding = 0 ∧ button = some ⟨false, settings.submitLabel⟩)) ∧
    -- submissions that are refused
    (∀ payload, s.outstanding = 1 ∨ payload = .missing →
      step settings s (.message payload) =
        (some { changed := false, events := [], started := s.tasks.length, view := none }, s)) ∧
    -- submissions that serialize, and those that do not
    (s.outstanding = 0 → ∃ report s',
      step settings s (.message .ready) = (some report, s') ∧
      report.events = [.started] ∧ s'.tasks = s.tasks ++ [some .post]) ∧
    (s.outstanding = 0 → ∀ detail, ∃ report,
      step settings s (.message (.broken detail)) = (some report, s) ∧
      report.events =
        [.error ["Submission error:", Failure.logEntry Conversion.wording (.noReply detail)],
          .alert (Failure.notice Conversion.wording (.noReply detail))]) ∧
    -- runs of the outstanding task, and of any other
    (∀ n around, s.tasks[n]? = some (some .post) → ∃ report s',
      step settings s (.run n around) = (some report, s') ∧
      report.events = .post settings.tool.endpoint ::
        (match Conversion.settle around.reply with
          | .ok outcome =>
            [.log ["Conversion finished:", settings.tool.endpoint], .converted outcome]
          | .error failure =>
            [.error ["Submission error:", failure.logEntry Conversion.wording],
              .alert (failure.notice Conversion.wording)]) ∧
      s'.tasks = s.tasks.set n none) ∧
    (∀ n around, s.tasks[n]? ≠ some (some .post) →
      step settings s (.run n around) = (none, s)) := by
  intro s button
  have h : Steady s := steady_session settings inputs
  refine ⟨button_of_session settings inputs, ?_, ?_, ?_, ?_, ?_⟩
  · rintro payload (hone | rfl)
    · exact step_inFlight settings (h.inFlight_iff.mpr hone) payload
    · exact step_missing settings
  · intro hzero
    exact ⟨_, _, step_ready settings (h.state_eq (h.not_inFlight_iff.mpr hzero)), rfl, rfl⟩
  · intro hzero detail
    exact ⟨_, step_broken settings (h.state_eq (h.not_inFlight_iff.mpr hzero)) detail, rfl⟩
  · intro n around hn
    refine ⟨_, _, step_run settings h.notice hn around, ?_, rfl⟩
    cases Conversion.settle around.reply <;> rfl
  · intro n around hn
    refine step_run_of_none settings ?_ around
    rw [Option.eq_none_iff_forall_ne_some]
    rintro ⟨⟩ htask
    exact hn (Option.join_eq_some_iff.mp htask)

end ConversionDesk.ToolForm
