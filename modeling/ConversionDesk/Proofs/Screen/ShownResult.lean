import ConversionDesk.Proofs.Screen.SubmitCycle
import ConversionDesk.Screen.Desk

/-!
# The result on the page

A form and the page it is on share no state. The form tells the page that a submission
started and that one succeeded, and on all other paths it tells nothing; the page clears its
result area on the first and fills it on the second. This file puts the two together and
follows them through a session of the form, with every event delivered before the next
step.

What the result area ought to show is said without the page, in the *milestones* of the
form's own session: submissions that were accepted and submissions that succeeded. The
area shows an outcome exactly if the last milestone is a success, and then shows that one.

## Main definitions

* `Desk.FormOnDesk` — a form on the page, with its steps and runs
* `Desk.Milestone`, `Desk.milestones` — what a session of a form comes to
* `Desk.FormOnDesk.Agrees` — the page shows the given outcome and nothing is in flight, or
  it shows none

## Main results

* `Desk.FormOnDesk.Agrees.step` — a step shows what its milestone says, or what was shown before
* `Desk.FormOnDesk.result_of_submissions` — the result area after any session
-/

namespace ConversionDesk.Desk

open Session (Input)
open ToolForm (Payload Steady)

/-! ### A form on the page -/

/-- What an event of a form means to the page. -/
def heard? : Event → Option Message
  | .started => some .submissionStarted
  | .converted outcome => some (.converted outcome)
  | _ => none

/-- The page after the events of a form, in order. -/
def State.hear (s : State) (events : List Event) : State :=
  (events.filterMap heard?).foldl (fun s m => (update s m).state) s

/-- A form and the page it is on. -/
structure FormOnDesk where
  form : Session Submission ToolForm.Task
  desk : State

namespace FormOnDesk

/-- A tool was just opened on a page, and its form is shown for the first time. -/
def opened (settings : ToolForm.Settings) (before : State) (tool : Tool) : FormOnDesk where
  form := ToolForm.session settings []
  desk := before.after (.openTool tool)

/-- A step of the form, after which the page hears of its events. -/
def step (settings : ToolForm.Settings) (p : FormOnDesk) (i : Input Payload) : FormOnDesk where
  form := (ToolForm.step settings p.form i).2
  desk := p.desk.hear ((ToolForm.step settings p.form i).1.elim [] (·.events))

/-- Steps of the form in order. -/
def run (settings : ToolForm.Settings) (p : FormOnDesk) (inputs : List (Input Payload)) :
    FormOnDesk :=
  inputs.foldl (step settings) p

theorem run_cons (settings : ToolForm.Settings) (p : FormOnDesk) (i : Input Payload)
    (inputs : List (Input Payload)) :
    p.run settings (i :: inputs) = (p.step settings i).run settings inputs := rfl

end FormOnDesk

/-! ### What a session comes to -/

/-- What happened to a submission. -/
inductive Milestone where
  /-- It was accepted and its request started. -/
  | accepted
  /-- Its request gave an outcome. -/
  | succeeded (outcome : Conversion.Outcome)
deriving DecidableEq, Repr

/-- The outcome that a milestone leaves to be shown. -/
def Milestone.outcome? : Milestone → Option Conversion.Outcome
  | accepted => none
  | succeeded outcome => some outcome

/-- The milestone that a form reaches with an input, if any. -/
def milestone? (form : Session Submission ToolForm.Task) : Input Payload → Option Milestone
  | .message .ready => if form.outstanding = 0 then some .accepted else none
  | .message _ => none
  | .run n around =>
    match (form.tasks[n]?).join, Conversion.settle around.reply with
    | some .post, .ok outcome => some (.succeeded outcome)
    | _, _ => none

/-- The milestones of a session of a form, in order. -/
def milestones (settings : ToolForm.Settings) (form : Session Submission ToolForm.Task) :
    List (Input Payload) → List Milestone
  | [] => []
  | i :: inputs =>
    (milestone? form i).toList ++ milestones settings (ToolForm.step settings form i).2 inputs

/-- The last milestone is a success exactly if some submission succeeded and none was
accepted after it. -/
theorem exists_succeeded_iff (ms : List Milestone) :
    (∃ earlier outcome later,
      ms = earlier ++ .succeeded outcome :: later ∧ Milestone.accepted ∉ later) ↔
      (ms.getLast?.bind Milestone.outcome?).isSome = true := by
  rcases List.eq_nil_or_concat ms with rfl | ⟨front, last, rfl⟩
  · simp
  rw [List.concat_eq_append, List.getLast?_concat]
  -- only the last milestone decides
  cases last with
  | succeeded outcome => exact iff_of_true ⟨front, outcome, [], rfl, by simp⟩ rfl
  | accepted =>
    refine iff_of_false ?_ (by simp [Milestone.outcome?])
    rintro ⟨earlier, outcome, later, heq, hlater⟩
    have hlast : (Milestone.succeeded outcome :: later).getLast? = some .accepted := by
      have hends := congrArg List.getLast? heq
      rw [List.getLast?_concat, List.getLast?_append, List.getLast?_cons, Option.some_or] at hends
      rw [List.getLast?_cons, hends]
    rcases List.mem_cons.mp (List.mem_of_getLast? hlast) with hsame | hmem
    · cases hsame
    · exact hlater hmem

/-- The last milestone, if it is a success, is the most recent success. -/
theorem getLast?_outcomes {ms : List Milestone} {outcome : Conversion.Outcome}
    (h : ms.getLast?.bind Milestone.outcome? = some outcome) :
    (ms.filterMap Milestone.outcome?).getLast? = some outcome := by
  obtain ⟨last, hlast, houtcome⟩ := Option.bind_eq_some_iff.mp h
  obtain ⟨front, rfl⟩ := List.getLast?_eq_some_iff.mp hlast
  simp [List.filterMap_append, houtcome]

/-! ### Both together -/

namespace FormOnDesk

/-- The form is steady, the page has the tool open and shows exactly the given outcome, and
it shows none while a submission is in flight. -/
structure Agrees (p : FormOnDesk) (tool : Tool) (shown : Option Conversion.Outcome) : Prop where
  steady : Steady p.form
  desk : p.desk = { tool := some tool, outcome := shown, resultVisible := shown.isSome }
  inFlight : p.form.state.inFlight = true → shown = none

theorem agrees_opened (settings : ToolForm.Settings) (before : State) (tool : Tool) :
    Agrees (opened settings before tool) tool none :=
  ⟨ToolForm.steady_session settings [], rfl, fun _ => rfl⟩

theorem step_of_report {settings : ToolForm.Settings} {p : FormOnDesk} {i : Input Payload}
    {report : Report} {form : Session Submission ToolForm.Task}
    (h : ToolForm.step settings p.form i = (some report, form)) :
    p.step settings i = { form, desk := p.desk.hear report.events } := by
  simp [step, h]

theorem step_of_no_report {settings : ToolForm.Settings} {p : FormOnDesk} {i : Input Payload}
    (h : ToolForm.step settings p.form i = (none, p.form)) : p.step settings i = p := by
  simp [step, h, State.hear]

/-- A submission that fails to serialize leaves the page as it is. -/
theorem step_broken {settings : ToolForm.Settings} {p : FormOnDesk} (h : Steady p.form)
    (detail : String) : p.step settings (.message (.broken detail)) = p := by
  cases hflight : p.form.state.inFlight with
  | true => exact step_of_report (ToolForm.step_inFlight settings hflight _)
  | false => exact step_of_report (ToolForm.step_broken settings (h.state_eq hflight) detail)

/-- A request that fails leaves the page as it is. -/
theorem desk_step_run_error {settings : ToolForm.Settings} {p : FormOnDesk} (h : Steady p.form)
    {n : Nat} (hn : p.form.tasks[n]? = some (some .post)) {around : Surroundings}
    {failure : Failure} (hreply : Conversion.settle around.reply = .error failure) :
    (p.step settings (.run n around)).desk = p.desk := by
  rw [step_of_report (ToolForm.step_run settings h.notice hn around), hreply]
  rfl

namespace Agrees

variable {p : FormOnDesk} {tool : Tool} {shown : Option Conversion.Outcome}

/-- While a task is outstanding, the page shows nothing. -/
theorem eq_none_of_task (h : Agrees p tool shown) {n : Nat}
    (hn : p.form.tasks[n]? = some (some .post)) : shown = none := by
  have hpos := Session.outstanding_pos hn
  have hmost := h.steady.outstanding_le_one
  exact h.inFlight (h.steady.inFlight_iff.mpr (by omega))

/-- A step shows what its milestone says, or what was shown before. -/
theorem step (h : Agrees p tool shown) (settings : ToolForm.Settings) (i : Input Payload) :
    Agrees (p.step settings i) tool ((milestone? p.form i).elim shown Milestone.outcome?) := by
  cases i with
  | message payload =>
    cases payload with
    | missing =>
      rw [step_of_report (ToolForm.step_missing settings)]
      exact h
    | broken detail =>
      rw [step_broken h.steady]
      exact h
    | ready =>
      cases hflight : p.form.state.inFlight with
      | true =>
        have hone := h.steady.inFlight_iff.mp hflight
        rw [step_of_report (ToolForm.step_inFlight settings hflight _), milestone?,
          if_neg (by omega)]
        exact h
      | false =>
        have hzero := h.steady.not_inFlight_iff.mp hflight
        have hform := h.steady.step settings (.message .ready)
        rw [ToolForm.step_ready settings (h.steady.state_eq hflight)] at hform
        rw [step_of_report (ToolForm.step_ready settings (h.steady.state_eq hflight)), milestone?,
          if_pos hzero, h.desk]
        exact ⟨hform, rfl, fun _ => rfl⟩
  | run n around =>
    cases htask : (p.form.tasks[n]?).join with
    | none =>
      rw [step_of_no_report (ToolForm.step_run_of_none settings htask around)]
      simpa [milestone?, htask] using h
    | some task =>
      have hn : p.form.tasks[n]? = some (some .post) := Option.join_eq_some_iff.mp htask
      have hform := h.steady.step settings (.run n around)
      rw [ToolForm.step_run settings h.steady.notice hn] at hform
      rw [step_of_report (ToolForm.step_run settings h.steady.notice hn around), h.desk]
      cases hreply : Conversion.settle around.reply with
      | ok outcome =>
        simp only [milestone?, htask, hreply]
        exact ⟨hform, rfl, fun hflight => by simp at hflight⟩
      | error failure =>
        -- the page hears nothing, and nothing was shown while the request was out
        simp only [milestone?, htask, hreply]
        exact ⟨hform, rfl, fun hflight => by simp at hflight⟩

/-- A session shows what its last milestone says, or what was shown before. -/
theorem run (h : Agrees p tool shown) (settings : ToolForm.Settings)
    (inputs : List (Input Payload)) :
    Agrees (p.run settings inputs) tool
      ((milestones settings p.form inputs).getLast?.elim shown Milestone.outcome?) := by
  induction inputs generalizing p shown with
  | nil => exact h
  | cons i inputs ih =>
    have hrest := ih (h.step settings i)
    have hform : (p.step settings i).form = (ToolForm.step settings p.form i).2 := rfl
    rw [hform] at hrest
    rw [run_cons, milestones, List.getLast?_append]
    cases hlater : (milestones settings (ToolForm.step settings p.form i).2 inputs).getLast? with
    | some later =>
      -- a later milestone hides the one of this step
      rw [hlater] at hrest
      exact hrest
    | none =>
      rw [hlater] at hrest
      cases hm : milestone? p.form i with
      | none => simpa [hm] using hrest
      | some m => simpa [hm] using hrest

end Agrees

/-- The page does not come between the form and its session. -/
theorem form_run_opened (settings : ToolForm.Settings) (before : State) (tool : Tool)
    (inputs : List (Input Payload)) :
    ((opened settings before tool).run settings inputs).form =
      ToolForm.session settings inputs := by
  induction inputs using List.reverseRecOn with
  | nil => rfl
  | append_singleton inputs i ih =>
    rw [run, List.foldl_append, List.foldl_cons, List.foldl_nil, ToolForm.session, List.map_append,
      List.map_singleton, Session.after_concat]
    exact congrArg (fun form => (ToolForm.step settings form i).2) ih

/-- What the page shows in every session of a form. While a submission is in flight the
page holds no outcome and hides the result area. After every step the area is visible
exactly if some submission has succeeded and none was accepted since, and then it shows the
outcome of the most recent success. A failed request leaves it hidden, and a submission
that fails to serialize leaves it as it was. -/
theorem result_of_submissions (settings : ToolForm.Settings) (before : State) (tool : Tool)
    (inputs : List (Input Payload)) :
    let page := (opened settings before tool).run settings inputs
    let ms := milestones settings (ToolForm.session settings []) inputs
    -- the page does not disturb the form, and keeps the tool open
    page.form = ToolForm.session settings inputs ∧
    page.desk.tool = some tool ∧
    -- in flight
    (page.form.state.inFlight = true →
      page.desk.outcome = none ∧ page.desk.resultVisible = false) ∧
    -- when the result area is visible, and what it shows
    (page.desk.resultVisible = true ↔ ∃ earlier outcome later,
      ms = earlier ++ .succeeded outcome :: later ∧ Milestone.accepted ∉ later) ∧
    (page.desk.resultVisible = true → ∃ outcome,
      (ms.filterMap Milestone.outcome?).getLast? = some outcome ∧
      page.desk.outcome = some outcome) ∧
    (page.desk.resultVisible = false → page.desk.outcome = none) ∧
    -- failures
    (∀ n around failure, page.form.tasks[n]? = some (some .post) →
      Conversion.settle around.reply = .error failure →
      (page.step settings (.run n around)).desk = page.desk ∧
      page.desk.resultVisible = false) ∧
    (∀ detail, (page.step settings (.message (.broken detail))).desk = page.desk) := by
  intro page ms
  have h : Agrees page tool (ms.getLast?.elim none Milestone.outcome?) :=
    (agrees_opened settings before tool).run settings inputs
  have hshown : ms.getLast?.elim none Milestone.outcome? = ms.getLast?.bind Milestone.outcome? := by
    cases ms.getLast? <;> rfl
  rw [hshown] at h
  refine ⟨form_run_opened settings before tool inputs, ?_, ?_, ?_, ?_, ?_, ?_, ?_⟩
  · rw [h.desk]
  · intro hflight
    rw [h.desk, h.inFlight hflight]
    exact ⟨rfl, rfl⟩
  · rw [h.desk, exists_succeeded_iff]
  · rw [h.desk]
    intro hvisible
    obtain ⟨outcome, houtcome⟩ := Option.isSome_iff_exists.mp hvisible
    exact ⟨outcome, getLast?_outcomes houtcome, houtcome⟩
  · rw [h.desk]
    intro hhidden
    simpa using hhidden
  · intro n around failure hn hreply
    refine ⟨desk_step_run_error h.steady hn hreply, ?_⟩
    rw [h.desk, h.eq_none_of_task hn]
    rfl
  · intro detail
    rw [step_broken h.steady]

end FormOnDesk

end ConversionDesk.Desk
