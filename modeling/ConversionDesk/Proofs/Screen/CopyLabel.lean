import ConversionDesk.Proofs.Screen.Session
import ConversionDesk.Screen.ResultArea

/-!
# The label of the copy button

From outside, the result area is only ever asked to copy. Each request offers the text to the
clipboard, and each copy that succeeds starts a timer; offers and timers are tasks of one
numbering, many of them may be outstanding, and they run in any order. The label must follow
the newest timer alone.

What happened is said in the *endings* of a session: a copy that succeeded, with the number
of the task that is its timer, a copy that was refused, a timer that fired. `Follows` ties a
session to its endings: an outstanding timer carries the number of its own success, so a
ticket is current exactly if it belongs to the latest success, and the label confirms a copy
as long as that timer has not fired.

## Main definitions

* `ResultArea.session`, `ResultArea.displayed` — the area after a history, and what is on
  display
* `ResultArea.copyText?` — the label of the copy button, as the user sees it
* `ResultArea.Ending`, `ResultArea.endings` — what the tasks of a session came to
* `ResultArea.Follows` — a session fits its endings

## Main results

* `ResultArea.Follows.step` — every step keeps a session and its endings together
* `ResultArea.session_of_not_copyable` — without a text there is nothing to do
* `ResultArea.copy_confirmation_of_session` — the tasks, the events and the label of every
  session
-/

namespace ConversionDesk.ResultArea

open Session (Input)
open Markup (element text)
open Conversion (Outcome)

/-! ### What the user sees -/

/-- The label of the copy button: it stands in the header, after an icon. -/
def copyText? : Markup → Option String
  | .element _ _ (.element _ _ [_, .element "button" _ [_, .text label]] :: _) => some label
  | _ => none

theorem copyText?_view (settings : Settings) (c : CopyConfirmation) :
    copyText? (view settings c) = some (if c.copied then " Copied!" else " Copy") := by
  cases h : c.copied <;> simp [view, copyText?, copyLabel, h]

/-! ### Sessions -/

/-- The area after a history of requests to copy and runs of tasks. -/
def session (settings : Settings) (inputs : List (Input Unit)) : Session CopyConfirmation Task :=
  Session.after (screen settings) (inputs.map (Input.map fun _ => .copy))

/-- What is on display after a history. -/
def displayed (settings : Settings) (inputs : List (Input Unit)) : Markup :=
  Session.display (screen settings) (inputs.map (Input.map fun _ => .copy))

/-- A step of the area. -/
def step (settings : Settings) (s : Session CopyConfirmation Task) (i : Input Unit) :
    Option Report × Session CopyConfirmation Task :=
  s.step (screen settings) (i.map fun _ => .copy)

/-- How many times a history asks to copy. -/
def requests (inputs : List (Input Unit)) : Nat :=
  inputs.countP fun
    | .message _ => true
    | .run _ _ => false

/-- What a task came to. -/
inductive Ending where
  /-- The clipboard took the text; the task with this number is the timer. -/
  | copied (timer : Nat)
  /-- The clipboard refused the text. -/
  | refused
  /-- The task with this number is a timer, and it fired. -/
  | fired (timer : Nat)
deriving DecidableEq, Repr

def Ending.timer? : Ending → Option Nat
  | copied timer => some timer
  | _ => none

/-- The timers that successful copies started, in order. -/
def timers (endings : List Ending) : List Nat := endings.filterMap Ending.timer?

/-- What an input makes a task come to, if it runs one. -/
def ending? (s : Session CopyConfirmation Task) : Input Unit → Option Ending
  | .message _ => none
  | .run n around =>
    match (s.tasks[n]?).join, around.clipboardError with
    -- a task that is started now has the number of the tasks before it
    | some (.writeClipboard _), none => some (.copied s.tasks.length)
    | some (.writeClipboard _), some _ => some .refused
    | some (.wait _), _ => some (.fired n)
    | none, _ => none

/-- What the tasks of a session came to, in the order in which they ran. -/
def endings (settings : Settings) (inputs : List (Input Unit)) : List Ending :=
  Session.record (screen settings) (fun _ => .copy) ending? (Session.start (screen settings)).2
    inputs

theorem session_concat (settings : Settings) (inputs : List (Input Unit)) (i : Input Unit) :
    session settings (inputs ++ [i]) = (step settings (session settings inputs) i).2 := by
  rw [session, List.map_append, List.map_singleton, Session.after_concat]
  rfl

theorem endings_concat (settings : Settings) (inputs : List (Input Unit)) (i : Input Unit) :
    endings settings (inputs ++ [i]) =
      endings settings inputs ++ (ending? (session settings inputs) i).toList :=
  Session.record_concat _ _ _ inputs i

/-! ### One step -/

section Steps

variable (settings : Settings) {s : Session CopyConfirmation Task}

theorem step_copy {shown : String} (h : settings.copyable? = some shown) :
    step settings s (.message ()) =
      (some { changed := false, events := [], started := s.tasks.length + 1, view := none },
       { s with tasks := s.tasks ++ [some (.writeClipboard shown)] }) := by
  have hupdate : (screen settings).update s.state .copy =
      { state := s.state, changed := false, tasks := [.writeClipboard shown] } := by
    simp [screen, update, h]
  rw [step, Input.map, Session.step_message, Session.deliverAfter_of_unchanged hupdate rfl]
  rfl

theorem step_copy_of_none (h : settings.copyable? = none) :
    step settings s (.message ()) =
      (some { changed := false, events := [], started := s.tasks.length, view := none }, s) := by
  have hupdate : (screen settings).update s.state .copy = { state := s.state, changed := false } := by
    simp [screen, update, h]
  rw [step, Input.map, Session.step_message, Session.deliverAfter_of_idle hupdate]

/-- The clipboard takes the text: the copy is confirmed, and its timer starts. -/
theorem step_written {n : Nat} {shown : String} {around : Surroundings}
    (hn : s.tasks[n]? = some (some (.writeClipboard shown))) (h : around.clipboardError = none) :
    step settings s (.run n around) =
      (some {
        changed := true
        events := [.clipboard shown]
        started := s.tasks.length + 1
        view := some (view settings s.state.confirm.2) },
       { state := s.state.confirm.2
         tasks := s.tasks.set n none ++ [some (.wait s.state.confirm.1)] }) := by
  have hperform : (screen settings).perform (.writeClipboard shown) around =
      ([.clipboard shown], .copied) := by
    simp [screen, perform, h]
  rw [step, Input.map, Session.step_run_of_some hn hperform,
    Session.deliverAfter_of_changed rfl rfl]
  simp [screen, update]

/-- The clipboard refuses the text: the failure is logged, and the user is told. -/
theorem step_refused {n : Nat} {shown detail : String} {around : Surroundings}
    (hn : s.tasks[n]? = some (some (.writeClipboard shown)))
    (h : around.clipboardError = some detail) :
    step settings s (.run n around) =
      (some {
        changed := false
        events := [.clipboard shown, .error ["Failed to copy:", detail], .alert copyFailedNotice]
        started := s.tasks.length
        view := none },
       { s with tasks := s.tasks.set n none }) := by
  have hperform : (screen settings).perform (.writeClipboard shown) around =
      ([.clipboard shown], .copyFailed detail) := by
    simp [screen, perform, h]
  rw [step, Input.map, Session.step_run_of_some hn hperform,
    Session.deliverAfter_of_unchanged rfl rfl]
  simp [screen, update]

/-- The newest timer fires: the confirmation ends. -/
theorem step_expired {n : Nat} {ticket : Ticket} (hn : s.tasks[n]? = some (some (.wait ticket)))
    (hcurrent : ticket.number = s.state.timers.latest) (hcopied : s.state.copied = true)
    (around : Surroundings) :
    step settings s (.run n around) =
      (some {
        changed := true
        events := [.timeout CopyConfirmation.duration]
        started := s.tasks.length
        view := some (view settings { s.state with copied := false }) },
       { state := { s.state with copied := false }, tasks := s.tasks.set n none }) := by
  have hupdate : update settings s.state (.timerFired ticket) =
      { state := { s.state with copied := false }, changed := true } := by
    simp [update, CopyConfirmation.expire, Counter.isCurrent_iff.mpr hcurrent, hcopied]
  have hperform : (screen settings).perform (.wait ticket) around =
      ([.timeout CopyConfirmation.duration], .timerFired ticket) := rfl
  rw [step, Input.map, Session.step_run_of_some hn hperform,
    Session.deliverAfter_of_changed hupdate rfl]
  simp [screen]

/-- Any other timer fires, and nothing is shown. -/
theorem step_stale {n : Nat} {ticket : Ticket} (hn : s.tasks[n]? = some (some (.wait ticket)))
    (hstale : ticket.number ≠ s.state.timers.latest) (around : Surroundings) :
    step settings s (.run n around) =
      (some {
        changed := false
        events := [.timeout CopyConfirmation.duration]
        started := s.tasks.length
        view := none },
       { s with tasks := s.tasks.set n none }) := by
  have hupdate : update settings s.state (.timerFired ticket) =
      { state := s.state, changed := false } := by
    have hcurrent : s.state.timers.isCurrent ticket = false := by
      rw [← Bool.not_eq_true, Counter.isCurrent_iff]
      exact hstale
    simp [update, CopyConfirmation.expire, hcurrent]
  have hperform : (screen settings).perform (.wait ticket) around =
      ([.timeout CopyConfirmation.duration], .timerFired ticket) := rfl
  rw [step, Input.map, Session.step_run_of_some hn hperform,
    Session.deliverAfter_of_unchanged hupdate rfl]
  simp

theorem step_run_of_none {n : Nat} (hn : (s.tasks[n]?).join = none) (around : Surroundings) :
    step settings s (.run n around) = (none, s) :=
  Session.step_run_of_none hn around

end Steps

/-! ### Sessions and their endings -/

theorem timers_append (first second : List Ending) :
    timers (first ++ second) = timers first ++ timers second :=
  List.filterMap_append

/-- A session fits what its tasks came to: the counter counts the successes, an outstanding
timer carries the number of its success, and a copy is confirmed as long as the timer of the
latest success has not fired. -/
structure Follows (settings : Settings) (s : Session CopyConfirmation Task)
    (es : List Ending) : Prop where
  latest : s.state.timers.latest = (timers es).length
  copied : s.state.copied = true ↔
    ∃ timer, (timers es).getLast? = some timer ∧ Ending.fired timer ∉ es
  waits : ∀ (n : Nat) (ticket : Ticket), s.tasks[n]? = some (some (.wait ticket)) →
    ∃ i : Nat, ticket.number = i + 1 ∧ (timers es)[i]? = some n
  writes : ∀ (n : Nat) (shown : String), s.tasks[n]? = some (some (.writeClipboard shown)) →
    settings.copyable? = some shown
  started : ∀ n ∈ timers es, n < s.tasks.length
  nodup : (timers es).Nodup
  fired : ∀ n, Ending.fired n ∈ es → s.tasks[n]? = some none

theorem follows_start (settings : Settings) :
    Follows settings (Session.start (screen settings)).2 [] where
  latest := rfl
  copied := by simp [Session.start, screen, timers]
  waits := by simp [Session.start]
  writes := by simp [Session.start]
  started := by simp [timers]
  nodup := by simp [timers]
  fired := by simp

namespace Follows

variable {settings : Settings} {s : Session CopyConfirmation Task} {es : List Ending}

/-- An outstanding timer belongs to the latest success exactly if its ticket is current. -/
theorem getLast?_eq_iff (h : Follows settings s es) {n : Nat} {ticket : Ticket}
    (hn : s.tasks[n]? = some (some (.wait ticket))) :
    (timers es).getLast? = some n ↔ ticket.number = s.state.timers.latest := by
  obtain ⟨i, hnumber, htimer⟩ := h.waits n ticket hn
  obtain ⟨hi, -⟩ := List.getElem?_eq_some_iff.mp htimer
  -- timers are pairwise different, so it is the same to compare their positions
  rw [List.getLast?_eq_getElem?, ← htimer, hnumber, h.latest]
  constructor
  · intro hlast
    have := (List.getElem?_inj hi h.nodup).mp hlast.symm
    omega
  · intro hlast
    rw [← hlast, Nat.add_sub_cancel]

theorem copied_of_wait (h : Follows settings s es) {n : Nat} {ticket : Ticket}
    (hn : s.tasks[n]? = some (some (.wait ticket))) (hlast : (timers es).getLast? = some n) :
    s.state.copied = true := by
  refine h.copied.mpr ⟨n, hlast, fun hfired => ?_⟩
  rw [h.fired n hfired] at hn
  cases hn

/-- Crossing out a task leaves the rest in place. -/
theorem crossOut (h : Follows settings s es) (n : Nat) :
    Follows settings { s with tasks := s.tasks.set n none } es := by
  refine ⟨h.latest, h.copied, fun m ticket hm => ?_, fun m shown hm => ?_, ?_, h.nodup,
    fun m hm => ?_⟩
  · exact h.waits m ticket (Session.getElem?_of_set_none hm)
  · exact h.writes m shown (Session.getElem?_of_set_none hm)
  · simpa using h.started
  · have hfired := h.fired m hm
    obtain ⟨hlt, -⟩ := List.getElem?_eq_some_iff.mp hfired
    by_cases hnm : n = m
    · subst hnm
      exact List.getElem?_set_self hlt
    · rw [List.getElem?_set_ne hnm, hfired]

/-- A new offer to the clipboard. -/
theorem offer (h : Follows settings s es) {shown : String}
    (hshown : settings.copyable? = some shown) :
    Follows settings { s with tasks := s.tasks ++ [some (.writeClipboard shown)] } es := by
  refine ⟨h.latest, h.copied, fun n ticket hn => ?_, fun n text hn => ?_, fun n hn => ?_, h.nodup,
    fun n hn => ?_⟩
  · obtain hn | ⟨-, heq⟩ := Session.getElem?_concat_cases hn
    · exact h.waits n ticket hn
    · cases heq
  · obtain hn | ⟨-, heq⟩ := Session.getElem?_concat_cases hn
    · exact h.writes n text hn
    · cases heq
      exact hshown
  · have := h.started n hn
    simp only [List.length_append]
    omega
  · have hfired := h.fired n hn
    obtain ⟨hlt, -⟩ := List.getElem?_eq_some_iff.mp hfired
    rw [List.getElem?_append_left hlt, hfired]

/-- A success: its timer is the newest task. -/
theorem confirm (h : Follows settings s es) :
    Follows settings
      { state := s.state.confirm.2, tasks := s.tasks ++ [some (.wait s.state.confirm.1)] }
      (es ++ [.copied s.tasks.length]) := by
  have htimers : timers (es ++ [.copied s.tasks.length]) = timers es ++ [s.tasks.length] :=
    timers_append _ _
  have hfired : ∀ n, Ending.fired n ∈ es ++ [.copied s.tasks.length] → s.tasks[n]? = some none :=
    fun n hn => h.fired n (by simpa using hn)
  refine ⟨?_, ?_, fun n ticket hn => ?_, fun n text hn => ?_, fun n hn => ?_, ?_, fun n hn => ?_⟩
  · simp [htimers, CopyConfirmation.confirm, h.latest]
  · -- no task with this number existed, so none fired
    refine iff_of_true rfl ⟨s.tasks.length, by simp [htimers], fun hmem => ?_⟩
    simpa using hfired _ hmem
  · rw [htimers]
    obtain hn | ⟨rfl, heq⟩ := Session.getElem?_concat_cases hn
    · obtain ⟨i, hnumber, htimer⟩ := h.waits n ticket hn
      obtain ⟨hi, -⟩ := List.getElem?_eq_some_iff.mp htimer
      exact ⟨i, hnumber, by rw [List.getElem?_append_left hi, htimer]⟩
    · cases heq
      exact ⟨(timers es).length, by simp [CopyConfirmation.confirm, h.latest], by simp⟩
  · obtain hn | ⟨-, heq⟩ := Session.getElem?_concat_cases hn
    · exact h.writes n text hn
    · cases heq
  · rw [htimers, List.mem_append, List.mem_singleton] at hn
    simp only [List.length_append, List.length_singleton]
    rcases hn with hn | rfl
    · have := h.started n hn
      omega
    · omega
  · rw [htimers, List.nodup_append]
    refine ⟨h.nodup, by simp, fun n hn m hm => ?_⟩
    obtain rfl := List.mem_singleton.mp hm
    exact Nat.ne_of_lt (h.started n hn)
  · have hnone := hfired n hn
    obtain ⟨hlt, -⟩ := List.getElem?_eq_some_iff.mp hnone
    rw [List.getElem?_append_left hlt, hnone]

/-- A task that came to something else than a success. The copy is confirmed as before, unless
the task was the timer of the latest success. -/
theorem note (h : Follows settings s es) {e : Ending} (he : e.timer? = none)
    (hfired : ∀ n, e = .fired n → s.tasks[n]? = some none) (copied : Bool)
    (hcopied : copied = true ↔ s.state.copied = true ∧
      ∀ timer, (timers es).getLast? = some timer → e ≠ .fired timer) :
    Follows settings { s with state := { s.state with copied } } (es ++ [e]) := by
  have htimers : timers (es ++ [e]) = timers es := by simp [timers, he]
  refine ⟨?_, ?_, fun n ticket hn => ?_, h.writes, fun n hn => ?_, ?_, fun n hn => ?_⟩
  · rw [htimers, ← h.latest]
  · rw [htimers, hcopied, h.copied]
    constructor
    · rintro ⟨⟨timer, hlast, hnot⟩, hother⟩
      exact ⟨timer, hlast, by simp [hnot, (hother timer hlast).symm]⟩
    · rintro ⟨timer, hlast, hnot⟩
      simp only [List.mem_append, List.mem_singleton, not_or] at hnot
      refine ⟨⟨timer, hlast, hnot.1⟩, fun other hother => ?_⟩
      obtain rfl := Option.some.inj (hlast.symm.trans hother)
      exact Ne.symm hnot.2
  · rw [htimers]
    exact h.waits n ticket hn
  · exact h.started n (htimers ▸ hn)
  · exact htimers ▸ h.nodup
  · rcases List.mem_append.mp hn with hn | hn
    · exact h.fired n hn
    · exact hfired n (List.mem_singleton.mp hn).symm

/-- The timer of an earlier success fires. -/
theorem fire_earlier (h : Follows settings s es) {n : Nat} (hn : s.tasks[n]? = some none)
    (hearlier : (timers es).getLast? ≠ some n) : Follows settings s (es ++ [.fired n]) := by
  refine h.note rfl (fun m hm => Ending.fired.inj hm ▸ hn) s.state.copied ?_
  refine ⟨fun hcopied => ⟨hcopied, fun timer htimer hfired => hearlier ?_⟩, And.left⟩
  rw [htimer, Ending.fired.inj hfired]

/-- The timer of the latest success fires. -/
theorem fire_latest (h : Follows settings s es) {n : Nat} (hn : s.tasks[n]? = some none)
    (hlatest : (timers es).getLast? = some n) :
    Follows settings { s with state := { s.state with copied := false } } (es ++ [.fired n]) :=
  h.note rfl (fun _ hm => Ending.fired.inj hm ▸ hn) false <|
    iff_of_false Bool.false_ne_true fun hother => hother.2 n hlatest rfl

/-- Every step keeps a session and its endings together. -/
theorem step (h : Follows settings s es) (i : Input Unit) :
    Follows settings (step settings s i).2 (es ++ (ending? s i).toList) := by
  cases i with
  | message m =>
    -- a request ends no task
    have hes : es ++ (ending? s (.message m)).toList = es := List.append_nil es
    rw [hes]
    cases hshown : settings.copyable? with
    | none =>
      rw [step_copy_of_none settings hshown]
      exact h
    | some shown =>
      rw [step_copy settings hshown]
      exact h.offer hshown
  | run n around =>
    cases htask : (s.tasks[n]?).join with
    | none =>
      rw [step_run_of_none settings htask, ending?, htask]
      simpa using h
    | some task =>
      have hn : s.tasks[n]? = some (some task) := Option.join_eq_some_iff.mp htask
      have hout : (s.tasks.set n none)[n]? = some none :=
        List.getElem?_set_self (List.getElem?_eq_some_iff.mp hn).1
      rw [ending?, htask]
      cases task with
      | writeClipboard shown =>
        cases herror : around.clipboardError with
        | none =>
          rw [step_written settings hn herror]
          simpa using (h.crossOut n).confirm
        | some detail =>
          rw [step_refused settings hn herror]
          exact (h.crossOut n).note rfl (by simp) s.state.copied (by simp)
      | wait ticket =>
        -- the ticket tells whether it is the timer of the latest success
        by_cases hlatest : (timers es).getLast? = some n
        · rw [step_expired settings hn ((h.getLast?_eq_iff hn).mp hlatest)
            (h.copied_of_wait hn hlatest)]
          exact (h.crossOut n).fire_latest hout hlatest
        · rw [step_stale settings hn (mt (h.getLast?_eq_iff hn).mpr hlatest)]
          exact (h.crossOut n).fire_earlier hout hlatest

/-- Only the text on display is offered to the clipboard. -/
theorem copyable?_of_offered (h : Follows settings s es) {i : Input Unit} {report : Report}
    {offered : String} (hreport : (ResultArea.step settings s i).1 = some report)
    (hoffered : .clipboard offered ∈ report.events) : settings.copyable? = some offered := by
  rcases Session.mem_events_step hreport hoffered with
    ⟨n, task, around, -, hn, hmem⟩ | ⟨c, m, hmem⟩ | ⟨c, hmem⟩
  · cases task with
    | writeClipboard shown =>
      obtain rfl : offered = shown := by simpa [screen, perform] using hmem
      exact h.writes n offered hn
    | wait ticket => simp [screen, perform] at hmem
  · cases m <;> simp [screen, update] at hmem
  · cases hmem

end Follows

theorem follows_session (settings : Settings) (inputs : List (Input Unit)) :
    Follows settings (session settings inputs) (endings settings inputs) :=
  Session.record_induction (follows_start settings) (fun _ _ i h => h.step i) inputs

/-! ### Whole sessions -/

theorem copyable?_eq_some_iff {settings : Settings} {shown : String} :
    settings.copyable? = some shown ↔ settings.outcome = some (.display shown) := by
  obtain ⟨outcome, visible⟩ := settings
  rcases outcome with _ | outcome
  · simp [Settings.copyable?]
  · cases outcome <;> simp [Settings.copyable?, Outcome.copyable?]

theorem copyable?_eq_none_iff {settings : Settings} :
    settings.copyable? = none ↔ ∀ shown, settings.outcome ≠ some (.display shown) := by
  simp only [Option.eq_none_iff_forall_ne_some, ne_eq, copyable?_eq_some_iff]

/-- Without a text to copy nothing is ever started. -/
theorem session_of_not_copyable {settings : Settings} (h : settings.copyable? = none)
    (inputs : List (Input Unit)) : (session settings inputs).tasks = [] := by
  refine Session.after_induction (P := fun s => s.tasks = []) rfl (fun s i hs => ?_) inputs
  change (step settings s i).2.tasks = []
  cases i with
  | message m => rw [step_copy_of_none settings h, hs]
  | run n around => rw [step_run_of_none settings (by simp [hs]), hs]

theorem length_tasks_step {settings : Settings} {shown : String}
    (h : settings.copyable? = some shown) (s : Session CopyConfirmation Task) (i : Input Unit) :
    (step settings s i).2.tasks.length =
      s.tasks.length + (requests [i] + (timers (ending? s i).toList).length) := by
  cases i with
  | message m => simp [step_copy settings h, requests, ending?, timers]
  | run n around =>
    have hrequests : requests [.run n around] = 0 := rfl
    cases htask : (s.tasks[n]?).join with
    | none => simp [step_run_of_none settings htask, hrequests, ending?, htask, timers]
    | some task =>
      have hn : s.tasks[n]? = some (some task) := Option.join_eq_some_iff.mp htask
      rw [hrequests, Nat.zero_add, ending?, htask]
      cases task with
      | writeClipboard text =>
        cases herror : around.clipboardError with
        | none => simp [step_written settings hn herror, timers, Ending.timer?]
        | some detail => simp [step_refused settings hn herror, timers, Ending.timer?]
      | wait ticket =>
        -- whether it still counts or not, a timer starts nothing
        rw [step, Input.map, Session.step_run_of_some hn rfl]
        simp [Session.tasks_deliverAfter, screen, perform, update, timers, Ending.timer?]

/-- Requests and successes start one task each. -/
theorem length_tasks {settings : Settings} {shown : String} (h : settings.copyable? = some shown)
    (inputs : List (Input Unit)) :
    (session settings inputs).tasks.length =
      requests inputs + (timers (endings settings inputs)).length := by
  induction inputs using List.reverseRecOn with
  | nil => rfl
  | append_singleton inputs i ih =>
    have hrequests : requests (inputs ++ [i]) = requests inputs + requests [i] :=
      List.countP_append
    rw [session_concat, length_tasks_step h, ih, endings_concat, timers_append, List.length_append,
      hrequests]
    omega

theorem state_update_of_unchanged {settings : Settings} {c : CopyConfirmation} {m : Message}
    (h : (update settings c m).changed = false) : (update settings c m).state = c := by
  cases m with
  | copy | copyFailed => rfl
  | copied => cases h
  | timerFired ticket =>
    simp only [update, CopyConfirmation.expire] at h ⊢
    split at h
    · cases h
    · rw [if_neg (by assumption)]

/-- The display of the area is never stale. -/
theorem displayed_eq_view (settings : Settings) (inputs : List (Input Unit)) :
    displayed settings inputs = view settings (session settings inputs).state := by
  refine Session.display_eq_view (fun _ => rfl) (fun c m h => ?_) _
  exact congrArg (view settings) (state_update_of_unchanged h)

/-- The label on display tells whether a copy is being confirmed. -/
theorem copyText?_displayed (settings : Settings) (inputs : List (Input Unit)) :
    copyText? (displayed settings inputs) =
      some (if (session settings inputs).state.copied then " Copied!" else " Copy") := by
  rw [displayed_eq_view, copyText?_view]

/-- A step that leaves the state alone leaves the label alone. -/
theorem copyText?_displayed_concat {settings : Settings} {inputs : List (Input Unit)}
    {i : Input Unit}
    (h : (step settings (session settings inputs) i).2.state = (session settings inputs).state) :
    copyText? (displayed settings (inputs ++ [i])) = copyText? (displayed settings inputs) := by
  rw [copyText?_displayed, copyText?_displayed, session_concat, h]

/-- Copying in every session. Unless a text is displayed, nothing is ever started, no step does
anything and none reports a change. With a text on display every request and every success
starts one task, and only that text is offered to the clipboard. A copy that succeeds is
reported and starts its timer; a copy that is refused is logged, alerted, and leaves the label.
The label confirms a copy exactly if there was a success and the timer of the latest success
has not fired; the timer of an earlier success reports no change and leaves the label. -/
theorem copy_confirmation_of_session (settings : Settings) (inputs : List (Input Unit)) :
    let s := session settings inputs
    let es := endings settings inputs
    let label := copyText? (displayed settings inputs)
    ((∀ shown, settings.outcome ≠ some (.display shown)) →
      (Session.start (screen settings)).1.events = [] ∧ s.tasks = [] ∧ ∀ i, (step settings s i).2 = s ∧
        ∀ report, (step settings s i).1 = some report →
          report.changed = false ∧ report.events = []) ∧
    (∀ shown, settings.outcome = some (.display shown) →
      -- tasks, and what they offer to the clipboard
      s.tasks.length = requests inputs + (timers es).length ∧
      (∀ i report, (step settings s i).1 = some report →
        ∀ offered, .clipboard offered ∈ report.events → offered = shown) ∧
      -- copies that succeed, and copies that are refused
      (∀ n around, s.tasks[n]? = some (some (.writeClipboard shown)) →
        around.clipboardError = none → ∃ report s' ticket,
          step settings s (.run n around) = (some report, s') ∧
          report.changed = true ∧ report.events = [.clipboard shown] ∧
          s'.tasks = s.tasks.set n none ++ [some (.wait ticket)]) ∧
      (∀ n around detail, s.tasks[n]? = some (some (.writeClipboard shown)) →
        around.clipboardError = some detail → ∃ report s',
          step settings s (.run n around) = (some report, s') ∧
          report.changed = false ∧
          report.events = [.clipboard shown, .error ["Failed to copy:", detail],
            .alert "Failed to copy text."] ∧
          s'.state = s.state ∧ s'.tasks = s.tasks.set n none ∧
          copyText? (displayed settings (inputs ++ [.run n around])) = label) ∧
      -- the label
      (label = some " Copied!" ∨ label = some " Copy") ∧
      (label = some " Copied!" ↔
        ∃ timer, (timers es).getLast? = some timer ∧ Ending.fired timer ∉ es) ∧
      (∀ n ticket around, s.tasks[n]? = some (some (.wait ticket)) →
        (timers es).getLast? ≠ some n → ∃ report s',
          step settings s (.run n around) = (some report, s') ∧
          report.changed = false ∧ s'.state = s.state ∧
          copyText? (displayed settings (inputs ++ [.run n around])) = label)) := by
  intro s es label
  have h : Follows settings s es := follows_session settings inputs
  refine ⟨fun hnone => ?_, fun shown hshown => ?_⟩
  · have hcopyable := copyable?_eq_none_iff.mpr hnone
    have htasks : s.tasks = [] := session_of_not_copyable hcopyable inputs
    refine ⟨rfl, htasks, fun i => ?_⟩
    cases i with
    | message m =>
      rw [step_copy_of_none settings hcopyable]
      refine ⟨rfl, fun report hreport => ?_⟩
      obtain rfl := Option.some.inj hreport
      exact ⟨rfl, rfl⟩
    | run n around =>
      rw [step_run_of_none settings (by simp [htasks])]
      exact ⟨rfl, fun report hreport => nomatch hreport⟩
  · have hcopyable := copyable?_eq_some_iff.mpr hshown
    have hlabel : label = some (if s.state.copied then " Copied!" else " Copy") :=
      copyText?_displayed settings inputs
    refine ⟨length_tasks hcopyable inputs, fun i report hreport offered hoffered => ?_,
      fun n around hn herror => ?_, fun n around detail hn herror => ?_, ?_, ?_,
      fun n ticket around hn hearlier => ?_⟩
    · exact Option.some.inj ((h.copyable?_of_offered hreport hoffered).symm.trans hcopyable)
    · exact ⟨_, _, _, step_written settings hn herror, rfl, rfl, rfl⟩
    · have hstep := step_refused settings hn herror
      exact ⟨_, _, hstep, rfl, rfl, rfl, rfl, copyText?_displayed_concat (by rw [hstep])⟩
    · rw [hlabel]
      cases s.state.copied with
      | true => exact Or.inl rfl
      | false => exact Or.inr rfl
    · rw [← h.copied, hlabel]
      cases s.state.copied <;> decide
    · have hstep := step_stale settings hn (mt (h.getLast?_eq_iff hn).mpr hearlier) around
      exact ⟨_, _, hstep, rfl, rfl, copyText?_displayed_concat (by rw [hstep])⟩

end ConversionDesk.ResultArea
