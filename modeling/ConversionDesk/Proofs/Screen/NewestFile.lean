import ConversionDesk.Proofs.Column.NewestRequest
import ConversionDesk.Proofs.Column.Toggling
import ConversionDesk.Proofs.Screen.Session
import ConversionDesk.Screen.ColumnChooser

/-!
# The file chosen last decides

A column selector starts one task for every file that is chosen. Nothing orders the tasks:
they run late, out of turn or not at all, and each ends in its own way. The view must not
depend on any of that, except on how the task of the file chosen last ended.

A session is followed by a loader that is driven by commands: a run of a task is the answer
to the request of the same number, and a task that was run before is no command at all. So
what is known of loaders, that only the newest request and the changes after its answer
matter, carries over to the selector.

## Main definitions

* `ColumnChooser.session`, `ColumnChooser.displayed` — the selector after a history, and what
  is on display
* `ColumnChooser.found` — what a task finds
* `ColumnChooser.Waits`, `ColumnChooser.Answered` — how a history treats the file chosen last
* `ColumnChooser.commands` — a history as commands to a loader

## Main results

* `ColumnChooser.follows_session` — the loader follows every session
* `ColumnChooser.waits_or_answered` — the file chosen last is waited for, or was answered
* `ColumnChooser.view_of_newest_file` — the view, the late answers and the alerts of every
  session
-/

namespace ConversionDesk.ColumnChooser

open Session (Input)
open Column (Loader Panel Selection discover)

/-! ### Sessions -/

/-- What the user does. -/
inductive Gesture where
  | chooseFile
  | clearFile
  | set (index : Nat) (checked : Bool)
  | toggle
deriving DecidableEq, Repr

def Gesture.message : Gesture → Message
  | chooseFile => .fileChosen
  | clearFile => .fileCleared
  | set index checked => .set index checked
  | toggle => .toggle

/-- The selector after a history of gestures and runs of tasks. -/
def session (settings : Settings) (inputs : List (Input Gesture)) : Session Loader Task :=
  Session.after (screen settings) (inputs.map (Input.map Gesture.message))

/-- What is on display after a history. -/
def displayed (settings : Settings) (inputs : List (Input Gesture)) : Markup :=
  Session.display (screen settings) (inputs.map (Input.map Gesture.message))

/-- A step of the selector. -/
def step (settings : Settings) (s : Session Loader Task) (i : Input Gesture) :
    Option Report × Session Loader Task :=
  s.step (screen settings) (i.map Gesture.message)

/-- The text that stands in the column container in place of controls. -/
def placeholder? : Markup → Option String
  | .fragment [_, .element _ _ [_, .element _ _ [.element "p" _ [.text shown]]]] => some shown
  | _ => none

/-- What a task finds: a payload that cannot be built is as bad as no reply. -/
def found (around : Surroundings) : Except Failure (List String) :=
  match around.payloadError with
  | some detail => .error (.noReply detail)
  | none => discover around.reply

/-- What a task does to the world: it posts the file, if the payload can be built. -/
def posts (around : Surroundings) : List Event :=
  if around.payloadError.isNone then [.post discoveryEndpoint] else []

/-- What is logged of a result. -/
def failureLog : Except Failure (List String) → List Event
  | .ok _ => []
  | .error failure => [.error ["Error fetching headers:", failure.logEntry Column.wording]]

theorem perform_discover (ticket : Ticket) (around : Surroundings) :
    perform (.discover ticket) around = (posts around, .listed ticket (found around)) := by
  cases h : around.payloadError <;> simp [perform, posts, found, h]

/-! ### Histories -/

/-- How many files a history chooses. -/
def choices (inputs : List (Input Gesture)) : Nat :=
  inputs.countP fun
    | .message .chooseFile => true
    | _ => false

def change? : Input Gesture → Option Selection.Change
  | .message (.set index checked) => some (.set index checked)
  | .message .toggle => some .toggle
  | _ => none

/-- The changes to the controls that a history asks for, in order. -/
def changes (inputs : List (Input Gesture)) : List Selection.Change := inputs.filterMap change?

theorem choices_append (first second : List (Input Gesture)) :
    choices (first ++ second) = choices first + choices second :=
  List.countP_append

theorem changes_append (first second : List (Input Gesture)) :
    changes (first ++ second) = changes first ++ changes second :=
  List.filterMap_append

/-- The task of the file chosen last was not run since. -/
def Waits (inputs : List (Input Gesture)) : Prop :=
  ∃ before after, inputs = before ++ .message .chooseFile :: after ∧ choices after = 0 ∧
    ∀ around, .run (choices before) around ∉ after

/-- The task of the file chosen last was run, with the given result and the given changes
since. -/
def Answered (inputs : List (Input Gesture)) (result : Except Failure (List String))
    (since : List Selection.Change) : Prop :=
  ∃ before early around late,
    inputs = before ++ .message .chooseFile ::
      (early ++ .run (choices before) around :: late) ∧
    choices early = 0 ∧ choices late = 0 ∧ (∀ other, .run (choices before) other ∉ early) ∧
    found around = result ∧ changes late = since

/-! ### A session as commands to a loader -/

/-- What an input is to a loader. A run is the answer to the request of that number, unless
the task cannot be run. -/
def command? (settings : Settings) (s : Session Loader Task) :
    Input Gesture → Option Loader.Command
  | .message .chooseFile => some .start
  | .message .clearFile => none
  | .message (.set index checked) => some (.set index checked)
  | .message .toggle => some .toggle
  | .run n around =>
    (s.tasks[n]?).join.map fun _ => .finish n settings.container settings.kind (found around)

/-- What a history is to a loader. -/
def commands (settings : Settings) (s : Session Loader Task) (inputs : List (Input Gesture)) :
    List Loader.Command :=
  Session.record (screen settings) Gesture.message (command? settings) s inputs

/-- The loader that follows a session has its state, and has issued the tickets that the
outstanding tasks carry. -/
structure Follows (s : Session Loader Task) (r : Loader.Run) : Prop where
  state : s.state = r.loader
  length : s.tasks.length = r.tickets.length
  tickets : ∀ (n : Nat) (ticket : Ticket), s.tasks[n]? = some (some (.discover ticket)) →
    r.tickets[n]? = some ticket

theorem follows_start (settings : Settings) : Follows (Session.start (screen settings)).2 {} where
  state := rfl
  length := rfl
  tickets := by simp [Session.start]

section Steps

variable (settings : Settings) {s : Session Loader Task}

theorem step_chooseFile :
    (step settings s (.message .chooseFile)).2 =
      { state := s.state.start.2, tasks := s.tasks ++ [some (.discover s.state.start.1)] } := rfl

theorem step_clearFile : (step settings s (.message .clearFile)).2 = s := by
  rw [step, Input.map, Session.step_message]
  exact congrArg Prod.snd (Session.deliverAfter_of_idle rfl [])

/-- A change to the controls reaches the loader and starts nothing. -/
theorem step_set (index : Nat) (checked : Bool) :
    (step settings s (.message (.set index checked))).2 =
      { s with state := (s.state.set index checked).2 } := by
  rw [step, Input.map, Session.step_message, Session.deliverAfter_snd fun _ => rfl]
  exact congrArg (Session.mk _) (List.append_nil _)

theorem step_toggle :
    (step settings s (.message .toggle)).2 = { s with state := s.state.toggle.2 } := by
  rw [step, Input.map, Session.step_message, Session.deliverAfter_snd fun _ => rfl]
  exact congrArg (Session.mk _) (List.append_nil _)

/-- A run ends the request of the task's ticket. -/
theorem step_run {n : Nat} {ticket : Ticket} (hn : s.tasks[n]? = some (some (.discover ticket)))
    (around : Surroundings) :
    (step settings s (.run n around)).2 =
      { state := (s.state.finish ticket settings.container settings.kind (found around)).2
        tasks := s.tasks.set n none } := by
  rw [step, Input.map, Session.step_run_of_some hn (perform_discover ticket around),
    Session.deliverAfter_snd fun _ => rfl]
  exact congrArg (Session.mk _) (List.append_nil _)

theorem step_run_of_none {n : Nat} (hn : (s.tasks[n]?).join = none) (around : Surroundings) :
    step settings s (.run n around) = (none, s) :=
  Session.step_run_of_none hn around

end Steps

namespace Follows

variable {s : Session Loader Task} {r : Loader.Run}

/-- Every step of a session is a command to the loader that follows it, or nothing. -/
theorem step (h : Follows s r) (settings : Settings) (i : Input Gesture) :
    Follows (step settings s i).2 (r.run (command? settings s i).toList) := by
  cases i with
  | message gesture =>
    cases gesture with
    | chooseFile =>
      rw [step_chooseFile]
      refine ⟨?_, ?_, fun n ticket hn => ?_⟩
      · exact congrArg (·.start.2) h.state
      · change (s.tasks ++ [_]).length = (r.tickets ++ [_]).length
        simp [h.length]
      · change (r.tickets ++ [r.loader.start.1])[n]? = some ticket
        obtain hn | ⟨rfl, heq⟩ := Session.getElem?_concat_cases hn
        · have hlt : n < r.tickets.length := h.length ▸ (List.getElem?_eq_some_iff.mp hn).1
          rw [List.getElem?_append_left hlt, h.tickets n ticket hn]
        · cases heq
          rw [h.length, List.getElem?_concat_length, h.state]
    | clearFile =>
      rw [step_clearFile]
      exact h
    | set index checked =>
      rw [step_set]
      exact ⟨congrArg (fun p => (Loader.set p index checked).2) h.state, h.length, h.tickets⟩
    | toggle =>
      rw [step_toggle]
      exact ⟨congrArg (fun p => (Loader.toggle p).2) h.state, h.length, h.tickets⟩
  | run n around =>
    cases htask : (s.tasks[n]?).join with
    | none =>
      rw [step_run_of_none settings htask, command?, htask]
      exact h
    | some task =>
      obtain ⟨ticket⟩ := task
      have hn : s.tasks[n]? = some (some (.discover ticket)) := Option.join_eq_some_iff.mp htask
      have hrun : r.run (command? settings s (.run n around)).toList =
          { r with loader :=
              (r.loader.finish ticket settings.container settings.kind (found around)).2 } := by
        simp [command?, htask, Loader.Run.run, Loader.Run.step, h.tickets n ticket hn]
      rw [step_run settings hn, hrun]
      refine ⟨by rw [h.state], by simpa using h.length, fun m other hm => ?_⟩
      exact h.tickets m other (Session.getElem?_of_set_none hm)

end Follows

/-- The loader follows every session. -/
theorem follows_session (settings : Settings) (inputs : List (Input Gesture)) :
    Follows (session settings inputs)
      (Loader.Run.run {} (commands settings (Session.start (screen settings)).2 inputs)) := by
  refine Session.record_induction (P := fun s noted => Follows s (Loader.Run.run {} noted))
    (follows_start settings) (fun s noted i h => ?_) inputs
  rw [Loader.Run.run_append]
  exact h.step settings i

/-! ### The commands of a history -/

section Commands

variable (settings : Settings)

theorem commands_cons (s : Session Loader Task) (i : Input Gesture)
    (inputs : List (Input Gesture)) :
    commands settings s (i :: inputs) =
      (command? settings s i).toList ++ commands settings (step settings s i).2 inputs := rfl

theorem starts_commands (s : Session Loader Task) (inputs : List (Input Gesture)) :
    Loader.starts (commands settings s inputs) = choices inputs := by
  induction inputs generalizing s with
  | nil => rfl
  | cons i inputs ih =>
    have hhead : Loader.starts (command? settings s i).toList = choices [i] := by
      cases i with
      | message gesture => cases gesture <;> rfl
      | run n around => cases htask : (s.tasks[n]?).join <;> simp [command?, htask] <;> rfl
    rw [commands_cons, Loader.starts_append, ih, hhead, ← choices_append, List.singleton_append]

theorem filterMap_change?_commands (s : Session Loader Task) (inputs : List (Input Gesture)) :
    (commands settings s inputs).filterMap Loader.Command.change? = changes inputs := by
  induction inputs generalizing s with
  | nil => rfl
  | cons i inputs ih =>
    have hhead : (command? settings s i).toList.filterMap Loader.Command.change? =
        changes [i] := by
      cases i with
      | message gesture => cases gesture <;> rfl
      | run n around => cases htask : (s.tasks[n]?).join <;> simp [command?, htask] <;> rfl
    rw [commands_cons, List.filterMap_append, ih, hhead, ← changes_append, List.singleton_append]

/-- A task that was run before answers no more, and neither does a task that is not run. -/
theorem answers_commands {s : Session Loader Task} {n : Nat} {inputs : List (Input Gesture)}
    (h : s.tasks[n]? = some none ∨ ∀ around, .run n around ∉ inputs) :
    ∀ c ∈ commands settings s inputs, c.answers n = false := by
  induction inputs generalizing s with
  | nil => exact fun c hc => nomatch hc
  | cons i inputs ih =>
    intro c hc
    rw [commands_cons, List.mem_append] at hc
    rcases hc with hc | hc
    · cases i with
      | message gesture =>
        cases gesture with
        | clearFile => cases hc
        | chooseFile | set | toggle =>
          obtain rfl := List.mem_singleton.mp hc
          rfl
      | run m around =>
        obtain ⟨task, htask, rfl⟩ : ∃ task, (s.tasks[m]?).join = some task ∧
            .finish m settings.container settings.kind (found around) = c := by
          simpa [command?] using hc
        refine beq_false_of_ne ?_
        rintro rfl
        rcases h with h | h
        · simp [h] at htask
        · exact h around List.mem_cons_self
    · -- an entry that is crossed out stays so
      refine ih (h.imp (fun hnone => ?_) fun hnot around hmem => ?_) c hc
      · exact Session.getElem?_tasks_step hnone (Or.inl rfl)
      · exact hnot around (List.mem_cons_of_mem _ hmem)

end Commands

/-! ### What is on display -/

theorem state_update_of_unchanged {settings : Settings} {p : Loader} {m : Message}
    (h : (update settings p m).changed = false) : (update settings p m).state = p := by
  cases m with
  | fileChosen => cases h
  | fileCleared => rfl
  -- the flag of the report is the loader's own answer
  | listed ticket result => exact Loader.finish_of_refused h
  | set index checked =>
    obtain ⟨panel, requests⟩ := p
    cases panel with
    | ready s => cases h
    | idle | loading | noColumns | failed => rfl
  | toggle =>
    obtain ⟨panel, requests⟩ := p
    cases panel with
    | ready s =>
      -- there are controls, but not of a kind that is toggled
      have hkind : s.canToggle = false := (Selection.fst_toggle s).symm.trans h
      exact congrArg (Loader.mk · requests) (congrArg Panel.ready
        (Selection.toggle_of_not_canToggle hkind))
    | idle | loading | noColumns | failed => rfl

/-- The display of a selector is never stale, and it shows the panel alone. -/
theorem displayed_eq_view (settings : Settings) (inputs : List (Input Gesture)) :
    displayed settings inputs = view settings { panel := (session settings inputs).state.panel } := by
  refine Session.display_eq_view (fun _ => rfl) (fun p m h => ?_) _
  exact congrArg (view settings) (state_update_of_unchanged h)

theorem placeholder?_view_loading (settings : Settings) :
    placeholder? (view settings { panel := .loading }) = some Panel.loadingText := rfl

/-! ### The file chosen last -/

section NewestFile

variable (settings : Settings) {inputs : List (Input Gesture)}

/-- The tickets of the loader that follows a session count the files chosen. -/
theorem counts_session (inputs : List (Input Gesture)) :
    Loader.Run.Counts
      (Loader.Run.run {} (commands settings (Session.start (screen settings)).2 inputs))
      (choices inputs) := by
  have h := Loader.Run.counts_initial.run
    (commands settings (Session.start (screen settings)).2 inputs)
  rwa [starts_commands, Nat.zero_add] at h

theorem length_tasks (inputs : List (Input Gesture)) :
    (session settings inputs).tasks.length = choices inputs := by
  -- one task and one ticket for each file
  rw [(follows_session settings inputs).length, (counts_session settings inputs).tickets]
  simp

/-- An outstanding task carries the ticket of its own number. -/
theorem number_of_outstanding {n : Nat} {ticket : Ticket}
    (h : (session settings inputs).tasks[n]? = some (some (.discover ticket))) :
    ticket.number = n + 1 := by
  have hn : n < choices inputs :=
    length_tasks settings inputs ▸ (List.getElem?_eq_some_iff.mp h).1
  have hticket := (follows_session settings inputs).tickets n ticket h
  rw [(counts_session settings inputs).getElem?_tickets hn] at hticket
  rw [← Option.some.inj hticket]

/-- A file that is chosen after a history gets the next task. -/
theorem getElem?_tasks_chooseFile (before : List (Input Gesture)) :
    (step settings (session settings before) (.message .chooseFile)).2.tasks[choices before]? =
      some (some (.discover (session settings before).state.start.1)) := by
  rw [step_chooseFile, ← length_tasks settings before, List.getElem?_concat_length]

theorem commands_chooseFile (before after : List (Input Gesture)) :
    commands settings (Session.start (screen settings)).2 (before ++ .message .chooseFile :: after) =
      commands settings (Session.start (screen settings)).2 before ++ .start ::
        commands settings (step settings (session settings before) (.message .chooseFile)).2
          after :=
  Session.record_append _ _ _ _ before _

/-- Until the task of the file chosen last is run, its columns are being asked for. -/
theorem panel_of_waits (h : Waits inputs) : (session settings inputs).state.panel = .loading := by
  obtain ⟨before, after, rfl, hafter, hnot⟩ := h
  rw [(follows_session settings _).state, commands_chooseFile, Loader.Run.run_append]
  exact (counts_session settings before).panel_run_start
    ((starts_commands settings _ after).trans hafter) (answers_commands settings (Or.inr hnot))

/-- Once it was run, its own result decides, with the changes since. -/
theorem panel_of_answered {result : Except Failure (List String)} {since : List Selection.Change}
    (h : Answered inputs result since) :
    (session settings inputs).state.panel =
      (Panel.ofDiscovery settings.container settings.kind result).changeAll since := by
  obtain ⟨before, early, around, late, rfl, hearly, hlate, hnot, rfl, rfl⟩ := h
  let s := (step settings (session settings before) (.message .chooseFile)).2
  let met := (s.run (screen settings) (early.map (Input.map Gesture.message))).2
  -- the task is outstanding when the run meets it, and crossed out afterwards
  have hmet : met.tasks[choices before]? =
      some (some (.discover (session settings before).state.start.1)) :=
    Session.getElem?_tasks_run (getElem?_tasks_chooseFile settings before) (Or.inr hnot)
  have hout : (step settings met (.run (choices before) around)).2.tasks[choices before]? =
      some none :=
    Session.getElem?_tasks_run_self hmet around
  have hcommands : commands settings s (early ++ .run (choices before) around :: late) =
      commands settings s early ++
        .finish (choices before) settings.container settings.kind (found around) ::
          commands settings (step settings met (.run (choices before) around)).2 late := by
    have hrun : command? settings met (.run (choices before) around) =
        some (.finish (choices before) settings.container settings.kind (found around)) := by
      simp [command?, hmet]
    rw [commands, Session.record_append, Session.record, hrun]
    rfl
  rw [(follows_session settings _).state, commands_chooseFile, Loader.Run.run_append, hcommands,
    (counts_session settings before).panel_run_finish ((starts_commands settings _ early).trans hearly)
      ((starts_commands settings _ late).trans hlate) (answers_commands settings (Or.inl hout)),
    filterMap_change?_commands]

/-- The result for an earlier file is logged and dropped. -/
theorem step_superseded {s : Session Loader Task} {n : Nat} {ticket : Ticket}
    (hn : s.tasks[n]? = some (some (.discover ticket)))
    (hstale : ticket.number ≠ s.state.requests.latest) (around : Surroundings) :
    step settings s (.run n around) =
      (some {
        changed := false
        events := posts around ++ (failureLog (found around) ++
          [.log ["Discarding superseded header response for", settings.container]])
        started := s.tasks.length
        view := none },
       { s with tasks := s.tasks.set n none }) := by
  have hcurrent : s.state.requests.isCurrent ticket = false := by
    rw [← Bool.not_eq_true, Counter.isCurrent_iff]
    exact hstale
  have hupdate : update settings s.state (.listed ticket (found around)) =
      { state := s.state, changed := false
        events := failureLog (found around) ++
          [.log ["Discarding superseded header response for", settings.container]] } := by
    cases found around <;> simp [update, Loader.finish, hcurrent, failureLog]
  rw [step, Input.map, Session.step_run_of_some hn (perform_discover ticket around),
    Session.deliverAfter_of_unchanged hupdate rfl]
  simp

end NewestFile

/-- A selector alerts nobody. -/
theorem alert_notMem_events {settings : Settings} {s : Session Loader Task} {i : Input Gesture}
    {report : Report} (h : (step settings s i).1 = some report) (notice : String) :
    .alert notice ∉ report.events := by
  intro hmem
  rcases Session.mem_events_step h hmem with ⟨n, task, around, -, -, he⟩ | ⟨p, m, he⟩ | ⟨p, he⟩
  · obtain ⟨ticket⟩ := task
    change .alert notice ∈ (perform (.discover ticket) around).1 at he
    rw [perform_discover, posts] at he
    split at he <;> simp at he
  · cases m with
    | fileChosen | fileCleared | set | toggle => simp [screen, update] at he
    | listed ticket result =>
      simp only [screen, update, List.mem_append] at he
      rcases he with he | he
      · cases result <;> simp at he
      · split at he <;> simp at he
  · cases he

/-! ### Every history with a file -/

/-- The last file of a history. -/
theorem exists_chooseFile {inputs : List (Input Gesture)} (h : choices inputs ≠ 0) :
    ∃ before after, inputs = before ++ .message .chooseFile :: after ∧ choices after = 0 := by
  induction inputs with
  | nil => exact absurd rfl h
  | cons i inputs ih =>
    -- the last file is this one only if none is chosen later
    by_cases hlater : choices inputs = 0
    · rw [← List.singleton_append, choices_append, hlater, Nat.add_zero] at h
      cases i with
      | message gesture =>
        cases gesture with
        | chooseFile => exact ⟨[], inputs, rfl, hlater⟩
        | clearFile | set | toggle => exact absurd rfl h
      | run n around => exact absurd rfl h
    · obtain ⟨before, after, rfl, hafter⟩ := ih hlater
      exact ⟨i :: before, after, rfl, hafter⟩

/-- The first run of a task. -/
theorem exists_first_run {n : Nat} {inputs : List (Input Gesture)} {around : Surroundings}
    (h : .run n around ∈ inputs) :
    ∃ early around late, inputs = early ++ .run n around :: late ∧
      ∀ other, .run n other ∉ early := by
  induction inputs with
  | nil => cases h
  | cons i inputs ih =>
    by_cases hi : ∃ around, i = .run n around
    · obtain ⟨around, rfl⟩ := hi
      exact ⟨[], around, inputs, rfl, fun other hmem => nomatch hmem⟩
    · have hlater : .run n around ∈ inputs :=
        (List.mem_cons.mp h).resolve_left fun heq => hi ⟨around, heq.symm⟩
      obtain ⟨early, around, late, rfl, hnot⟩ := ih hlater
      refine ⟨i :: early, around, late, rfl, fun other hmem => ?_⟩
      rcases List.mem_cons.mp hmem with heq | hmem
      · exact hi ⟨other, heq.symm⟩
      · exact hnot other hmem

/-- The file chosen last is waited for, or was answered. -/
theorem waits_or_answered {inputs : List (Input Gesture)} (h : choices inputs ≠ 0) :
    Waits inputs ∨ ∃ result since, Answered inputs result since := by
  obtain ⟨before, after, rfl, hafter⟩ := exists_chooseFile h
  by_cases hrun : ∃ around, .run (choices before) around ∈ after
  · obtain ⟨around, hmem⟩ := hrun
    obtain ⟨early, around, late, rfl, hnot⟩ := exists_first_run hmem
    rw [choices_append, ← List.singleton_append, choices_append] at hafter
    exact Or.inr ⟨_, _, before, early, around, late, rfl, by omega, by omega, hnot, rfl, rfl⟩
  · exact Or.inl ⟨before, after, rfl, hafter, fun around hmem => hrun ⟨around, hmem⟩⟩

/-- The file chosen last decides in every session. Every file that is chosen starts one task, and
the task of the file chosen last was run or is waited for. While it is waited for, the view
shows the text for that. Once it was run, the view is that of its own result with the
changes to the controls since; so two sessions that agree on these look the same, whatever else
happened in them. Running the task of an earlier file reports no change, keeps the state, and
logs that the result is dropped, after the failure if it is one. Nobody is ever alerted. -/
theorem view_of_newest_file (settings : Settings) (inputs : List (Input Gesture)) :
    let s := session settings inputs
    s.tasks.length = choices inputs ∧
    (choices inputs ≠ 0 → Waits inputs ∨ ∃ result since, Answered inputs result since) ∧
    -- the view
    (Waits inputs →
      displayed settings inputs = view settings { panel := .loading } ∧
      placeholder? (displayed settings inputs) = some "Loading columns...") ∧
    (∀ result since, Answered inputs result since →
      displayed settings inputs = view settings { panel :=
        (Panel.ofDiscovery settings.container settings.kind result).changeAll since }) ∧
    (∀ result since other, Answered inputs result since → Answered other result since →
      displayed settings inputs = displayed settings other) ∧
    -- results that come too late
    (∀ n task around, s.tasks[n]? = some (some task) → n + 1 < choices inputs → ∃ report s',
      step settings s (.run n around) = (some report, s') ∧
      report.changed = false ∧ s'.state = s.state ∧
      report.events =
        (if around.payloadError.isNone then [.post "/api/get-headers"] else []) ++
        (match found around with
          | .ok _ => []
          | .error failure =>
            [.error ["Error fetching headers:", failure.logEntry Column.wording]]) ++
        [.log ["Discarding superseded header response for", settings.container]]) ∧
    -- alerts
    (Session.start (screen settings)).1.events = [] ∧
    (∀ i report, (step settings s i).1 = some report → ∀ notice, .alert notice ∉ report.events) := by
  intro s
  have hanswered : ∀ inputs result since, Answered inputs result since →
      displayed settings inputs = view settings { panel :=
        (Panel.ofDiscovery settings.container settings.kind result).changeAll since } := by
    intro inputs result since h
    rw [displayed_eq_view, panel_of_answered settings h]
  refine ⟨length_tasks settings inputs, waits_or_answered, fun h => ?_, hanswered inputs,
    fun result since other h hother => ?_, fun n task around hn hlate => ?_, rfl,
    fun i report h => alert_notMem_events h⟩
  · rw [displayed_eq_view, panel_of_waits settings h]
    exact ⟨rfl, placeholder?_view_loading settings⟩
  · rw [hanswered inputs result since h, hanswered other result since hother]
  · obtain ⟨ticket⟩ := task
    -- the task has the ticket of its own number, and the counter is further on
    have hstale : ticket.number ≠ s.state.requests.latest := by
      rw [number_of_outstanding settings hn, (follows_session settings inputs).state,
        (counts_session settings inputs).latest]
      exact Nat.ne_of_lt hlate
    refine ⟨_, _, step_superseded settings hn hstale around, rfl, rfl, ?_⟩
    rw [List.append_assoc]
    cases found around <;> rfl

end ConversionDesk.ColumnChooser
