import ConversionDesk.Screen.Basic
import Mathlib.Data.List.Induction

/-!
# Histories of a session

A session is driven by messages from outside and by the runs of its tasks; the messages
that tasks end with come from the session itself. Here a history lists the inputs of a
session, and what is on display after it is the view that was shown last.

## Main definitions

* `Session.Input.map` — inputs whose messages from outside are of a smaller type
* `Session.outstanding` — the number of tasks that were started and not run
* `Session.after` — the session after a history
* `Session.display` — what is on display after a history
* `Session.record` — what is noted of the steps of a history, in order

## Main results

* `Session.after_induction` — what holds at the start and is kept by every step holds after
  every history
* `Session.record_induction` — the same for a session together with its record
* `Session.getElem?_tasks_run` — a history keeps every entry of the task list, unless it runs
  the task
* `Session.mem_events_step` — where the events of a step come from
* `Session.display_eq_view` — if updates that report no change leave the view alone, the
  display is never stale
-/

namespace ConversionDesk.Session

variable {σ μ ν τ : Type}

/-- The inputs of a session whose messages from outside are given by `f`. -/
def Input.map (f : ν → μ) : Input ν → Input μ
  | .message m => .message (f m)
  | .run n around => .run n around

/-- The number of tasks that were started and not run. -/
def outstanding (s : Session σ τ) : Nat := s.tasks.countP Option.isSome

/-- Started tasks are outstanding. -/
theorem outstanding_append (state : σ) (tasks : List (Option τ)) (started : List τ) :
    outstanding { state, tasks := tasks ++ started.map some } =
      outstanding { state, tasks } + started.length := by
  simp [outstanding, List.countP_map, Function.comp_def]

theorem outstanding_pos {s : Session σ τ} {n : Nat} {task : τ}
    (h : s.tasks[n]? = some (some task)) : 0 < s.outstanding :=
  List.countP_pos_iff.mpr ⟨some task, List.mem_of_getElem? h, rfl⟩

/-- A task that was run is no longer outstanding. -/
theorem outstanding_set_none (state : σ) {tasks : List (Option τ)} {n : Nat} {task : τ}
    (h : tasks[n]? = some (some task)) :
    outstanding { state, tasks := tasks.set n none } + 1 = outstanding { state, tasks } := by
  obtain ⟨hn, htask⟩ := List.getElem?_eq_some_iff.mp h
  have hpos : 0 < tasks.countP Option.isSome := outstanding_pos (s := { state, tasks }) h
  simp only [outstanding, List.countP_set hn, htask, Option.isSome_some, Option.isSome_none,
    if_pos, Bool.false_eq_true, if_false]
  omega

/-! ### Task lists -/

section Tasks

variable {tasks : List (Option τ)}

/-- What is outstanding after a task was crossed out was outstanding before. -/
theorem getElem?_of_set_none {n m : Nat} {task : τ}
    (h : (tasks.set n none)[m]? = some (some task)) : tasks[m]? = some (some task) := by
  rw [List.getElem?_set] at h
  split at h
  · split at h <;> cases h
  · exact h

/-- A task of a longer list is an old one, or the one that was started. -/
theorem getElem?_concat_cases {n : Nat} {started entry : Option τ}
    (h : (tasks ++ [started])[n]? = some entry) :
    tasks[n]? = some entry ∨ n = tasks.length ∧ started = entry := by
  rw [List.getElem?_append] at h
  split at h
  · exact Or.inl h
  · obtain ⟨hzero, rfl⟩ : n - tasks.length = 0 ∧ started = entry := by
      simpa [List.getElem?_singleton] using h
    exact Or.inr ⟨by omega, rfl⟩

end Tasks

/-! ### Steps -/

section Steps

variable {screen : Screen σ μ τ} {s : Session σ τ}

/-- An update that does nothing leaves the session as it is. -/
theorem deliverAfter_of_idle {m : μ}
    (h : screen.update s.state m = { state := s.state, changed := false }) (before : List Event) :
    s.deliverAfter screen before m =
      ({ changed := false, events := before, started := s.tasks.length, view := none }, s) := by
  simp [deliverAfter, h]

/-- An update that reports a change is shown, and what happens right after that belongs to
the same step. -/
theorem deliverAfter_of_changed {m : μ} {u : Update σ τ} (h : screen.update s.state m = u)
    (hchanged : u.changed = true) (before : List Event) :
    s.deliverAfter screen before m =
      ({ changed := true
         events := before ++ u.events ++ (screen.rendered u.state).1
         started := s.tasks.length + u.tasks.length
         view := some (screen.view u.state) },
       { state := (screen.rendered u.state).2, tasks := s.tasks ++ u.tasks.map some }) := by
  subst h
  simp [deliverAfter, hchanged]

/-- An update that reports no change is not shown; its events and tasks count all the
same. -/
theorem deliverAfter_of_unchanged {m : μ} {u : Update σ τ} (h : screen.update s.state m = u)
    (hchanged : u.changed = false) (before : List Event) :
    s.deliverAfter screen before m =
      ({ changed := false
         events := before ++ u.events
         started := s.tasks.length + u.tasks.length
         view := none },
       { state := u.state, tasks := s.tasks ++ u.tasks.map some }) := by
  subst h
  simp [deliverAfter, hchanged]

/-- A report tells of a change exactly if the update does. -/
theorem changed_deliverAfter (before : List Event) (m : μ) :
    (s.deliverAfter screen before m).1.changed = (screen.update s.state m).changed := by
  cases h : (screen.update s.state m).changed with
  | true => rw [deliverAfter_of_changed rfl h]
  | false => rw [deliverAfter_of_unchanged rfl h]

/-- Shown or not, an update adds its tasks to those before. -/
theorem tasks_deliverAfter (before : List Event) (m : μ) :
    (s.deliverAfter screen before m).2.tasks =
      s.tasks ++ (screen.update s.state m).tasks.map some := by
  cases h : (screen.update s.state m).changed with
  | true => rw [deliverAfter_of_changed rfl h]
  | false => rw [deliverAfter_of_unchanged rfl h]

/-- If a showing leaves the state alone, an update has its effect whether it is shown or
not. -/
theorem deliverAfter_snd (hrendered : ∀ state, (screen.rendered state).2 = state)
    (before : List Event) (m : μ) :
    (s.deliverAfter screen before m).2 =
      { state := (screen.update s.state m).state
        tasks := s.tasks ++ (screen.update s.state m).tasks.map some } := by
  cases h : (screen.update s.state m).changed with
  | true => rw [deliverAfter_of_changed rfl h, hrendered]
  | false => rw [deliverAfter_of_unchanged rfl h]

theorem step_message (m : μ) :
    s.step screen (.message m) =
      (some (s.deliverAfter screen [] m).1, (s.deliverAfter screen [] m).2) := rfl

/-- An outstanding task is run by crossing it out and delivering its message. -/
theorem step_run_of_some {n : Nat} {task : τ} {events : List Event} {m : μ}
    (h : s.tasks[n]? = some (some task)) {around : Surroundings}
    (hperform : screen.perform task around = (events, m)) :
    s.step screen (.run n around) =
      (some (deliverAfter screen events { s with tasks := s.tasks.set n none } m).1,
        (deliverAfter screen events { s with tasks := s.tasks.set n none } m).2) := by
  simp [step, runTask, h, hperform]

/-- A task that was not started, or was run before, cannot be run. -/
theorem step_run_of_none {n : Nat} (h : (s.tasks[n]?).join = none) (around : Surroundings) :
    s.step screen (.run n around) = (none, s) := by
  simp [step, runTask, h]

/-- A step keeps every entry of the task list, unless it runs the task. -/
theorem getElem?_tasks_step {n : Nat} {entry : Option τ} (h : s.tasks[n]? = some entry)
    {i : Input μ} (hi : entry = none ∨ ∀ around, i ≠ .run n around) :
    (s.step screen i).2.tasks[n]? = some entry := by
  obtain ⟨hn, -⟩ := List.getElem?_eq_some_iff.mp h
  cases i with
  | message m => rw [step_message, tasks_deliverAfter, List.getElem?_append_left hn, h]
  | run k around =>
    cases htask : (s.tasks[k]?).join with
    | none => rw [step_run_of_none htask, h]
    | some task =>
      have hk : s.tasks[k]? = some (some task) := Option.join_eq_some_iff.mp htask
      have hkn : k ≠ n := by
        rintro rfl
        rcases hi with rfl | hi
        · rw [h] at hk
          cases hk
        · exact hi around rfl
      rw [step_run_of_some hk rfl, tasks_deliverAfter,
        List.getElem?_append_left (by rwa [List.length_set]), List.getElem?_set_ne hkn, h]

/-- A task that was run is crossed out. -/
theorem getElem?_tasks_run_self {n : Nat} {task : τ} (h : s.tasks[n]? = some (some task))
    (around : Surroundings) : (s.step screen (.run n around)).2.tasks[n]? = some none := by
  obtain ⟨hn, -⟩ := List.getElem?_eq_some_iff.mp h
  rw [step_run_of_some h rfl, tasks_deliverAfter,
    List.getElem?_append_left (by rwa [List.length_set]), List.getElem?_set_self hn]

theorem mem_events_deliverAfter {before : List Event} {m : μ} {e : Event}
    (he : e ∈ (s.deliverAfter screen before m).1.events) :
    e ∈ before ∨ e ∈ (screen.update s.state m).events ∨
      e ∈ (screen.rendered (screen.update s.state m).state).1 := by
  cases h : (screen.update s.state m).changed with
  | true => simpa [deliverAfter_of_changed rfl h] using he
  | false =>
    rw [deliverAfter_of_unchanged rfl h] at he
    rcases List.mem_append.mp he with he | he
    · exact Or.inl he
    · exact Or.inr (Or.inl he)

/-- What a step does is done by the task that it runs, by an update or by a showing. -/
theorem mem_events_step {i : Input μ} {report : Report} {e : Event}
    (h : (s.step screen i).1 = some report) (he : e ∈ report.events) :
    (∃ n task around, i = .run n around ∧ s.tasks[n]? = some (some task) ∧
        e ∈ (screen.perform task around).1) ∨
      (∃ state m, e ∈ (screen.update state m).events) ∨
      ∃ state, e ∈ (screen.rendered state).1 := by
  cases i with
  | message m =>
    rw [step_message] at h
    obtain rfl := Option.some.inj h
    rcases mem_events_deliverAfter he with he | he | he
    · cases he
    · exact Or.inr (Or.inl ⟨_, _, he⟩)
    · exact Or.inr (Or.inr ⟨_, he⟩)
  | run n around =>
    cases htask : (s.tasks[n]?).join with
    | none =>
      rw [step_run_of_none htask] at h
      cases h
    | some task =>
      have hn : s.tasks[n]? = some (some task) := Option.join_eq_some_iff.mp htask
      rw [step_run_of_some hn rfl] at h
      obtain rfl := Option.some.inj h
      rcases mem_events_deliverAfter he with he | he | he
      · exact Or.inl ⟨n, task, around, rfl, hn, he⟩
      · exact Or.inr (Or.inl ⟨_, _, he⟩)
      · exact Or.inr (Or.inr ⟨_, he⟩)

end Steps

/-! ### Histories -/

/-- The session after a history. -/
def after (screen : Screen σ μ τ) (inputs : List (Input μ)) : Session σ τ :=
  ((start screen).2.run screen inputs).2

/-- What is on display after a history: the view that was shown last. -/
def display (screen : Screen σ μ τ) (inputs : List (Input μ)) : Markup :=
  let reports := ((start screen).2.run screen inputs).1
  -- before the first change that is the view of the first showing
  (reports.filterMap fun report => report.bind (·.view)).getLast?.getD
    (screen.view screen.initial)

/-- One more input is one more step, with its report last. -/
theorem run_concat (screen : Screen σ μ τ) (s : Session σ τ) (inputs : List (Input μ))
    (i : Input μ) :
    s.run screen (inputs ++ [i]) =
      ((s.run screen inputs).1 ++ [((s.run screen inputs).2.step screen i).1],
        ((s.run screen inputs).2.step screen i).2) := by
  induction inputs generalizing s with
  | nil => rfl
  | cons j inputs ih => simp [run, ih]

theorem after_concat (screen : Screen σ μ τ) (inputs : List (Input μ)) (i : Input μ) :
    after screen (inputs ++ [i]) = ((after screen inputs).step screen i).2 := by
  rw [after, run_concat, after]

theorem display_concat (screen : Screen σ μ τ) (inputs : List (Input μ)) (i : Input μ) :
    display screen (inputs ++ [i]) =
      (((after screen inputs).step screen i).1.bind (·.view)).getD (display screen inputs) := by
  rw [display, run_concat, List.filterMap_append, after]
  cases h : (((start screen).2.run screen inputs).2.step screen i).1.bind (·.view) with
  | none => simp [h, display]
  | some view => simp [h]

theorem Input.map_eq_run_iff {f : ν → μ} {i : Input ν} {n : Nat} {around : Surroundings} :
    i.map f = .run n around ↔ i = .run n around := by
  cases i <;> simp [Input.map]

/-- A history keeps every entry of the task list, unless it runs the task. -/
theorem getElem?_tasks_run {screen : Screen σ μ τ} {f : ν → μ} {s : Session σ τ} {n : Nat}
    {entry : Option τ} (h : s.tasks[n]? = some entry) {inputs : List (Input ν)}
    (hinputs : entry = none ∨ ∀ around, .run n around ∉ inputs) :
    (s.run screen (inputs.map (Input.map f))).2.tasks[n]? = some entry := by
  induction inputs generalizing s with
  | nil => exact h
  | cons i inputs ih =>
    refine ih (getElem?_tasks_step h (hinputs.imp_right fun hnot around hi => ?_))
      (hinputs.imp_right fun hnot around hmem => hnot around (List.mem_cons_of_mem _ hmem))
    rw [Input.map_eq_run_iff] at hi
    exact hnot around (hi ▸ List.mem_cons_self)

/-- What holds at the start and is kept by every allowed step holds after every history
of allowed inputs. -/
theorem after_induction {screen : Screen σ μ τ} {P : Session σ τ → Prop} {f : ν → μ}
    (hstart : P (start screen).2)
    (hstep : ∀ s (i : Input ν), P s → P (s.step screen (i.map f)).2) (inputs : List (Input ν)) :
    P (after screen (inputs.map (Input.map f))) := by
  induction inputs using List.reverseRecOn with
  | nil => exact hstart
  | append_singleton inputs i ih =>
    rw [List.map_append, List.map_singleton, after_concat]
    exact hstep _ i ih

/-! ### Records -/

section Record

variable {α : Type} (screen : Screen σ μ τ) (f : ν → μ) (note : Session σ τ → Input ν → Option α)

/-- What is noted of the steps of a history, each with the session that it meets. -/
def record (s : Session σ τ) : List (Input ν) → List α
  | [] => []
  | i :: inputs => (note s i).toList ++ record (s.step screen (i.map f)).2 inputs

theorem record_append (s : Session σ τ) (first second : List (Input ν)) :
    record screen f note s (first ++ second) = record screen f note s first ++
      record screen f note (s.run screen (first.map (Input.map f))).2 second := by
  induction first generalizing s with
  | nil => rfl
  | cons i first ih =>
    rw [List.cons_append, record, ih, record, List.append_assoc]
    rfl

theorem record_concat (inputs : List (Input ν)) (i : Input ν) :
    record screen f note (start screen).2 (inputs ++ [i]) =
      record screen f note (start screen).2 inputs ++
        (note (after screen (inputs.map (Input.map f))) i).toList := by
  rw [record_append, record, record, List.append_nil]
  rfl

variable {screen f note}

/-- What holds of a session and its record at the start and is kept by every step holds after
every history. -/
theorem record_induction {P : Session σ τ → List α → Prop} (hstart : P (start screen).2 [])
    (hstep : ∀ s noted i, P s noted → P (s.step screen (i.map f)).2 (noted ++ (note s i).toList))
    (inputs : List (Input ν)) :
    P (after screen (inputs.map (Input.map f))) (record screen f note (start screen).2 inputs) := by
  induction inputs using List.reverseRecOn with
  | nil => exact hstart
  | append_singleton inputs i ih =>
    rw [List.map_append, List.map_singleton, after_concat, record_concat]
    exact hstep _ _ i ih

end Record

/-! ### The display -/

section Display

variable {screen : Screen σ μ τ}
  (hrendered : ∀ s, screen.view (screen.rendered s).2 = screen.view s)
  (hupdate : ∀ s m, (screen.update s m).changed = false →
    screen.view (screen.update s m).state = screen.view s)

include hrendered hupdate

/-- After a message, the state looks as the report shows it, or as before. -/
theorem view_deliverAfter (before : List Event) (s : Session σ τ) (m : μ) :
    screen.view (s.deliverAfter screen before m).2.state =
      (s.deliverAfter screen before m).1.view.getD (screen.view s.state) := by
  cases h : (screen.update s.state m).changed with
  | true =>
    rw [deliverAfter_of_changed rfl h]
    exact hrendered _
  | false => simp [deliverAfter, h, hupdate s.state m h]

/-- After a step, the state looks as the report shows it, or as before. -/
theorem view_step (s : Session σ τ) (i : Input μ) :
    screen.view (s.step screen i).2.state =
      ((s.step screen i).1.bind (·.view)).getD (screen.view s.state) := by
  cases i with
  | message m => exact view_deliverAfter hrendered hupdate [] s m
  | run n around =>
    cases htask : (s.tasks[n]?).join with
    | none =>
      rw [step_run_of_none htask]
      rfl
    | some task =>
      -- crossing out the task does not touch the state
      rw [step_run_of_some (Option.join_eq_some_iff.mp htask) rfl]
      exact view_deliverAfter hrendered hupdate _ { s with tasks := s.tasks.set n none } _

/-- If an update that reports no change leaves the view alone, the display is never
stale. -/
theorem display_eq_view (inputs : List (Input μ)) :
    display screen inputs = screen.view (after screen inputs).state := by
  induction inputs using List.reverseRecOn with
  | nil => exact (hrendered screen.initial).symm
  | append_singleton inputs i ih =>
    rw [display_concat, after_concat, view_step hrendered hupdate, ih]

end Display

end ConversionDesk.Session
