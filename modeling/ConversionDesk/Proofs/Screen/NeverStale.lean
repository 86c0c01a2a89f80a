import ConversionDesk.Proofs.Screen.CopyLabel
import ConversionDesk.Proofs.Screen.NewestFile
import ConversionDesk.Proofs.Screen.SubmitCycle
import ConversionDesk.Screen.Desk

/-!
# No screen goes stale

A screen is shown again only when an update reports a change. So an update that reports none
must not have made one: a branch that gives up after it has touched the state would leave the
user looking at a state that is no longer there.

What a screen owes is said once, for updates, and carried to steps and whole histories of a
session. That every screen pays it is then a matter of one small fact each: some report every
update, and the others report what their own parts answer, which is whether these were moved.

## Main definitions

* `Screen.NeverStale` — an update, a step or a history never leaves an old view on display

## Main results

* `Session.state_step_of_unchanged` — a step that reports no change leaves the state alone
* `Screen.neverStale_of_update` — what a screen has to show for it
* `Screen.every_screen_neverStale` — all screens of the page
-/

namespace ConversionDesk

variable {σ μ τ : Type}

/-! ### Steps that report no change -/

namespace Session

variable {screen : Screen σ μ τ}
  (hupdate : ∀ s m, (screen.update s m).changed = false → (screen.update s m).state = s)

include hupdate

theorem state_deliverAfter_of_unchanged {before : List Event} {s : Session σ τ} {m : μ}
    (h : (s.deliverAfter screen before m).1.changed = false) :
    (s.deliverAfter screen before m).2.state = s.state := by
  cases hchanged : (screen.update s.state m).changed with
  | true =>
    rw [deliverAfter_of_changed rfl hchanged] at h
    cases h
  | false =>
    rw [deliverAfter_of_unchanged rfl hchanged]
    exact hupdate s.state m hchanged

/-- A step that reports no change, or nothing at all, leaves the state alone. -/
theorem state_step_of_unchanged {s : Session σ τ} {i : Input μ}
    (h : ∀ report, (s.step screen i).1 = some report → report.changed = false) :
    (s.step screen i).2.state = s.state := by
  cases i with
  | message m => exact state_deliverAfter_of_unchanged hupdate (h _ rfl)
  | run n around =>
    cases htask : (s.tasks[n]?).join with
    | none => rw [step_run_of_none htask]
    | some task =>
      have houtstanding : s.tasks[n]? = some (some task) := Option.join_eq_some_iff.mp htask
      rw [step_run_of_some houtstanding rfl] at h ⊢
      -- crossing out the task does not touch the state
      exact state_deliverAfter_of_unchanged hupdate
        (s := { s with tasks := s.tasks.set n none }) (h _ rfl)

end Session

namespace Screen

/-- A screen never goes stale: an update that reports no change leaves the whole state as it
was, and with it the view; so does a step of a session; and after every history the view that
was shown last is the view of the state. -/
structure NeverStale (screen : Screen σ μ τ) : Prop where
  update : ∀ s m, (screen.update s m).changed = false →
    (screen.update s m).state = s ∧ screen.view (screen.update s m).state = screen.view s
  step : ∀ (s : Session σ τ) i,
    (∀ report, (s.step screen i).1 = some report → report.changed = false) →
    (s.step screen i).2.state = s.state
  display : ∀ inputs,
    Session.display screen inputs = screen.view (Session.after screen inputs).state

/-- A screen never goes stale if its updates report every change and its look does not depend
on what a showing takes away. -/
theorem neverStale_of_update {screen : Screen σ μ τ}
    (hupdate : ∀ s m, (screen.update s m).changed = false → (screen.update s m).state = s)
    (hrendered : ∀ s, screen.view (screen.rendered s).2 = screen.view s) :
    NeverStale screen where
  update s m h := ⟨hupdate s m h, congrArg screen.view (hupdate s m h)⟩
  step _ _ h := Session.state_step_of_unchanged hupdate h
  display := Session.display_eq_view hrendered fun s m h => congrArg screen.view (hupdate s m h)

/-- A screen that is shown again after every update never goes stale. -/
theorem neverStale_of_changed {screen : Screen σ μ τ}
    (hchanged : ∀ s m, (screen.update s m).changed = true)
    (hrendered : ∀ s, screen.view (screen.rendered s).2 = screen.view s) :
    NeverStale screen := by
  refine neverStale_of_update (fun s m h => ?_) hrendered
  rw [hchanged s m] at h
  cases h

/-- No screen of the page goes stale, whatever its settings. The state of a form includes
whether a request is in flight and the notice that waits; that of a column selector the panel,
with what a toggle would bring back, and the counter of its requests; that of the result area
whether a copy is confirmed and the counter of its timers. -/
theorem every_screen_neverStale :
    NeverStale Desk.screen ∧
      (∀ settings, NeverStale (ToolForm.screen settings)) ∧
      (∀ settings, NeverStale (ColumnChooser.screen settings)) ∧
      (∀ settings, NeverStale (ResultArea.screen settings)) ∧
      (∀ settings, NeverStale (SpreadsheetTool.screen settings)) ∧
      NeverStale TableTool.screen ∧
      NeverStale PasteTool.screen := by
  refine ⟨?_, fun settings => ?_, fun settings => ?_, fun settings => ?_, fun settings => ?_,
    ?_, ?_⟩
  · exact neverStale_of_changed (fun _ _ => rfl) fun _ => rfl
  · exact neverStale_of_update (fun _ _ => ToolForm.state_update_of_unchanged) fun _ => rfl
  · exact neverStale_of_update (fun _ _ => ColumnChooser.state_update_of_unchanged) fun _ => rfl
  · exact neverStale_of_update (fun _ _ => ResultArea.state_update_of_unchanged) fun _ => rfl
  · exact neverStale_of_changed (fun _ m => by cases m; rfl) fun _ => rfl
  · exact neverStale_of_changed (fun _ m => nomatch m) fun _ => rfl
  · exact neverStale_of_changed (fun _ _ => rfl) fun _ => rfl

end Screen

end ConversionDesk
