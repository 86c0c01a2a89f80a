import ConversionDesk.Proofs.Column.NewestRequest
import ConversionDesk.Proofs.Column.Toggling

/-!
# Panels that are ready

A panel becomes ready in one way only: the newest request is answered, and the answer lists
columns. From then on its controls are changed, one at a time or all together, until the next
request starts. So every selection that a loader ever holds is the fresh selection of such an
answer with some changes made to it, and whatever changes cannot touch is known of it from the
answer alone.

One such thing is that it has controls. The button that toggles all controls is shown for the
kind of the selection, while a toggle is refused for want of controls as well. Since no panel is
ready without controls, the button is shown exactly if it works.

## Main definitions

* `Column.Selection.DescendsFrom` — a selection that changes have made of another one

## Main results

* `Column.Loader.Run.ready_step` — how a panel gets ready, or stays so
* `Column.Loader.Run.ready_run` — every selection descends from an answer
* `Column.Loader.fst_toggle_eq_some_true_iff` — the button is shown exactly if it works
-/

namespace ConversionDesk.Column

/-! ### Selections that changes lead to -/

namespace Selection

/-- The selection is what some changes have made of another one. -/
def DescendsFrom (s origin : Selection) : Prop := ∃ changes, s = origin.applyAll changes

namespace DescendsFrom

variable {s t origin : Selection}

theorem refl (s : Selection) : s.DescendsFrom s := ⟨[], rfl⟩

theorem trans (hs : s.DescendsFrom t) (ht : t.DescendsFrom origin) : s.DescendsFrom origin := by
  obtain ⟨later, rfl⟩ := hs
  obtain ⟨earlier, rfl⟩ := ht
  exact ⟨earlier ++ later, (applyAll_append origin earlier later).symm⟩

theorem kind_eq (h : s.DescendsFrom origin) : s.kind = origin.kind := by
  obtain ⟨changes, rfl⟩ := h
  exact kind_applyAll origin changes

theorem length_controls_eq (h : s.DescendsFrom origin) :
    s.controls.length = origin.controls.length := by
  obtain ⟨changes, rfl⟩ := h
  exact length_controls_applyAll origin changes

theorem controls_ne_nil {container : String} {kind : Kind} {headers : List String}
    (h : s.DescendsFrom (ofHeaders container kind headers)) (hne : headers ≠ []) :
    s.controls ≠ [] := by
  rw [← List.length_pos_iff, h.length_controls_eq, length_controls_ofHeaders, List.length_pos_iff]
  exact hne

end DescendsFrom

end Selection

/-! ### How a panel gets ready -/

namespace Panel

/-- A panel is ready, or it shows a text in place of controls. -/
theorem ready_or_placeholder (p : Panel) :
    (∃ s, p = .ready s) ∨ ∃ shown, p.selection? = none ∧ p.placeholder? = some shown := by
  cases p with
  | ready s => exact Or.inl ⟨s, rfl⟩
  | idle | loading | noColumns | failed => exact Or.inr ⟨_, rfl, rfl⟩

theorem ofDiscovery_eq_ready_iff {container : String} {kind : Kind}
    {result : Except Failure (List String)} {s : Selection} :
    ofDiscovery container kind result = .ready s ↔
      ∃ headers, result = .ok headers ∧ headers ≠ [] ∧ s = .ofHeaders container kind headers := by
  cases result with
  | error failure => simp [ofDiscovery]
  | ok headers => cases headers <;> simp [ofDiscovery, eq_comm]

theorem change_eq_ready_iff {p : Panel} {change : Selection.Change} {s : Selection} :
    p.change change = .ready s ↔ ∃ old, p = .ready old ∧ s = old.apply change := by
  cases p <;> simp [Panel.change, eq_comm]

end Panel

namespace Loader

theorem panel_finish (p : Loader) (ticket : Ticket) (container : String) (kind : Kind)
    (result : Except Failure (List String)) :
    (p.finish ticket container kind result).2.panel = p.panel ∨
      (p.finish ticket container kind result).2.panel = .ofDiscovery container kind result := by
  rw [finish]
  split
  · exact Or.inr rfl
  · exact Or.inl rfl

namespace Run

/-- A panel that is ready after a command was ready before, with at most one change made since, or
the command is an answer that lists columns and the selection is fresh. -/
theorem ready_step {r : Run} {c : Command} {s : Selection}
    (h : (r.step c).2.loader.panel = .ready s) :
    (∃ old, r.loader.panel = .ready old ∧ s.DescendsFrom old) ∨
      ∃ n container kind headers, c = .finish n container kind (.ok headers) ∧ headers ≠ [] ∧
        s = .ofHeaders container kind headers := by
  cases c with
  | start => cases h
  | finish n container kind result =>
    cases hticket : r.tickets[n]? with
    | none =>
      simp only [step, hticket] at h
      exact Or.inl ⟨s, h, .refl s⟩
    | some ticket =>
      simp only [step, hticket] at h
      rcases panel_finish r.loader ticket container kind result with hkept | hreplaced
      · exact Or.inl ⟨s, hkept ▸ h, .refl s⟩
      · obtain ⟨headers, rfl, hne, hs⟩ := Panel.ofDiscovery_eq_ready_iff.mp (hreplaced ▸ h)
        exact Or.inr ⟨n, container, kind, headers, rfl, hne, hs⟩
  | set index checked =>
    rw [step_of_change? r rfl] at h
    obtain ⟨old, hold, rfl⟩ := Panel.change_eq_ready_iff.mp h
    exact Or.inl ⟨old, hold, [.set index checked], rfl⟩
  | toggle =>
    rw [step_of_change? r rfl] at h
    obtain ⟨old, hold, rfl⟩ := Panel.change_eq_ready_iff.mp h
    exact Or.inl ⟨old, hold, [.toggle], rfl⟩

/-- Every selection that a loader ever holds descends from an answer that lists columns. -/
theorem ready_run {commands : List Command} {s : Selection}
    (h : (run {} commands).loader.panel = .ready s) :
    ∃ n container kind headers, .finish n container kind (.ok headers) ∈ commands ∧
      headers ≠ [] ∧ s.DescendsFrom (.ofHeaders container kind headers) := by
  induction commands using List.reverseRecOn generalizing s with
  | nil => cases h
  | append_singleton commands c ih =>
    rw [run_append] at h
    rcases ready_step h with ⟨old, hold, hs⟩ | ⟨n, container, kind, headers, rfl, hne, rfl⟩
    · obtain ⟨n, container, kind, headers, hmem, hne, horigin⟩ := ih hold
      exact ⟨n, container, kind, headers, List.mem_append_left _ hmem, hne, hs.trans horigin⟩
    · exact ⟨n, container, kind, headers, by simp, hne, .refl _⟩

/-- No panel is ready without controls. -/
theorem controls_ne_nil_of_ready {commands : List Command} {s : Selection}
    (h : (run {} commands).loader.panel = .ready s) : s.controls ≠ [] := by
  obtain ⟨n, container, kind, headers, -, hne, hs⟩ := ready_run h
  exact hs.controls_ne_nil hne

end Run

/-! ### The button that toggles all controls -/

/-- A loader passes a toggle on to its selection. -/
theorem fst_toggle (p : Loader) : p.toggle.1 = p.panel.selection?.map fun s => s.toggle.1 := by
  rw [toggle]
  cases p.panel <;> rfl

/-- Provided that no panel is ready without controls, a toggle is carried out exactly if the
button is shown. -/
theorem fst_toggle_eq_some_true_iff {p : Loader}
    (hready : ∀ s, p.panel = .ready s → s.controls ≠ []) :
    p.toggle.1 = some true ↔ p.panel.showsToggle = true := by
  rw [fst_toggle]
  cases hpanel : p.panel with
  | ready s =>
    have hcontrols := hready s hpanel
    simp [Panel.selection?, Selection.fst_toggle, Selection.canToggle, Panel.showsToggle, hcontrols]
  | idle | loading | noColumns | failed => simp [Panel.selection?, Panel.showsToggle]

/-- Where the button is hidden, a toggle changes nothing. -/
theorem toggle_of_not_showsToggle {p : Loader} (h : p.panel.showsToggle = false) :
    p.toggle.2 = p := by
  obtain ⟨panel, requests⟩ := p
  cases panel with
  | ready s =>
    have hkind : s.kind ≠ .multiple := by simpa [Panel.showsToggle] using h
    have hcan : s.canToggle = false := by simp [Selection.canToggle, hkind]
    simp [toggle, Selection.toggle_of_not_canToggle hcan]
  | idle | loading | noColumns | failed => rfl

end Loader

end ConversionDesk.Column
