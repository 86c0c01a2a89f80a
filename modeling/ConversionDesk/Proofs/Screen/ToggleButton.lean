import ConversionDesk.Proofs.Screen.ShownControls

/-!
# The button that toggles all controls works whenever it is shown

The button stays on the page and is only hidden. Whether it is hidden depends on the kind of the
selection alone; whether a toggle is carried out depends on the kind and on there being controls.
That the two come to the same rests on an invariant of the loader: no panel is ready without
controls, however its requests were answered.

## Main results

* `ColumnChooser.tagged_button_view` — the buttons of the view
* `ColumnChooser.toggle_button_works` — in every state of a loader or a selector, the button is
  shown exactly if it works
-/

namespace ConversionDesk.ColumnChooser

open Session (Input)
open Column (Kind Loader Panel Selection)
open Markup (elements elementsAll tagged)

/-! ### The button in the view -/

theorem tagged_button_panelView (panel : Panel) : tagged "button" (panelView panel) = [] := by
  cases panel with
  | ready s => exact Markup.filter_elementsAll_map_eq_nil (fun _ => rfl) s.controls
  | idle | loading | noColumns | failed => rfl

theorem tagged_button_toggleView (toggleId : Option String) (panel : Panel) :
    tagged "button" (toggleView toggleId panel) = toggleView toggleId panel := by
  cases toggleId <;> rfl

/-- The only button of the view is the one that toggles all controls. -/
theorem tagged_button_view (settings : Settings) (p : Loader) :
    tagged "button" [view settings p] = toggleView settings.toggleId p.panel := by
  have htoggle := tagged_button_toggleView settings.toggleId p.panel
  have hpanel := tagged_button_panelView p.panel
  rw [tagged] at htoggle hpanel
  simp [tagged, view, elements, elementsAll, List.filter_append, htoggle, hpanel, Markup.hasTag]

theorem blockStyle_eq_block_iff (visible : Bool) :
    blockStyle visible = "display: block;" ↔ visible = true := by
  cases visible <;> simp [blockStyle]

/-! ### A request to toggle -/

/-- A request to toggle is reported as a change exactly if it was carried out. -/
theorem report_toggle (settings : Settings) (s : Session Loader Task) :
    ∃ report, (step settings s (.message .toggle)).1 = some report ∧
      (report.changed = true ↔ s.state.toggle.1 = some true) := by
  rw [step, Input.map, Session.step_message]
  refine ⟨_, rfl, ?_⟩
  rw [Session.changed_deliverAfter]
  change s.state.toggle.1.getD false = true ↔ s.state.toggle.1 = some true
  cases s.state.toggle.1 <;> simp

/-- No panel of a session is ready without controls. -/
theorem controls_ne_nil_of_ready {settings : Settings} {inputs : List (Input Gesture)}
    (s : Selection) (h : (session settings inputs).state.panel = .ready s) : s.controls ≠ [] := by
  obtain ⟨headers, hne, hs⟩ := ready_session h
  exact hs.controls_ne_nil hne

/-- The button works whenever it is shown. In every state that a loader reaches, a ready panel has
controls, the button is shown exactly if there is a selection whose toggle is carried out, and
otherwise a toggle changes nothing. In every session of a selector that was made with a button,
the view has that one button, it is on display exactly if a request to toggle reports a change,
and otherwise the request leaves the session as it is. -/
theorem toggle_button_works :
    -- every loader
    (∀ commands : List Loader.Command,
      let p := (Loader.Run.run {} commands).loader
      (∀ s, p.panel = .ready s → s.controls ≠ []) ∧
      (p.panel.showsToggle = true ↔ ∃ s, p.panel.selection? = some s ∧ s.toggle.1 = true) ∧
      (p.panel.showsToggle = false → p.toggle.2 = p)) ∧
    -- every selector with a button
    ∀ (settings : Settings) (inputs : List (Input Gesture)) (id : String),
      settings.toggleId = some id →
      let s := session settings inputs
      ∃ button report, tagged "button" [displayed settings inputs] = [button] ∧
        button.value? "id" = some id ∧
        (step settings s (.message .toggle)).1 = some report ∧
        (button.value? "style" = some "display: block;" ↔ report.changed = true) ∧
        (report.changed = false → (step settings s (.message .toggle)).2 = s) := by
  constructor
  · intro commands p
    have hready : ∀ s, p.panel = .ready s → s.controls ≠ [] :=
      fun s => Loader.Run.controls_ne_nil_of_ready
    refine ⟨hready, ?_, Loader.toggle_of_not_showsToggle⟩
    rw [← Loader.fst_toggle_eq_some_true_iff hready, Loader.fst_toggle, Option.map_eq_some_iff]
  · intro settings inputs id hid s
    obtain ⟨report, hreport, hchanged⟩ := report_toggle settings s
    have hshown : report.changed = true ↔ s.state.panel.showsToggle = true :=
      hchanged.trans (Loader.fst_toggle_eq_some_true_iff controls_ne_nil_of_ready)
    have hbutton : tagged "button" [displayed settings inputs] =
        toggleView (some id) s.state.panel := by
      rw [displayed_eq_view, tagged_button_view, hid]
    refine ⟨_, report, hbutton, rfl, hreport, ?_, fun hno => ?_⟩
    · rw [hshown, ← blockStyle_eq_block_iff]
      exact Option.some_inj
    · have hhidden : s.state.panel.showsToggle = false := by
        rw [← Bool.not_eq_true, ← hshown, hno]
        exact Bool.false_ne_true
      rw [step_toggle, Loader.toggle_of_not_showsToggle hhidden]

theorem toggle_button_of_sampleInputs :
    (sampleSettings .multiple).toggleId = some "toggle" ∧
      ∃ button, tagged "button" [displayed (sampleSettings .multiple) sampleInputs] = [button] ∧
        button.value? "id" = some "toggle" ∧
        button.value? "style" = some "display: block;" := by
  have hchanged : (step (sampleSettings .multiple) (session (sampleSettings .multiple) sampleInputs)
      (.message .toggle)).1.map (·.changed) = some true := by decide +kernel
  obtain ⟨button, report, hbutton, hid, hreport, hstyle, -⟩ :=
    toggle_button_works.2 (sampleSettings .multiple) sampleInputs "toggle" rfl
  refine ⟨rfl, button, hbutton, hid, hstyle.mpr ?_⟩
  rw [hreport] at hchanged
  exact Option.some.inj hchanged

end ConversionDesk.ColumnChooser
