import ConversionDesk.Proofs.Column.RadioGroup
import ConversionDesk.Proofs.Column.ReadyPanels
import ConversionDesk.Proofs.Screen.Elements
import ConversionDesk.Proofs.Screen.NewestFile

/-!
# What is on display is what is selected

A browser sends what the inputs on display say, while the selector goes by a selection of its
own. The two must not come apart, whatever is chosen, answered and changed in between.

There are two places where they could. The kind of the controls is written into the selection
when an answer arrives, and read from there when they are shown; it has to be the kind that the
selector was made for. And the container must hold the controls of the selection, all of them and
in order, or a text and no controls at all. Both are settled here for every session, and the view
is read as a browser reads it: by the elements in the container.

## Main definitions

* `ColumnChooser.InputFor` — an input says what a control is
* `ColumnChooser.Labels` — a label belongs to an input

## Main results

* `ColumnChooser.ready_session` — every selection descends from headers of the selector's own
  container and kind
* `ColumnChooser.checkedValues_of_forall₂` — inputs that say what the controls are send what is
  selected
* `ColumnChooser.controls_on_display` — the column container of every session
-/

namespace ConversionDesk.ColumnChooser

open Session (Input)
open Column (Control Kind Loader Panel Selection)
open Markup (elements elementsAll tagged ofClass checkedValues)

/-! ### The selections of a session -/

/-- The answers that a session gives to its loader are for its own container and kind. -/
theorem finish_mem_commands {settings : Settings} {s : Session Loader Task}
    {inputs : List (Input Gesture)} {n : Nat} {container : String} {kind : Kind}
    {result : Except Failure (List String)}
    (h : .finish n container kind result ∈ commands settings s inputs) :
    container = settings.container ∧ kind = settings.kind := by
  induction inputs generalizing s with
  | nil => cases h
  | cons i inputs ih =>
    rw [commands_cons, List.mem_append] at h
    rcases h with h | h
    · cases i with
      | message gesture => cases gesture <;> simp [command?] at h
      | run m around =>
        obtain ⟨task, -, heq⟩ : ∃ task, (s.tasks[m]?).join = some task ∧
            Loader.Command.finish m settings.container settings.kind (found around) =
              .finish n container kind result := by
          simpa [command?] using h
        cases heq
        exact ⟨rfl, rfl⟩
    · exact ih h

/-- Every selection of a session descends from headers, put into controls of the selector's own
container and kind. -/
theorem ready_session {settings : Settings} {inputs : List (Input Gesture)} {s : Selection}
    (h : (session settings inputs).state.panel = .ready s) :
    ∃ headers, headers ≠ [] ∧
      s.DescendsFrom (.ofHeaders settings.container settings.kind headers) := by
  rw [(follows_session settings inputs).state] at h
  obtain ⟨n, container, kind, headers, hmem, hne, hs⟩ := Loader.Run.ready_run h
  obtain ⟨rfl, rfl⟩ := finish_mem_commands hmem
  exact ⟨headers, hne, hs⟩

/-- With one column to select, at most one is selected. -/
theorem length_selected_le_one {container : String} {headers : List String} {s : Selection}
    (h : s.DescendsFrom (.ofHeaders container .single headers)) : s.selected.length ≤ 1 := by
  obtain ⟨changes, rfl⟩ := h
  rw [Selection.length_selected]
  exact ((Column.RadioGroup.tracks_ofHeaders container headers).run changes).count_checks_le_one

/-! ### Inputs and labels -/

/-- An input says what a control is. -/
structure InputFor (kind : Kind) (c : Control) (input : Markup) : Prop where
  type : input.value? "type" = some kind.inputType
  name : input.value? "name" = some kind.fieldName
  value : input.value? "value" = some c.header
  id : input.value? "id" = some c.id
  checked : input.isChecked = c.checked

/-- A label belongs to an input. -/
def Labels (input label : Markup) : Prop :=
  ∃ id, input.value? "id" = some id ∧ label.value? "for" = some id

theorem inputFor_controlInput (kind : Kind) (c : Control) :
    InputFor kind c (controlInput kind c) where
  type := rfl
  name := rfl
  value := rfl
  id := rfl
  checked := by cases h : c.checked <;> simp [controlInput, Markup.isChecked, Markup.attributes, h]

/-- Inputs that say what the controls are send what is selected. -/
theorem checkedValues_of_forall₂ {kind : Kind} {controls : List Control} {inputs : List Markup}
    (h : List.Forall₂ (InputFor kind) controls inputs) :
    (inputs.filter (·.isChecked)).filterMap (·.value? "value") =
      (controls.filter (·.checked)).map (·.header) := by
  induction h with
  | nil => rfl
  | @cons c input controls inputs hinput _ ih =>
    rw [List.filter_cons, List.filter_cons, hinput.checked]
    cases c.checked with
    | false => exact ih
    | true =>
      rw [if_pos rfl, if_pos rfl, List.filterMap_cons, hinput.value, List.map_cons]
      exact congrArg (c.header :: ·) ih

/-! ### The column container -/

section Ready

variable (s : Selection)

theorem tagged_input_panelView :
    tagged "input" (panelView (.ready s)) = s.controls.map (controlInput s.kind) := by
  rw [List.map_eq_flatMap]
  exact Markup.filter_elementsAll_map (fun _ => rfl) s.controls

theorem tagged_label_panelView :
    tagged "label" (panelView (.ready s)) = s.controls.map controlLabel := by
  rw [List.map_eq_flatMap]
  exact Markup.filter_elementsAll_map (fun _ => rfl) s.controls

theorem tagged_p_panelView : tagged "p" (panelView (.ready s)) = [] :=
  Markup.filter_elementsAll_map_eq_nil (fun _ => rfl) s.controls

end Ready

/-- The contents of a container hold no container. -/
theorem ofClass_panelView (panel : Panel) :
    ofClass "columns-container" (panelView panel) = [] := by
  cases panel with
  | ready s => exact Markup.filter_elementsAll_map_eq_nil (fun _ => rfl) s.controls
  | idle | loading | noColumns | failed =>
    simp [ofClass, panelView, Panel.isError, elements, elementsAll, Markup.isOfClass,
      Markup.value?, Markup.attributes]

theorem ofClass_toggleView (toggleId : Option String) (panel : Panel) :
    ofClass "columns-container" (toggleView toggleId panel) = [] := by
  cases toggleId <;>
    simp [ofClass, toggleView, elements, elementsAll, Markup.isOfClass, Markup.value?,
      Markup.attributes]

/-- The view has one column container, and the panel is in it. -/
theorem ofClass_view (settings : Settings) (p : Loader) :
    ofClass "columns-container" [view settings p] =
      [.element "div" [.text "class" "columns-container", .text "id" settings.container]
        (panelView p.panel)] := by
  have htoggle := ofClass_toggleView settings.toggleId p.panel
  have hpanel := ofClass_panelView p.panel
  rw [ofClass] at htoggle hpanel
  simp [ofClass, view, elements, elementsAll, List.filter_append, htoggle, hpanel,
    Markup.isOfClass, Markup.value?, Markup.attributes]

/-- Without controls, a container holds its text and no input. -/
theorem panelView_of_placeholder {panel : Panel} {shown : String}
    (h : panel.placeholder? = some shown) :
    ∃ paragraph, tagged "p" (panelView panel) = [paragraph] ∧ paragraph.children = [.text shown] ∧
      tagged "input" (panelView panel) = [] := by
  cases panel with
  | ready s => cases h
  | idle | loading | noColumns | failed =>
    obtain rfl := Option.some.inj h
    exact ⟨_, rfl, rfl, rfl⟩

/-- The controls of a selection, as a container shows them. -/
theorem panelView_of_ready (s : Selection) :
    tagged "p" (panelView (.ready s)) = [] ∧
      List.Forall₂ (InputFor s.kind) s.controls (tagged "input" (panelView (.ready s))) ∧
      List.Forall₂ Labels (tagged "input" (panelView (.ready s)))
        (tagged "label" (panelView (.ready s))) := by
  rw [tagged_input_panelView, tagged_label_panelView]
  refine ⟨tagged_p_panelView s, ?_, ?_⟩
  · rw [List.forall₂_map_right_iff, List.forall₂_same]
    exact fun c _ => inputFor_controlInput s.kind c
  · rw [List.forall₂_map_left_iff, List.forall₂_map_right_iff, List.forall₂_same]
    exact fun c _ => ⟨c.id, rfl, rfl⟩

/-- What is on display in every session. The view has one column container, with the id that the
selector was made with. It holds a text and no input, or the controls of the selection and no
text. Then there is one input for each control, in order, with its header, id and state and with
the type and name for the kind that the selector was made with, which is also the kind of the
selection; each input has its label; and the inputs that are checked stand for the selected
headers, in order. Where one column is to be selected, at most one input is checked. -/
theorem controls_on_display (settings : Settings) (inputs : List (Input Gesture)) :
    let panel := (session settings inputs).state.panel
    ∃ container, ofClass "columns-container" [displayed settings inputs] = [container] ∧
      container.value? "id" = some settings.container ∧
      -- a text and no input
      ((∃ shown paragraph, panel.selection? = none ∧ panel.placeholder? = some shown ∧
          tagged "p" container.children = [paragraph] ∧ paragraph.children = [.text shown] ∧
          tagged "input" container.children = []) ∨
        -- or one input for each control
        ∃ s, panel.selection? = some s ∧ s.kind = settings.kind ∧
          tagged "p" container.children = [] ∧
          List.Forall₂ (InputFor settings.kind) s.controls (tagged "input" container.children) ∧
          List.Forall₂ Labels (tagged "input" container.children)
            (tagged "label" container.children) ∧
          checkedValues container.children = s.selected ∧
          (settings.kind = .single → (checkedValues container.children).length ≤ 1)) := by
  intro panel
  have hcontainer : ofClass "columns-container" [displayed settings inputs] =
      [.element "div" [.text "class" "columns-container", .text "id" settings.container]
        (panelView panel)] := by
    rw [displayed_eq_view]
    exact ofClass_view settings _
  refine ⟨_, hcontainer, rfl, ?_⟩
  rcases panel.ready_or_placeholder with ⟨s, hpanel⟩ | ⟨shown, hnone, hshown⟩
  · obtain ⟨headers, -, hs⟩ := ready_session hpanel
    have hkind : s.kind = settings.kind := hs.kind_eq
    obtain ⟨hp, hinputs, hlabels⟩ := panelView_of_ready s
    have hvalues : checkedValues (panelView (.ready s)) = s.selected :=
      checkedValues_of_forall₂ hinputs
    rw [hpanel]
    refine Or.inr ⟨s, rfl, hkind, hp, hkind ▸ hinputs, hlabels, hvalues, fun hsingle => ?_⟩
    rw [hsingle] at hs
    exact (congrArg List.length hvalues).trans_le (length_selected_le_one hs)
  · obtain ⟨paragraph, hp, htext, hinputs⟩ := panelView_of_placeholder hshown
    exact Or.inl ⟨shown, paragraph, hnone, hshown, hp, htext, hinputs⟩

/-- A selector with a button. -/
def sampleSettings (kind : Kind) : Settings where
  fileInputId := "file"
  container := "columns"
  kind
  toggleId := some "toggle"
  accept := ".csv"
  fileLabel := "File"

/-- Of three columns, two of them with the same header, the first and the last are checked one
after the other. -/
def sampleInputs : List (Input Gesture) :=
  [.message .chooseFile,
    .run 0 { reply := .received 200 "\x7b\"headers\": [\"A\", \"B\", \"A\"]\x7d" },
    .message (.set 0 true), .message (.set 2 true)]

theorem sampleInputs_on_display :
    (sampleSettings .single).kind = .single ∧
      ∃ container, ofClass "columns-container"
          [displayed (sampleSettings .single) sampleInputs] = [container] ∧
        checkedValues container.children = ["A"] ∧
        (checkedValues container.children).length ≤ 1 := by
  have hselected : (session (sampleSettings .single) sampleInputs).state.panel.selection?.map
      (·.selected) = some ["A"] := by decide +kernel
  obtain ⟨container, hcontainer, -, hshown⟩ :=
    controls_on_display (sampleSettings .single) sampleInputs
  refine ⟨rfl, container, hcontainer, ?_⟩
  rcases hshown with ⟨shown, paragraph, hnone, -⟩ | ⟨s, hs, -, -, -, -, hvalues, hone⟩
  · rw [hnone] at hselected
    cases hselected
  · rw [hs] at hselected
    exact ⟨hvalues.trans (Option.some.inj hselected), hone rfl⟩

end ConversionDesk.ColumnChooser
