import Mathlib.Data.List.Nodup
import ConversionDesk.Proofs.Screen.Elements
import ConversionDesk.Proofs.Screen.Session
import ConversionDesk.Screen.PasteTool

/-!
# The choices for pasted text

The form for pasted text keeps four choices: the action, and an output for each action. A message
makes one of them and leaves the other three as they are, so every choice is the one that was made
last for its own *slot*, whatever was chosen elsewhere in between, and messages for different slots
may trade places.

The form shows each choice in more than one place. The action checks a radio button and opens a
panel, an output checks a radio button in its panel and opens the group with the file formats, and
nothing in the form ties these together but the choices themselves. They are read off the form as
a browser reads it: a radio group is all radio buttons that have the same name.

## Main definitions

* `PasteChoices.Change.slot` — which of the four choices a message makes
* `PasteChoices.lastAction`, `PasteChoices.lastOutput` — the choices that were made last
* `Markup.Offers` — what the buttons of a radio group offer
* `PasteTool.PanelShows` — a panel shows the choices for its action

## Main results

* `PasteChoices.apply_comm` — messages for different slots commute
* `PasteTool.action_reached`, `PasteTool.output_reached` — every choice is the one made last
* `Controls.offers_map` — one of several different choices is checked, and no other
* `PasteTool.last_choices_on_display` — the form after every sequence of messages
-/

namespace ConversionDesk

theorem PasteAction.mem_all (a : PasteAction) : a ∈ PasteAction.all := by
  cases a <;> decide

theorem PasteOutput.mem_all (o : PasteOutput) : o ∈ PasteOutput.all := by
  cases o <;> decide

/-! ### Slots -/

namespace PasteChoices

/-- One of the four choices: the action, or the output of an action. -/
inductive Slot where
  | action
  | output (action : PasteAction)
deriving DecidableEq, Repr

namespace Change

/-- The choice that a change makes. -/
def slot : Change → Slot
  | .selectAction _ => .action
  | .selectOutput action _ => .output action

/-- The action that a change chooses. -/
def action? : Change → Option PasteAction
  | .selectAction action => some action
  | .selectOutput _ _ => none

/-- The output that a change chooses for an action. -/
def output? (action : PasteAction) : Change → Option PasteOutput
  | .selectAction _ => none
  | .selectOutput other output => if other = action then some output else none

end Change

/-- The action that was chosen last, and lists if none was. -/
def lastAction (changes : List Change) : PasteAction :=
  (changes.filterMap Change.action?).getLast?.getD .toList

/-- The output that was chosen last for an action, and the page if none was. -/
def lastOutput (action : PasteAction) (changes : List Change) : PasteOutput :=
  (changes.filterMap (Change.output? action)).getLast?.getD .display

variable {c d : PasteChoices} {x y : Change}

theorem ext_outputs (haction : c.action = d.action) (houtput : ∀ a, c.output a = d.output a) :
    c = d := by
  obtain ⟨action, list, table, extract⟩ := c
  obtain rfl : action = d.action := haction
  obtain rfl : list = d.listOutput := houtput .toList
  obtain rfl : table = d.tableOutput := houtput .fromJson
  obtain rfl : extract = d.extractOutput := houtput .extractLists
  rfl

/-- A change leaves the action that it chooses, or the one before. -/
theorem action_apply (c : PasteChoices) (x : Change) :
    (c.apply x).action = x.action?.getD c.action := by
  cases x with
  | selectAction action => rfl
  | selectOutput action output => cases action <;> rfl

/-- A change leaves the output that it chooses for an action, or the one before. -/
theorem output_apply (c : PasteChoices) (x : Change) (a : PasteAction) :
    (c.apply x).output a = (x.output? a).getD (c.output a) := by
  cases x with
  | selectAction action => cases a <;> rfl
  | selectOutput action output => cases action <;> cases a <;> rfl

theorem action?_eq_none (h : x.slot ≠ .action) : x.action? = none := by
  cases x with
  | selectAction action => exact absurd rfl h
  | selectOutput action output => rfl

theorem output?_eq_none {a : PasteAction} (h : x.slot ≠ .output a) : x.output? a = none := by
  cases x with
  | selectAction action => rfl
  | selectOutput action output => exact if_neg fun heq => h (congrArg Slot.output heq)

/-- Messages for different slots commute. -/
theorem apply_comm (h : x.slot ≠ y.slot) (c : PasteChoices) :
    (c.apply x).apply y = (c.apply y).apply x := by
  -- of two changes for different slots, at most one writes any given slot
  have hone : ∀ slot, x.slot ≠ slot ∨ y.slot ≠ slot := by
    intro slot
    by_contra hboth
    push Not at hboth
    exact h (hboth.1.trans hboth.2.symm)
  refine ext_outputs ?_ fun a => ?_
  · simp only [action_apply]
    rcases hone .action with hx | hy
    · rw [action?_eq_none hx, Option.getD_none, Option.getD_none]
    · rw [action?_eq_none hy, Option.getD_none, Option.getD_none]
  · simp only [output_apply]
    rcases hone (.output a) with hx | hy
    · rw [output?_eq_none hx, Option.getD_none, Option.getD_none]
    · rw [output?_eq_none hy, Option.getD_none, Option.getD_none]

/-! ### The last choice -/

/-- With one more entry, the last one that counts is that entry or, if it does not count, the
last one before. -/
theorem getLast?_filterMap_concat {α β : Type} (f : α → Option β) (entries : List α) (entry : α) :
    ((entries ++ [entry]).filterMap f).getLast? =
      (f entry).or (entries.filterMap f).getLast? := by
  rw [List.filterMap_append]
  cases h : f entry <;> simp [h]

theorem lastAction_concat (changes : List Change) (x : Change) :
    lastAction (changes ++ [x]) = x.action?.getD (lastAction changes) := by
  rw [lastAction, getLast?_filterMap_concat, lastAction]
  cases x.action? <;> rfl

theorem lastOutput_concat (a : PasteAction) (changes : List Change) (x : Change) :
    lastOutput a (changes ++ [x]) = (x.output? a).getD (lastOutput a changes) := by
  rw [lastOutput, getLast?_filterMap_concat, lastOutput]
  cases x.output? a <;> rfl

end PasteChoices

/-! ### Radio groups -/

/-- The one of several different entries that equals a given one is that entry. -/
theorem filter_beq_eq_singleton {α : Type} [DecidableEq α] {xs : List α} (hxs : xs.Nodup) {x : α}
    (hx : x ∈ xs) : xs.filter (x == ·) = [x] := by
  have hcount : xs.count x = 1 := List.count_eq_one_of_mem hxs hx
  have hflip : xs.filter (x == ·) = xs.filter (· == x) :=
    List.filter_congr fun y _ => BEq.comm
  rw [hflip, List.filter_beq, hcount, List.replicate_one]

namespace Markup

/-- Radio buttons offer values, in order, and exactly one of them is checked: the one with the
chosen value. -/
structure Offers (values : List String) (chosen : String) (buttons : List Markup) : Prop where
  values : buttons.map (·.value? "value") = values.map some
  checked : (buttons.filter (·.isChecked)).map (·.value? "value") = [some chosen]

end Markup

namespace Controls

open Markup (Offers)

/-- The button of a choice. -/
def radioButton (id field value : String) (isChosen : Bool) : Markup :=
  .element "input" [
    .checked isChosen, .text "id" id, .text "name" field, .text "type" "radio",
    .text "value" value] []

theorem isChecked_radioButton (id field value : String) (isChosen : Bool) :
    (radioButton id field value isChosen).isChecked = isChosen := by
  cases isChosen <;> rfl

/-- One of several different choices is checked, and no other. -/
theorem offers_map {α : Type} [DecidableEq α] (id value : α → String) (field : String)
    {xs : List α} (hxs : xs.Nodup) {chosen : α} (hchosen : chosen ∈ xs) :
    Offers (xs.map value) (value chosen)
      (xs.map fun x => radioButton (id x) field (value x) (chosen == x)) where
  values := by
    rw [List.map_map, List.map_map]
    rfl
  checked := by
    rw [List.filter_map]
    simp only [Function.comp_def, isChecked_radioButton, filter_beq_eq_singleton hxs hchosen]
    rfl

end Controls

/-! ### The form -/

namespace PasteTool

open PasteChoices (Change lastAction lastOutput)
open Markup (ofClass radios withId Offers)

/-- The form after a sequence of messages: the choices that it keeps. -/
def reached (changes : List Change) : PasteChoices :=
  (Session.after screen (changes.map .message)).state

/-- The form after a sequence of messages: the view that was shown last. -/
def displayed (changes : List Change) : Markup :=
  Session.display screen (changes.map .message)

theorem reached_concat (changes : List Change) (x : Change) :
    reached (changes ++ [x]) = (reached changes).apply x := by
  rw [reached, List.map_append, List.map_singleton, Session.after_concat]
  rfl

theorem reached_append (first second : List Change) :
    reached (first ++ second) = second.foldl PasteChoices.apply (reached first) := by
  induction second using List.reverseRecOn with
  | nil => rw [List.append_nil, List.foldl_nil]
  | append_singleton second x ih =>
    rw [← List.append_assoc, reached_concat, ih, List.foldl_append, List.foldl_cons,
      List.foldl_nil]

theorem displayed_eq_view (changes : List Change) : displayed changes = view (reached changes) :=
  Session.display_eq_view (fun _ => rfl) (fun _ _ h => Bool.noConfusion h) _

/-- The action is the one that was chosen last. -/
theorem action_reached (changes : List Change) :
    (reached changes).action = lastAction changes := by
  induction changes using List.reverseRecOn with
  | nil => rfl
  | append_singleton changes x ih =>
    rw [reached_concat, PasteChoices.action_apply, PasteChoices.lastAction_concat, ih]

/-- The output of an action is the one that was chosen for it last. -/
theorem output_reached (changes : List Change) (a : PasteAction) :
    (reached changes).output a = lastOutput a changes := by
  induction changes using List.reverseRecOn with
  | nil => cases a <;> rfl
  | append_singleton changes x ih =>
    rw [reached_concat, PasteChoices.output_apply, PasteChoices.lastOutput_concat, ih]

/-! ### What the form shows -/

section View

variable (c : PasteChoices) (a : PasteAction)

theorem ofClass_view : ofClass "option-panel" [view c] = PasteAction.all.map (panel c) := rfl

theorem radios_action :
    radios Field.action [view c] = PasteAction.all.map fun a =>
      Controls.radioButton a.controlId Field.action a.value (c.action == a) := rfl

theorem radios_output :
    radios a.outputField [view c] = PasteOutput.all.map fun o =>
      Controls.radioButton (a.outputControlId o) a.outputField o.value (c.output a == o) := by
  cases a <;> rfl

theorem radios_output_panel :
    radios a.outputField [panel c a] = radios a.outputField [view c] := by
  cases a <;> rfl

/-- Each panel has one group with file formats, and it is hidden unless the output is a file. -/
theorem exists_formatGroup :
    ∃ group, withId a.formatGroupId [view c] = [group] ∧
      withId a.formatGroupId [panel c a] = [group] ∧
      (group.isHidden = false ↔ c.output a = .file) := by
  have hhidden : ∀ group : Markup, group.value? "style" = some (blockStyle (c.showsFormats a)) →
      (group.isHidden = false ↔ c.output a = .file) := by
    intro group hstyle
    rw [Markup.isHidden_of_style hstyle, PasteChoices.showsFormats, Bool.not_eq_false', beq_iff_eq]
  cases a <;> exact ⟨_, rfl, rfl, hhidden _ rfl⟩

end View

/-- A panel of a page shows the choices for its action: it has the id of the action and is open
exactly if the action is chosen; its group with file formats is open exactly if the output is a
file; and its radio buttons, which are all buttons of their name on the page, offer the outputs
and have the chosen one checked. -/
structure PanelShows (page : Markup) (chosen a : PasteAction) (output : PasteOutput)
    (panel : Markup) : Prop where
  id : panel.value? "id" = some a.panelId
  isOpen : panel.isHidden = false ↔ chosen = a
  formats : ∃ group, withId a.formatGroupId [page] = [group] ∧
    withId a.formatGroupId [panel] = [group] ∧ (group.isHidden = false ↔ output = .file)
  buttons : radios a.outputField [panel] = radios a.outputField [page]
  outputs : Offers (PasteOutput.all.map (·.value)) output.value (radios a.outputField [page])

theorem panelShows_panel (c : PasteChoices) (a : PasteAction) :
    PanelShows (view c) c.action a (c.output a) (panel c a) where
  id := rfl
  isOpen := by
    rw [Markup.isHidden_of_style rfl, PasteChoices.showsPanel, Bool.not_eq_false', beq_iff_eq]
  formats := exists_formatGroup c a
  buttons := radios_output_panel c a
  outputs := by
    rw [radios_output]
    exact Controls.offers_map _ _ _ (by decide) (PasteOutput.mem_all _)

/-- Exactly one panel is open: that of the chosen action. -/
theorem openPanels_view (c : PasteChoices) :
    ((ofClass "option-panel" [view c]).filter (!·.isHidden)).map (·.value? "id") =
      [some c.action.panelId] := by
  have hopen : ∀ a, (panel c a).isHidden = !(c.action == a) := fun a =>
    Markup.isHidden_of_style rfl
  have hchosen : PasteAction.all.filter (c.action == ·) = [c.action] :=
    filter_beq_eq_singleton (by decide) (PasteAction.mem_all _)
  rw [ofClass_view, List.filter_map]
  simp only [Function.comp_def, hopen, Bool.not_not, hchosen]
  rfl

theorem offers_actions (c : PasteChoices) :
    Offers (PasteAction.all.map (·.value)) c.action.value (radios Field.action [view c]) := by
  rw [radios_action]
  exact Controls.offers_map _ _ _ (by decide) (PasteAction.mem_all _)

/-- The panel of an action depends on the choices for it alone. -/
theorem panel_congr {c d : PasteChoices} {a : PasteAction} (haction : c.action = d.action)
    (houtput : c.output a = d.output a) : panel c a = panel d a := by
  simp only [panel, PasteChoices.showsPanel, PasteChoices.showsFormats, haction, houtput]

/-- A choice of an output changes nothing but the panel of its own action. -/
theorem view_selectOutput (c : PasteChoices) (a : PasteAction) (o : PasteOutput) :
    let d := c.apply (.selectOutput a o)
    d.action = c.action ∧ actionGroup d = actionGroup c ∧
      ∀ b, b ≠ a → d.output b = c.output b ∧ panel d b = panel c b := by
  intro d
  have haction : d.action = c.action := PasteChoices.action_apply c _
  refine ⟨haction, by simp only [actionGroup, haction], fun b hb => ?_⟩
  have houtput : d.output b = c.output b := by
    rw [PasteChoices.output_apply, PasteChoices.output?_eq_none, Option.getD_none]
    exact fun hslot => hb (PasteChoices.Slot.output.inj hslot).symm
  exact ⟨houtput, panel_congr haction houtput⟩

theorem displayed_swap {x y : Change} (h : x.slot ≠ y.slot) (earlier later : List Change) :
    displayed (earlier ++ x :: y :: later) = displayed (earlier ++ y :: x :: later) := by
  rw [displayed_eq_view, displayed_eq_view, reached_append, reached_append]
  simp only [List.foldl_cons, PasteChoices.apply_comm h]

/-- The form after every sequence of messages. Its panels are those of the three actions, in
order, and each shows whether its action was chosen last and which output was chosen for it last;
exactly one of them is open. The radio buttons of the actions have the one that was chosen last
checked, and no other. A choice of an action changes no output, a choice of an output changes
neither the action nor another panel, and so messages for different slots can trade places. -/
theorem last_choices_on_display (changes : List Change) :
    let page := displayed changes
    let panels := ofClass "option-panel" [page]
    -- the panels and the action
    List.Forall₂ (fun a => PanelShows page (lastAction changes) a (lastOutput a changes))
      PasteAction.all panels ∧
    (panels.filter (!·.isHidden)).map (·.value? "id") = [some (lastAction changes).panelId] ∧
    Offers (PasteAction.all.map (·.value)) (lastAction changes).value
      (radios Field.action [page]) ∧
    -- what a choice leaves alone
    (∀ (c : PasteChoices) a b, (c.apply (.selectAction a)).output b = c.output b) ∧
    (∀ (c : PasteChoices) a o,
      let d := c.apply (.selectOutput a o)
      d.action = c.action ∧ actionGroup d = actionGroup c ∧
        ∀ b, b ≠ a → d.output b = c.output b ∧ panel d b = panel c b) ∧
    -- different slots
    ∀ x y : Change, x.slot ≠ y.slot →
      (∀ c : PasteChoices, (c.apply x).apply y = (c.apply y).apply x) ∧
      ∀ earlier later,
        displayed (earlier ++ x :: y :: later) = displayed (earlier ++ y :: x :: later) := by
  intro page panels
  have hpage : page = view (reached changes) := displayed_eq_view changes
  simp only [panels, hpage, ← action_reached, ← output_reached]
  refine ⟨?_, openPanels_view _, offers_actions _, fun c a b => PasteChoices.output_apply c _ b,
    view_selectOutput, fun x y h => ⟨PasteChoices.apply_comm h, displayed_swap h⟩⟩
  rw [ofClass_view, List.forall₂_map_right_iff, List.forall₂_same]
  exact fun a _ => panelShows_panel (reached changes) a

/-- A file that was chosen for tables is still chosen after two changes of the action. -/
example :
    let changes : List Change := [.selectOutput .fromJson .file, .selectAction .fromJson,
      .selectOutput .toList .display, .selectAction .extractLists]
    lastAction changes = .extractLists ∧ lastOutput .fromJson changes = .file ∧
      lastOutput .extractLists changes = .display := by
  decide

end PasteTool

end ConversionDesk
