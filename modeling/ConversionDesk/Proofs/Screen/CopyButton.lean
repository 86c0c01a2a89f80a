import ConversionDesk.Proofs.Screen.CopyLabel
import ConversionDesk.Screen.Desk

/-!
# The copy button on the page

The result area reacts to a request to copy whether it is visible or not; its button is shown
only while it is visible. What keeps the two together is not in the area at all, but in the
page that owns the outcome: it is visible exactly while an outcome is held.

A page is followed through every sequence of messages. The last message that opens a tool or
the menu says which tool is open, and an outcome is held from the message that brings it up
to the next message that clears the result. So on every page a button that is on display
copies, and one that is not cannot.

## Main definitions

* `Markup.displays` — an element is on display: neither it nor anything around it is hidden
* `Desk.reached` — the page after a sequence of messages
* `Desk.Message.navigates`, `Desk.Message.clears` — what a message does to the page

## Main results

* `Desk.tool_reached_iff`, `Desk.outcome_reached_iff` — what the page holds
* `Desk.copy_button_of_messages` — the copy button is on display exactly if it copies
-/

namespace ConversionDesk

/-! ### What is on display -/

namespace Markup

/-- The style of an element that is not on display. -/
def hidden : Attribute := .text "style" "display: none;"

mutual

/-- Whether the element with an id is on display: neither it nor anything around it is
hidden. -/
def displays (id : String) : Markup → Bool
  | .text _ => false
  | .element _ attributes children =>
    !attributes.contains hidden && (attributes.contains (.text "id" id) || displaysAny id children)
  | .fragment children => displaysAny id children

/-- Whether one of several trees displays an element. -/
def displaysAny (id : String) : List Markup → Bool
  | [] => false
  | m :: ms => displays id m || displaysAny id ms

end

end Markup

open Markup (displays displaysAny)
open Conversion (Outcome)

namespace ResultArea

/-- The id of the copy button. -/
def copyButtonId : String := "copy-btn"

/-- No outcome shows a copy button of its own. -/
theorem displaysAny_content (outcome : Option Outcome) :
    displaysAny copyButtonId (content outcome) = false := by
  rcases outcome with _ | outcome
  · rfl
  · cases outcome with
    | download url fileName => simp [content, displays, displaysAny, copyButtonId]
    | display shown => simp [content, displays, displaysAny, copyButtonId]
    | empty => rfl

/-- The button is on display exactly if it is shown in an area that is. -/
theorem displays_view (settings : Settings) (c : CopyConfirmation) :
    displays copyButtonId (view settings c) = showsCopy settings := by
  obtain ⟨outcome, visible⟩ := settings
  have hcontent := displaysAny_content outcome
  cases visible with
  | false => simp [view, displays, Markup.hidden, blockStyle, showsCopy]
  | true =>
    cases hshown : showsCopy { outcome, visible := true } with
    | true => simp [view, displays, displaysAny, Markup.hidden, blockStyle, hshown, copyButtonId]
    | false =>
      rw [copyButtonId] at hcontent
      simp [view, displays, displaysAny, Markup.hidden, blockStyle, hshown, copyButtonId, hcontent]

end ResultArea

namespace Desk

/-- Whether a message goes to a tool or to the menu. -/
def Message.navigates : Message → Bool
  | openTool _ | showMenu => true
  | submissionStarted | converted _ => false

/-- Whether a message empties the result area. -/
def Message.clears : Message → Bool
  | openTool _ | showMenu | submissionStarted => true
  | converted _ => false

/-- The page after a sequence of messages. -/
def reached (messages : List Message) : State :=
  (Session.after screen (messages.map .message)).state

theorem reached_nil : reached [] = {} := rfl

theorem reached_concat (messages : List Message) (m : Message) :
    reached (messages ++ [m]) = (reached messages).after m := by
  rw [reached, List.map_append, List.map_singleton, Session.after_concat]
  rfl

/-! ### What the page holds -/

/-- With one more entry, the last one that counts is that entry or, if it does not count, the
last one before. -/
theorem exists_split_concat {α : Type} {skips : α → Prop} {entries : List α} {entry last : α} :
    (∃ earlier later, entries ++ [entry] = earlier ++ last :: later ∧ ∀ x ∈ later, skips x) ↔
      entry = last ∨ skips entry ∧
        ∃ earlier later, entries = earlier ++ last :: later ∧ ∀ x ∈ later, skips x := by
  constructor
  · rintro ⟨earlier, later, heq, hlater⟩
    rcases List.eq_nil_or_concat later with rfl | ⟨front, final, rfl⟩
    · exact Or.inl (List.singleton_inj.mp (List.append_inj_right' heq rfl))
    · rw [List.concat_eq_append] at heq hlater
      rw [← List.cons_append, ← List.append_assoc] at heq
      obtain ⟨hfront, hfinal⟩ := List.append_inj' heq rfl
      obtain rfl := List.singleton_inj.mp hfinal
      rw [List.forall_mem_append] at hlater
      exact Or.inr ⟨hlater.2 entry List.mem_cons_self, earlier, front, hfront, hlater.1⟩
  · rintro (rfl | ⟨hentry, earlier, later, rfl, hlater⟩)
    · exact ⟨entries, [], rfl, fun x hx => nomatch hx⟩
    · refine ⟨earlier, later ++ [entry], by simp, ?_⟩
      rw [List.forall_mem_append, List.forall_mem_singleton]
      exact ⟨hlater, hentry⟩

/-- The open tool is the one opened last, unless the menu was shown after it. -/
theorem tool_reached_iff (messages : List Message) (tool : Tool) :
    (reached messages).tool = some tool ↔ ∃ earlier later,
      messages = earlier ++ .openTool tool :: later ∧ ∀ m ∈ later, m.navigates = false := by
  induction messages using List.reverseRecOn with
  | nil => simp [reached_nil]
  | append_singleton messages m ih =>
    rw [reached_concat, exists_split_concat, ← ih]
    cases m <;> simp [State.after, State.clearResult, Message.navigates]

/-- The page holds the outcome that came last, unless the result was cleared after it. -/
theorem outcome_reached_iff (messages : List Message) (outcome : Outcome) :
    (reached messages).outcome = some outcome ↔ ∃ earlier later,
      messages = earlier ++ .converted outcome :: later ∧
        ∀ m ∈ later, (∀ other, m ≠ .converted other) ∧ m.clears = false := by
  induction messages using List.reverseRecOn with
  | nil => simp [reached_nil]
  | append_singleton messages m ih =>
    -- a message either brings an outcome or clears it, so only the last one counts
    rw [reached_concat, exists_split_concat, ← ih]
    cases m <;> simp [State.after, State.clearResult, Message.clears]

theorem resultVisible_reached (messages : List Message) :
    (reached messages).resultVisible = (reached messages).outcome.isSome := by
  rcases List.eq_nil_or_concat messages with rfl | ⟨front, m, rfl⟩
  · rfl
  · rw [List.concat_eq_append, reached_concat]
    cases m <;> rfl

/-! ### The button on the page -/

/-- No tool brings a copy button of its own. -/
theorem displays_form (tool : Tool) :
    displays ResultArea.copyButtonId (form tool) = false := by
  cases tool <;> decide

theorem displays_menu : displays ResultArea.copyButtonId menu = false := by
  decide

theorem displays_view (s : State) :
    displays ResultArea.copyButtonId (view s) =
      (s.tool.isSome && ResultArea.showsCopy s.resultSettings) := by
  cases htool : s.tool with
  | none => simp [view, displays, displaysAny, htool, displays_menu]
  | some tool =>
    simp [view, toolView, displays, displaysAny, Markup.hidden, htool, displays_form,
      ResultArea.displays_view]

/-- A text that is held is on display, and only a text can be copied. -/
theorem showsCopy_reached_iff (messages : List Message) :
    ResultArea.showsCopy (reached messages).resultSettings = true ↔
      ∃ shown, (reached messages).outcome = some (.display shown) := by
  rw [ResultArea.showsCopy, Bool.and_eq_true, Option.isSome_iff_exists]
  simp only [ResultArea.copyable?_eq_some_iff]
  refine and_iff_right_of_imp ?_
  rintro ⟨shown, houtcome⟩
  -- the area is visible whenever the page holds an outcome
  exact (resultVisible_reached messages).trans (congrArg Option.isSome houtcome)

/-- The copy button of every page that messages lead to. The open tool is the one opened last,
unless the menu was shown after it; the outcome that is held is the one that came last, unless
the result was cleared after it; and the result area is visible exactly while an outcome is
held. So the copy button is on display exactly if a tool is open and a text is held. Whatever
happened to the result area before, with a text the button is on display and a request to copy
offers that text to the clipboard, and otherwise the button is hidden and a request does
nothing. -/
theorem copy_button_of_messages (messages : List Message) :
    let s := reached messages
    -- what the page holds
    (∀ tool, s.tool = some tool ↔ ∃ earlier later,
      messages = earlier ++ .openTool tool :: later ∧ ∀ m ∈ later, m.navigates = false) ∧
    (∀ outcome, s.outcome = some outcome ↔ ∃ earlier later,
      messages = earlier ++ .converted outcome :: later ∧
        ∀ m ∈ later, (∀ other, m ≠ .converted other) ∧ m.clears = false) ∧
    (s.resultVisible = true ↔ s.outcome.isSome = true) ∧
    -- the page
    (displays ResultArea.copyButtonId (view s) = true ↔
      s.tool.isSome = true ∧ ∃ shown, s.outcome = some (.display shown)) ∧
    -- its result area, in every state
    ∀ area : Session CopyConfirmation ResultArea.Task,
      let button := displays ResultArea.copyButtonId (ResultArea.view s.resultSettings area.state)
      let copied := (ResultArea.step s.resultSettings area (.message ())).2
      (∀ shown, s.outcome = some (.display shown) → button = true ∧
        copied = { area with tasks := area.tasks ++ [some (.writeClipboard shown)] }) ∧
      ((∀ shown, s.outcome ≠ some (.display shown)) → button = false ∧ copied = area) := by
  intro s
  refine ⟨tool_reached_iff messages, outcome_reached_iff messages, ?_, ?_, fun area => ⟨?_, ?_⟩⟩
  · rw [show s.resultVisible = _ from resultVisible_reached messages]
  · rw [displays_view, Bool.and_eq_true, showsCopy_reached_iff]
  · intro shown hshown
    have hcopyable : s.resultSettings.copyable? = some shown :=
      ResultArea.copyable?_eq_some_iff.mpr hshown
    refine ⟨?_, by rw [ResultArea.step_copy _ hcopyable]⟩
    rw [ResultArea.displays_view, showsCopy_reached_iff]
    exact ⟨shown, hshown⟩
  · intro hnone
    have hcopyable : s.resultSettings.copyable? = none :=
      ResultArea.copyable?_eq_none_iff.mpr hnone
    refine ⟨?_, by rw [ResultArea.step_copy_of_none _ hcopyable]⟩
    rw [ResultArea.displays_view, ← Bool.not_eq_true, showsCopy_reached_iff]
    rintro ⟨shown, hshown⟩
    exact hnone shown hshown

end Desk

end ConversionDesk
