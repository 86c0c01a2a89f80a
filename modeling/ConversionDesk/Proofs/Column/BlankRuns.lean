import ConversionDesk.Column.Selection
import Mathlib.Data.List.Chain
import Mathlib.Data.List.Forall2

/-!
# Headers as single words

A header enters the id of its control as one word: every run of blanks becomes one hyphen. The
word is made in one pass from left to right that remembers no more than whether the last character
was blank. Here it is compared with the header as a whole, cut into the characters that are kept
and the runs of blanks between them.

No two runs of a cut meet, so its runs are the maximal ones, and a header can be cut in one way
only. The word has one character for every piece. Which blanks a run is made of, and how many,
is therefore lost, and so is the difference between a run and a hyphen.

## Main definitions

* `Text.Piece` — a character that is kept, or a run of blanks
* `Text.Cut` — a text cut into pieces, with what makes the cut the right one
* `Text.Cut.of` — the cut of a text

## Main results

* `Text.Cut.pieces_eq` — a text has one cut
* `Text.Cut.toList_hyphenate` — the pass from left to right replaces the runs of the cut
* `Column.header_in_id_is_one_word` — the header in the id of a control
-/

namespace ConversionDesk

namespace Text

/-- A piece of a text: a character that is kept, or a run of blanks. -/
inductive Piece where
  | letter (c : Char)
  | blanks (run : List Char)
deriving DecidableEq, Repr

namespace Piece

/-- The characters of a piece. -/
def chars : Piece → List Char
  | letter c => [c]
  | blanks run => run

/-- The character that stands for a piece in the word. -/
def mark : Piece → Char
  | letter c => c
  | blanks _ => '-'

/-- What is kept is not blank, and runs are made of blanks only, of at least one. -/
def Proper : Piece → Prop
  | letter c => isBlank c = false
  | blanks run => run ≠ [] ∧ ∀ c ∈ run, isBlank c = true

/-- Neighbours that are not both runs. -/
def Apart : Piece → Piece → Prop
  | blanks _, blanks _ => False
  | _, _ => True

/-- Pieces that differ in the blanks of a run at most. -/
inductive Alike : Piece → Piece → Prop
  | letter (c : Char) : Alike (letter c) (letter c)
  | blanks (run run' : List Char) : Alike (blanks run) (blanks run')

theorem Alike.mark_eq {p q : Piece} (h : p.Alike q) : p.mark = q.mark := by
  cases h <;> rfl

theorem map_mark_eq {pieces pieces' : List Piece} (h : List.Forall₂ Alike pieces pieces') :
    pieces.map mark = pieces'.map mark := by
  induction h with
  | nil => rfl
  | cons hp _ ih => rw [List.map_cons, List.map_cons, hp.mark_eq, ih]

/-- The blanks that pieces begin with. -/
def leadingRun : List Piece → List Char
  | .blanks run :: _ => run
  | _ => []

/-- The pieces after the blanks that they begin with. -/
def afterRun : List Piece → List Piece
  | .blanks _ :: pieces => pieces
  | pieces => pieces

/-- Puts a character in front. A blank joins the run that the pieces begin with. -/
def add (c : Char) (pieces : List Piece) : List Piece :=
  if isBlank c then .blanks (c :: leadingRun pieces) :: afterRun pieces else .letter c :: pieces

theorem leadingRun_append (pieces : List Piece) :
    leadingRun pieces ++ (afterRun pieces).flatMap chars = pieces.flatMap chars := by
  cases pieces with
  | nil => rfl
  | cons p pieces => cases p <;> rfl

theorem flatMap_chars_add (c : Char) (pieces : List Piece) :
    (add c pieces).flatMap chars = c :: pieces.flatMap chars := by
  rw [add]
  split
  · rw [List.flatMap_cons, chars, List.cons_append, leadingRun_append]
  · rfl

theorem afterRun_suffix (pieces : List Piece) : afterRun pieces <:+ pieces := by
  cases pieces with
  | nil => exact List.suffix_rfl
  | cons p pieces =>
    cases p with
    | letter c => exact List.suffix_rfl
    | blanks run => exact List.suffix_cons _ pieces

theorem isBlank_of_mem_leadingRun {pieces : List Piece} (h : ∀ p ∈ pieces, p.Proper) :
    ∀ c ∈ leadingRun pieces, isBlank c = true := by
  cases pieces with
  | nil => simp [leadingRun]
  | cons p pieces =>
    cases p with
    | letter c => simp [leadingRun]
    | blanks run => exact (h _ List.mem_cons_self).2

theorem proper_add (c : Char) {pieces : List Piece} (h : ∀ p ∈ pieces, p.Proper) :
    ∀ p ∈ add c pieces, p.Proper := by
  intro p hp
  cases hc : isBlank c with
  | true =>
    rw [add, if_pos hc] at hp
    rcases List.mem_cons.mp hp with rfl | hp
    · refine ⟨List.cons_ne_nil _ _, ?_⟩
      simpa [hc] using isBlank_of_mem_leadingRun h
    · exact h p ((afterRun_suffix pieces).subset hp)
  | false =>
    rw [add, hc, if_neg Bool.false_ne_true] at hp
    rcases List.mem_cons.mp hp with rfl | hp
    · exact hc
    · exact h p hp

theorem not_apart_blanks {run run' : List Char} : ¬ Apart (blanks run) (blanks run') := id

theorem apart_letter {p : Piece} {c : Char} : Apart p (letter c) := by
  cases p <;> trivial

/-- No run comes right after the leading one. -/
theorem apart_afterRun {pieces : List Piece} (h : pieces.IsChain Apart) (run : List Char) :
    ∀ p ∈ (afterRun pieces).head?, Apart (blanks run) p := by
  intro p hp
  cases p with
  | letter c => exact apart_letter
  | blanks other =>
    -- the pieces after a run would begin with a run
    cases pieces with
    | nil => simp [afterRun] at hp
    | cons q pieces =>
      cases q with
      | letter c => simp [afterRun] at hp
      | blanks first => exact absurd ((List.isChain_cons.mp h).1 _ hp) not_apart_blanks

theorem isChain_add (c : Char) {pieces : List Piece} (h : pieces.IsChain Apart) :
    (add c pieces).IsChain Apart := by
  rw [add]
  split
  · exact List.isChain_cons.mpr ⟨apart_afterRun h _, h.suffix (afterRun_suffix pieces)⟩
  · exact List.isChain_cons.mpr ⟨fun p _ => trivial, h⟩

end Piece

/-- A text cut into pieces. Joined they are the text, and no two runs meet, so that each run is as
long as it can be. -/
@[ext] structure Cut (text : List Char) where
  pieces : List Piece
  joined : pieces.flatMap Piece.chars = text
  proper : ∀ p ∈ pieces, p.Proper
  apart : pieces.IsChain Piece.Apart

namespace Cut

variable {text : List Char}

/-- The cut of a text with one more character in front. -/
def add (c : Char) (cut : Cut text) : Cut (c :: text) where
  pieces := Piece.add c cut.pieces
  joined := by rw [Piece.flatMap_chars_add, cut.joined]
  proper := Piece.proper_add c cut.proper
  apart := Piece.isChain_add c cut.apart

/-- The cut of a text. -/
def of : (text : List Char) → Cut text
  | [] => ⟨[], rfl, by simp, .nil⟩
  | c :: text => (of text).add c

theorem pieces_of_cons (c : Char) (text : List Char) :
    (of (c :: text)).pieces = Piece.add c (of text).pieces := rfl

/-- Blanks in front of a text join the run that it begins with. -/
theorem pieces_of_append {run : List Char} (hne : run ≠ []) (hrun : ∀ c ∈ run, isBlank c = true)
    (rest : List Char) :
    (of (run ++ rest)).pieces =
      .blanks (run ++ Piece.leadingRun (of rest).pieces) :: Piece.afterRun (of rest).pieces := by
  induction run with
  | nil => exact absurd rfl hne
  | cons c run ih =>
    obtain ⟨hc, hrun⟩ := List.forall_mem_cons.mp hrun
    rw [List.cons_append, pieces_of_cons, Piece.add, if_pos hc]
    cases run with
    | nil => rfl
    | cons d run =>
      rw [ih (List.cons_ne_nil d run) hrun]
      rfl

/-- A text has one cut: whatever cuts it has the same pieces. -/
theorem pieces_eq (cut : Cut text) : cut.pieces = (of text).pieces := by
  obtain ⟨pieces, rfl, hproper, hapart⟩ := cut
  show pieces = _
  induction pieces with
  | nil => rfl
  | cons p pieces ih =>
    obtain ⟨hp, hproper⟩ := List.forall_mem_cons.mp hproper
    obtain ⟨hnext, hapart⟩ := List.isChain_cons.mp hapart
    have hrest := ih hproper hapart
    cases p with
    | letter c =>
      have hc : isBlank c = false := hp
      rw [List.flatMap_cons, Piece.chars, List.singleton_append, pieces_of_cons, ← hrest,
        Piece.add, hc, if_neg Bool.false_ne_true]
    | blanks run =>
      rw [List.flatMap_cons, Piece.chars, pieces_of_append hp.1 hp.2, ← hrest]
      -- the run takes in nothing more, for the pieces after it begin with no run
      cases pieces with
      | nil => simp [Piece.leadingRun, Piece.afterRun]
      | cons q pieces =>
        cases q with
        | letter c => simp [Piece.leadingRun, Piece.afterRun]
        | blanks other => exact absurd (hnext _ rfl) Piece.not_apart_blanks

/-- What the pass from left to right still writes: a mark for every piece of the rest, and none for
the run that it is in. -/
theorem hyphenateFrom_eq_map (inRun : Bool) (text : List Char) :
    hyphenateFrom inRun text =
      (if inRun then Piece.afterRun (of text).pieces else (of text).pieces).map Piece.mark := by
  induction text generalizing inRun with
  | nil => cases inRun <;> rfl
  | cons c text ih =>
    rw [hyphenateFrom, ih, ih, pieces_of_cons, Piece.add]
    cases isBlank c <;> cases inRun <;> rfl

/-- The word has one character for every piece of the text. -/
theorem toList_hyphenate {text : String} (cut : Cut text.toList) :
    (hyphenate text).toList = cut.pieces.map Piece.mark := by
  rw [hyphenate, String.toList_ofList, hyphenateFrom_eq_map, cut.pieces_eq]
  rfl

end Cut

/-- A word holds no blanks. -/
theorem isBlank_of_mem_hyphenate {text : String} :
    ∀ c ∈ (hyphenate text).toList, isBlank c = false := by
  rw [(Cut.of text.toList).toList_hyphenate, List.forall_mem_map]
  intro p hp
  have hproper := (Cut.of text.toList).proper p hp
  cases p with
  | letter c => exact hproper
  | blanks run => exact (by decide : isBlank '-' = false)

/-- A text without blanks is a word already. -/
theorem hyphenateFrom_of_no_blank {text : List Char} (h : ∀ c ∈ text, isBlank c = false) :
    hyphenateFrom false text = text := by
  induction text with
  | nil => rfl
  | cons c text ih =>
    obtain ⟨hc, htext⟩ := List.forall_mem_cons.mp h
    rw [hyphenateFrom, hc, if_neg Bool.false_ne_true, ih htext]

theorem hyphenate_hyphenate (text : String) : hyphenate (hyphenate text) = hyphenate text := by
  rw [← String.toList_inj, hyphenate, String.toList_ofList,
    hyphenateFrom_of_no_blank isBlank_of_mem_hyphenate]

/-- Texts whose runs lie between the same characters give the same word. -/
theorem hyphenate_eq_of_alike {text other : String} (cut : Cut text.toList)
    (cut' : Cut other.toList) (h : List.Forall₂ Piece.Alike cut.pieces cut'.pieces) :
    hyphenate text = hyphenate other := by
  rw [← String.toList_inj, cut.toList_hyphenate, cut'.toList_hyphenate, Piece.map_mark_eq h]

end Text

namespace Column

open Text

/-- The header enters the id of its control as one word. The word holds no blanks. The header has
one cut into the characters that are kept and the maximal runs of blanks, and the word has in the
place of each run one hyphen, with all other characters as they were. Replacing blanks again changes
nothing. Headers that differ only in which blanks, and how many, make up their runs give the same
word. -/
theorem header_in_id_is_one_word (container : String) (index : Nat) (header : String) :
    controlId container index header =
      "col-" ++ container ++ "-" ++ toString index ++ "-" ++ hyphenate header ∧
    (∀ c ∈ (hyphenate header).toList, isBlank c = false) ∧
    (∃ cut : Cut header.toList, (∀ other : Cut header.toList, other = cut) ∧
      (hyphenate header).toList = cut.pieces.map Piece.mark) ∧
    hyphenate (hyphenate header) = hyphenate header ∧
    ∀ (other : String) (cut : Cut header.toList) (cut' : Cut other.toList),
      List.Forall₂ Piece.Alike cut.pieces cut'.pieces → hyphenate header = hyphenate other := by
  refine ⟨rfl, isBlank_of_mem_hyphenate, ?_, hyphenate_hyphenate header, ?_⟩
  · exact ⟨.of header.toList, fun other => Cut.ext other.pieces_eq,
      (Cut.of header.toList).toList_hyphenate⟩
  · intro other cut cut' halike
    exact hyphenate_eq_of_alike cut cut' halike

/-- A header with a leading blank and a tabulator, and one with wide and doubled blanks. -/
theorem spacings_in_id_are_alike :
    List.Forall₂ Piece.Alike (Cut.of " Unit\t- price".toList).pieces
      (Cut.of "\u3000Unit  -\u2003\n price".toList).pieces ∧
    hyphenate " Unit\t- price" = "-Unit---price" ∧
    hyphenate " Unit\t- price" = hyphenate "\u3000Unit  -\u2003\n price" := by
  have halike : List.Forall₂ Piece.Alike (Cut.of " Unit\t- price".toList).pieces
      (Cut.of "\u3000Unit  -\u2003\n price".toList).pieces := by repeat constructor
  obtain ⟨-, -, -, -, hsame⟩ := header_in_id_is_one_word "columns" 0 " Unit\t- price"
  exact ⟨halike, by decide, hsame _ _ _ halike⟩

end Column

end ConversionDesk
