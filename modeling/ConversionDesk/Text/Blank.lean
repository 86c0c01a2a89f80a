/-!
# Blank characters

The characters with the Unicode property White_Space, and the spelling of a text as one
word, in which every maximal run of blanks is replaced by a single hyphen.

## Main definitions

* `Text.isBlank` — the White_Space property
* `Text.hyphenate` — a text with its runs of blanks replaced
-/

namespace ConversionDesk.Text

/-- The ranges of White_Space code points, in ascending order, both ends included. -/
def blankRanges : List (Nat × Nat) :=
  [(0x0009, 0x000D), (0x0020, 0x0020), (0x0085, 0x0085), (0x00A0, 0x00A0), (0x1680, 0x1680),
   (0x2000, 0x200A), (0x2028, 0x2029), (0x202F, 0x202F), (0x205F, 0x205F), (0x3000, 0x3000)]

example : blankRanges.Pairwise fun a b => a.2 < b.1 := by decide
example : (blankRanges.map fun r => r.2 + 1 - r.1).sum = 25 := by decide

/-- A character with the White_Space property. -/
def isBlank (c : Char) : Bool := blankRanges.any fun r => r.1 ≤ c.toNat && c.toNat ≤ r.2

/-- The ASCII blanks are blank. -/
theorem isBlank_of_isWhitespace {c : Char} (h : c.isWhitespace = true) : isBlank c = true := by
  simp only [Char.isWhitespace, Bool.or_eq_true, decide_eq_true_eq] at h
  rcases h with ((rfl | rfl) | rfl) | rfl <;> decide

/-- Replaces runs of blanks by one hyphen each; the flag tells that the characters before
were blank, so their run has its hyphen. -/
def hyphenateFrom : Bool → List Char → List Char
  | _, [] => []
  | inRun, c :: cs =>
    if isBlank c then
      if inRun then hyphenateFrom true cs else '-' :: hyphenateFrom true cs
    else
      c :: hyphenateFrom false cs

/-- A text with every maximal run of blanks replaced by one hyphen. -/
def hyphenate (s : String) : String := String.ofList (hyphenateFrom false s.toList)

example : hyphenate " First \t Name-" = "-First-Name-" := by decide

end ConversionDesk.Text
