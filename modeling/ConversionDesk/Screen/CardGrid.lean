import ConversionDesk.Markup

/-!
# Card grids

## Main definitions

* `CardGrid.view` — cards in a grid of at least one column
-/

namespace ConversionDesk.CardGrid

open Markup (element)

/-- A line break in the style text, with the indentation of the next line. -/
def styleBreak : String := "\n             "

/-- The style of a grid; there is always at least one column. -/
def style (columns : Nat) : String :=
  "display: grid;" ++ styleBreak ++
    "grid-template-columns: repeat(" ++ toString (max columns 1) ++ ", minmax(0, 1fr));" ++
    styleBreak ++ "gap: 16px;" ++ styleBreak ++ "margin: 24px 0;"

/-- Cards in a grid. -/
def view (columns : Nat) (cards : List Markup) : Markup :=
  element "div" [.text "class" "tool-grid", .text "style" (style columns)] cards

end ConversionDesk.CardGrid
