/-!
# Kinds of column selection

## Main definitions

* `Column.Kind` — one column or several
-/

namespace ConversionDesk.Column

/-- Whether one column or several may be selected. -/
inductive Kind where
  | single
  | multiple
deriving DecidableEq, Repr

namespace Kind

/-- The type of the controls. -/
def inputType : Kind → String
  | single => "radio"
  | multiple => "checkbox"

/-- The form field that carries the selection. -/
def fieldName : Kind → String
  | single => "column_name"
  | multiple => "column_names"

/-- The heading above the controls. -/
def heading : Kind → String
  | single => "Select a column"
  | multiple => "Select columns"

end Kind

end ConversionDesk.Column
