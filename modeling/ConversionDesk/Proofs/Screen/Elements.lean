import ConversionDesk.Markup

/-!
# Elements in document order

A browser takes a page for a sequence of elements: it sends the checked inputs in the order in
which they stand, finds a label by the id that it is for, and tells siblings apart by their
keys. This file reads markup the same way, so that what a screen means to a browser can be said
without repeating how its view is built.

## Main definitions

* `Markup.elements` — all elements of a tree, in document order
* `Markup.tagged`, `Markup.ofClass` — those with a tag, and those of a class
* `Markup.withId`, `Markup.radios` — those with an id, and the radio buttons of a group
* `Markup.value?`, `Markup.key?`, `Markup.isChecked`, `Markup.isHidden` — what the attributes of
  an element say
* `Markup.checkedValues` — what the checked inputs of some trees stand for

## Main results

* `Markup.filter_elementsAll_map` — the elements of similar trees, one tree after the other
-/

namespace ConversionDesk.Markup

/-! ### One element -/

/-- Whether a tree is an element with the given tag. -/
def hasTag (tag : String) : Markup → Bool
  | element other _ _ => other == tag
  | _ => false

/-- The attributes of an element. -/
def attributes : Markup → List Attribute
  | element _ attributes _ => attributes
  | _ => []

/-- The trees directly inside an element or a fragment. -/
def children : Markup → List Markup
  | text _ => []
  | element _ _ children => children
  | fragment children => children

/-- The value of the attribute with the given name. -/
def value? (name : String) (m : Markup) : Option String :=
  m.attributes.findSome? fun
    | .text other value => if other = name then some value else none
    | _ => none

/-- The key of an element. -/
def key? (m : Markup) : Option String :=
  m.attributes.findSome? fun
    | .key value => some value
    | _ => none

/-- Whether an element is a control that is checked. -/
def isChecked (m : Markup) : Bool := m.attributes.contains (.checked true)

/-- Whether an element has the given class, and no other. -/
def isOfClass (name : String) (m : Markup) : Bool := m.value? "class" == some name

/-- Whether an element is hidden by its own style. -/
def isHidden (m : Markup) : Bool := m.value? "style" == some "display: none;"

/-- Whether an element is a radio button of the given name. -/
def isRadio (name : String) (m : Markup) : Bool :=
  m.value? "type" == some "radio" && m.value? "name" == some name

theorem isHidden_of_style {m : Markup} {visible : Bool}
    (h : m.value? "style" = some (blockStyle visible)) : m.isHidden = !visible := by
  rw [isHidden, h]
  cases visible <;> decide

/-! ### All elements of a tree -/

mutual

/-- All elements of a tree, in document order. -/
def elements : Markup → List Markup
  | text _ => []
  | element tag attributes children => element tag attributes children :: elementsAll children
  | fragment children => elementsAll children

/-- All elements of several trees, in document order. -/
def elementsAll : List Markup → List Markup
  | [] => []
  | m :: ms => elements m ++ elementsAll ms

end

/-- The elements with the given tag, in document order. -/
def tagged (tag : String) (ms : List Markup) : List Markup := (elementsAll ms).filter (hasTag tag)

/-- The elements that have the given class, and no other, in document order. -/
def ofClass (name : String) (ms : List Markup) : List Markup :=
  (elementsAll ms).filter (isOfClass name)

/-- The elements with the given id, in document order. -/
def withId (id : String) (ms : List Markup) : List Markup :=
  (elementsAll ms).filter (·.value? "id" == some id)

/-- The radio buttons of a group, in document order: those that have the same name. -/
def radios (name : String) (ms : List Markup) : List Markup :=
  (tagged "input" ms).filter (isRadio name)

/-- The values of the checked inputs, in document order. -/
def checkedValues (ms : List Markup) : List String :=
  ((tagged "input" ms).filter isChecked).filterMap (value? "value")

theorem elementsAll_append (ms ns : List Markup) :
    elementsAll (ms ++ ns) = elementsAll ms ++ elementsAll ns := by
  induction ms with
  | nil => rfl
  | cons m ms ih => rw [List.cons_append, elementsAll, elementsAll, ih, List.append_assoc]

/-- The elements of similar trees that are wanted are those of each tree, one tree after the
other. -/
theorem filter_elementsAll_map {α : Type} {p : Markup → Bool} {view : α → Markup}
    {wanted : α → List Markup} (h : ∀ x, (elementsAll [view x]).filter p = wanted x)
    (xs : List α) : (elementsAll (xs.map view)).filter p = xs.flatMap wanted := by
  induction xs with
  | nil => rfl
  | cons x xs ih =>
    rw [List.map_cons, ← List.singleton_append, elementsAll_append, List.filter_append, h, ih,
      List.flatMap_cons]

theorem filter_elementsAll_map_eq_nil {α : Type} {p : Markup → Bool} {view : α → Markup}
    (h : ∀ x, (elementsAll [view x]).filter p = []) (xs : List α) :
    (elementsAll (xs.map view)).filter p = [] := by
  rw [filter_elementsAll_map h, List.flatMap_eq_nil_iff]
  exact fun _ _ => rfl

end ConversionDesk.Markup
