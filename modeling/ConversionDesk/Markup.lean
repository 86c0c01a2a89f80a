/-!
# Markup

What a screen shows, as a tree of elements, and the HTML text of it. Elements list their
attributes by name, and an attribute that is switched off is not written.

## Main definitions

* `Markup`, `Attribute` — elements, texts and fragments
* `Markup.html` — the HTML text
* `blockStyle` — the style that shows or hides an element
-/

namespace ConversionDesk

/-- An attribute of an element. -/
inductive Attribute where
  /-- A name and a value, which may be empty. -/
  | text (name value : String)
  /-- A name that is its own value, written only when on. -/
  | flag (name : String) (isOn : Bool)
  /-- The state of a control, a bare word written only when on. -/
  | checked (isOn : Bool)
  /-- What tells an element from its siblings when they are shown again; never written. -/
  | key (value : String)
deriving DecidableEq, Repr

/-- A tree of elements. -/
inductive Markup where
  | text (content : String)
  | element (tag : String) (attributes : List Attribute) (children : List Markup)
  | fragment (children : List Markup)
deriving Repr

namespace Markup

/-- Escapes what would open markup inside a text. -/
def escapeText (s : String) : String :=
  String.ofList (s.toList.flatMap fun
    | '&' => ['&', 'a', 'm', 'p', ';']
    | '<' => ['&', 'l', 't', ';']
    | '>' => ['&', 'g', 't', ';']
    | c => [c])

/-- Escapes what would end an attribute value, as well. -/
def escapeValue (s : String) : String :=
  String.ofList ((escapeText s).toList.flatMap fun
    | '"' => ['&', 'q', 'u', 'o', 't', ';']
    | c => [c])

/-- An attribute in an opening tag, after a space. -/
def attributeHtml : Attribute → String
  | .text name value => " " ++ name ++ "=\"" ++ escapeValue value ++ "\""
  | .flag name true => " " ++ name ++ "=\"" ++ name ++ "\""
  | .checked true => " checked"
  | _ => ""

/-- Elements that have no content and no closing tag. -/
def isVoid (tag : String) : Bool := tag == "input"

/-- The opening tag of an element. -/
def openTag (tag : String) (attributes : List Attribute) : String :=
  "<" ++ tag ++ String.join (attributes.map attributeHtml) ++ ">"

mutual

/-- The HTML text of a tree. -/
def html : Markup → String
  | text content => escapeText content
  | element tag attributes children =>
    openTag tag attributes ++
      (if isVoid tag then "" else htmlAll children ++ "</" ++ tag ++ ">")
  | fragment children => htmlAll children

/-- The HTML text of trees, one after the other. -/
def htmlAll : List Markup → String
  | [] => ""
  | m :: ms => html m ++ htmlAll ms

end

/-- A paragraph of text. -/
def paragraph (content : String) : Markup := element "p" [] [text content]

end Markup

/-- The style that shows an element as a block, or hides it. -/
def blockStyle (visible : Bool) : String := if visible then "display: block;" else "display: none;"

end ConversionDesk
