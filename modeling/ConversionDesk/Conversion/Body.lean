import ConversionDesk.Conversion.Outcome
import ConversionDesk.Json.Record
import ConversionDesk.Reply

/-!
# Bodies of conversion replies

What a conversion endpoint sends: a file on the server, inline data, or an error,
and a flag that rendering does not look at. Its outcome is the file if there is one, else
the data unless they are empty in the sense of `hasContent`.

## Main definitions

* `Conversion.Body` — the body of a reply
* `Conversion.Body.parse?`, `Conversion.Body.write` — read and written as JSON
* `Conversion.Body.outcome` — what a success shows
* `Conversion.settle` — the outcome of a reply
-/

namespace ConversionDesk.Conversion

open ConversionDesk.Json

/-- The body of a conversion endpoint. An absent field and `null` are the same. -/
structure Body where
  /-- The server path of a generated file. -/
  downloadUrl : Option String := none
  /-- The inline result. -/
  data : Option Value := none
  /-- Why the server refused. -/
  error : Option Value := none
  /-- Marks `data` as formatted JSON; of any type, because nothing depends on it. -/
  preformatted : Option Value := none

/-- The text an inline result is shown as: strings as they are, containers indented, other
values as JSON. -/
def shownText : Value → String
  | .string s => s
  | .array xs => (Value.array xs).indented
  | .object ms => (Value.object ms).indented
  | v => v.compact

/-- An inline result worth showing: `null`, `false`, zeros and the empty string are not. -/
def hasContent : Value → Bool
  | .null => false
  | .bool b => b
  | .number n => !n.isZero
  | .string s => s != ""
  | .array _ => true
  | .object _ => true

namespace Body

/-- The names of the fields, in the order in which an array gives them. -/
def names : List String := ["download_url", "data", "error", "is_json_string"]

/-- The body that fields give; `none` if the path is no string. -/
def ofFields? (fields : List (String × Value)) : Option Body := do
  let downloadUrl ← match Record.field? "download_url" fields with
    | none => some none
    | some (.string url) => some (some url)
    | some _ => none
  return {
    downloadUrl
    data := Record.field? "data" fields
    error := Record.field? "error" fields
    preformatted := Record.field? "is_json_string" fields }

/-- The body that a text holds. -/
def parse? (text : String) : Option Body := (Record.parse? names text).bind ofFields?

/-- The body as a JSON value, with all fields in order and absent ones as `null`. -/
def toValue (b : Body) : Value :=
  .object [
    ("download_url", (b.downloadUrl.map Value.string).getD .null),
    ("data", b.data.getD .null),
    ("error", b.error.getD .null),
    ("is_json_string", b.preformatted.getD .null)]

/-- The compact JSON text of the body. -/
def write (b : Body) : String := b.toValue.compact

/-- Equality of bodies, up to the order of object members at every depth. -/
def same (a b : Body) : Bool :=
  a.downloadUrl == b.downloadUrl && Value.sameOption a.data b.data &&
    Value.sameOption a.error b.error && Value.sameOption a.preformatted b.preformatted

/-- What a success shows. A path wins over data; an empty path is none. -/
def outcome (b : Body) : Outcome :=
  match b.downloadUrl.filter (· != "") with
  | some url => .ofUrl url
  | none =>
    match b.data.filter hasContent with
    | some v => .display (shownText v)
    | none => .empty

end Body

/-- What a conversion says about its failures. -/
def wording : Wording where
  unexplained := "An unknown error occurred."
  noReply := "An error occurred while submitting the form. Please check the console."
  rejectedLog := "conversion rejected with status "
  noReplyLog := "request failed: "

/-- The outcome of a reply to a conversion request. -/
def settle (reply : Reply) : Except Failure Outcome :=
  reply.settle Body.parse? Body.outcome Body.error

end ConversionDesk.Conversion
