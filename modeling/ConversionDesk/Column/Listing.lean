import ConversionDesk.Json.Record
import ConversionDesk.Reply

/-!
# Column listings

The body with which the server lists the columns of an uploaded file. Spreadsheet headers
are not always text, so an entry of any type gives a header.

## Main definitions

* `Column.Listing` — the body
* `Column.Listing.parse?` — read from JSON
* `Column.discover` — the headers of a reply
-/

namespace ConversionDesk.Column

open ConversionDesk.Json

/-- The server's list of columns. -/
structure Listing where
  /-- The headers in file order. -/
  headers : Option (List String) := none
  /-- Why the server refused the file. -/
  error : Option Value := none

/-- The header an entry gives: strings as they are, nothing for `null`, other values as
compact JSON. -/
def headerOf : Value → String
  | .string s => s
  | .null => ""
  | v => v.compact

namespace Listing

/-- The names of the fields, in the order in which an array gives them. -/
def names : List String := ["headers", "error"]

/-- The listing that fields give; `none` if the headers are no array. -/
def ofFields? (fields : List (String × Value)) : Option Listing := do
  let headers ← match Record.field? "headers" fields with
    | none => some none
    | some (.array entries) => some (some (entries.map headerOf))
    | some _ => none
  return { headers, error := Record.field? "error" fields }

/-- The listing of a body text. -/
def parse? (body : String) : Option Listing := (Record.parse? names body).bind ofFields?

/-- A listing without headers and error. -/
def isBare (l : Listing) : Bool := l.headers.isNone && l.error.isNone

end Listing

/-- What column discovery says about its failures. -/
def wording : Wording where
  unexplained := "Could not parse file."
  noReply := "An unexpected error occurred. Check console for details."
  rejectedLog := "header discovery rejected with status "
  noReplyLog := "header request failed: "

/-- The headers of a reply; a listing without headers has none. -/
def discover (reply : Reply) : Except Failure (List String) :=
  reply.settle Listing.parse? (fun l => l.headers.getD []) Listing.error

end ConversionDesk.Column
