import ConversionDesk.Text.Segment

/-!
# Outcomes of a conversion

## Main definitions

* `Conversion.Outcome` — what the result area shows after a conversion
* `Conversion.Outcome.ofUrl` — the download of a server path
-/

namespace ConversionDesk.Conversion

/-- What the result area shows after a conversion. -/
inductive Outcome where
  /-- A link to a file on the server. -/
  | download (url fileName : String)
  /-- Text, shown as it is. -/
  | display (text : String)
  /-- Nothing usable came back. -/
  | empty
deriving DecidableEq, Repr

namespace Outcome

/-- The download of a server path; the file is named by the last segment. -/
def ofUrl (url : String) : Outcome := download url (Text.lastSegment url)

/-- The label of a download link. -/
def linkLabel (fileName : String) : String := "Download " ++ fileName

/-- The text that can be copied: only displayed text can. -/
def copyable? : Outcome → Option String
  | display text => some text
  | _ => none

end Outcome

end ConversionDesk.Conversion
