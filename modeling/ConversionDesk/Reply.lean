import ConversionDesk.Json.Layout

/-!
# Server replies

A request is answered with a status and a body text, or not at all. Settling a reply reads
the body, and then lets the status alone decide whether it is a result or a rejection. A
body that cannot be read is as bad as no reply, whatever the status.

## Main definitions

* `Reply` — what came back for a request
* `Failure` — why a request gave no result
* `Wording` — what a kind of request says about its failures
* `Reply.settle` — the result of a reply
-/

namespace ConversionDesk

/-- What came back for a request. -/
inductive Reply where
  /-- Nothing, for the reason given. -/
  | lost (detail : String)
  /-- A status and the text of the body. -/
  | received (status : Nat) (body : String)
deriving DecidableEq, Repr

/-- Why a request gave no result. -/
inductive Failure where
  /-- The server refused, with a reason if it gave one. -/
  | rejected (status : Nat) (message : Option String)
  /-- No reply came, or none that could be read. -/
  | noReply (detail : String)
deriving DecidableEq, Repr

/-- What a kind of request says about its failures. -/
structure Wording where
  /-- Told to the user in place of a reason. -/
  unexplained : String
  /-- Told to the user if there was no readable reply. -/
  noReply : String
  /-- Opens the log entry of a rejection, up to the status. -/
  rejectedLog : String
  /-- Opens the log entry of a missing reply, up to the detail. -/
  noReplyLog : String

namespace Failure

/-- What the user is told. -/
def notice (w : Wording) : Failure → String
  | rejected _ message => "Error: " ++ message.getD w.unexplained
  | noReply _ => w.noReply

/-- What the log is told. -/
def logEntry (w : Wording) : Failure → String
  | rejected status message =>
    w.rejectedLog ++ toString status ++ ": " ++ message.getD "<no message>"
  | noReply detail => w.noReplyLog ++ detail

end Failure

/-- The message in a server's error field: a string as it is, any other value as compact
JSON. `null` and the empty string are no message. -/
def reasonText : Option Json.Value → Option String
  | none => none
  | some .null => none
  | some (.string s) => if s = "" then none else some s
  | some v => some v.compact

namespace Reply

/-- The statuses of success. -/
def isSuccess (status : Nat) : Bool := 200 ≤ status && status < 300

/-- The detail of a failure whose body could not be read. -/
def malformed : String := "malformed body"

/-- Settles a reply: `read` reads the body, `result` is what a success gives and `error` is
the error field that explains a rejection. -/
def settle {α β : Type} (read : String → Option α) (result : α → β)
    (error : α → Option Json.Value) : Reply → Except Failure β
  | lost detail => .error (.noReply detail)
  | received status body =>
    match read body with
    | none => .error (.noReply malformed)
    | some a =>
      if isSuccess status then .ok (result a)
      else .error (.rejected status (reasonText (error a)))

end Reply

end ConversionDesk
