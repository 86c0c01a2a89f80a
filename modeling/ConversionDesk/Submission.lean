import ConversionDesk.Conversion.Body

/-!
# Submissions

The submit cycle of one form: at most one request is in flight, and a failure leaves a
notice that waits until the restored button has been shown.

## Main definitions

* `Submission` — whether a request is in flight, and the waiting notice
* `Submission.start`, `Submission.finish`, `Submission.takeNotice`
-/

namespace ConversionDesk

/-- Whether a request is in flight, and the notice that waits to be shown. -/
structure Submission where
  inFlight : Bool := false
  pendingNotice : Option String := none
deriving DecidableEq, Repr

namespace Submission

/-- The text of the button while a request is in flight. -/
def busyLabel : String := "Processing..."

/-- Starts a request unless one is in flight; the flag tells whether it started. -/
def start (s : Submission) : Bool × Submission :=
  if s.inFlight then (false, s) else (true, { s with inFlight := true })

/-- Ends the request with its result: a success gives the outcome to show, a failure leaves
a notice. -/
def finish (s : Submission) : Except Failure Conversion.Outcome →
    Option Conversion.Outcome × Submission
  | .ok outcome => (some outcome, { s with inFlight := false })
  | .error failure =>
    (none, { inFlight := false, pendingNotice := some (failure.notice Conversion.wording) })

/-- The text of the button. -/
def buttonLabel (s : Submission) (idle : String) : String :=
  if s.inFlight then busyLabel else idle

/-- Takes the waiting notice. -/
def takeNotice (s : Submission) : Option String × Submission :=
  (s.pendingNotice, { s with pendingNotice := none })

end Submission

end ConversionDesk
