import ConversionDesk.Ticket

/-!
# Copy confirmations

After a copy the button confirms it for a while. Each copy starts a timer of its own, and
only the newest timer may end the confirmation.

## Main definitions

* `CopyConfirmation` — whether a copy is being confirmed
* `CopyConfirmation.confirm`, `CopyConfirmation.expire`
* `CopyConfirmation.Run` — a confirmation with the tickets of its timers
-/

namespace ConversionDesk

/-- Whether a copy is being confirmed, and the timers that end it. -/
structure CopyConfirmation where
  copied : Bool := false
  timers : Counter := {}
deriving DecidableEq, Repr

namespace CopyConfirmation

/-- How long a copy is confirmed, in milliseconds. -/
def duration : Nat := 2000

/-- Confirms a copy, and gives the ticket of the timer that ends it. -/
def confirm (c : CopyConfirmation) : Ticket × CopyConfirmation :=
  let (ticket, timers) := c.timers.issue
  (ticket, { copied := true, timers })

/-- A timer fired; the flag tells whether it ended the confirmation. -/
def expire (c : CopyConfirmation) (ticket : Ticket) : Bool × CopyConfirmation :=
  if c.timers.isCurrent ticket && c.copied then (true, { c with copied := false })
  else (false, c)

/-- A confirmation together with the tickets of all its timers, in order. -/
structure Run where
  confirmation : CopyConfirmation := {}
  tickets : List Ticket := []
deriving DecidableEq, Repr

/-- What can happen to a confirmation. Timers are named by the order of their start. -/
inductive Command where
  | confirm
  | expire (timer : Nat)
deriving DecidableEq, Repr

/-- What the confirmation answers. -/
inductive Answer where
  | ticket (number : Nat)
  | changed (holds : Bool)
  | unknownTicket
deriving DecidableEq, Repr

namespace Run

/-- Carries out a command. A timer that was never started changes nothing. -/
def step (r : Run) : Command → Answer × Run
  | .confirm =>
    let (ticket, confirmation) := r.confirmation.confirm
    (.ticket r.tickets.length, { confirmation, tickets := r.tickets ++ [ticket] })
  | .expire n =>
    match r.tickets[n]? with
    | some ticket =>
      let (changed, confirmation) := r.confirmation.expire ticket
      (.changed changed, { r with confirmation })
    | none => (.unknownTicket, r)

end Run

end CopyConfirmation

end ConversionDesk
