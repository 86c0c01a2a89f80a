import ConversionDesk.Column.Panel
import ConversionDesk.Ticket

/-!
# Column loaders

A loader is a panel with the tickets of its requests. Choosing a file starts a request;
only the answer to the newest request may replace the panel.

## Main definitions

* `Column.Loader` — the panel and its requests
* `Column.Loader.start`, `Column.Loader.finish` — a request begins and ends
* `Column.Loader.Run` — a loader with the tickets it issued, driven by commands
-/

namespace ConversionDesk.Column

/-- A panel and the tickets of its requests. -/
structure Loader where
  panel : Panel := .idle
  requests : Counter := {}
deriving DecidableEq, Repr

namespace Loader

/-- A file was chosen: the panel waits for the columns that go with the ticket. -/
def start (p : Loader) : Ticket × Loader :=
  let (ticket, requests) := p.requests.issue
  (ticket, { panel := .loading, requests })

/-- A request ended. Its result replaces the panel unless a later request was started; the
flag tells whether it did. -/
def finish (p : Loader) (ticket : Ticket) (container : String) (kind : Kind)
    (result : Except Failure (List String)) : Bool × Loader :=
  if p.requests.isCurrent ticket then
    (true, { p with panel := .ofDiscovery container kind result })
  else (false, p)

/-- Changes one control, if there are controls; the flag tells whether there are. -/
def set (p : Loader) (index : Nat) (checked : Bool) : Bool × Loader :=
  match p.panel with
  | .ready s => (true, { p with panel := .ready (s.set index checked) })
  | _ => (false, p)

/-- Toggles all controls. Without controls there is no answer, otherwise it tells whether
the selection could be toggled. -/
def toggle (p : Loader) : Option Bool × Loader :=
  match p.panel with
  | .ready s => (some s.toggle.1, { p with panel := .ready s.toggle.2 })
  | _ => (none, p)

/-- A loader together with all tickets it issued, in order. -/
structure Run where
  loader : Loader := {}
  tickets : List Ticket := []
deriving DecidableEq, Repr

/-- What can happen to a loader. Tickets are named by the order of their issue. -/
inductive Command where
  | start
  | finish (ticket : Nat) (container : String) (kind : Kind)
      (result : Except Failure (List String))
  | set (index : Nat) (checked : Bool)
  | toggle

/-- What the loader answers. -/
inductive Answer where
  | ticket (number : Nat)
  | applied (holds : Bool)
  | unknownTicket
  | found (holds : Bool)
  | toggled (result : Option Bool)
deriving DecidableEq, Repr

namespace Run

/-- Carries out a command. Finishing a request that was never started changes nothing. -/
def step (r : Run) : Command → Answer × Run
  | .start =>
    let (ticket, loader) := r.loader.start
    (.ticket r.tickets.length, { loader, tickets := r.tickets ++ [ticket] })
  | .finish n container kind result =>
    match r.tickets[n]? with
    | some ticket =>
      let (applied, loader) := r.loader.finish ticket container kind result
      (.applied applied, { r with loader })
    | none => (.unknownTicket, r)
  | .set index checked =>
    let (found, loader) := r.loader.set index checked
    (.found found, { r with loader })
  | .toggle =>
    let (toggled, loader) := r.loader.toggle
    (.toggled toggled, { r with loader })

/-- Carries out commands in order. -/
def run (r : Run) (commands : List Command) : Run := commands.foldl (fun r c => (r.step c).2) r

end Run

end Loader

end ConversionDesk.Column
