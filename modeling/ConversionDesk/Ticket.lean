/-!
# Tickets

Requests overlap and answer in any order. Each request takes a ticket from a counter, and
an answer matters only while its ticket is the newest of that counter. A ticket is a bare
number: it does not know the counter that issued it, and a copied counter goes on counting
on its own.

## Main definitions

* `Ticket`, `Counter` — the number of a request, and the counter that issues numbers
* `Counter.issue`, `Counter.isCurrent`
* `Registry` — many counters and all tickets they issued
* `Registry.step` — one command to a registry

## Main results

* `Counter.isCurrent_issue` — the ticket just issued is current
-/

namespace ConversionDesk

/-- The number of a request. -/
structure Ticket where
  number : Nat
deriving DecidableEq, Repr

/-- A counter of requests: the number of the newest ticket, zero before the first. -/
structure Counter where
  latest : Nat := 0
deriving DecidableEq, Repr

namespace Counter

/-- Issues the next ticket. -/
def issue (s : Counter) : Ticket × Counter := (⟨s.latest + 1⟩, ⟨s.latest + 1⟩)

/-- Whether a ticket carries the newest number. -/
def isCurrent (s : Counter) (t : Ticket) : Bool := t.number == s.latest

@[simp] theorem latest_issue (s : Counter) : s.issue.2.latest = s.latest + 1 := rfl

@[simp] theorem number_issue (s : Counter) : s.issue.1.number = s.latest + 1 := rfl

@[simp] theorem isCurrent_iff {s : Counter} {t : Ticket} :
    s.isCurrent t = true ↔ t.number = s.latest := by
  simp [isCurrent]

/-- The ticket just issued is current. -/
theorem isCurrent_issue (s : Counter) : s.issue.2.isCurrent s.issue.1 = true := by
  simp

end Counter

/-- Counters and tickets, each numbered in the order of creation. -/
structure Registry where
  counters : List Counter := [{}]
  tickets : List Ticket := []
deriving DecidableEq, Repr

namespace Registry

/-- What can be asked of a registry. Counters and tickets are named by their numbers. -/
inductive Command where
  | create
  | copy (counter : Nat)
  | issue (counter : Nat)
  | isCurrent (counter ticket : Nat)
  | compare (first second : Nat)
deriving DecidableEq, Repr

/-- What a registry answers. -/
inductive Answer where
  | counter (number : Nat)
  | ticket (number : Nat)
  | current (holds : Bool)
  | order (result : Ordering)
deriving DecidableEq, Repr

/-- The registry with one more counter. -/
def add (r : Registry) (s : Counter) : Answer × Registry :=
  (.counter r.counters.length, { r with counters := r.counters ++ [s] })

/-- Carries out a command; `none` if it names a counter or ticket that does not exist. -/
def step (r : Registry) : Command → Option (Answer × Registry)
  | .create => some (r.add {})
  | .copy i => r.counters[i]?.map r.add
  | .issue i => do
    let s ← r.counters[i]?
    let (t, s) := s.issue
    return (.ticket r.tickets.length,
      { counters := r.counters.set i s, tickets := r.tickets ++ [t] })
  | .isCurrent i j => do
    let s ← r.counters[i]?
    let t ← r.tickets[j]?
    return (.current (s.isCurrent t), r)
  | .compare i j => do
    let a ← r.tickets[i]?
    let b ← r.tickets[j]?
    return (.order (Ord.compare a.number b.number), r)

/-- Carries out commands in order, and collects the answers. -/
def run (r : Registry) : List Command → Option (List Answer × Registry)
  | [] => some ([], r)
  | c :: cs => do
    let (answer, r) ← r.step c
    let (answers, r) ← r.run cs
    return (answer :: answers, r)

end Registry

end ConversionDesk
