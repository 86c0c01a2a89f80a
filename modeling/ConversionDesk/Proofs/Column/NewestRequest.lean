import ConversionDesk.Column.Loader
import ConversionDesk.Proofs.Column.Changes

/-!
# The newest request decides

Files are chosen faster than servers answer. Every choice starts a request, the requests
overlap, their answers come in any order and more than once, and meanwhile controls are
changed. This file recovers the panel from such a history: only the newest request and
what came after its last answer matter.

All of it rests on one invariant, `Loader.Run.Counts`: after `n` starts the tickets are
numbered from one to `n` in the order of their issue, and the counter stands at `n`. In
particular no number exceeds the number of starts, so a counter of any width is wide
enough for as many requests as it has values.

## Main definitions

* `Column.Panel.changeAll` — changes to the controls of a panel, if it has any
* `Column.Loader.starts` — how many requests a history starts
* `Column.Loader.eraseSuperseded` — a history without the answers that came too late
* `Column.Loader.Run.answers` — what a loader says to a history, command by command

## Main results

* `Column.Loader.Run.Counts.run` — every history keeps the tickets in order
* `Column.Loader.Run.Counts.step_of_isSuperseded` — an answer that comes too late is refused
  and changes nothing
* `Column.Loader.Run.Counts.panel_run` — between starts and answers to the newest request,
  only changes to the controls show
* `Column.Loader.Run.panel_of_newest_request` — the panel after any history
-/

namespace ConversionDesk.Column

/-! ### Changes to a panel -/

namespace Panel

/-- Changes the controls, if there are any. -/
def change (p : Panel) (c : Selection.Change) : Panel :=
  match p with
  | .ready s => .ready (s.apply c)
  | _ => p

/-- Changes the controls in order, if there are any. -/
def changeAll (p : Panel) (changes : List Selection.Change) : Panel := changes.foldl change p

@[simp] theorem changeAll_nil (p : Panel) : p.changeAll [] = p := rfl

theorem changeAll_append (p : Panel) (first second : List Selection.Change) :
    p.changeAll (first ++ second) = (p.changeAll first).changeAll second :=
  List.foldl_append

/-- A panel without controls is not changed. -/
theorem changeAll_of_selection?_eq_none {p : Panel} (h : p.selection? = none)
    (changes : List Selection.Change) : p.changeAll changes = p := by
  induction changes with
  | nil => rfl
  | cons c changes ih =>
    have hc : p.change c = p := by
      cases p with
      | ready s => simp [selection?] at h
      | idle | loading | noColumns | failed => rfl
    rw [changeAll, List.foldl_cons, hc]
    exact ih

end Panel

namespace Loader

theorem set_eq_change (p : Loader) (index : Nat) (checked : Bool) :
    (p.set index checked).2 = { p with panel := p.panel.change (.set index checked) } := by
  obtain ⟨panel, requests⟩ := p
  cases panel <;> rfl

theorem toggle_eq_change (p : Loader) :
    p.toggle.2 = { p with panel := p.panel.change .toggle } := by
  obtain ⟨panel, requests⟩ := p
  cases panel <;> rfl

theorem finish_applied_iff (p : Loader) (ticket : Ticket) (container : String) (kind : Kind)
    (result : Except Failure (List String)) :
    (p.finish ticket container kind result).1 = true ↔ ticket.number = p.requests.latest := by
  rw [finish, ← Counter.isCurrent_iff]
  split <;> simp_all

/-- A refused answer leaves the whole loader as it is. -/
theorem finish_of_refused {p : Loader} {ticket : Ticket} {container : String} {kind : Kind}
    {result : Except Failure (List String)}
    (h : (p.finish ticket container kind result).1 = false) :
    (p.finish ticket container kind result).2 = p := by
  unfold finish at h ⊢
  split at h
  · simp at h
  · rw [if_neg (by assumption)]

/-! ### Histories -/

namespace Command

/-- Whether a command starts a request. -/
def isStart : Command → Bool
  | .start => true
  | _ => false

/-- Whether a command answers the request with the given ticket. -/
def answers (ticket : Nat) : Command → Bool
  | .finish n _ _ _ => n == ticket
  | _ => false

/-- The change to the controls that a command asks for. -/
def change? : Command → Option Selection.Change
  | .set index checked => some (.set index checked)
  | .toggle => some .toggle
  | _ => none

/-- Whether a command answers a request that is not the newest of so many. -/
def isSuperseded (started : Nat) : Command → Bool
  | .finish n _ _ _ => n + 1 < started
  | _ => false

end Command

/-- How many requests a history starts. -/
def starts (commands : List Command) : Nat := commands.countP Command.isStart

@[simp] theorem starts_nil : starts [] = 0 := rfl

theorem starts_append (first second : List Command) :
    starts (first ++ second) = starts first + starts second :=
  List.countP_append

theorem starts_cons (c : Command) (commands : List Command) :
    starts (c :: commands) = starts [c] + starts commands :=
  starts_append [c] commands

/-- A history, with so many requests started before it, without the answers that come too
late. -/
def eraseSuperseded (started : Nat) : List Command → List Command
  | [] => []
  | c :: commands =>
    if c.isSuperseded started then eraseSuperseded started commands
    -- a start that is kept makes the requests before it superseded
    else c :: eraseSuperseded (started + starts [c]) commands

namespace Run

/-- What a loader says to the commands of a history. -/
def answers (r : Run) : List Command → List Answer
  | [] => []
  | c :: commands => (r.step c).1 :: (r.step c).2.answers commands

theorem run_cons (r : Run) (c : Command) (commands : List Command) :
    r.run (c :: commands) = (r.step c).2.run commands := rfl

theorem run_append (r : Run) (first second : List Command) :
    r.run (first ++ second) = (r.run first).run second :=
  List.foldl_append

/-- A change to the controls reaches the panel and nothing else. -/
theorem step_of_change? (r : Run) {c : Command} {change : Selection.Change}
    (hc : c.change? = some change) :
    (r.step c).2 =
      { r with loader := { r.loader with panel := r.loader.panel.change change } } := by
  cases c with
  | start | finish => simp [Command.change?] at hc
  | set index checked =>
    obtain rfl : Selection.Change.set index checked = change := Option.some.inj hc
    exact congrArg (Run.mk · r.tickets) (set_eq_change r.loader index checked)
  | toggle =>
    obtain rfl : Selection.Change.toggle = change := Option.some.inj hc
    exact congrArg (Run.mk · r.tickets) (toggle_eq_change r.loader)

/-! ### Tickets are numbered in the order of their issue -/

/-- After `n` starts the tickets carry the numbers from one to `n`, and the counter stands
at `n`. -/
structure Counts (r : Run) (n : Nat) : Prop where
  latest : r.loader.requests.latest = n
  tickets : r.tickets = (List.range n).map fun i => ⟨i + 1⟩

theorem counts_initial : Counts {} 0 := ⟨rfl, rfl⟩

namespace Counts

variable {r : Run} {n : Nat}

theorem getElem?_tickets (h : Counts r n) {ticket : Nat} (hticket : ticket < n) :
    r.tickets[ticket]? = some ⟨ticket + 1⟩ := by
  rw [h.tickets]
  simp [hticket]

/-- The ticket issued last is the one with the number at which the counter stands. -/
theorem getLast?_tickets_iff (h : Counts r n) {ticket : Ticket} (hticket : ticket ∈ r.tickets) :
    r.tickets.getLast? = some ticket ↔ ticket.number = r.loader.requests.latest := by
  rw [h.tickets] at hticket ⊢
  obtain ⟨i, hi, rfl⟩ := List.mem_map.mp hticket
  rw [List.mem_range] at hi
  rw [h.latest, List.getLast?_map, List.getLast?_range, if_neg (by omega : ¬ n = 0)]
  simp only [Option.map_some, Option.some.injEq, Ticket.mk.injEq]
  omega

/-- An answer to the newest request replaces the panel. -/
theorem step_newest (h : Counts r n) {ticket : Nat} (hticket : ticket + 1 = n)
    (container : String) (kind : Kind) (result : Except Failure (List String)) :
    r.step (.finish ticket container kind result) =
      (.applied true,
        { r with loader := { r.loader with panel := .ofDiscovery container kind result } }) := by
  have hcurrent : r.loader.requests.isCurrent ⟨ticket + 1⟩ = true := by
    rw [Counter.isCurrent_iff, h.latest]
    exact hticket
  simp [step, finish, h.getElem?_tickets (by omega : ticket < n), hcurrent]

/-- An answer that comes too late is refused and changes nothing. -/
theorem step_of_isSuperseded (h : Counts r n) {c : Command} (hc : c.isSuperseded n = true) :
    r.step c = (.applied false, r) := by
  cases c with
  | finish ticket container kind result =>
    have hlate : ticket + 1 < n := by simpa [Command.isSuperseded] using hc
    have hstale : r.loader.requests.isCurrent ⟨ticket + 1⟩ = false := by
      rw [← Bool.not_eq_true, Counter.isCurrent_iff, h.latest]
      exact Nat.ne_of_lt hlate
    simp [step, finish, h.getElem?_tickets (by omega : ticket < n), hstale]
  | start | set | toggle => simp [Command.isSuperseded] at hc

/-- An answer to a request that was never started changes nothing. -/
theorem step_unknown (h : Counts r n) {ticket : Nat} (hticket : n ≤ ticket)
    (container : String) (kind : Kind) (result : Except Failure (List String)) :
    r.step (.finish ticket container kind result) = (.unknownTicket, r) := by
  have hnone : r.tickets[ticket]? = none := by
    rw [h.tickets]
    simp [hticket]
  simp [step, hnone]

/-- Only an answer to the newest request changes anything. -/
theorem step_not_newest (h : Counts r n) {ticket : Nat} (hticket : ticket + 1 ≠ n)
    (container : String) (kind : Kind) (result : Except Failure (List String)) :
    (r.step (.finish ticket container kind result)).2 = r := by
  rcases Nat.lt_or_gt_of_ne hticket with hlate | hunknown
  · rw [h.step_of_isSuperseded (by simpa [Command.isSuperseded] using hlate)]
  · rw [h.step_unknown (Nat.le_of_lt_succ hunknown)]

/-- One command keeps the tickets in order. -/
theorem step (h : Counts r n) (c : Command) : Counts (r.step c).2 (n + starts [c]) := by
  cases c with
  | start =>
    constructor
    · simp [Run.step, Loader.start, h.latest, starts, Command.isStart]
    · simp [Run.step, Loader.start, Counter.issue, h.latest, h.tickets, starts,
        Command.isStart, List.range_succ]
  | finish ticket container kind result =>
    -- whatever the answer does to the panel, it issues no ticket
    by_cases hnewest : ticket + 1 = n
    · rw [h.step_newest hnewest]
      exact ⟨h.latest, h.tickets⟩
    · rw [h.step_not_newest hnewest]
      exact h
  | set | toggle =>
    rw [step_of_change? r rfl]
    exact ⟨h.latest, h.tickets⟩

/-- Every history keeps the tickets in order. -/
theorem run (h : Counts r n) (commands : List Command) :
    Counts (r.run commands) (n + starts commands) := by
  induction commands generalizing r n with
  | nil => exact h
  | cons c commands ih =>
    rw [run_cons, starts_cons, ← Nat.add_assoc]
    exact ih (h.step c)

/-! ### What shows between starts and answers -/

/-- A command that neither starts a request nor answers the newest one only changes the
controls. -/
theorem panel_step (h : Counts r n) {c : Command} (hstart : c.isStart = false)
    (hanswer : ∀ ticket, ticket + 1 = n → c.answers ticket = false) :
    (r.step c).2.loader.panel = r.loader.panel.changeAll c.change?.toList := by
  cases c with
  | start => simp [Command.isStart] at hstart
  | finish ticket container kind result =>
    by_cases hnewest : ticket + 1 = n
    · simpa [Command.answers] using hanswer ticket hnewest
    · rw [h.step_not_newest hnewest]
      rfl
  | set | toggle =>
    rw [step_of_change? r rfl]
    rfl

/-- Between starts and answers to the newest request, only changes to the controls show. -/
theorem panel_run (h : Counts r n) {commands : List Command} (hstart : starts commands = 0)
    (hanswer : ∀ ticket, ticket + 1 = n → ∀ c ∈ commands, c.answers ticket = false) :
    (r.run commands).loader.panel =
      r.loader.panel.changeAll (commands.filterMap Command.change?) := by
  -- the number of starts stays the same, so `n` is fixed while the loader moves on
  induction commands generalizing r with
  | nil => rfl
  | cons c commands ih =>
    rw [starts_cons] at hstart
    have hnone : starts [c] = 0 := by omega
    have hc : c.isStart = false := by simpa [starts] using hnone
    have hstep := h.panel_step hc fun ticket ht => hanswer ticket ht c List.mem_cons_self
    have hcounts : Counts (r.step c).2 n := by simpa [hnone] using h.step c
    rw [run_cons, ih hcounts (by omega) fun ticket ht d hd =>
      hanswer ticket ht d (List.mem_cons_of_mem _ hd), hstep, ← Panel.changeAll_append]
    cases hchange : c.change? with
    | none => simp [hchange]
    | some change => simp [hchange]

/-- After the last start the panel is loading until the request is answered. -/
theorem panel_run_start (h : Counts r n) {after : List Command} (hafter : starts after = 0)
    (hanswer : ∀ c ∈ after, c.answers n = false) :
    (r.run (.start :: after)).loader.panel = .loading := by
  have hcounts : Counts (r.step .start).2 (n + 1) := h.step .start
  have hpanel : (r.step .start).2.loader.panel = .loading := rfl
  rw [run_cons, hcounts.panel_run hafter, hpanel, Panel.changeAll_of_selection?_eq_none rfl]
  intro ticket hticket
  obtain rfl : ticket = n := Nat.succ.inj hticket
  exact hanswer

/-- After the last answer to the newest request, its panel shows, with the changes to the
controls made since. -/
theorem panel_run_finish (h : Counts r n) {early late : List Command} {container : String}
    {kind : Kind} {result : Except Failure (List String)} (hearly : starts early = 0)
    (hlate : starts late = 0) (hanswer : ∀ c ∈ late, c.answers n = false) :
    (r.run (.start :: (early ++ .finish n container kind result :: late))).loader.panel =
      (Panel.ofDiscovery container kind result).changeAll (late.filterMap Command.change?) := by
  have hstart : Counts (r.step .start).2 (n + 1) := h.step .start
  have hcounts : Counts ((r.step .start).2.run early) (n + 1) := by
    simpa [hearly] using hstart.run early
  -- `early` may answer the request as well: this answer replaces whatever it left
  have hstep := hcounts.step_newest rfl container kind result
  have hafter := hcounts.step (.finish n container kind result)
  rw [run_cons, run_append, run_cons, hafter.panel_run hlate, hstep]
  intro ticket hticket
  obtain rfl : ticket = n := Nat.succ.inj hticket
  exact hanswer

/-! ### Answers that come too late -/

/-- Only an answer that comes too late is refused. -/
theorem answer_ne_of_not_isSuperseded (h : Counts r n) {c : Command}
    (hc : c.isSuperseded n = false) : (r.step c).1 ≠ .applied false := by
  cases c with
  | finish ticket container kind result =>
    have hle : n ≤ ticket + 1 := by simpa [Command.isSuperseded] using hc
    rcases Nat.eq_or_lt_of_le hle with hnewest | hunknown
    · rw [h.step_newest hnewest.symm]
      simp
    · rw [h.step_unknown (Nat.le_of_lt_succ hunknown)]
      simp
  | start | set | toggle => simp [Run.step]

/-- Without the answers that come too late, a history ends in the same state, and all
other commands are answered as before. -/
theorem run_eraseSuperseded (h : Counts r n) (commands : List Command) :
    r.run (eraseSuperseded n commands) = r.run commands ∧
      r.answers (eraseSuperseded n commands) =
        (r.answers commands).filter (· != .applied false) := by
  induction commands generalizing r n with
  | nil => exact ⟨rfl, rfl⟩
  | cons c commands ih =>
    cases hc : c.isSuperseded n with
    | true =>
      -- the erased answer is the one that the filter drops
      obtain ⟨hrun, hanswers⟩ := ih h
      rw [eraseSuperseded, if_pos hc, run_cons, answers, h.step_of_isSuperseded hc]
      exact ⟨hrun, by simpa using hanswers⟩
    | false =>
      obtain ⟨hrun, hanswers⟩ := ih (h.step c)
      have hne := h.answer_ne_of_not_isSuperseded hc
      rw [eraseSuperseded, hc, if_neg Bool.false_ne_true, run_cons, run_cons, answers, answers]
      exact ⟨hrun, by simp [hanswers, hne]⟩

end Counts

/-! ### Whole histories -/

/-- The newest request decides what a loader shows. The tickets of a history carry the
numbers from one on. An answer to a request is applied exactly if its ticket is the last
one issued, and otherwise changes nothing. Without a start the panel is idle. After the
last start it is loading until that request is answered; then it is the panel of the last
answer, with the changes to the controls made since. Answers that come too late can be
left out: the history ends in the same state, and every other command is answered as
before. -/
theorem panel_of_newest_request (commands : List Command) :
    let r := run {} commands
    -- the tickets, and which of them count
    r.tickets = (List.range (starts commands)).map (fun i => ⟨i + 1⟩) ∧
      (∀ ticket ∈ r.tickets, ∀ container kind result,
        ((r.loader.finish ticket container kind result).1 = true ↔
          r.tickets.getLast? = some ticket) ∧
        ((r.loader.finish ticket container kind result).1 = false →
          (r.loader.finish ticket container kind result).2 = r.loader)) ∧
      -- the panel
      (starts commands = 0 → r.loader.panel = .idle) ∧
      (∀ before after, commands = before ++ .start :: after → starts after = 0 →
        ((∀ c ∈ after, c.answers (starts before) = false) → r.loader.panel = .loading) ∧
        (∀ early container kind result late,
          after = early ++ .finish (starts before) container kind result :: late →
          (∀ c ∈ late, c.answers (starts before) = false) →
          r.loader.panel = (Panel.ofDiscovery container kind result).changeAll
            (late.filterMap Command.change?))) ∧
      -- the answers that come too late
      run {} (eraseSuperseded 0 commands) = r ∧
      answers {} (eraseSuperseded 0 commands) =
        (answers {} commands).filter (· != .applied false) := by
  intro r
  have hr : Counts r (starts commands) := by simpa using counts_initial.run commands
  have herase := counts_initial.run_eraseSuperseded commands
  refine ⟨hr.tickets, ?_, ?_, ?_, herase.1, herase.2⟩
  · intro ticket hticket container kind result
    refine ⟨?_, finish_of_refused⟩
    rw [finish_applied_iff, hr.getLast?_tickets_iff hticket]
  · intro hnone
    have hpanel := counts_initial.panel_run hnone fun ticket hticket => by omega
    rw [hpanel, Panel.changeAll_of_selection?_eq_none rfl]
  · intro before after heq hafter
    have hbefore : Counts (run {} before) (starts before) := by
      simpa using counts_initial.run before
    have hrun : r = (run {} before).run (.start :: after) := by
      rw [← run_append, ← heq]
    refine ⟨fun hanswer => ?_, ?_⟩
    · rw [hrun]
      exact hbefore.panel_run_start hafter hanswer
    · rintro early container kind result late rfl hanswer
      rw [starts_append, starts_cons] at hafter
      rw [hrun]
      exact hbefore.panel_run_finish (by omega) (by omega) hanswer

end Run

end Loader

end ConversionDesk.Column
