import ConversionDesk.Ticket

/-!
# Tickets number the histories of their counters

A ticket is a bare number and a counter is the number of its newest ticket, so a registry forgets
almost everything: which counter issued a ticket, and where a copied counter comes from. This file
keeps what is forgotten. A chronicle holds the whole history of every counter, which a copy takes
over from its original, and for every ticket the counter that issued it and the history that it
completes.

What a registry holds are the lengths of these histories, and nothing else decides its answers. So
tickets of counters that never met are taken for each other exactly if their histories are equally
long, a counter that has issued nothing takes no ticket for current, and after a copy the two
counters go their own ways.

## Main definitions

* `Registry.Chronicle` — the histories of counters and the issues of tickets
* `Registry.Chronicle.enter` — what a command adds to them
* `Registry.Chronicle.summary` — the registry that goes with a chronicle
* `Registry.Chronicle.Sound` — the tickets of every history number it, in order

## Main results

* `Registry.Chronicle.exists_run` — a registry holds the lengths of histories
* `Registry.Chronicle.history_enter` — a history grows by the issues on its own counter only
* `Registry.Chronicle.Sound.enterAll` — tickets number histories after all commands
* `Registry.tickets_number_histories` — what tickets tell, and what they do not
-/

namespace ConversionDesk.Registry

/-- The issue of a ticket: the counter that issued it, and the history of that counter up to the
ticket. -/
structure Issue where
  counter : Nat
  history : List Nat
deriving DecidableEq, Repr

/-- The histories of all counters, and the issues of all tickets. A history lists the tickets that
were issued on a counter, after those on its original up to the copy, by their places among all
tickets. -/
structure Chronicle where
  histories : List (List Nat) := [[]]
  issues : List Issue := []
deriving DecidableEq, Repr

namespace Chronicle

variable {k : Chronicle} {i j : Nat} {history : List Nat} {e : Issue}

/-- Adds a ticket to the history of a counter. -/
def issue (k : Chronicle) (i : Nat) (history : List Nat) : Chronicle where
  histories := k.histories.set i (history ++ [k.issues.length])
  issues := k.issues ++ [⟨i, history ++ [k.issues.length]⟩]

/-- Enters a command. A new counter has no history, and a copy has that of its original. -/
def enter (k : Chronicle) : Command → Chronicle
  | .create => { k with histories := k.histories ++ [[]] }
  | .copy i => { k with histories := k.histories ++ k.histories[i]?.toList }
  | .issue i => (k.histories[i]?.map (k.issue i)).getD k
  | .isCurrent _ _ => k
  | .compare _ _ => k

theorem enter_issue (h : k.histories[i]? = some history) :
    k.enter (.issue i) = k.issue i history := by
  simp [enter, h]

theorem enter_issue_unknown (h : k.histories[i]? = none) : k.enter (.issue i) = k := by
  simp [enter, h]

/-- Enters commands in order. -/
def enterAll (k : Chronicle) (commands : List Command) : Chronicle := commands.foldl enter k

/-- Whether a command names only counters and tickets that exist. -/
def knows (k : Chronicle) : Command → Bool
  | .create => true
  | .copy i => decide (i < k.histories.length)
  | .issue i => decide (i < k.histories.length)
  | .isCurrent i j => decide (i < k.histories.length) && decide (j < k.issues.length)
  | .compare j j' => decide (j < k.issues.length) && decide (j' < k.issues.length)

/-- Whether commands name only what exists by then. -/
def knowsAll (k : Chronicle) : List Command → Bool
  | [] => true
  | c :: commands => k.knows c && (k.enter c).knowsAll commands

/-- What a registry keeps of a chronicle: how long the histories are. -/
def summary (k : Chronicle) : Registry where
  counters := k.histories.map fun history => ⟨history.length⟩
  tickets := k.issues.map fun e => ⟨e.history.length⟩

/-! ### A registry holds the lengths of histories -/

theorem getElem?_counters (h : k.histories[i]? = some history) :
    k.summary.counters[i]? = some ⟨history.length⟩ := by
  simp [summary, h]

theorem getElem?_tickets (h : k.issues[j]? = some e) :
    k.summary.tickets[j]? = some ⟨e.history.length⟩ := by
  simp [summary, h]

theorem step_issue (h : k.histories[i]? = some history) :
    k.summary.step (.issue i) = some (.ticket k.issues.length, (k.issue i history).summary) := by
  rw [step, getElem?_counters h]
  simp [Counter.issue, summary, Chronicle.issue, List.map_set]

theorem step_isCurrent (hi : k.histories[i]? = some history) (hj : k.issues[j]? = some e) :
    k.summary.step (.isCurrent i j) =
      some (.current (e.history.length == history.length), k.summary) := by
  simp [step, getElem?_counters hi, getElem?_tickets hj, Counter.isCurrent]

theorem step_compare {j' : Nat} {e' : Issue} (hj : k.issues[j]? = some e)
    (hj' : k.issues[j']? = some e') :
    k.summary.step (.compare j j') =
      some (.order (compare e.history.length e'.history.length), k.summary) := by
  simp [step, getElem?_tickets hj, getElem?_tickets hj']

theorem exists_history (h : i < k.histories.length) :
    ∃ history, k.histories[i]? = some history :=
  ⟨_, List.getElem?_eq_getElem h⟩

theorem exists_issue (h : j < k.issues.length) : ∃ e, k.issues[j]? = some e :=
  ⟨_, List.getElem?_eq_getElem h⟩

/-- A command that names what exists is carried out, and leaves the registry of the chronicle with
that command. -/
theorem exists_step {c : Command} (h : k.knows c = true) :
    ∃ answer, k.summary.step c = some (answer, (k.enter c).summary) := by
  cases c with
  | create => exact ⟨.counter k.histories.length, by simp [step, add, summary, enter]⟩
  | copy i =>
    obtain ⟨history, hi⟩ := exists_history (of_decide_eq_true h)
    refine ⟨.counter k.histories.length, ?_⟩
    rw [step, getElem?_counters hi]
    simp [add, summary, enter, hi]
  | issue i =>
    obtain ⟨history, hi⟩ := exists_history (of_decide_eq_true h)
    exact ⟨_, enter_issue hi ▸ step_issue hi⟩
  | isCurrent i j =>
    obtain ⟨hi, hj⟩ := (Bool.and_eq_true ..).mp h
    obtain ⟨history, hi⟩ := exists_history (of_decide_eq_true hi)
    obtain ⟨e, hj⟩ := exists_issue (of_decide_eq_true hj)
    exact ⟨_, step_isCurrent hi hj⟩
  | compare j j' =>
    obtain ⟨hj, hj'⟩ := (Bool.and_eq_true ..).mp h
    obtain ⟨e, hj⟩ := exists_issue (of_decide_eq_true hj)
    obtain ⟨e', hj'⟩ := exists_issue (of_decide_eq_true hj')
    exact ⟨_, step_compare hj hj'⟩

/-- Commands that name what exists by then are all carried out, and leave the registry of the
chronicle with these commands. -/
theorem exists_run {commands : List Command} (h : k.knowsAll commands = true) :
    ∃ answers, k.summary.run commands = some (answers, (k.enterAll commands).summary) := by
  induction commands generalizing k with
  | nil => exact ⟨[], rfl⟩
  | cons c commands ih =>
    obtain ⟨hc, hrest⟩ := (Bool.and_eq_true ..).mp h
    obtain ⟨answer, hstep⟩ := exists_step hc
    obtain ⟨answers, hrun⟩ := ih hrest
    refine ⟨answer :: answers, ?_⟩
    rw [run, hstep]
    simp [hrun, enterAll]

/-! ### How histories grow -/

/-- A history grows by the issues on its own counter, and by nothing else. -/
theorem history_enter (h : k.histories[i]? = some history) (c : Command) :
    (k.enter c).histories[i]? =
      some (if c = .issue i then history ++ [k.issues.length] else history) := by
  have hi : i < k.histories.length := (List.getElem?_eq_some_iff.mp h).1
  cases c with
  | create => simp [enter, List.getElem?_append_left hi, h]
  | copy i' => simp [enter, List.getElem?_append_left hi, h]
  | issue i' =>
    cases hi' : k.histories[i']? with
    | none =>
      have hne : i' ≠ i := by
        rintro rfl
        simp [h] at hi'
      simp [enter_issue_unknown hi', h, hne]
    | some other =>
      rw [enter_issue hi', issue]
      by_cases hsame : i' = i
      · subst hsame
        obtain rfl := Option.some.inj (h.symm.trans hi')
        simp [List.getElem?_set_self hi]
      · simp [List.getElem?_set_ne hsame, h, hsame]
  | isCurrent i' j => simp [enter, h]
  | compare j j' => simp [enter, h]

/-- Without issues on its counter a history stays as it is. -/
theorem history_enterAll (h : k.histories[i]? = some history) {commands : List Command}
    (hother : Command.issue i ∉ commands) : (k.enterAll commands).histories[i]? = some history := by
  induction commands generalizing k with
  | nil => exact h
  | cons c commands ih =>
    obtain ⟨hc, hrest⟩ := List.ne_and_not_mem_of_not_mem_cons hother
    have hstep := history_enter h c
    rw [if_neg (Ne.symm hc)] at hstep
    exact ih hstep hrest

/-! ### Tickets number histories -/

/-- The tickets of a history number it: the ticket at every position was issued when the history
went just so far. -/
def Numbered (issues : List Issue) (history : List Nat) : Prop :=
  ∀ p j, history[p]? = some j → ∃ e, issues[j]? = some e ∧ e.history = history.take (p + 1)

/-- What all commands keep of a chronicle. -/
structure Sound (k : Chronicle) : Prop where
  /-- Tickets number every history. -/
  numbered : ∀ history ∈ k.histories, Numbered k.issues history
  /-- The history that a ticket completes holds that ticket. -/
  nonempty : ∀ e ∈ k.issues, e.history ≠ []
  /-- It is a part of the history of the counter that issued the ticket. -/
  kept : ∀ e ∈ k.issues, ∃ history, k.histories[e.counter]? = some history ∧ e.history <+: history
  /-- Of two tickets of one counter the later completes the longer history. -/
  increasing : k.issues.Pairwise fun e e' =>
    e.counter = e'.counter → e.history.length < e'.history.length

theorem getElem?_of_grown {issues issues' : List Issue} (hpart : issues <+: issues')
    (h : issues[j]? = some e) : issues'[j]? = some e := by
  obtain ⟨more, rfl⟩ := hpart
  rw [List.getElem?_append_left (List.getElem?_eq_some_iff.mp h).1, h]

theorem Numbered.mono {issues issues' : List Issue} (h : Numbered issues history)
    (hpart : issues <+: issues') : Numbered issues' history := by
  intro p j hp
  obtain ⟨e, he, htake⟩ := h p j hp
  exact ⟨e, getElem?_of_grown hpart he, htake⟩

/-- The next ticket goes on with the numbers of the history. -/
theorem Numbered.concat {issues : List Issue} (h : Numbered issues history) (i : Nat) :
    Numbered (issues ++ [⟨i, history ++ [issues.length]⟩]) (history ++ [issues.length]) := by
  intro p j hp
  rcases Nat.lt_or_ge p history.length with hlt | hge
  · rw [List.getElem?_append_left hlt] at hp
    obtain ⟨e, he, htake⟩ := h.mono (List.prefix_append ..) p j hp
    exact ⟨e, he, by rw [htake, List.take_append_of_le_length hlt]⟩
  · -- the position after the old history is that of the new ticket
    obtain rfl : p = history.length := by
      have hp' := (List.getElem?_eq_some_iff.mp hp).1
      rw [List.length_append, List.length_singleton] at hp'
      omega
    obtain rfl : issues.length = j := by simpa using hp
    exact ⟨_, List.getElem?_concat_length, (List.take_of_length_le (by simp)).symm⟩

namespace Sound

theorem initial : Sound {} where
  numbered := by simp [Numbered]
  nonempty := by simp
  kept := by simp
  increasing := .nil

/-- A command that issues no ticket keeps a chronicle sound if every new history is an old one or
empty. -/
theorem of_histories (h : Sound k) (new : List (List Nat))
    (hnew : ∀ history ∈ new, history = [] ∨ history ∈ k.histories) :
    Sound { k with histories := k.histories ++ new } where
  numbered := by
    intro history hmem
    rcases List.mem_append.mp hmem with hold | hmem
    · exact h.numbered history hold
    · rcases hnew history hmem with rfl | hold
      · intro p j hp
        simp at hp
      · exact h.numbered history hold
  nonempty := h.nonempty
  kept := by
    intro e he
    obtain ⟨history, hhistory, hpart⟩ := h.kept e he
    refine ⟨history, ?_, hpart⟩
    rw [List.getElem?_append_left (List.getElem?_eq_some_iff.mp hhistory).1, hhistory]
  increasing := h.increasing

/-- An issue keeps a chronicle sound. -/
theorem issue (h : Sound k) (hi : k.histories[i]? = some history) :
    Sound (k.issue i history) where
  numbered := by
    intro other hmem
    rcases List.mem_or_eq_of_mem_set hmem with hold | rfl
    · exact (h.numbered other hold).mono (List.prefix_append ..)
    · exact (h.numbered history (List.mem_of_getElem? hi)).concat i
  nonempty := by
    intro e he
    rcases List.mem_append.mp he with hold | hnew
    · exact h.nonempty e hold
    · obtain rfl := List.mem_singleton.mp hnew
      simp
  kept := by
    intro e he
    rcases List.mem_append.mp he with hold | hnew
    · obtain ⟨other, hother, hpart⟩ := h.kept e hold
      have hgrown := history_enter hother (.issue i)
      rw [enter_issue hi] at hgrown
      refine ⟨_, hgrown, ?_⟩
      split
      · exact hpart.trans (List.prefix_append ..)
      · exact hpart
    · obtain rfl := List.mem_singleton.mp hnew
      have hgrown := history_enter hi (.issue i)
      rw [enter_issue hi, if_pos rfl] at hgrown
      exact ⟨_, hgrown, List.prefix_rfl⟩
  increasing := by
    refine List.pairwise_append.mpr ⟨h.increasing, List.pairwise_singleton .., ?_⟩
    intro e he e' he' hsame
    obtain rfl := List.mem_singleton.mp he'
    -- the earlier ticket completed a part of what the new one goes on with
    obtain ⟨other, hother, hpart⟩ := h.kept e he
    rw [hsame, hi] at hother
    obtain rfl := Option.some.inj hother
    simpa using Nat.lt_succ_of_le hpart.length_le

/-- One command keeps a chronicle sound. -/
theorem enter (h : Sound k) (c : Command) : Sound (k.enter c) := by
  cases c with
  | create => exact h.of_histories [[]] (by simp)
  | copy i =>
    refine h.of_histories _ fun history hmem => Or.inr ?_
    exact List.mem_of_getElem? (by simpa using hmem)
  | issue i =>
    cases hi : k.histories[i]? with
    | none => rwa [enter_issue_unknown hi]
    | some history =>
      rw [enter_issue hi]
      exact h.issue hi
  | isCurrent | compare => exact h

/-- All commands keep a chronicle sound. -/
theorem enterAll (h : Sound k) (commands : List Command) : Sound (k.enterAll commands) := by
  induction commands generalizing k with
  | nil => exact h
  | cons c commands ih => exact ih (h.enter c)

/-- Later tickets of a counter have greater numbers. -/
theorem length_lt (h : Sound k) {j' : Nat} {e' : Issue} (hj : k.issues[j]? = some e)
    (hj' : k.issues[j']? = some e') (hlt : j < j') (hsame : e.counter = e'.counter) :
    e.history.length < e'.history.length := by
  obtain ⟨hbound, rfl⟩ := List.getElem?_eq_some_iff.mp hj
  obtain ⟨hbound', rfl⟩ := List.getElem?_eq_some_iff.mp hj'
  exact List.pairwise_iff_getElem.mp h.increasing j j' hbound hbound' hlt hsame

/-- The number of a ticket is its position in every history that holds it. -/
theorem getElem?_tickets_of_history (h : Sound k) (hmem : history ∈ k.histories) {p : Nat}
    (hp : history[p]? = some j) : k.summary.tickets[j]? = some ⟨p + 1⟩ := by
  obtain ⟨e, he, htake⟩ := h.numbered history hmem p j hp
  have hlt : p < history.length := (List.getElem?_eq_some_iff.mp hp).1
  rw [getElem?_tickets he, htake, List.length_take_of_le hlt]

/-- Nothing is current for a counter without history. -/
theorem step_isCurrent_of_nil (h : Sound k) (hi : k.histories[i]? = some [])
    (hj : k.issues[j]? = some e) :
    k.summary.step (.isCurrent i j) = some (.current false, k.summary) := by
  have hpos : e.history.length ≠ 0 :=
    mt List.eq_nil_of_length_eq_zero (h.nonempty e (List.mem_of_getElem? hj))
  rw [step_isCurrent hi hj, List.length_nil, beq_false_of_ne hpos]

end Sound

end Chronicle

/-- The chronicle of commands. -/
def chronicle (commands : List Command) : Chronicle := Chronicle.enterAll {} commands

/-- Tickets number the histories of their counters. Commands that name what exists by then are all
carried out. Afterwards the number of every ticket is how many tickets the history of its counter
had, those before a copy and itself included, and the next ticket of a counter goes on in this way;
comparing tickets compares these numbers, and they increase among the tickets of one counter. The
tickets of a history, inherited or not, have the numbers from one on. A ticket of any counter is
current exactly if its number is the length of the history in question, so no ticket is current for
a counter without history. Which tickets are current for a counter changes only by issues on that
very counter, not by issues on its copies or on its original. -/
theorem tickets_number_histories {commands : List Command}
    (hknown : Chronicle.knowsAll {} commands = true) :
    let k := chronicle commands
    ∃ answers r, run {} commands = some (answers, r) ∧
      -- the numbers of tickets
      r.tickets = k.issues.map (fun e => ⟨e.history.length⟩) ∧
      (∀ i history, k.histories[i]? = some history →
        ∃ r', r.step (.issue i) = some (.ticket r.tickets.length, r') ∧
          r'.tickets = r.tickets ++ [⟨history.length + 1⟩]) ∧
      (∀ j j' e e', k.issues[j]? = some e → k.issues[j']? = some e' →
        r.step (.compare j j') =
          some (.order (compare e.history.length e'.history.length), r) ∧
        (j < j' → e.counter = e'.counter → e.history.length < e'.history.length)) ∧
      (∀ history ∈ k.histories, ∀ (p j : Nat), history[p]? = some j →
        r.tickets[j]? = some ⟨p + 1⟩) ∧
      -- which of them are current
      (∀ i history j e, k.histories[i]? = some history → k.issues[j]? = some e →
        r.step (.isCurrent i j) = some (.current (e.history.length == history.length), r) ∧
        (history = [] → r.step (.isCurrent i j) = some (.current false, r))) ∧
      (∀ i history later, k.histories[i]? = some history → k.knowsAll later = true →
        Command.issue i ∉ later →
        ∃ answers' r', r.run later = some (answers', r') ∧ ∀ ticket : Ticket,
          r'.counters[i]?.map (·.isCurrent ticket) = r.counters[i]?.map (·.isCurrent ticket)) := by
  intro k
  have hsound : k.Sound := Chronicle.Sound.initial.enterAll commands
  obtain ⟨answers, hrun⟩ := Chronicle.exists_run hknown
  refine ⟨answers, k.summary, hrun, rfl, ?_, ?_, ?_, ?_, ?_⟩
  · intro i history hi
    refine ⟨(k.issue i history).summary, ?_, ?_⟩
    · rw [Chronicle.step_issue hi]
      simp [Chronicle.summary]
    · simp [Chronicle.summary, Chronicle.issue]
  · intro j j' e e' hj hj'
    exact ⟨Chronicle.step_compare hj hj', hsound.length_lt hj hj'⟩
  · intro history hmem p j hp
    exact hsound.getElem?_tickets_of_history hmem hp
  · intro i history j e hi hj
    refine ⟨Chronicle.step_isCurrent hi hj, ?_⟩
    rintro rfl
    exact hsound.step_isCurrent_of_nil hi hj
  · intro i history later hi hlater hother
    obtain ⟨answers', hrun'⟩ := Chronicle.exists_run hlater
    refine ⟨answers', _, hrun', fun ticket => ?_⟩
    have hstays := Chronicle.history_enterAll hi hother
    rw [Chronicle.getElem?_counters hi, Chronicle.getElem?_counters hstays]

/-- A ticket, a copy of its counter, one ticket more on each of the two, and a ticket of an
unrelated counter. -/
def copiedCommands : List Command := [.issue 0, .copy 0, .issue 1, .issue 0, .create, .issue 2]

/-- The tickets issued after the copy have the same number, and the ticket of the copy is current
for the original. -/
theorem copy_and_original_share_numbers :
    Chronicle.knowsAll {} copiedCommands = true ∧
    ∃ answers r, run {} copiedCommands = some (answers, r) ∧
      r.tickets = [⟨1⟩, ⟨2⟩, ⟨2⟩, ⟨1⟩] ∧
      r.step (.compare 1 2) = some (.order .eq, r) ∧
      r.step (.isCurrent 0 1) = some (.current true, r) := by
  have hknown : Chronicle.knowsAll {} copiedCommands = true := by decide
  obtain ⟨answers, r, hrun, htickets, -, hcompare, -, hcurrent, -⟩ :=
    tickets_number_histories hknown
  refine ⟨hknown, answers, r, hrun, htickets, ?_, ?_⟩
  · exact (hcompare 1 2 ⟨1, [0, 1]⟩ ⟨0, [0, 2]⟩ (by decide) (by decide)).1
  · exact (hcurrent 0 [0, 2] 1 ⟨1, [0, 1]⟩ (by decide) (by decide)).1

end ConversionDesk.Registry
