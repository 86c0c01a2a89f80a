import Mathlib.Logic.Relation
import ConversionDesk.Proofs.Json.RecordForms

/-!
# Members in any order

The text of an object is a list of members between braces, and whoever writes it is free to
choose their order and to add members that the reader does not know. This file says what such
changes do to a record: nothing.

A member is taken as it is written, with the blanks around its name and its value. The text of
every object falls apart into such members, because the marks of a text cut it into pieces that
are scanned on their own, and members that are put together again form an object. A change
moves members about, or puts in or takes out one that the record skips. What is skipped only
has to be well formed: it may nest without limit, and its strings and numbers may denote
nothing.

## Main definitions

* `Token.Cut` — a text that is cut at a mark
* `Member` — a member as it is written
* `Lists` — a text that lists members between braces
* `Edit`, `Rearranged` — one change to a list of members, and any number of them
* `Record.Skipped` — a member that is no field of a record
* `Record.lookups?` — the fields of a record in the order of the names

## Main results

* `Token.exists_cut` — a mark cuts a text into two texts
* `Tree.parse?_eq_object_iff` — the texts of an object are those that list its members
* `Edit.lookups?_eq`, `Rearranged.lookups?_eq` — a rearranged object gives the same fields
-/

namespace ConversionDesk.Json

/-! ### Cutting a text at its marks -/

namespace Token

/-- The tokens of structural characters. -/
def isMark : Token → Bool
  | openArray | closeArray | openObject | closeObject | comma | colon => true
  | _ => false

theorem isMark_of_ofWord? {w : List Char} {t : Token} (h : ofWord? w = some t) :
    t.isMark = false := by
  unfold ofWord? at h
  split at h
  · cases h
    rfl
  split at h
  · cases h
    rfl
  split at h
  · cases h
    rfl
  · obtain ⟨l, -, rfl⟩ := Option.map_eq_some_iff.mp h
    rfl

theorem isMark_of_ofQuoted? {cs : List Char} {t : Token} (h : ofQuoted? cs = some t) :
    t.isMark = false := by
  obtain ⟨atoms, -, rfl⟩ := Option.map_eq_some_iff.mp h
  rfl

/-- A character between tokens is a mark, or gives no token yet. -/
theorem enter_cases (c : Char) :
    (∃ t, mark? c = some t ∧ enter c = ([t], .between)) ∨ (enter c).1 = [] := by
  by_cases hblank : isBlank c = true
  · exact Or.inr (by rw [enter, if_pos hblank])
  · rw [enter, if_neg hblank]
    cases hmark : mark? c with
    | some t => exact Or.inl ⟨t, rfl, rfl⟩
    | none => by_cases hquote : c = '"' <;> simp [hquote]

/-- Only a blank gives no token and leads into none. -/
theorem isBlank_of_enter {c : Char} (htokens : (enter c).1 = []) (hplace : (enter c).2 = .between) :
    isBlank c = true := by
  by_contra hblank
  rw [enter, if_neg hblank] at htokens hplace
  cases hmark : mark? c with
  | some t => simp [hmark] at htokens
  | none =>
    rw [hmark] at hplace
    by_cases hquote : c = '"' <;> simp [hquote] at hplace

/-- A list that starts with something else than a mark has the mark further on. -/
theorem exists_of_cons_eq_append {t mark : Token} {rest ts us : List Token}
    (ht : t.isMark = false) (hmark : mark.isMark = true) (h : t :: rest = ts ++ mark :: us) :
    ∃ vs, ts = t :: vs ∧ rest = vs ++ mark :: us := by
  cases ts with
  | nil =>
    obtain ⟨rfl, -⟩ := List.cons.inj h
    exact absurd (ht.symm.trans hmark) Bool.false_ne_true
  | cons u vs =>
    obtain ⟨rfl, hrest⟩ := List.cons.inj h
    exact ⟨vs, rfl, hrest⟩

/-- A text is cut at a mark: the tokens before the mark are those of the text before it, and the
tokens after it are those of the text after it. -/
def Cut (p : Position) (cs : List Char) (ts : List Token) (mark : Token) (us : List Token) : Prop :=
  ∃ before c after, cs = before ++ c :: after ∧ mark? c = some mark ∧
    scanFrom p before = some ts ∧ scan after = some us

/-- The cut of a text whose first character stands between tokens, from the cut of the rest. -/
theorem cut_cons {c : Char} {cs : List Char} {ts us : List Token} {mark : Token}
    (ih : ∀ vs, scanFrom (enter c).2 cs = some (vs ++ mark :: us) → Cut (enter c).2 cs vs mark us)
    (h : (scanFrom (enter c).2 cs).map ((enter c).1 ++ ·) = some (ts ++ mark :: us)) :
    Cut .between (c :: cs) ts mark us := by
  obtain ⟨rest, hrest, heq⟩ := Option.map_eq_some_iff.mp h
  rcases enter_cases c with ⟨t, ht, henter⟩ | henter
  · rw [henter, List.singleton_append] at heq
    rw [henter] at hrest ih
    cases ts with
    | nil =>
      -- the character is itself the mark
      obtain ⟨rfl, rfl⟩ := List.cons.inj heq
      exact ⟨[], c, cs, rfl, ht, rfl, hrest⟩
    | cons u vs =>
      obtain ⟨rfl, rfl⟩ := List.cons.inj heq
      obtain ⟨before, d, after, rfl, hd, hbefore, hafter⟩ := ih vs hrest
      exact ⟨c :: before, d, after, rfl, hd, by simp [scanFrom, henter, hbefore], hafter⟩
  · rw [henter, List.nil_append] at heq
    subst heq
    obtain ⟨before, d, after, rfl, hd, hbefore, hafter⟩ := ih ts hrest
    exact ⟨c :: before, d, after, rfl, hd, by simp [scanFrom, henter, hbefore], hafter⟩

/-- A mark cuts a text into two texts. -/
theorem exists_cut {p : Position} {cs : List Char} {ts us : List Token} {mark : Token}
    (hmark : mark.isMark = true) (h : scanFrom p cs = some (ts ++ mark :: us)) :
    Cut p cs ts mark us := by
  fun_induction scanFrom p cs generalizing ts with
  | case1 => simp at h
  | case2 c cs ih => exact cut_cons (fun vs hvs => ih hvs) h
  | case3 seen =>
    obtain ⟨t, ht, heq⟩ := Option.map_eq_some_iff.mp h
    obtain ⟨vs, -, hnil⟩ := exists_of_cons_eq_append (isMark_of_ofWord? ht) hmark heq
    simp at hnil
  | case4 seen c cs hends ih =>
    simp only [bind, Option.bind_eq_some_iff] at h
    obtain ⟨t, ht, rest, hrest, heq⟩ := h
    obtain ⟨vs, rfl, htail⟩ :=
      exists_of_cons_eq_append (isMark_of_ofWord? ht) hmark (Option.some.inj heq)
    -- the word ends before `c`, so the rest of the text is cut as one that starts at `c`
    have hcut : Cut .between (c :: cs) vs mark us :=
      cut_cons (fun ws hws => ih hws) (by rw [hrest, Option.map_some, htail])
    obtain ⟨before, d, after, hcs, hd, hbefore, hafter⟩ := hcut
    refine ⟨before, d, after, hcs, hd, ?_, hafter⟩
    have hstops : Stops before := by
      cases before with
      | nil => trivial
      | cons e before =>
        obtain ⟨rfl, -⟩ := List.cons.inj hcs
        exact hends
    have hword := scanFrom_word (w := []) seen rfl hstops (by simpa using ht)
    rw [List.nil_append] at hword
    rw [hword, scan, hbefore, Option.map_some]
  | case5 seen c cs hends ih =>
    obtain ⟨before, d, after, rfl, hd, hbefore, hafter⟩ := ih h
    exact ⟨c :: before, d, after, rfl, hd, by simpa [scanFrom, hends] using hbefore, hafter⟩
  | case6 => cases h
  | case7 seen cs ih =>
    simp only [bind, Option.bind_eq_some_iff] at h
    obtain ⟨t, ht, rest, hrest, heq⟩ := h
    obtain ⟨vs, rfl, rfl⟩ :=
      exists_of_cons_eq_append (isMark_of_ofQuoted? ht) hmark (Option.some.inj heq)
    obtain ⟨before, d, after, rfl, hd, hbefore, hafter⟩ := ih hrest
    exact ⟨'"' :: before, d, after, rfl, hd, by simp [scanFrom, ht, hbefore], hafter⟩
  | case8 seen cs hquote ih =>
    obtain ⟨before, d, after, rfl, hd, hbefore, hafter⟩ := ih h
    exact ⟨'\\' :: before, d, after, rfl, hd, by simpa [scanFrom] using hbefore, hafter⟩
  | case9 seen c cs hquote hslash ih =>
    obtain ⟨before, d, after, rfl, hd, hbefore, hafter⟩ := ih h
    exact ⟨c :: before, d, after, rfl, hd, by simpa [scanFrom, hquote, hslash] using hbefore,
      hafter⟩
  | case10 => cases h
  | case11 seen c cs ih =>
    obtain ⟨before, d, after, rfl, hd, hbefore, hafter⟩ := ih h
    exact ⟨c :: before, d, after, rfl, hd, by simpa [scanFrom] using hbefore, hafter⟩

/-- A text without tokens is blank. -/
theorem isBlank_of_scanFrom {p : Position} {cs : List Char} (h : scanFrom p cs = some []) :
    p = .between ∧ ∀ c ∈ cs, isBlank c = true := by
  fun_induction scanFrom p cs with
  | case1 => simp
  | case2 c cs ih =>
    obtain ⟨rest, hrest, heq⟩ := Option.map_eq_some_iff.mp h
    obtain ⟨hnone, rfl⟩ := List.append_eq_nil_iff.mp heq
    obtain ⟨hbetween, hblank⟩ := ih hrest
    exact ⟨rfl, List.forall_mem_cons.mpr ⟨isBlank_of_enter hnone hbetween, hblank⟩⟩
  | case3 seen =>
    obtain ⟨t, -, heq⟩ := Option.map_eq_some_iff.mp h
    cases heq
  | case4 seen c cs hends ih | case7 seen cs ih =>
    simp only [bind, Option.bind_eq_some_iff] at h
    obtain ⟨t, -, rest, -, heq⟩ := h
    cases Option.some.inj heq
  | case5 seen c cs hends ih => cases (ih h).1
  | case6 => cases h
  | case8 seen cs hquote ih => cases (ih h).1
  | case9 seen c cs hquote hslash ih => cases (ih h).1
  | case10 => cases h
  | case11 seen c cs ih => cases (ih h).1

theorem eq_of_mark? {c d : Char} {t : Token} (hc : mark? c = some t) (hd : mark? d = some t) :
    c = d := by
  unfold mark? at hc hd
  split at hc
  all_goals cases hc
  all_goals split at hd
  all_goals cases hd
  all_goals rfl

end Token

/-! ### Objects as they are written -/

/-- A member as it is written: the texts of its name and of its value, with the blanks around
them, and what they read as. -/
structure Member where
  nameText : String
  valueText : String
  name : Option String
  value : Tree
  name_reads : Tree.parse? nameText = some (.string name)
  value_reads : Tree.parse? valueText = some value

namespace Member

/-- The whole text of a member. -/
def text (m : Member) : String := m.nameText ++ ":" ++ m.valueText

/-- What the member is in the tree of its object. -/
def own (m : Member) : Option String × Tree := (m.name, m.value)

theorem spells (m : Member) : Token.Spells m.text.toList (Tree.ownTokens m.own) := by
  have hname := Tree.parse?_eq_some_iff.mp m.name_reads
  have hvalue := Tree.parse?_eq_some_iff.mp m.value_reads
  simpa [text, own, Tree.ownTokens, Tree.tokens] using hname.append_mark (c := ':') rfl hvalue

/-- The tokens of a member are those of a text that is cut at its colon. -/
theorem exists_of_scan {cs : List Char} {m : Option String × Tree}
    (h : Token.scan cs = some (Tree.ownTokens m)) :
    ∃ member : Member, member.own = m ∧ member.text.toList = cs := by
  obtain ⟨name, value⟩ := m
  have hcut : Token.Cut .between cs [.string name] .colon value.tokens := Token.exists_cut rfl h
  obtain ⟨before, c, after, rfl, hc, hbefore, hafter⟩ := hcut
  obtain rfl : c = ':' := Token.eq_of_mark? hc rfl
  have hname : Tree.parse? (String.ofList before) = some (.string name) := by
    rw [Tree.parse?_eq_some_iff, String.toList_ofList]
    exact Token.spells_of_scan hbefore
  have hvalue : Tree.parse? (String.ofList after) = some value := by
    rw [Tree.parse?_eq_some_iff, String.toList_ofList]
    exact Token.spells_of_scan hafter
  exact ⟨⟨_, _, name, value, hname, hvalue⟩, rfl, by simp [text]⟩

/-- The tokens of several members are those of a text that is cut at its commas. -/
theorem exists_list_of_scan {ms : List (Option String × Tree)} (hne : ms ≠ []) {cs : List Char}
    (h : Token.scan cs = some ([.comma].intercalate (ms.map Tree.ownTokens))) :
    ∃ members : List Member, members.map own = ms ∧
      [','].intercalate (members.map (·.text.toList)) = cs := by
  induction ms generalizing cs with
  | nil => exact absurd rfl hne
  | cons m ms ih =>
    cases ms with
    | nil =>
      obtain ⟨member, hown, htext⟩ := exists_of_scan (by simpa using h)
      exact ⟨[member], by simp [hown], by simp [htext]⟩
    | cons n ms =>
      have htokens : Token.scan cs = some (Tree.ownTokens m ++
          .comma :: [.comma].intercalate ((n :: ms).map Tree.ownTokens)) := by simpa using h
      obtain ⟨before, c, after, rfl, hc, hbefore, hafter⟩ := Token.exists_cut rfl htokens
      obtain rfl : c = ',' := Token.eq_of_mark? hc rfl
      obtain ⟨member, hown, rfl⟩ := exists_of_scan hbefore
      obtain ⟨members, hmembers, rfl⟩ := ih (List.cons_ne_nil n ms) hafter
      refine ⟨member :: members, by rw [List.map_cons, hown, hmembers], ?_⟩
      cases members with
      | nil => cases hmembers
      | cons => simp

end Member

/-- A text that holds blanks only. -/
def Blank (text : String) : Prop := ∀ c ∈ text.toList, Token.isBlank c = true

/-- A text that lists members between braces. Blanks may stand around the braces; those around
names and values belong to the members. -/
def Lists (text : String) (members : List Member) : Prop :=
  ∃ lead gap trail, Blank lead ∧ Blank gap ∧ Blank trail ∧
    text = lead ++ "\x7b" ++ gap ++ ",".intercalate (members.map Member.text) ++ "\x7d" ++ trail

namespace Tree

theorem parse?_of_lists {text : String} {members : List Member} (h : Lists text members) :
    parse? text = some (object (members.map Member.own)) := by
  obtain ⟨lead, gap, trail, hlead, hgap, htrail, rfl⟩ := h
  have hpieces : List.Forall₂ Token.Spells (members.map (·.text.toList))
      ((members.map Member.own).map ownTokens) := by
    rw [List.forall₂_map_left_iff, List.map_map, List.forall₂_map_right_iff, List.forall₂_same]
    exact fun m _ => m.spells
  have htrail : Token.Spells trail.toList [] := by
    simpa using Token.Spells.nil.blanks_append htrail
  have hinside := ((Token.Spells.intercalate hpieces).blanks_append hgap).append_mark
    (c := '\x7d') rfl htrail
  rw [parse?_eq_some_iff, tokens_object]
  simpa [Function.comp_def] using (hinside.mark_cons (c := '\x7b') rfl).blanks_append hlead

theorem exists_lists_of_parse? {text : String} {ms : List (Option String × Tree)}
    (h : parse? text = some (object ms)) :
    ∃ members, Lists text members ∧ members.map Member.own = ms := by
  have hscan := (parse?_eq_some_iff.mp h).scan_eq
  rw [tokens_object] at hscan
  -- the text is cut at the brace that opens it, and then at the one that closes it
  have hopen : Token.Cut .between text.toList [] .openObject
      ([.comma].intercalate (ms.map ownTokens) ++ [.closeObject]) := Token.exists_cut rfl hscan
  obtain ⟨lead, c, rest, htext, hc, hlead, hrest⟩ := hopen
  obtain rfl : c = '\x7b' := Token.eq_of_mark? hc rfl
  have hclose : Token.Cut .between rest ([.comma].intercalate (ms.map ownTokens)) .closeObject [] :=
    Token.exists_cut rfl hrest
  obtain ⟨inside, c, trail, rfl, hc, hinside, htrail⟩ := hclose
  obtain rfl : c = '\x7d' := Token.eq_of_mark? hc rfl
  have hlead : Blank (String.ofList lead) := by
    simpa [Blank] using (Token.isBlank_of_scanFrom hlead).2
  have htrail : Blank (String.ofList trail) := by
    simpa [Blank] using (Token.isBlank_of_scanFrom htrail).2
  by_cases hne : ms = []
  · subst hne
    have hgap : Blank (String.ofList inside) := by
      simpa [Blank] using (Token.isBlank_of_scanFrom hinside).2
    refine ⟨[], ⟨_, _, _, hlead, hgap, htrail, ?_⟩, rfl⟩
    rw [← String.toList_inj, htext]
    simp
  · obtain ⟨members, hmembers, rfl⟩ := Member.exists_list_of_scan hne hinside
    refine ⟨members, ⟨_, "", _, hlead, by simp [Blank], htrail, ?_⟩, hmembers⟩
    rw [← String.toList_inj, htext]
    simp [Function.comp_def]

/-- The texts of an object are those that list its members. -/
theorem parse?_eq_object_iff {text : String} {ms : List (Option String × Tree)} :
    parse? text = some (object ms) ↔
      ∃ members, Lists text members ∧ members.map Member.own = ms := by
  constructor
  · exact exists_lists_of_parse?
  · rintro ⟨members, hlists, rfl⟩
    exact parse?_of_lists hlists

end Tree

/-! ### Changes to a list of members -/

section Changes

variable {α β : Type}

/-- One change to a list: another order, or an entry of no account put in or taken out. -/
inductive Edit (skipped : α → Prop) : List α → List α → Prop
  | order {xs ys : List α} (h : xs.Perm ys) : Edit skipped xs ys
  | insert {x : α} (before after : List α) (h : skipped x) :
    Edit skipped (before ++ after) (before ++ x :: after)
  | erase {x : α} (before after : List α) (h : skipped x) :
    Edit skipped (before ++ x :: after) (before ++ after)

/-- Any number of changes, one after the other. -/
def Rearranged (skipped : α → Prop) : List α → List α → Prop :=
  Relation.ReflTransGen (Edit skipped)

theorem Edit.map {p : α → Prop} {q : β → Prop} (f : α → β) (hf : ∀ x, p x → q (f x))
    {xs ys : List α} (h : Edit p xs ys) : Edit q (xs.map f) (ys.map f) := by
  cases h with
  | order h => exact .order (h.map f)
  | insert before after h =>
    rw [List.map_append, List.map_append, List.map_cons]
    exact .insert _ _ (hf _ h)
  | erase before after h =>
    rw [List.map_append, List.map_append, List.map_cons]
    exact .erase _ _ (hf _ h)

theorem Rearranged.map {p : α → Prop} {q : β → Prop} (f : α → β) (hf : ∀ x, p x → q (f x))
    {xs ys : List α} (h : Rearranged p xs ys) : Rearranged q (xs.map f) (ys.map f) := by
  induction h with
  | refl => exact Relation.ReflTransGen.refl
  | tail _ hedit ih => exact Relation.ReflTransGen.tail ih (hedit.map f hf)

end Changes

/-! ### The fields of a rearranged object -/

namespace Record

/-- A member that is no field: its name is a proper string, and its value may be anything. -/
def Skipped (names : List String) (m : Option String × Tree) : Prop :=
  ∃ name, m.1 = some name ∧ name ∉ names

/-- The fields of a record in the order of the names, each as it is looked up. -/
def lookups? (names : List String) (t : Tree) : Option (List (Option Value)) :=
  (ofTree? names t).map fun fields => names.map (field? · fields)

variable {names : List String} {ms others : List (Option String × Tree)}

theorem ofMembers?_insert {m : Option String × Tree} (h : Skipped names m)
    (before after : List (Option String × Tree)) :
    ofMembers? names (before ++ m :: after) = ofMembers? names (before ++ after) := by
  induction before with
  | nil =>
    obtain ⟨_, t⟩ := m
    obtain ⟨name, rfl, hname⟩ := h
    simp [ofMembers?, hname]
  | cons first before ih =>
    obtain ⟨_ | name, t⟩ := first
    · rfl
    · simp only [List.cons_append, ofMembers?, ih]

theorem lookups?_insert {m : Option String × Tree} (h : Skipped names m)
    (before after : List (Option String × Tree)) :
    lookups? names (.object (before ++ m :: after)) =
      lookups? names (.object (before ++ after)) := by
  rw [lookups?, lookups?, ofTree?, ofTree?, ofMembers?_insert h]

theorem gives_iff_of_perm (h : ms.Perm others) {name : String} {v : Value} :
    Gives ms name v ↔ Gives others name v := by
  simp only [Gives, h.mem_iff]

theorem WithinLimits.of_perm (hlimits : WithinLimits names ms) (h : ms.Perm others) :
    WithinLimits names others where
  named m hm := hlimits.named m (h.mem_iff.mpr hm)
  valued name hname t ht := hlimits.valued name hname t (h.mem_iff.mpr ht)
  distinct := (((h.filterMap Prod.fst).filter _).nodup_iff).mp hlimits.distinct

theorem lookups?_perm (h : ms.Perm others) :
    lookups? names (.object ms) = lookups? names (.object others) := by
  have hlimits : (ofTree? names (.object ms)).isSome = (ofTree? names (.object others)).isSome := by
    rw [Bool.eq_iff_iff, ofTree?_object_isSome_iff, ofTree?_object_isSome_iff]
    exact ⟨fun hms => hms.of_perm h, fun hothers => hothers.of_perm h.symm⟩
  rw [lookups?, lookups?]
  cases hfields : ofTree? names (.object ms) with
  | none =>
    rw [hfields, Option.isSome_none, eq_comm, Option.isSome_eq_false_iff,
      Option.isNone_iff_eq_none] at hlimits
    rw [hlimits]
  | some fields =>
    rw [hfields, Option.isSome_some, eq_comm, Option.isSome_iff_exists] at hlimits
    obtain ⟨found, hfound⟩ := hlimits
    rw [hfound, Option.map_some, Option.map_some, Option.some_inj]
    -- both look-ups are what the members give, and they give the same in any order
    apply List.map_congr_left
    intro name hname
    ext v
    rw [field?_eq_some_iff_gives hfields hname, field?_eq_some_iff_gives hfound hname,
      gives_iff_of_perm h]

end Record

/-- One change to the members of an object leaves its fields as they are. -/
theorem Edit.lookups?_eq {names : List String} {ms others : List (Option String × Tree)}
    (h : Edit (Record.Skipped names) ms others) :
    Record.lookups? names (.object ms) = Record.lookups? names (.object others) := by
  cases h with
  | order h => exact Record.lookups?_perm h
  | insert before after h => exact (Record.lookups?_insert h before after).symm
  | erase before after h => exact Record.lookups?_insert h before after

/-- A rearranged object gives the same fields. -/
theorem Rearranged.lookups?_eq {names : List String} {ms others : List (Option String × Tree)}
    (h : Rearranged (Record.Skipped names) ms others) :
    Record.lookups? names (.object ms) = Record.lookups? names (.object others) := by
  induction h with
  | refl => rfl
  | tail _ hedit ih => exact ih.trans hedit.lookups?_eq

/-- Texts that list rearranged members give the same fields. -/
theorem Rearranged.parse?_bind_eq {α : Type} {names : List String} {members others : List Member}
    (h : Rearranged (fun m => Record.Skipped names m.own) members others) {text other : String}
    (htext : Lists text members) (hother : Lists other others)
    {ofFields? : List (String × Value) → Option α}
    (hfields : ∀ a b, (∀ name ∈ names, Record.field? name a = Record.field? name b) →
      ofFields? a = ofFields? b) :
    (Record.parse? names text).bind ofFields? = (Record.parse? names other).bind ofFields? := by
  have hlookups := (h.map (q := Record.Skipped names) Member.own fun _ hm => hm).lookups?_eq
  rw [Record.parse?, Record.parse?, Tree.parse?_of_lists htext, Tree.parse?_of_lists hother,
    Option.bind_some, Option.bind_some]
  simp only [Record.lookups?] at hlookups
  cases hread : Record.ofTree? names (.object (members.map Member.own)) with
  | none =>
    rw [hread, Option.map_none, eq_comm, Option.map_eq_none_iff] at hlookups
    rw [hlookups]
  | some fields =>
    rw [hread, Option.map_some, eq_comm, Option.map_eq_some_iff] at hlookups
    obtain ⟨found, hfound, heq⟩ := hlookups
    rw [hfound, Option.bind_some, Option.bind_some]
    exact hfields _ _ fun name hname => (List.map_inj_left.mp heq name hname).symm

end ConversionDesk.Json
