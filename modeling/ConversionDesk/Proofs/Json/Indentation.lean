import ConversionDesk.Proofs.Json.RecordForms

/-!
# Indented texts

The indented text of a value puts every element and every member on a line of its own. It is
meant for people, but it is still a text of the value: this file shows that it reads back, and
that it is the compact text with nothing but spaces and line breaks added, none of them inside
a string literal.

Both halves go through the value in the same way. In each container the element or member that
comes first is told apart from the others, and the level only says how far a line is indented,
so it takes part in neither argument.

## Main definitions

* `unspaced` — a text without the spaces and line breaks outside string literals

## Main results

* `Value.parse?_indented` — the indented text of a value reads back
* `Value.unspaced_indented` — without its layout it is the compact text
-/

namespace ConversionDesk.Json

/-! ### Texts without layout -/

/-- Where a character of a text stands: outside string literals, inside one, or inside one
right after a backslash. -/
inductive Place where
  | outside
  | inside
  | escaped

/-- The rest of a text, from a place in it, without spaces and line breaks outside string
literals. -/
def unspacedFrom : Place → List Char → List Char
  | _, [] => []
  | .outside, c :: cs =>
    if c = ' ' ∨ c = '\n' then unspacedFrom .outside cs
    else if c = '"' then c :: unspacedFrom .inside cs
    else c :: unspacedFrom .outside cs
  | .inside, c :: cs =>
    if c = '"' then c :: unspacedFrom .outside cs
    else if c = '\\' then c :: unspacedFrom .escaped cs
    else c :: unspacedFrom .inside cs
  | .escaped, c :: cs => c :: unspacedFrom .inside cs

/-- A text without the spaces and line breaks outside string literals. -/
def unspaced (text : String) : String := String.ofList (unspacedFrom .outside text.toList)

example : unspaced "[ \"a b\\\" \", \n 1 ]" = "[\"a b\\\" \",1]" := by decide

theorem unspacedFrom_spaces (count : Nat) (rest : List Char) :
    unspacedFrom .outside (List.replicate count ' ' ++ rest) = unspacedFrom .outside rest := by
  induction count with
  | zero => rfl
  | succ count ih => simpa [List.replicate_succ, unspacedFrom] using ih

theorem unspacedFrom_lineBreak (level : Nat) (rest : List Char) :
    unspacedFrom .outside (Value.lineBreak level ++ rest) = unspacedFrom .outside rest := by
  simp [Value.lineBreak, unspacedFrom, unspacedFrom_spaces]

theorem unspacedFrom_word {w : List Char} (h : w.any Token.endsWord = false) (rest : List Char) :
    unspacedFrom .outside (w ++ rest) = w ++ unspacedFrom .outside rest := by
  induction w with
  | nil => rfl
  | cons c w ih =>
    rw [List.any_cons, Bool.or_eq_false_iff] at h
    obtain ⟨hc, hw⟩ := h
    have hkept : ¬ (c = ' ' ∨ c = '\n') ∧ c ≠ '"' := by
      refine ⟨?_, ?_⟩
      · rintro (rfl | rfl) <;> cases hc
      · rintro rfl
        cases hc
    rw [List.cons_append, unspacedFrom, if_neg hkept.1, if_neg hkept.2, ih hw, List.cons_append]

theorem unspacedFrom_writeChar (c : Char) (rest : List Char) :
    unspacedFrom .inside (Quoted.writeChar c ++ rest) =
      Quoted.writeChar c ++ unspacedFrom .inside rest := by
  rcases Quoted.writeChar_cases c with ⟨e, -, hspelling⟩ | ⟨hcontrol, hspelling⟩ |
    ⟨hquote, hslash, -, hspelling⟩
  · simp [hspelling, unspacedFrom]
  · have hlt : c.toNat < 32 := by simpa [Quoted.isControl] using hcontrol
    have hhigh := Quoted.hexDigit_ne (by omega : c.toNat / 16 < 16)
    have hlow := Quoted.hexDigit_ne (by omega : c.toNat % 16 < 16)
    simp [hspelling, unspacedFrom, hhigh, hlow]
  · simp [hspelling, unspacedFrom, hquote, hslash]

/-- A string literal is kept as it is. -/
theorem unspacedFrom_quoted (s : String) (rest : List Char) :
    unspacedFrom .outside (Quoted.write s ++ rest) =
      Quoted.write s ++ unspacedFrom .outside rest := by
  have hinside : ∀ cs : List Char,
      unspacedFrom .inside (cs.flatMap Quoted.writeChar ++ '"' :: rest) =
        cs.flatMap Quoted.writeChar ++ '"' :: unspacedFrom .outside rest := by
    intro cs
    induction cs with
    | nil => simp [unspacedFrom]
    | cons c cs ih =>
      rw [List.flatMap_cons, List.append_assoc, unspacedFrom_writeChar, ih, List.append_assoc]
  simp [Quoted.write, unspacedFrom, hinside]

namespace Value

mutual

/-- Without its layout the indented text of a value is the compact one, at every level and
whatever follows. -/
theorem unspacedFrom_indentedChars (level : Nat) (v : Value) (rest : List Char)
    (h : ∀ n ∈ v.numbers, ∃ i, n = .integer i ∧ Number.FitsInteger i) :
    unspacedFrom .outside (v.indentedChars level ++ rest) =
      v.compactChars ++ unspacedFrom .outside rest := by
  match v with
  | null => exact unspacedFrom_word rfl rest
  | bool b =>
    cases b with
    | true => exact unspacedFrom_word rfl rest
    | false => exact unspacedFrom_word rfl rest
  | number n =>
    obtain ⟨i, rfl, -⟩ := h n List.mem_cons_self
    exact unspacedFrom_word (Token.any_endsWord_writeInteger i) rest
  | string s => exact unspacedFrom_quoted s rest
  | array [] => simp [indentedChars, compactChars, unspacedFrom]
  | array (x :: xs) =>
    simp only [numbers, elementNumbers, List.mem_append] at h
    have hhead := fun rest =>
      unspacedFrom_indentedChars (level + 1) x rest fun n hn => h n (.inl hn)
    have htail := unspacedFrom_indentedElements level xs rest fun n hn => h n (.inr hn)
    simp [indentedChars, compactChars, unspacedFrom, unspacedFrom_lineBreak, hhead, htail]
  | object [] => simp [indentedChars, compactChars, unspacedFrom]
  | object ((n, x) :: ms) =>
    simp only [numbers, memberNumbers, List.mem_append] at h
    have hhead := fun rest =>
      unspacedFrom_indentedChars (level + 1) x rest fun n hn => h n (.inl hn)
    have htail := unspacedFrom_indentedMembers level ms rest fun n hn => h n (.inr hn)
    simp [indentedChars, compactChars, unspacedFrom, unspacedFrom_lineBreak, unspacedFrom_quoted,
      hhead, htail]

theorem unspacedFrom_indentedElements (level : Nat) (xs : List Value) (rest : List Char)
    (h : ∀ n ∈ elementNumbers xs, ∃ i, n = .integer i ∧ Number.FitsInteger i) :
    unspacedFrom .outside (indentedElements level xs ++ rest) =
      compactElements xs ++ unspacedFrom .outside rest := by
  match xs with
  | [] => simp [indentedElements, compactElements, unspacedFrom, unspacedFrom_lineBreak]
  | x :: xs =>
    simp only [elementNumbers, List.mem_append] at h
    have hhead := fun rest =>
      unspacedFrom_indentedChars (level + 1) x rest fun n hn => h n (.inl hn)
    have htail := unspacedFrom_indentedElements level xs rest fun n hn => h n (.inr hn)
    simp [indentedElements, compactElements, unspacedFrom, unspacedFrom_lineBreak, hhead, htail]

theorem unspacedFrom_indentedMembers (level : Nat) (ms : List (String × Value)) (rest : List Char)
    (h : ∀ n ∈ memberNumbers ms, ∃ i, n = .integer i ∧ Number.FitsInteger i) :
    unspacedFrom .outside (indentedMembers level ms ++ rest) =
      compactMembers ms ++ unspacedFrom .outside rest := by
  match ms with
  | [] => simp [indentedMembers, compactMembers, unspacedFrom, unspacedFrom_lineBreak]
  | (n, x) :: ms =>
    simp only [memberNumbers, List.mem_append] at h
    have hhead := fun rest =>
      unspacedFrom_indentedChars (level + 1) x rest fun n hn => h n (.inl hn)
    have htail := unspacedFrom_indentedMembers level ms rest fun n hn => h n (.inr hn)
    simp [indentedMembers, compactMembers, unspacedFrom, unspacedFrom_lineBreak,
      unspacedFrom_quoted, hhead, htail]

end

/-- The indented text differs from the compact one by spaces and line breaks outside string
literals only. -/
theorem unspaced_indented {v : Value}
    (h : ∀ n ∈ v.numbers, ∃ i, n = .integer i ∧ Number.FitsInteger i) :
    unspaced v.indented = v.compact := by
  have hchars := v.unspacedFrom_indentedChars 0 [] h
  rw [List.append_nil, unspacedFrom, List.append_nil] at hchars
  rw [unspaced, indented, String.toList_ofList, hchars, compact]

end Value

/-! ### Reading indented texts -/

namespace Token

theorem spells_word {w : List Char} {t : Token} (hne : w ≠ []) (hw : w.any endsWord = false)
    (ht : ofWord? w = some t) : Spells w [t] :=
  fun _ hrest => scan_word hne hw hrest ht

/-- Spellings follow each other directly if the second one ends every word. -/
theorem Spells.append {cs ds : List Char} {ts us : List Token} (h : Spells cs ts)
    (hd : Spells ds us) (hstops : ∀ rest, Stops (ds ++ rest)) : Spells (cs ++ ds) (ts ++ us) := by
  intro rest hrest
  rw [List.append_assoc, h _ (hstops rest), hd rest hrest, Option.map_map]
  simp [Function.comp_def]

/-- A member of an indented object: its name, a colon and a space before the value. -/
theorem Spells.named {cs : List Char} {ts : List Token} (h : Spells cs ts) (name : String) :
    Spells (Quoted.write name ++ ':' :: ' ' :: cs) (string (some name) :: colon :: ts) :=
  (spells_quoted name).append_mark (c := ':') rfl (h.blank_cons (c := ' ') rfl)

theorem Spells.lineBreak_append {cs : List Char} {ts : List Token} (level : Nat)
    (h : Spells cs ts) : Spells (Value.lineBreak level ++ cs) ts := by
  refine h.blanks_append fun c hc => ?_
  rcases List.mem_cons.mp hc with rfl | hc
  · rfl
  · rw [List.eq_of_mem_replicate hc]
    rfl

end Token

namespace Value

theorem stops_indentedElements (level : Nat) (xs : List Value) (rest : List Char) :
    Token.Stops (indentedElements level xs ++ rest) := by
  cases xs <;> rfl

theorem stops_indentedMembers (level : Nat) (ms : List (String × Value)) (rest : List Char) :
    Token.Stops (indentedMembers level ms ++ rest) := by
  cases ms <;> rfl

mutual

/-- The indented text of a value spells the tokens of its tree, at every level. -/
theorem spells_indentedChars (level : Nat) (v : Value)
    (h : ∀ n ∈ v.numbers, ∃ i, n = .integer i ∧ Number.FitsInteger i) :
    Token.Spells (v.indentedChars level) v.toTree.tokens := by
  match v with
  | null => exact Token.spells_word (List.cons_ne_nil _ _) rfl rfl
  | bool b =>
    cases b with
    | true => exact Token.spells_word (List.cons_ne_nil _ _) rfl rfl
    | false => exact Token.spells_word (List.cons_ne_nil _ _) rfl rfl
  | number n =>
    obtain ⟨i, rfl, hi⟩ := h n List.mem_cons_self
    exact fun rest hrest => Token.scan_writeInteger hi hrest
  | string s => exact Token.spells_quoted s
  | array [] => exact (Token.Spells.nil.mark_cons (c := ']') rfl).mark_cons (c := '[') rfl
  | array (x :: xs) =>
    simp only [numbers, elementNumbers, List.mem_append] at h
    have hhead := spells_indentedChars (level + 1) x fun n hn => h n (.inl hn)
    have htail := spells_indentedElements level xs fun n hn => h n (.inr hn)
    have hinside := hhead.append htail (stops_indentedElements level xs)
    exact (hinside.lineBreak_append (level + 1)).mark_cons (c := '[') rfl
  | object [] => exact (Token.Spells.nil.mark_cons (c := '\x7d') rfl).mark_cons (c := '\x7b') rfl
  | object ((n, x) :: ms) =>
    simp only [numbers, memberNumbers, List.mem_append] at h
    have hhead := spells_indentedChars (level + 1) x fun n hn => h n (.inl hn)
    have htail := spells_indentedMembers level ms fun n hn => h n (.inr hn)
    have hinside := (hhead.append htail (stops_indentedMembers level ms)).named n
    exact (hinside.lineBreak_append (level + 1)).mark_cons (c := '\x7b') rfl

theorem spells_indentedElements (level : Nat) (xs : List Value)
    (h : ∀ n ∈ elementNumbers xs, ∃ i, n = .integer i ∧ Number.FitsInteger i) :
    Token.Spells (indentedElements level xs) (Tree.elementTokens (elementTrees xs)) := by
  match xs with
  | [] => exact (Token.Spells.nil.mark_cons (c := ']') rfl).lineBreak_append level
  | x :: xs =>
    simp only [elementNumbers, List.mem_append] at h
    have hhead := spells_indentedChars (level + 1) x fun n hn => h n (.inl hn)
    have htail := spells_indentedElements level xs fun n hn => h n (.inr hn)
    have hinside := hhead.append htail (stops_indentedElements level xs)
    exact (hinside.lineBreak_append (level + 1)).mark_cons (c := ',') rfl

theorem spells_indentedMembers (level : Nat) (ms : List (String × Value))
    (h : ∀ n ∈ memberNumbers ms, ∃ i, n = .integer i ∧ Number.FitsInteger i) :
    Token.Spells (indentedMembers level ms) (Tree.memberTokens (memberTrees ms)) := by
  match ms with
  | [] => exact (Token.Spells.nil.mark_cons (c := '\x7d') rfl).lineBreak_append level
  | (n, x) :: ms =>
    simp only [memberNumbers, List.mem_append] at h
    have hhead := spells_indentedChars (level + 1) x fun n hn => h n (.inl hn)
    have htail := spells_indentedMembers level ms fun n hn => h n (.inr hn)
    have hinside := (hhead.append htail (stops_indentedMembers level ms)).named n
    exact (hinside.lineBreak_append (level + 1)).mark_cons (c := ',') rfl

end

/-- The indented text of a value reads back. -/
theorem parse?_indented {v : Value} (hnests : v.Nests Tree.maxDepth)
    (h : ∀ n ∈ v.numbers, ∃ i, n = .integer i ∧ Number.FitsInteger i) :
    parse? v.indented = some v := by
  have htree : Tree.parse? v.indented = some v.toTree := by
    rw [Tree.parse?_eq_some_iff, indented, String.toList_ofList]
    exact v.spells_indentedChars 0 h
  rw [parse?, htree, Option.bind_some, Tree.value?_toTree hnests]

end Value

end ConversionDesk.Json
