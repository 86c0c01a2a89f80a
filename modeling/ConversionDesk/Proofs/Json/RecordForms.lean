import Mathlib.Data.List.Forall2
import ConversionDesk.Proofs.Json.Fields

/-!
# The two forms of a record

A record may be sent as an array, with its fields by position, or as an object, with its
fields by name. This file builds both forms from the texts of the fields and compares what
they give.

The texts are arbitrary: all that is known of each is that it has a tree. It may hold blanks,
names in any spelling, and also values that no field can take, because they nest too deeply or
denote nothing. So a text is followed through the scanner as it stands. It *spells* its tokens
wherever a word may end after it, and spellings are put together by marks.

## Main definitions

* `Token.Spells` — a piece of text is cut into the same tokens wherever a word may end after it
* `Record.arrayText`, `Record.objectText` — the two forms of a record
* `Record.ElementsFit` — what a reader asks of the elements of an array
* `Record.held?` — what a record in array form holds at a position
* `Record.Holds` — what a record in either form holds under a name

## Main results

* `Token.scanFrom_append` — a text is cut into the same tokens inside a longer text
* `Tree.parse?_eq_some_iff` — a text has a tree exactly if it spells the tokens of the tree
* `Tree.parse?_arrayText`, `Tree.parse?_objectText` — the trees of the two forms
* `Record.ofTree?_object_zip` — the two forms give the same fields
* `Record.ofElements?_isSome_iff` — an array gives a record exactly if its elements fit
* `Record.field?_ofElements?` — a field in array form is what its position holds
* `Record.member?_eq_some_iff_holds` — the fields of a text are those that it holds
-/

namespace ConversionDesk.Json

/-! ### Spellings -/

namespace Token

/-- A piece of text is cut into the tokens, whatever follows it, if only a word may end
there. -/
def Spells (cs : List Char) (ts : List Token) : Prop :=
  ∀ rest, Stops rest → scan (cs ++ rest) = (scan rest).map (ts ++ ·)

/-- A text that is scanned to its end is scanned alike inside a longer text, if only a word may
end after it. -/
theorem scanFrom_append {p : Position} {cs rest : List Char} {ts : List Token}
    (h : scanFrom p cs = some ts) (hrest : Stops rest) :
    scanFrom p (cs ++ rest) = (scan rest).map (ts ++ ·) := by
  fun_induction scanFrom p cs generalizing ts with
  | case1 =>
    obtain rfl := Option.some.inj h
    simp [scan]
  | case2 c cs ih =>
    obtain ⟨us, hus, rfl⟩ := Option.map_eq_some_iff.mp h
    simp [scanFrom, ih hus, Function.comp_def]
  | case3 seen =>
    -- the text ends in a word, which what follows must not prolong
    obtain ⟨t, ht, rfl⟩ := Option.map_eq_some_iff.mp h
    exact scanFrom_word seen rfl hrest (by simpa using ht)
  | case4 seen c cs hends ih =>
    simp only [bind, Option.bind_eq_some_iff] at h
    obtain ⟨t, ht, us, hus, h⟩ := h
    obtain rfl := Option.some.inj h
    cases hscan : scan rest <;> simp [scanFrom, hends, ht, ih hus, hscan]
  | case5 seen c cs hends ih => simpa [scanFrom, hends] using ih h
  | case6 => cases h
  | case7 seen cs ih =>
    simp only [bind, Option.bind_eq_some_iff] at h
    obtain ⟨t, ht, us, hus, h⟩ := h
    obtain rfl := Option.some.inj h
    cases hscan : scan rest <;> simp [scanFrom, ht, ih hus, hscan]
  | case8 seen cs hquote ih => simpa [scanFrom, hquote] using ih h
  | case9 seen c cs hquote hslash ih => simpa [scanFrom, hquote, hslash] using ih h
  | case10 => cases h
  | case11 seen c cs ih => simpa [scanFrom] using ih h

theorem spells_of_scan {cs : List Char} {ts : List Token} (h : scan cs = some ts) :
    Spells cs ts :=
  fun _ hrest => scanFrom_append h hrest

theorem Spells.scan_eq {cs : List Char} {ts : List Token} (h : Spells cs ts) :
    scan cs = some ts := by
  have hend := h [] trivial
  simpa [scan, scanFrom] using hend

theorem spells_quoted (s : String) : Spells (Quoted.write s) [string (some s)] :=
  fun rest _ => scan_quoted s rest

theorem Spells.mark_cons {c : Char} {t : Token} {cs : List Char} {ts : List Token}
    (hc : mark? c = some t) (h : Spells cs ts) : Spells (c :: cs) (t :: ts) := by
  intro rest hrest
  rw [List.cons_append, scan_mark hc, h rest hrest, Option.map_map]
  rfl

/-- Every word ends before a mark, so a mark joins two spellings. -/
theorem Spells.append_mark {c : Char} {t : Token} {cs ds : List Char} {ts us : List Token}
    (h : Spells cs ts) (hc : mark? c = some t) (hd : Spells ds us) :
    Spells (cs ++ c :: ds) (ts ++ t :: us) := by
  intro rest hrest
  have hstops : Stops (c :: ds ++ rest) := by simp [Stops, endsWord, hc]
  rw [List.append_assoc, h _ hstops, Spells.mark_cons hc hd rest hrest, Option.map_map]
  simp [Function.comp_def]

theorem Spells.nil : Spells [] [] := by
  intro rest _
  simp

theorem Spells.blank_cons {c : Char} {cs : List Char} {ts : List Token} (hc : isBlank c = true)
    (h : Spells cs ts) : Spells (c :: cs) ts := by
  intro rest hrest
  rw [List.cons_append, scan_blank hc, h rest hrest]

theorem Spells.blanks_append {blanks cs : List Char} {ts : List Token}
    (hblanks : ∀ c ∈ blanks, isBlank c = true) (h : Spells cs ts) : Spells (blanks ++ cs) ts := by
  intro rest hrest
  rw [List.append_assoc, scan_blanks hblanks, h rest hrest]

/-- Pieces that are separated by commas are spelled one after the other. -/
theorem Spells.intercalate {pieces : List (List Char)} {tss : List (List Token)}
    (h : List.Forall₂ Spells pieces tss) :
    Spells ([','].intercalate pieces) ([comma].intercalate tss) := by
  induction h with
  | nil => exact .nil
  | cons hpiece hrest ih =>
    cases hrest with
    | nil => simpa using hpiece
    | cons => simpa using hpiece.append_mark (c := ',') rfl ih

end Token

/-! ### The tokens of containers -/

namespace Tree

theorem tokens_array (ts : List Tree) :
    (array ts).tokens = .openArray :: ([.comma].intercalate (ts.map tokens) ++ [.closeArray]) := by
  cases ts with
  | nil => rfl
  | cons t ts =>
    rw [tokens]
    congr 1
    induction ts generalizing t with
    | nil => simp [elementTokens]
    | cons u ts ih => simp [elementTokens, ih u]

/-- The tokens of a member of an object. -/
def ownTokens (m : Option String × Tree) : List Token := .string m.1 :: .colon :: m.2.tokens

theorem tokens_object (ms : List (Option String × Tree)) :
    (object ms).tokens =
      .openObject :: ([.comma].intercalate (ms.map ownTokens) ++ [.closeObject]) := by
  cases ms with
  | nil => rfl
  | cons m ms =>
    rw [tokens]
    congr 1
    induction ms generalizing m with
    | nil => simp [memberTokens, ownTokens]
    | cons n ms ih => simpa [memberTokens, ownTokens] using ih n

/-- A text has a tree exactly if it spells the tokens of the tree. -/
theorem parse?_eq_some_iff {text : String} {t : Tree} :
    parse? text = some t ↔ Token.Spells text.toList t.tokens := by
  rw [parse?, Option.bind_eq_some_iff]
  constructor
  · rintro ⟨ts, hscan, hread⟩
    obtain rfl := ofTokens?_eq_some_iff.mp hread
    exact Token.spells_of_scan hscan
  · intro h
    exact ⟨t.tokens, h.scan_eq, ofTokens?_tokens t⟩

end Tree

/-! ### The texts of the two forms -/

namespace Record

/-- The fields by position. -/
def arrayText (texts : List String) : String := "[" ++ ",".intercalate texts ++ "]"

/-- A field with its name. -/
def memberText (name text : String) : String := String.ofList (Quoted.write name) ++ ":" ++ text

/-- The fields by name. -/
def objectText (names texts : List String) : String :=
  "\x7b" ++ ",".intercalate (List.zipWith memberText names texts) ++ "\x7d"

end Record

namespace Tree

theorem spells_memberText (name : String) {text : String} {t : Tree} (h : parse? text = some t) :
    Token.Spells (Record.memberText name text).toList (ownTokens (some name, t)) := by
  have htext := parse?_eq_some_iff.mp h
  simpa [Record.memberText, ownTokens] using
    (Token.spells_quoted name).append_mark (c := ':') rfl htext

/-- Texts that have trees have a list of trees. -/
theorem exists_forall₂_parse? {texts : List String}
    (h : ∀ text ∈ texts, (parse? text).isSome = true) :
    ∃ ts, List.Forall₂ (fun text t => parse? text = some t) texts ts := by
  induction texts with
  | nil => exact ⟨[], .nil⟩
  | cons text texts ih =>
    rw [List.forall_mem_cons, Option.isSome_iff_exists] at h
    obtain ⟨⟨t, ht⟩, hrest⟩ := h
    obtain ⟨ts, hts⟩ := ih hrest
    exact ⟨t :: ts, .cons ht hts⟩

/-- The array form of texts is the array of their trees. -/
theorem parse?_arrayText {texts : List String} {ts : List Tree}
    (h : List.Forall₂ (fun text t => parse? text = some t) texts ts) :
    parse? (Record.arrayText texts) = some (array ts) := by
  have hpieces : List.Forall₂ Token.Spells (texts.map String.toList) (ts.map tokens) := by
    rw [List.forall₂_map_left_iff, List.forall₂_map_right_iff]
    exact h.imp fun _ _ => parse?_eq_some_iff.mp
  rw [parse?_eq_some_iff, tokens_array]
  have hinside := (Token.Spells.intercalate hpieces).append_mark (c := ']') rfl .nil
  simpa [Record.arrayText] using hinside.mark_cons (c := '[') rfl

/-- The object form of texts is the object of their trees, each under its name. -/
theorem parse?_objectText {texts : List String} {ts : List Tree} (names : List String)
    (h : List.Forall₂ (fun text t => parse? text = some t) texts ts) :
    parse? (Record.objectText names texts) = some (object ((names.map some).zip ts)) := by
  have hpieces : List.Forall₂ Token.Spells
      ((List.zipWith Record.memberText names texts).map String.toList)
      (((names.map some).zip ts).map ownTokens) := by
    rw [List.forall₂_map_left_iff, List.forall₂_map_right_iff]
    induction h generalizing names with
    | nil => simp
    | cons htext _ ih =>
      cases names with
      | nil => exact .nil
      | cons name names => exact .cons (spells_memberText name htext) (ih names)
  rw [parse?_eq_some_iff, tokens_object]
  have hinside := (Token.Spells.intercalate hpieces).append_mark (c := '\x7d') rfl .nil
  simpa [Record.objectText] using hinside.mark_cons (c := '\x7b') rfl

end Tree

/-! ### The fields of the two forms -/

namespace Record

/-- What a reader asks of the elements of an array: there are no more of them than fields, and
each has a value. One level of nesting is the array's own. -/
structure ElementsFit (count : Nat) (ts : List Tree) : Prop where
  short : ts.length ≤ count
  valued : ∀ t ∈ ts, (t.value? (Tree.maxDepth - 1)).isSome = true

/-- What an array holds at a position, `null` apart. -/
def held? (ts : List Tree) (i : Nat) : Option Value :=
  (ts[i]?.bind (Tree.value? (Tree.maxDepth - 1))).bind Value.present

section Elements

variable {names : List String} {ts : List Tree} {fields : List (String × Value)}

theorem ofElements?_nil (names : List String) : ofElements? names [] = some [] := by
  rw [ofElements?]

/-- Reading the first element, and then the others. -/
theorem ofElements?_cons_eq_some_iff {name : String} {t : Tree} :
    ofElements? (name :: names) (t :: ts) = some fields ↔ ∃ v rest,
      t.value? (Tree.maxDepth - 1) = some v ∧ ofElements? names ts = some rest ∧
      fields = (name, v) :: rest := by
  simp only [ofElements?, bind, Option.bind_eq_some_iff, pure, Option.some.injEq]
  constructor
  · rintro ⟨v, hv, rest, hrest, rfl⟩
    exact ⟨v, rest, hv, hrest, rfl⟩
  · rintro ⟨v, rest, hv, hrest, rfl⟩
    exact ⟨v, hv, rest, hrest, rfl⟩

theorem map_fst_ofElements? (h : ofElements? names ts = some fields) :
    fields.map Prod.fst = names.take ts.length := by
  induction names, ts using ofElements?.induct generalizing fields with
  | case1 names =>
    rw [ofElements?_nil] at h
    obtain rfl := Option.some.inj h
    simp
  | case2 => cases h
  | case3 name names t ts ih =>
    obtain ⟨v, rest, -, hrest, rfl⟩ := ofElements?_cons_eq_some_iff.mp h
    simp [ih hrest]

theorem elementsFit_cons_iff {count : Nat} {t : Tree} :
    ElementsFit (count + 1) (t :: ts) ↔
      (t.value? (Tree.maxDepth - 1)).isSome = true ∧ ElementsFit count ts := by
  constructor
  · intro ⟨hshort, hvalued⟩
    rw [List.forall_mem_cons] at hvalued
    exact ⟨hvalued.1, Nat.le_of_succ_le_succ hshort, hvalued.2⟩
  · intro ⟨hvalue, hshort, hvalued⟩
    exact ⟨Nat.succ_le_succ hshort, List.forall_mem_cons.mpr ⟨hvalue, hvalued⟩⟩

/-- An array gives a record exactly if its elements fit. -/
theorem ofElements?_isSome_iff :
    (ofElements? names ts).isSome = true ↔ ElementsFit names.length ts := by
  induction names, ts using ofElements?.induct with
  | case1 names =>
    rw [ofElements?_nil]
    exact iff_of_true rfl ⟨Nat.zero_le _, by simp⟩
  | case2 t ts => exact iff_of_false Bool.false_ne_true fun h => absurd h.short (by simp)
  | case3 name names t ts ih =>
    have hcons : (ofElements? (name :: names) (t :: ts)).isSome = true ↔
        (t.value? (Tree.maxDepth - 1)).isSome = true ∧ (ofElements? names ts).isSome = true := by
      simp only [Option.isSome_iff_exists, ofElements?_cons_eq_some_iff]
      constructor
      · rintro ⟨_, v, rest, hv, hrest, -⟩
        exact ⟨⟨v, hv⟩, rest, hrest⟩
      · rintro ⟨⟨v, hv⟩, rest, hrest⟩
        exact ⟨_, v, rest, hv, hrest, rfl⟩
    rw [hcons, ih, List.length_cons, elementsFit_cons_iff]

/-- A field in array form is what its position holds. -/
theorem field?_ofElements? (hnodup : names.Nodup) (h : ofElements? names ts = some fields)
    (i : Nat) {name : String} (hname : names[i]? = some name) :
    field? name fields = held? ts i := by
  induction names, ts using ofElements?.induct generalizing fields i with
  | case1 names =>
    rw [ofElements?_nil] at h
    obtain rfl := Option.some.inj h
    simp [field?, Value.member?, held?]
  | case2 => cases h
  | case3 own names t ts ih =>
    obtain ⟨v, rest, hv, hrest, rfl⟩ := ofElements?_cons_eq_some_iff.mp h
    rw [List.nodup_cons] at hnodup
    cases i with
    | zero =>
      obtain rfl : own = name := by simpa using hname
      simp [field?, Value.member?, held?, hv]
    | succ i =>
      have hlater : names[i]? = some name := by simpa using hname
      have hne : own ≠ name := by
        rintro rfl
        exact hnodup.1 (List.mem_of_getElem? hlater)
      have hrest := ih hnodup.2 hrest i hlater
      simpa [field?, Value.member?, hne, held?] using hrest

theorem ofMembers?_zip {all : List String} (hnames : names ⊆ all)
    (hlength : ts.length ≤ names.length) :
    ofMembers? all ((names.map some).zip ts) = ofElements? names ts := by
  induction names, ts using ofElements?.induct with
  | case1 names => simp [ofMembers?, ofElements?]
  | case2 => simp at hlength
  | case3 name names t ts ih =>
    obtain ⟨hname, hnames⟩ := List.cons_subset.mp hnames
    simp [ofMembers?, ofElements?, hname, ih hnames (Nat.le_of_succ_le_succ hlength)]

/-- The two forms give the same fields. -/
theorem ofTree?_object_zip (hnodup : names.Nodup) (hlength : ts.length ≤ names.length) :
    ofTree? names (.object ((names.map some).zip ts)) = ofTree? names (.array ts) := by
  ext fields
  rw [ofTree?_object_eq_some_iff, ofMembers?_zip (List.Subset.refl names) hlength, ofTree?]
  constructor
  · exact And.left
  · intro h
    -- the names in use are an initial part of all names, so none of them is repeated
    refine ⟨h, ?_⟩
    rw [map_fst_ofElements? h]
    exact hnodup.sublist (List.take_sublist _ _)

/-- The fields in array form are what the positions of their names hold. -/
theorem mem_ofElements?_iff (h : ofElements? names ts = some fields) {name : String} {v : Value} :
    (name, v) ∈ fields ↔ ∃ (i : Nat) (t : Tree), names[i]? = some name ∧ ts[i]? = some t ∧
      t.value? (Tree.maxDepth - 1) = some v := by
  induction names, ts using ofElements?.induct generalizing fields with
  | case1 names =>
    rw [ofElements?_nil] at h
    obtain rfl := Option.some.inj h
    simp
  | case2 => cases h
  | case3 own names t ts ih =>
    obtain ⟨w, rest, hw, hrest, rfl⟩ := ofElements?_cons_eq_some_iff.mp h
    rw [List.mem_cons, ih hrest]
    constructor
    · rintro (heq | ⟨i, u, hname, hu, hv⟩)
      · obtain ⟨rfl, rfl⟩ := Prod.mk.inj heq
        exact ⟨0, t, rfl, rfl, hw⟩
      · exact ⟨i + 1, u, hname, hu, hv⟩
    · rintro ⟨_ | i, u, hname, hu, hv⟩
      · obtain rfl : own = name := by simpa using hname
        obtain rfl : t = u := by simpa using hu
        exact Or.inl (by rw [Option.some.inj (hw.symm.trans hv)])
      · exact Or.inr ⟨i, u, by simpa using hname, by simpa using hu, hv⟩

end Elements

/-! ### What either form holds -/

/-- What the text of a record holds under the name of a field: an object holds it under that
name, and an array at the position of the name. -/
inductive Holds (names : List String) (text name : String) (v : Value) : Prop
  | member {ms : List (Option String × Tree)} (htext : Tree.parse? text = some (.object ms))
    (h : Gives ms name v)
  | element {ts : List Tree} {t : Tree} (i : Nat) (htext : Tree.parse? text = some (.array ts))
    (hname : names[i]? = some name) (ht : ts[i]? = some t)
    (hv : t.value? (Tree.maxDepth - 1) = some v)

/-- The fields that are read off a text are those that it holds. -/
theorem member?_eq_some_iff_holds {names : List String} (hnodup : names.Nodup) {text : String}
    {fields : List (String × Value)} (h : parse? names text = some fields) {name : String}
    (hname : name ∈ names) {v : Value} :
    Value.member? name fields = some v ↔ Holds names text name v := by
  obtain ⟨t, ht, hfields⟩ := Option.bind_eq_some_iff.mp h
  cases t with
  | object ms =>
    obtain ⟨hread, hkeys⟩ := ofTree?_object_eq_some_iff.mp hfields
    have hmem : Value.member? name fields = some v ↔ Gives ms name v := by
      rw [← and_iff_right (b := Gives ms name v) hname, ← mem_ofMembers?_iff hread]
      exact ⟨mem_of_member?, member?_of_mem hkeys⟩
    rw [hmem]
    constructor
    · exact .member ht
    · rintro (⟨htext, hgives⟩ | ⟨i, htext, -, -, -⟩)
      · obtain rfl : ms = _ := by simpa [ht] using htext
        exact hgives
      · simp [ht] at htext
  | array ts =>
    have hkeys : (fields.map Prod.fst).Nodup := by
      rw [map_fst_ofElements? hfields]
      exact hnodup.sublist (List.take_sublist _ _)
    have hmem : Value.member? name fields = some v ↔ (name, v) ∈ fields :=
      ⟨mem_of_member?, member?_of_mem hkeys⟩
    rw [hmem, mem_ofElements?_iff hfields]
    constructor
    · rintro ⟨i, u, hi, hu, hv⟩
      exact .element i ht hi hu hv
    · rintro (⟨htext, -⟩ | ⟨i, htext, hi, hu, hv⟩)
      · simp [ht] at htext
      · obtain rfl : ts = _ := by simpa [ht] using htext
        exact ⟨i, _, hi, hu, hv⟩
  | null | bool | number | string => cases hfields

end Record

end ConversionDesk.Json
