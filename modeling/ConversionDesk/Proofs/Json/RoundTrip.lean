import ConversionDesk.Json.Layout
import ConversionDesk.Json.Tree
import ConversionDesk.Proofs.Json.Spelling

/-!
# Reading undoes writing

A value is read in three steps: its text is cut into tokens, the tokens form a tree, and the
tree has a value. Writing takes the same way back. This file follows a value through the
compact text: the tokens of the text are those of the value's own tree, the tree is the only
one with these tokens, and its value is the value that was written.

Not every value has a text that reads back. A text opens a limited number of containers
inside each other, an object that names a member twice is merged, and an integer that does
not fit is rounded. `Value.Nests` and `Number.Fits` say what is left, and reading gives
nothing else. Binary64 numbers are left out here: their spelling is not compared with their
reading.

## Main definitions

* `Value.toTree` — the tree of a value's own text
* `Value.numbers` — all numbers in a value
* `Value.Nests` — at most so many containers inside each other, and no name repeated

## Main results

* `Tree.ofTokens?_eq_some_iff` — a tree is read exactly from its own tokens
* `Tree.value?_toTree` — a value that nests is the value of its tree
* `Tree.nests_of_value?`, `Tree.fits_of_value?` — reading gives no other values
* `Tree.parse?_compact` — the compact text of a value reads as the value's tree
-/

namespace ConversionDesk.Json

/-! ### Trees are read exactly -/

namespace Tree

/-- Reading two things in a row: each is read from what the one before it left. -/
theorem exists_of_read_twice {α β γ : Type} {first : Option (α × List Token)}
    {second : List Token → Option (β × List Token)} {g : α → β → γ} {c : γ} {rest : List Token}
    (h : (do
      let (a, ts) ← first
      let (b, ts) ← second ts
      return (g a b, ts)) = some (c, rest)) :
    ∃ a ts b, first = some (a, ts) ∧ second ts = some (b, rest) ∧ g a b = c := by
  obtain ⟨⟨a, ts⟩, hfirst, h⟩ := Option.bind_eq_some_iff.mp h
  obtain ⟨⟨b, us⟩, hsecond, h⟩ := Option.bind_eq_some_iff.mp h
  obtain ⟨hc, rfl⟩ := Prod.mk.inj (Option.some.inj h)
  exact ⟨a, ts, b, hfirst, hsecond, hc⟩

mutual

theorem tokens_of_read {fuel : Nat} {ts rest : List Token} {t : Tree}
    (h : read fuel ts = some (t, rest)) : ts = t.tokens ++ rest := by
  fun_cases read fuel ts with
  | case1 => simp [read] at h
  | case2 | case3 | case4 | case5 | case6 | case8 =>
    -- a leaf or an empty container
    obtain ⟨rfl, rfl⟩ := Prod.mk.inj (Option.some.inj h)
    rfl
  | case7 fuel ts hopen =>
    rw [read] at h
    · obtain ⟨x, us, xs, hx, hxs, rfl⟩ :=
        exists_of_read_twice (g := fun x xs => array (x :: xs)) h
      rw [tokens_of_read hx, elementTokens_of_readElements hxs, tokens, List.cons_append,
        List.append_assoc]
    · exact hopen
  | case9 fuel n ts =>
    rw [read] at h
    obtain ⟨x, us, ms, hx, hms, rfl⟩ :=
      exists_of_read_twice (g := fun x ms => object ((n, x) :: ms)) h
    rw [tokens_of_read hx, memberTokens_of_readMembers hms, tokens]
    simp
  -- no other token opens a tree
  | case10 => simp [read, *] at h
termination_by fuel

theorem elementTokens_of_readElements {fuel : Nat} {ts rest : List Token} {xs : List Tree}
    (h : readElements fuel ts = some (xs, rest)) : ts = elementTokens xs ++ rest := by
  fun_cases readElements fuel ts with
  | case1 =>
    rw [readElements] at h
    obtain ⟨rfl, rfl⟩ := Prod.mk.inj (Option.some.inj h)
    rfl
  | case2 fuel ts =>
    rw [readElements] at h
    obtain ⟨x, us, xs, hx, hxs, rfl⟩ := exists_of_read_twice h
    rw [tokens_of_read hx, elementTokens_of_readElements hxs, elementTokens, List.cons_append,
      List.append_assoc]
  | case3 => simp [readElements, *] at h
termination_by fuel

theorem memberTokens_of_readMembers {fuel : Nat} {ts rest : List Token}
    {ms : List (Option String × Tree)} (h : readMembers fuel ts = some (ms, rest)) :
    ts = memberTokens ms ++ rest := by
  fun_cases readMembers fuel ts with
  | case1 =>
    rw [readMembers] at h
    obtain ⟨rfl, rfl⟩ := Prod.mk.inj (Option.some.inj h)
    rfl
  | case2 fuel n ts =>
    rw [readMembers] at h
    obtain ⟨x, us, ms, hx, hms, rfl⟩ := exists_of_read_twice (g := fun x ms => (n, x) :: ms) h
    rw [tokens_of_read hx, memberTokens_of_readMembers hms, memberTokens]
    simp
  | case3 => simp [readMembers, *] at h
termination_by fuel

end

/-- A tree is read exactly from its own tokens. -/
theorem ofTokens?_eq_some_iff {ts : List Token} {t : Tree} :
    ofTokens? ts = some t ↔ ts = t.tokens := by
  constructor
  · intro h
    rw [ofTokens?] at h
    split at h
    · rename_i u hread
      obtain rfl := Option.some.inj h
      simpa using tokens_of_read hread
    · cases h
  · rintro rfl
    exact ofTokens?_tokens t

end Tree

/-! ### Members by name -/

namespace Value

theorem put_of_notMem {name : String} {ms : List (String × Value)} (v : Value)
    (h : name ∉ ms.map Prod.fst) : put name v ms = ms ++ [(name, v)] := by
  induction ms with
  | nil => rfl
  | cons m ms ih =>
    obtain ⟨n, w⟩ := m
    rw [List.map_cons, List.mem_cons, not_or] at h
    rw [put, if_neg (Ne.symm h.1), ih h.2]
    rfl

theorem mem_of_mem_put {name : String} {v : Value} {ms : List (String × Value)}
    {m : String × Value} (h : m ∈ put name v ms) : m = (name, v) ∨ m ∈ ms := by
  fun_induction put name v ms with
  | case1 => simpa using h
  | case2 w rest =>
    rcases List.mem_cons.mp h with rfl | hrest
    · exact Or.inl rfl
    · exact Or.inr (List.mem_cons_of_mem _ hrest)
  | case3 n w rest hne ih =>
    rcases List.mem_cons.mp h with rfl | hrest
    · exact Or.inr List.mem_cons_self
    · exact (ih hrest).imp_right (List.mem_cons_of_mem _)

theorem nodup_names_put (name : String) (v : Value) {ms : List (String × Value)}
    (h : (ms.map Prod.fst).Nodup) : ((put name v ms).map Prod.fst).Nodup := by
  fun_induction put name v ms with
  | case1 => simp
  | case2 w rest => exact h
  | case3 n w rest hne ih =>
    rw [List.map_cons, List.nodup_cons] at h ⊢
    refine ⟨fun hmem => ?_, ih h.2⟩
    obtain ⟨m, hm, hname⟩ := List.mem_map.mp hmem
    rcases mem_of_mem_put hm with rfl | hrest
    · exact hne hname.symm
    · exact h.1 (List.mem_map.mpr ⟨m, hrest, hname⟩)

/-- Merging drops members and makes up none. -/
theorem mem_of_mem_merge {ms : List (String × Value)} {m : String × Value} (h : m ∈ merge ms) :
    m ∈ ms := by
  -- generalised over the members that were merged so far
  have hfold : ∀ (ms done : List (String × Value)),
      m ∈ ms.foldl (fun done m => put m.1 m.2 done) done → m ∈ ms ∨ m ∈ done := by
    intro ms
    induction ms with
    | nil => exact fun done h => Or.inr h
    | cons n ms ih =>
      intro done h
      rcases ih _ h with hrest | hput
      · exact Or.inl (List.mem_cons_of_mem _ hrest)
      · rcases mem_of_mem_put hput with rfl | hdone
        · exact Or.inl List.mem_cons_self
        · exact Or.inr hdone
  simpa using hfold ms [] h

theorem nodup_names_merge (ms : List (String × Value)) : ((merge ms).map Prod.fst).Nodup := by
  have hfold : ∀ (ms done : List (String × Value)), (done.map Prod.fst).Nodup →
      ((ms.foldl (fun done m => put m.1 m.2 done) done).map Prod.fst).Nodup := by
    intro ms
    induction ms with
    | nil => exact fun done h => h
    | cons m ms ih => exact fun done h => ih _ (nodup_names_put m.1 m.2 h)
  exact hfold ms [] List.nodup_nil

/-- Members with different names are kept as they are. -/
theorem merge_of_nodup {ms : List (String × Value)} (h : (ms.map Prod.fst).Nodup) :
    merge ms = ms := by
  have hfold : ∀ (ms done : List (String × Value)), ((done ++ ms).map Prod.fst).Nodup →
      ms.foldl (fun done m => put m.1 m.2 done) done = done ++ ms := by
    intro ms
    induction ms with
    | nil => simp
    | cons m ms ih =>
      intro done h
      -- a new name is put last, so the members stay in order
      have hnew : m.1 ∉ done.map Prod.fst := by
        intro hmem
        rw [List.map_append, List.nodup_append] at h
        exact h.2.2 _ hmem _ (by simp) rfl
      rw [List.foldl_cons, put_of_notMem _ hnew, ih _ (by simpa using h)]
      simp
  exact hfold ms [] h

/-! ### The tree of a value -/

mutual

/-- The tree of the value's own text. -/
def toTree : Value → Tree
  | null => .null
  | bool b => .bool b
  | number n => .number (some n)
  | string s => .string (some s)
  | array xs => .array (elementTrees xs)
  | object ms => .object (memberTrees ms)

def elementTrees : List Value → List Tree
  | [] => []
  | x :: xs => toTree x :: elementTrees xs

def memberTrees : List (String × Value) → List (Option String × Tree)
  | [] => []
  | (n, x) :: ms => (some n, toTree x) :: memberTrees ms

end

mutual

/-- All numbers in a value, in the order of its text. -/
def numbers : Value → List Number
  | number n => [n]
  | array xs => elementNumbers xs
  | object ms => memberNumbers ms
  | _ => []

def elementNumbers : List Value → List Number
  | [] => []
  | x :: xs => numbers x ++ elementNumbers xs

def memberNumbers : List (String × Value) → List Number
  | [] => []
  | (_, x) :: ms => numbers x ++ memberNumbers ms

end

theorem elementNumbers_eq_flatMap (xs : List Value) : elementNumbers xs = xs.flatMap numbers := by
  induction xs with
  | nil => rfl
  | cons x xs ih => rw [elementNumbers, ih, List.flatMap_cons]

theorem memberNumbers_eq_flatMap (ms : List (String × Value)) :
    memberNumbers ms = ms.flatMap fun m => m.2.numbers := by
  induction ms with
  | nil => rfl
  | cons m ms ih => rw [memberNumbers, ih, List.flatMap_cons]

/-- The value opens at most `room` containers inside each other, and none of its objects
names a member twice. -/
inductive Nests : Nat → Value → Prop
  | null {room : Nat} : Nests room .null
  | bool {room : Nat} (b : Bool) : Nests room (.bool b)
  | number {room : Nat} (n : Number) : Nests room (.number n)
  | string {room : Nat} (s : String) : Nests room (.string s)
  | array {room : Nat} {xs : List Value} (elements : ∀ x ∈ xs, Nests room x) :
    Nests (room + 1) (.array xs)
  | object {room : Nat} {ms : List (String × Value)} (names : (ms.map Prod.fst).Nodup)
    (members : ∀ m ∈ ms, Nests room m.2) : Nests (room + 1) (.object ms)

end Value

namespace Tree

theorem elements?_elementTrees {room : Nat} {xs : List Value}
    (h : ∀ x ∈ xs, value? room x.toTree = some x) :
    elements? room (Value.elementTrees xs) = some xs := by
  induction xs with
  | nil => rfl
  | cons x xs ih =>
    have hhead := h x List.mem_cons_self
    have htail := ih fun y hy => h y (List.mem_cons_of_mem _ hy)
    simp [Value.elementTrees, elements?, hhead, htail]

theorem members?_memberTrees {room : Nat} {ms : List (String × Value)}
    (h : ∀ m ∈ ms, value? room m.2.toTree = some m.2) :
    members? room (Value.memberTrees ms) = some ms := by
  induction ms with
  | nil => rfl
  | cons m ms ih =>
    obtain ⟨n, x⟩ := m
    have hhead : value? room x.toTree = some x := h (n, x) List.mem_cons_self
    have htail := ih fun m hm => h m (List.mem_cons_of_mem _ hm)
    simp [Value.memberTrees, members?, hhead, htail]

/-- A value that nests is the value of its own tree. -/
theorem value?_toTree {room : Nat} {v : Value} (h : v.Nests room) :
    value? room v.toTree = some v := by
  induction h with
  | null | bool | number | string => simp [Value.toTree, value?]
  | array _ ih => rw [Value.toTree, value?, elements?_elementTrees ih, Option.map_some]
  | object names _ ih =>
    rw [Value.toTree, value?, members?_memberTrees ih, Option.map_some, Value.merge_of_nodup names]

/-! ### What reading gives -/

theorem tokens_subset_elementTokens {t : Tree} {ts : List Tree} (h : t ∈ ts) :
    t.tokens ⊆ elementTokens ts := by
  induction ts with
  | nil => cases h
  | cons u ts ih =>
    intro token htoken
    rw [elementTokens, List.mem_cons, List.mem_append]
    rcases List.mem_cons.mp h with rfl | h
    · exact Or.inr (Or.inl htoken)
    · exact Or.inr (Or.inr (ih h htoken))

theorem tokens_subset_array {t : Tree} {ts : List Tree} (h : t ∈ ts) :
    t.tokens ⊆ (array ts).tokens := by
  cases ts with
  | nil => cases h
  | cons u ts =>
    intro token htoken
    rw [tokens, List.mem_cons, List.mem_append]
    rcases List.mem_cons.mp h with rfl | h
    · exact Or.inr (Or.inl htoken)
    · exact Or.inr (Or.inr (tokens_subset_elementTokens h htoken))

theorem tokens_subset_memberTokens {m : Option String × Tree} {ms : List (Option String × Tree)}
    (h : m ∈ ms) : m.2.tokens ⊆ memberTokens ms := by
  induction ms with
  | nil => cases h
  | cons u ms ih =>
    intro token htoken
    rw [memberTokens, List.mem_cons, List.mem_cons, List.mem_cons, List.mem_append]
    rcases List.mem_cons.mp h with rfl | h
    · exact Or.inr (Or.inr (Or.inr (Or.inl htoken)))
    · exact Or.inr (Or.inr (Or.inr (Or.inr (ih h htoken))))

theorem tokens_subset_object {m : Option String × Tree} {ms : List (Option String × Tree)}
    (h : m ∈ ms) : m.2.tokens ⊆ (object ms).tokens := by
  cases ms with
  | nil => cases h
  | cons u ms =>
    intro token htoken
    rw [tokens, List.mem_cons, List.mem_cons, List.mem_cons, List.mem_append]
    rcases List.mem_cons.mp h with rfl | h
    · exact Or.inr (Or.inr (Or.inr (Or.inl htoken)))
    · exact Or.inr (Or.inr (Or.inr (Or.inr (tokens_subset_memberTokens h htoken))))

theorem exists_of_mem_elements? {room : Nat} {ts : List Tree} {vs : List Value}
    (h : elements? room ts = some vs) {v : Value} (hv : v ∈ vs) :
    ∃ t ∈ ts, value? room t = some v := by
  induction ts generalizing vs with
  | nil =>
    obtain rfl := Option.some.inj h
    cases hv
  | cons t ts ih =>
    simp only [elements?, bind, Option.bind_eq_some_iff] at h
    obtain ⟨x, hx, xs, hxs, h⟩ := h
    obtain rfl := Option.some.inj h
    rcases List.mem_cons.mp hv with rfl | hv
    · exact ⟨t, List.mem_cons_self, hx⟩
    · obtain ⟨u, hu, hvalue⟩ := ih hxs hv
      exact ⟨u, List.mem_cons_of_mem _ hu, hvalue⟩

theorem exists_of_mem_members? {room : Nat} {ms : List (Option String × Tree)}
    {vs : List (String × Value)} (h : members? room ms = some vs) {m : String × Value}
    (hm : m ∈ vs) : ∃ t, (some m.1, t) ∈ ms ∧ value? room t = some m.2 := by
  induction ms generalizing vs with
  | nil =>
    obtain rfl := Option.some.inj h
    cases hm
  | cons u ms ih =>
    obtain ⟨name, t⟩ := u
    simp only [members?, bind, Option.bind_eq_some_iff] at h
    obtain ⟨name, rfl, x, hx, xs, hxs, h⟩ := h
    obtain rfl := Option.some.inj h
    rcases List.mem_cons.mp hm with rfl | hm
    · exact ⟨t, List.mem_cons_self, hx⟩
    · obtain ⟨u, hu, hvalue⟩ := ih hxs hm
      exact ⟨u, List.mem_cons_of_mem _ hu, hvalue⟩

/-- A value that is read nests, and its numbers stand in the text. -/
theorem nests_of_value? {room : Nat} {t : Tree} {v : Value} (h : value? room t = some v) :
    v.Nests room ∧ ∀ n ∈ v.numbers, .number (some n) ∈ t.tokens := by
  -- the recursion is on `room`, which every container uses up by one
  match room, t with
  | _, null =>
    obtain rfl := Option.some.inj h
    exact ⟨.null, by simp [Value.numbers]⟩
  | _, bool b =>
    obtain rfl := Option.some.inj h
    exact ⟨.bool b, by simp [Value.numbers]⟩
  | _, number n =>
    obtain ⟨n, rfl, rfl⟩ := Option.map_eq_some_iff.mp h
    exact ⟨.number n, by simp [Value.numbers, tokens]⟩
  | _, string s =>
    obtain ⟨s, rfl, rfl⟩ := Option.map_eq_some_iff.mp h
    exact ⟨.string s, by simp [Value.numbers]⟩
  | 0, array ts => simp [value?] at h
  | 0, object ms => simp [value?] at h
  | room + 1, array ts =>
    obtain ⟨vs, hvs, rfl⟩ := Option.map_eq_some_iff.mp h
    constructor
    · refine .array fun x hx => ?_
      obtain ⟨t, -, hvalue⟩ := exists_of_mem_elements? hvs hx
      exact (nests_of_value? hvalue).1
    · intro n hn
      rw [Value.numbers, Value.elementNumbers_eq_flatMap, List.mem_flatMap] at hn
      obtain ⟨x, hx, hn⟩ := hn
      obtain ⟨t, ht, hvalue⟩ := exists_of_mem_elements? hvs hx
      exact tokens_subset_array ht ((nests_of_value? hvalue).2 n hn)
  | room + 1, object ms =>
    obtain ⟨vs, hvs, rfl⟩ := Option.map_eq_some_iff.mp h
    constructor
    · refine .object (Value.nodup_names_merge vs) fun m hm => ?_
      obtain ⟨t, -, hvalue⟩ := exists_of_mem_members? hvs (Value.mem_of_mem_merge hm)
      exact (nests_of_value? hvalue).1
    · intro n hn
      rw [Value.numbers, Value.memberNumbers_eq_flatMap, List.mem_flatMap] at hn
      obtain ⟨m, hm, hn⟩ := hn
      obtain ⟨t, ht, hvalue⟩ := exists_of_mem_members? hvs (Value.mem_of_mem_merge hm)
      exact tokens_subset_object ht ((nests_of_value? hvalue).2 n hn)

end Tree

/-- The numbers of a value that is read off a text fit. -/
theorem Tree.fits_of_value? {text : String} {t u : Tree} {room : Nat} {v : Value} {n : Number}
    (ht : Tree.parse? text = some t) (hu : u.tokens ⊆ t.tokens) (hv : u.value? room = some v)
    (hn : n ∈ v.numbers) : n.Fits := by
  -- the tokens of the tree are those of the text, so the number was scanned
  obtain ⟨ts, hscan, hread⟩ := Option.bind_eq_some_iff.mp ht
  obtain rfl := ofTokens?_eq_some_iff.mp hread
  exact Token.fits_of_scanFrom hscan (hu ((nests_of_value? hv).2 n hn))

/-! ### Compact texts -/

namespace Value

theorem stops_compactElements (xs : List Value) (rest : List Char) :
    Token.Stops (compactElements xs ++ rest) := by
  cases xs <;> rfl

theorem stops_compactMembers (ms : List (String × Value)) (rest : List Char) :
    Token.Stops (compactMembers ms ++ rest) := by
  cases ms <;> rfl

mutual

/-- The tokens of the compact text of a value are those of its tree, whatever follows that
ends a word. -/
theorem scan_compactChars (v : Value) {rest : List Char} (hrest : Token.Stops rest)
    (h : ∀ n ∈ v.numbers, ∃ i, n = .integer i ∧ Number.FitsInteger i) :
    Token.scan (v.compactChars ++ rest) = (Token.scan rest).map (v.toTree.tokens ++ ·) := by
  -- what follows an element inside a container is a mark, and a mark ends every word
  match v with
  | null => exact Token.scan_word (List.cons_ne_nil _ _) rfl hrest rfl
  | bool b =>
    cases b with
    | true => exact Token.scan_word (List.cons_ne_nil _ _) rfl hrest rfl
    | false => exact Token.scan_word (List.cons_ne_nil _ _) rfl hrest rfl
  | number n =>
    obtain ⟨i, rfl, hi⟩ := h n List.mem_cons_self
    exact Token.scan_writeInteger hi hrest
  | string s => exact Token.scan_quoted s rest
  | array [] =>
    simp [compactChars, toTree, elementTrees, Tree.tokens, Token.scan_mark (c := '[') rfl,
      Token.scan_mark (c := ']') rfl, Function.comp_def]
  | array (x :: xs) =>
    simp only [numbers, elementNumbers, List.mem_append] at h
    have hhead := scan_compactChars x (stops_compactElements xs rest) fun n hn => h n (.inl hn)
    have htail := scan_compactElements xs rest fun n hn => h n (.inr hn)
    simp [compactChars, toTree, elementTrees, Tree.tokens, Token.scan_mark (c := '[') rfl,
      hhead, htail, Function.comp_def]
  | object [] =>
    simp [compactChars, toTree, memberTrees, Tree.tokens, Token.scan_mark (c := '\x7b') rfl,
      Token.scan_mark (c := '\x7d') rfl, Function.comp_def]
  | object ((n, x) :: ms) =>
    simp only [numbers, memberNumbers, List.mem_append] at h
    have hhead := scan_compactChars x (stops_compactMembers ms rest) fun n hn => h n (.inl hn)
    have htail := scan_compactMembers ms rest fun n hn => h n (.inr hn)
    simp [compactChars, toTree, memberTrees, Tree.tokens, Token.scan_mark (c := '\x7b') rfl,
      Token.scan_quoted, Token.scan_mark (c := ':') rfl, hhead, htail, Function.comp_def]

theorem scan_compactElements (xs : List Value) (rest : List Char)
    (h : ∀ n ∈ elementNumbers xs, ∃ i, n = .integer i ∧ Number.FitsInteger i) :
    Token.scan (compactElements xs ++ rest) =
      (Token.scan rest).map (Tree.elementTokens (elementTrees xs) ++ ·) := by
  match xs with
  | [] => simp [compactElements, elementTrees, Tree.elementTokens, Token.scan_mark (c := ']') rfl]
  | x :: xs =>
    simp only [elementNumbers, List.mem_append] at h
    have hhead := scan_compactChars x (stops_compactElements xs rest) fun n hn => h n (.inl hn)
    have htail := scan_compactElements xs rest fun n hn => h n (.inr hn)
    simp [compactElements, elementTrees, Tree.elementTokens, Token.scan_mark (c := ',') rfl,
      hhead, htail, Function.comp_def]

theorem scan_compactMembers (ms : List (String × Value)) (rest : List Char)
    (h : ∀ n ∈ memberNumbers ms, ∃ i, n = .integer i ∧ Number.FitsInteger i) :
    Token.scan (compactMembers ms ++ rest) =
      (Token.scan rest).map (Tree.memberTokens (memberTrees ms) ++ ·) := by
  match ms with
  | [] => simp [compactMembers, memberTrees, Tree.memberTokens, Token.scan_mark (c := '\x7d') rfl]
  | (n, x) :: ms =>
    simp only [memberNumbers, List.mem_append] at h
    have hhead := scan_compactChars x (stops_compactMembers ms rest) fun n hn => h n (.inl hn)
    have htail := scan_compactMembers ms rest fun n hn => h n (.inr hn)
    simp [compactMembers, memberTrees, Tree.memberTokens, Token.scan_mark (c := ',') rfl,
      Token.scan_quoted, Token.scan_mark (c := ':') rfl, hhead, htail, Function.comp_def]

end

end Value

/-- The compact text of a value reads as the tree of the value. -/
theorem Tree.parse?_compact {v : Value}
    (h : ∀ n ∈ v.numbers, ∃ i, n = .integer i ∧ Number.FitsInteger i) :
    Tree.parse? v.compact = some v.toTree := by
  have hscan : Token.scan (v.compactChars ++ []) = (Token.scan []).map (v.toTree.tokens ++ ·) :=
    v.scan_compactChars trivial h
  rw [List.append_nil] at hscan
  rw [Tree.parse?, Value.compact, String.toList_ofList, hscan]
  simp [Token.scan, Token.scanFrom]

end ConversionDesk.Json
