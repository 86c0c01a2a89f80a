import ConversionDesk.Json.Record
import ConversionDesk.Proofs.Json.RoundTrip

/-!
# The fields of a record

A text gives the fields of a record as an object or as an array. This file says which objects
give fields at all, which fields they give, and what a field can hold; and it takes a record
through its compact text and back.

## Main definitions

* `Record.Gives` — the members of an object give a value under a name
* `Record.WithinLimits` — what a reader asks of the members of an object

## Main results

* `Record.ofTree?_object_isSome_iff` — an object gives a record exactly within the limits
* `Record.field?_eq_some_iff_gives` — a field of an object is what its members give
* `Record.nests_of_parse?` — what a field holds nests, and its numbers fit
* `Record.parse?_compact_object` — fields that are written as an object read back
-/

namespace ConversionDesk.Json.Record

/-- The members of an object give a value under a name. One level of nesting is the object's
own. -/
def Gives (ms : List (Option String × Tree)) (name : String) (v : Value) : Prop :=
  ∃ t, (some name, t) ∈ ms ∧ t.value? (Tree.maxDepth - 1) = some v

/-- What a reader asks of the members of an object: every name is a proper string, each field
has a value, and no field is given twice. Members that are no fields need no value. -/
structure WithinLimits (names : List String) (ms : List (Option String × Tree)) : Prop where
  named : ∀ m ∈ ms, m.1.isSome = true
  valued : ∀ name ∈ names, ∀ t, (some name, t) ∈ ms → (t.value? (Tree.maxDepth - 1)).isSome = true
  distinct : ((ms.filterMap Prod.fst).filter (· ∈ names)).Nodup

/-! ### Fields by name -/

section Members

variable {names : List String} {ms : List (Option String × Tree)} {fields : List (String × Value)}

/-- Reading the first member, and then the others: a member that is no field is left out. -/
theorem ofMembers?_cons_eq_some_iff {name : String} {t : Tree} :
    ofMembers? names ((some name, t) :: ms) = some fields ↔ ∃ rest,
      ofMembers? names ms = some rest ∧
      ((name ∈ names ∧ ∃ v, t.value? (Tree.maxDepth - 1) = some v ∧ fields = (name, v) :: rest) ∨
        (name ∉ names ∧ fields = rest)) := by
  by_cases hname : name ∈ names
  · simp only [ofMembers?, bind, Option.bind_some, hname, if_true, Option.bind_eq_some_iff, pure]
    constructor
    · rintro ⟨v, hv, rest, hrest, h⟩
      exact ⟨rest, hrest, Or.inl ⟨trivial, v, hv, (Option.some.inj h).symm⟩⟩
    · rintro ⟨rest, hrest, ⟨-, v, hv, rfl⟩ | ⟨hnot, -⟩⟩
      · exact ⟨v, hv, rest, hrest, rfl⟩
      · exact absurd trivial hnot
  · simp only [ofMembers?, bind, Option.bind_some, hname, if_false]
    constructor
    · exact fun h => ⟨fields, h, Or.inr ⟨not_false, rfl⟩⟩
    · rintro ⟨rest, hrest, ⟨hin, -⟩ | ⟨-, rfl⟩⟩
      · exact hin.elim
      · exact hrest

theorem ofMembers?_cons_none (t : Tree) : ofMembers? names ((none, t) :: ms) = none := rfl

theorem gives_cons_iff {own name : String} {t : Tree} {v : Value} :
    Gives ((some own, t) :: ms) name v ↔
      (name = own ∧ t.value? (Tree.maxDepth - 1) = some v) ∨ Gives ms name v := by
  simp only [Gives, List.mem_cons, Prod.mk.injEq, Option.some.injEq]
  constructor
  · rintro ⟨u, ⟨rfl, rfl⟩ | hu, hv⟩
    · exact Or.inl ⟨rfl, hv⟩
    · exact Or.inr ⟨u, hu, hv⟩
  · rintro (⟨rfl, hv⟩ | ⟨u, hu, hv⟩)
    · exact ⟨t, Or.inl ⟨rfl, rfl⟩, hv⟩
    · exact ⟨u, Or.inr hu, hv⟩

theorem map_fst_ofMembers? (h : ofMembers? names ms = some fields) :
    fields.map Prod.fst = (ms.filterMap Prod.fst).filter (· ∈ names) := by
  induction ms generalizing fields with
  | nil =>
    obtain rfl := Option.some.inj h
    rfl
  | cons m ms ih =>
    obtain ⟨_ | name, t⟩ := m
    · cases h
    obtain ⟨rest, hrest, ⟨hname, v, -, rfl⟩ | ⟨hname, rfl⟩⟩ := ofMembers?_cons_eq_some_iff.mp h
    · simp [ih hrest, hname]
    · simp [ih hrest, hname]

/-- The fields that are read are those that the members give. -/
theorem mem_ofMembers?_iff (h : ofMembers? names ms = some fields) {name : String} {v : Value} :
    (name, v) ∈ fields ↔ name ∈ names ∧ Gives ms name v := by
  induction ms generalizing fields with
  | nil =>
    obtain rfl := Option.some.inj h
    simp [Gives]
  | cons m ms ih =>
    obtain ⟨_ | own, t⟩ := m
    · cases h
    obtain ⟨rest, hrest, ⟨hown, w, hw, rfl⟩ | ⟨hown, rfl⟩⟩ := ofMembers?_cons_eq_some_iff.mp h
    · rw [List.mem_cons, ih hrest, gives_cons_iff, hw, Prod.mk.injEq, Option.some.injEq]
      constructor
      · rintro (⟨rfl, rfl⟩ | ⟨hin, hgive⟩)
        · exact ⟨hown, Or.inl ⟨rfl, rfl⟩⟩
        · exact ⟨hin, Or.inr hgive⟩
      · rintro ⟨hin, ⟨rfl, rfl⟩ | hgive⟩
        · exact Or.inl ⟨rfl, rfl⟩
        · exact Or.inr ⟨hin, hgive⟩
    · -- the first member is no field, so it gives nothing that counts
      rw [ih hrest, gives_cons_iff]
      constructor
      · exact fun ⟨hin, hgive⟩ => ⟨hin, Or.inr hgive⟩
      · rintro ⟨hin, ⟨rfl, -⟩ | hgive⟩
        · exact absurd hin hown
        · exact ⟨hin, hgive⟩

theorem ofMembers?_isSome_iff :
    (ofMembers? names ms).isSome = true ↔ (∀ m ∈ ms, m.1.isSome = true) ∧
      ∀ name ∈ names, ∀ t, (some name, t) ∈ ms → (t.value? (Tree.maxDepth - 1)).isSome = true := by
  induction ms with
  | nil => simp [ofMembers?]
  | cons m ms ih =>
    obtain ⟨_ | own, t⟩ := m
    -- a name that is no proper string spoils the object, whether it is a field or not
    · simp [ofMembers?_cons_none]
    rw [Option.isSome_iff_exists] at ih ⊢
    constructor
    · rintro ⟨fields, h⟩
      obtain ⟨rest, hrest, hfields⟩ := ofMembers?_cons_eq_some_iff.mp h
      obtain ⟨hnamed, hvalued⟩ := ih.mp ⟨rest, hrest⟩
      refine ⟨List.forall_mem_cons.mpr ⟨rfl, hnamed⟩, fun name hname u hu => ?_⟩
      rcases List.mem_cons.mp hu with heq | hu
      · cases heq
        rcases hfields with ⟨-, v, hv, -⟩ | ⟨hnot, -⟩
        · rw [hv]
          rfl
        · exact absurd hname hnot
      · exact hvalued name hname u hu
    · rintro ⟨hnamed, hvalued⟩
      rw [List.forall_mem_cons] at hnamed
      obtain ⟨rest, hrest⟩ := ih.mpr ⟨hnamed.2, fun name hname u hu =>
        hvalued name hname u (List.mem_cons_of_mem _ hu)⟩
      by_cases hown : own ∈ names
      · obtain ⟨v, hv⟩ := Option.isSome_iff_exists.mp (hvalued own hown t List.mem_cons_self)
        exact ⟨(own, v) :: rest, ofMembers?_cons_eq_some_iff.mpr
          ⟨rest, hrest, Or.inl ⟨hown, v, hv, rfl⟩⟩⟩
      · exact ⟨rest, ofMembers?_cons_eq_some_iff.mpr ⟨rest, hrest, Or.inr ⟨hown, rfl⟩⟩⟩

theorem ofTree?_object_eq_some_iff :
    ofTree? names (.object ms) = some fields ↔
      ofMembers? names ms = some fields ∧ (fields.map Prod.fst).Nodup := by
  simp only [ofTree?, bind, Option.bind_eq_some_iff]
  constructor
  · rintro ⟨read, hread, h⟩
    split at h
    · obtain rfl := Option.some.inj h
      exact ⟨hread, by assumption⟩
    · cases h
  · rintro ⟨hread, hnodup⟩
    exact ⟨fields, hread, by rw [if_pos hnodup]; rfl⟩

/-- An object gives a record exactly within the limits. -/
theorem ofTree?_object_isSome_iff :
    (ofTree? names (.object ms)).isSome = true ↔ WithinLimits names ms := by
  rw [Option.isSome_iff_exists]
  constructor
  · rintro ⟨fields, h⟩
    obtain ⟨hread, hnodup⟩ := ofTree?_object_eq_some_iff.mp h
    obtain ⟨hnamed, hvalued⟩ :=
      ofMembers?_isSome_iff.mp (Option.isSome_iff_exists.mpr ⟨fields, hread⟩)
    exact ⟨hnamed, hvalued, map_fst_ofMembers? hread ▸ hnodup⟩
  · intro ⟨hnamed, hvalued, hdistinct⟩
    obtain ⟨fields, hread⟩ :=
      Option.isSome_iff_exists.mp (ofMembers?_isSome_iff.mpr ⟨hnamed, hvalued⟩)
    exact ⟨fields, ofTree?_object_eq_some_iff.mpr
      ⟨hread, (map_fst_ofMembers? hread).symm ▸ hdistinct⟩⟩

end Members

/-! ### Looking up a field -/

theorem mem_of_member? {name : String} {v : Value} {fields : List (String × Value)}
    (h : Value.member? name fields = some v) : (name, v) ∈ fields := by
  fun_induction Value.member? name fields with
  | case1 => cases h
  | case2 w rest =>
    obtain rfl := Option.some.inj h
    exact List.mem_cons_self
  | case3 n w rest hne ih => exact List.mem_cons_of_mem _ (ih h)

theorem member?_of_mem {name : String} {v : Value} {fields : List (String × Value)}
    (hnodup : (fields.map Prod.fst).Nodup) (h : (name, v) ∈ fields) :
    Value.member? name fields = some v := by
  induction fields with
  | nil => cases h
  | cons m rest ih =>
    obtain ⟨n, w⟩ := m
    rw [List.map_cons, List.nodup_cons] at hnodup
    rcases List.mem_cons.mp h with heq | hrest
    · obtain ⟨rfl, rfl⟩ := Prod.mk.inj heq
      rw [Value.member?, if_pos rfl]
    · -- no earlier member has the name, so the lookup gets to this one
      have hne : n ≠ name := by
        rintro rfl
        exact hnodup.1 (List.mem_map.mpr ⟨_, hrest, rfl⟩)
      rw [Value.member?, if_neg hne, ih hnodup.2 hrest]

theorem present_eq_some_iff {v w : Value} : v.present = some w ↔ v = w ∧ w ≠ .null := by
  cases v with
  | null =>
    constructor
    · intro h
      cases h
    · rintro ⟨rfl, hne⟩
      exact absurd rfl hne
  | _ =>
    simp only [Value.present, Option.some.injEq]
    constructor
    · rintro rfl
      exact ⟨rfl, by simp⟩
    · exact And.left

theorem mem_of_field? {name : String} {v : Value} {fields : List (String × Value)}
    (h : field? name fields = some v) : (name, v) ∈ fields ∧ v ≠ .null := by
  obtain ⟨w, hw, hpresent⟩ := Option.bind_eq_some_iff.mp h
  obtain ⟨rfl, hne⟩ := present_eq_some_iff.mp hpresent
  exact ⟨mem_of_member? hw, hne⟩

theorem field?_eq_some_iff {name : String} {v : Value} {fields : List (String × Value)}
    (hnodup : (fields.map Prod.fst).Nodup) :
    field? name fields = some v ↔ (name, v) ∈ fields ∧ v ≠ .null := by
  refine ⟨mem_of_field?, fun ⟨hmem, hne⟩ => ?_⟩
  rw [field?, member?_of_mem hnodup hmem, Option.bind_some]
  exact present_eq_some_iff.mpr ⟨rfl, hne⟩

/-- A field of an object is what its members give, `null` apart. -/
theorem field?_eq_some_iff_gives {names : List String} {ms : List (Option String × Tree)}
    {fields : List (String × Value)} (h : ofTree? names (.object ms) = some fields) {name : String}
    (hname : name ∈ names) {v : Value} :
    field? name fields = some v ↔ Gives ms name v ∧ v ≠ .null := by
  obtain ⟨hread, hnodup⟩ := ofTree?_object_eq_some_iff.mp h
  rw [field?_eq_some_iff hnodup, mem_ofMembers?_iff hread, and_iff_right hname]

/-! ### What a field holds -/

theorem exists_of_mem_ofElements? {names : List String} {ts : List Tree}
    {fields : List (String × Value)} (h : ofElements? names ts = some fields) {m : String × Value}
    (hm : m ∈ fields) : ∃ t ∈ ts, t.value? (Tree.maxDepth - 1) = some m.2 := by
  fun_induction ofElements? names ts generalizing fields with
  | case1 =>
    obtain rfl := Option.some.inj h
    cases hm
  | case2 => cases h
  | case3 name names t ts ih =>
    simp only [bind, Option.bind_eq_some_iff] at h
    obtain ⟨v, hv, rest, hrest, h⟩ := h
    obtain rfl := Option.some.inj h
    rcases List.mem_cons.mp hm with rfl | hm
    · exact ⟨t, List.mem_cons_self, hv⟩
    · obtain ⟨u, hu, hvalue⟩ := ih hrest hm
      exact ⟨u, List.mem_cons_of_mem _ hu, hvalue⟩

theorem exists_of_mem_ofTree? {names : List String} {t : Tree} {fields : List (String × Value)}
    (h : ofTree? names t = some fields) {m : String × Value} (hm : m ∈ fields) :
    ∃ u : Tree, u.tokens ⊆ t.tokens ∧ u.value? (Tree.maxDepth - 1) = some m.2 := by
  cases t with
  | object ms =>
    obtain ⟨hread, -⟩ := ofTree?_object_eq_some_iff.mp h
    obtain ⟨-, u, hu, hvalue⟩ := (mem_ofMembers?_iff hread).mp hm
    exact ⟨u, Tree.tokens_subset_object hu, hvalue⟩
  | array ts =>
    obtain ⟨u, hu, hvalue⟩ := exists_of_mem_ofElements? h hm
    exact ⟨u, Tree.tokens_subset_array hu, hvalue⟩
  | null | bool | number | string => cases h

/-- What a field of a text holds nests, and its numbers fit. -/
theorem nests_of_parse? {names : List String} {text : String} {fields : List (String × Value)}
    (h : parse? names text = some fields) {m : String × Value} (hm : m ∈ fields) :
    m.2.Nests (Tree.maxDepth - 1) ∧ ∀ n ∈ m.2.numbers, n.Fits := by
  obtain ⟨t, ht, hfields⟩ := Option.bind_eq_some_iff.mp h
  obtain ⟨u, hu, hvalue⟩ := exists_of_mem_ofTree? hfields hm
  exact ⟨(Tree.nests_of_value? hvalue).1, fun n hn => Tree.fits_of_value? ht hu hvalue hn⟩

/-! ### Written records -/

theorem ofMembers?_memberTrees {names : List String} {ms : List (String × Value)}
    (hknown : ∀ m ∈ ms, m.1 ∈ names) (hnests : ∀ m ∈ ms, m.2.Nests (Tree.maxDepth - 1)) :
    ofMembers? names (Value.memberTrees ms) = some ms := by
  induction ms with
  | nil => rfl
  | cons m ms ih =>
    rw [List.forall_mem_cons] at hknown hnests
    exact ofMembers?_cons_eq_some_iff.mpr ⟨ms, ih hknown.2 hnests.2,
      Or.inl ⟨hknown.1, m.2, Tree.value?_toTree hnests.1, rfl⟩⟩

/-- Fields that are written as an object read back. -/
theorem parse?_compact_object {names : List String} {ms : List (String × Value)}
    (hknown : ∀ m ∈ ms, m.1 ∈ names) (hnodup : (ms.map Prod.fst).Nodup)
    (hnests : ∀ m ∈ ms, m.2.Nests (Tree.maxDepth - 1))
    (hnumbers : ∀ m ∈ ms, ∀ n ∈ m.2.numbers, ∃ i, n = .integer i ∧ Number.FitsInteger i) :
    parse? names (Value.object ms).compact = some ms := by
  have htree : Tree.parse? (Value.object ms).compact = some (.object (Value.memberTrees ms)) := by
    refine Tree.parse?_compact fun n hn => ?_
    rw [Value.numbers, Value.memberNumbers_eq_flatMap, List.mem_flatMap] at hn
    obtain ⟨m, hm, hn⟩ := hn
    exact hnumbers m hm n hn
  rw [parse?, htree, Option.bind_some]
  exact ofTree?_object_eq_some_iff.mpr ⟨ofMembers?_memberTrees hknown hnests, hnodup⟩

end ConversionDesk.Json.Record
