import ConversionDesk.Json.Token
import Mathlib.Data.List.TakeWhile
import Mathlib.Data.Option.Basic

/-!
# The spelling of leaves

Names, integers and strings are the leaves of a JSON text. This file compares the way they
are written with the way they are read. An integer that fits is spelled by its decimal
digits, and the reader gets the same integer back; conversely the reader never makes an
integer of a literal that does not fit. A string is spelled character by character, with
escapes for those that may not stand in a literal, and the reader undoes each of them.

A spelling is found again inside a longer text: marks and strings end by themselves, and a
word ends where the text after it *stops* a word.

## Main definitions

* `Number.Fits` — an integer of at most 64 bits, or any binary64 number
* `Token.Stops` — a text before which a word may end

## Main results

* `Number.Literal.fits_of_number?` — what a literal denotes fits
* `Token.ofWord?_writeInteger` — the spelling of an integer that fits reads back
* `Token.ofQuoted?_flatMap_writeChar` — the spelling of a string reads back
* `Token.scan_mark`, `Token.scan_word`, `Token.scan_quoted` — a spelling is one token of the
  text that it opens
* `Token.scan_blanks` — blanks between tokens are skipped
* `Token.fits_of_scanFrom` — the numbers of a scanned text fit
-/

namespace ConversionDesk.Json

/-! ### Digits -/

namespace Number

/-- The numbers that reading can give: integers have at most 64 bits. -/
def Fits : Number → Prop
  | integer i => FitsInteger i
  | float _ => True

theorem absorb_lt (ds : List Char) {acc : Nat} (h : acc < 18446744073709551616) :
    (absorb acc ds).1 < 18446744073709551616 := by
  induction ds generalizing acc with
  | nil => exact h
  | cons d ds ih =>
    rw [absorb]
    split
    · exact ih (by assumption)
    · exact h

/-- All digits are taken in as long as the number they denote stays in range. -/
theorem absorb_eq_ofDigitChars (ds : List Char) (acc : Nat)
    (h : Nat.ofDigitChars 10 ds acc < 18446744073709551616) :
    absorb acc ds = (Nat.ofDigitChars 10 ds acc, ds.length) := by
  induction ds generalizing acc with
  | nil => rfl
  | cons d ds ih =>
    have hnext : acc * 10 + digitValue d = 10 * acc + (d.toNat - '0'.toNat) := by
      rw [digitValue, Nat.mul_comm]
    rw [Nat.ofDigitChars_cons, ← hnext] at h ⊢
    -- further digits never make the number smaller
    have hle : acc * 10 + digitValue d ≤ Nat.ofDigitChars 10 ds (acc * 10 + digitValue d) := by
      rw [Nat.ofDigitChars_eq_ofDigitChars_zero]
      exact Nat.le_add_right_of_le (Nat.le_mul_of_pos_left _ (Nat.pow_pos (by decide)))
    rw [absorb, if_pos (by omega), ih _ h]
    rfl

theorem absorb_naturalDigits {n : Nat} (h : n < 18446744073709551616) :
    absorb 0 (naturalDigits n) = (n, (naturalDigits n).length) := by
  have hvalue : Nat.ofDigitChars 10 (naturalDigits n) 0 = n := Nat.ofDigitChars_ten_toDigits
  rw [absorb_eq_ofDigitChars _ _ (by rw [hvalue]; exact h), hvalue]

theorem isDigit_of_mem_naturalDigits {n : Nat} {c : Char} (h : c ∈ naturalDigits n) :
    c.isDigit = true :=
  Nat.isDigit_of_mem_toDigits (by decide) (by decide) h

theorem naturalDigits_ne_nil (n : Nat) : naturalDigits n ≠ [] := Nat.toDigits_ne_nil

theorem head?_naturalDigits_ne_zero {n : Nat} (h : 0 < n) :
    (naturalDigits n).head? ≠ some '0' := by
  induction n using Nat.strongRecOn with
  | ind n ih =>
    rcases Nat.lt_or_ge n 10 with hsmall | hlarge
    · have hdigit : ∀ d < 10, 0 < d → Nat.digitChar d ≠ '0' := by decide
      rw [naturalDigits, Nat.toDigits_of_lt_base hsmall]
      simpa using hdigit n hsmall h
    · have hfront := ih (n / 10) (by omega) (by omega)
      rw [naturalDigits, Nat.toDigits_of_base_le (by decide) hlarge, List.head?_append]
      cases hhead : (Nat.toDigits 10 (n / 10)).head? with
      | none => exact absurd (List.head?_eq_none_iff.mp hhead) Nat.toDigits_ne_nil
      | some d =>
        rw [naturalDigits, hhead] at hfront
        exact hfront

theorem isWhole_naturalDigits (n : Nat) : isWhole (naturalDigits n) = true := by
  have hdigits : isDigits (naturalDigits n) = true := by
    simp [isDigits, naturalDigits_ne_nil, List.all_eq_true]
    exact fun c hc => isDigit_of_mem_naturalDigits hc
  rcases Nat.eq_zero_or_pos n with rfl | hpos
  · decide
  · simp [isWhole, hdigits, head?_naturalDigits_ne_zero hpos]

/-! ### Integer literals -/

theorem unsigned?_naturalDigits (negative : Bool) (n : Nat) :
    unsigned? negative (naturalDigits n) =
      some { negative, whole := naturalDigits n, fraction := none, exponent := none } := by
  have hall : ∀ c ∈ naturalDigits n, c.isDigit = true := fun c hc =>
    isDigit_of_mem_naturalDigits hc
  have htake : (naturalDigits n).takeWhile Char.isDigit = naturalDigits n :=
    List.takeWhile_eq_self_iff.mpr hall
  have hdrop : (naturalDigits n).dropWhile Char.isDigit = [] :=
    List.dropWhile_eq_nil_iff.mpr hall
  simp only [unsigned?, htake, hdrop, isWhole_naturalDigits, tail?]
  rfl

theorem literal?_writeInteger (i : Int) :
    literal? (writeInteger i) =
      some { negative := decide (i < 0), whole := naturalDigits i.natAbs,
             fraction := none, exponent := none } := by
  cases i with
  | negSucc n =>
    have hneg : decide (Int.negSucc n < 0) = true := decide_eq_true (Int.negSucc_lt_zero n)
    rw [hneg]
    exact unsigned?_naturalDigits true (n + 1)
  | ofNat n =>
    have hsign : ∀ cs, naturalDigits n ≠ '-' :: cs := by
      intro cs hcs
      have hminus : ('-' : Char).isDigit = true :=
        isDigit_of_mem_naturalDigits (n := n) (hcs ▸ List.mem_cons_self)
      exact absurd hminus (by decide)
    rw [writeInteger, literal?]
    · exact unsigned?_naturalDigits false n
    · exact fun cs hcs => hsign cs hcs

namespace Literal

/-- What a literal denotes fits. -/
theorem fits_of_number? {l : Literal} {n : Number} (h : l.number? = some n) : n.Fits := by
  have hlt : (absorb 0 l.whole).1 < 18446744073709551616 := absorb_lt _ (by decide)
  simp only [number?] at h
  split at h
  · simp only [whole?] at h
    split at h
    · split at h
      · obtain ⟨x, -, rfl⟩ := Option.map_eq_some_iff.mp h
        trivial
      · obtain rfl := Option.some.inj h
        simp only [Fits, FitsInteger]
        omega
    · obtain rfl := Option.some.inj h
      simp only [Fits, FitsInteger]
      omega
  · obtain ⟨x, -, rfl⟩ := Option.map_eq_some_iff.mp h
    trivial

theorem whole?_natAbs {i : Int} (h : FitsInteger i) :
    whole? (decide (i < 0)) i.natAbs = some (integer i) := by
  obtain ⟨hlow, hhigh⟩ := h
  rcases Int.lt_or_le i 0 with hneg | hpos
  · have hback : -(i.natAbs : Int) = i := by omega
    rw [whole?, if_pos (decide_eq_true hneg), if_neg (by omega), hback]
  · have hback : (i.natAbs : Int) = i := by omega
    rw [whole?, if_neg (by simpa using hpos), hback]

theorem number?_writeInteger {i : Int} (h : FitsInteger i) :
    number? { negative := decide (i < 0), whole := naturalDigits i.natAbs,
              fraction := none, exponent := none } = some (integer i) := by
  have hrange : i.natAbs < 18446744073709551616 := by
    obtain ⟨hlow, hhigh⟩ := h
    omega
  simp only [number?, absorb_naturalDigits hrange, Nat.sub_self, Option.isNone_none, and_self,
    if_true]
  exact whole?_natAbs h

end Literal

end Number

namespace Token

/-- The spelling of an integer that fits reads back. -/
theorem ofWord?_writeInteger {i : Int} (h : Number.FitsInteger i) :
    ofWord? (Number.writeInteger i) = some (number (some (.integer i))) := by
  have hliteral := Number.literal?_writeInteger i
  -- the three names are no literals
  have hname : ∀ w, Number.literal? w = none → Number.writeInteger i ≠ w := by
    rintro w hw rfl
    rw [hw] at hliteral
    cases hliteral
  rw [ofWord?, if_neg (hname _ (by decide)), if_neg (hname _ (by decide)),
    if_neg (hname _ (by decide)), hliteral, Option.map_some, Number.Literal.number?_writeInteger h]

end Token

/-! ### Strings -/

namespace Quoted

theorem code?_hexDigit {n : Nat} (h : n < 32) :
    code? '0' '0' (hexDigit (n / 16)) (hexDigit (n % 16)) = some n := by
  have hall : ∀ n < 32, code? '0' '0' (hexDigit (n / 16)) (hexDigit (n % 16)) = some n := by
    decide
  exact hall n h

/-- A hexadecimal digit is no quote and no backslash. -/
theorem hexDigit_ne {d : Nat} (h : d < 16) : hexDigit d ≠ '"' ∧ hexDigit d ≠ '\\' := by
  have hall : ∀ d < 16, hexDigit d ≠ '"' ∧ hexDigit d ≠ '\\' := by decide
  exact hall d h

/-- The three ways in which a character is spelled. -/
theorem writeChar_cases (c : Char) :
    (∃ e, shortEscape? e = some c ∧ writeChar c = ['\\', e]) ∨
    (isControl c = true ∧ writeChar c =
      ['\\', 'u', '0', '0', hexDigit (c.toNat / 16), hexDigit (c.toNat % 16)]) ∨
    (c ≠ '"' ∧ c ≠ '\\' ∧ isControl c = false ∧ writeChar c = [c]) := by
  rw [writeChar]
  split
  · exact .inl ⟨'"', by subst c; rfl, rfl⟩
  split
  · exact .inl ⟨'\\', by subst c; rfl, rfl⟩
  split
  · exact .inl ⟨'b', by subst c; rfl, rfl⟩
  split
  · exact .inl ⟨'f', by subst c; rfl, rfl⟩
  split
  · exact .inl ⟨'n', by subst c; rfl, rfl⟩
  split
  · exact .inl ⟨'r', by subst c; rfl, rfl⟩
  split
  · exact .inl ⟨'t', by subst c; rfl, rfl⟩
  split
  · exact .inr (.inl ⟨by assumption, rfl⟩)
  · exact .inr (.inr ⟨by assumption, by assumption, by simpa using ‹¬isControl c = true›, rfl⟩)

/-- Each character is read back from its spelling, whatever follows. -/
theorem atoms?_writeChar (c : Char) (rest : List Char) :
    atoms? (writeChar c ++ rest) = (atoms? rest).map (.char c :: ·) := by
  rcases writeChar_cases c with ⟨e, he, hspelling⟩ | ⟨hcontrol, hspelling⟩ |
    ⟨-, hslash, hcontrol, hspelling⟩
  · have hu : e ≠ 'u' := by
      rintro rfl
      cases he
    rw [hspelling, List.cons_append, List.cons_append, List.nil_append, atoms?]
    · simp only [he]
      cases atoms? rest <;> rfl
    · exact fun _ _ _ _ _ h => absurd h hu
  · have hlt : c.toNat < 32 := by simpa [isControl] using hcontrol
    have hatom : Atom.ofCode c.toNat = .char c := by
      simp [Atom.ofCode, isHigh, isLow, Nat.not_le.mpr (by omega : c.toNat < 0xD800),
        Nat.not_le.mpr (by omega : c.toNat < 0xDC00)]
    rw [hspelling]
    simp only [List.cons_append, List.nil_append, atoms?, code?_hexDigit hlt]
    cases atoms? rest <;> simp [hatom]
  · rw [hspelling, List.cons_append, List.nil_append, atoms?]
    · simp [hcontrol, hslash]
    · exact fun _ _ _ _ _ h _ => hslash h
    · exact fun _ _ h _ => hslash h

theorem atoms?_flatMap_writeChar (cs : List Char) :
    atoms? (cs.flatMap writeChar) = some (cs.map .char) := by
  induction cs with
  | nil => rfl
  | cons c cs ih => rw [List.flatMap_cons, atoms?_writeChar, ih]; rfl

theorem join?_map_char (cs : List Char) : join? (cs.map .char) = some cs := by
  induction cs with
  | nil => rfl
  | cons c cs ih => rw [List.map_cons, join?, ih]; rfl

end Quoted

/-- The spelling of a string reads back. -/
theorem Token.ofQuoted?_flatMap_writeChar (s : String) :
    ofQuoted? (s.toList.flatMap Quoted.writeChar) = some (string (some s)) := by
  rw [ofQuoted?, Quoted.atoms?_flatMap_writeChar, Option.map_some, Quoted.join?_map_char,
    Option.map_some, String.ofList_toList]

/-! ### Scanning what was written -/

namespace Token

/-- A text before which a word ends. -/
def Stops : List Char → Prop
  | [] => True
  | c :: _ => endsWord c = true

theorem isBlank_of_mark? {c : Char} {t : Token} (h : mark? c = some t) : isBlank c = false := by
  unfold mark? at h
  split at h
  all_goals first | rfl | cases h

theorem scan_mark {c : Char} {t : Token} (h : mark? c = some t) (rest : List Char) :
    scan (c :: rest) = (scan rest).map (t :: ·) := by
  simp [scan, scanFrom, enter, isBlank_of_mark? h, h]

theorem scan_blank {c : Char} (h : isBlank c = true) (rest : List Char) :
    scan (c :: rest) = scan rest := by
  simp [scan, scanFrom, enter, h]

/-- Blanks between tokens are skipped. -/
theorem scan_blanks {blanks : List Char} (h : ∀ c ∈ blanks, isBlank c = true)
    (rest : List Char) : scan (blanks ++ rest) = scan rest := by
  induction blanks with
  | nil => rfl
  | cons c blanks ih =>
    rw [List.forall_mem_cons] at h
    rw [List.cons_append, scan_blank h.1, ih h.2]

theorem scanFrom_word {w rest : List Char} {t : Token} (seen : List Char)
    (hw : w.any endsWord = false) (hrest : Stops rest)
    (ht : ofWord? (seen.reverse ++ w) = some t) :
    scanFrom (.word seen) (w ++ rest) = (scan rest).map (t :: ·) := by
  induction w generalizing seen with
  | nil =>
    rw [List.append_nil] at ht
    cases rest with
    | nil => simp [scanFrom, ht, scan]
    | cons c rest =>
      have hc : endsWord c = true := hrest
      simp [scanFrom, hc, ht, scan, Option.map_eq_bind, Option.bind_assoc]
  | cons c w ih =>
    rw [List.any_cons, Bool.or_eq_false_iff] at hw
    rw [List.cons_append, scanFrom, hw.1, if_neg Bool.false_ne_true]
    exact ih (c :: seen) hw.2 (by simpa using ht)

theorem enter_of_not_endsWord {c : Char} (h : endsWord c = false) : enter c = ([], .word [c]) := by
  simp only [endsWord, Bool.or_eq_false_iff] at h
  obtain ⟨⟨hblank, hmark⟩, hquote⟩ := h
  simp only [Option.isSome_eq_false_iff, Option.isNone_iff_eq_none] at hmark
  simp [enter, hblank, hmark, by simpa using hquote]

/-- A word is one token, if a word may end after it. -/
theorem scan_word {w rest : List Char} {t : Token} (hne : w ≠ [])
    (hw : w.any endsWord = false) (hrest : Stops rest) (ht : ofWord? w = some t) :
    scan (w ++ rest) = (scan rest).map (t :: ·) := by
  obtain ⟨c, w, rfl⟩ := List.exists_cons_of_ne_nil hne
  rw [List.any_cons, Bool.or_eq_false_iff] at hw
  rw [List.cons_append, scan, scanFrom, enter_of_not_endsWord hw.1]
  simpa using scanFrom_word [c] hw.2 hrest (by simpa using ht)

theorem scanFrom_quoted_writeChar (seen : List Char) (c : Char) (rest : List Char) :
    scanFrom (.quoted seen) (Quoted.writeChar c ++ rest) =
      scanFrom (.quoted ((Quoted.writeChar c).reverse ++ seen)) rest := by
  rcases Quoted.writeChar_cases c with ⟨e, -, hspelling⟩ | ⟨hcontrol, hspelling⟩ |
    ⟨hquote, hslash, -, hspelling⟩
  · simp [hspelling, scanFrom]
  · have hlt : c.toNat < 32 := by simpa [Quoted.isControl] using hcontrol
    have hhigh := Quoted.hexDigit_ne (by omega : c.toNat / 16 < 16)
    have hlow := Quoted.hexDigit_ne (by omega : c.toNat % 16 < 16)
    simp [hspelling, scanFrom, hhigh, hlow]
  · simp [hspelling, scanFrom, hquote, hslash]

theorem scanFrom_quoted_flatMap (seen cs rest : List Char) :
    scanFrom (.quoted seen) (cs.flatMap Quoted.writeChar ++ rest) =
      scanFrom (.quoted ((cs.flatMap Quoted.writeChar).reverse ++ seen)) rest := by
  induction cs generalizing seen with
  | nil => rfl
  | cons c cs ih =>
    rw [List.flatMap_cons, List.append_assoc, scanFrom_quoted_writeChar, ih, List.reverse_append,
      List.append_assoc]

/-- A written string is one token. -/
theorem scan_quoted (s : String) (rest : List Char) :
    scan (Quoted.write s ++ rest) = (scan rest).map (string (some s) :: ·) := by
  have hopen : scan (Quoted.write s ++ rest) =
      scanFrom (.quoted []) (s.toList.flatMap Quoted.writeChar ++ '"' :: rest) := by
    simp [scan, Quoted.write, scanFrom, enter, isBlank, mark?]
  rw [hopen, scanFrom_quoted_flatMap, scanFrom, if_pos rfl, List.append_nil, List.reverse_reverse,
    ofQuoted?_flatMap_writeChar, Option.map_eq_bind]
  rfl

theorem endsWord_of_isDigit {c : Char} (h : c.isDigit = true) : endsWord c = false := by
  rw [← Bool.not_eq_true]
  intro hends
  simp only [endsWord, isBlank, Bool.or_eq_true, beq_iff_eq] at hends
  rcases hends with ((((rfl | rfl) | rfl) | rfl) | hmark) | rfl
  all_goals first | exact absurd h (by decide) | skip
  unfold mark? at hmark
  split at hmark
  all_goals first | exact absurd h (by decide) | cases hmark

theorem any_endsWord_writeInteger (i : Int) : (Number.writeInteger i).any endsWord = false := by
  rw [List.any_eq_false]
  intro c hc
  rw [Bool.not_eq_true]
  cases i with
  | ofNat n => exact endsWord_of_isDigit (Number.isDigit_of_mem_naturalDigits hc)
  | negSucc n =>
    rcases List.mem_cons.mp hc with rfl | hc
    · rfl
    · exact endsWord_of_isDigit (Number.isDigit_of_mem_naturalDigits hc)

theorem scan_writeInteger {i : Int} (h : Number.FitsInteger i) {rest : List Char}
    (hrest : Stops rest) :
    scan (Number.writeInteger i ++ rest) = (scan rest).map (number (some (.integer i)) :: ·) := by
  refine scan_word ?_ (any_endsWord_writeInteger i) hrest (ofWord?_writeInteger h)
  cases i with
  | ofNat n => exact Number.naturalDigits_ne_nil n
  | negSucc n => exact List.cons_ne_nil _ _

/-! ### Numbers in a text -/

theorem fits_of_ofWord? {w : List Char} {n : Number} (h : ofWord? w = some (number (some n))) :
    n.Fits := by
  unfold ofWord? at h
  split at h
  · cases h
  split at h
  · cases h
  split at h
  · cases h
  · obtain ⟨l, -, hl⟩ := Option.map_eq_some_iff.mp h
    exact Number.Literal.fits_of_number? (number.inj hl)

theorem number_notMem_enter (c : Char) (n : Number) : number (some n) ∉ (enter c).1 := by
  unfold enter
  split
  · simp
  · split
    · rename_i t hmark
      unfold mark? at hmark
      split at hmark
      all_goals cases hmark
      all_goals simp
    · split <;> simp

theorem fits_of_scanFrom {p : Position} {cs : List Char} {ts : List Token} {n : Number}
    (h : scanFrom p cs = some ts) (hn : number (some n) ∈ ts) : n.Fits := by
  fun_induction scanFrom p cs generalizing ts with
  | case1 => simp_all
  | case2 c cs ih =>
    obtain ⟨us, hus, rfl⟩ := Option.map_eq_some_iff.mp h
    rcases List.mem_append.mp hn with hn | hn
    · exact absurd hn (number_notMem_enter c n)
    · exact ih hus hn
  | case3 seen =>
    obtain ⟨t, ht, rfl⟩ := Option.map_eq_some_iff.mp h
    obtain rfl := List.mem_singleton.mp hn
    exact fits_of_ofWord? ht
  | case4 seen c cs hends ih =>
    simp only [bind, Option.bind_eq_some_iff] at h
    obtain ⟨t, ht, us, hus, h⟩ := h
    obtain rfl := Option.some.inj h
    rcases List.mem_cons.mp hn with rfl | hn
    · exact fits_of_ofWord? ht
    · rcases List.mem_append.mp hn with hn | hn
      · exact absurd hn (number_notMem_enter c n)
      · exact ih hus hn
  | case5 seen c cs hends ih => exact ih h hn
  | case6 => cases h
  | case7 seen cs ih =>
    simp only [bind, Option.bind_eq_some_iff] at h
    obtain ⟨t, ht, us, hus, h⟩ := h
    obtain rfl := Option.some.inj h
    rcases List.mem_cons.mp hn with rfl | hn
    · obtain ⟨atoms, -, hstring⟩ := Option.map_eq_some_iff.mp ht
      cases hstring
    · exact ih hus hn
  | case8 seen cs hquote ih => exact ih h hn
  | case9 seen c cs hquote hslash ih => exact ih h hn
  | case10 => cases h
  | case11 seen c cs ih => exact ih h hn

end Token

end ConversionDesk.Json
