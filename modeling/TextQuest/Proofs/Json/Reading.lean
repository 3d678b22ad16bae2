import Mathlib.Tactic.IntervalCases
import TextQuest.Json.Typed
import TextQuest.Json.Unasked
import TextQuest.Proofs.Json.Spelling
import TextQuest.Proofs.Text.Reader

namespace TextQuest.Json

open Text (charOfCode?_toNat charOfCode?_half takeWhile_run)

/-! ## White space -/

theorem skip_spaces {gap : List Char} (spaced : Spaces gap) (s : List Char) : skip (gap ++ s) = skip s :=
  List.dropWhile_append_of_pos spaced

theorem skip_solid {c : Char} (solid : isSpace c = false) (s : List Char) : skip (c :: s) = c :: s := by
  simp [skip, solid]

/-! ## Texts -/

theorem charOfPair_toNat {c : Char} {high low : Nat}
    (joined : c.toNat = 0x10000 + (high - 0xd800) * 0x400 + (low - 0xdc00)) :
    charOfPair high low = c := by
  rw [charOfPair, ← joined, Char.ofNat_toNat]

theorem textFrom_char {c : Char} {s : List Char} (spells : SpellsChar c s) (seen rest : List Char) :
    textFrom seen none (s ++ rest) = textFrom (c :: seen) none rest := by
  cases spells with
  | plain printable quote backslash =>
    simp [textFrom, backslash, Char.not_lt.mpr printable]
  | letter known =>
    simp only [letterEscapes, List.mem_cons, Prod.mk.injEq, List.not_mem_nil, or_false] at known
    rcases known with ⟨rfl, rfl⟩ | ⟨rfl, rfl⟩ | ⟨rfl, rfl⟩ | ⟨rfl, rfl⟩ | ⟨rfl, rfl⟩ | ⟨rfl, rfl⟩ |
      ⟨rfl, rfl⟩ | ⟨rfl, rfl⟩ <;> rfl
  | code code => simp [textFrom, code, charOfCode?_toNat]
  | pair first second isHigh isLow joined =>
    have half := charOfCode?_half isHigh.1 (by omega)
    have before : _ < 0xdc00 := Nat.lt_succ_of_le isHigh.2
    simp [textFrom, first, half, before, second, isLow, charOfPair_toNat joined]

theorem textFrom_chars {cs s : List Char} (spells : SpellsChars cs s) (seen rest : List Char) :
    textFrom seen none (s ++ '"' :: rest) = .ok (String.ofList (seen.reverse ++ cs), rest) := by
  induction spells generalizing seen with
  | nil => simp [textFrom]
  | cons first later ih => rw [List.append_assoc, textFrom_char first, ih]; simp

theorem textAfterQuote_chars {text : String} {s : List Char} (spells : SpellsChars text.toList s)
    (rest : List Char) : textAfterQuote (s ++ '"' :: rest) = .ok (text, rest) := by
  simp [textAfterQuote, textFrom_chars spells]

theorem passText_char {c : Char} {s : List Char} (spells : SpellsChar c s) (rest : List Char) :
    passText (s ++ rest) = passText rest := by
  cases spells with
  | plain printable quote backslash => simp [passText, backslash, Char.not_lt.mpr printable]
  | letter known =>
    simp only [letterEscapes, List.mem_cons, Prod.mk.injEq, List.not_mem_nil, or_false] at known
    rcases known with ⟨rfl, rfl⟩ | ⟨rfl, rfl⟩ | ⟨rfl, rfl⟩ | ⟨rfl, rfl⟩ | ⟨rfl, rfl⟩ | ⟨rfl, rfl⟩ |
      ⟨rfl, rfl⟩ | ⟨rfl, rfl⟩ <;> rfl
  | code code => simp [passText, code]
  | pair first second isHigh isLow joined => simp [passText, first, second]

theorem passText_chars {cs s : List Char} (spells : SpellsChars cs s) (rest : List Char) :
    passText (s ++ '"' :: rest) = .ok rest := by
  induction spells with
  | nil => simp [passText]
  | cons first later ih => rw [List.append_assoc, passText_char first, ih]

/-! ## Numbers -/

def Ends (rest : List Char) : Prop :=
  ∀ c t, rest = c :: t → c.isDigit = false ∧ c ≠ '.' ∧ c ≠ 'e' ∧ c ≠ 'E'

theorem digits_append (atEnd : Fault) {ds rest : List Char} (whole : Digits ds)
    (ends : ∀ c t, rest = c :: t → c.isDigit = false) : digits atEnd (ds ++ rest) = .ok (ds, rest) := by
  obtain ⟨some, within⟩ := whole
  obtain ⟨taken, left⟩ := takeWhile_run within ends
  rw [digits, taken, left]
  cases ds with
  | nil => contradiction
  | cons d ds => rfl

theorem wholeDigits_append (atEnd : Fault) {ds rest : List Char} (whole : Digits ds)
    (leading : ds.head? = some '0' → ds = ['0']) (ends : ∀ c t, rest = c :: t → c.isDigit = false) :
    wholeDigits atEnd (ds ++ rest) = .ok (ds, rest) := by
  by_cases zero : ds.head? = some '0'
  · rw [leading zero] at whole ⊢
    cases rest with
    | nil => exact digits_append atEnd whole ends
    | cons c t => simp [wholeDigits, ends c t rfl]
  · rw [← digits_append atEnd whole ends]
    cases ds with
    | nil => exact absurd rfl whole.1
    | cons d ds =>
      have other : d ≠ '0' := by simpa using zero
      unfold wholeDigits
      split <;> simp_all

theorem fraction_append (atEnd : Fault) {ds rest : List Char} (within : ∀ c ∈ ds, c.isDigit = true)
    (ends : ∀ c t, rest = c :: t → c.isDigit = false) (pointless : ds = [] → rest.head? ≠ some '.') :
    fraction atEnd ((if ds = [] then [] else '.' :: ds) ++ rest) = .ok (ds, rest) := by
  by_cases none : ds = []
  · subst none
    unfold fraction
    split
    · simp_all
    · simp
  · rw [if_neg none]
    exact digits_append atEnd ⟨none, within⟩ ends

theorem Ends.digit {rest : List Char} (ends : Ends rest) (c : Char) (t : List Char)
    (begins : rest = c :: t) : c.isDigit = false :=
  (ends c t begins).1

theorem exponentMark_none {rest : List Char} (ends : Ends rest) : exponentMark rest = ([], rest) := by
  cases rest with
  | nil => rfl
  | cons c t =>
    obtain ⟨-, -, e, E⟩ := ends c t rfl
    simp [exponentMark, e, E]

theorem exponentMark_append {letter : Char} (isMark : letter ∈ ['e', 'E']) {sign : List Char}
    (isSign : sign ∈ [[], ['+'], ['-']]) {ds : List Char} (whole : Digits ds) (rest : List Char) :
    exponentMark (letter :: (sign ++ (ds ++ rest))) = (letter :: sign, ds ++ rest) := by
  have mark : letter = 'e' ∨ letter = 'E' := by simpa using isMark
  obtain ⟨some, within⟩ := whole
  cases ds with
  | nil => contradiction
  | cons d ds =>
    have digit := within d (List.mem_cons_self ..)
    have plus : d ≠ '+' := by rintro rfl; exact absurd digit (by decide)
    have minus : d ≠ '-' := by rintro rfl; exact absurd digit (by decide)
    simp only [List.mem_cons, List.not_mem_nil, or_false] at isSign
    rcases isSign with rfl | rfl | rfl <;> simp [exponentMark, mark, plus, minus]

theorem Numeral.Lawful.mark_head {written : Numeral} (lawful : written.Lawful) {rest : List Char}
    (ends : Ends rest) (c : Char) (t : List Char)
    (begins : written.mark ++ (written.exponent ++ rest) = c :: t) : c.isDigit = false ∧ c ≠ '.' := by
  rcases lawful.exponent with ⟨noMark, noExponent⟩ | ⟨⟨letter, isMark, sign, -, mark⟩, -⟩
  · rw [noMark, noExponent] at begins
    exact ⟨(ends c t begins).1, (ends c t begins).2.1⟩
  · rw [mark] at begins
    obtain ⟨rfl, -⟩ := List.cons.inj begins
    simp only [List.mem_cons, List.not_mem_nil, or_false] at isMark
    rcases isMark with rfl | rfl <;> decide

def Numeral.unsigned (written : Numeral) : List Char :=
  written.whole ++ ((if written.fraction = [] then [] else '.' :: written.fraction) ++
    (written.mark ++ written.exponent))

theorem Numeral.toList_text (written : Numeral) :
    written.text.toList = (if written.negative then ['-'] else []) ++ written.unsigned := by
  simp [Numeral.text, Numeral.unsigned]

def numeralAfter (atEnd : Fault) (negative : Bool) : Reader Numeral := fun s => do
  let (whole, s) ← wholeDigits atEnd s
  let (fraction, s) ← fraction atEnd s
  let (mark, s) := exponentMark s
  if mark = [] then return (⟨negative, whole, fraction, [], []⟩, s)
  let (exponent, s) ← digits atEnd s
  return (⟨negative, whole, fraction, mark, exponent⟩, s)

theorem numeral_minus (atEnd : Fault) (s : List Char) :
    numeral atEnd ('-' :: s) = numeralAfter atEnd true s := rfl

theorem numeral_unsigned (atEnd : Fault) {s : List Char} (unsigned : ∀ t, s ≠ '-' :: t) :
    numeral atEnd s = numeralAfter atEnd false s := by
  unfold numeral
  split
  rename_i negative left found
  split at found
  · exact absurd rfl (unsigned _)
  · obtain ⟨rfl, rfl⟩ := Prod.mk.inj found
    rfl

theorem numeralAfter_append (atEnd : Fault) {written : Numeral} (lawful : written.Lawful)
    {rest : List Char} (ends : Ends rest) :
    numeralAfter atEnd written.negative (written.unsigned ++ rest) = .ok (written, rest) := by
  have afterFraction := lawful.mark_head ends
  have afterWhole (c : Char) (t : List Char)
      (begins : (if written.fraction = [] then [] else '.' :: written.fraction) ++
        (written.mark ++ (written.exponent ++ rest)) = c :: t) : c.isDigit = false := by
    split at begins
    · exact (afterFraction c t begins).1
    · obtain ⟨rfl, -⟩ := List.cons.inj begins
      decide
  have takesWhole := wholeDigits_append atEnd lawful.whole lawful.leading afterWhole
  have takesFraction := fraction_append atEnd lawful.fraction
    (fun c t begins => (afterFraction c t begins).1) fun _ begins => by
      obtain ⟨t, begins⟩ := List.head?_eq_some_iff.mp begins
      exact (afterFraction _ t begins).2 rfl
  simp only [numeralAfter, Numeral.unsigned, List.append_assoc, takesWhole, takesFraction, bind,
    Except.bind, pure, Except.pure]
  rcases lawful.exponent with ⟨noMark, noExponent⟩ | ⟨⟨letter, isMark, sign, isSign, marked⟩, digits⟩
  · rw [noMark, noExponent, List.nil_append, List.nil_append, exponentMark_none ends]
    cases written
    cases noMark
    cases noExponent
    rfl
  · rw [marked, List.cons_append, exponentMark_append isMark isSign digits rest]
    simp only [List.cons_ne_nil, if_false, digits_append atEnd digits ends.digit]
    rw [← marked]

theorem numeral_append (atEnd : Fault) {written : Numeral} (lawful : written.Lawful) {rest : List Char}
    (ends : Ends rest) : numeral atEnd (written.text.toList ++ rest) = .ok (written, rest) := by
  rw [Numeral.toList_text, ← numeralAfter_append atEnd lawful ends]
  cases written.negative with
  | true => exact numeral_minus atEnd _
  | false =>
    refine numeral_unsigned atEnd fun t begins => ?_
    obtain ⟨some, within⟩ := lawful.whole
    rw [Numeral.unsigned] at begins
    cases whole : written.whole with
    | nil => contradiction
    | cons d ds =>
      rw [whole] at begins within
      obtain ⟨rfl, -⟩ := List.cons.inj begins
      exact absurd (within '-' (List.mem_cons_self ..)) (by decide)

/-! ## Whole numbers -/

theorem digits_toDigits (n : Nat) : Digits (Nat.toDigits 10 n) :=
  ⟨Nat.toDigits_ne_nil, fun _ => Nat.isDigit_of_mem_toDigits (by decide) (by decide)⟩

theorem head_toDigits {n : Nat} (positive : 0 < n) : (Nat.toDigits 10 n).head? ≠ some '0' := by
  induction n using Nat.strongRecOn with
  | _ n ih =>
    by_cases small : n < 10
    · rw [Nat.toDigits_of_lt_base small]
      interval_cases n <;> decide
    · have front := ih (n / 10) (by omega) (by omega)
      rw [Nat.toDigits_of_base_le (by decide) (by omega)]
      cases digits : Nat.toDigits 10 (n / 10) with
      | nil => exact absurd digits Nat.toDigits_ne_nil
      | cons d ds => simpa [digits] using front

def Numeral.ofInt (n : Int) : Numeral := ⟨n < 0, Nat.toDigits 10 n.natAbs, [], [], []⟩

theorem Numeral.lawful_ofInt (n : Int) : (Numeral.ofInt n).Lawful where
  whole := digits_toDigits _
  leading zero := by
    rcases Nat.eq_zero_or_pos n.natAbs with none | positive
    · simp [ofInt, none]
    · exact absurd zero (head_toDigits positive)
  fraction := nofun
  exponent := .inl ⟨rfl, rfl⟩

theorem Numeral.text_ofInt (n : Int) : (Numeral.ofInt n).text = toString n := by
  have shown : toString n = n.repr := rfl
  rw [shown, Int.repr_eq_if, Nat.repr_eq_ofList_toDigits, Nat.repr_eq_ofList_toDigits]
  by_cases negative : n < 0
  · have size : (-n).toNat = n.natAbs := by omega
    simp [text, ofInt, negative, size]
  · have size : n.toNat = n.natAbs := by omega
    simp [text, ofInt, negative, size]

theorem le_ofDigitChars (ds : List Char) (first : Nat) : first ≤ Nat.ofDigitChars 10 ds first := by
  induction ds generalizing first with
  | nil => exact Nat.le_refl _
  | cons d ds ih => exact Nat.le_trans (by omega) (ih (10 * first + (d.toNat - '0'.toNat)))

theorem appendDigits_value {bound : Nat} {ds : List Char} {first : Nat}
    (fits : Nat.ofDigitChars 10 ds first < bound) :
    Decimal.appendDigits bound first ds = (Nat.ofDigitChars 10 ds first, ds.length) := by
  induction ds generalizing first with
  | nil => rfl
  | cons d ds ih =>
    have next := Nat.lt_of_le_of_lt (le_ofDigitChars ds (10 * first + (d.toNat - '0'.toNat))) fits
    rw [Decimal.appendDigits, if_pos next, ih fits]
    rfl

theorem Numeral.number_ofInt {n : Int} (least : -Nat.pow 2 63 ≤ n) (most : n < Nat.pow 2 64) :
    (Numeral.ofInt n).number = .ok (.whole n) := by
  have fits : Nat.ofDigitChars 10 (Nat.toDigits 10 n.natAbs) 0 < Nat.pow 2 64 := by
    rw [Nat.ofDigitChars_ten_toDigits]
    simp only [Nat.pow_eq] at *
    omega
  have value := appendDigits_value fits
  rw [Nat.ofDigitChars_ten_toDigits] at value
  simp only [Numeral.number, Numeral.ofInt, value, true_and, decide_eq_true_eq]
  by_cases negative : n < 0
  · have bounds : 0 < n.natAbs ∧ n.natAbs ≤ Nat.pow 2 63 := by simp only [Nat.pow_eq] at *; omega
    simp [negative, bounds, abs_of_neg]
  · have back : (n.natAbs : Int) = n := by omega
    simp [negative, back]

theorem Spells.toList_number {written : String} {s : List Char} (spells : Spells (.number written) s) :
    s = written.toList := by
  cases spells
  rfl

theorem number_ofInt_append {n : Int} (least : -Nat.pow 2 63 ≤ n) (most : n < Nat.pow 2 64)
    {rest : List Char} (ends : Ends rest) :
    number ((toString n).toList ++ rest) = .ok ((.ofInt n, .whole n), rest) := by
  rw [← Numeral.text_ofInt]
  simp only [number, numeral_append .valueUnfinished (Numeral.lawful_ofInt n) ends, bind, Except.bind,
    Numeral.number_ofInt least most, pure, Except.pure]

end TextQuest.Json
