import TextQuest.Proofs.Ron.Spelling

namespace TextQuest.Ron
open Text Decimal

variable {α : Type} {rest : List Char}

/-! ## Between tokens -/

theorem Comment.length {comment : List Char} (within : Comment comment) : 2 ≤ comment.length := by
  induction within with
  | done => simp
  | nested => simp
  | other _ _ _ ih => simp; omega

def Gap.outer : Nat → Gap
  | 0 => .blank
  | level + 1 => .block level

theorem skipFrom_comment {comment : List Char} (within : Comment comment) (level : Nat)
    (rest : List Char) :
    skipFrom (.block level) (comment ++ rest) = skipFrom (.outer level) rest := by
  induction within generalizing level rest with
  | done => cases level <;> rfl
  | nested _ _ inner further =>
    rw [List.cons_append, List.cons_append, List.append_assoc, skipFrom, inner (level + 1)]
    exact further level rest
  | @other c later opensNone closesNone further ih =>
    have long := further.length
    obtain ⟨d, later, rfl⟩ := List.exists_cons_of_length_pos (by omega : 0 < later.length)
    rw [← ih level rest]
    simp only [List.head?_cons, ne_eq, Option.some.injEq] at opensNone closesNone
    rw [List.cons_append, skipFrom] <;> grind

theorem skipFrom_line {text : List Char} (single : '\n' ∉ text) (rest : List Char) :
    skipFrom .line (text ++ '\n' :: rest) = skipFrom .blank rest := by
  induction text with
  | nil => simp [skipFrom]
  | cons c text ih =>
    obtain ⟨other, single⟩ := not_or.mp (List.mem_cons.not.mp single)
    rw [List.cons_append, skipFrom, if_neg (Ne.symm other), ih single]

theorem skip_blanks {gap : List Char} (blanks : Blanks gap) (rest : List Char) :
    skip (gap ++ rest) = skip rest := by
  unfold skip
  induction blanks with
  | nil => rfl
  | blank isBlank _ ih =>
    rw [← ih]
    simp only [List.mem_cons, List.not_mem_nil, or_false] at isBlank
    rcases isBlank with rfl | rfl | rfl | rfl <;> simp [skipFrom]
  | line single _ ih =>
    rw [← ih, List.cons_append, List.cons_append, List.append_assoc, skipFrom]
    exact skipFrom_line single _
  | block within _ ih =>
    rw [← ih, List.cons_append, List.cons_append, List.append_assoc, skipFrom]
    exact skipFrom_comment within 0 _

structure Solid (c : Char) : Prop where
  notBlank : c ∉ [' ', '\t', '\r', '\n']
  noComment : c ≠ '/'

theorem skip_solid {c : Char} (solid : Solid c) (rest : List Char) : skip (c :: rest) = some (c :: rest) := by
  obtain ⟨notBlank, noComment⟩ := solid
  simp only [List.mem_cons, List.not_mem_nil, or_false, not_or] at notBlank
  unfold skip
  rw [skipFrom] <;> grind

/-! ## Words -/

abbrev Ends (rest : List Char) : Prop := EndsRun isRawChar rest

theorem isRawChar_of_isWordChar {c : Char} (wordly : isWordChar c = true) : isRawChar c = true := by
  simp [isRawChar, wordly]

theorem Ends.word (ends : Ends rest) : EndsRun isWordChar rest := by
  intro c t begins
  have raw := ends c t begins
  simp only [isRawChar, Bool.or_eq_false_iff] at raw
  exact raw.1.1.1

theorem plainWord_append {name : String} (within : ∀ c ∈ name.toList, isWordChar c = true) (ends : Ends rest) :
    plainWord (name.toList ++ rest) = some (name, rest) := by
  obtain ⟨taken, left⟩ := takeWhile_run within ends.word
  have ended : (rest.head?.map isRawChar).getD false = false := by
    cases rest with
    | nil => rfl
    | cons c t => exact ends c t rfl
  simp [plainWord, taken, left, ended]

theorem isWordChar_of_isWordStart {c : Char} (begins : isWordStart c = true) : isWordChar c = true := by
  simp only [isWordStart, Bool.or_eq_true] at begins
  simp only [isWordChar, Char.isAlphanum, Bool.or_eq_true]
  grind

theorem word_append {name : String} {s : List Char} (spells : SpellsWord name s) (ends : Ends rest) :
    word (s ++ rest) = some (name, rest) := by
  cases spells with
  | @plain c front whole begins unmarked within =>
    have letters : ∀ d ∈ name.toList, isWordChar d = true := by
      rw [whole]
      exact List.forall_mem_cons.mpr ⟨isWordChar_of_isWordStart begins, within⟩
    rw [← plainWord_append letters ends, whole, List.cons_append]
    have unmarked : c = 'r' → ∃ d later, front = d :: later ∧ d ≠ '#' ∧ d ≠ '"' := by
      intro marked
      obtain ⟨d, later, rfl⟩ := List.exists_cons_of_ne_nil (unmarked marked)
      have wordly := within d (List.mem_cons_self ..)
      refine ⟨d, later, rfl, ?_, ?_⟩ <;> rintro rfl <;> exact absurd wordly (by decide)
    rw [word, if_pos begins] <;> grind
  | raw some within =>
    obtain ⟨taken, left⟩ := takeWhile_run within ends
    obtain ⟨c, front, whole⟩ := List.exists_cons_of_ne_nil some
    have first : isRawChar c = true := within c (whole ▸ List.mem_cons_self ..)
    rw [whole] at taken left
    rw [whole, List.cons_append, List.cons_append, List.cons_append, word, if_pos first,
      ← List.cons_append, taken, left, ← whole, String.ofList_toList]

/-! ## Texts -/

theorem digit?_char {c : Char} {digit : Nat} (is : digit? c = some digit) :
    isRawChar c = true ∧ c ≠ '"' ∧ c ≠ '\\' ∧ c ≠ '}' ∧ c ≠ '_' := by
  refine ⟨?_, ?_, ?_, ?_, ?_⟩
  · have bounds : ('0' ≤ c ∧ c ≤ '9') ∨ ('a' ≤ c ∧ c ≤ 'f') ∨ ('A' ≤ c ∧ c ≤ 'F') := by
      unfold digit? at is
      grind
    simp only [isRawChar, isWordChar, Char.isAlphanum, Char.isAlpha, Char.isUpper, Char.isLower,
      Char.isDigit, Bool.or_eq_true, Bool.and_eq_true, decide_eq_true_eq, ge_iff_le]
    simp only [Char.le_def, UInt32.le_iff_toNat_le] at bounds ⊢
    simp at bounds ⊢
    omega
  all_goals
    rintro rfl
    cases is

theorem SpellsDigits.char {base n : Nat} {s : List Char} (spells : SpellsDigits base n s) :
    ∀ c ∈ s, c = '_' ∨ ∃ digit, digit? c = some digit ∧ digit < base := by
  induction spells with
  | first is small => simpa using .inr ⟨_, is, small⟩
  | next _ is small ih =>
    intro c inside
    rcases List.mem_append.mp inside with front | last
    · exact ih c front
    · rw [List.mem_singleton.mp last]
      exact .inr ⟨_, is, small⟩
  | underscore _ ih =>
    intro c inside
    rcases List.mem_append.mp inside with front | last
    · exact ih c front
    · exact .inl (List.mem_singleton.mp last)

theorem upToQuote_plain {s : List Char} (plain : ∀ c ∈ s, c ≠ '"' ∧ c ≠ '\\') (seen rest : List Char) :
    upToQuote '"' seen (s ++ rest) = upToQuote '"' (s.reverse ++ seen) rest := by
  induction s generalizing seen with
  | nil => rfl
  | cons c s ih =>
    obtain ⟨⟨quote, backslash⟩, later⟩ := List.forall_mem_cons.mp plain
    rw [List.cons_append, upToQuote, if_neg quote, ih later] <;> simp [backslash]

theorem upToQuote_char {c : Char} {s : List Char} (spells : SpellsChar c s) (seen rest : List Char) :
    upToQuote '"' seen (s ++ rest) = upToQuote '"' (s.reverse ++ seen) rest := by
  cases spells with
  | plain quote backslash => exact upToQuote_plain (by simp [quote, backslash]) seen rest
  | letter known => simp [upToQuote]
  | @byte high low _ _ first second code =>
    obtain ⟨-, quote, backslash, -⟩ := digit?_char first
    obtain ⟨-, quote', backslash', -⟩ := digit?_char second
    have plain := upToQuote_plain (s := [high, low]) (by simp [quote, quote', backslash, backslash'])
      ('x' :: '\\' :: seen) rest
    simpa [upToQuote] using plain
  | @code digits few dense code =>
    have plain : ∀ d ∈ '{' :: (digits ++ ['}']), d ≠ '"' ∧ d ≠ '\\' := by
      intro d inside
      rcases List.mem_cons.mp inside with rfl | inside
      · decide
      rcases List.mem_append.mp inside with digit | last
      · rcases code.char d digit with rfl | ⟨_, is, -⟩
        · decide
        · exact ⟨(digit?_char is).2.1, (digit?_char is).2.2.1⟩
      · rw [List.mem_singleton.mp last]
        decide
    simpa [upToQuote] using upToQuote_plain plain ('u' :: '\\' :: seen) rest

theorem unescape_digits {n : Nat} {digits : List Char} (spells : SpellsDigits 16 n digits)
    (dense : '_' ∉ digits) (few : digits.length ≤ 6) (rest : List Char) :
    unescape (some {}) (digits ++ rest) = unescape (some ⟨n, digits.length⟩) rest := by
  induction spells generalizing rest with
  | @first c digit is small =>
    have := (digit?_char is).2.2.2.1
    rw [List.singleton_append, unescape] <;> simp [is, this]
  | @next n s c digit front is small ih =>
    have other := (digit?_char is).2.2.2.1
    simp only [List.mem_append, not_or, List.length_append, List.length_singleton] at dense few
    rw [List.append_assoc, ih dense.1 (by omega), List.singleton_append, unescape]
    · have open_ : s.length ≠ 6 := by omega
      simp [is, open_]
    · simp [other]
  | underscore => simp at dense

theorem SpellsDigits.length_pos {base n : Nat} {s : List Char} (spells : SpellsDigits base n s) :
    0 < s.length := by
  cases spells <;> simp

theorem unescape_char {c : Char} {s : List Char} (spells : SpellsChar c s) {rest cs : List Char}
    (resolved : unescape none rest = some cs) : unescape none (s ++ rest) = some (c :: cs) := by
  cases spells with
  | plain quote backslash =>
    rw [List.singleton_append, unescape, resolved] <;> simp [backslash]
  | letter known =>
    simp only [letterEscapes, List.mem_cons, Prod.mk.injEq, List.not_mem_nil, or_false] at known
    rcases known with ⟨rfl, rfl⟩ | ⟨rfl, rfl⟩ | ⟨rfl, rfl⟩ | ⟨rfl, rfl⟩ | ⟨rfl, rfl⟩ | ⟨rfl, rfl⟩ |
      ⟨rfl, rfl⟩ <;> simp [unescape, simpleEscape?, resolved]
  | byte first second code =>
    simp [unescape, first, second, resolved, ← code]
  | @code digits few dense code =>
    have braced : unescape none ('\\' :: 'u' :: '{' :: (digits ++ '}' :: rest)) =
        unescape (some {}) (digits ++ '}' :: rest) := by
      simp only [unescape]
    have some : digits.length ≠ 0 := Nat.ne_of_gt code.length_pos
    simp only [List.cons_append, List.append_assoc, List.nil_append]
    rw [braced, unescape_digits code dense few]
    simp [unescape, some, charOfCode?_toNat, resolved]

theorem unescape_chars {cs s : List Char} (spells : SpellsChars cs s) : unescape none s = some cs := by
  induction spells with
  | nil => rfl
  | cons first _ ih => exact unescape_char first ih

theorem upToQuote_chars {cs s : List Char} (spells : SpellsChars cs s) (seen rest : List Char) :
    upToQuote '"' seen (s ++ '"' :: rest) = some (seen.reverse ++ s, rest) := by
  induction spells generalizing seen with
  | nil => simp [upToQuote]
  | cons first _ ih => rw [List.append_assoc, upToQuote_char first, ih]; simp

/-- What does not stand inside of a text does not begin there either, as long as it has no quotes. -/
theorem expect_apart {hashes : List Char} (marks : ∀ c ∈ hashes, c = '#') {inside : List Char}
    (apart : ¬hashes <+: inside) (rest : List Char) : expect hashes (inside ++ '"' :: rest) = none := by
  induction hashes generalizing inside with
  | nil => exact absurd (List.nil_prefix) apart
  | cons c hashes ih =>
    obtain ⟨rfl, others⟩ := List.forall_mem_cons.mp marks
    cases inside with
    | nil => simp [expect]
    | cons d inside =>
      rw [List.cons_append, expect]
      split
      · rename_i same
        refine ih others (fun front => apart ?_)
        rw [same]
        exact (List.prefix_cons_inj d).mpr front
      · rfl

theorem upToHashes_append {hashes : List Char} (marks : ∀ c ∈ hashes, c = '#') {inside : List Char}
    (apart : ¬ '"' :: hashes <:+: inside) (seen rest : List Char) :
    upToHashes hashes seen (inside ++ '"' :: (hashes ++ rest)) = some (seen.reverse ++ inside, rest) := by
  induction inside generalizing seen with
  | nil => simp [upToHashes, expect_append]
  | cons c inside ih =>
    have further : ¬ '"' :: hashes <:+: inside := fun within =>
      apart (within.trans (List.suffix_cons c inside).isInfix)
    have unfinished : (if c = '"' then expect hashes (inside ++ '"' :: (hashes ++ rest)) else none) =
        none := by
      split
      · rename_i quote
        refine expect_apart marks (fun front => apart ?_) _
        rw [quote]
        exact ((List.prefix_cons_inj '"').mpr front).isInfix
      · rfl
    rw [List.cons_append, upToHashes, unfinished]
    simpa using ih further (c :: seen)

theorem text_append {value : String} {s : List Char} (spells : SpellsText value s) (rest : List Char) :
    text (s ++ rest) = some (value, rest) := by
  cases spells with
  | @quoted s chars =>
    have inside := upToQuote_chars chars [] rest
    rw [List.reverse_nil, List.nil_append] at inside
    simp [text, inside, unescape_chars chars]
  | @raw hashes marks apart =>
    have inside := upToHashes_append marks apart [] rest
    have run : ∀ c ∈ hashes, (c == '#') = true := fun c within => by simp [marks c within]
    obtain ⟨taken, left⟩ := takeWhile_run run
      (show EndsRun (· == '#') ('"' :: (value.toList ++ '"' :: (hashes ++ rest))) by
        intro c t begins
        cases begins
        rfl)
    simp only [List.cons_append, List.append_assoc, text, left, taken, inside]
    simp

/-! ## Numbers -/

theorem numberBy_append {read? : List Char → Option α} {s : List Char} {found : α}
    (raw : ∀ c ∈ s, isRawChar c = true) (reads : read? s = some found) (ends : Ends rest) :
    numberBy read? (s ++ rest) = some (found, rest) := by
  obtain ⟨taken, left⟩ := takeWhile_run raw ends
  simp [numberBy, taken, left, reads]

theorem SpellsDigits.raw {base n : Nat} {s : List Char} (spells : SpellsDigits base n s) :
    ∀ c ∈ s, isRawChar c = true := by
  intro c inside
  rcases spells.char c inside with rfl | ⟨_, is, -⟩
  · rfl
  · exact (digit?_char is).1

theorem SpellsDigits.begins {base n : Nat} {s : List Char} (spells : SpellsDigits base n s) :
    ∃ c t, s = c :: t ∧ ∃ digit, digit? c = some digit := by
  induction spells with
  | first is => exact ⟨_, _, rfl, _, is⟩
  | next _ _ _ ih =>
    obtain ⟨c, t, rfl, digit⟩ := ih
    exact ⟨c, _, rfl, digit⟩
  | underscore _ ih =>
    obtain ⟨c, t, rfl, digit⟩ := ih
    exact ⟨c, _, rfl, digit⟩

theorem digitsValue?_of_spells {base n : Nat} {s : List Char} (spells : SpellsDigits base n s) :
    digitsValue? base s = some n := by
  unfold digitsValue?
  induction spells with
  | first is small =>
    have other := (digit?_char is).2.2.2.2
    simp [is, small, other]
  | next _ is small ih =>
    have other := (digit?_char is).2.2.2.2
    rw [List.foldlM_append, ih]
    simp [is, small, other]
  | underscore _ ih =>
    rw [List.foldlM_append, ih]
    simp

theorem baseDigits_decimal {n : Nat} {s : List Char} (spells : SpellsDigits 10 n s) :
    baseDigits s = (10, s) := by
  have other (c : Char) (inside : c ∈ s) : c ≠ 'x' ∧ c ≠ 'b' ∧ c ≠ 'o' := by
    rcases spells.char c inside with rfl | ⟨digit, is, small⟩
    · decide
    · refine ⟨?_, ?_, ?_⟩ <;> rintro rfl <;> cases is
      exact absurd small (by decide)
  unfold baseDigits
  split <;> simp_all

theorem natural?_of_base {base n : Nat} {s digits : List Char} (parted : baseDigits s = (base, digits))
    (spells : SpellsDigits base n digits) : natural? s = some n := by
  obtain ⟨c, t, rfl, digit, is⟩ := spells.begins
  have other := (digit?_char is).2.2.2.2
  simp [natural?, parted, other, digitsValue?_of_spells spells]

theorem natural?_of_spells {n : Nat} {s : List Char} (spells : SpellsNatural n s) :
    natural? s = some n := by
  cases spells with
  | decimal digits => exact natural?_of_base (baseDigits_decimal digits) digits
  | hexadecimal digits => exact natural?_of_base rfl digits
  | octal digits => exact natural?_of_base rfl digits
  | binary digits => exact natural?_of_base rfl digits

theorem SpellsNatural.raw {n : Nat} {s : List Char} (spells : SpellsNatural n s) :
    ∀ c ∈ s, isRawChar c = true := by
  cases spells with
  | decimal digits => exact digits.raw
  | hexadecimal digits => exact List.forall_mem_cons.mpr ⟨rfl, List.forall_mem_cons.mpr ⟨rfl, digits.raw⟩⟩
  | octal digits => exact List.forall_mem_cons.mpr ⟨rfl, List.forall_mem_cons.mpr ⟨rfl, digits.raw⟩⟩
  | binary digits => exact List.forall_mem_cons.mpr ⟨rfl, List.forall_mem_cons.mpr ⟨rfl, digits.raw⟩⟩

theorem natural_append {n bound : Nat} {s : List Char} (spells : SpellsNatural n s) (small : n < bound)
    (ends : Ends rest) : natural bound (s ++ rest) = some (n, rest) :=
  numberBy_append spells.raw (by simp [natural?_of_spells spells, small]) ends

theorem isRawChar_of_isDigit {c : Char} (digit : c.isDigit = true) : isRawChar c = true := by
  simp [isRawChar, isWordChar, Char.isAlphanum, digit]

theorem raw_sign {negative : Bool} {sign : List Char} (signed : SpellsSign negative sign) :
    ∀ c ∈ sign, isRawChar c = true := by
  cases signed <;> exact List.all_eq_true.mp rfl

theorem raw_exponent {exponent : Int} {mark : List Char} (raised : SpellsExponent exponent mark) :
    ∀ c ∈ mark, isRawChar c = true := by
  cases raised with
  | none => nofun
  | marked known signed _ within =>
    refine List.forall_mem_cons.mpr ⟨?_, List.forall_mem_append.mpr ⟨raw_sign signed, ?_⟩⟩
    · rcases known with rfl | rfl <;> rfl
    · exact fun c inside => isRawChar_of_isDigit (within c inside)

theorem raw_numeral {numeral : Numeral} {s : List Char} (spells : SpellsNumeral numeral s) :
    ∀ c ∈ s, isRawChar c = true := by
  obtain ⟨signed, parted, raised, -, within⟩ := spells
  have digits := fun c inside => isRawChar_of_isDigit (within c inside)
  have mark := raw_exponent raised
  have sign := raw_sign signed
  have behind : isRawChar '.' = true := rfl
  cases parted <;> simp only [List.mem_append, List.mem_cons] at digits ⊢ <;> grind

theorem exists_digit {numeral : Numeral} {s : List Char} (spells : SpellsNumeral numeral s) :
    ∃ c ∈ s, c.isDigit = true := by
  obtain ⟨signed, parted, raised, some, within⟩ := spells
  obtain ⟨c, inside⟩ := List.exists_mem_of_ne_nil _ some
  refine ⟨c, ?_, within c inside⟩
  cases parted <;> simp at inside ⊢ <;> grind

theorem single?_of_spells {x : Float32} {s : List Char} (spells : SpellsSingle x s) :
    single? s = some x := by
  cases spells with
  | infinite => rfl
  | positive => rfl
  | negative => rfl
  | numeral spells rounds =>
    have digit : s.any Char.isDigit = true := List.any_eq_true.mpr (exists_digit spells)
    have words : ∀ word ∈ ["inf", "+inf", "-inf", "NaN", "+NaN", "-NaN"],
        word.toList.any Char.isDigit = false := by decide
    have unlike (word : String) (known : word ∈ ["inf", "+inf", "-inf", "NaN", "+NaN", "-NaN"]) :
        s ≠ word.toList := by
      rintro rfl
      rw [words word known] at digit
      cases digit
    simp only [List.mem_cons, List.not_mem_nil, or_false, forall_eq_or_imp, forall_eq] at unlike
    simp only [single?, unlike, or_false, if_false, ofChars?_of_spells spells, Option.map_some,
      Numeral.toSingle_of_rounds rounds]

theorem raw_single {x : Float32} {s : List Char} (spells : SpellsSingle x s) :
    ∀ c ∈ s, isRawChar c = true := by
  cases spells with
  | infinite => exact List.all_eq_true.mp rfl
  | positive => exact List.all_eq_true.mp rfl
  | negative => exact List.all_eq_true.mp rfl
  | numeral spells _ => exact raw_numeral spells

theorem single_append {x : Float32} {s : List Char} (spells : SpellsSingle x s) (ends : Ends rest) :
    single (s ++ rest) = some (x, rest) :=
  numberBy_append (raw_single spells) (single?_of_spells spells) ends

end TextQuest.Ron
