import Mathlib.Data.List.DropRight
import TextQuest.Text.Blank

namespace TextQuest.Text

variable {text before after : List Char}

/-! ## Without blanks at the ends -/

structure Tight (text : List Char) : Prop where
  first : ∀ c ∈ text.head?, isBlank c = false
  last : ∀ c ∈ text.getLast?, isBlank c = false

theorem dropWhile_unblank (first : ∀ c ∈ text.head?, isBlank c = false) :
    text.dropWhile isBlank = text := by
  cases text with
  | nil => rfl
  | cons c rest =>
    apply List.dropWhile_cons_of_neg
    simp [first c rfl]

theorem trimChars_blanks (blank : ∀ c ∈ before, isBlank c = true) (apart : ∀ c ∈ after, isBlank c = true)
    (tight : Tight text) : trimChars (before ++ text ++ after) = text := by
  have behind : ∀ c ∈ after.reverse, isBlank c = true :=
    fun c within => apart c (List.mem_reverse.mp within)
  rw [trimChars, List.append_assoc, List.dropWhile_append_of_pos blank]
  by_cases empty : text = []
  · rw [empty, List.nil_append, List.dropWhile_eq_nil_iff.mpr apart]
    rfl
  · have kept : ∀ c ∈ (text ++ after).head?, isBlank c = false := by
      rw [List.head?_append_of_ne_nil _ empty]
      exact tight.first
    have turned : ∀ c ∈ text.reverse.head?, isBlank c = false := by
      rw [List.head?_reverse]
      exact tight.last
    rw [dropWhile_unblank kept, List.reverse_append, List.dropWhile_append_of_pos behind,
      dropWhile_unblank turned, List.reverse_reverse]

theorem Tight.trimChars_eq (tight : Tight text) : trimChars text = text := by
  have trimmed := @trimChars_blanks text [] [] (by simp) (by simp) tight
  simpa using trimmed

theorem exists_trimChars (text : List Char) :
    ∃ before after, (∀ c ∈ before, isBlank c = true) ∧ (∀ c ∈ after, isBlank c = true) ∧
      text = before ++ trimChars text ++ after := by
  refine ⟨text.takeWhile isBlank, ((text.dropWhile isBlank).reverse.takeWhile isBlank).reverse, ?_, ?_, ?_⟩
  · exact fun c within => List.mem_takeWhile_imp within
  · exact fun c within => List.mem_takeWhile_imp (List.mem_reverse.mp within)
  · rw [List.append_assoc, trimChars, ← List.reverse_append, List.takeWhile_append_dropWhile,
      List.reverse_reverse, List.takeWhile_append_dropWhile]

theorem head?_dropWhile_unblank (text : List Char) :
    ∀ c ∈ (text.dropWhile isBlank).head?, isBlank c = false := by
  intro c first
  have unblank := List.head?_dropWhile_not isBlank text
  rw [first] at unblank
  simpa using unblank

theorem tight_trimChars (text : List Char) : Tight (trimChars text) := by
  constructor
  · intro c first
    have kept : trimChars text <+: text.dropWhile isBlank := List.rdropWhile_prefix isBlank _
    obtain ⟨tail, whole⟩ := kept
    apply head?_dropWhile_unblank text
    rw [← whole, List.head?_append, first]
    rfl
  · intro c last
    rw [trimChars, List.getLast?_reverse] at last
    exact head?_dropWhile_unblank _ c last

theorem trimChars_eq_nil : trimChars text = [] ↔ ∀ c ∈ text, isBlank c = true := by
  obtain ⟨before, after, blank, apart, whole⟩ := exists_trimChars text
  constructor
  · intro nothing
    rw [whole, nothing]
    simp only [List.append_nil, List.mem_append]
    rintro c (within | within)
    · exact blank c within
    · exact apart c within
  · intro all
    have trimmed := @trimChars_blanks [] text [] all (by simp) ⟨by simp, by simp⟩
    simpa using trimmed

/-! ## Words -/

theorem pieces_ne_nil {α : Type} (cut : α → Bool) (text : List α) : pieces cut text ≠ [] := by
  cases text with
  | nil => simp [pieces]
  | cons a rest =>
    rw [pieces]
    split
    · simp
    · split <;> simp

theorem pieces_cut {α : Type} {cut : α → Bool} {a : α} (cuts : cut a = true) (before after : List α) :
    pieces cut (before ++ a :: after) = pieces cut before ++ pieces cut after := by
  induction before with
  | nil => simp [pieces, cuts]
  | cons b before ih =>
    rw [List.cons_append, pieces, pieces, ih]
    split
    · rfl
    · cases found : pieces cut before with
      | nil => exact absurd found (pieces_ne_nil cut before)
      | cons piece later => rfl

theorem uncut_of_mem_pieces {α : Type} {cut : α → Bool} {text piece : List α}
    (member : piece ∈ pieces cut text) : ∀ a ∈ piece, cut a = false := by
  induction text generalizing piece with
  | nil => simp_all [pieces]
  | cons b text ih =>
    rw [pieces] at member
    split at member
    · rcases List.mem_cons.mp member with rfl | later
      · simp
      · exact ih later
    · rename_i uncut
      cases found : pieces cut text with
      | nil => exact absurd found (pieces_ne_nil cut text)
      | cons first later =>
        rw [found] at member ih
        rcases List.mem_cons.mp member with rfl | behind
        · intro a within
          rcases List.mem_cons.mp within with rfl | within
          · simpa using uncut
          · exact ih List.mem_cons_self a within
        · exact ih (List.mem_cons_of_mem _ behind)

theorem words_blank {c : Char} (blank : isBlank c = true) (before after : List Char) :
    words (before ++ c :: after) = words before ++ words after := by
  rw [words, pieces_cut blank, List.filter_append]
  rfl

theorem words_lead (blank : ∀ c ∈ before, isBlank c = true) (text : List Char) :
    words (before ++ text) = words text := by
  induction before with
  | nil => rfl
  | cons c before ih =>
    obtain ⟨here, blank⟩ := List.forall_mem_cons.mp blank
    rw [List.cons_append, ← ih blank]
    exact words_blank here [] _

theorem words_blanks (blank : ∀ c ∈ before, isBlank c = true) (apart : ∀ c ∈ after, isBlank c = true) :
    words (before ++ text ++ after) = words text := by
  rw [List.append_assoc, words_lead blank]
  cases after with
  | nil => rw [List.append_nil]
  | cons c after =>
    obtain ⟨here, apart⟩ := List.forall_mem_cons.mp apart
    have nothing : words after = [] := by
      rw [← List.append_nil after]
      exact words_lead apart []
    rw [words_blank here, nothing, List.append_nil]

theorem words_trimChars (text : List Char) : words (trimChars text) = words text := by
  obtain ⟨before, after, blank, apart, whole⟩ := exists_trimChars text
  conv_rhs => rw [whole]
  exact (words_blanks blank apart).symm

theorem unblank_of_mem_words {word : List Char} (member : word ∈ words text) :
    word ≠ [] ∧ ∀ c ∈ word, isBlank c = false := by
  obtain ⟨piece, nonempty⟩ := List.mem_filter.mp member
  exact ⟨by simpa using nonempty, uncut_of_mem_pieces piece⟩

/-! ## Lines -/

def withoutReturn : List Char → List Char
  | [] => []
  | ['\r'] => []
  | c :: rest => c :: withoutReturn rest

theorem exists_withoutReturn (line : List Char) :
    ∃ after, (∀ c ∈ after, isBlank c = true) ∧ line = withoutReturn line ++ after := by
  fun_induction withoutReturn line with
  | case1 => exact ⟨[], by simp, rfl⟩
  | case2 => exact ⟨['\r'], List.forall_mem_singleton.mpr rfl, rfl⟩
  | case3 c rest _ ih =>
    obtain ⟨after, blank, whole⟩ := ih
    refine ⟨after, blank, ?_⟩
    rw [List.cons_append, ← whole]

theorem trimChars_withoutReturn (line : List Char) : trimChars (withoutReturn line) = trimChars line := by
  obtain ⟨ending, blankEnding, same⟩ := exists_withoutReturn line
  obtain ⟨before, after, blank, apart, whole⟩ := exists_trimChars (withoutReturn line)
  have behind : ∀ c ∈ after ++ ending, isBlank c = true := List.forall_mem_append.mpr ⟨apart, blankEnding⟩
  conv_rhs => rw [same, whole, List.append_assoc]
  exact (trimChars_blanks blank behind (tight_trimChars _)).symm

theorem words_withoutReturn (line : List Char) : words (withoutReturn line) = words line := by
  rw [← words_trimChars, trimChars_withoutReturn, words_trimChars]

theorem lines_ended {line : List Char} (within : '\n' ∉ line) (rest : List Char) :
    lines (line ++ '\n' :: rest) = withoutReturn line :: lines rest := by
  induction line with
  | nil => rfl
  | cons c line ih =>
    obtain ⟨other, within⟩ := not_or.mp (List.mem_cons.not.mp within)
    by_cases ends : c = '\r' ∧ line = []
    · obtain ⟨rfl, rfl⟩ := ends
      rfl
    · rw [List.cons_append, lines, ih within, withoutReturn]
      · rintro rfl rfl
        exact ends ⟨rfl, rfl⟩
      · rintro rfl
        exact other rfl
      · rintro later rfl next
        apply ends
        cases line with
        | nil => exact ⟨rfl, rfl⟩
        | cons d line =>
          obtain ⟨rfl, -⟩ := List.cons.inj next
          simp at within

theorem lines_last {line : List Char} (within : '\n' ∉ line) (some : line ≠ []) : lines line = [line] := by
  induction line with
  | nil => contradiction
  | cons c line ih =>
    obtain ⟨other, within⟩ := not_or.mp (List.mem_cons.not.mp within)
    rw [lines]
    · cases line with
      | nil => rfl
      | cons d line => rw [ih within (by simp)]
    · rintro rfl
      exact other rfl
    · rintro later rfl rfl
      simp at within

theorem by_lines {motive : List Char → Prop} (last : ∀ line, '\n' ∉ line → motive line)
    (ended : ∀ line rest, '\n' ∉ line → motive rest → motive (line ++ '\n' :: rest)) (text : List Char) :
    motive text := by
  by_cases within : '\n' ∈ text
  · obtain ⟨line, rest, whole, first⟩ := List.eq_append_cons_of_mem within
    rw [whole]
    apply ended line rest first
    exact by_lines last ended rest
  · exact last text within
termination_by text.length
decreasing_by
  rw [whole, List.length_append, List.length_cons]
  omega

theorem feed_not_mem_lines : ∀ line ∈ lines text, '\n' ∉ line := by
  induction text using by_lines with
  | last line within =>
    by_cases some : line = []
    · simp [some, lines]
    · simpa [lines_last within some] using within
  | ended line rest within ih =>
    obtain ⟨after, -, whole⟩ := exists_withoutReturn line
    have shorter : '\n' ∉ withoutReturn line := by
      intro member
      apply within
      rw [whole]
      exact List.mem_append_left _ member
    rw [lines_ended within]
    exact List.forall_mem_cons.mpr ⟨shorter, ih⟩

theorem words_lines (text : List Char) : (lines text).flatMap words = words text := by
  induction text using by_lines with
  | last line within =>
    by_cases some : line = []
    · rw [some]
      rfl
    · rw [lines_last within some, List.flatMap_singleton]
  | ended line rest within ih =>
    rw [lines_ended within, List.flatMap_cons, ih, words_withoutReturn, words_blank (by decide)]

theorem lines_append {before : List (List Char)} (within : ∀ line ∈ before, '\n' ∉ line)
    (text : List Char) :
    lines (before.flatMap (· ++ ['\n']) ++ text) = before.map withoutReturn ++ lines text := by
  induction before with
  | nil => rfl
  | cons line before ih =>
    obtain ⟨here, within⟩ := List.forall_mem_cons.mp within
    rw [List.flatMap_cons, List.append_assoc, List.append_assoc, List.singleton_append, lines_ended here,
      ih within]
    rfl

end TextQuest.Text
