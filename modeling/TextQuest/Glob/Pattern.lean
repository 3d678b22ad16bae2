namespace TextQuest.Glob

inductive Fault
  | wildcards
  | recursiveWildcards
  | invalidRange
  deriving DecidableEq

def Fault.message : Fault → String
  | wildcards => "wildcards are either regular `*` or recursive `**`"
  | recursiveWildcards => "recursive wildcards must form a single path component"
  | invalidRange => "invalid range pattern"

structure PatternError where
  position : Nat
  fault : Fault
  deriving DecidableEq

def PatternError.message (e : PatternError) : String :=
  s!"Pattern syntax error near position {e.position}: {e.fault.message}"

structure CharRange where
  low : Char
  high : Char
  deriving DecidableEq

def CharRange.contains (range : CharRange) (c : Char) : Bool := range.low ≤ c && c ≤ range.high

inductive Token
  | char (c : Char)
  | anyChar
  | anySequence
  | recursive
  | within (ranges : List CharRange)
  | outside (ranges : List CharRange)
  deriving DecidableEq

def charRanges : List Char → List CharRange
  | low :: '-' :: high :: rest => ⟨low, high⟩ :: charRanges rest
  | c :: rest => ⟨c, c⟩ :: charRanges rest
  | [] => []

def closeBracket? : List Char → Option (List Char × List Char)
  | [] => none
  | c :: rest =>
    if c = ']' then some ([], rest) else (closeBracket? rest).map fun found => (c :: found.1, found.2)

/-- Reads a range after its opening bracket. Its first character is never the closing bracket. -/
def range? : List Char → Option (Token × List Char)
  | '!' :: first :: more =>
    (closeBracket? more).map fun found => (.outside (charRanges (first :: found.1)), found.2)
  | first :: more =>
    if first = '!' then none
    else (closeBracket? more).map fun found => (.within (charRanges (first :: found.1)), found.2)
  | [] => none

theorem length_closeBracket? {cs inside rest : List Char}
    (found : closeBracket? cs = some (inside, rest)) : rest.length < cs.length := by
  induction cs generalizing inside with
  | nil => simp [closeBracket?] at found
  | cons c cs ih =>
    unfold closeBracket? at found
    split at found
    · cases found
      simp
    · obtain ⟨⟨inside', rest'⟩, found', same⟩ := Option.map_eq_some_iff.1 found
      cases same
      exact Nat.lt_succ_of_lt (ih found')

theorem length_range? {cs rest : List Char} {token : Token}
    (found : range? cs = some (token, rest)) : rest.length < cs.length := by
  unfold range? at found
  split at found
  · obtain ⟨⟨inside, rest'⟩, found', same⟩ := Option.map_eq_some_iff.1 found
    cases same
    have := length_closeBracket? found'
    simp only [List.length_cons]
    omega
  · split at found
    · cases found
    · obtain ⟨⟨inside, rest'⟩, found', same⟩ := Option.map_eq_some_iff.1 found
      cases same
      have := length_closeBracket? found'
      simp only [List.length_cons]
      omega
  · cases found

theorem length_dropWhile_le (p : Char → Bool) (cs : List Char) :
    (cs.dropWhile p).length ≤ cs.length :=
  (List.dropWhile_suffix p).length_le

def tokensFrom (position : Nat) (previous : Option Char) :
    List Char → Except PatternError (List Token)
  | [] => .ok []
  | c :: rest =>
    if c = '?' then (.anyChar :: ·) <$> tokensFrom (position + 1) (some c) rest
    else if c = '*' then
      let more := (rest.takeWhile (· == '*')).length
      if more = 0 then (.anySequence :: ·) <$> tokensFrom (position + 1) (some c) rest
      else if more = 1 then
        if previous = none ∨ previous = some '/' then
          match after : rest.dropWhile (· == '*') with
          | [] => .ok [.recursive]
          | next :: later =>
            if next = '/' then (.recursive :: ·) <$> tokensFrom (position + 3) (some next) later
            else .error ⟨position + 2, .recursiveWildcards⟩
        else .error ⟨position - 1, .recursiveWildcards⟩
      else .error ⟨position + 2, .wildcards⟩
    else if c = '[' then
      match found : range? rest with
      | some (token, after) =>
        (token :: ·) <$> tokensFrom (position + 1 + (rest.length - after.length)) (some ']') after
      | none => .error ⟨position, .invalidRange⟩
    else (.char c :: ·) <$> tokensFrom (position + 1) (some c) rest
  termination_by cs => cs.length
  decreasing_by
    · simp
    · simp
    · have := length_dropWhile_le (· == '*') rest
      simp only [after, List.length_cons] at this ⊢
      omega
    · have := length_range? found
      simp only [List.length_cons]
      omega
    · simp

def tokens (pattern : List Char) : Except PatternError (List Token) := tokensFrom 0 none pattern

def Token.accepts (token : Token) (c : Char) : Bool :=
  match token with
  | char c' => c == c'
  | anyChar => true
  | within ranges => ranges.any (·.contains c)
  | outside ranges => !ranges.any (·.contains c)
  | anySequence | recursive => false

/-- Puts a token before others, where it is known for each ending of a text, from the whole text to the
end of it, whether the others match that ending. -/
def Token.before (token : Token) : List Char → List Bool → List Bool
  | c :: cs, here :: after =>
    let later := token.before cs after
    let now :=
      if token = .anySequence then here || later.headD false
      else token.accepts c && after.headD false
    now :: later
  | _, atEnd => if token = .anySequence then atEnd else [false]

/-- For each ending of a text, from the whole text to the end of it, whether tokens match it. Each token
is looked at once for each character, however many sequences there are. -/
def matchedEndings : List Token → List Char → List Bool
  | [], cs => cs.map (fun _ => false) ++ [true]
  | t :: ts, cs => t.before cs (matchedEndings ts cs)

def matchesName (ts : List Token) (cs : List Char) : Bool := (matchedEndings ts cs).headD false

theorem matchedEndings_cons (ts : List Token) (c : Char) (cs : List Char) :
    matchedEndings ts (c :: cs) = matchesName ts (c :: cs) :: matchedEndings ts cs := by
  unfold matchesName
  induction ts with
  | nil => rfl
  | cons t ts ih =>
    simp only [matchedEndings]
    rw [ih, Token.before]
    rfl

theorem matchesName_anySequence_cons (ts : List Token) (c : Char) (cs : List Char) :
    matchesName (.anySequence :: ts) (c :: cs) =
      (matchesName ts (c :: cs) || matchesName (.anySequence :: ts) cs) := by
  simp only [matchesName, matchedEndings]
  rw [matchedEndings_cons, Token.before]
  simp [matchesName]

theorem matchesName_cons_cons {t : Token} (single : t ≠ .anySequence) (ts : List Token) (c : Char)
    (cs : List Char) : matchesName (t :: ts) (c :: cs) = (t.accepts c && matchesName ts cs) := by
  simp only [matchesName, matchedEndings]
  rw [matchedEndings_cons, Token.before]
  simp [single]

def literal? (ts : List Token) : Option String :=
  (ts.mapM fun token => match token with | Token.char c => some c | _ => none).map String.ofList

end TextQuest.Glob
