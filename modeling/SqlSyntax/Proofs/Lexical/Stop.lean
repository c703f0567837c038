import SqlSyntax.Proofs.Lexical.Extent

/-!
# Where lexemes end

A line feed, a space, a comma, a semicolon, a parenthesis or a slash ends every lexeme before it
that is not quoted: what follows such a character does not change which lexemes stand in front of
it. A quoted text goes on over such characters, so there the end must have been found before.
-/

namespace SqlSyntax

namespace Lexeme

/-- The characters that no lexeme goes on with unless it is quoted. -/
def stops : List Char :=
  [' ', '\n', ',', ';', '(', ')', '/']

theorem holds_of_mem_stops {p : Char → Bool} (all : stops.all p = true) {x : Char}
    (stop : x ∈ stops) : p x = true :=
  List.all_eq_true.mp all x stop

theorem isDigit_of_mem_stops {x : Char} (stop : x ∈ stops) : Text.isDigit x = false := by
  simpa using holds_of_mem_stops (p := fun x => !Text.isDigit x) (by decide) stop

theorem isWordChar_of_mem_stops {x : Char} (stop : x ∈ stops) : Text.isWordChar x = false := by
  simpa using holds_of_mem_stops (p := fun x => !Text.isWordChar x) (by decide) stop

theorem foldLetter_of_mem_stops {x : Char} (stop : x ∈ stops) : foldLetter x = x := by
  simpa using holds_of_mem_stops (p := fun x => foldLetter x == x) (by decide) stop

theorem isNameChar_of_mem_stops {x : Char} (stop : x ∈ stops) : isNameChar x = false := by
  simpa using holds_of_mem_stops (p := fun x => !isNameChar x) (by decide) stop

theorem isNameStart_of_mem_stops {x : Char} (stop : x ∈ stops) : isNameStart x = false := by
  simpa using holds_of_mem_stops (p := fun x => !isNameStart x) (by decide) stop

theorem ne_of_mem_stops {x c : Char} (stop : x ∈ stops) (other : c ∉ stops) : x ≠ c :=
  ne_of_mem_of_not_mem stop other

theorem take_runLength (p : Char → Bool) (cs : List Char) :
    cs.take (runLength p cs) = cs.takeWhile p :=
  (List.prefix_iff_eq_take.mp (List.takeWhile_prefix p)).symm

theorem drop_runLength (p : Char → Bool) (cs : List Char) :
    cs.drop (runLength p cs) = cs.dropWhile p := by
  have whole := congrArg (List.drop (runLength p cs))
    (List.takeWhile_append_dropWhile (p := p) (l := cs))
  rw [← whole, runLength, List.drop_left]

variable {x : Char} {r : List Char}

theorem takeWhile_append (p : Char → Bool) (ends : p x = false) (cs : List Char) :
    (cs ++ x :: r).takeWhile p = cs.takeWhile p := by
  induction cs with
  | nil => simp [ends]
  | cons c cs ih =>
    by_cases holds : p c = true
    · simp [holds, ih]
    · simp [holds]

theorem runLength_append (p : Char → Bool) (ends : p x = false) (cs : List Char) :
    runLength p (cs ++ x :: r) = runLength p cs := by
  unfold runLength
  rw [takeWhile_append p ends]

/-! ### Words and symbols -/

theorem spelled?_append {word : List Char} (ends : foldLetter x ∉ word) (cs : List Char) :
    spelled? word (cs ++ x :: r) = (spelled? word cs).map (· ++ x :: r) := by
  induction word generalizing cs with
  | nil => simp [spelled?]
  | cons w word ih =>
    have other := List.ne_of_not_mem_cons ends
    have ends := List.not_mem_of_not_mem_cons ends
    cases cs with
    | nil => simp [spelled?, other]
    | cons c cs =>
      simp only [List.cons_append, spelled?]
      split
      · exact ih ends cs
      · rfl

theorem wordLength?_append {word : String} (ends : foldLetter x ∉ word.toList)
    (stop : Text.isWordChar x = false) (cs : List Char) :
    wordLength? word (cs ++ x :: r) = wordLength? word cs := by
  unfold wordLength?
  rw [spelled?_append ends]
  cases spelled? word.toList cs with
  | none => rfl
  | some left =>
    cases left with
    | nil => simp [stop]
    | cons c left => rfl

theorem isPrefixOf_append {word : List Char} (ends : x ∉ word) (cs : List Char) :
    word.isPrefixOf (cs ++ x :: r) = word.isPrefixOf cs := by
  induction word generalizing cs with
  | nil => simp
  | cons w word ih =>
    have other := List.ne_of_not_mem_cons ends
    have ends := List.not_mem_of_not_mem_cons ends
    cases cs with
    | nil => simp [List.isPrefixOf, Ne.symm other]
    | cons c cs =>
      simp only [List.cons_append, List.isPrefixOf]
      rw [ih ends]

theorem symbolLength?_append {symbol : String} (ends : x ∉ symbol.toList.tail) (c : Char)
    (cs : List Char) : symbolLength? symbol (c :: cs ++ x :: r) =
      symbolLength? symbol (c :: cs) := by
  have same : symbol.toList.isPrefixOf (c :: cs ++ x :: r) =
      symbol.toList.isPrefixOf (c :: cs) := by
    cases spelling : symbol.toList with
    | nil => rfl
    | cons s tail =>
      rw [spelling, List.tail_cons] at ends
      simp only [List.cons_append, List.isPrefixOf]
      rw [isPrefixOf_append ends]
  unfold symbolLength?
  rw [same]

theorem nameLength?_append (stop : x ∈ stops) (cs : List Char) :
    nameLength? (cs ++ x :: r) = nameLength? cs := by
  have letter := foldLetter_of_mem_stops stop
  have ends : isNameChar (foldLetter x) = false := by rw [letter, isNameChar_of_mem_stops stop]
  cases cs with
  | nil => simp [nameLength?, letter, isNameStart_of_mem_stops stop]
  | cons c cs =>
    have same := takeWhile_append (r := r) (isNameChar ∘ foldLetter) ends (c :: cs)
    simp only [Function.comp_def, List.cons_append] at same
    simp only [List.cons_append, nameLength?, same]

theorem variableLength?_append (stop : x ∈ stops) (cs : List Char) :
    variableLength? (cs ++ x :: r) = variableLength? cs := by
  have start := isNameStart_of_mem_stops stop
  have ends : (isNameChar x || x == '.') = false := by
    simp [isNameChar_of_mem_stops stop, ne_of_mem_stops stop (c := '.') (by decide)]
  have tail (cs : List Char) : runLength (fun c => isNameChar c || c == '.') (cs ++ x :: r) =
      runLength (fun c => isNameChar c || c == '.') cs := runLength_append _ ends cs
  have other : x ≠ '@' := ne_of_mem_stops stop (by decide)
  match cs with
  | [] => simp [variableLength?, other]
  | [c] =>
    by_cases first : c = '@'
    · simp [variableLength?, first, start, other]
    · simp [variableLength?, first]
  | [c, d] =>
    by_cases first : c = '@'
    · by_cases second : d = '@'
      · simp [variableLength?, first, second, start]
        decide
      · have := tail []
        simp only [List.nil_append] at this
        simp [variableLength?, first, second, this]
    · simp [variableLength?, first]
  | c :: d :: e :: cs =>
    by_cases first : c = '@'
    · by_cases second : d = '@'
      · simp [variableLength?, first, second, tail]
      · have := tail (e :: cs)
        simp only [List.cons_append] at this
        simp [variableLength?, first, second, this]
    · simp [variableLength?, first]

/-! ### Numbers -/

theorem exponentLength_append (stop : x ∈ stops) (cs : List Char) :
    exponentLength (cs ++ x :: r) = exponentLength cs := by
  have ends := isDigit_of_mem_stops stop
  have letter : (x == 'e' || x == 'E') = false := by
    simp [ne_of_mem_stops stop (c := 'e') (by decide), ne_of_mem_stops stop (c := 'E') (by decide)]
  have sign : (x == '-' || x == '+') = false := by
    simp [ne_of_mem_stops stop (c := '-') (by decide), ne_of_mem_stops stop (c := '+') (by decide)]
  match cs with
  | [] => simp [exponentLength, letter]
  | [e] => simp [exponentLength, sign, runLength, ends]
  | e :: s :: digits =>
    have whole := runLength_append (r := r) _ ends (s :: digits)
    simp only [List.cons_append] at whole
    simp only [List.cons_append, exponentLength, runLength_append _ ends, whole]

theorem mantissaLength?_append (stop : x ∈ stops) (cs : List Char) :
    mantissaLength? (cs ++ x :: r) = mantissaLength? cs := by
  have ends := isDigit_of_mem_stops stop
  have point : x ≠ '.' := ne_of_mem_stops stop (by decide)
  unfold mantissaLength?
  dsimp only
  rw [runLength_append _ ends, List.drop_append_of_le_length (runLength_le _ _)]
  cases cs.drop (runLength Text.isDigit cs) with
  | nil => simp [point]
  | cons c left =>
    by_cases dot : c = '.'
    · simp [dot, runLength_append _ ends]
    · simp [dot]

theorem numberLength?_append (stop : x ∈ stops) (cs : List Char) :
    numberLength? (cs ++ x :: r) = numberLength? cs := by
  unfold numberLength?
  rw [mantissaLength?_append stop]
  split
  · rename_i n found
    rw [List.drop_append_of_le_length (mantissaLength?_within found).2, exponentLength_append stop]
  · rfl

theorem basedLength?_append {mark : Char} {p : Char → Bool} (base : p x = false)
    (marked : x ≠ mark) (stop : x ∈ stops) (c : Char) (cs : List Char) :
    basedLength? mark p (c :: cs ++ x :: r) = basedLength? mark p (c :: cs) := by
  have quote : x ≠ Text.singleQuote := ne_of_mem_stops stop (by decide)
  have name := isNameChar_of_mem_stops stop
  cases cs with
  | nil =>
    by_cases zero : c = '0'
    · simp [basedLength?, zero, marked]
    · simp [basedLength?, quote]
  | cons d cs =>
    -- The digits end inside `cs` or at `x`, which neither continues the word nor closes a quote.
    have digits := runLength_append (r := r) p base cs
    have left : (cs ++ x :: r).drop (runLength p cs) = cs.drop (runLength p cs) ++ x :: r :=
      List.drop_append_of_le_length (runLength_le p cs)
    by_cases zero : c = '0'
    · simp only [zero, List.cons_append, basedLength?, digits, left]
      cases cs.drop (runLength p cs) <;> simp [name]
    · simp only [List.cons_append]
      rw [basedLength?, basedLength?, digits, left]
      · cases cs.drop (runLength p cs) <;> simp [quote]
      · exact zero
      · exact zero

/-! ### Operators -/

theorem comparisonLength?_append (stop : x ∈ stops) (c : Char) (cs : List Char) :
    comparisonLength? (c :: cs ++ x :: r) = comparisonLength? (c :: cs) := by
  have equals : x ≠ '=' := ne_of_mem_stops stop (by decide)
  have greater : x ≠ '>' := ne_of_mem_stops stop (by decide)
  by_cases less : c = '<'
  · subst less
    match cs with
    | [] => simp [comparisonLength?, equals, greater]
    | [d] =>
      by_cases second : d = '='
      · simp [comparisonLength?, second, greater]
      · by_cases third : d = '>' <;> simp [comparisonLength?, second, third]
    | d :: e :: cs =>
      by_cases second : d = '='
      · by_cases third : e = '>' <;> simp [comparisonLength?, second, third]
      · by_cases third : d = '>' <;> simp [comparisonLength?, second, third]
  · match cs with
    | [] => by_cases more : c = '>' <;> simp [comparisonLength?, less, more, equals]
    | d :: cs =>
      by_cases more : c = '>'
      · by_cases second : d = '=' <;> simp [comparisonLength?, more, second]
      · by_cases bang : c = '!' <;> by_cases second : d = '=' <;>
          simp [comparisonLength?, less, more, bang, second]

theorem shiftLength?_append (stop : x ∈ stops) (c : Char) (cs : List Char) :
    shiftLength? (c :: cs ++ x :: r) = shiftLength? (c :: cs) := by
  have less : x ≠ '<' := ne_of_mem_stops stop (by decide)
  have greater : x ≠ '>' := ne_of_mem_stops stop (by decide)
  cases cs with
  | nil => simp [shiftLength?, less, greater]
  | cons d cs =>
    by_cases left : c = '<'
    · by_cases again : d = '<' <;> simp [shiftLength?, left, again]
    · by_cases right : c = '>' <;> by_cases again : d = '>' <;>
        simp [shiftLength?, left, right, again]

end Lexeme

theorem findSome?_congr {α β : Type} {f g : α → Option β} {xs : List α}
    (same : ∀ a ∈ xs, f a = g a) : xs.findSome? f = xs.findSome? g := by
  induction xs with
  | nil => rfl
  | cons a xs ih =>
    rw [List.findSome?_cons, List.findSome?_cons, same a List.mem_cons_self,
      ih fun b later => same b (List.mem_cons_of_mem a later)]

namespace Terminal

theorem stop_not_mem_word {t : Terminal} {word : String} (spells : word ∈ t.words) {x : Char}
    (stop : x ∈ Lexeme.stops) : x ∉ word.toList := by
  intro member
  have plain := Lexeme.holds_of_mem_stops (p := fun x => !(x.isLower || x == '_')) (by decide) stop
  simp [small_of_mem_word spells member] at plain

theorem stop_not_mem_symbol_tail {t : Terminal} {symbol : String} (spells : t.symbol? = some symbol)
    {x : Char} (stop : x ∈ Lexeme.stops) : x ∉ symbol.toList.tail := by
  have all : ∀ t : Terminal,
      (t.symbol?.all fun s => Lexeme.stops.all fun x => !s.toList.tail.contains x) = true := by
    decide +kernel
  have symbol := all t
  rw [spells, Option.all_some] at symbol
  simpa using Lexeme.holds_of_mem_stops symbol stop

/-- A terminal that is not quoted. -/
def isBare (t : Terminal) : Bool :=
  t != .string && t != .quotedName

theorem findSome?_wordLength?_append {t : Terminal} {x : Char} (stop : x ∈ Lexeme.stops)
    (cs r : List Char) :
    t.words.findSome? (Lexeme.wordLength? · (cs ++ x :: r)) =
      t.words.findSome? (Lexeme.wordLength? · cs) := by
  apply findSome?_congr
  intro word spells
  apply Lexeme.wordLength?_append
  · rw [Lexeme.foldLetter_of_mem_stops stop]
    exact stop_not_mem_word spells stop
  · exact Lexeme.isWordChar_of_mem_stops stop

theorem bind_symbolLength?_append {t : Terminal} {x : Char} (stop : x ∈ Lexeme.stops) (c : Char)
    (cs r : List Char) :
    t.symbol?.bind (Lexeme.symbolLength? · (c :: cs ++ x :: r)) =
      t.symbol?.bind (Lexeme.symbolLength? · (c :: cs)) := by
  cases spells : t.symbol? with
  | none => rfl
  | some symbol => exact Lexeme.symbolLength?_append (stop_not_mem_symbol_tail spells stop) c cs

theorem lexemeLength?_append {t : Terminal} (bare : t.isBare = true) {x : Char}
    (stop : x ∈ Lexeme.stops) (c : Char) (cs r : List Char) :
    t.lexemeLength? (c :: cs ++ x :: r) = t.lexemeLength? (c :: cs) := by
  have hex : Lexeme.isHexDigit x = false := by
    simpa using Lexeme.holds_of_mem_stops (p := fun x => !Lexeme.isHexDigit x) (by decide) stop
  have bit : Lexeme.isBitDigit x = false := by
    simpa using Lexeme.holds_of_mem_stops (p := fun x => !Lexeme.isBitDigit x) (by decide) stop
  unfold lexemeLength?
  split
  · exact Lexeme.numberLength?_append stop (c :: cs)
  · exact Lexeme.basedLength?_append hex (Lexeme.ne_of_mem_stops stop (by decide)) stop c cs
  · exact Lexeme.basedLength?_append bit (Lexeme.ne_of_mem_stops stop (by decide)) stop c cs
  · simp [isBare] at bare
  · exact Lexeme.nameLength?_append stop (c :: cs)
  · simp [isBare] at bare
  · exact Lexeme.variableLength?_append stop (c :: cs)
  · exact Lexeme.comparisonLength?_append stop c cs
  · exact Lexeme.shiftLength?_append stop c cs
  · rfl
  · rw [findSome?_wordLength?_append stop, bind_symbolLength?_append stop]

/-! ### First characters -/

/-- A lexeme of the terminal can start with `c`. -/
def starts (t : Terminal) (c : Char) : Bool :=
  match t with
  | .number => Text.isDigit c || c == '.'
  | .hexNumber => c == '0' || c.toLower == 'x'
  | .bitNumber => c == '0' || c.toLower == 'b'
  | .string => c == Text.singleQuote || c == Text.doubleQuote
  | .name => Lexeme.isNameStart (Lexeme.foldLetter c)
  | .quotedName => c == Text.backQuote
  | .variableName => c == '@'
  | .comparison => c == '<' || c == '>' || c == '!'
  | .shift => c == '<' || c == '>'
  | .endOfInput => false
  | t =>
    t.words.any (fun word => word.toList.head? == some (Lexeme.foldLetter c)) ||
      t.symbol?.any fun symbol => symbol.toList.head? == some c

/-- No word has the character, in whatever case. -/
def isMark (c : Char) : Bool :=
  !((Lexeme.foldLetter c).isLower || Lexeme.foldLetter c == '_')

/-- Words aside, what a lexeme of the terminal can start with. -/
def startsUnspelled (t : Terminal) (c : Char) : Bool :=
  if t.words.isEmpty then t.starts c
  else t.symbol?.any fun symbol => symbol.toList.head? == some c

theorem starts_of_isMark {c : Char} (mark : isMark c = true) (t : Terminal) :
    t.starts c = t.startsUnspelled c := by
  rw [startsUnspelled]
  split
  · rfl
  · rename_i keyword
    have unspelled : (t.words.any fun word => word.toList.head? == some (Lexeme.foldLetter c)) =
        false := by
      rw [List.any_eq_false]
      intro word spells first
      have member := List.mem_of_head? (eq_of_beq first)
      simp [isMark, small_of_mem_word spells member] at mark
    unfold starts
    split
    all_goals first
      | exact absurd rfl keyword
      | rw [unspelled, Bool.false_or]

theorem head?_of_wordLength? {word : String} {c : Char} {cs : List Char} {n : Nat}
    (spells : 0 < word.length) (found : Lexeme.wordLength? word (c :: cs) = some n) :
    word.toList.head? = some (Lexeme.foldLetter c) := by
  unfold Lexeme.wordLength? at found
  cases spelling : word.toList with
  | nil =>
    have : word.toList.length = word.length := String.length_toList
    rw [spelling, List.length_nil] at this
    omega
  | cons w tail =>
    rw [spelling, Lexeme.spelled?] at found
    by_cases same : Lexeme.foldLetter c = w
    · simp [same]
    · simp [same] at found

theorem head?_of_symbolLength? {symbol : String} {c : Char} {cs : List Char} {n : Nat}
    (spells : 0 < symbol.length) (found : Lexeme.symbolLength? symbol (c :: cs) = some n) :
    symbol.toList.head? = some c := by
  unfold Lexeme.symbolLength? at found
  cases spelling : symbol.toList with
  | nil =>
    have : symbol.toList.length = symbol.length := String.length_toList
    rw [spelling, List.length_nil] at this
    omega
  | cons s tail =>
    rw [spelling, List.isPrefixOf] at found
    by_cases same : s = c
    · simp [same]
    · simp [same] at found

theorem starts_number {c : Char} {cs : List Char} {n : Nat}
    (found : Lexeme.numberLength? (c :: cs) = some n) : Terminal.number.starts c = true := by
  by_cases digit : Text.isDigit c = true
  · simp [starts, digit]
  · by_cases point : c = '.'
    · simp [starts, point]
    · simp [Lexeme.numberLength?, Lexeme.mantissaLength?, Lexeme.runLength, digit, point] at found

theorem starts_based {mark : Char} {p : Char → Bool} {c : Char} {cs : List Char} {n : Nat}
    (found : Lexeme.basedLength? mark p (c :: cs) = some n) :
    (c == '0' || c.toLower == mark) = true := by
  by_cases zero : c = '0'
  · simp [zero]
  · cases cs with
    | nil => simp [Lexeme.basedLength?] at found
    | cons d cs =>
      rw [Lexeme.basedLength?] at found
      · split_ifs at found with marked
        simp [marked.1]
      · exact zero

theorem starts_variable {c : Char} {cs : List Char} {n : Nat}
    (found : Lexeme.variableLength? (c :: cs) = some n) :
    Terminal.variableName.starts c = true := by
  by_cases first : c = '@'
  · simp [starts, first]
  · simp [Lexeme.variableLength?, first] at found

theorem starts_comparison {c : Char} {cs : List Char} {n : Nat}
    (found : Lexeme.comparisonLength? (c :: cs) = some n) :
    Terminal.comparison.starts c = true := by
  unfold Lexeme.comparisonLength? at found
  split at found <;> simp_all [starts]

theorem starts_shift {c : Char} {cs : List Char} {n : Nat}
    (found : Lexeme.shiftLength? (c :: cs) = some n) : Terminal.shift.starts c = true := by
  unfold Lexeme.shiftLength? at found
  split at found <;> simp_all [starts]

theorem starts_spelling {t : Terminal} {c : Char} {cs : List Char} {n : Nat}
    (found : (match t.words.findSome? (Lexeme.wordLength? · (c :: cs)) with
      | some n => some n
      | none => t.symbol?.bind (Lexeme.symbolLength? · (c :: cs))) = some n) :
    (t.words.any (fun word => word.toList.head? == some (Lexeme.foldLetter c)) ||
      t.symbol?.any fun symbol => symbol.toList.head? == some c) = true := by
  rw [Bool.or_eq_true]
  split at found
  · rename_i m spelled
    obtain ⟨word, member, ahead⟩ := List.exists_of_findSome?_eq_some spelled
    refine .inl (List.any_eq_true.mpr ⟨word, member, ?_⟩)
    rw [head?_of_wordLength? (word_length_pos member) ahead, beq_self_eq_true]
  · obtain ⟨symbol, spells, ahead⟩ := Option.bind_eq_some_iff.mp found
    right
    rw [spells, Option.any_some, head?_of_symbolLength? (symbol_length_pos spells) ahead,
      beq_self_eq_true]

theorem starts_of_lexemeLength? {t : Terminal} {c : Char} {cs : List Char} {n : Nat}
    (found : t.lexemeLength? (c :: cs) = some n) : t.starts c = true := by
  unfold lexemeLength? at found
  split at found
  · exact starts_number found
  · exact starts_based found
  · exact starts_based found
  · simp only [Lexeme.stringLength?] at found
    split_ifs at found with quoted
    simpa [starts] using quoted
  · simp only [Lexeme.nameLength?] at found
    split_ifs at found with start
    exact start
  · simp only [Lexeme.quotedNameLength?] at found
    split_ifs at found with quoted
    simpa [starts] using quoted
  · exact starts_variable found
  · exact starts_comparison found
  · exact starts_shift found
  · simp at found
  · rename_i others
    rw [starts]
    · exact starts_spelling found
    all_goals assumption

theorem lexemeLength?_eq_none {t : Terminal} {c : Char} (other : t.starts c = false)
    (cs : List Char) : t.lexemeLength? (c :: cs) = none := by
  cases found : t.lexemeLength? (c :: cs) with
  | none => rfl
  | some n => rw [starts_of_lexemeLength? found] at other; cases other

end Terminal

end SqlSyntax
