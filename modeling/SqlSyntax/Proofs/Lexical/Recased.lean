import SqlSyntax.Proofs.Lexical.Found
import SqlSyntax.Proofs.Lexical.Tokens

/-!
# Letters in another case

Almost nothing that is looked for in a text depends on the case of its letters. The exception is the
mark between the zero and the digits of a hexadecimal or bit number, which is a small letter; but no
keyword that starts with such a letter goes on with a digit of that base.
-/

namespace SqlSyntax

namespace Text

theorem toLower_of_large {c : Char} (large : 128 ≤ c.toNat) : c.toLower = c := by
  unfold Char.toLower
  refine dif_neg fun upper => ?_
  have bound : c.toNat ≤ 90 := UInt32.le_iff_toNat_le.mp upper.2
  omega

/-- What holds of both cases of the ASCII letters does not depend on the case of any character. -/
theorem toLower_blind {α : Type} [DecidableEq α] (p : Char → α)
    (small : ∀ n < 128, p (Char.ofNat n).toLower = p (Char.ofNat n)) (c : Char) :
    p c.toLower = p c := by
  by_cases ascii : c.toNat < 128
  · exact holds_of_small (p := fun c => p c.toLower = p c) ascii small
  · rw [toLower_of_large (by omega)]

theorem toLower_eq_iff {k : Char} (plain : k.isAlpha = false) {c : Char} :
    c.toLower = k ↔ c = k := by
  by_cases ascii : c.toNat < 128
  · have cases := holds_of_small (p := fun c => c.toLower = c ∨
      c.isAlpha = true ∧ c.toLower.isAlpha = true) ascii (by decide)
    obtain same | ⟨letter, lower⟩ := cases
    · rw [same]
    · refine iff_of_false ?_ ?_ <;>
        · rintro rfl
          simp_all
  · rw [toLower_of_large (by omega)]

end Text

namespace Lexeme

open Text (toLower_blind toLower_eq_iff)

/-- The text with its ASCII letters in lower case. -/
def lowered (cs : List Char) : List Char :=
  cs.map Char.toLower

@[simp]
theorem lowered_nil : lowered [] = [] :=
  rfl

@[simp]
theorem lowered_cons (c : Char) (cs : List Char) : lowered (c :: cs) = c.toLower :: lowered cs :=
  rfl

@[simp]
theorem lowered_append (cs ds : List Char) : lowered (cs ++ ds) = lowered cs ++ lowered ds :=
  List.map_append

@[simp]
theorem length_lowered (cs : List Char) : (lowered cs).length = cs.length :=
  List.length_map _

theorem drop_lowered (cs : List Char) (n : Nat) : (lowered cs).drop n = lowered (cs.drop n) :=
  List.map_drop.symm

theorem length_of_lowered {cs ds : List Char} (same : lowered cs = lowered ds) :
    cs.length = ds.length := by
  rw [← length_lowered, same, length_lowered]

theorem runLength_lowered {p : Char → Bool} (blind : ∀ c : Char, p c.toLower = p c)
    (cs : List Char) : runLength p (lowered cs) = runLength p cs := by
  unfold runLength lowered
  rw [List.takeWhile_map, List.length_map, show p ∘ Char.toLower = p from funext blind]

theorem any_head?_lowered {p : Char → Bool} (blind : ∀ c : Char, p c.toLower = p c)
    (cs : List Char) : (lowered cs).head?.any p = cs.head?.any p := by
  cases cs with
  | nil => rfl
  | cons c cs => exact blind c

theorem head?_lowered {k : Char} (plain : k.isAlpha = false) (cs : List Char) :
    (lowered cs).head? = some k ↔ cs.head? = some k := by
  cases cs with
  | nil => simp
  | cons c cs => simp [toLower_eq_iff plain]

/-! ### Character classes -/

theorem foldLetter_toLower (c : Char) : foldLetter c.toLower = foldLetter c :=
  toLower_blind foldLetter (by decide) c

theorem isNameStart_toLower (c : Char) : isNameStart c.toLower = isNameStart c :=
  toLower_blind isNameStart (by decide) c

theorem isNameChar_toLower (c : Char) : isNameChar c.toLower = isNameChar c :=
  toLower_blind isNameChar (by decide) c

theorem isWordChar_toLower (c : Char) : Text.isWordChar c.toLower = Text.isWordChar c :=
  toLower_blind Text.isWordChar (by decide) c

theorem isDigit_toLower (c : Char) : Text.isDigit c.toLower = Text.isDigit c :=
  toLower_blind Text.isDigit (by decide) c

theorem isHexDigit_toLower (c : Char) : isHexDigit c.toLower = isHexDigit c :=
  toLower_blind isHexDigit (by decide) c

theorem isBitDigit_toLower (c : Char) : isBitDigit c.toLower = isBitDigit c :=
  toLower_blind isBitDigit (by decide) c

theorem isLayout_toLower (c : Char) : Text.isLayout c.toLower = Text.isLayout c :=
  toLower_blind Text.isLayout (by decide) c

theorem isBlank_toLower (c : Char) : Text.isBlank c.toLower = Text.isBlank c :=
  toLower_blind Text.isBlank (by decide) c

/-! ### Words and symbols -/

theorem spelled?_lowered (word cs : List Char) :
    spelled? word (lowered cs) = (spelled? word cs).map lowered := by
  induction word generalizing cs with
  | nil => rfl
  | cons w word ih =>
    cases cs with
    | nil => rfl
    | cons c cs =>
      rw [lowered_cons, spelled?, spelled?, foldLetter_toLower, ih]
      split <;> rfl

theorem wordLength?_lowered (word : String) (cs : List Char) :
    wordLength? word (lowered cs) = wordLength? word cs := by
  unfold wordLength?
  rw [spelled?_lowered]
  cases spelled? word.toList cs with
  | none => rfl
  | some rest =>
    cases rest with
    | nil => rfl
    | cons c rest => simp only [Option.map_some, lowered_cons, isWordChar_toLower]

theorem isPrefixOf_lowered {word : List Char} (plain : word.all (!·.isAlpha) = true)
    (cs : List Char) : word.isPrefixOf (lowered cs) = word.isPrefixOf cs := by
  induction word generalizing cs with
  | nil => rfl
  | cons w word ih =>
    rw [List.all_cons, Bool.and_eq_true] at plain
    cases cs with
    | nil => rfl
    | cons c cs =>
      have head : (w == c.toLower) = (w == c) := by
        rw [Bool.eq_iff_iff, beq_iff_eq, beq_iff_eq, eq_comm,
          toLower_eq_iff (by simpa using plain.1), eq_comm]
      rw [lowered_cons, List.isPrefixOf, List.isPrefixOf, head, ih plain.2]

theorem nameLength?_lowered (cs : List Char) : nameLength? (lowered cs) = nameLength? cs := by
  apply nameLength?_congr
  simp [lowered, foldLetter_toLower]

theorem variableLength?_lowered (cs : List Char) :
    variableLength? (lowered cs) = variableLength? cs := by
  have at_iff {c : Char} : c.toLower = '@' ↔ c = '@' := toLower_eq_iff (by decide)
  have blind (c : Char) : (isNameChar c.toLower || c.toLower == '.') = (isNameChar c || c == '.') :=
    toLower_blind (fun c => isNameChar c || c == '.') (by decide) c
  have run (cs : List Char) := runLength_lowered (p := fun c => isNameChar c || c == '.') blind cs
  match cs with
  | [] => rfl
  | [c] => by_cases first : c = '@' <;> simp [variableLength?, first, at_iff]
  | [c, d] =>
    by_cases first : c = '@'
    · subst first
      by_cases second : d = '@'
      · subst second
        rfl
      · have := run []
        simp_all [variableLength?, isNameStart_toLower]
    · simp [variableLength?, first, at_iff]
  | c :: d :: e :: cs =>
    by_cases first : c = '@'
    · subst first
      by_cases second : d = '@'
      · subst second
        have := run cs
        simp_all [variableLength?, isNameStart_toLower]
      · have := run (e :: cs)
        simp_all [variableLength?, isNameStart_toLower]
    · simp [variableLength?, first, at_iff]

/-! ### Numbers -/

theorem exponentLength_lowered (cs : List Char) :
    exponentLength (lowered cs) = exponentLength cs := by
  have mark (c : Char) : (c.toLower == 'e' || c.toLower == 'E') = (c == 'e' || c == 'E') :=
    toLower_blind (fun c => c == 'e' || c == 'E') (by decide) c
  have sign (c : Char) : (c.toLower == '-' || c.toLower == '+') = (c == '-' || c == '+') :=
    toLower_blind (fun c => c == '-' || c == '+') (by decide) c
  have run (cs : List Char) := runLength_lowered isDigit_toLower cs
  match cs with
  | [] => rfl
  | [e] => simp [exponentLength]
  | e :: s :: digits =>
    have whole := run (s :: digits)
    rw [lowered_cons] at whole
    simp only [lowered_cons, exponentLength, mark, sign, run, whole]

theorem mantissaLength?_lowered (cs : List Char) :
    mantissaLength? (lowered cs) = mantissaLength? cs := by
  have point {c : Char} : c.toLower = '.' ↔ c = '.' := toLower_eq_iff (by decide)
  unfold mantissaLength?
  dsimp only
  rw [runLength_lowered isDigit_toLower, drop_lowered]
  cases cs.drop (runLength Text.isDigit cs) with
  | nil => rfl
  | cons c rest =>
    by_cases dot : c = '.'
    · subst dot
      rw [lowered_cons, show '.'.toLower = '.' by decide]
      simp only [runLength_lowered isDigit_toLower]
    · have dot' : c.toLower ≠ '.' := mt point.mp dot
      simp [dot, dot']

theorem numberLength?_lowered (cs : List Char) :
    numberLength? (lowered cs) = numberLength? cs := by
  unfold numberLength?
  rw [mantissaLength?_lowered]
  cases mantissaLength? cs with
  | none => rfl
  | some n => simp only [drop_lowered, exponentLength_lowered]

/-- The text does not start with a mark and a digit of its base. -/
def Unmarked (cs : List Char) : Prop :=
  ∀ m c rest, cs = m :: c :: rest →
    ¬(m.toLower = 'x' ∧ isHexDigit c = true) ∧ ¬(m.toLower = 'b' ∧ isBitDigit c = true)

theorem basedLength?_congr {mark : Char} {p : Char → Bool} {cs ds : List Char}
    (blind : ∀ c : Char, p c.toLower = p c) (same : lowered cs = lowered ds)
    (marks : ∀ tail, cs = '0' :: tail → tail.head? = ds.tail.head? ∨
      ∀ m c rest, tail = m :: c :: rest → ¬(m.toLower = mark ∧ p c = true))
    (small : mark.toLower = mark) :
    basedLength? mark p cs = basedLength? mark p ds := by
  have zero {c d : Char} (letter : c.toLower = d.toLower) : c = '0' ↔ d = '0' := by
    rw [← toLower_eq_iff (by decide), letter, toLower_eq_iff (by decide)]
  have run {cs ds : List Char} (same : lowered cs = lowered ds) : runLength p cs =
      runLength p ds := by
    rw [← runLength_lowered blind, same, runLength_lowered blind]
  have later {cs ds : List Char} (same : lowered cs = lowered ds) (n : Nat) :
      lowered (cs.drop n) = lowered (ds.drop n) := by
    rw [← drop_lowered, same, drop_lowered]
  match cs, ds with
  | [], ds =>
    obtain rfl : ds = [] := List.length_eq_zero_iff.mp (length_of_lowered same).symm
    rfl
  | [c], ds =>
    obtain ⟨d, rfl⟩ := List.length_eq_one_iff.mp (length_of_lowered same).symm
    by_cases first : c = '0' <;> simp [basedLength?]
  | c :: m :: cs, [] => simp at same
  | c :: m :: cs, [d] => simp at same
  | c :: m :: cs, d :: m' :: ds =>
    simp only [lowered_cons, List.cons.injEq] at same
    obtain ⟨first, second, rest⟩ := same
    have quoted : (cs.drop (runLength p cs)).head? = some Text.singleQuote ↔
        (ds.drop (runLength p cs)).head? = some Text.singleQuote := by
      rw [← head?_lowered (by decide), later rest, head?_lowered (by decide)]
    have ended : (cs.drop (runLength p cs)).head?.any isNameChar =
        (ds.drop (runLength p cs)).head?.any isNameChar := by
      rw [← any_head?_lowered isNameChar_toLower, later rest, any_head?_lowered isNameChar_toLower]
    have second_quote : m = Text.singleQuote ↔ m' = Text.singleQuote := by
      rw [← toLower_eq_iff (by decide), second, toLower_eq_iff (by decide)]
    by_cases begins : c = '0'
    · obtain rfl := (zero first).mp begins
      subst begins
      rw [basedLength?, basedLength?, ← run rest, ended]
      obtain alike | unmarked := marks _ rfl
      · simp only [List.head?_cons, List.tail_cons, Option.some.injEq] at alike
        rw [alike]
      · -- No digit follows, so neither text has a number here.
        have none_ahead (n : Nat) (follows : runLength p cs = n) (letter : m.toLower = mark) :
            n = 0 := by
          cases cs with
          | nil => simpa [runLength] using follows.symm
          | cons e cs =>
            have := unmarked m e cs rfl
            have absent : p e = false := by simpa [letter] using this
            simpa [runLength, absent] using follows.symm
        have lower {k : Char} (equal : k = mark) (letter : k.toLower = m.toLower) :
            runLength p cs = 0 := by
          refine none_ahead _ rfl ?_
          rw [← letter, equal, small]
        rw [if_neg, if_neg]
        · rintro ⟨equal, positive, _⟩
          have := lower equal second.symm
          omega
        · rintro ⟨equal, positive, _⟩
          have := lower equal rfl
          omega
    · have begins' : d ≠ '0' := mt (zero first).mpr begins
      rw [basedLength?, basedLength?, ← run rest]
      · simp only [first, second_quote, quoted]
      · exact begins'
      · exact begins

/-! ### Quoted text -/

theorem closing_lowered {quote : Char} (plain : quote.isAlpha = false) (escapes : Bool)
    (least : Nat) (cs : List Char) (taken : Nat) (last : Option Nat) :
    closing quote escapes least (lowered cs) taken last =
      closing quote escapes least cs taken last := by
  have quote_iff {c : Char} : c.toLower = quote ↔ c = quote := toLower_eq_iff plain
  have slash_iff {c : Char} : c.toLower = Text.backslash ↔ c = Text.backslash :=
    toLower_eq_iff (by decide)
  fun_induction closing quote escapes least cs taken last with
  | case1 => rfl
  | case2 c taken last ends => simp [closing, quote_iff, ends]
  | case3 c taken last goes => simp [closing, quote_iff, goes]
  | case4 rest taken last ih =>
    have self : quote.toLower = quote := quote_iff.mpr rfl
    simpa [closing, self] using ih
  | case5 d rest taken last different enough =>
    have self : quote.toLower = quote := quote_iff.mpr rfl
    simp [closing, self, quote_iff, different, enough]
  | case6 d rest taken last different short =>
    have self : quote.toLower = quote := quote_iff.mpr rfl
    simp [closing, self, quote_iff, different, short]
  | case7 c d rest taken last ordinary escaped ih =>
    rw [lowered_cons, lowered_cons, closing, if_neg (mt quote_iff.mp ordinary),
      if_pos ⟨slash_iff.mpr escaped.1, escaped.2⟩, ih]
  | case8 c d rest taken last ordinary plain ih =>
    rw [lowered_cons, lowered_cons, closing, if_neg (mt quote_iff.mp ordinary),
      if_neg (fun escaped => plain ⟨slash_iff.mp escaped.1, escaped.2⟩)]
    exact ih

theorem stringLength?_lowered (cs : List Char) :
    stringLength? (lowered cs) = stringLength? cs := by
  cases cs with
  | nil => rfl
  | cons c cs =>
    have single : c.toLower = Text.singleQuote ↔ c = Text.singleQuote := toLower_eq_iff (by decide)
    have double : c.toLower = Text.doubleQuote ↔ c = Text.doubleQuote := toLower_eq_iff (by decide)
    simp only [lowered_cons, stringLength?, single, double]
    split_ifs with quoted
    · obtain rfl | rfl := quoted
      · exact closing_lowered (by decide) true 0 cs 1 none
      · exact closing_lowered (by decide) true 0 cs 1 none
    · rfl

theorem quotedNameLength?_lowered (cs : List Char) :
    quotedNameLength? (lowered cs) = quotedNameLength? cs := by
  cases cs with
  | nil => rfl
  | cons c cs =>
    have back : c.toLower = Text.backQuote ↔ c = Text.backQuote := toLower_eq_iff (by decide)
    simp only [lowered_cons, quotedNameLength?, back]
    split_ifs with quoted
    · subst quoted
      exact closing_lowered (by decide) false 1 cs 1 none
    · rfl

/-! ### Operators and blanks -/

def comparisons : List String :=
  ["<=>", "<>", "!=", "<=", ">=", "<", ">"]

def shifts : List String :=
  ["<<", ">>"]

theorem symbolLength?_append_self (symbol : String) (rest : List Char) :
    symbolLength? symbol (symbol.toList ++ rest) = some symbol.length :=
  if_pos (List.isPrefixOf_iff_prefix.mpr (List.prefix_append _ rest))

theorem exists_of_symbolLength? {symbol : String} {cs : List Char} {n : Nat}
    (found : symbolLength? symbol cs = some n) :
    symbol.length = n ∧ ∃ rest, cs = symbol.toList ++ rest := by
  unfold symbolLength? at found
  split_ifs at found with ahead
  obtain ⟨rest, rfl⟩ := List.isPrefixOf_iff_prefix.mp ahead
  exact ⟨Option.some.inj found, rest, rfl⟩

theorem findSome?_symbolLength?_eq_none {symbols : List String} {cs : List Char}
    (absent : ∀ symbol ∈ symbols, ∀ rest, cs = symbol.toList ++ rest → False) :
    symbols.findSome? (symbolLength? · cs) = none := by
  rw [List.findSome?_eq_none_iff]
  intro symbol member
  cases found : symbolLength? symbol cs with
  | none => rfl
  | some n =>
    obtain ⟨_, rest, same⟩ := exists_of_symbolLength? found
    exact (absent symbol member rest same).elim

theorem comparisonLength?_eq (cs : List Char) :
    comparisonLength? cs = comparisons.findSome? (symbolLength? · cs) := by
  fun_cases comparisonLength? cs
  case case8 spaceship differs bang atMost atLeast less more =>
    refine (findSome?_symbolLength?_eq_none ?_).symm
    simp only [comparisons, List.forall_mem_cons]
    exact ⟨spaceship, differs, bang, atMost, atLeast, less, more, nofun⟩
  case case4 tail longer =>
    cases tail with
    | nil => rfl
    | cons d tail =>
      have : d ≠ '>' := fun same => longer tail (by rw [same])
      simp [comparisons, symbolLength?, Ne.symm this, show "<=".length = 2 from rfl]
  case case6 tail spaceship differs atMost =>
    cases tail with
    | nil => rfl
    | cons d tail =>
      have equals : d ≠ '=' := fun same => atMost tail (by rw [same])
      have greater : d ≠ '>' := fun same => differs tail (by rw [same])
      simp [comparisons, symbolLength?, Ne.symm equals, Ne.symm greater,
        show "<".length = 1 from rfl]
  case case7 tail atLeast =>
    cases tail with
    | nil => rfl
    | cons d tail =>
      have equals : d ≠ '=' := fun same => atLeast tail (by rw [same])
      simp [comparisons, symbolLength?, Ne.symm equals, show ">".length = 1 from rfl]
  all_goals rfl

theorem shiftLength?_eq (cs : List Char) :
    shiftLength? cs = shifts.findSome? (symbolLength? · cs) := by
  fun_cases shiftLength? cs
  case case3 left right =>
    refine (findSome?_symbolLength?_eq_none ?_).symm
    simp only [shifts, List.forall_mem_cons]
    exact ⟨left, right, nofun⟩
  · rfl
  · rfl

theorem findSome?_symbolLength?_lowered {symbols : List String}
    (plain : symbols.all (fun symbol => symbol.toList.all (!·.isAlpha)) = true) (cs : List Char) :
    symbols.findSome? (symbolLength? · (lowered cs)) = symbols.findSome? (symbolLength? · cs) := by
  apply findSome?_congr
  intro symbol member
  unfold symbolLength?
  rw [isPrefixOf_lowered (List.all_eq_true.mp plain symbol member)]

theorem comparisonLength?_lowered (cs : List Char) :
    comparisonLength? (lowered cs) = comparisonLength? cs := by
  rw [comparisonLength?_eq, comparisonLength?_eq, findSome?_symbolLength?_lowered (by decide)]

theorem shiftLength?_lowered (cs : List Char) : shiftLength? (lowered cs) = shiftLength? cs := by
  rw [shiftLength?_eq, shiftLength?_eq, findSome?_symbolLength?_lowered (by decide)]

theorem exists_of_lowered_cons {k : Char} (plain : k.isAlpha = false) {cs tail : List Char}
    (same : lowered cs = k :: tail) : ∃ rest, cs = k :: rest := by
  cases cs with
  | nil => cases same
  | cons c cs => exact ⟨cs, by rw [(toLower_eq_iff plain).mp (List.cons.inj same).1]⟩

theorem blockEnd?_lowered (cs : List Char) (taken : Nat) :
    blockEnd? (lowered cs) taken = blockEnd? cs taken := by
  fun_induction blockEnd? cs taken with
  | case1 => rfl
  | case2 c rest taken goes ih =>
    rw [lowered_cons, blockEnd?]
    · exact ih
    · intro left star slash
      obtain ⟨rest, rfl⟩ := exists_of_lowered_cons (by decide) slash
      exact goes rest ((toLower_eq_iff (by decide)).mp star) rfl
  | case3 => rfl

theorem all_head?_lowered {p : Char → Bool} (blind : ∀ c : Char, p c.toLower = p c)
    (cs : List Char) : (lowered cs).head?.all p = cs.head?.all p := by
  cases cs with
  | nil => rfl
  | cons c cs => exact blind c

theorem blankLength?_lowered (cs : List Char) : blankLength? (lowered cs) = blankLength? cs := by
  have line (cs : List Char) : runLength (· != '\n') (lowered cs) = runLength (· != '\n') cs :=
    runLength_lowered (p := (· != '\n')) (toLower_blind (· != '\n') (by decide)) cs
  have dashed (rest : List Char) : blankLength? (lowered ('-' :: '-' :: rest)) =
      if rest.head?.all Text.isBlank then some (2 + runLength (· != '\n') rest) else none := by
    rw [← line rest, ← all_head?_lowered isBlank_toLower]
    rfl
  fun_cases blankLength? cs
  case case1 rest => exact congrArg (fun n => some (1 + n)) (line rest)
  case case2 rest blank => rw [dashed, if_pos blank]
  case case3 rest solid => rw [dashed, if_neg solid]
  case case4 rest => exact blockEnd?_lowered rest 2
  case case5 c rest _ _ _ layout =>
    rw [lowered_cons, blankLength?_of_layout (by rwa [isLayout_toLower]),
      runLength_lowered isLayout_toLower]
  case case6 c rest hash dashes block solid =>
    rw [lowered_cons, blankLength?, if_neg (by rwa [isLayout_toLower])]
    · exact fun same => hash ((toLower_eq_iff (by decide)).mp same)
    · intro left first second
      obtain ⟨rest, rfl⟩ := exists_of_lowered_cons (by decide) second
      exact dashes rest ((toLower_eq_iff (by decide)).mp first) rfl
    · intro left first second
      obtain ⟨rest, rfl⟩ := exists_of_lowered_cons (by decide) second
      exact block rest ((toLower_eq_iff (by decide)).mp first) rfl
  case case7 => rfl

end Lexeme

/-! ### Terminals -/

open Lexeme (lowered)

theorem Terminal.spelling_lowered (t : Terminal) (cs : List Char) :
    (match t.words.findSome? (Lexeme.wordLength? · (lowered cs)) with
      | some n => some n
      | none => t.symbol?.bind (Lexeme.symbolLength? · (lowered cs))) =
      match t.words.findSome? (Lexeme.wordLength? · cs) with
      | some n => some n
      | none => t.symbol?.bind (Lexeme.symbolLength? · cs) := by
  have words : t.words.findSome? (Lexeme.wordLength? · (lowered cs)) =
      t.words.findSome? (Lexeme.wordLength? · cs) :=
    findSome?_congr fun word _ => Lexeme.wordLength?_lowered word cs
  have plain : ∀ t : Terminal, (t.symbol?.all fun symbol => symbol.toList.all (!·.isAlpha)) =
      true := by
    decide +kernel
  have plain := plain t
  rw [words]
  cases spells : t.symbol? with
  | none => rfl
  | some symbol =>
    rw [spells, Option.all_some] at plain
    simp only [Option.bind_some, Lexeme.symbolLength?, Lexeme.isPrefixOf_lowered plain]

/-- Two texts that differ in the case of letters only have the same lexemes ahead, unless a mark
behind a zero differs and is followed by a digit. -/
theorem Terminal.lexemeLength?_recased {cs ds : List Char} (same : lowered cs = lowered ds)
    (marks : ∀ tail, cs = '0' :: tail → tail.head? = ds.tail.head? ∨ Lexeme.Unmarked tail)
    (t : Terminal) : t.lexemeLength? cs = t.lexemeLength? ds := by
  have recased {f : List Char → Option Nat} (blind : ∀ cs, f (lowered cs) = f cs) : f cs =
      f ds := by
    rw [← blind cs, same, blind ds]
  unfold lexemeLength?
  split
  · exact recased Lexeme.numberLength?_lowered
  · refine Lexeme.basedLength?_congr Lexeme.isHexDigit_toLower same (fun tail zero => ?_) rfl
    exact (marks tail zero).imp_right fun unmarked m c rest text => (unmarked m c rest text).1
  · refine Lexeme.basedLength?_congr Lexeme.isBitDigit_toLower same (fun tail zero => ?_) rfl
    exact (marks tail zero).imp_right fun unmarked m c rest text => (unmarked m c rest text).2
  · exact recased Lexeme.stringLength?_lowered
  · exact recased Lexeme.nameLength?_lowered
  · exact recased Lexeme.quotedNameLength?_lowered
  · exact recased Lexeme.variableLength?_lowered
  · exact recased Lexeme.comparisonLength?_lowered
  · exact recased Lexeme.shiftLength?_lowered
  · rfl
  · exact (t.spelling_lowered cs).symm.trans (same ▸ t.spelling_lowered ds)

theorem Ahead.scan_recased {cs ds : List Char} (same : lowered cs = lowered ds)
    (marks : ∀ tail, cs = '0' :: tail → tail.head? = ds.tail.head? ∨ Lexeme.Unmarked tail)
    (expected : TerminalSet) : scan expected cs = scan expected ds := by
  have lexemes := Terminal.lexemeLength?_recased same marks
  have blanks : Lexeme.blankLength? cs = Lexeme.blankLength? ds := by
    rw [← Lexeme.blankLength?_lowered, same, Lexeme.blankLength?_lowered]
  cases cs with
  | nil =>
    obtain rfl : ds = [] := List.length_eq_zero_iff.mp (Lexeme.length_of_lowered same).symm
    rfl
  | cons c cs =>
    cases ds with
    | nil => cases same
    | cons d ds => simp only [scan, blanks, lexemes]

/-! ### Keywords -/

namespace Terminal

/-- A keyword or mark ahead is one of its words or its symbol. -/
theorem spelling_cases {t : Terminal} (spelled : t.words ≠ [] ∨ t.symbol? ≠ none) {cs : List Char}
    {n : Nat} (found : t.lexemeLength? cs = some n) :
    (∃ word ∈ t.words, Lexeme.wordLength? word cs = some n) ∨
      ∃ symbol, t.symbol? = some symbol ∧ Lexeme.symbolLength? symbol cs = some n := by
  unfold lexemeLength? at found
  split at found
  case h_11 =>
    split at found
    · rename_i m spelled
      cases found
      exact .inl (List.exists_of_findSome?_eq_some spelled)
    · exact .inr (Option.bind_eq_some_iff.mp found)
  all_goals exact spelled.elim (absurd rfl) (absurd rfl)

theorem isHexDigit_foldLetter {c : Char} (digit : Lexeme.isHexDigit c = true) :
    Lexeme.isHexDigit (Lexeme.foldLetter c) = true := by
  obtain ascii | rfl | rfl | rfl | rfl | ⟨_, same⟩ := Text.foldLetter_cases c
  · exact Text.holds_of_small (p := fun c => Lexeme.isHexDigit c = true →
      Lexeme.isHexDigit (Lexeme.foldLetter c) = true) ascii (by decide) digit
  · exact absurd digit (by decide)
  · exact absurd digit (by decide)
  · exact absurd digit (by decide)
  · exact absurd digit (by decide)
  · rwa [same]

theorem isBitDigit_foldLetter {c : Char} (digit : Lexeme.isBitDigit c = true) :
    Lexeme.isBitDigit (Lexeme.foldLetter c) = true := by
  obtain rfl | rfl : c = '0' ∨ c = '1' := by simpa [Lexeme.isBitDigit] using digit
  · decide
  · decide

/-- The second letter of a word that starts with a mark is no digit of its base. -/
theorem words_unmarked (t : Terminal) :
    (t.words.all fun word => match word.toList with
      | m :: c :: _ => !(m == 'x' && Lexeme.isHexDigit c) && !(m == 'b' && Lexeme.isBitDigit c)
      | _ => false) = true := by
  revert t
  decide +kernel

theorem symbol_unmarked (t : Terminal) :
    (t.symbol?.all fun symbol => symbol.toList.head?.any fun c => !c.isAlpha) = true := by
  revert t
  decide +kernel

theorem unmarked_of_keyword {t : Terminal} (keyword : t.words ≠ []) {cs : List Char} {n : Nat}
    (found : t.lexemeLength? cs = some n) : Lexeme.Unmarked cs := by
  rintro m c rest rfl
  obtain ⟨word, spells, ahead⟩ | ⟨symbol, spells, ahead⟩ := spelling_cases (.inl keyword) found
  · have table := List.all_eq_true.mp (words_unmarked t) word spells
    rw [← Lexeme.map_foldLetter_take ahead] at table
    match n with
    | 0 => cases table
    | 1 => cases table
    | n + 2 =>
      simp only [List.take_succ_cons, List.map_cons, Bool.and_eq_true, Bool.not_eq_true',
        Bool.and_eq_false_imp, beq_iff_eq] at table
      have letter {k : Char} (mark : m.toLower = k) (small : Lexeme.foldLetter k = k) :
          Lexeme.foldLetter m = k := by
        rw [← Lexeme.foldLetter_toLower, mark, small]
      refine ⟨fun ⟨mark, digit⟩ => ?_, fun ⟨mark, digit⟩ => ?_⟩
      · have absent := table.1 (letter mark (by decide))
        rw [isHexDigit_foldLetter digit] at absent
        cases absent
      · have absent := table.2 (letter mark (by decide))
        rw [isBitDigit_foldLetter digit] at absent
        cases absent
  · have plain := symbol_unmarked t
    rw [spells, Option.all_some, head?_of_symbolLength? (symbol_length_pos spells) ahead,
      Option.any_some, Bool.not_eq_true'] at plain
    refine ⟨fun ⟨mark, _⟩ => ?_, fun ⟨mark, _⟩ => ?_⟩ <;>
      · rw [← Text.toLower_blind Char.isAlpha (by decide), mark] at plain
        cases plain

end Terminal

end SqlSyntax
