import Mathlib.Computability.Language
import SqlSyntax.Client.Names
import SqlSyntax.Proofs.Lexical.Found
import SqlSyntax.Proofs.Lexical.Continuations

/-!
# Index hints in a text

What a client takes for an index hint is a language, built from words and blanks by concatenation
and union. The function that looks for a hint finds one exactly where a member of the language
begins.
-/

namespace SqlSyntax.Names

open Text (isBlank)

/-! ### The language -/

/-- One of the words, in letters of any case. -/
def oneOf (words : List String) : Language Char :=
  {cs | ∃ word ∈ words, cs.map Lexeme.foldLetter = word.toList}

/-- One blank or more. -/
def blanks : Language Char :=
  {cs | cs ≠ [] ∧ ∀ c ∈ cs, isBlank c = true}

def hintScope : Language Char :=
  blanks * (oneOf ["for"] * (blanks * (oneOf ["join"] +
    oneOf ["order", "group"] * (blanks * oneOf ["by"]))))

/-- Something between parentheses. -/
def indexList : Language Char :=
  {cs | ∃ inside, inside ≠ [] ∧ ')' ∉ inside ∧ cs = '(' :: inside ++ [')']}

/-- An index hint with the blanks before it. -/
def hint : Language Char :=
  blanks * (oneOf ["force", "use", "ignore"] * (blanks * (oneOf ["index"] *
    ((1 + hintScope) * ((1 + blanks) * indexList)))))

/-! ### Readers -/

section Readers

variable {f g : List Char → Option (List Char)} {L M K : Language Char}

/-- The function gives what follows a member of the first language, if that is to be in the
second. -/
def Reads (f : List Char → Option (List Char)) (L K : Language Char) : Prop :=
  ∀ cs, cs ∈ L * K ↔ ∃ rest ∈ K, f cs = some rest

theorem Reads.bind (first : Reads f L (M * K)) (second : Reads g M K) :
    Reads (fun cs => (f cs).bind g) (L * M) K := by
  intro cs
  rw [mul_assoc, first cs]
  constructor
  · rintro ⟨middle, member, found⟩
    obtain ⟨rest, kept, onward⟩ := (second middle).mp member
    exact ⟨rest, kept, Option.bind_eq_some_iff.mpr ⟨middle, found, onward⟩⟩
  · rintro ⟨rest, kept, found⟩
    obtain ⟨middle, found, onward⟩ := Option.bind_eq_some_iff.mp found
    exact ⟨middle, (second middle).mpr ⟨rest, kept, onward⟩, found⟩

/-- A text that is read to its end is read off in front of anything. -/
theorem Reads.append (reads : ∀ K, Reads f L K) {cs : List Char} (whole : f cs = some [])
    (rest : List Char) : f (cs ++ rest) = some rest := by
  have member : cs ∈ L * 1 := (reads 1 cs).mpr ⟨[], rfl, whole⟩
  rw [mul_one] at member
  obtain ⟨_, rfl, found⟩ := (reads {rest} (cs ++ rest)).mp (Language.append_mem_mul member rfl)
  exact found

/-- Of two readers the second is asked where the first finds nothing. -/
theorem Reads.or (first : Reads f L K) (second : Reads g M K)
    (apart : ∀ cs rest, f cs = some rest → g cs = none) :
    Reads (fun cs => (f cs).or (g cs)) (L + M) K := by
  intro cs
  rw [add_mul, Language.mem_add, first cs, second cs]
  dsimp only
  cases found : f cs with
  | none => simp
  | some rest => simp [apart cs rest found]

/-- All members begin with something other than a blank. -/
def Solid (L : Language Char) : Prop :=
  ∀ cs ∈ L, ∃ c rest, cs = c :: rest ∧ isBlank c = false

theorem Solid.mul (solid : Solid L) (M : Language Char) : Solid (L * M) := by
  rintro cs ⟨front, first, back, -, rfl⟩
  obtain ⟨c, rest, rfl, other⟩ := solid front first
  exact ⟨c, rest ++ back, rfl, other⟩

theorem Solid.add (first : Solid L) (second : Solid M) : Solid (L + M) :=
  fun cs member => member.elim (first cs) (second cs)

theorem dropWhile_isBlank_append {gap : List Char} (blank : ∀ c ∈ gap, isBlank c = true) {c : Char}
    (solid : isBlank c = false) (cs : List Char) :
    (gap ++ c :: cs).dropWhile isBlank = c :: cs := by
  rw [List.dropWhile_append_of_pos blank, List.dropWhile_cons_of_neg (by simp [solid])]

theorem reads_blanks (solid : Solid K) : Reads afterBlanks? blanks K := by
  intro cs
  rw [Language.mem_mul]
  constructor
  · rintro ⟨gap, ⟨some, blank⟩, rest, kept, rfl⟩
    cases gap with
    | nil => exact absurd rfl some
    | cons c gap =>
      obtain ⟨first, blank⟩ := List.forall_mem_cons.mp blank
      obtain ⟨d, tail, rfl, other⟩ := solid rest kept
      refine ⟨_, kept, ?_⟩
      rw [List.cons_append, afterBlanks?, if_pos first, dropWhile_isBlank_append blank other]
  · rintro ⟨rest, kept, found⟩
    cases cs with
    | nil => cases found
    | cons c cs =>
      rw [afterBlanks?] at found
      split_ifs at found with first
      cases found
      refine ⟨c :: cs.takeWhile isBlank, ⟨List.cons_ne_nil _ _, ?_⟩, _, kept, ?_⟩
      · exact List.forall_mem_cons.mpr ⟨first, fun d member => List.mem_takeWhile_imp member⟩
      · rw [List.cons_append, List.takeWhile_append_dropWhile]

theorem spelled?_eq_some_iff {word cs rest : List Char} :
    Lexeme.spelled? word cs = some rest ↔
      ∃ front, front.map Lexeme.foldLetter = word ∧ front ++ rest = cs := by
  constructor
  · intro spelled
    refine ⟨cs.take word.length, Lexeme.map_foldLetter_of_spelled? spelled, ?_⟩
    rw [Lexeme.eq_drop_of_spelled? spelled, List.take_append_drop]
  · rintro ⟨front, rfl, rfl⟩
    induction front with
    | nil => rfl
    | cons c front ih => rw [List.map_cons, List.cons_append, Lexeme.spelled?, if_pos rfl, ih]

/-- The words begin with letters, each with another one. -/
def Apart (words : List String) : Prop :=
  (∀ word ∈ words, word.toList.head?.any Lexeme.isNameStart = true) ∧
    words.Pairwise fun a b => a.toList.head? ≠ b.toList.head?

instance (words : List String) : Decidable (Apart words) :=
  inferInstanceAs (Decidable (_ ∧ _))

theorem head?_of_spelled? {word : String} {cs rest : List Char}
    (lettered : word.toList.head?.any Lexeme.isNameStart = true)
    (spelled : Lexeme.spelled? word.toList cs = some rest) :
    word.toList.head? = cs.head?.map Lexeme.foldLetter := by
  obtain ⟨front, folded, rfl⟩ := spelled?_eq_some_iff.mp spelled
  rw [← folded] at lettered ⊢
  cases front with
  | nil => cases lettered
  | cons c front => rfl

theorem afterWord?_eq_some_iff {words : List String} (apart : Apart words) {cs rest : List Char} :
    afterWord? words cs = some rest ↔
      ∃ word ∈ words, Lexeme.spelled? word.toList cs = some rest := by
  obtain ⟨lettered, apart⟩ := apart
  unfold afterWord?
  induction words with
  | nil => simp
  | cons first words ih =>
    obtain ⟨other, apart⟩ := List.pairwise_cons.mp apart
    obtain ⟨here, lettered⟩ := List.forall_mem_cons.mp lettered
    rw [List.findSome?_cons]
    cases found : Lexeme.spelled? first.toList cs with
    | none => simp [found, ih lettered apart]
    | some left =>
      have others : ∀ word ∈ words, Lexeme.spelled? word.toList cs ≠ some rest := by
        intro word listed spelled
        apply other word listed
        rw [head?_of_spelled? here found, head?_of_spelled? (lettered word listed) spelled]
      simpa [found] using fun word listed spelled => absurd spelled (others word listed)

theorem reads_oneOf {words : List String} (apart : Apart words) :
    Reads (afterWord? words) (oneOf words) K := by
  intro cs
  simp only [afterWord?_eq_some_iff apart, spelled?_eq_some_iff]
  constructor
  · rintro ⟨front, ⟨word, listed, spelled⟩, rest, kept, joined⟩
    exact ⟨rest, kept, word, listed, front, spelled, joined⟩
  · rintro ⟨rest, kept, word, listed, front, spelled, joined⟩
    exact ⟨front, ⟨word, listed, spelled⟩, rest, kept, joined⟩

theorem solid_oneOf {words : List String} (apart : Apart words) : Solid (oneOf words) := by
  rintro cs ⟨word, listed, spelled⟩
  have letter := apart.1 word listed
  rw [← spelled] at letter
  cases cs with
  | nil => cases letter
  | cons c cs => exact ⟨c, cs, rfl, not_isBlank_of_isNameStart letter⟩

/-- Words that begin with different letters are not both ahead. -/
theorem afterWord?_eq_none {words others : List String} (apart : Apart (words ++ others))
    {cs rest : List Char} (found : afterWord? words cs = some rest) :
    afterWord? others cs = none := by
  obtain ⟨lettered, apart⟩ := apart
  obtain ⟨-, -, differ⟩ := List.pairwise_append.mp apart
  obtain ⟨word, listed, spelled⟩ := List.exists_of_findSome?_eq_some found
  refine List.findSome?_eq_none_iff.mpr ?_
  intro other member
  rw [Option.eq_none_iff_forall_ne_some]
  intro left again
  apply differ word listed other member
  rw [head?_of_spelled? (lettered word (List.mem_append_left _ listed)) spelled,
    head?_of_spelled? (lettered other (List.mem_append_right _ member)) again]

theorem afterScope?_eq (cs : List Char) :
    afterScope? cs = (afterBlanks? cs).bind fun cs => (afterWord? ["for"] cs).bind fun cs =>
      (afterBlanks? cs).bind fun cs => (afterWord? ["join"] cs).or
        ((afterWord? ["order", "group"] cs).bind fun cs =>
          (afterBlanks? cs).bind (afterWord? ["by"])) := by
  unfold afterScope?
  congr! with _ _ cs
  cases afterWord? ["join"] cs <;> rfl

theorem reads_scope : Reads afterScope? hintScope K := by
  rw [funext afterScope?_eq, hintScope]
  refine .bind (reads_blanks ?_) (.bind (reads_oneOf (by decide)) (.bind (reads_blanks ?_)
    (.or (reads_oneOf (by decide)) (.bind (reads_oneOf (by decide))
      (.bind (reads_blanks ?_) (reads_oneOf (by decide)))) ?_)))
  · exact ((solid_oneOf (by decide)).mul _).mul _
  · exact ((solid_oneOf (by decide)).add ((solid_oneOf (by decide)).mul _)).mul _
  · exact (solid_oneOf (by decide)).mul _
  · intro cs rest found
    rw [afterWord?_eq_none (by decide) found]
    rfl

end Readers

/-! ### Hints -/

theorem mem_one_add_blanks {gap : List Char} :
    gap ∈ (1 + blanks : Language Char) ↔ ∀ c ∈ gap, isBlank c = true := by
  rw [Language.mem_add, Language.mem_one]
  constructor
  · rintro (rfl | ⟨-, blank⟩)
    · nofun
    · exact blank
  · intro blank
    by_cases empty : gap = []
    · exact .inl empty
    · exact .inr ⟨empty, blank⟩

theorem takeWhile_closed {inside : List Char} (closed : ')' ∉ inside) (rest : List Char) :
    (inside ++ ')' :: rest).takeWhile (· != ')') = inside := by
  have other : ∀ c ∈ inside, (c != ')') = true := by
    intro c member
    rw [bne_iff_ne]
    rintro rfl
    exact closed member
  rw [List.takeWhile_append_of_pos other]
  simp

theorem hasIndexList_iff (cs : List Char) :
    hasIndexList cs = true ↔ cs ∈ (1 + blanks) * indexList * ⊤ := by
  unfold hasIndexList
  constructor
  · intro found
    split at found
    · rename_i rest opened
      rw [Bool.and_eq_true, decide_eq_true_iff, decide_eq_true_iff] at found
      have whole := List.takeWhile_append_dropWhile (p := (· != ')')) (l := rest)
      generalize inner : rest.takeWhile (· != ')') = inside at found whole
      have closed : ')' ∉ inside := by
        rw [← inner]
        intro member
        simpa using List.mem_takeWhile_imp member
      cases behind : rest.dropWhile (· != ')') with
      | nil =>
        rw [behind, List.append_nil] at whole
        rw [whole] at found
        exact absurd found.2 (Nat.lt_irrefl _)
      | cons c more =>
        have last : c = ')' := by
          have stopped := List.head?_dropWhile_not (· != ')') rest
          simpa [behind] using stopped
        have blank : cs.takeWhile isBlank ∈ (1 + blanks : Language Char) :=
          mem_one_add_blanks.mpr fun c member => List.mem_takeWhile_imp member
        refine ⟨_, ⟨_, blank, _, ⟨inside, List.length_pos_iff.mp found.1, closed, rfl⟩, rfl⟩, more,
          trivial, ?_⟩
        have split := List.takeWhile_append_dropWhile (p := isBlank) (l := cs)
        rw [opened, ← whole, behind, last] at split
        simpa using split
    · cases found
  · rintro ⟨_, ⟨gap, spaced, _, ⟨inside, some, closed, rfl⟩, rfl⟩, rest, -, rfl⟩
    have opened := dropWhile_isBlank_append (c := '(') (mem_one_add_blanks.mp spaced) (by decide)
      (inside ++ ')' :: rest)
    simp only [List.append_assoc, List.cons_append, List.nil_append] at opened ⊢
    rw [opened]
    simp [takeWhile_closed closed, List.length_pos_iff.mpr some]

/-- What follows the words of a hint. -/
def afterIndex? (cs : List Char) : Option (List Char) :=
  (afterBlanks? cs).bind fun cs => (afterWord? ["force", "use", "ignore"] cs).bind fun cs =>
    (afterBlanks? cs).bind (afterWord? ["index"])

theorem reads_index {K : Language Char} : Reads afterIndex?
    (blanks * (oneOf ["force", "use", "ignore"] * (blanks * oneOf ["index"]))) K := by
  refine .bind (reads_blanks ?_) (.bind (reads_oneOf (by decide))
    (.bind (reads_blanks ?_) (reads_oneOf (by decide))))
  · exact ((solid_oneOf (by decide)).mul _).mul _
  · exact (solid_oneOf (by decide)).mul _

theorem startsHint_eq (cs : List Char) :
    startsHint cs = (afterIndex? cs).any fun cs =>
      (afterScope? cs).any hasIndexList || hasIndexList cs := by
  unfold startsHint afterIndex?
  rcases afterBlanks? cs with _ | cs
  · rfl
  dsimp [Option.bind]
  rcases afterWord? ["force", "use", "ignore"] cs with _ | cs
  · rfl
  dsimp [Option.bind]
  rcases afterBlanks? cs with _ | cs
  · rfl
  dsimp [Option.bind]
  rcases afterWord? ["index"] cs with _ | cs
  · rfl
  dsimp
  cases afterScope? cs <;> rfl

/-- The reader finds a hint exactly where one begins. -/
theorem startsHint_iff (cs : List Char) : startsHint cs = true ↔ cs ∈ hint * ⊤ := by
  have parts : hint * ⊤ = blanks * (oneOf ["force", "use", "ignore"] * (blanks * oneOf ["index"])) *
      ((1 + hintScope) * ((1 + blanks) * indexList * ⊤)) := by
    simp only [hint, mul_assoc]
  rw [parts, reads_index cs, startsHint_eq, Option.any_eq_true]
  refine exists_congr fun rest => ?_
  rw [add_mul, one_mul, Language.mem_add, ← hasIndexList_iff, reads_scope rest]
  simp only [← hasIndexList_iff, Bool.or_eq_true, Option.any_eq_true, and_comm, or_comm]

end SqlSyntax.Names
