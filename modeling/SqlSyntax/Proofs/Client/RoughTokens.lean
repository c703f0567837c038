import Mathlib.Data.List.TakeWhile
import SqlSyntax.Client.Scan

/-!
# Rough tokens

A text is cut into words, texts between apostrophes and single characters; what lies between them is
blank. An apostrophe begins a text only if there is another one later on, otherwise it stands for
itself, so the end of the text decides how its beginning is cut. The cut is described by a relation,
which has exactly one result for every text. Whether a token makes sense in a statement is not
asked.
-/

namespace SqlSyntax.Scan

open Text

/-! ### Cuts -/

/-- How a text is cut into tokens. -/
inductive Cuts : List Char → List (List Char) → Prop
  | done : Cuts [] []
  | blank {c : Char} {rest : List Char} {tokens : List (List Char)} (outside : isWordChar c = false)
      (blank : isBlank c = true) (more : Cuts rest tokens) : Cuts (c :: rest) tokens
  | word {c : Char} {w rest : List Char} {tokens : List (List Char)} (first : isWordChar c = true)
      (all : ∀ d ∈ w, isWordChar d = true) (ends : ∀ d ∈ rest.head?, isWordChar d = false)
      (more : Cuts rest tokens) : Cuts (c :: w ++ rest) ((c :: w) :: tokens)
  | quoted {inside rest : List Char} {tokens : List (List Char)} (unquoted : singleQuote ∉ inside)
      (more : Cuts rest tokens) :
      Cuts (singleQuote :: inside ++ [singleQuote] ++ rest)
        ((singleQuote :: inside ++ [singleQuote]) :: tokens)
  | mark {c : Char} {rest : List Char} {tokens : List (List Char)} (outside : isWordChar c = false)
      (visible : isBlank c = false) (alone : c = singleQuote → singleQuote ∉ rest)
      (more : Cuts rest tokens) : Cuts (c :: rest) ([c] :: tokens)

theorem isWordChar_singleQuote : isWordChar singleQuote = false := by
  decide

theorem isBlank_singleQuote : isBlank singleQuote = false := by
  decide

/-- Every text can be cut; the induction is on its length. -/
theorem exists_cuts (cs : List Char) : ∃ tokens, Cuts cs tokens := by
  induction size : cs.length using Nat.strongRecOn generalizing cs with
  | ind n ih =>
    cases cs with
    | nil => exact ⟨[], .done⟩
    | cons c rest =>
      rw [List.length_cons] at size
      obtain ⟨behind, later⟩ := ih rest.length (by omega) rest rfl
      cases inWord : isWordChar c with
      | true =>
        have shorter : (rest.dropWhile isWordChar).length ≤ rest.length :=
          (List.dropWhile_sublist isWordChar).length_le
        obtain ⟨tokens, more⟩ := ih _ (by omega) (rest.dropWhile isWordChar) rfl
        refine ⟨(c :: rest.takeWhile isWordChar) :: tokens, ?_⟩
        have split : c :: rest = c :: rest.takeWhile isWordChar ++ rest.dropWhile isWordChar := by
          rw [List.cons_append, List.takeWhile_append_dropWhile]
        rw [split]
        refine .word inWord (fun d member => List.mem_takeWhile_imp member) ?_ more
        intro d first
        have stops := List.head?_dropWhile_not isWordChar rest
        rwa [Option.mem_def.mp first] at stops
      | false =>
        cases dark : isBlank c with
        | true => exact ⟨behind, .blank inWord dark later⟩
        | false =>
          by_cases closed : c = singleQuote ∧ singleQuote ∈ rest
          · obtain ⟨rfl, member⟩ := closed
            obtain ⟨inside, back, rfl, unquoted⟩ := List.eq_append_cons_of_mem member
            rw [List.length_append, List.length_cons] at size
            obtain ⟨tokens, more⟩ := ih back.length (by omega) back rfl
            refine ⟨(singleQuote :: inside ++ [singleQuote]) :: tokens, ?_⟩
            rw [List.append_cons, ← List.cons_append, ← List.cons_append]
            exact .quoted unquoted more
          · exact ⟨[c] :: behind, .mark inWord dark
              (fun same member => closed ⟨same, member⟩) later⟩

/-! ### The scan -/

section tokenLength

variable {c : Char} {w rest : List Char}

theorem tokenLength?_word (first : isWordChar c = true) (all : ∀ d ∈ w, isWordChar d = true)
    (ends : ∀ d ∈ rest.head?, isWordChar d = false) :
    tokenLength? (c :: w ++ rest) = some (c :: w).length := by
  have run : (w ++ rest).takeWhile isWordChar = w := by
    rw [List.takeWhile_append_of_pos all]
    cases rest with
    | nil => rw [List.takeWhile_nil, List.append_nil]
    | cons d rest =>
      rw [List.takeWhile_cons_of_neg (by simp [ends d rfl]), List.append_nil]
  rw [List.cons_append, tokenLength?, if_pos first, run, List.length_cons]

theorem tokenLength?_blank (outside : isWordChar c = false) (blank : isBlank c = true) :
    tokenLength? (c :: rest) = none := by
  simp [tokenLength?, outside, blank]

theorem takeWhile_ne_singleQuote (unquoted : singleQuote ∉ w) :
    (w ++ singleQuote :: rest).takeWhile (· != singleQuote) = w := by
  have all : ∀ d ∈ w, (d != singleQuote) = true := by
    intro d member
    exact bne_iff_ne.mpr fun same => unquoted (same ▸ member)
  rw [List.takeWhile_append_of_pos all, List.takeWhile_cons_of_neg (by simp), List.append_nil]

theorem tokenLength?_quoted (unquoted : singleQuote ∉ w) :
    tokenLength? (singleQuote :: w ++ [singleQuote] ++ rest) =
      some (singleQuote :: w ++ [singleQuote]).length := by
  simp [tokenLength?, isWordChar_singleQuote, isBlank_singleQuote,
    takeWhile_ne_singleQuote unquoted]

theorem tokenLength?_mark (outside : isWordChar c = false) (visible : isBlank c = false)
    (alone : c = singleQuote → singleQuote ∉ rest) : tokenLength? (c :: rest) = some 1 := by
  have unclosed : ¬ (c = singleQuote ∧ (rest.takeWhile (· != singleQuote)).length <
      rest.length) := by
    rintro ⟨same, shorter⟩
    have all : ∀ d ∈ rest, (d != singleQuote) = true := by
      intro d member
      exact bne_iff_ne.mpr fun quote => alone same (quote ▸ member)
    rw [List.takeWhile_eq_self_iff.mpr all] at shorter
    omega
  simp only [tokenLength?, outside, visible, Bool.false_eq_true, if_false, if_neg unclosed]

end tokenLength

theorem tokensFrom_token {t rest : List Char} (found : tokenLength? (t ++ rest) = some t.length)
    (fuel : Nat) : tokensFrom (fuel + 1) (t ++ rest) = t :: tokensFrom fuel rest := by
  rw [tokensFrom.eq_def]
  simp only [found, List.take_left, List.drop_left]

theorem tokensFrom_blank {c : Char} {rest : List Char} (skipped : tokenLength? (c :: rest) = none)
    (fuel : Nat) : tokensFrom (fuel + 1) (c :: rest) = tokensFrom fuel rest := by
  simp only [tokensFrom, skipped]

/-- With a step for each character the scan goes through to the end. -/
theorem Cuts.tokensFrom_eq {cs : List Char} {tokens : List (List Char)} (cuts : Cuts cs tokens)
    {fuel : Nat} (enough : cs.length ≤ fuel) : tokensFrom fuel cs = tokens := by
  induction cuts generalizing fuel with
  | done => cases fuel <;> rfl
  | @blank c rest tokens outside blank more ih =>
    cases fuel with
    | zero => cases enough
    | succ fuel =>
      rw [tokensFrom_blank (tokenLength?_blank outside blank), ih (Nat.le_of_succ_le_succ enough)]
  | @word c w rest tokens first all ends more ih =>
    rw [List.length_append, List.length_cons] at enough
    cases fuel with
    | zero => omega
    | succ fuel => rw [tokensFrom_token (tokenLength?_word first all ends), ih (by omega)]
  | @quoted inside rest tokens unquoted more ih =>
    rw [List.length_append, List.length_append, List.length_cons] at enough
    cases fuel with
    | zero => omega
    | succ fuel => rw [tokensFrom_token (tokenLength?_quoted unquoted), ih (by omega)]
  | @mark c rest tokens outside visible alone more ih =>
    cases fuel with
    | zero => cases enough
    | succ fuel =>
      have found : tokenLength? ([c] ++ rest) = some [c].length :=
        tokenLength?_mark outside visible alone
      rw [← List.singleton_append, tokensFrom_token found, ih (Nat.le_of_succ_le_succ enough)]

/-- The scan gives the tokens into which the text is cut, and no others. -/
theorem tokens_eq_iff (sql : String) (parts : List (List Char)) :
    (tokens sql).map String.toList = parts ↔ Cuts sql.toList parts := by
  have scanned : (tokens sql).map String.toList =
      tokensFrom sql.toList.length sql.toList := by
    simp [tokens, Function.comp_def]
  rw [scanned]
  constructor
  · rintro rfl
    obtain ⟨found, cuts⟩ := exists_cuts sql.toList
    rwa [cuts.tokensFrom_eq (Nat.le_refl _)]
  · intro cuts
    exact cuts.tokensFrom_eq (Nat.le_refl _)

/-! ### Nothing lost, nothing invented -/

/-- The tokens stand in the text in order, without overlap, and around them there are only
blanks. -/
def Covers : List (List Char) → List Char → Prop
  | [], text => ∀ c ∈ text, isBlank c = true
  | t :: tokens, text => t ≠ [] ∧ ∃ gap rest, text = gap ++ t ++ rest ∧
      (∀ c ∈ gap, isBlank c = true) ∧ Covers tokens rest

/-- The text without its blanks. -/
def condensed (cs : List Char) : List Char :=
  cs.filter fun c => !isBlank c

variable {cs : List Char} {parts : List (List Char)}

theorem Covers.behind {t : List Char} (occupied : t ≠ []) (covers : Covers parts cs) :
    Covers (t :: parts) (t ++ cs) :=
  ⟨occupied, [], cs, rfl, fun _ member => absurd member List.not_mem_nil, covers⟩

theorem Covers.blank {c : Char} (blank : isBlank c = true) (covers : Covers parts cs) :
    Covers parts (c :: cs) := by
  cases parts with
  | nil => exact List.forall_mem_cons.mpr ⟨blank, covers⟩
  | cons t parts =>
    obtain ⟨occupied, gap, rest, rfl, between, behind⟩ := covers
    exact ⟨occupied, c :: gap, rest, rfl, List.forall_mem_cons.mpr ⟨blank, between⟩, behind⟩

theorem Cuts.covers (cuts : Cuts cs parts) : Covers parts cs := by
  induction cuts with
  | done => exact fun _ member => absurd member List.not_mem_nil
  | blank _ blank _ ih => exact ih.blank blank
  | word _ _ _ _ ih => exact ih.behind (List.cons_ne_nil _ _)
  | quoted _ _ ih => exact ih.behind (List.cons_ne_nil _ _)
  | mark _ _ _ _ ih => exact ih.behind (List.cons_ne_nil _ _)

theorem condensed_append (cs others : List Char) :
    condensed (cs ++ others) = condensed cs ++ condensed others :=
  List.filter_append cs others

theorem condensed_blanks (blanks : ∀ c ∈ cs, isBlank c = true) : condensed cs = [] := by
  refine List.filter_eq_nil_iff.mpr ?_
  intro c member
  simp [blanks c member]

theorem Covers.condensed_flatten (covers : Covers parts cs) :
    condensed parts.flatten = condensed cs := by
  induction parts generalizing cs with
  | nil => rw [condensed_blanks covers, List.flatten_nil, condensed, List.filter_nil]
  | cons t parts ih =>
    obtain ⟨-, gap, rest, rfl, between, behind⟩ := covers
    rw [List.flatten_cons, condensed_append, condensed_append, condensed_append, ih behind,
      condensed_blanks between, List.nil_append]

/-- What a text and its rough tokens have in common. -/
structure KeepsText (sql : String) (tokens : List String) : Prop where
  covers : Covers (tokens.map String.toList) sql.toList
  condensed : condensed (tokens.flatMap String.toList) = condensed sql.toList
  /-- The tokens are the parts that the text is cut into, and it is cut in no other way. -/
  cuts : ∀ parts, tokens.map String.toList = parts ↔ Cuts sql.toList parts

/-- A scan keeps every text but for blanks. -/
theorem tokens_keep_text (sql : String) : KeepsText sql (tokens sql) where
  covers := ((tokens_eq_iff sql _).mp rfl).covers
  condensed := by
    rw [List.flatMap_def]
    exact ((tokens_eq_iff sql _).mp rfl).covers.condensed_flatten
  cuts := tokens_eq_iff sql

/-- The last apostrophe has no partner and stands for itself. -/
example : tokens "a 'b c' d's" = ["a", "'b c'", "d", "'", "s"] := by
  decide

end SqlSyntax.Scan
