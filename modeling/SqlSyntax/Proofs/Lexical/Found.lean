import SqlSyntax.Proofs.Lexical.Continued
import SqlSyntax.Proofs.Lexical.Pieces
import SqlSyntax.Proofs.Lexical.Spelling

/-!
# Which lexeme is found

Of all the terminals that are looked for, the first in the order of precedence that has a lexeme
ahead is taken. Here it is shown for the canonical spellings that no terminal which is preferred to
their own has a lexeme in front of them.
-/

namespace SqlSyntax

open Text (singleQuote backQuote)
open Piece (Found)

namespace Terminal

/-- The terminals that are looked for before `t`. -/
def preferred (t : Terminal) : List Terminal :=
  precedence.takeWhile (· != t)

theorem mem_precedence {t : Terminal} (lexical : t ≠ .endOfInput) : t ∈ precedence := by
  revert t
  decide +kernel

/-- What is preferred to a terminal and starts with the same mark is not found among the words. -/
theorem all_preferred_of_marks {leads : List (Terminal × Char)} (q : Terminal → Bool → Bool)
    (marks : (leads.all fun lead => isMark lead.2) = true)
    (all : (leads.all fun lead => lead.1.preferred.all fun u => q u (u.startsUnspelled lead.2)) =
      true) :
    (leads.all fun lead => lead.1.preferred.all fun u => q u (u.starts lead.2)) = true := by
  rw [List.all_eq_true] at marks all ⊢
  intro lead member
  have each := all lead member
  rw [List.all_eq_true] at each ⊢
  intro u before
  rw [starts_of_isMark (marks lead member)]
  exact each u before

/-- The first of the kept elements that has an image gives the result. -/
theorem findSome?_filter_of_first {α β : Type} [DecidableEq α] {f : α → Option β} {p : α → Bool}
    {a : α} {b : β} {xs : List α} (member : a ∈ xs) (kept : p a = true) (image : f a = some b)
    (earlier : ∀ x ∈ xs.takeWhile (· != a), p x = true → f x = none) :
    (xs.filter p).findSome? f = some b := by
  induction xs with
  | nil => cases member
  | cons x xs ih =>
    by_cases same : x = a
    · subst same
      simp [kept, image]
    · have later : a ∈ xs := (List.mem_cons.mp member).resolve_left (Ne.symm same)
      have before : (x :: xs).takeWhile (· != a) = x :: xs.takeWhile (· != a) := by simp [same]
      rw [before] at earlier
      have rest := ih later fun y member => earlier y (List.mem_cons_of_mem x member)
      by_cases keeps : p x = true
      · rw [List.filter_cons_of_pos keeps, List.findSome?_cons, earlier x List.mem_cons_self keeps]
        exact rest
      · rw [List.filter_cons_of_neg keeps]
        exact rest

end Terminal

namespace Ahead

theorem scan_eq_first {expected : TerminalSet} {t : Terminal} {c : Char} {cs : List Char} {n : Nat}
    (blank : Lexeme.blankLength? (c :: cs) = none) (member : expected.contains t = true)
    (own : t.lexemeLength? (c :: cs) = some n)
    (earlier : ∀ u ∈ t.preferred, expected.contains u = true → u.lexemeLength? (c :: cs) = none) :
    scan expected (c :: cs) = .lexeme t n := by
  have lexical : t ≠ .endOfInput := by
    rintro rfl
    cases own
  have first : (Terminal.precedence.filter expected.contains).findSome? (fun t =>
      (t.lexemeLength? (c :: cs)).map fun n => Ahead.lexeme t n) = some (.lexeme t n) := by
    refine Terminal.findSome?_filter_of_first (Terminal.mem_precedence lexical) member ?_ ?_
    · rw [own, Option.map_some]
    · intro u before expected
      rw [earlier u before expected, Option.map_none]
  simp only [scan, blank, first]

end Ahead

namespace Lexeme

/-- Blanks and comments start with such a character. -/
def startsBlank (c : Char) : Bool :=
  c == '#' || c == '-' || c == '/' || Text.isLayout c

theorem blankLength?_eq_none {c : Char} (solid : startsBlank c = false) (cs : List Char) :
    blankLength? (c :: cs) = none := by
  simp only [startsBlank, Bool.or_eq_false_iff, beq_eq_false_iff_ne] at solid
  obtain ⟨⟨⟨hash, dash⟩, slash⟩, layout⟩ := solid
  rw [blankLength?, if_neg (by simp [layout])]
  · exact hash
  · exact fun _ same => absurd same dash
  · exact fun _ same => absurd same slash

end Lexeme

/-! ### First characters of operands -/

theorem Text.isBlank_of_isLayout {c : Char} (layout : Text.isLayout c = true) :
    Text.isBlank c = true := by
  simp only [Text.isLayout, Bool.or_eq_true, beq_iff_eq] at layout
  obtain (((rfl | rfl) | rfl) | rfl) | rfl := layout <;> decide

/-- The text starts with no blank, and with no comment either when a minus sign stands before it. -/
def Opens (cs : List Char) : Prop :=
  ∃ c tail, cs = c :: tail ∧ Text.isBlank c = false ∧
    (c = '-' → ∃ d later, tail = d :: later ∧ Text.isBlank d = false)

theorem opens_cons {c : Char} (solid : Text.isBlank c = false) (other : c ≠ '-')
    (tail : List Char) : Opens (c :: tail) :=
  ⟨c, tail, rfl, solid, fun same => absurd same other⟩

theorem Opens.append {cs : List Char} (opens : Opens cs) (rest : List Char) :
    Opens (cs ++ rest) := by
  obtain ⟨c, tail, rfl, solid, behind⟩ := opens
  refine ⟨c, tail ++ rest, rfl, solid, fun dash => ?_⟩
  obtain ⟨d, later, rfl, visible⟩ := behind dash
  exact ⟨d, later ++ rest, rfl, visible⟩

theorem Opens.signed {cs : List Char} (opens : Opens cs) {sign : Char}
    (solid : Text.isBlank sign = false) : Opens (sign :: cs) := by
  obtain ⟨c, tail, rfl, visible, _⟩ := opens
  exact ⟨sign, c :: tail, rfl, solid, fun _ => ⟨c, tail, rfl, visible⟩⟩

theorem Opens.head_solid {cs : List Char} (opens : Opens cs) :
    ∀ c ∈ cs.head?, Text.isLayout c = false := by
  obtain ⟨c, tail, rfl, solid, _⟩ := opens
  intro d member
  cases member
  by_contra layout
  rw [Text.isBlank_of_isLayout (eq_true_of_ne_false layout)] at solid
  cases solid

theorem Opens.solid {cs : List Char} (opens : Opens cs) :
    ∃ c tail, cs = c :: tail ∧ Text.isLayout c = false := by
  have visible := opens.head_solid
  obtain ⟨c, tail, rfl, _⟩ := opens
  exact ⟨c, tail, rfl, visible c rfl⟩

theorem blankLength?_minus {cs : List Char} (opens : Opens cs) :
    Lexeme.blankLength? ('-' :: cs) = none := by
  obtain ⟨c, tail, rfl, _, behind⟩ := opens
  by_cases dash : c = '-'
  · obtain ⟨d, later, rfl, visible⟩ := behind dash
    subst dash
    simp [Lexeme.blankLength?, visible]
  · simp [Lexeme.blankLength?, dash, Text.isLayout]

theorem isUpper_iff_toNat {c : Char} : c.isUpper = true ↔ 65 ≤ c.toNat ∧ c.toNat ≤ 90 := by
  show decide ('A'.val ≤ c.val ∧ c.val ≤ 'Z'.val) = true ↔ _
  rw [decide_eq_true_iff, UInt32.le_iff_toNat_le, UInt32.le_iff_toNat_le]
  rfl

theorem isLower_iff_toNat {c : Char} : c.isLower = true ↔ 97 ≤ c.toNat ∧ c.toNat ≤ 122 := by
  show (decide ('a'.val ≤ c.val) && decide (c.val ≤ 'z'.val)) = true ↔ _
  rw [Bool.and_eq_true, decide_eq_true_iff, decide_eq_true_iff, UInt32.le_iff_toNat_le,
    UInt32.le_iff_toNat_le]
  rfl

theorem isAlpha_iff {c : Char} : c.isAlpha = true ↔ c.isUpper = true ∨ c.isLower = true := by
  show (c.isUpper || c.isLower) = true ↔ _
  rw [Bool.or_eq_true]

theorem isNameChar_of_small {c : Char} (small : (c.isLower || c == '_') = true) :
    Lexeme.isNameChar c = true := by
  rw [Bool.or_eq_true, beq_iff_eq] at small
  obtain lower | rfl := small
  · simp [Lexeme.isNameChar, Lexeme.isNameStart, isAlpha_iff.mpr (.inr lower)]
  · decide

theorem not_isNameStart_of_large {c : Char} (large : 128 ≤ c.toNat) :
    Lexeme.isNameStart c.toLower = false := by
  have same : c.toLower = c := by
    unfold Char.toLower
    refine dif_neg fun upper => ?_
    have bound : c.toNat ≤ 90 := UInt32.le_iff_toNat_le.mp upper.2
    omega
  have other {d : Char} (small : d.toNat < 128) : c ≠ d := by
    rintro rfl
    omega
  have letter : c.isAlpha = false := by
    rw [Bool.eq_false_iff, ne_eq, isAlpha_iff, isUpper_iff_toNat, isLower_iff_toNat]
    omega
  rw [same]
  simp [Lexeme.isNameStart, letter, other (d := '_') (by decide), other (d := '$') (by decide)]

theorem not_isBlank_of_isNameStart {c : Char}
    (start : Lexeme.isNameStart (Lexeme.foldLetter c) = true) : Text.isBlank c = false := by
  by_cases small : c.toNat < 128
  · have all : ∀ n < 128, Lexeme.isNameStart (Lexeme.foldLetter (Char.ofNat n)) = true →
        Text.isBlank (Char.ofNat n) = false := by decide
    simpa using all c.toNat small (by simpa using start)
  · unfold Lexeme.foldLetter at start
    split_ifs at start with s k i
    · rw [Text.isBlank, s]
      rfl
    · rw [Text.isBlank, k]
      rfl
    · rcases i with i | i
      · rw [Text.isBlank, i]
        rfl
      · rw [Text.isBlank, i]
        rfl
    · rw [not_isNameStart_of_large (by omega)] at start
      cases start

namespace Piece

variable {scope : TerminalSet} {t : Terminal} {c : Char} {cs rest : List Char}

theorem found_of_first (blank : Lexeme.blankLength? (c :: cs ++ rest) = none)
    (own : t.lexemeLength? (c :: cs ++ rest) = some (cs.length + 1))
    (earlier : ∀ u ∈ t.preferred, scope.contains u = true →
      u.lexemeLength? (c :: cs ++ rest) = none) : Found scope t (c :: cs) rest :=
  fun _ within member =>
    Ahead.scan_eq_first blank member own fun u before has => earlier u before (within u has)

/-- In front of a stop the lexemes are those of the spelling alone. -/
theorem found_of_lengths (stops : Stops rest) (bare : t.isBare = true)
    (blank : Lexeme.blankLength? (c :: cs ++ rest) = none)
    (own : t.lexemeLength? (c :: cs) = some (cs.length + 1))
    (earlier : ∀ u ∈ t.preferred, scope.contains u = true →
      u.isBare = true ∧ u.lexemeLength? (c :: cs) = none ∨ u.starts c = false) :
    Found scope t (c :: cs) rest := by
  refine found_of_first blank ?_ fun u before has => ?_
  · rw [Terminal.lexemeLength?_of_stops bare stops, own]
  · obtain ⟨unquoted, other⟩ | other := earlier u before has
    · rw [Terminal.lexemeLength?_of_stops unquoted stops, other]
    · exact Terminal.lexemeLength?_eq_none other (cs ++ rest)

/-! ### Keywords and marks -/

/-- The characters spell the terminal and no other that is preferred to it. -/
def spells (t : Terminal) : List Char → Bool
  | [] => false
  | c :: cs =>
    t.isBare && t.lexemeLength? (c :: cs) == some (cs.length + 1) &&
      Lexeme.blankLength? (c :: cs) == none && !(c == '/' && cs.head? == some '*') &&
      t.preferred.all fun u => u.isBare && u.lexemeLength? (c :: cs) == none || !u.starts c

theorem found_of_spells (spelled : spells t cs = true) (stops : Stops rest) :
    Found scope t cs rest := by
  cases cs with
  | nil => cases spelled
  | cons c cs =>
    simp only [spells, Bool.and_eq_true, beq_iff_eq] at spelled
    obtain ⟨⟨⟨⟨bare, own⟩, solid⟩, closed⟩, others⟩ := spelled
    have blank : Lexeme.blankLength? (c :: cs ++ rest) = none := by
      cases rest with
      | nil => rwa [List.append_nil]
      | cons x rest =>
        obtain none | ⟨left, comment⟩ := Lexeme.blankLength?_append_of_none solid (stops x rfl) rest
        · exact none
        · cases comment
          cases closed
    refine found_of_lengths stops bare blank own fun u before _ => ?_
    simpa using List.all_eq_true.mp others u before

/-! ### Quoted texts and variables -/

/-- The characters that tell what follows from all that is preferred to it. -/
def leads : List (Terminal × Char) :=
  [(.leftParen, '('), (.string, singleQuote), (.quotedName, backQuote), (.variableName, '@')]

theorem leads_apart :
    (leads.all fun lead => lead.1.preferred.all fun u => !u.starts lead.2) = true :=
  Terminal.all_preferred_of_marks (fun _ starts => !starts) (by decide) (by decide +kernel)

theorem found_of_lead (lead : (t, c) ∈ leads)
    (own : t.lexemeLength? (c :: cs ++ rest) = some (cs.length + 1)) :
    Found scope t (c :: cs) rest := by
  have solid : (leads.all fun lead => !Lexeme.startsBlank lead.2) = true := by decide
  have solid := List.all_eq_true.mp solid (t, c) lead
  refine found_of_first (Lexeme.blankLength?_eq_none (by simpa using solid) _) own
    fun u before _ => ?_
  have apart := List.all_eq_true.mp leads_apart (t, c) lead
  have other := List.all_eq_true.mp apart u before
  exact Terminal.lexemeLength?_eq_none (by simpa using other) (cs ++ rest)

theorem found_leftParen (rest : List Char) : Found scope .leftParen ['('] rest :=
  found_of_lead (by decide) rfl

theorem found_quoteString (s : String) (avoids : Avoids singleQuote rest) :
    Found scope .string (Text.quoteString s).toList rest := by
  have size := Lexeme.stringLength?_quoteString avoids s
  rw [Text.toList_quoteString] at size ⊢
  exact found_of_lead (by decide) size

theorem found_quoteName {name : String} (named : name ≠ "") (avoids : Avoids backQuote rest) :
    Found scope .quotedName (Text.quoteName name).toList rest := by
  have size := Lexeme.quotedNameLength?_quoteName avoids named
  rw [Text.toList_quoteName] at size ⊢
  exact found_of_lead (by decide) size

theorem found_variable (own : Lexeme.variableLength? ('@' :: cs) = some (cs.length + 1))
    (stops : Stops rest) : Found scope .variableName ('@' :: cs) rest := by
  refine found_of_lead (by decide) ?_
  rw [Terminal.lexemeLength?_of_stops rfl stops]
  exact own

/-! ### Points and numbers -/

/-- Terminals whose lexemes may start with a digit or a point. -/
def numeric : List Terminal :=
  [.hexNumber, .bitNumber, .number]

/-- In front of a point or a digit only numbers are preferred. -/
theorem numeric_apart :
    ((.dot, '.') :: "0123456789".toList.map (Terminal.number, ·)).all (fun lead =>
      lead.1.preferred.all fun u => numeric.contains u || !u.starts lead.2) = true :=
  Terminal.all_preferred_of_marks (fun u starts => numeric.contains u || !starts) (by decide)
    (by decide +kernel)

theorem found_dot (rest : List Char) : Found scope .dot ['.'] (backQuote :: rest) := by
  refine found_of_first (Lexeme.blankLength?_eq_none (by decide) _) rfl fun u before _ => ?_
  have apart := List.all_eq_true.mp numeric_apart (.dot, '.') List.mem_cons_self
  have other := List.all_eq_true.mp apart u before
  rw [Bool.or_eq_true] at other
  obtain number | other := other
  · have listed : u ∈ numeric := by simpa using number
    simp only [numeric, List.mem_cons, List.not_mem_nil, or_false] at listed
    obtain rfl | rfl | rfl := listed <;> rfl
  · exact Terminal.lexemeLength?_eq_none (by simpa using other) _

theorem found_digits {digits : List Char} (occupied : digits ≠ [])
    (all : ∀ c ∈ digits, c.isDigit = true) (stops : Stops rest) :
    Found scope .number digits rest := by
  have size := Lexeme.numberLength?_digits occupied all
  cases digits with
  | nil => exact absurd rfl occupied
  | cons c digits =>
    have first := all c List.mem_cons_self
    have solid : Lexeme.startsBlank c = false := by
      simpa using Lexeme.holds_of_isDigit (p := fun c => !Lexeme.startsBlank c) (by decide) first
    have lead : (Terminal.number, c) ∈ "0123456789".toList.map (Terminal.number, ·) := by
      have listed := Lexeme.holds_of_isDigit (p := "0123456789".toList.contains) (by decide) first
      exact List.mem_map.mpr ⟨c, by simpa using listed, rfl⟩
    have apart := List.all_eq_true.mp numeric_apart _ (List.mem_cons_of_mem _ lead)
    refine found_of_lengths stops rfl (Lexeme.blankLength?_eq_none solid _) size
      fun u before _ => ?_
    have other := List.all_eq_true.mp apart u before
    rw [Bool.or_eq_true] at other
    obtain number | other := other
    · have listed : u ∈ numeric := by simpa using number
      simp only [numeric, List.mem_cons, List.not_mem_nil, or_false] at listed
      obtain rfl | rfl | rfl := listed
      · exact .inl ⟨rfl, Lexeme.basedLength?_digits (by decide) all⟩
      · exact .inl ⟨rfl, Lexeme.basedLength?_digits (by decide) all⟩
      · exact absurd before (by decide)
    · exact .inr (by simpa using other)

theorem found_hexNumber {digits : List Char} (all : ∀ c ∈ digits, Lexeme.isHexDigit c = true)
    (stops : Stops rest) :
    Found scope .hexNumber ('X' :: singleQuote :: (digits ++ [singleQuote])) rest := by
  have size := Lexeme.basedLength?_quoted (m := 'X') rfl (by decide) all (by decide)
  refine found_of_lengths stops rfl (Lexeme.blankLength?_eq_none (by decide) _) ?_
    fun u before _ => ?_
  · refine size.trans ?_
    simp
  · cases before

theorem found_bitNumber {digits : List Char} (all : ∀ c ∈ digits, Lexeme.isBitDigit c = true)
    (stops : Stops rest) :
    Found scope .bitNumber ('B' :: singleQuote :: (digits ++ [singleQuote])) rest := by
  have size := Lexeme.basedLength?_quoted (m := 'B') rfl (by decide) all (by decide)
  refine found_of_lengths stops rfl (Lexeme.blankLength?_eq_none (by decide) _) ?_
    fun u before _ => ?_
  · refine size.trans ?_
    simp
  · have others : (Terminal.bitNumber.preferred.all fun u => !u.starts 'B') = true := by decide
    exact .inr (by simpa using List.all_eq_true.mp others u before)

end Piece

end SqlSyntax
