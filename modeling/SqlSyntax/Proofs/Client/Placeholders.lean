import SqlSyntax.Client.Literals
import SqlSyntax.Proofs.Lexical.Body
import SqlSyntax.Proofs.Lexical.Continuations
import SqlSyntax.Proofs.Lexical.Recased

/-!
# Placeholders for literals

Literals are found in a text from its start on, with no regard to tokens. An apostrophe begins a
string that may end anywhere behind it, so what is found depends on all that stands in front. In a
text whose apostrophes pair up the literals are the same whatever follows, unless one could go on
into that.
-/

namespace SqlSyntax

/-! ### Characters -/

namespace Text

/-- One span has all code points from `low` to `high`. -/
def Spans.covers : Spans → Nat → Nat → Bool
  | first :: last :: rest, low, high =>
    Nat.ble first low && bif Nat.blt last low then covers rest low high else Nat.ble high last
  | _, _, _ => false

theorem Spans.contains_of_covers {spans : Spans} {low high code : Nat}
    (covers : spans.covers low high = true) (least : low ≤ code) (most : code ≤ high) :
    spans.contains code = true := by
  fun_induction Spans.contains spans code with
  | case1 first last rest code before =>
    rw [Spans.covers, Bool.and_eq_true, Nat.ble_eq] at covers
    omega
  | case2 => rfl
  | case3 first last rest code _ behind ih =>
    rw [Spans.covers, Bool.and_eq_true] at covers
    cases later : Nat.blt last low with
    | true =>
      rw [later] at covers
      exact ih covers.2 least most
    | false =>
      simp only [later, Bool.cond_false, Nat.ble_eq] at covers
      omega
  | case4 spans code short =>
    rcases spans with _ | ⟨first, _ | ⟨last, rest⟩⟩
    · cases covers
    · cases covers
    · exact (short first last rest rfl).elim

theorem isWordChar_of_isDigit {c : Char} (digit : isDigit c = true) : isWordChar c = true := by
  by_cases ascii : c.toNat < 128
  · rw [isDigit, digitValue?, if_pos ascii] at digit
    rw [isWordChar, isAlphanumeric, if_pos ascii, Char.isAlphanum]
    split at digit
    · rename_i decimal
      rw [decimal, Bool.or_true, Bool.or_true]
    · cases digit
  · rw [isDigit, digitValue?, if_neg ascii, Option.isSome_map, List.find?_isSome] at digit
    obtain ⟨start, listed, within⟩ := digit
    have all : digitZeros.all (fun start => numeralSpans.covers start (start + 9)) = true := by
      decide +kernel
    rw [Bool.and_eq_true, decide_eq_true_iff, decide_eq_true_iff] at within
    have numeral : numeralSpans.contains c.toNat = true :=
      Spans.contains_of_covers (List.all_eq_true.mp all start listed) within.1 (by omega)
    rw [isWordChar, isAlphanumeric, if_neg ascii, numeral, Bool.or_true, Bool.or_true]

end Text

namespace Literals

open Text (singleQuote backslash)

/-- The character may stand in a number. -/
def inNumeral (c : Char) : Bool :=
  Text.isWordChar c || c == '.'

theorem inNumeral_of_isWordChar {c : Char} (word : Text.isWordChar c = true) :
    inNumeral c = true := by
  rw [inNumeral, word, Bool.true_or]

theorem inNumeral_of_isDigit (c : Char) (digit : Text.isDigit c = true) : inNumeral c = true :=
  inNumeral_of_isWordChar (Text.isWordChar_of_isDigit digit)

theorem inNumeral_of_isHexDigit (c : Char) (digit : Lexeme.isHexDigit c = true) :
    inNumeral c = true := by
  have small := Text.toNat_lt_of_isNameChar (Lexeme.isNameChar_of_isHexDigit digit)
  exact inNumeral_of_isWordChar (Text.holds_of_small (p := fun c => Lexeme.isHexDigit c = true →
    Text.isWordChar c = true) small (by decide) digit)

theorem inNumeral_of_isBitDigit (c : Char) (digit : Lexeme.isBitDigit c = true) :
    inNumeral c = true := by
  obtain rfl | rfl : c = '0' ∨ c = '1' := by simpa [Lexeme.isBitDigit] using digit
  · decide
  · decide

theorem inNumeral_of_toLower {m : Char} (marked : m.toLower = 'x' ∨ m.toLower = 'b') :
    inNumeral m = true := by
  have word := Lexeme.isWordChar_toLower m
  apply inNumeral_of_isWordChar
  rw [← word]
  rcases marked with same | same <;> rw [same] <;> decide

theorem ne_of_inNumeral {c d : Char} (outside : inNumeral c = false) (inside : inNumeral d = true) :
    c ≠ d := by
  rintro rfl
  rw [outside] at inside
  cases inside

/-! ### Strings -/

/-- What may stand between the apostrophes of a string; no line feed is escaped. -/
inductive Inside : List Char → Prop
  | nil : Inside []
  | pair {rest : List Char} (inside : Inside rest) : Inside (singleQuote :: singleQuote :: rest)
  | escape {c : Char} {rest : List Char} (allowed : c ≠ '\n') (inside : Inside rest) :
      Inside (backslash :: c :: rest)
  | plain {c : Char} {rest : List Char} (other : c ≠ singleQuote) (ordinary : c ≠ backslash)
      (inside : Inside rest) : Inside (c :: rest)

theorem Inside.append {body more : List Char} (inside : Inside body) (onward : Inside more) :
    Inside (body ++ more) := by
  induction inside with
  | nil => exact onward
  | pair _ ih => exact .pair ih
  | escape allowed _ ih => exact .escape allowed ih
  | plain other ordinary _ ih => exact .plain other ordinary ih

/-- A string ends at its own end unless an apostrophe follows. -/
theorem stringEnd?_inside {body rest : List Char} (inside : Inside body)
    (avoids : Avoids singleQuote rest) (taken : Nat) (last : Option Nat) :
    stringEnd? (body ++ singleQuote :: rest) taken last = some (taken + body.length + 1) := by
  induction inside generalizing taken last with
  | nil =>
    cases rest with
    | nil => rfl
    | cons d rest =>
      have other : d ≠ singleQuote := fun same => avoids (by simp [same])
      rw [List.nil_append, stringEnd?, if_pos rfl, if_neg other]
      rfl
  | @pair body _ ih =>
    rw [List.cons_append, List.cons_append, stringEnd?, if_pos rfl, if_pos rfl, ih,
      List.length_cons, List.length_cons]
    congr 1
    omega
  | @escape c body allowed _ ih =>
    rw [List.cons_append, List.cons_append, stringEnd?, if_neg (by decide), if_pos rfl,
      if_neg allowed, ih, List.length_cons, List.length_cons]
    congr 1
    omega
  | @plain c body other ordinary _ ih =>
    have onward := ih (taken + 1) last
    rw [List.cons_append, List.length_cons]
    cases behind : body ++ singleQuote :: rest with
    | nil => simp at behind
    | cons d tail =>
      rw [behind] at onward
      rw [stringEnd?, if_neg other, if_neg ordinary, onward]
      congr 1
      omega

/-! ### Apostrophes that pair up -/

/-- All apostrophes of the text are those of strings. -/
inductive Even : List Char → Prop
  | nil : Even []
  | plain {c : Char} {rest : List Char} (other : c ≠ singleQuote) (even : Even rest) :
      Even (c :: rest)
  | string {body rest : List Char} (inside : Inside body) (even : Even rest) :
      Even (singleQuote :: (body ++ singleQuote :: rest))

namespace Even

variable {cs : List Char}

theorem append {front back : List Char} (first : Even front) (second : Even back) :
    Even (front ++ back) := by
  induction first with
  | nil => exact second
  | plain other _ ih => exact .plain other ih
  | string inside _ ih =>
    rw [List.cons_append, List.append_assoc, List.cons_append]
    exact .string inside ih

theorem of_not_mem (absent : singleQuote ∉ cs) : Even cs := by
  induction cs with
  | nil => exact .nil
  | cons c cs ih =>
    rw [List.mem_cons, not_or] at absent
    exact .plain (Ne.symm absent.1) (ih absent.2)

theorem tail {c : Char} (even : Even (c :: cs)) (other : c ≠ singleQuote) : Even cs := by
  cases even with
  | plain _ even => exact even
  | string => exact absurd rfl other

/-- Characters other than apostrophes can be taken off the front. -/
theorem drop {n : Nat} (even : Even cs) (absent : singleQuote ∉ cs.take n) : Even (cs.drop n) := by
  induction n generalizing cs with
  | zero => exact even
  | succ n ih =>
    cases cs with
    | nil => exact .nil
    | cons c cs =>
      rw [List.take_succ_cons, List.mem_cons, not_or] at absent
      exact ih (even.tail (Ne.symm absent.1)) absent.2

/-- The string that begins at an apostrophe, together with those that follow it at once. -/
theorem exists_string (even : Even (singleQuote :: cs)) :
    ∃ body rest, cs = body ++ singleQuote :: rest ∧ Inside body ∧ Even rest ∧
      Avoids singleQuote rest := by
  generalize same : singleQuote :: cs = text at even
  induction even generalizing cs with
  | nil => cases same
  | plain other _ _ =>
    cases same
    exact absurd rfl other
  | @string body rest inside even ih =>
    cases same
    by_cases avoids : Avoids singleQuote rest
    · exact ⟨body, rest, rfl, inside, even, avoids⟩
    · obtain ⟨more, rfl⟩ := List.head?_eq_some_iff.mp (Decidable.not_not.mp avoids)
      obtain ⟨onward, last, rfl, continued, even, avoids⟩ := ih rfl
      exact ⟨body ++ singleQuote :: singleQuote :: onward, last, by simp,
        inside.append (.pair continued), even, avoids⟩

/-- Behind the first apostrophe of a string its other apostrophes pair up. -/
theorem behind {body rest digits tail : List Char} (inside : Inside body) (even : Even rest)
    (plain : ∀ c ∈ digits, c ≠ singleQuote ∧ c ≠ backslash)
    (same : body ++ singleQuote :: rest = digits ++ singleQuote :: tail) : Even tail := by
  induction digits generalizing body with
  | nil =>
    cases inside with
    | nil =>
      cases same
      exact even
    | @pair more inside =>
      cases same
      exact .string inside even
    | escape => cases same
    | plain other _ _ =>
      cases same
      exact absurd rfl other
  | cons d digits ih =>
    obtain ⟨first, plain⟩ := List.forall_mem_cons.mp plain
    cases inside with
    | nil =>
      cases same
      exact absurd rfl first.1
    | pair => exact absurd (List.cons.inj same).1.symm first.1
    | escape => exact absurd (List.cons.inj same).1.symm first.2
    | plain _ _ inside => exact ih inside plain (List.cons.inj same).2

end Even

/-! ### What follows makes no difference -/

/-- A literal may go on from the one character to the other: within a number, at an apostrophe
written twice, and from the mark of a base to its digits. -/
def Joins (c d : Char) : Prop :=
  inNumeral c = true ∧ inNumeral d = true ∨
    d = singleQuote ∧ (c = singleQuote ∨ c.toLower = 'x' ∨ c.toLower = 'b')

instance (c d : Char) : Decidable (Joins c d) :=
  inferInstanceAs (Decidable (_ ∨ _))

/-- No literal goes on from the end of the one text to the start of the other. -/
def Parts (front back : List Char) : Prop :=
  ∀ c ∈ front.getLast?, ∀ d ∈ back.head?, ¬ Joins c d

namespace Parts

variable {cs rest : List Char} {c : Char}

theorem tail {d : Char} (parts : Parts (c :: d :: cs) rest) : Parts (d :: cs) rest := by
  intro e last
  exact parts e (by rwa [List.getLast?_cons_cons])

theorem drop (parts : Parts cs rest) (n : Nat) : Parts (cs.drop n) rest := by
  intro e last
  rw [List.getLast?_drop] at last
  split_ifs at last
  · cases last
  · exact parts e last

/-- A number is over where the other text starts. -/
theorem outside (parts : Parts cs rest) (last : c ∈ cs.getLast?) (numeral : inNumeral c = true) :
    ∀ d ∈ rest.head?, inNumeral d = false := by
  intro d first
  rw [Bool.eq_false_iff]
  intro inside
  exact parts c last d first (.inl ⟨numeral, inside⟩)

/-- Runs within a number end where the other text starts, if not before. -/
theorem run {p : Char → Bool} (joined : ∀ c, p c = true → inNumeral c = true)
    (parts : Parts (c :: cs) rest) (numeral : inNumeral c = true) :
    Lexeme.runLength p (cs ++ rest) = Lexeme.runLength p cs ∧
      ∃ e, inNumeral e = true ∧ Parts (e :: cs.drop (Lexeme.runLength p cs)) rest := by
  induction cs generalizing c with
  | nil =>
    refine ⟨?_, c, numeral, parts⟩
    cases rest with
    | nil => rfl
    | cons d rest =>
      have stops : ¬ p d = true := by
        intro holds
        exact ne_of_inNumeral (parts.outside rfl numeral d rfl) (joined d holds) rfl
      simp [Lexeme.runLength, stops]
  | cons d cs ih =>
    by_cases holds : p d = true
    · obtain ⟨run, behind⟩ := ih parts.tail (joined d holds)
      simp only [Lexeme.runLength] at run behind
      simp only [Lexeme.runLength, List.cons_append, List.takeWhile_cons_of_pos holds,
        List.length_cons, run, List.drop_succ_cons, true_and]
      exact behind
    · simp only [Lexeme.runLength, List.cons_append, List.takeWhile_cons_of_neg holds,
        List.length_nil, List.drop_zero, true_and]
      exact ⟨c, numeral, parts⟩

theorem endsWord_append (parts : Parts (c :: cs) rest) (numeral : inNumeral c = true) :
    endsWord (cs ++ rest) = endsWord cs := by
  cases cs with
  | cons d cs => rfl
  | nil =>
    cases rest with
    | nil => rfl
    | cons d rest =>
      have outside := parts.outside rfl numeral d rfl
      rw [inNumeral, Bool.or_eq_false_iff] at outside
      simp [endsWord, outside.1]

end Parts

theorem markedLength?_of_ne {c : Char} (other : c ≠ '0') (mark : Char) (p : Char → Bool)
    (cs : List Char) : markedLength? mark p (c :: cs) = none := by
  unfold markedLength?
  split
  · rename_i same
    exact absurd (List.cons.inj same).1 other
  · rfl

theorem markedLength?_of_mark_ne {m mark : Char} (other : m ≠ mark) (p : Char → Bool)
    (cs : List Char) : markedLength? mark p ('0' :: m :: cs) = none := by
  simp [markedLength?, other]

theorem markedLength?_of_second {mark : Char} {cs : List Char} (other : cs.head? ≠ some mark)
    (c : Char) (p : Char → Bool) : markedLength? mark p (c :: cs) = none := by
  by_cases zero : c = '0'
  · subst zero
    cases cs with
    | nil => rfl
    | cons m cs => exact markedLength?_of_mark_ne (fun same => other (by simp [same])) p cs
  · exact markedLength?_of_ne zero mark p cs

theorem quotedDigitsLength?_of_first {m : Char} (other : ¬ (m.toLower = 'x' ∨ m.toLower = 'b'))
    (cs : List Char) : quotedDigitsLength? (m :: cs) = none := by
  cases cs <;> simp [quotedDigitsLength?, other]

theorem quotedDigitsLength?_of_second {cs : List Char} (other : Avoids singleQuote cs) (m : Char) :
    quotedDigitsLength? (m :: cs) = none := by
  cases cs with
  | nil => rfl
  | cons d cs =>
    have unquoted : d ≠ singleQuote := fun same => other (by simp [same])
    simp [quotedDigitsLength?, unquoted]

section Local

variable {c : Char} {cs rest : List Char} (parts : Parts (c :: cs) rest)

include parts

theorem markedLength?_append {mark : Char} {p : Char → Bool} (numeral : inNumeral mark = true)
    (joined : ∀ c, p c = true → inNumeral c = true) :
    markedLength? mark p (c :: (cs ++ rest)) = markedLength? mark p (c :: cs) := by
  by_cases zero : c = '0'
  · subst zero
    rcases cs with _ | ⟨m, cs⟩
    · refine markedLength?_of_second (fun first => ?_) _ _
      exact ne_of_inNumeral (parts.outside rfl (by decide) mark first) numeral rfl
    by_cases marked : m = mark
    · subst marked
      obtain ⟨run, e, within, behind⟩ := parts.tail.run joined numeral
      have most := Lexeme.runLength_le p cs
      simp only [List.cons_append, markedLength?, run, List.drop_append_of_le_length most,
        behind.endsWord_append within]
    · rw [List.cons_append, markedLength?_of_mark_ne marked, markedLength?_of_mark_ne marked]
  · rw [markedLength?_of_ne zero, markedLength?_of_ne zero]

/-- The second apostrophe stands in the text itself, where apostrophes pair up. -/
theorem quotedDigitsLength?_append (even : Even (c :: cs)) :
    quotedDigitsLength? (c :: (cs ++ rest)) = quotedDigitsLength? (c :: cs) := by
  by_cases marked : c.toLower = 'x' ∨ c.toLower = 'b'
  · have other : c ≠ singleQuote := by
      rintro rfl
      exact absurd marked (by decide)
    rcases cs with _ | ⟨d, cs⟩
    · refine quotedDigitsLength?_of_second (fun first => ?_) c
      exact parts c rfl singleQuote first (.inr ⟨rfl, .inr marked⟩)
    by_cases quoted : d = singleQuote
    · subst quoted
      obtain ⟨body, back, rfl, -, -, -⟩ := (even.tail other).exists_string
      have stops : Lexeme.isHexDigit singleQuote = false := by decide
      have run (r : List Char) := Lexeme.runLength_append _ stops body (r := r)
      have most := Lexeme.runLength_le Lexeme.isHexDigit body
      simp only [List.cons_append, List.append_assoc, quotedDigitsLength?, run,
        List.drop_append_of_le_length most, List.head?_append, List.head?_cons]
    · simp [quotedDigitsLength?, quoted]
  · rw [quotedDigitsLength?_of_first marked, quotedDigitsLength?_of_first marked]

theorem numberLength?_append : numberLength? (c :: (cs ++ rest)) = numberLength? (c :: cs) := by
  by_cases digit : Text.isDigit c = true
  · have size (back : List Char) : Lexeme.runLength Text.isDigit (c :: back) =
        Lexeme.runLength Text.isDigit back + 1 := by
      simp [Lexeme.runLength, digit]
    obtain ⟨run, e, within, behind⟩ := parts.run inNumeral_of_isDigit (inNumeral_of_isDigit c digit)
    have most := Lexeme.runLength_le Text.isDigit cs
    rw [numberLength?, numberLength?, size, size, run, List.drop_succ_cons, List.drop_succ_cons,
      List.drop_append_of_le_length most]
    generalize cs.drop (Lexeme.runLength Text.isDigit cs) = back at behind
    rcases back with _ | ⟨d, back⟩
    · rcases rest with _ | ⟨d, rest⟩
      · rfl
      have ends := behind.endsWord_append within
      have other : d ≠ '.' := ne_of_inNumeral (behind.outside rfl within d rfl) (by decide)
      rw [List.nil_append] at ends ⊢
      simp [other, ends]
    by_cases point : d = '.'
    · subst point
      obtain ⟨run, e, within, behind⟩ := behind.tail.run inNumeral_of_isDigit (by decide)
      have most := Lexeme.runLength_le Text.isDigit back
      simp only [List.cons_append, run, List.drop_append_of_le_length most,
        behind.endsWord_append within]
    · simp [point, endsWord]
  · simp [numberLength?, Lexeme.runLength, digit]

theorem stringLength?_append (even : Even (c :: cs)) :
    stringLength? (c :: (cs ++ rest)) = stringLength? (c :: cs) := by
  by_cases quoted : c = singleQuote
  · subst quoted
    obtain ⟨body, back, rfl, inside, -, avoids⟩ := even.exists_string
    have onward : Avoids singleQuote (back ++ rest) := by
      cases back with
      | cons d back => exact avoids
      | nil =>
        intro first
        exact parts singleQuote (List.getLast?_concat (l := singleQuote :: body)) singleQuote first
          (.inr ⟨rfl, .inl rfl⟩)
    rw [List.append_assoc, List.cons_append, stringLength?, if_pos rfl, stringLength?,
      if_pos rfl, stringEnd?_inside inside onward, stringEnd?_inside inside avoids]
  · simp [stringLength?, quoted]

/-- The literal ahead is the same. -/
theorem length?_append (even : Even (c :: cs)) (insideWord : Bool) :
    length? insideWord (c :: (cs ++ rest)) = length? insideWord (c :: cs) := by
  rw [length?, length?, markedLength?_append parts (by decide) inNumeral_of_isHexDigit,
    markedLength?_append parts (by decide) inNumeral_of_isBitDigit,
    quotedDigitsLength?_append parts even, numberLength?_append parts,
    stringLength?_append parts even]

end Local

/-! ### What a literal takes -/

theorem not_mem_take_runLength {p : Char → Bool} (other : p singleQuote = false) (cs : List Char) :
    singleQuote ∉ cs.take (Lexeme.runLength p cs) := by
  rw [Lexeme.take_runLength]
  intro member
  have holds := List.mem_takeWhile_imp member
  rw [other] at holds
  cases holds

theorem length?_cases {insideWord : Bool} {cs : List Char} {n : Nat}
    (found : length? insideWord cs = some n) :
    markedLength? 'x' Lexeme.isHexDigit cs = some n ∨
      markedLength? 'b' Lexeme.isBitDigit cs = some n ∨
      quotedDigitsLength? cs = some n ∨ stringLength? cs = some n ∨ numberLength? cs = some n := by
  have own {found : Option Nat} (reported : (if insideWord then none else found) = some n) :
      found = some n := by
    split at reported
    · cases reported
    · exact reported
  rw [length?] at found
  rcases Option.or_eq_some_iff.mp found with found | ⟨-, found⟩
  · exact .inl (own found)
  rcases Option.or_eq_some_iff.mp found with found | ⟨-, found⟩
  · exact .inr (.inl (own found))
  rcases Option.or_eq_some_iff.mp found with found | ⟨-, found⟩
  · exact .inr (.inr (.inl (own found)))
  rcases Option.or_eq_some_iff.mp found with found | ⟨-, found⟩
  · exact .inr (.inr (.inr (.inl found)))
  · exact .inr (.inr (.inr (.inr (own found))))

/-- The literal has characters, and behind it the apostrophes still pair up. -/
def Leaves (cs : List Char) (n : Nat) : Prop :=
  0 < n ∧ n ≤ cs.length ∧ Even (cs.drop n)

variable {cs : List Char} {n : Nat}

theorem leaves_marked {mark : Char} {p : Char → Bool} (even : Even cs) (plain : mark ≠ singleQuote)
    (other : p singleQuote = false) (found : markedLength? mark p cs = some n) : Leaves cs n := by
  unfold markedLength? at found
  split at found
  · rename_i m rest
    dsimp only at found
    split_ifs at found with holds
    cases found
    obtain ⟨rfl, -, -⟩ := holds
    have within := Lexeme.runLength_le p rest
    have even := (even.tail (by decide)).tail plain
    exact ⟨by omega, by simpa using within, even.drop (not_mem_take_runLength other rest)⟩
  · cases found

theorem leaves_quotedDigits (even : Even cs) (found : quotedDigitsLength? cs = some n) :
    Leaves cs n := by
  unfold quotedDigitsLength? at found
  split at found
  · rename_i m quote rest
    dsimp only at found
    split_ifs at found with holds
    cases found
    obtain ⟨marked, rfl, closed⟩ := holds
    have other : m ≠ singleQuote := by
      rintro rfl
      exact absurd marked (by decide)
    obtain ⟨tail, behind⟩ := List.head?_eq_some_iff.mp closed
    obtain ⟨body, back, same, inside, even, -⟩ := (even.tail other).exists_string
    have plain : ∀ c ∈ rest.take (Lexeme.runLength Lexeme.isHexDigit rest),
        c ≠ singleQuote ∧ c ≠ backslash := by
      intro c member
      rw [Lexeme.take_runLength] at member
      have digit := List.mem_takeWhile_imp member
      constructor
      · rintro rfl
        cases digit
      · rintro rfl
        cases digit
    have whole : body ++ singleQuote :: back =
        rest.take (Lexeme.runLength Lexeme.isHexDigit rest) ++ singleQuote :: tail := by
      rw [← same, ← behind, List.take_append_drop]
    have left : (m :: singleQuote :: rest).drop (Lexeme.runLength Lexeme.isHexDigit rest + 3) =
        tail := by
      rw [List.drop_succ_cons, List.drop_succ_cons, ← List.drop_drop, behind]
      rfl
    have room := congrArg List.length behind
    rw [List.length_drop, List.length_cons] at room
    refine ⟨by omega, ?_, ?_⟩
    · rw [List.length_cons, List.length_cons]
      omega
    · rw [left]
      exact Even.behind inside even plain whole
  · cases found

theorem leaves_string (even : Even cs) (found : stringLength? cs = some n) : Leaves cs n := by
  unfold stringLength? at found
  split at found
  · rename_i c rest
    split_ifs at found with quoted
    subst quoted
    obtain ⟨body, back, rfl, inside, even, avoids⟩ := even.exists_string
    rw [stringEnd?_inside inside avoids] at found
    cases found
    have left : (singleQuote :: (body ++ singleQuote :: back)).drop (1 + body.length + 1) =
        back := by
      rw [List.drop_succ_cons, Nat.add_comm, ← List.drop_drop, List.drop_left]
      rfl
    refine ⟨by omega, ?_, ?_⟩
    · simp
      omega
    · rwa [left]
  · cases found

theorem leaves_number (even : Even cs) (found : numberLength? cs = some n) : Leaves cs n := by
  have within := Lexeme.runLength_le Text.isDigit cs
  have behind := even.drop (not_mem_take_runLength (p := Text.isDigit) (by decide) cs)
  have room : (cs.drop (Lexeme.runLength Text.isDigit cs)).length =
      cs.length - Lexeme.runLength Text.isDigit cs := List.length_drop
  unfold numberLength? at found
  dsimp only at found
  split_ifs at found with none
  split at found
  · rename_i rest point
    have places := Lexeme.runLength_le Text.isDigit rest
    have left :
        cs.drop (Lexeme.runLength Text.isDigit cs + 1 + Lexeme.runLength Text.isDigit rest) =
        rest.drop (Lexeme.runLength Text.isDigit rest) := by
      rw [← List.drop_drop, ← List.drop_drop, point]
      rfl
    rw [point, List.length_cons] at room
    split_ifs at found
    · cases found
      refine ⟨by omega, by omega, ?_⟩
      rw [point] at behind
      rw [left]
      exact (behind.tail (by decide)).drop (not_mem_take_runLength (by decide) rest)
    · cases found
      exact ⟨by omega, within, behind⟩
  · split_ifs at found
    cases found
    exact ⟨by omega, within, behind⟩

theorem leaves_length? {insideWord : Bool} (even : Even cs)
    (found : length? insideWord cs = some n) : Leaves cs n := by
  rcases length?_cases found with found | found | found | found | found
  · exact leaves_marked even (by decide) (by decide) found
  · exact leaves_marked even (by decide) (by decide) found
  · exact leaves_quotedDigits even found
  · exact leaves_string even found
  · exact leaves_number even found

/-! ### Replacing -/

/-- Whether a text ends inside of a word. -/
def after (insideWord : Bool) (cs : List Char) : Bool :=
  cs.foldl (fun _ c => Text.isWordChar c) insideWord

theorem after_concat (insideWord : Bool) (front : List Char) (c : Char) :
    after insideWord (front ++ [c]) = Text.isWordChar c := by
  rw [after, List.foldl_append, List.foldl_cons, List.foldl_nil]

theorem after_append (insideWord : Bool) (front back : List Char) :
    after insideWord (front ++ back) = after (after insideWord front) back :=
  List.foldl_append

/-- What belongs to the last literal is passed over. -/
theorem replaceFrom_skip (next : Nat) (insideWord : Bool) (front rest : List Char) :
    replaceFrom next front.length insideWord (front ++ rest) =
      replaceFrom next 0 (after insideWord front) rest := by
  induction front generalizing insideWord with
  | nil => rfl
  | cons c front ih => exact ih (Text.isWordChar c)

theorem replaceFrom_of_some {next n : Nat} {insideWord : Bool} {cs : List Char}
    (found : length? insideWord cs = some n) (some : 0 < n) (within : n ≤ cs.length) :
    replaceFrom next 0 insideWord cs = '$' :: (toString next).toList ++
      replaceFrom (next + 1) 0 (after insideWord (cs.take n)) (cs.drop n) := by
  cases cs with
  | nil =>
    rw [List.length_nil] at within
    omega
  | cons c cs =>
    obtain ⟨n, rfl⟩ : ∃ k, n = k + 1 := ⟨n - 1, by omega⟩
    have skip := replaceFrom_skip (next + 1) (Text.isWordChar c) (cs.take n) (cs.drop n)
    rw [List.length_cons] at within
    rw [List.take_append_drop, List.length_take_of_le (by omega)] at skip
    rw [replaceFrom, found]
    dsimp only
    rw [Nat.add_sub_cancel, skip]
    rfl

theorem replaceFrom_of_none {next : Nat} {insideWord : Bool} {c : Char} {cs : List Char}
    (found : length? insideWord (c :: cs) = none) :
    replaceFrom next 0 insideWord (c :: cs) = c :: replaceFrom next 0 (Text.isWordChar c) cs := by
  rw [replaceFrom, found]

/-- An apostrophe begins a string where the apostrophes pair up. -/
theorem ne_of_length?_eq_none {insideWord : Bool} {c : Char} (even : Even (c :: cs))
    (none : length? insideWord (c :: cs) = none) : c ≠ singleQuote := by
  rintro rfl
  obtain ⟨body, back, rfl, inside, -, avoids⟩ := even.exists_string
  simp only [length?, Option.or_eq_none_iff] at none
  obtain ⟨-, -, -, string, -⟩ := none
  rw [stringLength?, if_pos rfl, stringEnd?_inside inside avoids] at string
  cases string

/-- By induction on its length: what is replaced in a text that stands in front of another one is
the same whatever the other is. -/
theorem replaceFrom_append {front : List Char} (even : Even front) (next : Nat)
    (insideWord : Bool) :
    ∃ k, ∀ rest, Parts front rest → replaceFrom next 0 insideWord (front ++ rest) =
      replaceFrom next 0 insideWord front ++ replaceFrom k 0 (after insideWord front) rest := by
  induction size : front.length using Nat.strong_induction_on generalizing front next
    insideWord with
  | _ size ih =>
    subst size
    cases front with
    | nil => exact ⟨next, fun rest _ => rfl⟩
    | cons c front =>
      cases found : length? insideWord (c :: front) with
      | none =>
        have even' := even.tail (ne_of_length?_eq_none even found)
        obtain ⟨k, onward⟩ := ih _ (Nat.lt_succ_self _) even' next (Text.isWordChar c) rfl
        refine ⟨k, fun rest parts => ?_⟩
        have unchanged := (length?_append parts even insideWord).trans found
        rw [replaceFrom_of_none found, List.cons_append, replaceFrom_of_none unchanged,
          onward rest (parts.drop 1)]
        rfl
      | some n =>
        obtain ⟨some, within, even'⟩ := leaves_length? even found
        have shorter : ((c :: front).drop n).length < (c :: front).length := by
          rw [List.length_drop]
          omega
        obtain ⟨k, onward⟩ := ih _ shorter even' (next + 1)
          (after insideWord ((c :: front).take n)) rfl
        refine ⟨k, fun rest parts => ?_⟩
        have unchanged : length? insideWord (c :: front ++ rest) = Option.some n :=
          (length?_append parts even insideWord).trans found
        rw [replaceFrom_of_some found some within, replaceFrom_of_some unchanged some
          (by rw [List.length_append]; omega), List.take_append_of_le_length within,
          List.drop_append_of_le_length within, onward rest (parts.drop n), ← after_append,
          List.take_append_drop]
        simp

end Literals

end SqlSyntax
