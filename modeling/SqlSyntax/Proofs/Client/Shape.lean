import SqlSyntax.Proofs.Client.Nodes
import SqlSyntax.Proofs.Client.Placeholders
import SqlSyntax.Proofs.Script.Retouched

/-!
# The shape of a query

The shape of a query does not depend on the value of a literal that is written plainly and stands
apart from what is around it, if the apostrophes in front of it are those of strings. It may depend
on any other literal: literals are found in the text, not among its tokens.
-/

namespace SqlSyntax

theorem Lexeme.isHexDigit_of_isBitDigit {c : Char} (digit : isBitDigit c = true) :
    isHexDigit c = true := by
  obtain rfl | rfl : c = '0' ∨ c = '1' := by simpa [isBitDigit] using digit
  · decide
  · decide

namespace Literals

open Text (singleQuote backslash)

/-! ### Literals that are written plainly -/

/-- The literals that are found in a text as such: numbers with digits on both sides of a point, if
they have one, and without an exponent; and strings between apostrophes without an escaped line
feed. -/
inductive Plain : Terminal → List Char → Prop
  | whole {digits : List Char} (occupied : digits ≠ [])
      (all : ∀ c ∈ digits, Text.isDigit c = true) :
      Plain .number digits
  | point {digits places : List Char} (occupied : digits ≠ [])
      (all : ∀ c ∈ digits, Text.isDigit c = true) (exact : places ≠ [])
      (also : ∀ c ∈ places, Text.isDigit c = true) : Plain .number (digits ++ '.' :: places)
  | hexadecimal (w : List Char) : Plain .hexNumber w
  | bits (w : List Char) : Plain .bitNumber w
  | string {body : List Char} (inside : Inside body) :
      Plain .string (singleQuote :: (body ++ [singleQuote]))

section Found

variable {back : List Char} (outside : ∀ c ∈ back.head?, inNumeral c = false)

include outside

theorem endsWord_of_outside : endsWord back = true := by
  cases back with
  | nil => rfl
  | cons c back =>
    have other := outside c rfl
    rw [inNumeral, Bool.or_eq_false_iff] at other
    simp [endsWord, other.1]

theorem head?_ne_of_outside {d : Char} (numeral : inNumeral d = true) : back.head? ≠ some d := by
  intro same
  exact ne_of_inNumeral (outside d same) numeral rfl

theorem runLength_of_outside {p : Char → Bool} (joined : ∀ c, p c = true → inNumeral c = true)
    {digits : List Char} (all : ∀ c ∈ digits, p c = true) :
    Lexeme.runLength p (digits ++ back) = digits.length := by
  rw [Lexeme.runLength, List.takeWhile_append_of_pos all]
  cases back with
  | nil => simp
  | cons c back =>
    have stops : ¬ p c = true := by
      intro holds
      exact ne_of_inNumeral (outside c rfl) (joined c holds) rfl
    simp [stops]

end Found

/-- What begins with a digit that no mark follows is a number. -/
theorem length?_digits {digits back : List Char} (occupied : digits ≠ [])
    (all : ∀ c ∈ digits, Text.isDigit c = true) (unmarked : back.head? ≠ some 'x')
    (unset : back.head? ≠ some 'b') :
    length? false (digits ++ back) = numberLength? (digits ++ back) := by
  cases digits with
  | nil => exact absurd rfl occupied
  | cons d digits =>
    obtain ⟨digit, all⟩ := List.forall_mem_cons.mp all
    have second {mark : Char} (behind : back.head? ≠ some mark)
        (letter : Text.isDigit mark = false) : (digits ++ back).head? ≠ some mark := by
      cases digits with
      | nil => exact behind
      | cons e digits =>
        rintro ⟨⟩
        rw [all mark List.mem_cons_self] at letter
        cases letter
    have unquoted : ¬ (d.toLower = 'x' ∨ d.toLower = 'b') := by
      rw [← Lexeme.isDigit_toLower] at digit
      rintro (same | same) <;> rw [same] at digit <;> exact absurd digit (by decide)
    have other : d ≠ singleQuote := by
      rintro rfl
      exact absurd digit (by decide)
    rw [List.cons_append, length?, markedLength?_of_second (second unmarked (by decide)),
      markedLength?_of_second (second unset (by decide)), quotedDigitsLength?_of_first unquoted,
      stringLength?, if_neg other]
    rfl

/-- The two spellings of a number in another base. -/
inductive Spells (mark : Char) (p : Char → Bool) : List Char → Prop
  | marked {digits : List Char} (occupied : digits ≠ []) (all : ∀ c ∈ digits, p c = true) :
      Spells mark p ('0' :: mark :: digits)
  | quoted {m : Char} {digits : List Char} (same : m.toLower = mark)
      (all : ∀ c ∈ digits, p c = true) :
      Spells mark p (m :: singleQuote :: (digits ++ [singleQuote]))

theorem spells_of_basedLength? {mark : Char} {p : Char → Bool} {w back : List Char}
    (found : Lexeme.basedLength? mark p (w ++ back) = some w.length) : Spells mark p w := by
  have alone := Lexeme.basedLength?_take found (Nat.le_refl _)
  rw [List.take_left] at alone
  have run (cs : List Char) : ∀ c ∈ cs.take (Lexeme.runLength p cs), p c = true := by
    intro c member
    rw [Lexeme.take_runLength] at member
    exact List.mem_takeWhile_imp member
  rcases Lexeme.basedLength?_cases alone with
    ⟨rest, rfl, some, -, size⟩ | ⟨m, rest, rfl, -, same, closed, size⟩
  · have whole : rest.take (Lexeme.runLength p rest) = rest :=
      List.take_of_length_le (by simp at size; omega)
    have all := run rest
    rw [whole] at all
    refine .marked ?_ all
    rintro rfl
    cases some
  · obtain ⟨tail, behind⟩ := List.head?_eq_some_iff.mp closed
    have shown := congrArg List.length behind
    rw [List.length_drop, List.length_cons] at shown
    obtain rfl : tail = [] := List.eq_nil_of_length_eq_zero (by simp at size; omega)
    have whole : rest = rest.take (Lexeme.runLength p rest) ++ [singleQuote] := by
      rw [← behind, List.take_append_drop]
    rw [whole]
    exact .quoted same (run rest)

theorem markedLength?_of_outside {mark : Char} {p : Char → Bool} {digits back : List Char}
    (joined : ∀ c, p c = true → inNumeral c = true) (occupied : digits ≠ [])
    (all : ∀ c ∈ digits, p c = true) (outside : ∀ c ∈ back.head?, inNumeral c = false) :
    markedLength? mark p ('0' :: mark :: (digits ++ back)) = some (digits.length + 2) := by
  have run := runLength_of_outside outside joined all
  have some := List.length_pos_iff.mpr occupied
  simp only [markedLength?, run, List.drop_left, endsWord_of_outside outside, some, and_self,
    if_true]

theorem length?_of_quoted {m : Char} {digits back : List Char}
    (marked : m.toLower = 'x' ∨ m.toLower = 'b') (all : ∀ c ∈ digits, Lexeme.isHexDigit c = true) :
    length? false (m :: singleQuote :: (digits ++ singleQuote :: back)) =
      some (digits.length + 3) := by
  have run : Lexeme.runLength Lexeme.isHexDigit (digits ++ singleQuote :: back) =
      digits.length := by
    rw [Lexeme.runLength, List.takeWhile_append_of_pos all, List.takeWhile_cons_of_neg (by decide),
      List.append_nil]
  have found : quotedDigitsLength? (m :: singleQuote :: (digits ++ singleQuote :: back)) =
      some (digits.length + 3) := by
    simp [quotedDigitsLength?, run, marked]
  rw [length?, markedLength?_of_second (by simp [singleQuote]),
    markedLength?_of_second (by simp [singleQuote]), found]
  rfl

/-- Where no number begins there may still be a string. -/
theorem length?_of_outside {c : Char} (outside : inNumeral c = false) (insideWord : Bool)
    (cs : List Char) : length? insideWord (c :: cs) = stringLength? (c :: cs) := by
  have unmarked : ¬ (c.toLower = 'x' ∨ c.toLower = 'b') := by
    intro marked
    exact ne_of_inNumeral outside (inNumeral_of_toLower marked) rfl
  have number : numberLength? (c :: cs) = none := by
    have stops : ¬ Text.isDigit c = true := by
      intro digit
      exact ne_of_inNumeral outside (inNumeral_of_isDigit c digit) rfl
    simp [numberLength?, Lexeme.runLength, stops]
  have other : c ≠ '0' := ne_of_inNumeral outside (by decide)
  rw [length?, markedLength?_of_ne other, markedLength?_of_ne other,
    quotedDigitsLength?_of_first unmarked, number]
  cases insideWord <;> simp

theorem length?_of_string {body back : List Char} (inside : Inside body)
    (avoids : Avoids singleQuote back) (insideWord : Bool) :
    length? insideWord (singleQuote :: (body ++ singleQuote :: back)) = some (body.length + 2) := by
  rw [length?_of_outside (by decide), stringLength?, if_pos rfl, stringEnd?_inside inside avoids]
  congr 1
  omega

theorem length?_of_whole {digits back : List Char} (occupied : digits ≠ [])
    (all : ∀ c ∈ digits, Text.isDigit c = true) (outside : ∀ c ∈ back.head?, inNumeral c = false) :
    length? false (digits ++ back) = some digits.length := by
  have run := runLength_of_outside outside inNumeral_of_isDigit all
  have some : digits.length ≠ 0 := List.length_eq_zero_iff.not.mpr occupied
  rw [length?_digits occupied all (head?_ne_of_outside outside (by decide))
    (head?_ne_of_outside outside (by decide)), numberLength?, run, List.drop_left]
  dsimp only
  rw [if_neg some]
  split
  · exact absurd rfl (head?_ne_of_outside outside (d := '.') (by decide))
  · rw [if_pos (endsWord_of_outside outside)]

theorem length?_of_point {digits places back : List Char} (occupied : digits ≠ [])
    (all : ∀ c ∈ digits, Text.isDigit c = true) (exact : places ≠ [])
    (also : ∀ c ∈ places, Text.isDigit c = true) (outside : ∀ c ∈ back.head?, inNumeral c = false) :
    length? false (digits ++ '.' :: (places ++ back)) =
      some (digits.length + 1 + places.length) := by
  have run : Lexeme.runLength Text.isDigit (digits ++ '.' :: (places ++ back)) = digits.length := by
    rw [Lexeme.runLength, List.takeWhile_append_of_pos all, List.takeWhile_cons_of_neg (by decide),
      List.append_nil]
  have decimals := runLength_of_outside outside inNumeral_of_isDigit also
  have some : digits.length ≠ 0 := List.length_eq_zero_iff.not.mpr occupied
  have more := List.length_pos_iff.mpr exact
  rw [length?_digits occupied all (by simp) (by simp), numberLength?, run, List.drop_left]
  simp only [some, if_false, decimals, List.drop_left, endsWord_of_outside outside, more, and_self,
    if_true]

/-! ### Literals among tokens -/

/-- The numbers without apostrophes that are found as such. -/
inductive Numeral : List Char → Prop
  | whole {digits : List Char} (occupied : digits ≠ [])
      (all : ∀ c ∈ digits, Text.isDigit c = true) :
      Numeral digits
  | point {digits places : List Char} (occupied : digits ≠ [])
      (all : ∀ c ∈ digits, Text.isDigit c = true) (exact : places ≠ [])
      (also : ∀ c ∈ places, Text.isDigit c = true) : Numeral (digits ++ '.' :: places)
  | hexadecimal {digits : List Char} (occupied : digits ≠ [])
      (all : ∀ c ∈ digits, Lexeme.isHexDigit c = true) : Numeral ('0' :: 'x' :: digits)
  | bits {digits : List Char} (occupied : digits ≠ [])
      (all : ∀ c ∈ digits, Lexeme.isBitDigit c = true) : Numeral ('0' :: 'b' :: digits)

namespace Numeral

variable {w back : List Char}

theorem ne_nil (numeral : Numeral w) : w ≠ [] := by
  cases numeral with
  | whole occupied _ => exact occupied
  | _ => simp

theorem all (numeral : Numeral w) : ∀ c ∈ w, inNumeral c = true := by
  cases numeral with
  | whole _ all => exact fun c member => inNumeral_of_isDigit c (all c member)
  | point _ all _ also =>
    rw [List.forall_mem_append, List.forall_mem_cons]
    exact ⟨fun c member => inNumeral_of_isDigit c (all c member), by decide,
      fun c member => inNumeral_of_isDigit c (also c member)⟩
  | hexadecimal _ all =>
    rw [List.forall_mem_cons, List.forall_mem_cons]
    exact ⟨by decide, by decide, fun c member => inNumeral_of_isHexDigit c (all c member)⟩
  | bits _ all =>
    rw [List.forall_mem_cons, List.forall_mem_cons]
    exact ⟨by decide, by decide, fun c member => inNumeral_of_isBitDigit c (all c member)⟩

/-- Where the number is over, it is found as a whole. -/
theorem length? (numeral : Numeral w) (outside : ∀ c ∈ back.head?, inNumeral c = false) :
    Literals.length? false (w ++ back) = some w.length := by
  cases numeral with
  | whole occupied all => exact length?_of_whole occupied all outside
  | point occupied all exact also =>
    rw [List.append_assoc, List.cons_append, length?_of_point occupied all exact also outside]
    simp
    omega
  | hexadecimal occupied all =>
    rw [List.cons_append, List.cons_append, Literals.length?,
      markedLength?_of_outside inNumeral_of_isHexDigit occupied all outside]
    rfl
  | bits occupied all =>
    rw [List.cons_append, List.cons_append, Literals.length?, markedLength?_of_mark_ne (by decide),
      markedLength?_of_outside inNumeral_of_isBitDigit occupied all outside]
    rfl

end Numeral

/-- A literal that is written plainly is what it is taken for, in terms of its characters alone. -/
inductive Recognised : List Char → Prop
  | numeral {w : List Char} (numeral : Numeral w) : Recognised w
  | quoted {m : Char} {digits : List Char} (marked : m.toLower = 'x' ∨ m.toLower = 'b')
      (all : ∀ c ∈ digits, Lexeme.isHexDigit c = true) :
      Recognised (m :: singleQuote :: (digits ++ [singleQuote]))
  | string {body : List Char} (inside : Inside body) :
      Recognised (singleQuote :: (body ++ [singleQuote]))

theorem Plain.recognised {t : Terminal} {w back : List Char} (plain : Plain t w)
    (found : t.lexemeLength? (w ++ back) = some w.length) : Recognised w := by
  cases plain with
  | whole occupied all => exact .numeral (.whole occupied all)
  | point occupied all exact also => exact .numeral (.point occupied all exact also)
  | hexadecimal w =>
    cases spells_of_basedLength? found with
    | marked occupied all => exact .numeral (.hexadecimal occupied all)
    | quoted same all => exact .quoted (.inl same) all
  | bits w =>
    cases spells_of_basedLength? found with
    | marked occupied all => exact .numeral (.bits occupied all)
    | quoted same all =>
      exact .quoted (.inr same) fun c member => Lexeme.isHexDigit_of_isBitDigit (all c member)
  | string inside => exact .string inside

theorem not_mem_of_all {p : Char → Bool} {d : Char} {cs : List Char} (all : ∀ c ∈ cs, p c = true)
    (other : p d = false) : d ∉ cs := by
  intro member
  rw [all d member] at other
  cases other

theorem inside_of_not_mem {cs : List Char} (unquoted : singleQuote ∉ cs)
    (unescaped : backslash ∉ cs) : Inside cs := by
  induction cs with
  | nil => exact .nil
  | cons c cs ih =>
    rw [List.mem_cons, not_or] at unquoted unescaped
    exact .plain (Ne.symm unquoted.1) (Ne.symm unescaped.1) (ih unquoted.2 unescaped.2)

theorem Recognised.even {w : List Char} (recognised : Recognised w) : Even w := by
  cases recognised with
  | numeral numeral => exact .of_not_mem (not_mem_of_all numeral.all (by decide))
  | @quoted m digits marked all =>
    have other : m ≠ singleQuote := by
      rintro rfl
      exact absurd marked (by decide)
    exact .plain other (.string
      (inside_of_not_mem (not_mem_of_all all (by decide)) (not_mem_of_all all (by decide))) .nil)
  | string inside => exact .string inside .nil

theorem Recognised.length_pos {w : List Char} (recognised : Recognised w) : 0 < w.length := by
  cases recognised with
  | numeral numeral => exact List.length_pos_iff.mpr numeral.ne_nil
  | _ => simp

/-! ### Replacing a literal -/

/-- No literal goes on from the first text into the second, nor from that into the third. -/
structure Apart (front w back : List Char) : Prop where
  before : Parts front w
  behind : Parts w back

namespace Parts

variable {front w back : List Char}

theorem outside_of_all (parts : Parts w back) (occupied : w ≠ [])
    (all : ∀ c ∈ w, inNumeral c = true) : ∀ d ∈ back.head?, inNumeral d = false :=
  parts.outside (List.getLast?_eq_some_getLast occupied) (all _ (List.getLast_mem occupied))

/-- What a number may begin with stands at the start of a word. -/
theorem after_eq_false {c : Char} (parts : Parts front (c :: w)) (numeral : inNumeral c = true) :
    after false front = false := by
  rcases front.eq_nil_or_concat with rfl | ⟨inner, d, rfl⟩
  · rfl
  · rw [List.concat_eq_append] at parts ⊢
    rw [after_concat, Bool.eq_false_iff]
    intro word
    exact parts d List.getLast?_concat c rfl (.inl ⟨inNumeral_of_isWordChar word, numeral⟩)

end Parts

namespace Recognised

variable {front w back : List Char}

theorem length? (recognised : Recognised w) (apart : Apart front w back) :
    Literals.length? (after false front) (w ++ back) = some w.length := by
  cases recognised with
  | numeral numeral =>
    have outside := apart.behind.outside_of_all numeral.ne_nil numeral.all
    obtain ⟨c, w, rfl⟩ := List.exists_cons_of_ne_nil numeral.ne_nil
    rw [apart.before.after_eq_false (numeral.all c List.mem_cons_self), numeral.length? outside]
  | quoted marked all =>
    rw [apart.before.after_eq_false (inNumeral_of_toLower marked), List.cons_append,
      List.cons_append, List.append_assoc, List.singleton_append, length?_of_quoted marked all]
    simp
  | @string body inside =>
    have avoids : Avoids singleQuote back := by
      intro first
      exact apart.behind singleQuote (List.getLast?_concat (l := singleQuote :: body)) singleQuote
        first (.inr ⟨rfl, .inl rfl⟩)
    rw [List.cons_append, List.append_assoc, List.singleton_append, length?_of_string inside avoids]
    simp

/-- Behind the literal it does not matter that it stood there. -/
theorem replaceFrom_behind (recognised : Recognised w) (parts : Parts w back) (next : Nat)
    (insideWord : Bool) :
    replaceFrom next 0 (after insideWord w) back = replaceFrom next 0 false back := by
  cases recognised with
  | numeral numeral =>
    have outside := parts.outside_of_all numeral.ne_nil numeral.all
    cases back with
    | nil => rfl
    | cons c back =>
      have same := length?_of_outside (outside c rfl)
      rw [replaceFrom, replaceFrom, same, same]
  | @quoted m digits _ _ =>
    rw [← List.cons_append, ← List.cons_append, after_concat]
    rfl
  | @string body _ =>
    rw [← List.cons_append, after_concat]
    rfl

end Recognised

/-- A literal that stands apart is replaced by a placeholder whose number does not depend on it. -/
theorem replaceFrom_literal {front : List Char} (even : Even front) (back : List Char) :
    ∃ k, ∀ w, Recognised w → Apart front w back → replaceFrom 1 0 false (front ++ (w ++ back)) =
      replaceFrom 1 0 false front ++ '$' :: (toString k).toList ++
        replaceFrom (k + 1) 0 false back := by
  obtain ⟨k, split⟩ := replaceFrom_append even 1 false
  refine ⟨k, fun w recognised apart => ?_⟩
  have parts : Parts front (w ++ back) := by
    intro c last d first
    rw [List.head?_append_of_ne_nil _ (List.length_pos_iff.mp recognised.length_pos)] at first
    exact apart.before c last d first
  rw [split _ parts, replaceFrom_of_some (recognised.length? apart) recognised.length_pos (by simp),
    List.take_left, List.drop_left, recognised.replaceFrom_behind apart.behind, List.cons_append,
    List.append_assoc, List.cons_append]

end Literals

/-! ### Portions -/

namespace Grammar

open Portion (texts)

/-- A token is a lexeme of its terminal in front of what follows it. -/
theorem Reads.lexeme {a : Automaton} {outcome : Except BuildError (List Node)} {c : Configuration}
    {earlier later : List Portion} {t : Terminal} {w : List Char}
    (reads : Reads a outcome c (earlier ++ .token t w :: later)) :
    t.lexemeLength? (w ++ texts later) = some w.length := by
  induction earlier generalizing c with
  | nil =>
    generalize whole : [] ++ .token t w :: later = ps at reads
    cases reads with
    | ends => cases whole
    | blank => cases whole
    | token ahead _ later =>
      cases whole
      rw [later.texts_eq]
      exact (Ahead.scan_lexeme ahead).2
  | cons p earlier ih =>
    rw [List.cons_append] at reads
    generalize rest : earlier ++ .token t w :: later = ps at reads ih
    cases reads with
    | blank _ onward => exact ih onward
    | token _ _ onward => exact ih onward

/-- A portion without an apostrophe, or a literal that is written plainly. -/
def Portion.Quiet : Portion → Prop
  | .blank w => Text.singleQuote ∉ w
  | .token t w => Text.singleQuote ∉ w ∨ Literals.Plain t w

theorem Reads.even {a : Automaton} {outcome : Except BuildError (List Node)} {c : Configuration}
    {earlier later : List Portion} (reads : Reads a outcome c (earlier ++ later))
    (quiet : ∀ p ∈ earlier, p.Quiet) : Literals.Even (texts earlier) := by
  induction earlier generalizing c with
  | nil => exact .nil
  | cons p earlier ih =>
    obtain ⟨first, others⟩ := List.forall_mem_cons.mp quiet
    rw [List.cons_append] at reads
    generalize earlier ++ later = ps at reads ih
    cases reads with
    | blank _ onward => exact (Literals.Even.of_not_mem first).append (ih onward others)
    | token ahead _ onward =>
      refine Literals.Even.append ?_ (ih onward others)
      rcases first with absent | plain
      · exact .of_not_mem absent
      · exact (plain.recognised (Ahead.scan_lexeme ahead).2).even

end Grammar

namespace Query

open Grammar.Portion (texts)

variable {b : Bridge} {timing timing' : Timing} {sql sql' : String} {q q' : Query}

/-- A query that was parsed has been read to its end. -/
theorem exists_reads (mysql : b.builder.dialect = .mysql)
    (parsed : (Query.parse b timing sql).2 = .ok q) :
    ∃ statements, q.text = sql ∧ Grammar.Reads Grammar.statementAutomaton (.ok statements)
      (.initial sql) (Script.portions sql) := by
  obtain ⟨trees, succeeds, -, rfl⟩ := parse_eq_ok_iff.mp parsed
  obtain ⟨-, statements, accepted, -⟩ := (Builder.succeeds_mysql_iff mysql).mp succeeds
  exact ⟨statements, rfl, Script.reads_portions accepted⟩

/-- In front of a token the apostrophes pair up if they all are those of literals that are written
plainly. -/
theorem even_of_quiet (mysql : b.builder.dialect = .mysql)
    (parsed : (Query.parse b timing sql).2 = .ok q) {earlier later : List Grammar.Portion}
    (split : Script.portions sql = earlier ++ later)
    (quiet : ∀ p ∈ earlier, p.Quiet) : Literals.Even (texts earlier) := by
  obtain ⟨statements, -, reads⟩ := exists_reads mysql parsed
  rw [split] at reads
  exact reads.even quiet

/-- What a literal among the tokens of a query is, and where it stands in the text. -/
theorem recognised_of_portions (mysql : b.builder.dialect = .mysql)
    (parsed : (Query.parse b timing sql).2 = .ok q) {earlier later : List Grammar.Portion}
    {t : Terminal}
    {w : List Char} (split : Script.portions sql = earlier ++ .token t w :: later)
    (plain : Literals.Plain t w) : Literals.Recognised w ∧
      q.text = String.ofList (texts earlier ++ (w ++ texts later)) := by
  obtain ⟨statements, rfl, reads⟩ := exists_reads mysql parsed
  rw [split] at reads
  refine ⟨plain.recognised reads.lexeme, ?_⟩
  have whole : texts (earlier ++ .token t w :: later) = q.text.toList := reads.texts_eq
  rw [Grammar.Portion.texts_append, Grammar.Portion.texts_cons, Grammar.Portion.text_token] at whole
  rw [whole, String.ofList_toList]

/-- A text whose statements have views makes a query. -/
theorem exists_query (sql : String) (short : (sql.length : Int) ≤ Bridge.fresh.builder.lengthLimit)
    (computed : Script.computed? Bridge.fresh.builder.depthLimit.toNat sql (fun _ => ()) =
      some ()) :
    ∃ q, (Query.parse .fresh ⟨0, .zero false, .zero false⟩ sql).2 = .ok q := by
  obtain ⟨q, -, parsed, -⟩ := exists_parse rfl short computed ⟨0, .zero false, .zero false⟩
  exact ⟨q, parsed⟩

/-- A literal that is written plainly and stands apart, with no apostrophe in front of it but those
of strings, is replaced by a placeholder; with any other such literal of its terminal in its place,
the shape of the query and its fingerprint are the same. -/
theorem normalized_eq_of_literal (mysql : b.builder.dialect = .mysql)
    (parsed : (Query.parse b timing sql).2 = .ok q)
    (parsed' : (Query.parse b timing' sql').2 = .ok q')
    {earlier later : List Grammar.Portion} {t : Terminal} {w w' : List Char}
    (split : Script.portions sql = earlier ++ .token t w :: later)
    (split' : Script.portions sql' = earlier ++ .token t w' :: later)
    (plain : Literals.Plain t w) (plain' : Literals.Plain t w')
    (even : Literals.Even (texts earlier)) (apart : Literals.Apart (texts earlier) w (texts later))
    (apart' : Literals.Apart (texts earlier) w' (texts later)) :
    q.normalized = q'.normalized ∧ q.fingerprint = q'.fingerprint ∧
      ∃ k, q.normalized.toList = Literals.replaceFrom 1 0 false (texts earlier) ++
        '$' :: (toString k).toList ++ Literals.replaceFrom (k + 1) 0 false (texts later) := by
  obtain ⟨recognised, spelled⟩ := recognised_of_portions mysql parsed split plain
  obtain ⟨recognised', spelled'⟩ := recognised_of_portions mysql parsed' split' plain'
  obtain ⟨k, replaces⟩ := Literals.replaceFrom_literal even (texts later)
  have shape : q.normalized = String.ofList (Literals.replaceFrom 1 0 false (texts earlier) ++
      '$' :: (toString k).toList ++ Literals.replaceFrom (k + 1) 0 false (texts later)) := by
    rw [normalized, Literals.replaced, spelled, String.toList_ofList, replaces w recognised apart]
  have shape' : q'.normalized = String.ofList (Literals.replaceFrom 1 0 false (texts earlier) ++
      '$' :: (toString k).toList ++ Literals.replaceFrom (k + 1) 0 false (texts later)) := by
    rw [normalized, Literals.replaced, spelled', String.toList_ofList,
      replaces w' recognised' apart']
  have same : q.normalized = q'.normalized := shape.trans shape'.symm
  refine ⟨same, ?_, k, ?_⟩
  · rw [normalized, normalized] at same
    rw [fingerprint, fingerprint, Literals.fingerprint, Literals.fingerprint, same]
  · rw [shape, String.toList_ofList]

/-- A number behind a string that a word follows without a blank. -/
theorem normalized_eq_of_literal_decimal :
    ∃ q q' earlier,
      (Query.parse .fresh ⟨0, .zero false, .zero false⟩ "SELECT 'it''s'a,1.5").2 = .ok q ∧
      (Query.parse .fresh ⟨0, .zero false, .zero false⟩ "SELECT 'it''s'a,20").2 = .ok q' ∧
      Script.portions "SELECT 'it''s'a,1.5" = earlier ++ [.token .number ['1', '.', '5']] ∧
      Script.portions "SELECT 'it''s'a,20" = earlier ++ [.token .number ['2', '0']] ∧
      q.normalized = q'.normalized ∧ q.fingerprint = q'.fingerprint ∧
      ∃ k, q.normalized.toList = Literals.replaceFrom 1 0 false (texts earlier) ++
        '$' :: (toString k).toList ++ Literals.replaceFrom (k + 1) 0 false (texts []) := by
  obtain ⟨q, parsed⟩ := exists_query "SELECT 'it''s'a,1.5" (by decide +kernel) (by decide +kernel)
  obtain ⟨q', parsed'⟩ := exists_query "SELECT 'it''s'a,20" (by decide +kernel) (by decide +kernel)
  have split : Script.portions "SELECT 'it''s'a,1.5" =
      [.token .kwSelect ['S', 'E', 'L', 'E', 'C', 'T'], .blank [' '],
        .token .string (Text.singleQuote :: (['i', 't', '\'', '\'', 's'] ++ [Text.singleQuote])),
        .token .name ['a'],
        .token .comma [',']] ++ [.token .number (['1'] ++ '.' :: ['5'])] := by
    decide +kernel
  have split' : Script.portions "SELECT 'it''s'a,20" =
      [.token .kwSelect ['S', 'E', 'L', 'E', 'C', 'T'], .blank [' '],
        .token .string (Text.singleQuote :: (['i', 't', '\'', '\'', 's'] ++ [Text.singleQuote])),
        .token .name ['a'],
        .token .comma [',']] ++ [.token .number ['2', '0']] := by
    decide +kernel
  have inside : Literals.Inside ['i', 't', '\'', '\'', 's'] :=
    .plain (by decide) (by decide) (.plain (by decide) (by decide)
      (.pair (.plain (by decide) (by decide) .nil)))
  have even := even_of_quiet rfl parsed split (by
    simp only [List.forall_mem_cons]
    exact ⟨.inl (by decide), show Text.singleQuote ∉ [' '] by decide, .inr (.string inside),
      .inl (by decide), .inl (by decide), List.forall_mem_nil _⟩)
  refine ⟨q, q', _, parsed, parsed', split, split', ?_⟩
  exact normalized_eq_of_literal rfl parsed parsed' split split'
    (.point (by decide) (List.all_eq_true.mp (by decide)) (by decide)
      (List.all_eq_true.mp (by decide)))
    (.whole (by decide) (List.all_eq_true.mp (by decide))) even
    ⟨by rintro _ ⟨⟩ _ ⟨⟩; decide, by nofun⟩ ⟨by rintro _ ⟨⟩ _ ⟨⟩; decide, by nofun⟩

/-- Two texts that are accepted and have the same tokens but for one literal, and not the same
shape. -/
def Differ (sql sql' : String) : Prop :=
  ∃ q q' earlier later, ∃ t ∈ [Terminal.number, .hexNumber, .bitNumber, .string], ∃ w w',
    (Query.parse .fresh ⟨0, .zero false, .zero false⟩ sql).2 = .ok q ∧
    (Query.parse .fresh ⟨0, .zero false, .zero false⟩ sql').2 = .ok q' ∧
    Script.portions sql = earlier ++ .token t w :: later ∧
    Script.portions sql' = earlier ++ .token t w' :: later ∧ q.normalized ≠ q'.normalized

theorem differ_of_portions {sql sql' : String} (earlier later : List Grammar.Portion) (t : Terminal)
    (w w' : List Char)
    (accepted : ∃ q, (Query.parse .fresh ⟨0, .zero false, .zero false⟩ sql).2 = .ok q)
    (accepted' : ∃ q, (Query.parse .fresh ⟨0, .zero false, .zero false⟩ sql').2 = .ok q)
    (literal : t ∈ [Terminal.number, .hexNumber, .bitNumber, .string])
    (split : Script.portions sql = earlier ++ .token t w :: later)
    (split' : Script.portions sql' = earlier ++ .token t w' :: later)
    (other : Literals.replaced sql ≠ Literals.replaced sql') : Differ sql sql' := by
  obtain ⟨q, parsed⟩ := accepted
  obtain ⟨q', parsed'⟩ := accepted'
  obtain ⟨-, rfl, -⟩ := exists_reads rfl parsed
  obtain ⟨-, rfl, -⟩ := exists_reads rfl parsed'
  exact ⟨q, q', earlier, later, t, literal, w, w', parsed, parsed', split, split', other⟩

/-- Each condition is needed: an exponent, other quotes, an apostrophe in a comment, and a word that
follows without a blank. -/
theorem normalized_ne_of_literal :
    Differ "SELECT 1e5" "SELECT 2" ∧ Differ "SELECT \"a\"" "SELECT \"b\"" ∧
      Differ "SELECT /*'*/'a'" "SELECT /*'*/'b'" ∧ Differ "SELECT 1x" "SELECT 2x" := by
  refine ⟨?_, ?_, ?_, ?_⟩
  · exact differ_of_portions [.token .kwSelect ['S', 'E', 'L', 'E', 'C', 'T'], .blank [' ']] []
      .number ['1', 'e', '5'] ['2'] (exists_query _ (by decide +kernel) (by decide +kernel))
      (exists_query _ (by decide +kernel) (by decide +kernel)) (by decide) (by decide +kernel)
      (by decide +kernel) (by decide +kernel)
  · exact differ_of_portions [.token .kwSelect ['S', 'E', 'L', 'E', 'C', 'T'], .blank [' ']] []
      .string ['"', 'a', '"'] ['"', 'b', '"']
        (exists_query _ (by decide +kernel) (by decide +kernel))
      (exists_query _ (by decide +kernel) (by decide +kernel)) (by decide) (by decide +kernel)
      (by decide +kernel) (by decide +kernel)
  · exact differ_of_portions [.token .kwSelect ['S', 'E', 'L', 'E', 'C', 'T'], .blank [' '],
        .blank ['/', '*', '\'', '*', '/']] []
      .string ['\'', 'a', '\''] ['\'', 'b', '\'']
      (exists_query _ (by decide +kernel) (by decide +kernel))
      (exists_query _ (by decide +kernel) (by decide +kernel)) (by decide) (by decide +kernel)
      (by decide +kernel) (by decide +kernel)
  · exact differ_of_portions [.token .kwSelect ['S', 'E', 'L', 'E', 'C', 'T'], .blank [' ']]
      [.token .name ['x']] .number ['1'] ['2']
        (exists_query _ (by decide +kernel) (by decide +kernel))
      (exists_query _ (by decide +kernel) (by decide +kernel)) (by decide) (by decide +kernel)
      (by decide +kernel) (by decide +kernel)

end Query

end SqlSyntax
