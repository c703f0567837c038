import Mathlib.Data.List.TakeWhile
import Mathlib.Tactic.IntervalCases
import SqlSyntax.Proofs.Lexical.Body
import SqlSyntax.Proofs.Lexical.Stop
import SqlSyntax.Proofs.Number.Digits
import SqlSyntax.Tree.Literal

/-!
# Spellings and their lengths

The canonical spellings of strings, names, numbers and variables are lexemes as long as they are, in
front of anything that does not go on with them, and they are read back as what was spelled.
-/

namespace SqlSyntax

open Text (singleQuote backQuote backslash)

/-- The text is over, or goes on with a character that ends every lexeme which is not quoted. -/
def Stops (rest : List Char) : Prop :=
  ∀ c ∈ rest.head?, c ∈ Lexeme.stops

theorem stops_nil : Stops [] := by
  simp [Stops]

theorem stops_cons {c : Char} (stop : c ∈ Lexeme.stops) (rest : List Char) : Stops (c :: rest) := by
  simpa [Stops] using stop

theorem Stops.avoids {rest : List Char} (stops : Stops rest) {c : Char} (other : c ∉ Lexeme.stops) :
    Avoids c rest := by
  intro begins
  exact other (stops c begins)

namespace Text

/-! ### Strings -/

theorem toList_quoteString (s : String) :
    (quoteString s).toList = singleQuote :: (escapeString s.toList ++ [singleQuote]) := by
  simp [quoteString]

theorem unquoteString_quoteString (s : String) : unquoteString (quoteString s) = s := by
  have inside := Lexeme.body_escapeString s.toList
  rw [unquoteString, unquoteString?, toList_quoteString]
  simp only [List.dropLast_concat, resolveEscapes_collapsePairs (by decide) inside,
    decodeOnce_escapeString, String.ofList_toList, Option.getD_some]

/-! ### Names -/

theorem collapsePairs_doubleEach (c : Char) (s : List Char) :
    collapsePairs c (doubleEach c s) = s := by
  induction s with
  | nil => rfl
  | cons d s ih =>
    by_cases same : d = c
    · rw [doubleEach, if_pos same, collapsePairs, if_pos ⟨rfl, rfl⟩, ih, same]
    · rw [doubleEach, if_neg same]
      cases rest : doubleEach c s with
      | nil =>
        rw [rest] at ih
        rw [← ih]
        rfl
      | cons e tail =>
        rw [rest] at ih
        rw [collapsePairs, if_neg (fun pair => same pair.1), ih]

theorem toList_quoteName (name : String) :
    (quoteName name).toList = backQuote :: (doubleEach backQuote name.toList ++ [backQuote]) := by
  simp [quoteName]

theorem unquoteName_quoteName (name : String) : unquoteName (quoteName name) = name := by
  rw [unquoteName, toList_quoteName, inner]
  simp only [List.drop_succ_cons, List.drop_zero, List.dropLast_concat, collapsePairs_doubleEach,
    String.ofList_toList]

theorem isDigit_of_isDigit {c : Char} (digit : c.isDigit = true) : isDigit c = true := by
  rw [isDigit, digitValue?_of_isDigit digit, Option.isSome_some]

end Text

namespace Lexeme

/-! ### Lengths of quoted texts -/

theorem stringLength?_quoteString {rest : List Char} (avoids : Avoids singleQuote rest)
    (s : String) :
    stringLength? ((Text.quoteString s).toList ++ rest) =
      some (Text.quoteString s).toList.length := by
  rw [Text.toList_quoteString, List.cons_append, stringLength?, if_pos (.inl rfl),
    List.append_assoc, List.singleton_append,
    closing_body (by decide) (body_escapeString s.toList) avoids (by omega)]
  simp only [List.length_cons, List.length_append, List.length_nil]
  congr 1
  omega

theorem length_le_doubleEach (c : Char) (s : List Char) :
    s.length ≤ (Text.doubleEach c s).length := by
  induction s with
  | nil => exact Nat.le_refl 0
  | cons d s ih =>
    rw [Text.doubleEach]
    split_ifs <;> simp only [List.length_cons] <;> omega

theorem quotedNameLength?_quoteName {rest : List Char} (avoids : Avoids backQuote rest)
    {name : String} (named : name ≠ "") :
    quotedNameLength? ((Text.quoteName name).toList ++ rest) =
      some (Text.quoteName name).toList.length := by
  have occupied : name.toList ≠ [] := by simpa using named
  have enough : 1 < 1 + (Text.doubleEach backQuote name.toList).length := by
    have some := List.length_pos_iff.mpr occupied
    have doubled := length_le_doubleEach backQuote name.toList
    omega
  rw [Text.toList_quoteName, List.cons_append, quotedNameLength?, if_pos rfl, List.append_assoc,
    List.singleton_append,
    closing_body (by decide) (body_doubleEach backQuote name.toList) avoids enough]
  simp only [List.length_cons, List.length_append, List.length_nil]
  congr 1
  omega

/-! ### Lengths of numbers and variables -/

theorem runLength_of_all {p : Char → Bool} {cs : List Char} (all : ∀ c ∈ cs, p c = true) :
    runLength p cs = cs.length := by
  rw [runLength, List.takeWhile_eq_self_iff.mpr all]

theorem runLength_append_of_all {p : Char → Bool} {cs rest : List Char} {c : Char}
    (all : ∀ c ∈ cs, p c = true) (ends : p c = false) :
    runLength p (cs ++ c :: rest) = cs.length := by
  rw [runLength_append p ends, runLength_of_all all]

theorem numberLength?_digits {digits : List Char} (occupied : digits ≠ [])
    (all : ∀ c ∈ digits, c.isDigit = true) : numberLength? digits = some digits.length := by
  have whole : runLength Text.isDigit digits = digits.length :=
    runLength_of_all fun c member => Text.isDigit_of_isDigit (all c member)
  have some : digits.length ≠ 0 := fun none => occupied (List.length_eq_zero_iff.mp none)
  simp [numberLength?, mantissaLength?, whole, some, exponentLength]

theorem holds_of_isDigit {p : Char → Bool}
    (all : ['0', '1', '2', '3', '4', '5', '6', '7', '8', '9'].all p = true) {c : Char}
    (digit : c.isDigit = true) : p c = true := by
  simp only [Char.isDigit, Bool.and_eq_true, decide_eq_true_eq, UInt32.le_iff_toNat_le] at digit
  have low : 48 ≤ c.toNat := digit.1
  have high : c.toNat ≤ 57 := digit.2
  have code : c = Char.ofNat c.toNat := (Char.ofNat_toNat c).symm
  apply List.all_eq_true.mp all
  rw [code]
  generalize c.toNat = n at low high
  interval_cases n <;> decide

/-- Digits alone are no literal of another base. -/
theorem basedLength?_digits {mark : Char} {p : Char → Bool} (letter : mark.isDigit = false)
    {digits : List Char} (all : ∀ c ∈ digits, c.isDigit = true) :
    basedLength? mark p digits = none := by
  match digits with
  | [] => rfl
  | [c] => simp [basedLength?]
  | c :: d :: digits =>
    have first := all c List.mem_cons_self
    have second := all d (List.mem_cons_of_mem c List.mem_cons_self)
    have other {c : Char} (digit : c.isDigit = true) : c ≠ mark := by
      rintro rfl
      rw [letter] at digit
      cases digit
    by_cases zero : c = '0'
    · subst zero
      simp [basedLength?, other second]
    · have same : c.toLower = c := by
        simpa using holds_of_isDigit (p := fun c => c.toLower == c) (by decide) first
      rw [basedLength?, if_neg]
      · rw [same]
        exact fun marked => other first marked.1
      · exact zero

theorem basedLength?_quoted {mark : Char} {p : Char → Bool} {m : Char} {digits : List Char}
    (marked : m.toLower = mark) (nonzero : m ≠ '0') (all : ∀ c ∈ digits, p c = true)
    (ends : p singleQuote = false) :
    basedLength? mark p (m :: singleQuote :: (digits ++ [singleQuote])) =
      some (digits.length + 3) := by
  have run : runLength p (digits ++ [singleQuote]) = digits.length :=
    runLength_append_of_all all ends
  rw [basedLength?]
  · simp [run, marked]
  · exact nonzero

theorem variableLength?_name {c : Char} {rest : List Char} (start : isNameStart c = true)
    (all : ∀ d ∈ rest, isNameChar d = true ∨ d = '.') :
    variableLength? ('@' :: c :: rest) = some (rest.length + 2) := by
  have run : runLength (fun c => isNameChar c || c == '.') rest = rest.length := by
    refine runLength_of_all fun d member => ?_
    simpa using all d member
  have single : c ≠ '@' := by
    rintro rfl
    exact absurd start (by decide)
  rw [variableLength?]
  · rw [if_pos start, run, Nat.add_comm]
  · exact fun _ _ same => absurd same single

theorem variableLength?_system {c : Char} {rest : List Char} (start : isNameStart c = true)
    (all : ∀ d ∈ rest, isNameChar d = true ∨ d = '.') :
    variableLength? ('@' :: '@' :: c :: rest) = some (rest.length + 3) := by
  have run : runLength (fun c => isNameChar c || c == '.') rest = rest.length := by
    refine runLength_of_all fun d member => ?_
    simpa using all d member
  rw [variableLength?, if_pos start, run, Nat.add_comm]

/-! ### Names and the keywords in front of them -/

theorem map_of_spelled? {word cs : List Char} (spelled : spelled? word cs = some []) :
    cs.map foldLetter = word := by
  induction word generalizing cs with
  | nil =>
    cases spelled
    rfl
  | cons w word ih =>
    cases cs with
    | nil => cases spelled
    | cons c cs =>
      rw [spelled?] at spelled
      split_ifs at spelled with same
      rw [List.map_cons, ih spelled, same]

/-- A word as long as the text spells all of it. -/
theorem map_of_wordLength? {word : String} {cs : List Char}
    (found : wordLength? word cs = some cs.length) : cs.map foldLetter = word.toList := by
  unfold wordLength? at found
  cases spelled : spelled? word.toList cs with
  | none => simp [spelled] at found
  | some left =>
    have size := spelled?_length spelled
    have same : word.toList.length = word.length := String.length_toList
    cases left with
    | nil => exact map_of_spelled? spelled
    | cons c left =>
      simp only [spelled, Option.ite_none_left_eq_some, Option.some.injEq,
        List.length_cons] at found size
      omega

/-- The characters of a name that goes on to the end of the text. -/
theorem name_spec {cs : List Char} (named : nameLength? cs = some cs.length) :
    (∀ c ∈ cs, isNameChar (foldLetter c) = true) ∧
      reservedWords.contains (String.ofList (cs.map foldLetter)) = false := by
  cases cs with
  | nil => cases named
  | cons c cs =>
    rw [nameLength?] at named
    split_ifs at named with start
    obtain ⟨unreserved, size⟩ := Option.ite_none_left_eq_some.mp named
    have whole : ((c :: cs).takeWhile fun c => isNameChar (foldLetter c)) = c :: cs :=
      List.IsPrefix.eq_of_length (List.takeWhile_prefix _) (by simpa using size)
    rw [whole] at unreserved
    exact ⟨List.takeWhile_eq_self_iff.mp whole, eq_false_of_ne_true unreserved⟩

/-- A keyword that is spelled by a whole name is not reserved. -/
theorem not_reserved_of_name {word : String} {cs : List Char}
    (named : nameLength? cs = some cs.length)
    (found : wordLength? word cs = some cs.length) : reservedWords.contains word = false := by
  have spelled := map_of_wordLength? found
  have free := (name_spec named).2
  rwa [spelled, String.ofList_toList] at free

theorem basedLength?_name {mark : Char} {p : Char → Bool} {cs : List Char}
    (named : nameLength? cs = some cs.length) : basedLength? mark p cs = none := by
  have letters := (name_spec named).1
  match cs with
  | [] => rfl
  | [c] => simp [basedLength?]
  | c :: d :: cs =>
    have zero : c ≠ '0' := by
      rintro rfl
      cases named
    have quote : d ≠ singleQuote := by
      rintro rfl
      have letter := letters singleQuote (by simp)
      exact absurd letter (by decide)
    rw [basedLength?, if_neg]
    · exact fun marked => quote marked.2.1
    · exact zero

end Lexeme

namespace Terminal

theorem lexemeLength?_of_stops {t : Terminal} (bare : t.isBare = true) {rest : List Char}
    (stops : Stops rest) (c : Char) (cs : List Char) :
    t.lexemeLength? (c :: cs ++ rest) = t.lexemeLength? (c :: cs) := by
  cases rest with
  | nil => rw [List.append_nil]
  | cons x rest => exact lexemeLength?_append bare (stops x rfl) c cs rest

end Terminal

end SqlSyntax
