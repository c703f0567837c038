import SqlSyntax.Proofs.Lexical.Found
import SqlSyntax.Text.Case

/-!
# What tokens spell

A token carries a lexeme cut off the head of a text. What is known of it is said here kind by kind:
a name is not empty, a number is one by itself, the upper case of a keyword is one of few forms.
-/

namespace SqlSyntax

/-- The token carries a lexeme of the terminal, cut off the head of some text. -/
def Token.Cut (t : Terminal) (token : Token) : Prop :=
  token.terminal = t ∧ ∃ cs n, t.lexemeLength? cs = some n ∧ token.text.toList = cs.take n

/-! ### Names -/

namespace Lexeme

/-- Whether characters start with a name depends on the letters they are taken for. -/
theorem nameLength?_congr {cs ds : List Char} (same : cs.map foldLetter = ds.map foldLetter) :
    nameLength? cs = nameLength? ds := by
  have run (es : List Char) : (es.takeWhile fun c => isNameChar (foldLetter c)).map foldLetter =
      (es.map foldLetter).takeWhile isNameChar := by
    rw [List.takeWhile_map]
    rfl
  match cs, ds with
  | [], [] => rfl
  | c :: cs, d :: ds =>
    have first : foldLetter c = foldLetter d := (List.cons.inj same).1
    simp only [nameLength?, first, run, same]

theorem least_lt_of_closing {quote : Char} {escapes : Bool} {least taken n : Nat} {cs : List Char}
    {last : Option Nat} (found : closing quote escapes least cs taken last = some n)
    (later : ∀ m ∈ last, least + 1 < m) : least + 1 < n := by
  fun_induction closing quote escapes least cs taken last with
  | case1 => exact later n found
  | case2 taken last c ends =>
    cases found
    omega
  | case3 => exact later n found
  | case4 rest taken last ih =>
    refine ih found fun m member => ?_
    split_ifs at member with behind
    · cases member
      omega
    · exact later m member
  | case5 d rest taken last other behind =>
    cases found
    omega
  | case6 => exact later n found
  | case7 c d rest taken last other escaped ih => exact ih found later
  | case8 c d rest taken last other plain ih => exact ih found later

theorem two_lt_of_quotedNameLength? {cs : List Char} {n : Nat}
    (found : quotedNameLength? cs = some n) : 2 < n := by
  unfold quotedNameLength? at found
  split at found
  · split_ifs at found
    exact least_lt_of_closing found nofun
  · cases found

end Lexeme

theorem Text.collapsePairs_ne_nil {c : Char} {cs : List Char} (occupied : cs ≠ []) :
    Text.collapsePairs c cs ≠ [] := by
  match cs with
  | [] => exact absurd rfl occupied
  | [x] => simp [Text.collapsePairs]
  | x :: y :: rest =>
    rw [Text.collapsePairs]
    split_ifs <;> simp

namespace Token

variable {t : Terminal} {token : Token}

theorem Cut.text_ne (cut : token.Cut t) : token.text.toList ≠ [] := by
  obtain ⟨_, cs, n, found, same⟩ := cut
  have within := Terminal.lexemeLength?_within found
  rw [same]
  intro none
  have size := congrArg List.length none
  rw [List.length_take, List.length_nil] at size
  have := within.1
  have := within.2
  omega

theorem Cut.unquoteName_ne (cut : token.Cut .quotedName) : Text.unquoteName token.text ≠ "" := by
  obtain ⟨_, cs, n, found, same⟩ := cut
  have size := Lexeme.two_lt_of_quotedNameLength? found
  have within := Lexeme.quotedNameLength?_within found
  have inside : Text.inner token.text.toList ≠ [] := by
    rw [Text.inner, same]
    intro none
    have length := congrArg List.length none
    rw [List.length_dropLast, List.length_drop, List.length_take, List.length_nil] at length
    have := within.2
    omega
  intro empty
  refine Text.collapsePairs_ne_nil (c := Text.backQuote) inside ?_
  simpa [Text.unquoteName] using congrArg String.toList empty

/-- A name is not empty. -/
theorem Cut.name_ne (cut : token.Cut t) (ident : t = .name ∨ t = .quotedName) :
    token.name ≠ "" := by
  obtain rfl | rfl := ident
  · rw [Token.name, cut.1]
    intro empty
    exact cut.text_ne (by simpa using congrArg String.toList empty)
  · rw [Token.name, cut.1]
    exact cut.unquoteName_ne

end Token

/-! ### Upper case -/

namespace Text

open Lexeme (foldLetter isNameChar)

/-- What the upper case of a letter that is taken for `c` can be. -/
def capitals (c : Char) : List Char :=
  if c = 'i' then ['I', 'İ'] else if c = 'k' then ['K', 'K'] else [c.toUpper]

theorem foldLetter_cases (c : Char) :
    c.toNat < 128 ∨ c = 'ſ' ∨ c = 'K' ∨ c = 'İ' ∨ c = 'ı' ∨
      128 ≤ c.toNat ∧ foldLetter c = c := by
  by_cases small : c.toNat < 128
  · exact .inl small
  · have code {d : Char} (same : c.toNat = d.toNat) : c = d := Char.toNat_inj.mp same
    by_cases s : c.toNat = 0x17f
    · exact .inr (.inl (code s))
    by_cases k : c.toNat = 0x212a
    · exact .inr (.inr (.inl (code k)))
    by_cases i : c.toNat = 0x130
    · exact .inr (.inr (.inr (.inl (code i))))
    by_cases j : c.toNat = 0x131
    · exact .inr (.inr (.inr (.inr (.inl (code j)))))
    · refine .inr (.inr (.inr (.inr (.inr ⟨by omega, ?_⟩))))
      rw [foldLetter, if_neg s, if_neg k, if_neg (by omega)]
      unfold Char.toLower
      refine dif_neg fun upper => ?_
      have bound : c.toNat ≤ 90 := UInt32.le_iff_toNat_le.mp upper.2
      omega

/-- A property of small code points that each of them has. -/
theorem holds_of_small {p : Char → Prop} [DecidablePred p] {c : Char} (small : c.toNat < 128)
    (all : ∀ n < 128, p (Char.ofNat n)) : p c := by
  simpa using all c.toNat small

theorem upperChar_mem_capitals {c : Char} (small : (foldLetter c).toNat < 128) :
    ∃ d ∈ capitals (foldLetter c), upperChar c = [d] := by
  obtain ascii | rfl | rfl | rfl | rfl | ⟨large, same⟩ := foldLetter_cases c
  · refine ⟨c.toUpper, ?_, if_pos ascii⟩
    exact holds_of_small (p := fun c => c.toUpper ∈ capitals (foldLetter c)) ascii (by decide)
  · exact ⟨'S', by decide, by decide⟩
  · exact ⟨'K', by decide, by decide⟩
  · exact ⟨'İ', by decide, by decide⟩
  · exact ⟨'I', by decide, by decide⟩
  · rw [same] at small
    omega

/-- All that the upper case of a text can be that is taken for the word. -/
def upperForms : List Char → List (List Char)
  | [] => [[]]
  | c :: word => (upperForms word).flatMap fun form => (capitals c).map (· :: form)

theorem flatMap_upperChar_mem {cs : List Char} (small : ∀ c ∈ cs, (foldLetter c).toNat < 128) :
    cs.flatMap upperChar ∈ upperForms (cs.map foldLetter) := by
  induction cs with
  | nil => exact List.mem_singleton_self []
  | cons c cs ih =>
    obtain ⟨d, listed, upper⟩ := upperChar_mem_capitals (small c List.mem_cons_self)
    have rest := ih fun x member => small x (List.mem_cons_of_mem c member)
    rw [List.map_cons, upperForms, List.mem_flatMap]
    refine ⟨_, rest, List.mem_map.mpr ⟨d, listed, ?_⟩⟩
    rw [List.flatMap_cons, upper]
    rfl

theorem toNat_lt_of_isNameChar {c : Char} (letter : isNameChar c = true) : c.toNat < 128 := by
  simp only [isNameChar, Lexeme.isNameStart, isAlpha_iff, isUpper_iff_toNat, isLower_iff_toNat,
    Char.isDigit, Bool.or_eq_true, Bool.and_eq_true, decide_eq_true_eq, beq_iff_eq] at letter
  obtain (((upper | lower) | rfl) | rfl) | digit := letter
  · omega
  · omega
  · decide
  · decide
  · have bound : c.toNat ≤ 57 := UInt32.le_iff_toNat_le.mp digit.2
    omega

end Text

namespace Lexeme

theorem map_foldLetter_of_spelled? {word cs rest : List Char}
    (spelled : spelled? word cs = some rest) : (cs.take word.length).map foldLetter = word := by
  induction word generalizing cs with
  | nil => rfl
  | cons w word ih =>
    cases cs with
    | nil => cases spelled
    | cons c cs =>
      rw [spelled?] at spelled
      split_ifs at spelled with same
      rw [List.length_cons, List.take_succ_cons, List.map_cons, same, ih spelled]

theorem map_foldLetter_take {word : String} {cs : List Char} {n : Nat}
    (found : wordLength? word cs = some n) : (cs.take n).map foldLetter = word.toList := by
  unfold wordLength? at found
  split at found
  · rename_i spelled
    split_ifs at found
    cases found
    exact map_foldLetter_of_spelled? spelled
  · rename_i spelled
    cases found
    exact map_foldLetter_of_spelled? spelled
  · cases found

end Lexeme

namespace Terminal

theorem lexemeLength?_of_word {t : Terminal} {word : String} (single : t.words = [word])
    (unmarked : t.symbol? = none) (cs : List Char) :
    t.lexemeLength? cs = Lexeme.wordLength? word cs := by
  unfold Terminal.lexemeLength?
  split
  all_goals try cases single
  rw [single, unmarked]
  simp only [List.findSome?_cons, List.findSome?_nil, Option.bind_none]
  cases Lexeme.wordLength? word cs <;> rfl

end Terminal

/-- The upper case of a keyword is one of the forms that its word can take. -/
theorem Token.Cut.toUpper_mem_upperForms {t : Terminal} {token : Token} {word : String}
    (cut : token.Cut t) (single : t.words = [word]) (unmarked : t.symbol? = none)
    (small : word.toList.all (·.toNat < 128) = true) :
    (Text.toUpper token.text).toList ∈ Text.upperForms word.toList := by
  obtain ⟨_, cs, n, found, same⟩ := cut
  rw [Terminal.lexemeLength?_of_word single unmarked] at found
  have folded : token.text.toList.map Lexeme.foldLetter = word.toList := by
    rw [same]
    exact Lexeme.map_foldLetter_take found
  have small : ∀ c ∈ token.text.toList, (Lexeme.foldLetter c).toNat < 128 := by
    intro c member
    have listed : Lexeme.foldLetter c ∈ word.toList := folded ▸ List.mem_map_of_mem member
    simpa using List.all_eq_true.mp small _ listed
  have form := Text.flatMap_upperChar_mem small
  rwa [folded, ← String.toList_ofList (l := token.text.toList.flatMap Text.upperChar)] at form

/-! ### Numbers -/

namespace Lexeme

theorem runLength_take (p : Char → Bool) (cs : List Char) (n : Nat) :
    runLength p (cs.take n) = min n (runLength p cs) := by
  rw [runLength, runLength, ← List.take_takeWhile, List.length_take]

theorem mantissaLength?_take {cs : List Char} {m n : Nat} (found : mantissaLength? cs = some m)
    (enough : m ≤ n) : mantissaLength? (cs.take n) = some m := by
  unfold mantissaLength? at found ⊢
  dsimp only at found ⊢
  have whole : runLength Text.isDigit cs ≤ m := by
    split at found
    · split_ifs at found
      cases found
      omega
    · split_ifs at found
      cases found
      omega
  rw [runLength_take, Nat.min_eq_right (whole.trans enough), List.drop_take]
  split at found
  · rename_i rest pointed
    split_ifs at found with bare
    cases found
    obtain ⟨k, more⟩ : ∃ k, n - runLength Text.isDigit cs = k + 1 :=
      ⟨n - runLength Text.isDigit cs - 1, by omega⟩
    have room : runLength Text.isDigit rest ≤ k := by omega
    rw [pointed, more, List.take_succ_cons]
    show (if runLength Text.isDigit cs = 0 ∧ runLength Text.isDigit (rest.take k) = 0 then none
      else some (runLength Text.isDigit cs + 1 + runLength Text.isDigit (rest.take k))) = _
    rw [runLength_take, Nat.min_eq_right room, if_neg bare]
  · rename_i other
    split_ifs at found with none
    cases found
    split
    · rename_i rest pointed
      cases later : cs.drop (runLength Text.isDigit cs) with
      | nil => simp [later] at pointed
      | cons c tail =>
        rw [later] at pointed
        cases more : n - runLength Text.isDigit cs with
        | zero => simp [more] at pointed
        | succ k =>
          rw [more, List.take_succ_cons] at pointed
          cases pointed
          exact absurd later (other tail)
    · rw [if_neg none]

theorem exponentLength_take (cs : List Char) :
    exponentLength (cs.take (exponentLength cs)) = exponentLength cs := by
  match cs with
  | [] => rfl
  | [e] => simp [exponentLength]
  | e :: s :: digits =>
    by_cases mark : (e == 'e' || e == 'E') = true
    · by_cases sign : (s == '-' || s == '+') = true
      · by_cases none : runLength Text.isDigit digits = 0
        · simp [exponentLength, mark, sign, none]
        · have size : exponentLength (e :: s :: digits) = runLength Text.isDigit digits + 2 := by
            simp [exponentLength, mark, sign, none]
          rw [size, List.take_succ_cons, List.take_succ_cons]
          simp [exponentLength, mark, sign, none, runLength_take]
      · by_cases none : runLength Text.isDigit (s :: digits) = 0
        · simp [exponentLength, mark, sign, none]
        · have size : exponentLength (e :: s :: digits) =
              runLength Text.isDigit (s :: digits) + 1 := by
            simp [exponentLength, mark, sign, none]
          obtain ⟨k, more⟩ := Nat.exists_eq_succ_of_ne_zero none
          have run := runLength_take Text.isDigit (s :: digits) (k + 1)
          rw [more, Nat.min_self] at run
          rw [size, List.take_succ_cons, more]
          rw [List.take_succ_cons] at run ⊢
          simp [exponentLength, mark, sign, run]
    · simp [exponentLength, mark]

theorem numberLength?_take {cs : List Char} {n : Nat} (found : numberLength? cs = some n) :
    numberLength? (cs.take n) = some n := by
  unfold numberLength? at found ⊢
  cases mantissa : mantissaLength? cs with
  | none => simp [mantissa] at found
  | some m =>
    rw [mantissa] at found
    cases found
    rw [mantissaLength?_take mantissa (Nat.le_add_right m _)]
    dsimp only
    rw [List.drop_take, Nat.add_sub_cancel_left, exponentLength_take]

end Lexeme

theorem Token.Cut.number {token : Token} (cut : token.Cut .number) :
    Lexeme.numberLength? token.text.toList = some token.text.toList.length := by
  obtain ⟨_, cs, n, found, same⟩ := cut
  have within := Lexeme.numberLength?_within found
  rw [same, Lexeme.numberLength?_take found, List.length_take, Nat.min_eq_left within.2]

end SqlSyntax
