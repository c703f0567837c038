import SqlSyntax.Proofs.Number.Digits
import SqlSyntax.Wire.Json
import SqlSyntax.Wire.JsonReader

/-!
# Compact JSON is read back as it was written

A value made of nulls, booleans, integers, texts, lists and records with distinct keys is what a
reader finds in its compact text, unless an integer in it has more digits than the reader allows:
then it finds nothing. Doubles, decimals and binary literals are left out: the last two are written
as texts and so never come back. Other styles write the same text if they differ in doubles only.
-/

namespace SqlSyntax

namespace Value

mutual

/-- Whether JSON has a form of its own for every part of the value. -/
def Faithful : Value → Prop
  | .plain (.decimal _) => False
  | .plain (.float _) => False
  | .plain (.binary _ _) => False
  | .plain _ => True
  | .list items => FaithfulItems items
  | .record fields => (Entries.keys fields).Nodup ∧ FaithfulFields fields

def FaithfulItems : List Value → Prop
  | [] => True
  | v :: rest => Faithful v ∧ FaithfulItems rest

def FaithfulFields : List (String × Value) → Prop
  | [] => True
  | (_, v) :: rest => Faithful v ∧ FaithfulFields rest

end

theorem faithfulFields_iff {fields : List (String × Value)} :
    FaithfulFields fields ↔ ∀ e ∈ fields, e.2.Faithful := by
  induction fields with
  | nil => simp [FaithfulFields]
  | cons e rest ih => simp [FaithfulFields, ih]

end Value

namespace Entries

variable {α : Type}

theorem put_of_not_mem {key : String} {value : α} {es : Entries α} (fresh : key ∉ es.keys) :
    put key value es = es ++ [(key, value)] := by
  induction es with
  | nil => rfl
  | cons e rest ih =>
    simp only [keys, List.map_cons, List.mem_cons, not_or] at fresh
    rw [put, if_neg (Ne.symm fresh.1), ih fresh.2, List.cons_append]

/-- Entries with distinct keys are put one behind the other. -/
theorem merge_eq_append {es later : Entries α} (distinct : (keys (es ++ later)).Nodup) :
    merge es later = es ++ later := by
  induction later generalizing es with
  | nil => simp [merge]
  | cons e rest ih =>
    have fresh : e.1 ∉ es.keys := by
      simp only [keys, List.map_append, List.map_cons] at distinct
      intro member
      exact (List.nodup_append.mp distinct).2.2 _ member _ List.mem_cons_self rfl
    have shifted : es ++ e :: rest = es ++ [e] ++ rest := by simp
    calc merge es (e :: rest) = merge (put e.1 e.2 es) rest := rfl
      _ = merge (es ++ [e]) rest := by rw [put_of_not_mem fresh]
      _ = es ++ e :: rest := by rw [ih (shifted ▸ distinct), ← shifted]

end Entries

namespace Json

/-! ### Strings -/

theorem readString_plain {c : Char} (taken rest : List Char)
    (unescaped : c ≠ Text.backslash) (inside : c ≠ Text.doubleQuote) :
    readString none taken (c :: rest) = readString none (c :: taken) rest := by
  have outside : c ≠ '\x5c' := unescaped
  rw [readString]
  · simp [inside]
  · intro _ _ _ _ _ same
    exact absurd same outside
  · intro _ _ same
    exact absurd same outside

theorem readString_escape {e c : Char} (taken rest : List Char) (letter : e ≠ 'u')
    (means : escaped? e = some c) :
    readString none taken (Text.backslash :: e :: rest) = readString none (c :: taken) rest := by
  unfold Text.backslash
  rw [readString]
  · intro _ _ _ _ _ same
    exact absurd same letter
  · exact means

theorem readString_unit {a b c d : Char} {unit : Nat} (taken rest : List Char)
    (means : hexUnit? a b c d = some unit) (whole : unit < 0xd800) :
    readString none taken (Text.backslash :: 'u' :: a :: b :: c :: d :: rest) =
      readString none (Char.ofNat unit :: taken) rest := by
  have small : ¬ (0xd800 ≤ unit ∧ unit < 0xdc00) := by omega
  simp [Text.backslash, readString, means, small]

theorem hexUnit?_hexDigits (code : Nat) (control : code < 32) :
    ∃ a b c d, Text.hexDigits 4 code = [a, b, c, d] ∧ hexUnit? a b c d = some code := by
  refine ⟨_, _, _, _, rfl, ?_⟩
  revert code
  decide

/-- One written character is read as that character. -/
theorem readString_compactChar (c : Char) (taken rest : List Char) :
    readString none taken (compactChar c ++ rest) = readString none (c :: taken) rest := by
  unfold compactChar commonEscape?
  split_ifs with quoted backspace tab newline feed carriage control
  · refine readString_escape taken rest ?_ ?_
    · rcases quoted with rfl | rfl <;> decide
    · simp only [escaped?]
      rw [if_pos (by tauto)]
  · subst backspace
    exact readString_escape taken rest (by decide) (by decide)
  · subst tab
    exact readString_escape taken rest (by decide) (by decide)
  · subst newline
    exact readString_escape taken rest (by decide) (by decide)
  · subst feed
    exact readString_escape taken rest (by decide) (by decide)
  · subst carriage
    exact readString_escape taken rest (by decide) (by decide)
  · obtain ⟨a, b, x, y, digits, means⟩ := hexUnit?_hexDigits c.toNat control
    have read := readString_unit taken rest means (by omega)
    rw [Char.ofNat_toNat] at read
    simpa [hexCode, digits] using read
  · rw [not_or] at quoted
    exact readString_plain taken rest quoted.2 quoted.1

theorem readString_written (s taken rest : List Char) :
    readString none taken (s.flatMap compactChar ++ Text.doubleQuote :: rest) =
      some (taken.reverse ++ s, rest) := by
  induction s generalizing taken with
  | nil =>
    rw [List.flatMap_nil, List.nil_append, readString]
    · simp
    · intro _ _ _ _ _ impossible
      exact absurd impossible (by decide)
    · intro _ _ impossible
      exact absurd impossible (by decide)
  | cons c s ih =>
    rw [List.flatMap_cons, List.append_assoc, readString_compactChar, ih]
    simp

theorem toList_quoted (s : String) :
    (compact.quoted s).toList =
      Text.doubleQuote :: (s.toList.flatMap compactChar ++ [Text.doubleQuote]) := by
  simp [Style.quoted, compact]

/-! ### Integers -/

/-- Behind such a text a number ends. -/
def EndsNumber (rest : List Char) : Prop :=
  ∀ c ∈ rest.head?, isNumberChar c = false

theorem isNumberChar_of_isDigit {c : Char} (digit : c.isDigit = true) : isNumberChar c = true := by
  simp [isNumberChar, digit]

variable {limit : Option Nat}

theorem number?_digits {first : Char} {rest : List Char}
    (digits : ∀ c ∈ first :: rest, c.isDigit = true) :
    number? limit (first :: rest) =
      if limit.all ((first :: rest).length ≤ ·) then
        some (.integer (Numeral.value (first :: rest)))
      else none := by
  have all : (first :: rest).all Char.isDigit = true := List.all_eq_true.mpr digits
  have unsigned : first ≠ '-' := by
    rintro rfl
    exact absurd (digits '-' List.mem_cons_self) (by decide)
  rw [number?]
  · simp [all]
  · intro _ same
    exact unsigned (List.cons.inj same).1

theorem number?_minus {first : Char} {rest : List Char}
    (digits : ∀ c ∈ first :: rest, c.isDigit = true) :
    number? limit ('-' :: first :: rest) =
      if limit.all ((first :: rest).length ≤ ·) then
        some (.integer (-Numeral.value (first :: rest)))
      else none := by
  have all : (first :: rest).all Char.isDigit = true := List.all_eq_true.mpr digits
  simp [number?, all]

theorem toList_toString_int (n : Int) :
    (toString n).toList =
      if n < 0 then '-' :: Nat.toDigits 10 n.natAbs else Nat.toDigits 10 n.natAbs := by
  cases n with
  | ofNat m =>
    have written : toString (Int.ofNat m) = m.repr := rfl
    have unsigned : ¬ Int.ofNat m < 0 := by simp
    rw [written, Nat.toList_repr, if_neg unsigned]
    rfl
  | negSucc m =>
    have written : toString (Int.negSucc m) = "-" ++ (m + 1).repr := rfl
    rw [written, String.toList_append, Nat.toList_repr, if_pos (Int.negSucc_lt_zero m)]
    rfl

theorem isDigit_of_mem_toDigits {n : Nat} {c : Char} (member : c ∈ Nat.toDigits 10 n) :
    c.isDigit = true :=
  Nat.isDigit_of_mem_toDigits (by decide) (by decide) member

theorem isNumberChar_of_mem_toString {n : Int} {c : Char} (member : c ∈ (toString n).toList) :
    isNumberChar c = true := by
  rw [toList_toString_int] at member
  split at member
  · rcases List.mem_cons.mp member with rfl | member
    · decide
    · exact isNumberChar_of_isDigit (isDigit_of_mem_toDigits member)
  · exact isNumberChar_of_isDigit (isDigit_of_mem_toDigits member)

/-- A written integer is read unless it has too many digits. -/
theorem number?_toString (n : Int) :
    number? limit (toString n).toList =
      if Numeral.isWithin limit n then some (.integer n) else none := by
  obtain ⟨first, rest, spelled⟩ :=
    List.exists_cons_of_ne_nil (Nat.toDigits_ne_nil (n := n.natAbs) (b := 10))
  have digits : ∀ c ∈ first :: rest, c.isDigit = true := fun c member =>
    isDigit_of_mem_toDigits (spelled ▸ member)
  have value : Numeral.value (first :: rest) = n.natAbs := spelled ▸ Numeral.value_toDigits n.natAbs
  rw [toList_toString_int, Numeral.isWithin, spelled]
  split
  · rw [number?_minus digits, value]
    congr
    omega
  · rw [number?_digits digits, value]
    congr
    omega

/-! ### Values -/

theorem skipSpace_cons {c : Char} (rest : List Char) (solid : isSpace c = false) :
    skipSpace (c :: rest) = c :: rest := by
  simp [skipSpace, solid]

theorem readValue_string (fuel : Nat) (rest : List Char) :
    readValue limit (fuel + 1) (Text.doubleQuote :: rest) =
      (readString none [] rest).map fun (s, rest) => (.text (String.ofList s), rest) := by
  rw [readValue, skipSpace_cons _ (by decide)]
  simp [Text.doubleQuote]

theorem ne_of_isNumberChar {c d : Char} (number : isNumberChar c = true)
    (other : isNumberChar d = false) : c ≠ d := by
  rintro rfl
  simp [number] at other

theorem isSpace_of_isNumberChar {c : Char} (number : isNumberChar c = true) :
    isSpace c = false := by
  simp [isSpace, ne_of_isNumberChar (d := ' ') number (by decide),
    ne_of_isNumberChar (d := '\t') number (by decide),
    ne_of_isNumberChar (d := '\n') number (by decide),
    ne_of_isNumberChar (d := '\r') number (by decide)]

theorem readValue_number (limit : Option Nat) {c : Char} (fuel : Nat) (rest : List Char)
    (number : isNumberChar c = true) :
    readValue limit (fuel + 1) (c :: rest) =
      (number? limit ((c :: rest).takeWhile isNumberChar)).map fun v =>
        (v, (c :: rest).dropWhile isNumberChar) := by
  rw [readValue, skipSpace_cons _ (isSpace_of_isNumberChar number)]
  simp [ne_of_isNumberChar (d := 'n') number (by decide),
    ne_of_isNumberChar (d := 't') number (by decide),
    ne_of_isNumberChar (d := 'f') number (by decide),
    ne_of_isNumberChar (d := '[') number (by decide),
    ne_of_isNumberChar (d := '\x7b') number (by decide),
    ne_of_isNumberChar (d := Text.doubleQuote) number (by decide)]

theorem toString_int_cons (n : Int) :
    ∃ c cs, (toString n).toList = c :: cs ∧ isNumberChar c = true := by
  have some : (toString n).toList ≠ [] := by
    rw [toList_toString_int]
    split <;> simp [Nat.toDigits_ne_nil]
  obtain ⟨c, cs, spelled⟩ := List.exists_cons_of_ne_nil some
  exact ⟨c, cs, spelled, isNumberChar_of_mem_toString (spelled ▸ List.mem_cons_self)⟩

theorem readValue_integer (fuel : Nat) (n : Int) (rest : List Char) (ends : EndsNumber rest) :
    readValue limit (fuel + 1) ((toString n).toList ++ rest) =
      if Numeral.isWithin limit n then some (.integer n, rest) else none := by
  obtain ⟨c, cs, spelled, number⟩ := toString_int_cons n
  have all : ∀ d ∈ (toString n).toList, isNumberChar d = true := fun _ =>
    isNumberChar_of_mem_toString
  have taken : ((toString n).toList ++ rest).takeWhile isNumberChar = (toString n).toList := by
    rw [List.takeWhile_append_of_pos all]
    cases rest with
    | nil => simp
    | cons d ds => simp [ends d rfl]
  have dropped : ((toString n).toList ++ rest).dropWhile isNumberChar = rest := by
    rw [List.dropWhile_append_of_pos all]
    cases rest with
    | nil => rfl
    | cons d ds => simp [ends d rfl]
  have opened := readValue_number limit fuel (cs ++ rest) number
  rw [← List.cons_append, ← spelled, taken, dropped, number?_toString] at opened
  rw [opened]
  split <;> rfl

theorem toList_write_list (items : List Value) :
    (write compact (.list items)).toList = '[' :: ((writeItems compact items).toList ++ [']']) := by
  simp [write]

theorem toList_write_record (fields : List (String × Value)) :
    (write compact (.record fields)).toList =
      '\x7b' :: ((writeFields compact fields).toList ++ ['\x7d']) := by
  simp [write]

theorem toList_writeItems_cons (v next : Value) (rest : List Value) :
    (writeItems compact (v :: next :: rest)).toList =
      (write compact v).toList ++ ',' :: (writeItems compact (next :: rest)).toList := by
  simp [writeItems, compact]

theorem toList_writeFields_one (key : String) (v : Value) :
    (writeFields compact [(key, v)]).toList =
      (compact.quoted key).toList ++ ':' :: (write compact v).toList := by
  simp [writeFields, compact]

theorem toList_writeFields_cons (key : String) (v : Value) (next : String × Value)
    (rest : List (String × Value)) :
    (writeFields compact ((key, v) :: next :: rest)).toList =
      (compact.quoted key).toList ++ ':' :: ((write compact v).toList ++
        ',' :: (writeFields compact (next :: rest)).toList) := by
  simp [writeFields, compact]

/-- A written value starts with a character that is neither a space nor a closing bracket. -/
theorem write_head {v : Value} (faithful : v.Faithful) :
    ∃ c cs, (write compact v).toList = c :: cs ∧ isSpace c = false ∧ c ≠ ']' := by
  cases v with
  | plain l =>
    cases l with
    | null => exact ⟨_, _, rfl, by decide, by decide⟩
    | boolean b => cases b <;> exact ⟨_, _, rfl, by decide, by decide⟩
    | integer n =>
      obtain ⟨c, cs, spelled, number⟩ := toString_int_cons n
      exact ⟨c, cs, spelled, isSpace_of_isNumberChar number,
        ne_of_isNumberChar number (by decide)⟩
    | text s => exact ⟨_, _, toList_quoted s, by decide, by decide⟩
    | decimal _ => exact absurd faithful (by simp [Value.Faithful])
    | float _ => exact absurd faithful (by simp [Value.Faithful])
    | binary _ _ => exact absurd faithful (by simp [Value.Faithful])
  | list items => exact ⟨_, _, toList_write_list items, by decide, by decide⟩
  | record fields => exact ⟨_, _, toList_write_record fields, by decide, by decide⟩

theorem readValue_list {v : Value} (fuel : Nat) (items : List Value) (rest : List Char)
    (faithful : v.Faithful) :
    readValue limit (fuel + 1) ('[' :: ((writeItems compact (v :: items)).toList ++ rest)) =
      (readItems limit fuel ((writeItems compact (v :: items)).toList ++ rest)).map
        fun (items, rest) => (.list items, rest) := by
  obtain ⟨c, cs, spelled, solid, inside⟩ := write_head faithful
  have started : ∃ ds, (writeItems compact (v :: items)).toList = c :: ds := by
    cases items with
    | nil => exact ⟨cs, spelled⟩
    | cons next more => exact ⟨_, by rw [toList_writeItems_cons, spelled, List.cons_append]⟩
  obtain ⟨ds, begun⟩ := started
  rw [readValue, skipSpace_cons _ (by decide), begun, List.cons_append]
  simp only [skipSpace_cons _ solid]
  split
  · rename_i same
    exact absurd (List.cons.inj same).1 inside
  · rfl

theorem readValue_record (fuel : Nat) (key : String) (v : Value) (fields : List (String × Value))
    (rest : List Char) :
    readValue limit (fuel + 1) ('\x7b' ::
      ((writeFields compact ((key, v) :: fields)).toList ++ rest)) =
      (readFields limit fuel ((writeFields compact ((key, v) :: fields)).toList ++ rest)).map
        fun (fields, rest) => (.record (Entries.merge [] fields), rest) := by
  have started : ∃ ds, (writeFields compact ((key, v) :: fields)).toList = Text.doubleQuote ::
      ds := by
    cases fields with
    | nil => exact ⟨_, by rw [toList_writeFields_one, toList_quoted, List.cons_append]⟩
    | cons next more => exact ⟨_, by rw [toList_writeFields_cons, toList_quoted, List.cons_append]⟩
  obtain ⟨ds, begun⟩ := started
  rw [readValue, skipSpace_cons _ (by decide), begun, List.cons_append]
  simp only [skipSpace_cons _ (show isSpace Text.doubleQuote = false by decide)]
  rfl

theorem endsNumber_cons {c : Char} (rest : List Char) (no : isNumberChar c = false) :
    EndsNumber (c :: rest) := by
  simpa [EndsNumber] using no

/-- With that much fuel, a value at the head of a text is read as it was written, or not at all. -/
def ReadsValues (limit : Option Nat) (fuel : Nat) : Prop :=
  ∀ (v : Value) (rest : List Char), v.Faithful → EndsNumber rest →
    (write compact v).toList.length ≤ fuel →
    readValue limit fuel ((write compact v).toList ++ rest) =
      if v.isWithin limit then some (v, rest) else none

def ReadsItems (limit : Option Nat) (fuel : Nat) : Prop :=
  ∀ (v : Value) (items : List Value) (rest : List Char), Value.FaithfulItems (v :: items) →
    (writeItems compact (v :: items)).toList.length < fuel →
    readItems limit fuel ((writeItems compact (v :: items)).toList ++ ']' :: rest) =
      if Value.areWithin limit (v :: items) then some (v :: items, rest) else none

def ReadsFields (limit : Option Nat) (fuel : Nat) : Prop :=
  ∀ (key : String) (v : Value) (fields : List (String × Value)) (rest : List Char),
    Value.FaithfulFields ((key, v) :: fields) →
    (writeFields compact ((key, v) :: fields)).toList.length < fuel →
    readFields limit fuel ((writeFields compact ((key, v) :: fields)).toList ++ '\x7d' :: rest) =
      if Value.fieldsAreWithin limit ((key, v) :: fields) then some ((key, v) :: fields, rest)
      else none

theorem readValue_literal (l : Literal) (fuel : Nat) (rest : List Char)
    (faithful : (Value.plain l).Faithful) (ends : EndsNumber rest) :
    readValue limit (fuel + 1) ((write compact (.plain l)).toList ++ rest) =
      if (Value.plain l).isWithin limit then some (.plain l, rest) else none := by
  cases l with
  | null => rfl
  | boolean b => cases b <;> rfl
  | integer n => exact readValue_integer fuel n rest ends
  | text s =>
    have quoted : (write compact (.plain (.text s))).toList = (compact.quoted s).toList := rfl
    rw [quoted, toList_quoted, List.cons_append, readValue_string, List.append_assoc,
      List.singleton_append, readString_written]
    simp [Value.isWithin]
  | decimal _ => exact absurd faithful (by simp [Value.Faithful])
  | float _ => exact absurd faithful (by simp [Value.Faithful])
  | binary _ _ => exact absurd faithful (by simp [Value.Faithful])

theorem readsValues_succ {fuel : Nat} (items : ReadsItems limit fuel)
    (fields : ReadsFields limit fuel) : ReadsValues limit (fuel + 1) := by
  intro v rest faithful ends enough
  cases v with
  | plain l => exact readValue_literal l fuel rest faithful ends
  | list vs =>
    cases vs with
    | nil => rfl
    | cons v vs =>
      rw [toList_write_list, List.length_cons, List.length_append, List.length_singleton] at enough
      rw [toList_write_list, List.cons_append, List.append_assoc, List.singleton_append,
        readValue_list fuel vs _ faithful.1, items v vs rest faithful (by omega), Value.isWithin]
      split <;> rfl
  | record es =>
    cases es with
    | nil => rfl
    | cons e es =>
      obtain ⟨key, v⟩ := e
      have distinct := faithful.1
      rw [toList_write_record, List.length_cons, List.length_append, List.length_singleton]
        at enough
      rw [toList_write_record, List.cons_append, List.append_assoc, List.singleton_append,
        readValue_record, fields key v es rest faithful.2 (by omega), Value.isWithin]
      split
      · simp only [Option.map_some]
        rw [Entries.merge_eq_append (by simpa using distinct), List.nil_append]
      · rfl

theorem readsItems_succ {fuel : Nat} (values : ReadsValues limit fuel)
    (items : ReadsItems limit fuel) : ReadsItems limit (fuel + 1) := by
  intro v vs rest faithful enough
  rw [Value.areWithin]
  cases vs with
  | nil =>
    have short : (write compact v).toList.length ≤ fuel := Nat.lt_succ_iff.mp enough
    have read := values v (']' :: rest) faithful.1 (endsNumber_cons rest (by decide)) short
    have one : (writeItems compact [v]) = write compact v := rfl
    rw [readItems, one, read]
    cases v.isWithin limit <;> rfl
  | cons next vs =>
    rw [toList_writeItems_cons, List.length_append, List.length_cons] at enough
    have read := values v (',' :: ((writeItems compact (next :: vs)).toList ++ ']' :: rest))
      faithful.1 (endsNumber_cons _ (by decide)) (by omega)
    have others := items next vs rest faithful.2 (by omega)
    rw [readItems, toList_writeItems_cons, List.append_assoc, List.cons_append, read]
    cases v.isWithin limit with
    | false => rfl
    | true =>
      simp only [skipSpace_cons _ (show isSpace ',' = false by decide), others, if_true,
        Bool.true_and]
      split <;> rfl

/-- What is read behind a key and a colon. -/
theorem readFields_quoted (fuel : Nat) (key : String) (tail : List Char) :
    readFields limit (fuel + 1) ((compact.quoted key).toList ++ ':' :: tail) =
      (readValue limit fuel tail).bind fun (v, rest) =>
        match skipSpace rest with
        | ',' :: rest =>
          (readFields limit fuel rest).map fun (fields, rest) => ((key, v) :: fields, rest)
        | '\x7d' :: rest => some ([(key, v)], rest)
        | _ => none := by
  have name := readString_written key.toList [] (':' :: tail)
  unfold Text.doubleQuote at name
  rw [toList_quoted, List.cons_append, List.append_assoc, List.singleton_append, readFields,
    skipSpace_cons _ (by decide)]
  simp only [Text.doubleQuote, name, skipSpace_cons _ (show isSpace ':' = false by decide),
    List.reverse_nil, List.nil_append, String.ofList_toList]
  cases readValue limit fuel tail <;> rfl

theorem readsFields_succ {fuel : Nat} (values : ReadsValues limit fuel)
    (fields : ReadsFields limit fuel) : ReadsFields limit (fuel + 1) := by
  intro key v es rest faithful enough
  rw [Value.fieldsAreWithin]
  cases es with
  | nil =>
    rw [toList_writeFields_one, List.length_append, List.length_cons] at enough
    have read := values v ('\x7d' :: rest) faithful.1 (endsNumber_cons rest (by decide)) (by omega)
    rw [toList_writeFields_one, List.append_assoc, List.cons_append, readFields_quoted, read]
    cases v.isWithin limit <;> rfl
  | cons next es =>
    obtain ⟨name, w⟩ := next
    rw [toList_writeFields_cons] at enough
    simp only [List.length_append, List.length_cons] at enough
    have read :=
      values v (',' :: ((writeFields compact ((name, w) :: es)).toList ++ '\x7d' :: rest))
      faithful.1 (endsNumber_cons _ (by decide)) (by omega)
    have others := fields name w es rest faithful.2 (by omega)
    rw [toList_writeFields_cons, List.append_assoc, List.cons_append, List.append_assoc,
      List.cons_append, readFields_quoted, read]
    cases v.isWithin limit with
    | false => rfl
    | true =>
      simp only [skipSpace_cons _ (show isSpace ',' = false by decide), others, if_true,
        Bool.true_and, Option.bind_some]
      split <;> rfl

/-- Whatever comes behind it does not matter to a value at the head of a text. -/
theorem readsValues (limit : Option Nat) (fuel : Nat) :
    ReadsValues limit fuel ∧ ReadsItems limit fuel ∧ ReadsFields limit fuel := by
  induction fuel with
  | zero =>
    refine ⟨?_, ?_, ?_⟩
    · intro v rest faithful _ enough
      obtain ⟨c, cs, spelled, -⟩ := write_head faithful
      simp [spelled] at enough
    · intro v items rest _ enough
      exact absurd enough (Nat.not_lt_zero _)
    · intro key v fields rest _ enough
      exact absurd enough (Nat.not_lt_zero _)
  | succ fuel ih =>
    obtain ⟨values, items, fields⟩ := ih
    exact ⟨readsValues_succ items fields, readsItems_succ values items,
      readsFields_succ values fields⟩

theorem readWithin?_write (limit : Option Nat) {v : Value} (faithful : v.Faithful) :
    readWithin? limit (write compact v) = if v.isWithin limit then some v else none := by
  have read := (readsValues limit ((write compact v).toList.length + 1)).1 v [] faithful
    (by simp [EndsNumber]) (by omega)
  rw [List.append_nil] at read
  rw [readWithin?, read]
  cases v.isWithin limit <;> rfl

theorem read?_write {v : Value} (faithful : v.Faithful) :
    read? (write compact v) = if v.isTellable then some v else none :=
  readWithin?_write _ faithful

/-! ### Styles that differ in doubles only -/

mutual

theorem write_terse : ∀ v : Value, v.Faithful → write terse v = write compact v
  | .plain .null, _ => rfl
  | .plain (.boolean _), _ => rfl
  | .plain (.integer _), _ => rfl
  | .plain (.text _), _ => rfl
  | .list items, faithful => by rw [write, write, writeItems_terse items faithful]
  | .record fields, faithful => by rw [write, write, writeFields_terse fields faithful.2]

theorem writeItems_terse : ∀ items : List Value, Value.FaithfulItems items →
    writeItems terse items = writeItems compact items
  | [], _ => rfl
  | [v], faithful => write_terse v faithful.1
  | v :: next :: rest, faithful => by
    have written (style : Style) : writeItems style (v :: next :: rest) =
        write style v ++ style.comma ++ writeItems style (next :: rest) := rfl
    rw [written, written, write_terse v faithful.1, writeItems_terse (next :: rest) faithful.2]
    rfl

theorem writeFields_terse : ∀ fields : List (String × Value), Value.FaithfulFields fields →
    writeFields terse fields = writeFields compact fields
  | [], _ => rfl
  | [(key, v)], faithful => by
    rw [writeFields, writeFields, write_terse v faithful.1]
    rfl
  | (key, v) :: next :: rest, faithful => by
    have written (style : Style) : writeFields style ((key, v) :: next :: rest) =
        style.quoted key ++ style.colon ++ write style v ++ style.comma ++
          writeFields style (next :: rest) := rfl
    rw [written, written, write_terse v faithful.1, writeFields_terse (next :: rest) faithful.2]
    rfl

end

end Json

end SqlSyntax
