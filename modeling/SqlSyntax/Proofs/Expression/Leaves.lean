import SqlSyntax.Proofs.Expression.Written
import SqlSyntax.Proofs.Wire.JsonRoundTrip

/-!
# Written leaves

Literals, markers and variables are written as single lexemes, columns as quoted names with points
between them, and all of them are read back as what they are.
-/

namespace SqlSyntax

open Grammar (Symbol Nonterminal Values Production literalNode statementFragment
  statementFragment_fits)

variable {place : Place}

/-- A token at the end of a row. -/
theorem RowBut.token {scope : TerminalSet} {t : Terminal} {spelling : String}
    (found : ∀ rest, Stops rest → Piece.Found scope t spelling.toList rest)
    (opens : Opens spelling.toList) :
    Row scope [.terminal t] spelling ((⟨t, spelling, .start⟩ : Token), ()) := by
  have alone : statementFragment.Reads Stopped scope [.terminal t] (spelling ++ "")
      ((⟨t, spelling, .start⟩ : Token), ()) := .token (fun rest _ ends => found rest ends.1) .nil
  rw [String.append_empty] at alone
  exact ⟨alone, opens.solid⟩

/-! ### Literals -/

/-- A literal is written if it is read back by a production for its kind. -/
theorem Written.ofLiteral {v : Literal} (opens : Opens v.render.toList)
    (row : Row place.scope [.nonterminal .literal] v.render (literalNode v, ())) :
    Written place .simple (literalNode v) v.render :=
  ⟨rfl, opens, .production (.expr .simpleLiteral) rfl row rfl⟩

theorem opens_word {word : String}
    (plain : (word.toList.head?.any fun c => !Text.isBlank c && c != '-') = true) :
    Opens word.toList := by
  cases spelling : word.toList with
  | nil =>
    rw [spelling] at plain
    cases plain
  | cons c tail =>
    rw [spelling] at plain
    simp only [List.head?_cons, Option.any_some, Bool.and_eq_true, Bool.not_eq_true', bne_iff_ne]
      at plain
    exact opens_cons plain.1 plain.2 tail

theorem numberNode_toString {n : Int} (natural : 0 ≤ n)
    (short : (toString n).length ≤ Numeral.digitLimit) :
    Grammar.numberNode ⟨.number, toString n, .start⟩ = .ok (literalNode (.integer n)) := by
  have spelled : (toString n).toList = Nat.toDigits 10 n.natAbs := by
    rw [Json.toList_toString_int, if_neg (by omega)]
  have digits : ∀ c ∈ Nat.toDigits 10 n.natAbs, c.isDigit = true := fun _ =>
    Json.isDigit_of_mem_toDigits
  have unmarked : (Nat.toDigits 10 n.natAbs).any Numeral.isExponentMark = false := by
    rw [List.any_eq_false]
    intro c member
    have plain := Lexeme.holds_of_isDigit (p := fun c => !Numeral.isExponentMark c) (by decide)
      (digits c member)
    simpa using plain
  have whole : (Nat.toDigits 10 n.natAbs).contains '.' = false := by
    by_contra point
    have member : '.' ∈ Nat.toDigits 10 n.natAbs := by simpa using point
    exact absurd (digits '.' member) (by decide)
  have bounded : ¬ Numeral.digitLimit < (Nat.toDigits 10 n.natAbs).length := by
    rw [← spelled, String.length_toList]
    omega
  have value : (Numeral.value (Nat.toDigits 10 n.natAbs) : Int) = n := by
    rw [Numeral.value_toDigits]
    omega
  have integral : ¬ ((Nat.toDigits 10 n.natAbs).contains '.' = true ∨
      Numeral.digitLimit < (Nat.toDigits 10 n.natAbs).length) := by
    rw [whole]
    simpa using bounded
  unfold Grammar.numberNode
  dsimp only
  rw [spelled, unmarked, if_neg (by decide), if_neg integral, value]

/-- The digits between the quotes of a hexadecimal or bit literal. -/
theorem basedDigits_quoted {mark : Char} (nonzero : mark ≠ '0') {t : Terminal}
    {text digits : String}
    (spelled : text.toList = mark :: Text.singleQuote :: (digits.toList ++ [Text.singleQuote])) :
    Grammar.basedDigits ⟨t, text, .start⟩ = digits := by
  unfold Grammar.basedDigits
  simp only [spelled]
  split
  · rename_i same
    exact absurd (List.cons.inj same).1 nonzero
  · simp [Text.inner]

theorem upperChar_hexDigit {c : Char} (hex : Lexeme.isHexDigit c = true)
    (upper : c.isLower = false) : Text.upperChar c = [c] := by
  have code : c = Char.ofNat c.toNat := (Char.ofNat_toNat c).symm
  have ranges : 48 ≤ c.toNat ∧ c.toNat ≤ 57 ∨ 65 ≤ c.toNat ∧ c.toNat ≤ 70 := by
    simp only [Lexeme.isHexDigit, Char.isDigit, Bool.or_eq_true, Bool.and_eq_true,
      decide_eq_true_eq, Char.le_def, UInt32.le_iff_toNat_le] at hex
    obtain (digit | lower) | letter := hex
    · exact .inl digit
    · have small : c.isLower = true := by
        have low : 97 ≤ c.toNat := lower.1
        have high : c.toNat ≤ 102 := lower.2
        exact isLower_iff_toNat.mpr ⟨low, by omega⟩
      rw [small] at upper
      cases upper
    · exact .inr letter
  rw [code]
  generalize c.toNat = n at ranges
  obtain ⟨low, high⟩ | ⟨low, high⟩ := ranges <;> interval_cases n <;> decide

theorem toUpper_hexDigits {digits : String}
    (upper : ∀ c ∈ digits.toList, Lexeme.isHexDigit c = true ∧ c.isLower = false) :
    Text.toUpper digits = digits := by
  have same : digits.toList.flatMap Text.upperChar = digits.toList := by
    calc digits.toList.flatMap Text.upperChar
        = digits.toList.flatMap List.singleton :=
          List.flatMap_congr fun c member =>
            upperChar_hexDigit (upper c member).1 (upper c member).2
      _ = digits.toList := List.flatMap_singleton' digits.toList
  rw [Text.toUpper, same, String.ofList_toList]

theorem Written.integer {n : Int} (natural : 0 ≤ n)
    (short : (toString n).length ≤ Numeral.digitLimit) :
    Written place .simple (literalNode (.integer n)) (toString n) := by
  have spelled : (toString n).toList = Nat.toDigits 10 n.natAbs := by
    rw [Json.toList_toString_int, if_neg (by omega)]
  have digits : ∀ c ∈ Nat.toDigits 10 n.natAbs, c.isDigit = true := fun _ =>
    Json.isDigit_of_mem_toDigits
  have opens : Opens (toString n).toList := by
    rw [spelled]
    obtain ⟨c, tail, begins⟩ := List.exists_cons_of_ne_nil (@Nat.toDigits_ne_nil n.natAbs 10)
    have first := digits c (begins ▸ List.mem_cons_self)
    have plain := Lexeme.holds_of_isDigit (p := fun c => !Text.isBlank c && c != '-')
      (by decide) first
    rw [Bool.and_eq_true, Bool.not_eq_true', bne_iff_ne] at plain
    rw [begins]
    exact opens_cons plain.1 plain.2 tail
  have row : Row place.scope [.terminal .number] (toString n)
      ((⟨.number, toString n, .start⟩ : Token), ()) := by
    refine .token (fun rest stops => ?_) opens
    rw [spelled]
    exact Piece.found_digits Nat.toDigits_ne_nil digits stops
  exact .ofLiteral opens (.production (.expr .number) rfl row (numberNode_toString natural short))

theorem Written.string (s : String) :
    Written place .simple (literalNode (.text s)) (Text.quoteString s) := by
  have opens : Opens (Text.quoteString s).toList := by
    rw [Text.toList_quoteString]
    exact opens_cons (by decide) (by decide) _
  refine .ofLiteral opens (.production (.expr .string) rfl (.string _ s) ?_)
  show Except.ok (literalNode (.text (Text.unquoteString (Text.quoteString s)))) = _
  rw [Text.unquoteString_quoteString]
  rfl

/-- A quoted literal of base two or sixteen. -/
theorem RowBut.based {scope : TerminalSet} {t : Terminal} {mark : Char} {digits : String}
    {base : BinaryBase} (marked : base.mark.toList = [mark]) (visible : Text.isBlank mark = false)
    (letter : mark ≠ '-')
    (found : ∀ rest, Stops rest → Piece.Found scope t
      (mark :: Text.singleQuote :: (digits.toList ++ [Text.singleQuote])) rest) :
    (Literal.binary digits base).render.toList =
        mark :: Text.singleQuote :: (digits.toList ++ [Text.singleQuote]) ∧
      Opens (Literal.binary digits base).render.toList ∧
      Row scope [.terminal t] (Literal.binary digits base).render
        ((⟨t, (Literal.binary digits base).render, .start⟩ : Token), ()) := by
  have spelled : (Literal.binary digits base).render.toList =
      mark :: Text.singleQuote :: (digits.toList ++ [Text.singleQuote]) := by
    simp only [Literal.render, String.toList_append, marked]
    rfl
  have opens : Opens (Literal.binary digits base).render.toList := by
    rw [spelled]
    exact opens_cons visible letter _
  refine ⟨spelled, opens, .token (fun rest stops => ?_) opens⟩
  rw [spelled]
  exact found rest stops

theorem Written.hexadecimal {digits : String}
    (written : ∀ c ∈ digits.toList, Lexeme.isHexDigit c = true ∧ c.isLower = false) :
    Written place .simple (literalNode (.binary digits .hexadecimal))
      (Literal.binary digits .hexadecimal).render := by
  obtain ⟨spelled, opens, row⟩ := RowBut.based (t := .hexNumber)
    (show BinaryBase.hexadecimal.mark.toList = ['X'] from rfl) (by decide) (by decide)
    fun rest stops => Piece.found_hexNumber (fun c member => (written c member).1) stops
  refine .ofLiteral opens (.production (.expr .hexNumber) rfl row ?_)
  show Except.ok (literalNode (.binary (Text.toUpper (Grammar.basedDigits _)) .hexadecimal)) = _
  rw [basedDigits_quoted (by decide) spelled, toUpper_hexDigits written]
  rfl

theorem Written.bit {digits : String} (written : ∀ c ∈ digits.toList, Lexeme.isBitDigit c = true) :
    Written place .simple (literalNode (.binary digits .bit))
      (Literal.binary digits .bit).render := by
  obtain ⟨spelled, opens, row⟩ := RowBut.based (t := .bitNumber)
    (show BinaryBase.bit.mark.toList = ['B'] from rfl) (by decide) (by decide)
    fun rest stops => Piece.found_bitNumber written stops
  refine .ofLiteral opens (.production (.expr .bitNumber) rfl row ?_)
  show Except.ok (literalNode (.binary (Grammar.basedDigits _) .bit)) = _
  rw [basedDigits_quoted (by decide) spelled]
  rfl

theorem Written.literal {v : Literal} (written : v.IsWritten) :
    Written place .simple (literalNode v) v.render := by
  cases v with
  | null =>
    exact .ofLiteral (opens_word (by decide))
      (.production (.expr .null) rfl (.last .kwNull "NULL" (by decide)) rfl)
  | boolean b =>
    cases b
    · exact .ofLiteral (opens_word (by decide))
        (.production (.expr (.boolean false)) rfl (.last .kwFalse "FALSE" (by decide)) rfl)
    · exact .ofLiteral (opens_word (by decide))
        (.production (.expr (.boolean true)) rfl (.last .kwTrue "TRUE" (by decide)) rfl)
  | integer n => exact .integer written.1 written.2
  | decimal d => exact absurd written id
  | float x => exact absurd written id
  | text s => exact .string s
  | binary digits base =>
    cases base
    · exact .hexadecimal written
    · exact .bit written

/-! ### Markers and variables -/

theorem Written.marker (order : Int) : Written place .simple (.paramMarker order) "?" :=
  ⟨rfl, opens_word (by decide),
    .production (.expr .marker) rfl (.last .question "?" (by decide)) rfl⟩

theorem RowBut.variableRef (scope : TerminalSet) {text : String} {cs : List Char}
    (spelled : text.toList = '@' :: cs)
    (own : Lexeme.variableLength? ('@' :: cs) = some (cs.length + 1)) :
    Opens text.toList ∧ Row scope [.nonterminal .simpleExpr] text
      (Grammar.variableNode ⟨.variableName, text, .start⟩, ()) := by
  have opens : Opens text.toList := by
    rw [spelled]
    exact opens_cons (by decide) (by decide) _
  have row : Row scope [.terminal .variableName] text
      ((⟨.variableName, text, .start⟩ : Token), ()) := by
    refine .token (fun rest stops => ?_) opens
    rw [spelled]
    exact Piece.found_variable own stops
  exact ⟨opens, .production (.expr .variableRef) rfl row rfl⟩

theorem Written.variableRef {name : String} (named : IsVariableName name) (isSystem : Bool) :
    Written place .simple (.variableRef name isSystem)
      ((if isSystem then "@@" else "@") ++ name) := by
  obtain ⟨c, rest, spelling, start, all⟩ := named
  have single : c ≠ '@' := by
    rintro rfl
    exact absurd start (by decide)
  cases isSystem
  · have spelled : ("@" ++ name).toList = '@' :: c :: rest := by
      rw [String.toList_append, spelling]
      rfl
    have read : Grammar.variableNode ⟨.variableName, "@" ++ name, .start⟩ =
        .variableRef name false := by
      simp only [Grammar.variableNode, spelled]
      split
      · rename_i same
        exact absurd (List.cons.inj (List.cons.inj same).2).1 single
      · rw [List.drop_one, List.tail_cons, ← spelling, String.ofList_toList]
    obtain ⟨opens, row⟩ := RowBut.variableRef place.scope spelled
      (Lexeme.variableLength?_name start all)
    rw [read] at row
    exact ⟨rfl, opens, row⟩
  · have spelled : ("@@" ++ name).toList = '@' :: '@' :: c :: rest := by
      rw [String.toList_append, spelling]
      rfl
    have read : Grammar.variableNode ⟨.variableName, "@@" ++ name, .start⟩ =
        .variableRef name true := by
      simp only [Grammar.variableNode, spelled]
      rw [← spelling, String.ofList_toList]
    obtain ⟨opens, row⟩ := RowBut.variableRef place.scope spelled
      (Lexeme.variableLength?_system start all)
    rw [read] at row
    exact ⟨rfl, opens, row⟩

/-! ### Columns -/

/-- The text behind does not go on with a back quote, whatever terminal comes first in it. -/
def Unquoted (rest : List Char) (_ : Terminal) : Prop :=
  Avoids Text.backQuote rest

/-- A quoted name, in front of anything but another back quote. -/
theorem reads_ident {scope : TerminalSet} {name : String} (named : name ≠ "") :
    statementFragment.Reads Unquoted scope [.nonterminal .ident] (Text.quoteName name)
      ((⟨.quotedName, Text.quoteName name, .start⟩ : Token), ()) := by
  have alone : statementFragment.Reads Unquoted scope [.terminal .quotedName]
      (Text.quoteName name ++ "") ((⟨.quotedName, Text.quoteName name, .start⟩ : Token), ()) :=
    .token (fun rest _ avoids => Piece.found_quoteName named avoids) .nil
  rw [String.append_empty] at alone
  exact reads_production (.expr .quotedIdent) rfl alone rfl

/-- A row behind a quoted name and a point. -/
theorem reads_qualified {scope : TerminalSet} {name text : String} (named : name ≠ "")
    {symbols : List Symbol} {vs : Values symbols}
    (tail : statementFragment.Reads Stopped .full symbols text vs)
    (within : statementFragment.scope (.terminal .dot) symbols.head? = .full)
    (quoted : ∃ cs, text.toList = Text.backQuote :: cs) :
    statementFragment.Reads Stopped scope (.nonterminal .ident :: .terminal .dot :: symbols)
      (Text.quoteName name ++ ("." ++ text))
      ((⟨.quotedName, Text.quoteName name, .start⟩ : Token), (⟨.dot, ".", .start⟩ : Token),
        vs) := by
  rw [← within] at tail
  obtain ⟨cs, begins⟩ := quoted
  have behind (scope : TerminalSet) : statementFragment.Reads Stopped scope
      (.terminal .dot :: symbols)
      ("." ++ text) ((⟨.dot, ".", .start⟩ : Token), vs) := by
    refine .token (fun rest _ _ => ?_) tail
    rw [begins]
    exact Piece.found_dot _
  refine (reads_ident named).cons statementFragment_fits (behind _) fun rest _ _ _ _ => ?_
  rw [String.toList_append]
  simp [Unquoted, Avoids, Text.backQuote]

theorem quoted_quoteName (name text : String) :
    ∃ cs, (Text.quoteName name ++ text).toList = Text.backQuote :: cs := by
  rw [String.toList_append, Text.toList_quoteName]
  exact ⟨_, rfl⟩

theorem name_quoteName (name : String) :
    Token.name ⟨.quotedName, Text.quoteName name, .start⟩ = name :=
  Text.unquoteName_quoteName name

theorem qualifier_of_ne {name : String} (named : name ≠ "") :
    qualifier name = Text.quoteName name ++ "." := by
  rw [qualifier, if_neg]
  simpa using named

theorem reads_name {scope : TerminalSet} {name : String} (named : name ≠ "") :
    statementFragment.Reads Stopped scope [.nonterminal .ident] (Text.quoteName name)
      ((⟨.quotedName, Text.quoteName name, .start⟩ : Token), ()) :=
  (reads_ident named).before fun _ _ ends => ends.1.avoids (by decide)

/-- A column is read with as many parts as it is written with. -/
theorem reads_column {scope : TerminalSet} {schema table name : String} (named : name ≠ "")
    (qualified : schema ≠ "" → table ≠ "") :
    statementFragment.Reads Stopped scope [.nonterminal .columnRef]
      (qualifier schema ++ (qualifier table ++ Text.quoteName name))
      ((⟨schema, table, name⟩ : Grammar.ColumnPath), ()) := by
  have quoted : ∃ cs, (Text.quoteName name).toList = Text.backQuote :: cs :=
    ⟨_, Text.toList_quoteName name⟩
  by_cases tabled : table = ""
  · have alone : schema = "" := by
      by_contra other
      exact qualified other tabled
    subst tabled alone
    have builds : Production.build 0 (.expr .column)
        ((⟨.quotedName, Text.quoteName name, .start⟩ : Token), ()) =
        .ok (⟨"", "", name⟩ : Grammar.ColumnPath) := by
      show Except.ok (⟨"", "", Token.name _⟩ : Grammar.ColumnPath) = _
      rw [name_quoteName]
      rfl
    rw [show qualifier "" = "" from rfl, String.empty_append, String.empty_append]
    exact reads_production (.expr .column) rfl (reads_name named) builds
  · rw [qualifier_of_ne tabled, String.append_assoc]
    by_cases whole : schema = ""
    · subst whole
      have builds : Production.build 0 (.expr .tableColumn)
          ((⟨.quotedName, Text.quoteName table, .start⟩ : Token), (⟨.dot, ".", .start⟩ : Token),
            (⟨.quotedName, Text.quoteName name, .start⟩ : Token), ()) =
          .ok (⟨"", table, name⟩ : Grammar.ColumnPath) := by
        show Except.ok (⟨"", Token.name _, Token.name _⟩ : Grammar.ColumnPath) = _
        rw [name_quoteName, name_quoteName]
        rfl
      rw [show qualifier "" = "" from rfl, String.empty_append]
      exact reads_production (.expr .tableColumn) rfl
        (reads_qualified tabled (reads_name named) rfl quoted) builds
    · have builds : Production.build 0 (.expr .schemaColumn)
          ((⟨.quotedName, Text.quoteName schema, .start⟩ : Token), (⟨.dot, ".", .start⟩ : Token),
            (⟨.quotedName, Text.quoteName table, .start⟩ : Token), (⟨.dot, ".", .start⟩ : Token),
            (⟨.quotedName, Text.quoteName name, .start⟩ : Token), ()) =
          .ok (⟨schema, table, name⟩ : Grammar.ColumnPath) := by
        show Except.ok (⟨Token.name _, Token.name _, Token.name _⟩ : Grammar.ColumnPath) = _
        rw [name_quoteName, name_quoteName, name_quoteName]
        rfl
      rw [qualifier_of_ne whole, String.append_assoc]
      exact reads_production (.expr .schemaColumn) rfl
        (reads_qualified whole (reads_qualified tabled (reads_name named) rfl quoted) rfl
          (quoted_quoteName table _)) builds

theorem Written.column {schema table name : String} (named : name ≠ "")
    (qualified : schema ≠ "" → table ≠ "") :
    Written place .simple (.columnRef (.node (.columnName schema table name)))
      (qualifier schema ++ qualifier table ++ Text.quoteName name) := by
  have quoted : ∃ cs, (qualifier schema ++ (qualifier table ++ Text.quoteName name)).toList =
      Text.backQuote :: cs := by
    by_cases whole : schema = ""
    · rw [whole, show qualifier "" = "" from rfl, String.empty_append]
      by_cases tabled : table = ""
      · rw [tabled, show qualifier "" = "" from rfl, String.empty_append]
        exact ⟨_, Text.toList_quoteName name⟩
      · rw [qualifier_of_ne tabled, String.append_assoc]
        exact quoted_quoteName table _
    · rw [qualifier_of_ne whole, String.append_assoc]
      exact quoted_quoteName schema _
  rw [String.append_assoc]
  obtain ⟨cs, begins⟩ := quoted
  refine ⟨?_, ?_, ?_⟩
  · simp only [Node.render, Slot.render, String.append_assoc]
  · rw [begins]
    exact opens_cons (by decide) (by decide) cs
  · have row : Row place.scope [.nonterminal .columnRef] _ _ :=
      ⟨reads_column named qualified, Text.backQuote, cs, begins, by decide⟩
    exact .production (.expr .simpleColumn) rfl row rfl

end SqlSyntax
