import SqlSyntax.Proofs.Expression.Leaves
import SqlSyntax.Proofs.Expression.Lists
import SqlSyntax.Proofs.Lexical.Tokens

/-!
# Written calls

A function is called by a name or by a keyword. A name is found at its place unless a keyword that
is looked for there hides it.
-/

namespace SqlSyntax

open Grammar (Symbol Nonterminal Values Production CallArguments callNode aggregateFunctions
  statementFragment statementFragment_fits)
open Grammar.Fragment (stops_append)

variable {place : Place} {name text : String}

/-! ### Function names -/

/-- The keywords that are looked for where an operand starts are reserved words. -/
theorem Place.reserved_words (place : Place) {t : Terminal} (listed : t ∈ place.words) :
    t.isBare = true ∧ ∃ word, t.words = [word] ∧ t.symbol? = none ∧
      reservedWords.contains word = true := by
  have all : (place.words.all fun t => t.isBare && t.symbol?.isNone && t.words.length == 1 &&
      t.words.all reservedWords.contains) = true := by
    cases place <;> decide
  have each := List.all_eq_true.mp all t listed
  simp only [Bool.and_eq_true, Option.isNone_iff_eq_none, beq_iff_eq] at each
  obtain ⟨⟨⟨bare, unmarked⟩, one⟩, reserved⟩ := each
  obtain ⟨word, single⟩ := List.length_eq_one_iff.mp one
  refine ⟨bare, word, single, unmarked, List.all_eq_true.mp reserved word ?_⟩
  rw [single]
  exact List.mem_singleton_self word

/-- A keyword of the place that is found at the start of a whole name is shorter than it. -/
theorem Place.lexemeLength?_name {name : String}
    (named : Lexeme.nameLength? name.toList = some name.toList.length)
    (unhidden : place.hides name = false) {t : Terminal} (listed : t ∈ place.words) :
    t.lexemeLength? name.toList = none := by
  obtain ⟨_, word, single, unmarked, reserved⟩ := place.reserved_words listed
  cases found : t.lexemeLength? name.toList with
  | none => rfl
  | some n =>
    have size := (Terminal.lexemeLength?_within found).2
    by_cases whole : n = name.toList.length
    · rw [whole, Terminal.lexemeLength?_of_word single unmarked] at found
      rw [Lexeme.not_reserved_of_name named found] at reserved
      cases reserved
    · have hidden := List.any_eq_false.mp unhidden t listed
      rw [found, Option.any_some, decide_eq_true_eq] at hidden
      omega

theorem isNameStart_of_name {c : Char} {cs : List Char}
    (named : Lexeme.nameLength? (c :: cs) = some (c :: cs).length) :
    Lexeme.isNameStart (Lexeme.foldLetter c) = true := by
  by_contra other
  rw [Lexeme.nameLength?, if_neg other] at named
  cases named

/-- A name that no keyword hides is found at its place. -/
theorem found_name {name : String}
    (named : Lexeme.nameLength? name.toList = some name.toList.length)
    (unhidden : place.hides name = false) :
    Opens name.toList ∧
      ∀ rest, Stops rest → Piece.Found place.scope .name name.toList rest := by
  have hidden (t : Terminal) (listed : t ∈ place.words) : t.lexemeLength? name.toList = none :=
    Place.lexemeLength?_name named unhidden listed
  cases spelling : name.toList with
  | nil =>
    rw [spelling] at named
    cases named
  | cons c cs =>
    rw [spelling] at named hidden
    have start := isNameStart_of_name named
    have visible := not_isBlank_of_isNameStart start
    have other {d : Char} (plain : Lexeme.isNameStart (Lexeme.foldLetter d) = false) : c ≠ d := by
      rintro rfl
      rw [plain] at start
      cases start
    have opens := opens_cons visible (other (d := '-') (by decide)) cs
    have solid : Lexeme.startsBlank c = false := by
      simp only [Lexeme.startsBlank, Bool.or_eq_false_iff, beq_eq_false_iff_ne]
      exact ⟨⟨⟨other (by decide), other (by decide)⟩, other (by decide)⟩, opens.head_solid c rfl⟩
    refine ⟨opens, fun rest stops => ?_⟩
    refine Piece.found_of_lengths stops rfl (Lexeme.blankLength?_eq_none solid _) named ?_
    intro u before looked
    rw [Place.scope, TerminalSet.contains_ofList_iff, List.mem_append] at looked
    obtain mark | word := looked
    · have marks : (Place.marks.all fun u => u == .hexNumber || u == .bitNumber ||
          !Terminal.name.preferred.contains u) = true := by decide
      have kind := List.all_eq_true.mp marks u mark
      simp only [Bool.or_eq_true, beq_iff_eq, Bool.not_eq_true', List.contains_eq_mem,
        decide_eq_false_iff_not] at kind
      obtain (rfl | rfl) | later := kind
      · exact .inl ⟨rfl, Lexeme.basedLength?_name named⟩
      · exact .inl ⟨rfl, Lexeme.basedLength?_name named⟩
      · exact absurd before later
    · exact .inl ⟨(place.reserved_words word).1, hidden u word⟩

/-- A row that starts with another terminal, directly behind the symbol. -/
theorem RowBut.meeting {t avoided : Terminal} {scope : TerminalSet} {s : Symbol}
    {v : s.Value} {symbols : List Symbol} {vs : Values (.terminal t :: symbols)}
    {mark later : String} (head : RowBut (some avoided) scope [s] text (v, ()))
    (tail : Row (statementFragment.scope s (some (.terminal t)))
      (.terminal t :: symbols) (mark ++ later) vs)
    (stop : mark.toList.head?.any Lexeme.stops.contains = true) (other : t ≠ avoided) :
    Row scope (s :: .terminal t :: symbols) (text ++ (mark ++ later)) (v, vs) := by
  refine ⟨head.reads.cons statementFragment_fits tail.reads fun rest behind next _ starts => ?_,
    head.solid_append _⟩
  have first : next = t := starts behind (.inl rfl)
  refine ⟨stops_append stop later rest, fun same => other ?_⟩
  exact first.symm.trans (Option.some.inj same).symm

/-- A name that is not quoted, in front of anything but another name. -/
theorem RowBut.plainIdent {scope : TerminalSet} (opens : Opens name.toList)
    (found : ∀ rest, Stops rest → Piece.Found scope .name name.toList rest) :
    RowBut (some .name) scope [.nonterminal .ident] name
      ((⟨.name, name, .start⟩ : Token), ()) := by
  have row : RowBut (some .name) scope [.terminal .name] name
      ((⟨.name, name, .start⟩ : Token), ()) :=
    (RowBut.token found opens).but
  refine ⟨.production (.expr .plainIdent) rfl (fun _ _ ends => ?_) row.reads rfl, row.solid⟩
  exact TerminalSet.contains_except fun same => ends.2 (same ▸ rfl)

/-! ### Arguments -/

variable {items : List Node} {star distinct : Bool} {args : Option CallArguments}

/-- What stands between the parentheses of a call, behind `DISTINCT` if that is there: nothing, a
star or a list. -/
inductive WrittenArguments (place : Place) :
    List Node → Bool → Option CallArguments → String → Prop
  | none : WrittenArguments place [] false none ""
  | star : WrittenArguments place [] true (some .star) "*"
  | list {items : List Node} {text : String} (list : WrittenList place items text) :
      WrittenArguments place items false (some (.list (items.map Node.unnumbered))) text

theorem WrittenArguments.rendered (arguments : WrittenArguments place items star args text) :
    (if star then pure "*" else Slot.renderSeparated (items.map .node)) = Except.ok text := by
  cases arguments with
  | none => rfl
  | star => rfl
  | list list => exact list.rendered

theorem WrittenArguments.inside {a : CallArguments}
    (arguments : WrittenArguments place items star (some a) text) :
    Row place.scope [.nonterminal .funcArgs] text (a, ()) := by
  cases arguments with
  | star => exact .production (.expr .starArgument) rfl (.last .star "*" (by decide)) rfl
  | list list => exact .production (.expr .arguments) rfl (list.row rfl) rfl

/-- The symbols behind the name of the function. -/
theorem WrittenArguments.row (distinct : Bool)
    (arguments : WrittenArguments (if distinct then .condition else .call) items star args text)
    (scope : TerminalSet) :
    ∃ vs : Values (.terminal .leftParen :: Grammar.optional distinct (.terminal .kwDistinct)
        (Grammar.optional args.isSome (.nonterminal .funcArgs) [.terminal .rightParen])),
      Row scope _ ("(" ++ ((if distinct then "DISTINCT " else "") ++ (text ++ ")"))) vs ∧
        (Values.split args.isSome (Values.split distinct vs.2).2).1 = args := by
  have close (scope : TerminalSet) : Row scope [.terminal .rightParen] ")"
      ((⟨.rightParen, ")", .start⟩ : Token), ()) := .last .rightParen ")" (by decide)
  have word : "DISTINCT " ++ (text ++ ")") = "DISTINCT" ++ (" " ++ (text ++ ")")) := by
    rw [← String.append_assoc]
    rfl
  cases distinct
  · cases args with
    | none =>
      cases arguments
      exact ⟨_, .opening (close _).reads, rfl⟩
    | some a =>
      rw [if_neg (by decide), String.empty_append]
      exact ⟨_, .opening arguments.inside.closed.reads, rfl⟩
  · cases args with
    | none =>
      cases arguments
      exact ⟨_, .opening (RowBut.word .kwDistinct "DISTINCT" (by decide) (close _)).reads, rfl⟩
    | some a =>
      have inside : Row (statementFragment.scope (.terminal .kwDistinct)
          [Grammar.Symbol.nonterminal .funcArgs, .terminal .rightParen].head?)
          [.nonterminal .funcArgs, .terminal .rightParen] (text ++ ")")
          (a, (⟨.rightParen, ")", .start⟩ : Token), ()) :=
        arguments.inside.closed
      rw [if_pos rfl, word]
      exact ⟨_, .opening (RowBut.word .kwDistinct "DISTINCT" (by decide) inside).reads, rfl⟩

/-- A call of a function by its name. -/
theorem RowBut.call {scope : TerminalSet} {token : Token} {node : Node}
    (named : RowBut (some .name) scope [.nonterminal .ident] name (token, ()))
    (arguments : WrittenArguments (if distinct then .condition else .call) items star args text)
    (builds : callNode token distinct args = .ok node) :
    Row scope [.nonterminal .funcCall]
      (name ++ ("(" ++ ((if distinct then "DISTINCT " else "") ++ (text ++ ")")))) (node, ()) := by
  obtain ⟨vs, row, split⟩ := arguments.row distinct
    (statementFragment.scope (.nonterminal .ident) (some (.terminal .leftParen)))
  refine .production (.expr (.call distinct args.isSome)) (by cases distinct <;> cases args <;> rfl)
    (named.meeting row (by decide) (by decide)) ?_
  show callNode token distinct (Values.split args.isSome (Values.split distinct vs.2).2).1 = _
  rw [split]
  exact builds

/-- A call of a function that has a keyword for its name. -/
theorem RowBut.keywordCall {scope : TerminalSet} {token : Token} {node : Node}
    (named : Row scope [.nonterminal .funcKeyword] name (token, ()))
    (arguments : WrittenArguments (if distinct then .condition else .call) items star args text)
    (builds : callNode token distinct args = .ok node) :
    Row scope [.nonterminal .funcCall]
      (name ++ ("(" ++ ((if distinct then "DISTINCT " else "") ++ (text ++ ")")))) (node, ()) := by
  obtain ⟨vs, row, split⟩ := arguments.row distinct
    (statementFragment.scope (.nonterminal .funcKeyword) (some (.terminal .leftParen)))
  refine .production (.expr (.keywordCall distinct args.isSome))
    (by cases distinct <;> cases args <;> rfl) (named.joined row (by decide)) ?_
  show callNode token distinct (Values.split args.isSome (Values.split distinct vs.2).2).1 = _
  rw [split]
  exact builds

/-! ### Calls -/


/-- A keyword that names a function. -/
theorem RowBut.functionWord {name : String} (listed : name ∈ functionWords) :
    ∃ t : Terminal, t.isBare = true ∧ ∀ scope,
      Row scope [.nonterminal .funcKeyword] name ((⟨t, name, .start⟩ : Token), ()) := by
  simp only [functionWords, List.mem_cons, List.not_mem_nil, or_false] at listed
  obtain rfl | rfl | rfl | rfl | rfl | rfl | rfl | rfl | rfl := listed
  · exact ⟨.kwLeft, rfl, fun _ =>
      .production (.expr (.functionWord .left)) rfl (.last .kwLeft "LEFT" (by decide)) rfl⟩
  · exact ⟨.kwRight, rfl, fun _ =>
      .production (.expr (.functionWord .right)) rfl (.last .kwRight "RIGHT" (by decide)) rfl⟩
  · exact ⟨.kwIf, rfl, fun _ =>
      .production (.expr (.functionWord .if_)) rfl (.last .kwIf "IF" (by decide)) rfl⟩
  · exact ⟨.kwInsert, rfl, fun _ =>
      .production (.expr (.functionWord .insert)) rfl (.last .kwInsert "INSERT" (by decide)) rfl⟩
  · exact ⟨.kwReplace, rfl, fun _ =>
      .production (.expr (.functionWord .replace)) rfl (.last .kwReplace "REPLACE" (by decide)) rfl⟩
  · exact ⟨.kwMod, rfl, fun _ =>
      .production (.expr (.functionWord .mod)) rfl (.last .kwMod "MOD" (by decide)) rfl⟩
  · exact ⟨.kwDatabase, rfl, fun _ =>
      .production (.expr (.functionWord .database)) rfl
        (.last .kwDatabase "DATABASE" (by decide)) rfl⟩
  · exact ⟨.kwSchema, rfl, fun _ =>
      .production (.expr (.functionWord .schema)) rfl (.last .kwSchema "SCHEMA" (by decide)) rfl⟩
  · exact ⟨.kwValues, rfl, fun _ =>
      .production (.expr (.functionWord .values)) rfl (.last .kwValues "VALUES" (by decide)) rfl⟩

theorem Token.name_of_isBare {t : Terminal} (bare : t.isBare = true) (name : String) :
    Token.name ⟨t, name, .start⟩ = name := by
  unfold Token.name
  split
  · rename_i quoted
    rw [show t = .quotedName from quoted] at bare
    cases bare
  · rename_i quoted
    rw [show t = .string from quoted] at bare
    cases bare
  · rfl

/-- The call that is read for a name and its arguments. -/
theorem callNode_written {t : Terminal} (bare : t.isBare = true) (upper : Text.toUpper name = name)
    (arguments : WrittenArguments place items star args text)
    (allowed : name ∈ aggregateFunctions ∨ distinct = false ∧ star = false) :
    callNode ⟨t, name, .start⟩ distinct args =
      .ok (if name ∈ aggregateFunctions then
        .aggregate name ((items.map Node.unnumbered).map .node) distinct star
      else .funcCall name ((items.map Node.unnumbered).map .node)) := by
  simp only [callNode, Token.name_of_isBare bare, upper, List.contains_eq_mem,
    decide_eq_true_eq]
  by_cases aggregate : name ∈ aggregateFunctions
  · rw [if_pos aggregate, if_pos aggregate]
    cases arguments <;> rfl
  · obtain ⟨rfl, rfl⟩ := allowed.resolve_left aggregate
    rw [if_neg aggregate, if_neg aggregate]
    cases arguments <;> rfl

/-- A call by name or by keyword. -/
theorem RowBut.function {node : Node} (named : IsFunctionName name)
    (unhidden : place.hides name = false)
    (arguments : WrittenArguments (if distinct then .condition else .call) items star args text)
    (builds : ∀ t : Terminal, t.isBare = true →
      callNode ⟨t, name, .start⟩ distinct args = .ok node) :
    Opens (name ++ ("(" ++ ((if distinct then "DISTINCT " else "") ++ (text ++ ")")))).toList ∧
      Row place.scope [.nonterminal .simpleExpr]
        (name ++ ("(" ++ ((if distinct then "DISTINCT " else "") ++ (text ++ ")"))))
          (node, ()) := by
  rw [String.toList_append]
  obtain spelled | keyword := named.2
  · obtain ⟨opens, found⟩ := found_name spelled unhidden
    exact ⟨opens.append _, .production (.expr .simpleCall) rfl
      (.call (.plainIdent opens found) arguments (builds .name rfl)) rfl⟩
  · obtain ⟨t, bare, word⟩ := RowBut.functionWord keyword
    have opens : Opens name.toList := by
      have all : (functionWords.all fun name =>
          name.toList.head?.any fun c => !Text.isBlank c && c != '-') = true := by decide
      exact opens_word (List.all_eq_true.mp all name keyword)
    exact ⟨opens.append _,
      .production (.expr .simpleCall) rfl (.keywordCall (word _) arguments (builds t bare)) rfl⟩

theorem Written.call (named : IsFunctionName name) (plain : name ∉ aggregateFunctions)
    (unhidden : place.hides name = false)
    (arguments : WrittenArguments .call items false args text) :
    Written place .simple (.funcCall name (items.map .node)) (name ++ "(" ++ text ++ ")") := by
  have list : Slot.renderSeparated (items.map .node) = .ok text := arguments.rendered
  have whole : (Node.funcCall name (items.map .node)).unnumbered =
      .funcCall name ((items.map Node.unnumbered).map .node) := by
    rw [Node.unnumbered, Node.mapMarkers, Node.unnumbered_items]
  have built (t : Terminal) (bare : t.isBare = true) :
      callNode ⟨t, name, .start⟩ false args =
        .ok (.funcCall name ((items.map Node.unnumbered).map .node)) := by
    rw [callNode_written bare named.1 arguments (.inr ⟨rfl, rfl⟩), if_neg plain]
  have within : WrittenArguments (if false then .condition else .call) items false args text :=
    arguments
  obtain ⟨opens, row⟩ := RowBut.function named unhidden within built
  simp only [String.append_assoc]
  rw [if_neg (by decide), String.empty_append] at opens row
  refine ⟨?_, opens, ?_⟩
  · simp only [Node.render, list, named.1]
    show Except.ok (name ++ "(" ++ text ++ ")") = _
    simp only [String.append_assoc]
  · rw [whole]
    exact row

theorem isFunctionName_of_aggregate (listed : name ∈ aggregateFunctions) :
    IsFunctionName name := by
  have all : (aggregateFunctions.all fun name => Text.toUpper name == name &&
      Lexeme.nameLength? name.toList == some name.toList.length) = true := by decide
  have each := List.all_eq_true.mp all name listed
  rw [Bool.and_eq_true, beq_iff_eq, beq_iff_eq] at each
  exact ⟨each.1, .inl each.2⟩

theorem Written.aggregate (listed : name ∈ aggregateFunctions)
    (unhidden : place.hides name = false) (distinct : Bool)
    (arguments : WrittenArguments (if distinct then .condition else .call) items star args text) :
    Written place .simple (.aggregate name (items.map .node) distinct star)
      (name ++ "(" ++ (if distinct then "DISTINCT " else "") ++ text ++ ")") := by
  have named := isFunctionName_of_aggregate listed
  have whole : (Node.aggregate name (items.map .node) distinct star).unnumbered =
      .aggregate name ((items.map Node.unnumbered).map .node) distinct star := by
    rw [Node.unnumbered, Node.mapMarkers, Node.unnumbered_items]
  have built (t : Terminal) (bare : t.isBare = true) :
      callNode ⟨t, name, .start⟩ distinct args =
        .ok (.aggregate name ((items.map Node.unnumbered).map .node) distinct star) := by
    rw [callNode_written bare named.1 arguments (.inl listed), if_pos listed]
  obtain ⟨opens, row⟩ := RowBut.function named unhidden arguments built
  simp only [String.append_assoc]
  refine ⟨?_, opens, ?_⟩
  · have list := arguments.rendered
    cases star
    · rw [if_neg (by decide)] at list
      simp only [Node.render, Bool.false_eq_true, if_false, list, named.1, String.append_assoc]
      rfl
    · cases list
      simp only [Node.render, if_true, named.1, String.append_assoc]
      rfl
  · rw [whole]
    exact row

end SqlSyntax
