import SqlSyntax.Proofs.Grammar.Alike
import SqlSyntax.Proofs.Grammar.Continued
import SqlSyntax.Proofs.Grammar.Portions
import SqlSyntax.Proofs.Lexical.Comment
import SqlSyntax.Proofs.Lexical.Interrupted

/-!
# Comments behind tokens

A text with comments behind some of its tokens is read in the same tokens: the comment ends a token
where it is put, whatever followed before. There are four ways in which a token in front of a
comment might not be found as before. Each of them leaves a text that can not be read further, so it
does not arise in a text that is accepted.
-/

namespace SqlSyntax.Grammar

open Lexeme (Comments comment)
open Portion (texts)

/-- The portions' text with comments behind some of the tokens. -/
inductive Commented : List Portion → List Char → Prop where
  | nil : Commented [] []
  | blank (w : List Char) {ps : List Portion} {text : List Char} (later : Commented ps text) :
      Commented (.blank w :: ps) (w ++ text)
  | token (t : Terminal) (w : List Char) {cs text : List Char} {ps : List Portion}
      (comments : Comments cs) (later : Commented ps text) :
      Commented (.token t w :: ps) (w ++ (cs ++ text))

/-- The text is that of the portions up to the first comment. -/
theorem Commented.cases_first {ps : List Portion} {text : List Char}
    (commented : Commented ps text) :
    text = texts ps ∨ ∃ front back y, ps = front ++ back ∧ front ≠ [] ∧
      text = texts front ++ '/' :: y := by
  induction commented with
  | nil => exact .inl rfl
  | blank w _ ih =>
    obtain rfl | ⟨front, back, y, rfl, _, rfl⟩ := ih
    · exact .inl rfl
    · exact .inr ⟨.blank w :: front, back, y, rfl, nofun, by simp⟩
  | @token t w cs text ps comments _ ih =>
    cases comments with
    | nil =>
      obtain rfl | ⟨front, back, y, rfl, _, rfl⟩ := ih
      · exact .inl rfl
      · exact .inr ⟨.token t w :: front, back, y, rfl, nofun, by simp⟩
    | cons _ _ => exact .inr ⟨[.token t w], ps, _, rfl, nofun, by simp [comment]; rfl⟩

variable {a : Automaton} {outcome : Except BuildError (List Node)} {position : Position} {m : Nat}
  {stack : Stack} {rest : List Char} {ps front back : List Portion}

/-- Comments are skipped. -/
theorem accepts_of_comments {cs : List Char} (comments : Comments cs)
    (accepts : ∀ position, Accepts a ⟨position, rest, m, stack⟩ outcome) (position : Position) :
    Accepts a ⟨position, cs ++ rest, m, stack⟩ outcome := by
  induction comments generalizing position with
  | nil => exact accepts position
  | @cons c more closed _ ih =>
    have ahead : Ahead.scan (a.expected stack) (comment c ++ (more ++ rest)) =
        .blank (comment c).length :=
      Ahead.scan_of_blank (Lexeme.blankLength?_comment closed _)
    rw [List.append_assoc, ← accepts_iff_of_blank ahead, List.drop_left]
    exact ih _

/-! ### What can not be read -/

theorem name_bars_number : statementAutomaton.all (fun _ r => r.bars .name .number) = true := by
  decide +kernel

/-- A text that starts with a foreign character can be read as a number only. -/
theorem Reads.not_foreign (reads : Reads a outcome ⟨position, rest, m, stack⟩ ps)
    (absent : (a.expected stack).contains .number = false) :
    rest.head?.any Lexeme.isForeign = false := by
  by_contra present
  rw [Bool.not_eq_false, Option.any_eq_true] at present
  obtain ⟨x, first, foreign⟩ := present
  obtain ⟨tail, rfl⟩ := List.head?_eq_some_iff.mp first
  generalize text : x :: tail = rest at reads
  cases reads with
  | ends ends =>
    rw [← text] at ends
    cases ends.1
  | blank ahead _ =>
    rw [← text] at ahead
    have blank := Ahead.scan_blank ahead
    rw [Lexeme.blankLength?_eq_none (Lexeme.startsBlank_of_isForeign foreign)] at blank
    cases blank
  | token ahead _ _ =>
    rw [← text] at ahead
    obtain ⟨member, found⟩ := Ahead.scan_lexeme ahead
    cases Terminal.eq_number_of_starts foreign (Terminal.starts_of_lexemeLength? found)
    rw [absent] at member
    cases member

/-- A portion that starts with a mark and a digit of its base takes all letters that follow. -/
theorem Reads.unmarked (reads : Reads a outcome ⟨position, rest, m, stack⟩ (front ++ back))
    (letters : ∀ c ∈ texts front, Lexeme.isNameChar c = true)
    (goes : (texts back).head?.any Lexeme.isNameChar = true) : Lexeme.Unmarked (texts front) := by
  by_contra marked
  have whole := reads.texts_eq
  rw [Portion.texts_append] at whole
  dsimp only at whole
  cases front with
  | nil => exact marked nofun
  | cons p front =>
    rw [List.cons_append] at reads
    generalize others : front ++ back = ps at reads
    cases reads with
    | blank ahead later =>
      obtain ⟨x, y, tail, same, _⟩ := Lexeme.eq_cons_of_not_unmarked marked
      have letter := letters x (by rw [same]; exact List.mem_cons_self)
      have blank := Ahead.scan_blank ahead
      rw [← whole, same, List.cons_append,
        Lexeme.blankLength?_eq_none (Lexeme.startsBlank_of_isNameChar letter)] at blank
      cases blank
    | token ahead ready later =>
      have found := (Ahead.scan_lexeme ahead).2
      rw [← whole] at found
      have longer := Lexeme.length_lt_of_marked marked letters goes found
      simp at longer

/-! ### Texts with comments -/

theorem Reads.length_texts_pos (reads : Reads a outcome ⟨position, rest, m, stack⟩ (front ++ back))
    (occupied : front ≠ []) : 0 < (texts front).length := by
  cases front with
  | nil => exact absurd rfl occupied
  | cons p front =>
    rw [List.cons_append] at reads
    generalize front ++ back = ps at reads
    rw [Portion.texts_cons, List.length_append]
    cases reads with
    | blank ahead _ =>
      have within := (Lexeme.blankLength?_within (Ahead.scan_blank ahead)).1
      exact Nat.lt_add_right _ within
    | token ahead _ _ =>
      have within := (Terminal.lexemeLength?_within (Ahead.scan_lexeme ahead).2).1
      exact Nat.lt_add_right _ within

/-- A token is found too if a comment follows it, or one of the portions behind it. -/
theorem scan_commented {t : Terminal} {w : List Char} {settled : Stack} {m' target : Nat} {value}
    (path : Stack.IsPath statementAutomaton stack)
    (ahead : Ahead.scan (statementAutomaton.expected stack) (w ++ texts (front ++ back)) =
      .lexeme t w.length)
    (ready : settle statementAutomaton t (reductionBound stack) m stack = .ready settled m' target)
    (later : Reads statementAutomaton outcome ⟨position, texts (front ++ back), m',
      ⟨target, .terminal t, value⟩ :: settled⟩ (front ++ back)) (y : List Char) :
    Ahead.scan (statementAutomaton.expected stack) (w ++ texts front ++ '/' :: y) =
      .lexeme t w.length := by
  have moved := (path.settle ready).2
  rw [Portion.texts_append, ← List.append_assoc] at ahead
  have behind : (w ++ texts front ++ texts back).drop w.length = texts (front ++ back) := by
    rw [List.append_assoc, List.drop_left, Portion.texts_append]
  obtain same | left | ⟨rfl, left, star⟩ | ⟨rfl, whole, word, goes⟩ | ⟨single, based, goes⟩ :=
    Ahead.scan_interrupted ahead (by simp) y
  · exact same
  · rw [behind] at left
    exact absurd later.accepts (not_accepts_of_unknown (Ahead.scan_leftOpen left _))
  · rw [behind] at star
    rw [star] at later
    exact absurd later.accepts (not_accepts_of_unknown
      (Ahead.scan_star (expected_after slash_bars_star moved) left))
  · -- The name went on with a character that no name goes on with.
    have nothing : texts front = [] := by simpa using whole
    have plain := later.not_foreign (expected_after name_bars_number moved)
    rw [Portion.texts_append, nothing, List.nil_append] at plain
    cases first : (texts back).head? with
    | none => simp [first] at word
    | some x => simp_all [Lexeme.isForeign]
  · -- The zero was read alone, though marks and digits behind it make a based number.
    obtain ⟨tail, text, marked, letters⟩ := based
    obtain ⟨x, rfl⟩ := List.length_eq_one_iff.mp single
    obtain ⟨_, rfl⟩ := List.cons.inj text
    exact absurd (later.unmarked letters goes) marked

/-- A text with comments behind tokens is accepted like the text without them. -/
theorem Reads.commented {c : Configuration} {statements : List Node} {text : List Char}
    (path : Stack.IsPath statementAutomaton c.stack)
    (reads : Reads statementAutomaton (.ok statements) c ps) (commented : Commented ps text)
    {r : Stack} (alike : Stack.Alike c.stack r) (position : Position) :
    Accepts statementAutomaton ⟨position, text, c.markers, r⟩ (.ok statements) := by
  induction reads generalizing text r position with
  | @ends c ends =>
    cases commented
    obtain ⟨start, rest, m, s⟩ := c
    obtain rfl : rest = [] := ends.1
    exact ⟨_, .refl, alike.ends ends⟩
  | @blank start w rest m s ps ahead later ih =>
    cases commented with
    | @blank _ _ text commented =>
      have same : Ahead.scan (statementAutomaton.expected r) (w ++ text) = .blank w.length := by
        rw [← alike.expected]
        obtain rfl : texts ps = rest := later.texts_eq
        obtain rfl | ⟨front, back, y, rfl, occupied, rfl⟩ := commented.cases_first
        · exact ahead
        · have longer := later.length_texts_pos occupied
          have blank := Ahead.scan_blank ahead
          rw [Portion.texts_append, ← List.append_assoc] at blank
          rw [← List.append_assoc]
          exact Ahead.scan_of_blank (Lexeme.blankLength?_interrupted blank (by simp; omega) _)
      rw [← accepts_iff_of_blank same, List.drop_left]
      exact ih path commented alike _
  | @token start t w rest m s settled m' target ps ahead ready later ih =>
    have first := commented.cases_first
    obtain ⟨settled', ready', alike'⟩ := alike.ready ready
    rw [alike.reductionBound] at ready'
    obtain ⟨path', moved⟩ := path.settle ready
    cases commented with
    | @token _ _ cs text _ comments commented =>
      have same : Ahead.scan (statementAutomaton.expected r) (w ++ (cs ++ text)) =
          .lexeme t w.length := by
        rw [← alike.expected]
        obtain rfl : texts ps = rest := later.texts_eq
        obtain whole | ⟨front, back, y, cut, occupied, whole⟩ := first
        · rw [whole]
          exact ahead
        · obtain ⟨p, front, rfl⟩ := List.exists_cons_of_ne_nil occupied
          obtain ⟨rfl, rfl⟩ := List.cons.inj cut
          rw [whole]
          exact scan_commented path ahead ready later y
      rw [accepts_iff_of_lexeme same, List.take_left, List.drop_left]
      have alike : Stack.Alike _ _ :=
        .cons (.of_place target t (String.ofList w) start position) alike'
      exact ⟨settled', m', target, ready',
        accepts_of_comments comments (ih ⟨moved, path'⟩ commented alike) _⟩

end SqlSyntax.Grammar
