import SqlSyntax.Proofs.Grammar.ScriptStates
import SqlSyntax.Proofs.Lexical.Continued

/-!
# Reading a text that goes on

A text that is accepted is read in the same steps if a line feed and more text follow it, up to the
place where it ended.
-/

namespace SqlSyntax

theorem Position.after_append (p : Position) (cs ds : List Char) :
    p.after (cs ++ ds) = (p.after cs).after ds :=
  List.foldl_append

namespace Grammar

/-- After `t` no `u` is looked for. -/
def Row.bars (t u : Terminal) (r : Row) : Bool :=
  r.shifts.all fun s => s.1 != t ||
    (statementAutomaton.row? s.2).all fun row => !row.expected.contains u

theorem expected_after {t u : Terminal} {state target : Nat} {stack : Stack} {value}
    (bars : statementAutomaton.all (fun _ r => r.bars t u) = true)
    (moved : statementAutomaton.next? state (.terminal t) = some target) :
    (statementAutomaton.expected (⟨target, .terminal t, value⟩ :: stack)).contains u = false := by
  obtain ⟨r, found, moved⟩ := Option.bind_eq_some_iff.mp moved
  have passes := List.all_eq_true.mp (Automaton.check_of_all bars found) _ (mem_of_lookup moved)
  unfold Automaton.expected
  change (((statementAutomaton.row? target).map Row.expected).getD .empty).contains u = false
  cases next : statementAutomaton.row? target with
  | none => exact TerminalSet.contains_empty _
  | some row => simpa [next] using passes

theorem slash_bars_star : statementAutomaton.all (fun _ r => r.bars .slash .star) = true := by
  decide +kernel

variable {a : Automaton} {position : Position} {m : Nat} {stack : Stack}
  {outcome : Except BuildError (List Node)}

/-- A line feed can be skipped on its own, though it is read together with the layout behind it. -/
theorem accepts_of_lineFeed {cs : List Char}
    (accepts : Accepts a ⟨position.next '\n', cs, m, stack⟩ outcome) :
    Accepts a ⟨position, '\n' :: cs, m, stack⟩ outcome := by
  have ahead : Ahead.scan (a.expected stack) ('\n' :: cs) =
      .blank (1 + Lexeme.runLength Text.isLayout cs) :=
    Ahead.scan_of_blank (Lexeme.blankLength?_of_layout (by decide) cs)
  rw [← accepts_iff_of_blank ahead, Nat.add_comm, List.take_succ_cons, List.drop_succ_cons]
  change Accepts a ⟨(position.next '\n').after _, _, m, stack⟩ outcome
  cases cs with
  | nil => exact accepts
  | cons c cs =>
    by_cases layout : Text.isLayout c = true
    · have next : Ahead.scan (a.expected stack) (c :: cs) =
          .blank (Lexeme.runLength Text.isLayout (c :: cs)) := by
        rw [Ahead.scan_of_blank (Lexeme.blankLength?_of_layout layout cs)]
        simp [Lexeme.runLength, layout, Nat.add_comm]
      exact (accepts_iff_of_blank next).mpr accepts
    · have none_ahead : Lexeme.runLength Text.isLayout (c :: cs) = 0 := by
        simp [Lexeme.runLength, layout]
      rw [none_ahead]
      exact accepts

/-- The configuration with a line feed and more text behind what is left. -/
def Configuration.followed (c : Configuration) (tail : List Char) : Configuration :=
  { c with rest := c.rest ++ '\n' :: tail }

theorem accepts_blank_followed {rest tail : List Char} {n : Nat}
    (ahead : Ahead.scan (a.expected stack) rest = .blank n)
    (accepts : Accepts a ⟨position.after (rest.take n), rest.drop n ++ '\n' :: tail, m, stack⟩
      outcome) :
    Accepts a ⟨position, rest ++ '\n' :: tail, m, stack⟩ outcome := by
  have within := (Lexeme.blankLength?_within (Ahead.scan_blank ahead)).2
  obtain same | ⟨rfl, longer⟩ := Ahead.scan_blank_lineFeed ahead tail
  · rw [← accepts_iff_of_blank same, List.take_append_of_le_length within,
      List.drop_append_of_le_length within]
    exact accepts
  · -- The blank takes in the line feed and the layout behind it.
    have rest_blank : Ahead.scan (a.expected stack) ('\n' :: tail) =
        .blank (1 + Lexeme.runLength Text.isLayout tail) :=
      Ahead.scan_of_blank (Lexeme.blankLength?_of_layout (by decide) tail)
    rw [List.drop_length, List.nil_append, List.take_length, ← accepts_iff_of_blank rest_blank,
      ← Position.after_append] at accepts
    rw [← accepts_iff_of_blank longer, Nat.add_assoc, List.take_length_add_append,
      List.drop_length_add_append]
    exact accepts

theorem accepts_token_followed {rest tail : List Char} {t : Terminal} {n : Nat} {settled : Stack}
    {m' target : Nat} {earlier : Except BuildError (List Node)}
    (path : Stack.IsPath statementAutomaton stack)
    (ahead : Ahead.scan (statementAutomaton.expected stack) rest = .lexeme t n)
    (ready : settle statementAutomaton t (reductionBound stack) m stack =
      .ready settled m' target)
    (readable : Accepts statementAutomaton ⟨position.after (rest.take n), rest.drop n, m',
      ⟨target, .terminal t, .ok ⟨t, String.ofList (rest.take n), position⟩⟩ :: settled⟩ earlier)
    (accepts : Accepts statementAutomaton
      ⟨position.after (rest.take n), rest.drop n ++ '\n' :: tail, m',
        ⟨target, .terminal t, .ok ⟨t, String.ofList (rest.take n), position⟩⟩ :: settled⟩ outcome) :
    Accepts statementAutomaton ⟨position, rest ++ '\n' :: tail, m, stack⟩ outcome := by
  have within := (Terminal.lexemeLength?_within (Ahead.scan_lexeme ahead).2).2
  obtain same | left | ⟨rfl, left, comment⟩ :=
    Ahead.scan_lexeme_append ahead (x := '\n') (by decide) tail
  · rw [accepts_iff_of_lexeme same, List.take_append_of_le_length within,
      List.drop_append_of_le_length within]
    exact ⟨settled, m', target, ready, accepts⟩
  · exact absurd readable (not_accepts_of_unknown (Ahead.scan_leftOpen left _))
  · have moved := (path.settle ready).2
    rw [comment] at readable
    exact absurd readable (not_accepts_of_unknown
      (Ahead.scan_star (expected_after slash_bars_star moved) left))

/-- What is read of a text that is accepted is read of it too when the text goes on. -/
theorem accepts_followed {c last : Configuration} {tail : List Char}
    {earlier : Except BuildError (List Node)} (path : Stack.IsPath statementAutomaton c.stack)
    (reads : Relation.ReflTransGen (Step statementAutomaton) c last)
    (ends : Ends statementAutomaton last earlier)
    (accepts : Accepts statementAutomaton (last.followed tail) outcome) :
    Accepts statementAutomaton (c.followed tail) outcome := by
  induction reads using Relation.ReflTransGen.head_induction_on with
  | refl => exact accepts
  | head step reads ih =>
    have next := ih (step.isPath path)
    cases step with
    | blank ahead => exact accepts_blank_followed ahead next
    | token ahead ready =>
      exact accepts_token_followed path ahead ready ⟨last, reads, ends⟩ next

end Grammar

end SqlSyntax
