import SqlSyntax.Dialect.Mysql
import SqlSyntax.Proofs.Grammar.Located

/-!
# Rejections point into the text

Whatever the built-in dialect rejects, it rejects with a line and a column that are those of some
place in the text, counted anew from its start, and quotes what stands there: all that is left, up
to forty characters, where the grammar fails, and the very token where a tree can not be built.
-/

namespace SqlSyntax

namespace ScriptError

/-- The token's text starts at the place. -/
def StartsAt (sql : String) (p : Nat) (token : Token) : Prop :=
  token.text.toList <+: sql.toList.drop p

/-- The message is about the place and quotes what the kind of failure asks for. -/
def Reports (sql : String) (p : Nat) (message : String) : ScriptError → Prop
  | .grammar (.unexpectedEnd _) =>
    p = sql.length ∧ message = placeText (placeIn sql.toList p) ++ ": unexpected end of input"
  | .grammar (.unexpected _ _) =>
    message = near (placeIn sql.toList p) (String.ofList ((sql.toList.drop p).take 40))
  | .build (.numberOutOfRange token) =>
    StartsAt sql p token ∧
      message = near (placeIn sql.toList p) token.text ++ ": number out of range"
  | .build (.notAggregate name) =>
    StartsAt sql p name ∧ message = near (placeIn sql.toList p) name.text
  | .build (.badLength column length) =>
    StartsAt sql p column ∧
      message = near (placeIn sql.toList p) column.text ++ ": " ++ lengthDetail length

/-- The failure is that of a place in the text. -/
def PointsAt (sql : String) (e : ScriptError) (p : Nat) : Prop :=
  p ≤ sql.length ∧ e.position = placeIn sql.toList p ∧ e.Reports sql p e.message

variable {sql : String} {cs before rest : List Char} {p : Nat} {token : Token}

theorem le_length (whole : before ++ rest = sql.toList) : before.length ≤ sql.length := by
  rw [← String.length_toList, ← whole, List.length_append]
  exact Nat.le_add_right _ _

theorem drop_length (whole : before ++ rest = cs) : cs.drop before.length = rest := by
  rw [← whole, List.drop_left]

/-- A token that stands in the text gives its own place, and starts there. -/
theorem exists_place (located : token.Located sql.toList) :
    ∃ p ≤ sql.length, token.position = placeIn sql.toList p ∧ StartsAt sql p token := by
  obtain ⟨before, rest, whole, place⟩ := located
  refine ⟨before.length, le_length whole, place.trans (Position.start_after_of_append whole), ?_⟩
  rw [StartsAt, drop_length whole]
  exact List.prefix_append _ _

theorem pointsAt_of_blames {e : Grammar.BuildError} (blames : e.Blames (Token.Located sql.toList)) :
    ∃ p, PointsAt sql (.build e) p := by
  cases e with
  | numberOutOfRange token =>
    obtain ⟨p, bound, place, starts⟩ := exists_place blames
    exact ⟨p, bound, place, starts, by rw [message, place]⟩
  | notAggregate name =>
    obtain ⟨p, bound, place, starts⟩ := exists_place blames
    exact ⟨p, bound, place, starts, by rw [message, place]⟩
  | badLength column length =>
    obtain ⟨p, bound, place, starts⟩ := exists_place blames.1
    exact ⟨p, bound, place, starts, by rw [message, place]⟩

theorem pointsAt_of_syntax {e : Grammar.SyntaxError}
    (within : Grammar.OutcomeWithin sql.toList (.error e)) : ∃ p, PointsAt sql (.grammar e) p := by
  cases e with
  | unexpectedEnd q =>
    have place : q = placeIn sql.toList sql.length := by
      rw [← String.length_toList]
      exact within.trans (Position.start_after_of_append (List.append_nil _))
    exact ⟨sql.length, Nat.le_refl _, place, rfl, by rw [message, place]⟩
  | unexpected q rest =>
    obtain ⟨before, whole, place⟩ := within
    have place := place.trans (Position.start_after_of_append whole)
    refine ⟨before.length, le_length whole, place, ?_⟩
    rw [Reports, message, place, drop_length whole, nearLength]

end ScriptError

namespace Script

theorem exists_pointsAt {sql : String} {e : ScriptError} (fails : parse sql = .error e) :
    ∃ p, e.PointsAt sql p := by
  have within := Grammar.run_within (a := Grammar.statementAutomaton) (sql.toList.length + 1)
    (.initial sql) (Grammar.Configuration.within_initial sql)
  unfold parse Grammar.readScript at fails
  dsimp only [Grammar.Configuration.initial] at within fails
  split at fails
  · rename_i failed
    cases fails
    rw [failed] at within
    exact ScriptError.pointsAt_of_syntax within
  · rename_i failed
    cases fails
    rw [failed] at within
    exact ScriptError.pointsAt_of_blames within
  · cases fails

/-- A text that is not accepted is rejected at a place in it: the line and the column are those of
the place, and the message quotes what is there. -/
theorem rejection_points_into_text (sql : String) (refusal : Refusal)
    (fails : (Dialect.mysql.parse sql).2 = .error refusal) :
    ∃ cause e p, parse sql = .error cause ∧ refusal = .rejected e ∧ p ≤ sql.length ∧
      e.line = some (1 + (sql.toList.take p).count '\n') ∧
      e.column = some (1 + ((sql.toList.take p).reverse.takeWhile (· != '\n')).length) ∧
      cause.Reports sql p e.message := by
  simp only [Dialect.mysql, Dialect.Mysql.parse] at fails
  cases parsed : parse sql with
  | ok statements =>
    rw [parsed] at fails
    cases fails
  | error cause =>
    rw [parsed] at fails
    cases fails
    obtain ⟨p, bound, place, reports⟩ := exists_pointsAt parsed
    refine ⟨cause, cause.toParseError, p, rfl, rfl, bound, ?_, ?_, reports⟩
    · rw [ScriptError.toParseError, place, placeIn]
    · rw [ScriptError.toParseError, place, placeIn]

/-- A call that only an aggregate may make, behind a string of two lines. -/
def starredCall : String := "SELECT 'a\n', f(*)"

theorem rejection_points_into_starredCall :
    (Dialect.mysql.parse starredCall).2 =
        .error (.rejected ⟨"syntax error at line 2 column 4 near \"f\"", some 2, some 4⟩) ∧
      ∃ cause e p, parse starredCall = .error cause ∧
        Refusal.rejected ⟨"syntax error at line 2 column 4 near \"f\"", some 2, some 4⟩ =
          .rejected e ∧
        p ≤ starredCall.length ∧
        e.line = some (1 + (starredCall.toList.take p).count '\n') ∧
        e.column = some (1 + ((starredCall.toList.take p).reverse.takeWhile (· != '\n')).length) ∧
        cause.Reports starredCall p e.message := by
  have fails : (Dialect.mysql.parse starredCall).2 =
      .error (.rejected ⟨"syntax error at line 2 column 4 near \"f\"", some 2, some 4⟩) := by
    rfl
  exact ⟨fails, rejection_points_into_text starredCall _ fails⟩

end Script

end SqlSyntax
