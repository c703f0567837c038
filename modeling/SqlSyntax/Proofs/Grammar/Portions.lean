import SqlSyntax.Proofs.Grammar.Run

/-!
# The portions of a text

A text is read in portions: blanks, which are skipped, and tokens. `portions` lists them in the
order in which a run takes them, and `Reads` says that a run ends well after it has taken given
portions. The portions of an accepted text are all of it.
-/

namespace SqlSyntax.Grammar

inductive Portion where
  | blank (text : List Char)
  | token (terminal : Terminal) (text : List Char)
deriving DecidableEq, Repr

namespace Portion

def text : Portion → List Char
  | .blank w => w
  | .token _ w => w

/-- The text that portions make. -/
def texts (ps : List Portion) : List Char :=
  ps.flatMap text

@[simp]
theorem texts_nil : texts [] = [] := rfl

@[simp]
theorem texts_cons (p : Portion) (ps : List Portion) : texts (p :: ps) = p.text ++ texts ps := rfl

@[simp]
theorem texts_append (ps qs : List Portion) : texts (ps ++ qs) = texts ps ++ texts qs :=
  List.flatMap_append

@[simp]
theorem text_blank (w : List Char) : (blank w).text = w := rfl

@[simp]
theorem text_token (t : Terminal) (w : List Char) : (token t w).text = w := rfl

end Portion

open Portion (texts)

/-- The portions that a run takes, in order. Fuel for one portion more than there are characters is
enough. -/
def portions (a : Automaton) : Nat → Configuration → List Portion
  | 0, _ => []
  | fuel + 1, ⟨position, rest, markers, stack⟩ =>
    match Ahead.scan (a.expected stack) rest with
    | .blank n =>
      .blank (rest.take n) ::
        portions a fuel ⟨position.after (rest.take n), rest.drop n, markers, stack⟩
    | .lexeme t n =>
      match settle a t (reductionBound stack) markers stack with
      | .ready settled markers target =>
        .token t (rest.take n) ::
          portions a fuel ⟨position.after (rest.take n), rest.drop n, markers,
            ⟨target, .terminal t, .ok ⟨t, String.ofList (rest.take n), position⟩⟩ :: settled⟩
      | _ => []
    | _ => []

/-- A run takes the portions and ends with the outcome. -/
inductive Reads (a : Automaton) (outcome : Except BuildError (List Node)) :
    Configuration → List Portion → Prop where
  | ends {c} (ends : Ends a c outcome) : Reads a outcome c []
  | blank {position w rest markers stack ps}
      (ahead : Ahead.scan (a.expected stack) (w ++ rest) = .blank w.length)
      (later : Reads a outcome ⟨position.after w, rest, markers, stack⟩ ps) :
      Reads a outcome ⟨position, w ++ rest, markers, stack⟩ (.blank w :: ps)
  | token {position t w rest markers stack settled markers' target ps}
      (ahead : Ahead.scan (a.expected stack) (w ++ rest) = .lexeme t w.length)
      (ready : settle a t (reductionBound stack) markers stack = .ready settled markers' target)
      (later : Reads a outcome ⟨position.after w, rest, markers',
        ⟨target, .terminal t, .ok ⟨t, String.ofList w, position⟩⟩ :: settled⟩ ps) :
      Reads a outcome ⟨position, w ++ rest, markers, stack⟩ (.token t w :: ps)

variable {a : Automaton} {outcome : Except BuildError (List Node)} {c : Configuration}
  {ps : List Portion}

/-- An accepted text is read in its portions. -/
theorem reads_portions {fuel : Nat} (enough : c.rest.length < fuel)
    (accepts : Accepts a c outcome) : Reads a outcome c (portions a fuel c) := by
  induction fuel generalizing c with
  | zero => omega
  | succ fuel ih =>
    obtain ends | ⟨d, step, accepts⟩ := accepts.cases
    · obtain ⟨position, rest, markers, stack⟩ := c
      obtain rfl : rest = [] := ends.1
      exact .ends ends
    · have shorter := step.length_lt
      have later := ih (by omega) accepts
      cases step with
      | @blank position rest markers stack n ahead =>
        have within := (Lexeme.blankLength?_within (Ahead.scan_blank ahead)).2
        rw [portions, ahead]
        have reads : Reads a outcome ⟨position, rest.take n ++ rest.drop n, markers, stack⟩ _ :=
          .blank (by rw [List.take_append_drop, List.length_take_of_le within, ahead]) later
        rwa [List.take_append_drop] at reads
      | @token position rest markers stack t n settled markers' target ahead ready =>
        have within := (Terminal.lexemeLength?_within (Ahead.scan_lexeme ahead).2).2
        rw [portions, ahead]
        dsimp only
        rw [ready]
        have reads : Reads a outcome ⟨position, rest.take n ++ rest.drop n, markers, stack⟩ _ :=
          .token (by rw [List.take_append_drop, List.length_take_of_le within, ahead]) ready later
        rwa [List.take_append_drop] at reads

namespace Reads

theorem texts_eq (reads : Reads a outcome c ps) : texts ps = c.rest := by
  induction reads with
  | ends ends => exact ends.1.symm
  | blank _ _ ih => rw [Portion.texts_cons, ih, Portion.text_blank]
  | token _ _ _ ih => rw [Portion.texts_cons, ih, Portion.text_token]

theorem accepts (reads : Reads a outcome c ps) : Accepts a c outcome := by
  induction reads with
  | ends ends => exact ⟨_, .refl, ends⟩
  | blank ahead _ ih =>
    rw [← accepts_iff_of_blank ahead, List.take_left, List.drop_left]
    exact ih
  | token ahead ready _ ih =>
    rw [accepts_iff_of_lexeme ahead, List.take_left, List.drop_left]
    exact ⟨_, _, _, ready, ih⟩

end Reads

end SqlSyntax.Grammar
