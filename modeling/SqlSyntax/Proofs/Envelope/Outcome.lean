import Mathlib.Algebra.Ring.Int.Defs
import SqlSyntax.Dialect.Mysql
import SqlSyntax.Envelope.Builder
import SqlSyntax.Proofs.Number.Digits
import SqlSyntax.Proofs.View.Alarms

/-!
# The outcome of building an envelope

A text fails at its length, in the parser of the dialect or at the depth of a statement, in this
order, and otherwise succeeds as a whole. There is no envelope at all if the parser crashes, if the
dialect fails at a node to which a walk comes, or if the number in a reason has too many digits.
Nothing is asserted about the log.
-/

namespace SqlSyntax

namespace Envelope

def reason? : Envelope → Option String
  | .ok _ => none
  | .failure reason => some reason

def trees? : Envelope → Option (List View)
  | .ok trees => some trees
  | .failure _ => none

/-- The envelope passes the check that its parts are put to. -/
def Consistent (e : Envelope) : Prop :=
  ∀ input, ofParts input e.isOk e.reason? e.trees? = .ok e

theorem consistent_ok (trees : List View) : (Envelope.ok trees).Consistent :=
  fun _ => rfl

theorem consistent_failure {reason : String} (given : reason ≠ "") :
    (Envelope.failure reason).Consistent := by
  intro input
  simp [ofParts, isOk, reason?, trees?, given]

end Envelope

namespace Builder

variable (b : Builder) (sql : String)

/-- The statements of a text that is not too long, absent ones left out. -/
def Reads (statements : List Node) : Prop :=
  (sql.length : Int) ≤ b.lengthLimit ∧
    ∃ parsed, (b.dialect.parse sql).2 = .ok parsed ∧ parsed.filterMap id = statements

/-- The text gives the views: every statement has its own, and none is too deep. -/
def Succeeds (trees : List View) : Prop :=
  ∃ statements, b.Reads sql statements ∧
    List.Forall₂ (fun n v => ∀ p, (View.normalize b.dialect b.depthLimit n p).2 = .ok v)
      statements trees

/-- The reason that the first failing stage gives. -/
inductive Fails : String → Prop
  | length (long : b.lengthLimit < sql.length) : Fails (tooLong sql.length b.lengthLimit)
  | parse {e : ParseError} (short : (sql.length : Int) ≤ b.lengthLimit)
      (rejects : (b.dialect.parse sql).2 = .error (.rejected e)) :
      Fails (if e.message = "" then "syntax error" else e.message)
  | depth {statements : List Node} {n : Node} (reads : b.Reads sql statements)
      (member : n ∈ statements) (deep : b.dialect.Exceeds b.depthLimit n) :
      Fails (TooDeep.message ⟨b.depthLimit⟩)

/-- What leaves a call instead of an envelope. -/
inductive Raises : Fault → Prop
  | length (long : b.lengthLimit < sql.length)
      (untold : ¬ (Numeral.isShort sql.length ∧ Numeral.isShort b.lengthLimit)) : Raises .untold
  | parse {fault : Fault} (short : (sql.length : Int) ≤ b.lengthLimit)
      (crashes : (b.dialect.parse sql).2 = .error (.crashed fault)) : Raises fault
  | walk {earlier later : List Node} {n : Node} {q : Path} {fault : Fault}
      (reads : b.Reads sql (earlier ++ n :: later))
      (silent : ∀ m ∈ earlier, ∀ p stop, ¬ b.dialect.Alarm b.depthLimit b.depthLimit.toNat m p stop)
      (meets : b.dialect.FirstAlarm b.depthLimit b.depthLimit.toNat n q (.crashed fault)) :
      Raises fault

/-- Conditions under which nothing leaves a call but an envelope. -/
structure Sound : Prop where
  parser : ∀ fault, (b.dialect.parse sql).2 ≠ .error (.crashed fault)
  steady : b.dialect.Steady
  length : b.lengthLimit < sql.length → Numeral.isShort sql.length ∧ Numeral.isShort b.lengthLimit
  depth : Numeral.isShort b.depthLimit

/-- The envelope that is the answer to the text. -/
structure Answers (e : Envelope) : Prop where
  consistent : e.Consistent
  ok_iff : e.isOk = true ↔
    ∃ statements, b.Reads sql statements ∧ ∀ n ∈ statements, ¬ b.dialect.Exceeds b.depthLimit n
  trees_iff : ∀ trees, e.trees? = some trees ↔ b.Succeeds sql trees
  reason_iff : ∀ reason, e.reason? = some reason ↔ b.Fails sql reason
  reason_ne : ∀ reason, e.reason? = some reason → reason ≠ ""

variable {b sql}

/-- How the walks over the statements end does not depend on what has been measured before. -/
theorem views_snd (statements : List (Option Node)) (m : Metrics) :
    (b.views statements m).2.2 =
      (statements.filterMap id).mapM (View.outcome b.dialect b.depthLimit b.depthLimit.toNat) := by
  induction statements generalizing m with
  | nil => rfl
  | cons statement rest ih =>
    cases statement with
    | none => exact ih m
    | some n =>
      have first := View.normalize_snd (d := b.dialect) b.depthLimit n ⟨.zero, []⟩
      have kept : (some n :: rest).filterMap id = n :: rest.filterMap id := rfl
      rw [views, kept, List.mapM_cons, ← first]
      rcases View.normalize b.dialect b.depthLimit n ⟨.zero, []⟩ with ⟨p, _ | view⟩
      · rfl
      · have onward := ih (m.recordTree p.tally.nodes p.tally.degraded p.tally.deepest)
        rw [← onward]
        rcases viewed : b.views rest (m.recordTree p.tally.nodes p.tally.degraded p.tally.deepest)
          with ⟨log, m', _ | trees⟩ <;> simp only [viewed] <;> rfl

/-- The answer, stage by stage. -/
theorem build_snd (timing : Timing) :
    (b.build timing sql).2 =
      if b.lengthLimit < sql.length then
        if Numeral.isShort sql.length && Numeral.isShort b.lengthLimit then
          .ok (.failure (tooLong sql.length b.lengthLimit))
        else .error .untold
      else match (b.dialect.parse sql).2 with
        | .error (.crashed fault) => .error fault
        | .error (.rejected e) => .ok (.failure (reasonOf e))
        | .ok parsed =>
          match (parsed.filterMap id).mapM
            (View.outcome b.dialect b.depthLimit b.depthLimit.toNat) with
          | .error (.crashed fault) => .error fault
          | .error (.tooDeep e) => .ok (.failure e.message)
          | .ok trees => .ok (.ok trees) := by
  unfold build
  split
  · split <;> rfl
  · rcases b.dialect.parse sql with ⟨log, refusal | parsed⟩
    · cases refusal <;> rfl
    · have viewed := views_snd (b := b) parsed
        (((Metrics.new b.dialect.name).start 0).recordPhase "parse" timing.parse)
      dsimp only
      rw [← viewed]
      rcases b.views parsed
        (((Metrics.new b.dialect.name).start 0).recordPhase "parse" timing.parse)
        with ⟨log', m, (_ | _) | trees⟩ <;> rfl

/-! ### The stages exclude one another -/

theorem Reads.unique {statements others : List Node} (reads : b.Reads sql statements)
    (again : b.Reads sql others) : statements = others := by
  obtain ⟨-, parsed, parses, rfl⟩ := reads
  obtain ⟨-, parsed', parses', rfl⟩ := again
  rw [parses] at parses'
  cases parses'
  rfl

theorem succeeds_iff {trees : List View} :
    b.Succeeds sql trees ↔
      ∃ statements, b.Reads sql statements ∧
        statements.mapM (View.image b.dialect b.depthLimit.toNat) = some trees := by
  have idle (n : Node) (v : View) :
      (Progress → View.image b.dialect b.depthLimit.toNat n = some v) ↔
        View.image b.dialect b.depthLimit.toNat n = some v :=
    ⟨fun image => image ⟨.zero, []⟩, fun image _ => image⟩
  simp only [Succeeds, mapM_eq_some_iff, View.normalize_eq_ok_iff, idle]

theorem Succeeds.unique {trees others : List View} (succeeds : b.Succeeds sql trees)
    (again : b.Succeeds sql others) : trees = others := by
  obtain ⟨statements, reads, images⟩ := succeeds_iff.mp succeeds
  obtain ⟨statements', reads', images'⟩ := succeeds_iff.mp again
  obtain rfl := reads.unique reads'
  exact Option.some.inj (images.symm.trans images')

/-- Every statement of a text that succeeds is within the limit. -/
theorem Succeeds.within {trees : List View} (succeeds : b.Succeeds sql trees) :
    ∃ statements, b.Reads sql statements ∧
      ∀ n ∈ statements, ¬ b.dialect.Exceeds b.depthLimit n := by
  obtain ⟨statements, reads, images⟩ := succeeds_iff.mp succeeds
  refine ⟨statements, reads, ?_⟩
  intro n member exceeds
  obtain ⟨v, -, image⟩ := exists_right_of_forall₂ (mapM_eq_some_iff.mp images) member
  exact View.not_exceeds_of_image image exceeds

/-- A text that fails has no statements, or one of them is too deep. -/
theorem Fails.exceeds {reason : String} (fails : b.Fails sql reason) {statements : List Node}
    (reads : b.Reads sql statements) : ∃ n ∈ statements, b.dialect.Exceeds b.depthLimit n := by
  cases fails with
  | length long =>
    have short := reads.1
    omega
  | parse short rejects =>
    obtain ⟨-, parsed, parses, -⟩ := reads
    rw [rejects] at parses
    cases parses
  | depth reads' member deep =>
    obtain rfl := reads.unique reads'
    exact ⟨_, member, deep⟩

theorem Fails.unique {reason other : String} (fails : b.Fails sql reason)
    (again : b.Fails sql other) : reason = other := by
  cases fails with
  | length long =>
    cases again with
    | length => rfl
    | parse short => omega
    | depth reads =>
      have short := reads.1
      omega
  | parse short rejects =>
    cases again with
    | length long => omega
    | parse short' rejects' =>
      rw [rejects] at rejects'
      cases rejects'
      rfl
    | depth reads =>
      obtain ⟨-, parsed, parses, -⟩ := reads
      rw [rejects] at parses
      cases parses
  | depth reads =>
    cases again with
    | length long =>
      have short := reads.1
      omega
    | parse short rejects =>
      obtain ⟨-, parsed, parses, -⟩ := reads
      rw [rejects] at parses
      cases parses
    | depth => rfl

/-! ### Reasons are given -/

theorem append_ne_empty {s : String} (t : String) (given : s ≠ "") : s ++ t ≠ "" :=
  fun empty => given (String.append_eq_empty_iff.mp empty).1

theorem Fails.ne_empty {reason : String} (fails : b.Fails sql reason) : reason ≠ "" := by
  cases fails with
  | length =>
    exact append_ne_empty _ (append_ne_empty _ (append_ne_empty _ (by decide)))
  | parse =>
    split
    · decide
    · assumption
  | depth => exact append_ne_empty _ (append_ne_empty _ (by decide))

/-! ### Answers -/

theorem Succeeds.answers {trees : List View} (succeeds : b.Succeeds sql trees) :
    b.Answers sql (.ok trees) where
  consistent := Envelope.consistent_ok trees
  ok_iff := ⟨fun _ => succeeds.within, fun _ => rfl⟩
  trees_iff others := by
    constructor
    · rintro ⟨⟩
      exact succeeds
    · intro again
      rw [succeeds.unique again]
      rfl
  reason_iff reason := by
    constructor
    · rintro ⟨⟩
    · intro fails
      obtain ⟨statements, reads, within⟩ := succeeds.within
      obtain ⟨n, member, deep⟩ := fails.exceeds reads
      exact absurd deep (within n member)
  reason_ne := by rintro reason ⟨⟩

theorem Fails.answers {reason : String} (fails : b.Fails sql reason) :
    b.Answers sql (.failure reason) where
  consistent := Envelope.consistent_failure fails.ne_empty
  ok_iff := by
    constructor
    · rintro ⟨⟩
    · rintro ⟨statements, reads, within⟩
      obtain ⟨n, member, deep⟩ := fails.exceeds reads
      exact absurd deep (within n member)
  trees_iff trees := by
    constructor
    · rintro ⟨⟩
    · intro succeeds
      obtain ⟨statements, reads, within⟩ := succeeds.within
      obtain ⟨n, member, deep⟩ := fails.exceeds reads
      exact absurd deep (within n member)
  reason_iff other := by
    constructor
    · rintro ⟨⟩
      exact fails
    · intro again
      rw [fails.unique again]
      rfl
  reason_ne := by
    rintro other ⟨⟩
    exact fails.ne_empty

/-! ### Faults -/

/-- Something leaves a call, or a text fails at some stage or succeeds and the envelope says
which. -/
theorem build_cases (b : Builder) (timing : Timing) (sql : String) :
    (∃ fault, b.Raises sql fault ∧ (b.build timing sql).2 = .error fault) ∨
      (∃ reason, b.Fails sql reason ∧ (b.build timing sql).2 = .ok (.failure reason)) ∨
      ∃ trees, b.Succeeds sql trees ∧ (b.build timing sql).2 = .ok (.ok trees) := by
  generalize built : (b.build timing sql).2 = outcome
  rw [build_snd] at built
  split at built
  · rename_i long
    split at built
    · exact .inr (.inl ⟨_, .length long, built.symm⟩)
    · rename_i untold
      exact .inl ⟨_, .length long (by simpa using untold), built.symm⟩
  · rename_i short
    have short : (sql.length : Int) ≤ b.lengthLimit := by omega
    split at built
    · rename_i crashes
      exact .inl ⟨_, .parse short crashes, built.symm⟩
    · rename_i e rejects
      have reason : reasonOf e = if e.message = "" then "syntax error" else e.message := by
        simp [reasonOf]
      exact .inr (.inl ⟨_, reason ▸ .parse short rejects, built.symm⟩)
    · rename_i parsed parses
      have reads : b.Reads sql (parsed.filterMap id) := ⟨short, parsed, parses, rfl⟩
      split at built
      · rename_i walked
        obtain ⟨earlier, n, later, split, seen, stops⟩ := mapM_eq_error_iff.mp walked
        obtain ⟨q, meets⟩ := View.outcome_eq_error_iff.mp stops
        have silent := fun m member => View.exists_outcome_eq_ok_iff.mp (seen m member)
        exact .inl ⟨_, .walk (split ▸ reads) silent meets, built.symm⟩
      · rename_i e walked
        obtain ⟨earlier, n, later, split, -, stops⟩ := mapM_eq_error_iff.mp walked
        obtain ⟨rfl, deep⟩ := View.exceeds_of_tooDeep stops
        exact .inr (.inl ⟨_, .depth reads (split ▸ by simp) deep, built.symm⟩)
      · rename_i trees walked
        have images := View.mapM_outcome_eq_ok_iff.mp walked
        exact .inr (.inr ⟨trees, succeeds_iff.mpr ⟨_, reads, images⟩, built.symm⟩)

theorem build_eq_error_iff (timing : Timing) {fault : Fault} :
    (b.build timing sql).2 = .error fault ↔ b.Raises sql fault := by
  constructor
  · intro raised
    rcases build_cases b timing sql with ⟨_, raises, built⟩ | ⟨_, -, built⟩ | ⟨_, -, built⟩
    all_goals
      rw [raised] at built
      cases built
    exact raises
  · intro raises
    rw [build_snd]
    cases raises with
    | length long untold => simp [long, untold]
    | parse short crashes => simp [show ¬ b.lengthLimit < sql.length by omega, crashes]
    | walk reads silent meets =>
      obtain ⟨short, parsed, parses, split⟩ := reads
      have stops : (parsed.filterMap id).mapM
          (View.outcome b.dialect b.depthLimit b.depthLimit.toNat) = .error (.crashed fault) :=
        mapM_eq_error_iff.mpr ⟨_, _, _, split,
          fun m member => View.exists_outcome_eq_ok_iff.mpr (silent m member),
          View.outcome_eq_error_iff.mpr ⟨_, meets⟩⟩
      rw [if_neg (by omega), parses]
      dsimp only
      rw [stops]

/-- With a sound builder a walk ends below the limit or not at all. -/
theorem Sound.not_raises (sound : b.Sound sql) (fault : Fault) : ¬ b.Raises sql fault := by
  intro raises
  cases raises with
  | length long untold => exact untold (sound.length long)
  | parse short crashes => exact sound.parser fault crashes
  | walk reads silent meets =>
    generalize same : Walk.Stop.crashed fault = stop at meets
    cases meets.rings with
    | below =>
      rw [Walk.Stop.below, if_pos sound.depth] at same
      cases same
    | defect reached fails =>
      rw [sound.steady.defect?] at fails
      cases fails

theorem Succeeds.build {trees : List View} (succeeds : b.Succeeds sql trees) (timing : Timing) :
    (b.build timing sql).2 = .ok (.ok trees) := by
  obtain ⟨_, ⟨short, parsed, parses, rfl⟩, images⟩ := succeeds_iff.mp succeeds
  rw [build_snd, if_neg (by omega), parses]
  dsimp only
  rw [View.mapM_outcome_eq_ok_iff.mpr images]

/-- What leaves a call is told exactly; a sound builder is left by nothing. Wherever nothing leaves
it the text is answered: as a whole if no stage fails, and otherwise with the reason of the first
that does. -/
theorem build_answers (timing : Timing) :
    (∀ fault, (b.build timing sql).2 = .error fault ↔ b.Raises sql fault) ∧
      (b.Sound sql → ∀ fault, ¬ b.Raises sql fault) ∧
      ((∀ fault, ¬ b.Raises sql fault) →
        ∃ e, (b.build timing sql).2 = .ok e ∧ b.Answers sql e) := by
  refine ⟨fun fault => build_eq_error_iff timing, Sound.not_raises, ?_⟩
  intro calm
  rcases build_cases b timing sql with
    ⟨fault, raises, -⟩ | ⟨reason, fails, built⟩ | ⟨trees, succeeds, built⟩
  · exact absurd raises (calm fault)
  · exact ⟨_, built, fails.answers⟩
  · exact ⟨_, built, succeeds.answers⟩

/-- A parser that gives nothing in the first place, then a statement of one level, which is the
limit, and then one of two. -/
def lateFailure : Builder where
  dialect := { Dialect.mysql with
    parse := fun _ => ([], .ok [none, some .commit, some (.explain (.node .rollback))]) }
  depthLimit := 1
  lengthLimit := 20

theorem build_answers_lateFailure :
    lateFailure.Sound "COMMIT" ∧
      ∃ e, (lateFailure.build ⟨0, .zero false, .zero false⟩ "COMMIT").2 = .ok e ∧
        lateFailure.Answers "COMMIT" e :=
  have sound : lateFailure.Sound "COMMIT" :=
    { parser := by
        rintro fault ⟨⟩
      steady := Dialect.Usual.steady ⟨fun _ => rfl, fun _ => rfl, fun _ => rfl⟩
      length := by decide
      depth := by decide }
  have answers := @build_answers lateFailure "COMMIT" ⟨0, .zero false, .zero false⟩
  ⟨sound, answers.2.2 (answers.2.1 sound)⟩

/-- A parser that finds one statement, which has another below it. -/
def nested : Dialect :=
  { Dialect.mysql with parse := fun _ => ([], .ok [some (.explain (.node .commit))]) }

theorem build_nested_of_untold {limit : Int} (timing : Timing) (nonpositive : limit ≤ 0)
    (untold : ¬ Numeral.isShort limit) :
    (build ⟨nested, limit, 20⟩ timing "EXPLAIN COMMIT").2 = .error .untold := by
  have meets : nested.FirstAlarm limit 0 (.explain (.node .commit)) [] (.below limit) :=
    Dialect.firstAlarm_zero
  rw [Walk.Stop.below, if_neg untold, ← Int.toNat_of_nonpos nonpositive] at meets
  have short : ("EXPLAIN COMMIT".length : Int) ≤ 20 := by decide
  have reads : Reads ⟨nested, limit, 20⟩ "EXPLAIN COMMIT" ([] ++ .explain (.node .commit) :: []) :=
    ⟨short, _, rfl, rfl⟩
  exact (build_eq_error_iff timing).mpr (.walk reads nofun meets)

/-- Although the parser returns, the call is left by the failure to tag a node, to mark it or to
tell whether a value is one, and by a limit that cannot be told. -/
theorem build_raises_nested :
    let fault : Fault := ⟨"RuntimeError", "not told"⟩
    ∀ timing,
      (build ⟨{ nested with tag := fun _ => .error fault }, 1, 20⟩ timing "EXPLAIN COMMIT").2 =
          .error fault ∧
        (build ⟨{ nested with marking := fun _ => .error fault }, 1, 20⟩ timing
          "EXPLAIN COMMIT").2 =
          .error fault ∧
        (build ⟨{ nested with node? := fun _ => .error fault }, 1, 20⟩ timing "EXPLAIN COMMIT").2 =
          .error fault ∧
        (build ⟨nested, -10 ^ Numeral.digitLimit, 20⟩ timing "EXPLAIN COMMIT").2 =
          .error .untold := by
  intro fault timing
  have nonpositive : (-10 ^ Numeral.digitLimit : Int) ≤ 0 :=
    Int.neg_nonpos_of_nonneg (Int.pow_nonneg (by decide))
  refine ⟨rfl, rfl, rfl, build_nested_of_untold timing nonpositive ?_⟩
  have ten : Int.natAbs 10 = 10 := rfl
  rw [Numeral.isShort_iff, Int.natAbs_neg, Int.natAbs_pow, ten]
  exact Nat.lt_irrefl _

end Builder

end SqlSyntax
