import SqlSyntax.Proofs.Envelope.Outcome
import SqlSyntax.Proofs.View.Counters
import SqlSyntax.Proofs.View.Data
import SqlSyntax.Proofs.Wire.JsonRoundTrip

/-!
# What is logged about a call

The log of a call ends with a summary of its metrics, its outcome and its measurements, and tells
nothing of the kind before. A call that succeeds reports the views of its envelope. One that is
rejected reports the statements it got through before the one that is too deep, and none at all if
it did not get that far. What the parser of the dialect says for itself is left aside, and so are
times.
-/

namespace SqlSyntax

namespace Log

/-- How a call ended, with the totals of the statements that it has been through. -/
structure Summary where
  status : String
  statements : Int
  nodes : Int
  degraded : Int
  deepest : Int
deriving DecidableEq, Repr

namespace Record

def text? (r : Record) (key : String) : Option String :=
  match r.extra.get? key with
  | some (.text s) => some s
  | _ => none

def integer? (r : Record) (key : String) : Option Int :=
  match r.extra.get? key with
  | some (.integer n) => some n
  | _ => none

/-- The name and the value of a measurement. -/
def measurement? (r : Record) : Option (String × Value) :=
  match r.text? "metric_name", r.extra.get? "metric_value" with
  | some name, some v => some (name, v)
  | _, _ => none

/-- Whether a call succeeded, and how many statements it gave. -/
def outcome? (r : Record) : Option (Bool × Int) :=
  match r.extra.get? "success", r.integer? "statement_count" with
  | some (.boolean success), some n => some (success, n)
  | _, _ => none

def summary? (r : Record) : Option Summary :=
  match r.text? "status", r.integer? "statement_count", r.integer? "node_count",
    r.integer? "partial_count", r.integer? "max_depth" with
  | some status, some statements, some nodes, some degraded, some deepest =>
    some ⟨status, statements, nodes, degraded, deepest⟩
  | _, _, _, _, _ => none

end Record

/-- The log has these measurements in their order, one outcome and one summary. -/
structure Tells (log : List Record) (measurements : List (String × Value)) (outcome : Bool × Int)
    (summary : Summary) : Prop where
  measurements : log.filterMap Record.measurement? = measurements
  outcomes : log.filterMap Record.outcome? = [outcome]
  summaries : log.filterMap Record.summary? = [summary]

/-- No record has values to go with it. -/
def Plain (log : List Record) : Prop :=
  ∀ r ∈ log, r.extra = []

theorem Plain.append {first second : List Record} (plain : Plain first) (plain' : Plain second) :
    Plain (first ++ second) := by
  intro r member
  rcases List.mem_append.mp member with held | held
  · exact plain r held
  · exact plain' r held

theorem Plain.filterMap_append {α : Type} {first : List Record} (plain : Plain first)
    {told? : Record → Option α} (silent : ∀ r : Record, r.extra = [] → told? r = none)
    (second : List Record) : (first ++ second).filterMap told? = second.filterMap told? := by
  have nothing : first.filterMap told? = [] :=
    List.filterMap_eq_nil_iff.mpr fun r member => silent r (plain r member)
  rw [List.filterMap_append, nothing, List.nil_append]

/-- Records without values tell nothing. -/
theorem Tells.behind {first log : List Record} {measurements : List (String × Value)}
    {outcome : Bool × Int} {summary : Summary} (tells : Tells log measurements outcome summary)
    (plain : Plain first) : Tells (first ++ log) measurements outcome summary := by
  refine ⟨?_, ?_, ?_⟩
  · rw [plain.filterMap_append, tells.measurements]
    intro r empty
    simp [Record.measurement?, Record.text?, empty, Entries.get?]
  · rw [plain.filterMap_append, tells.outcomes]
    intro r empty
    simp [Record.outcome?, empty, Entries.get?]
  · rw [plain.filterMap_append, tells.summaries]
    intro r empty
    simp [Record.summary?, Record.text?, empty, Entries.get?]

end Log

/-! ### The records at the end of a call -/

namespace Metrics

/-- The keys of a summary; only a call that failed has a reason behind them. -/
def summaryKeys : List String :=
  ["status", "duration_ms", "statement_count", "node_count", "partial_count", "max_depth", "phases"]

theorem keys_summary (m : Metrics) :
    m.summary.keys = summaryKeys ∨ m.summary.keys = summaryKeys ++ ["error_message"] := by
  cases failed : m.error with
  | none => exact .inl (by simp [Entries.keys, summary, summaryKeys, failed])
  | some e =>
    by_cases empty : e = ""
    · exact .inl (by simp [Entries.keys, summary, summaryKeys, failed, empty])
    · exact .inr (by simp [Entries.keys, summary, summaryKeys, failed, empty])

theorem extra_completionRecord (m : Metrics) :
    m.completionRecord.extra = ("dialect", .text m.dialect) :: m.summary := by
  have distinct : ("dialect" :: m.summary.keys).Nodup := by
    rcases m.keys_summary with keys | keys <;> rw [keys] <;> decide
  have merged : Entries.merge [("dialect", .text m.dialect)] m.summary =
      [("dialect", .text m.dialect)] ++ m.summary := Entries.merge_eq_append distinct
  rw [completionRecord, merged, List.singleton_append]

theorem get?_completionRecord_eq_none (m : Metrics) (key : String)
    (other : key ∉ "dialect" :: (summaryKeys ++ ["error_message"])) :
    m.completionRecord.extra.get? key = none := by
  rw [extra_completionRecord, Entries.get?_eq_none_iff]
  have keys : key ∉ "dialect" :: m.summary.keys := by
    rcases m.keys_summary with keys | keys <;> rw [keys]
    · exact fun member => other (List.mem_append_left ["error_message"] member)
    · exact other
  exact keys

theorem told_completionRecord (m : Metrics) :
    m.completionRecord.measurement? = none ∧ m.completionRecord.outcome? = none ∧
      m.completionRecord.summary? =
        some ⟨m.status, m.statements, m.nodes, m.degraded, m.deepest⟩ := by
  have unnamed := m.get?_completionRecord_eq_none "metric_name" (by decide)
  have undecided := m.get?_completionRecord_eq_none "success" (by decide)
  refine ⟨?_, ?_, ?_⟩
  · simp only [Log.Record.measurement?, Log.Record.text?, unnamed]
  · simp only [Log.Record.outcome?, undecided]
  · simp [Log.Record.summary?, Log.Record.text?, Log.Record.integer?, extra_completionRecord,
      summary, Entries.get?, List.lookup_cons]

theorem told_emitted (name : String) (v : Value) (tags : Entries Value) :
    (emitted name v tags).measurement? = some (name, v) ∧ (emitted name v tags).outcome? = none ∧
      (emitted name v tags).summary? = none :=
  ⟨rfl, rfl, rfl⟩

/-- A summary, an outcome and measurements in a row. -/
theorem tells_ending (m : Metrics) {r : Log.Record} {outcome : Bool × Int}
    (told : r.measurement? = none ∧ r.outcome? = some outcome ∧ r.summary? = none)
    (tags : Entries Value) (measurements : List (String × Value)) :
    Log.Tells (m.completionRecord :: r :: measurements.map fun e => emitted e.1 e.2 tags)
      measurements outcome ⟨m.status, m.statements, m.nodes, m.degraded, m.deepest⟩ := by
  obtain ⟨measurement, outcome, summary⟩ := m.told_completionRecord
  obtain ⟨measurement', outcome', summary'⟩ := told
  refine ⟨?_, ?_, ?_⟩
  · simp [measurement, measurement', List.filterMap_map, told_emitted]
  · simp [outcome, outcome', List.filterMap_map, told_emitted]
  · simp [summary, summary', List.filterMap_map, told_emitted]

end Metrics

namespace Builder

theorem told_outcomeRecord (logger dialect : String) (success : Bool) (statements : Int)
    (text : String) (duration error : Option Value) :
    let r := outcomeRecord logger dialect success (.integer statements) text duration error
    r.measurement? = none ∧ r.outcome? = some (success, statements) ∧ r.summary? = none := by
  cases duration <;> cases error <;> exact ⟨rfl, rfl, rfl⟩

theorem tells_reject (m : Metrics) (finished : Int) (reason : String) :
    Log.Tells (reject m finished reason).1 [("parse.rejected", .integer 1)] (false, 0)
      ⟨"rejected", m.statements, m.nodes, m.degraded, m.deepest⟩ :=
  (m.complete finished "rejected" (some reason)).tells_ending
    (told_outcomeRecord loggerName m.dialect false 0 "0" none (some (.text reason)))
    [("dialect", .text m.dialect)] [("parse.rejected", .integer 1)]

theorem tells_accept (m : Metrics) (finished : Int) (trees : List View) :
    Log.Tells (accept m finished trees).1
      (("parse.nodes", .integer m.nodes) ::
        if m.degraded = 0 then [] else [("parse.partial_nodes", .integer m.degraded)])
      (true, trees.length) ⟨"completed", m.statements, m.nodes, m.degraded, m.deepest⟩ := by
  have ending := (m.complete finished "completed" none).tells_ending
    (told_outcomeRecord loggerName m.dialect true trees.length (toString trees.length)
      (some (.float (m.total.roundTo 2))) none)
    [("dialect", .text m.dialect)]
  by_cases whole : m.degraded = 0
  · have log : (accept m finished trees).1 = _ ++ if m.degraded = 0 then [] else _ := rfl
    rw [log, if_pos whole, if_pos whole]
    exact ending [("parse.nodes", .integer m.nodes)]
  · have log : (accept m finished trees).1 = _ ++ if m.degraded = 0 then [] else _ := rfl
    rw [log, if_neg whole, if_neg whole]
    exact ending [("parse.nodes", .integer m.nodes), ("parse.partial_nodes", .integer m.degraded)]

end Builder

/-! ### The statements that a call gets through -/

namespace Metrics

/-- The totals are those of the views. -/
structure AccountsFor (m : Metrics) (trees : List View) : Prop where
  statements : m.statements = trees.length
  nodes : m.nodes = (View.preorders trees).length
  degraded : m.degraded = (View.preorders trees).countP (·.degraded)
  deepest : m.deepest = View.tallest trees

theorem accountsFor_new (dialect : String) (now : Int) :
    ((new dialect).start now).AccountsFor [] :=
  ⟨rfl, rfl, rfl, rfl⟩

/-- Phases are no part of the totals. -/
theorem AccountsFor.recordPhase {m : Metrics} {trees : List View} (accounts : m.AccountsFor trees)
    (phase : String) (elapsed : Binary64) : (m.recordPhase phase elapsed).AccountsFor trees :=
  ⟨accounts.statements, accounts.nodes, accounts.degraded, accounts.deepest⟩

/-- One more statement adds its view. -/
theorem AccountsFor.recordTree {m : Metrics} {trees : List View} (accounts : m.AccountsFor trees)
    (v : View) : (m.recordTree v.size v.degradations v.height).AccountsFor (trees ++ [v]) where
  statements := by
    rw [List.length_append]
    exact congrArg (· + 1) accounts.statements
  nodes := by
    rw [View.preorders_append, List.length_append, View.length_preorders [v], Int.natCast_add,
      ← accounts.nodes]
    rfl
  degraded := by
    rw [View.preorders_append, List.countP_append, View.countP_preorders [v], Int.natCast_add,
      ← accounts.degraded]
    rfl
  deepest := by
    simp only [Metrics.recordTree, accounts.deepest, View.tallest_append, View.tallest]
    omega

end Metrics

namespace Builder

variable {b : Builder}

/-- A statement that is within the limit counts as its view. -/
theorem tally_normalize {d : Dialect} {limit : Int} {n : Node} {v : View}
    (image : View.image d limit.toNat n = some v) (log : List Log.Record) :
    (View.normalize d limit n ⟨.zero, log⟩).1.tally = ⟨v.size, v.height, v.degradations⟩ := by
  rw [View.normalize, View.ofNode_after image]
  simp [Tally.after, Tally.zero]

/-- The nodes up to the first that has no image, with their images, and the others. -/
theorem exists_images (f : Node → Option View) (nodes : List Node) :
    ∃ passed trees later, nodes = passed ++ later ∧
      List.Forall₂ (fun n v => f n = some v) passed trees ∧ ∀ n ∈ later.head?, f n = none := by
  induction nodes with
  | nil => exact ⟨[], [], [], rfl, .nil, nofun⟩
  | cons n nodes ih =>
    cases image : f n with
    | none =>
      refine ⟨[], [], n :: nodes, rfl, .nil, ?_⟩
      rintro _ ⟨⟩
      exact image
    | some v =>
      obtain ⟨passed, trees, later, rfl, images, stops⟩ := ih
      exact ⟨n :: passed, v :: trees, later, rfl, .cons image images, stops⟩

/-- What is recorded of the statements is what is recorded up to the first that is too deep. -/
theorem views_accountsFor {statements : List (Option Node)} {passed later : List Node}
    {trees : List View} (split : statements.filterMap id = passed ++ later)
    (images : List.Forall₂ (fun n v => View.image b.dialect b.depthLimit.toNat n = some v)
      passed trees)
    (stops : ∀ n ∈ later.head?, View.image b.dialect b.depthLimit.toNat n = none)
    {m : Metrics} {earlier : List View} (accounts : m.AccountsFor earlier) :
    (b.views statements m).2.1.AccountsFor (earlier ++ trees) := by
  induction statements generalizing passed trees m earlier with
  | nil =>
    obtain ⟨rfl, -⟩ := List.append_eq_nil_iff.mp split.symm
    cases images
    rw [List.append_nil]
    exact accounts
  | cons statement rest ih =>
    cases statement with
    | none => exact ih split images accounts
    | some n =>
      have kept : (some n :: rest).filterMap id = n :: rest.filterMap id := rfl
      have seen {v : View} : (View.normalize b.dialect b.depthLimit n ⟨.zero, []⟩).2 = .ok v ↔
          View.image b.dialect b.depthLimit.toNat n = some v := View.normalize_eq_ok_iff
      rw [kept] at split
      rw [views]
      rcases walked : View.normalize b.dialect b.depthLimit n ⟨.zero, []⟩ with ⟨p, result⟩
      rw [walked] at seen
      cases images with
      | nil =>
        obtain rfl : n :: rest.filterMap id = later := split
        rw [List.append_nil]
        cases result with
        | error stop => exact accounts
        | ok v =>
          have image := seen.mp rfl
          rw [stops n rfl] at image
          cases image
      | @cons n' v passed trees image images =>
        rw [List.cons_append, List.cons.injEq] at split
        obtain ⟨rfl, split⟩ := split
        obtain rfl : result = .ok v := seen.mpr image
        have counted := tally_normalize image []
        rw [walked] at counted
        have onward := ih split images (accounts.recordTree v)
        rw [List.append_assoc, List.singleton_append] at onward
        dsimp only at counted ⊢
        rw [counted]
        rcases viewed : b.views rest (m.recordTree v.size v.degradations v.height) with
          ⟨log, m', result⟩
        rw [viewed] at onward
        cases result <;> exact onward

end Builder

/-! ### Nothing is told on the way -/

theorem Categories.plain_markers (cs : Categories) (s : Slot) : Log.Plain (cs.markers s).1 := by
  simp only [markers]
  induction cs with
  | nil => exact nofun
  | cons e rest ih =>
    simp only [matching, List.foldr_cons] at ih ⊢
    cases e.2.isMet s with
    | error fault =>
      intro r member
      rcases List.mem_cons.mp member with rfl | held
      · rfl
      · exact ih r held
    | ok met => cases met <;> exact ih

namespace View

variable {d : Dialect} {limit : Int}

theorem plain_describe (n : Node) : Log.Plain (describe d n).log := by
  have complaint (level : Log.Level) (logger message : String) :
      Log.Plain [.plain level logger message] := by
    intro r member
    rw [List.mem_singleton.mp member]
    rfl
  unfold describe
  cases d.tag n with
  | error fault => exact nofun
  | ok tag =>
    cases d.marking n with
    | error fault =>
      cases d.render n with
      | ok text => exact nofun
      | error fault => exact complaint _ _ _
    | ok _ =>
      refine .append (.append ?_ (d.categories.plain_markers (.node n))) ?_
      · cases d.render n with
        | ok text => exact nofun
        | error fault => exact complaint _ _ _
      · cases d.members n with
        | ok members => exact nofun
        | error fault => exact complaint _ _ _

theorem plain_ofNode (budget level : Nat) (n : Node) {p : Progress} (start : Log.Plain p.log) :
    Log.Plain (ofNode d limit budget level n p).1.log := by
  induction budget generalizing level n p with
  | zero => exact start
  | succ budget ih =>
    have entered : Log.Plain (entered d level n p).log := start.append (plain_describe n)
    have each := (Walk.each_keeps (I := fun p => Log.Plain p.log) (Q := fun _ : View => True)
      (fun (c : Child) (_ : c ∈ d.children n) p plain =>
        ⟨ih (level + 1) c.node plain, fun _ _ => trivial⟩) entered).1
    rw [ofNode_succ, eachChild]
    rcases walked : Walk.each (fun c : Child => ofNode d limit budget (level + 1) c.node)
      (d.children n) (View.entered d level n p) with ⟨q, _ | views⟩
    · rw [walked] at each
      exact each
    · rw [walked] at each
      dsimp only at each ⊢
      cases d.defect? n with
      | some fault => exact each
      | none =>
        dsimp only
        split
        · exact each
        · exact each

end View

namespace Builder

variable {b : Builder} {sql : String}

theorem plain_views (statements : List (Option Node)) (m : Metrics) :
    Log.Plain (b.views statements m).1 := by
  induction statements generalizing m with
  | nil => exact nofun
  | cons statement rest ih =>
    cases statement with
    | none => exact ih m
    | some n =>
      have first : Log.Plain (View.normalize b.dialect b.depthLimit n ⟨.zero, []⟩).1.log :=
        View.plain_ofNode _ _ n nofun
      rw [views]
      rcases walked : View.normalize b.dialect b.depthLimit n ⟨.zero, []⟩ with ⟨p, _ | view⟩
      · rw [walked] at first
        exact first
      · rw [walked] at first
        have later := ih (m.recordTree p.tally.nodes p.tally.degraded p.tally.deepest)
        dsimp only
        rcases viewed : b.views rest (m.recordTree p.tally.nodes p.tally.degraded p.tally.deepest)
          with ⟨log, m', _ | trees⟩ <;> rw [viewed] at later <;> exact first.append later

end Builder

/-! ### Reports -/

/-- The row has every node in reach, each once and in the order of a walk. -/
structure Dialect.Lists (d : Dialect) (n : Node) (row : List (Path × Node)) : Prop where
  ordered : (row.map Prod.fst).Pairwise (· < ·)
  mem_iff : ∀ p m, (p, m) ∈ row ↔ d.nodeAt? n p = some m

theorem Dialect.lists_row {d : Dialect} {budget : Nat} {n : Node} {v : View}
    (image : View.image d budget n = some v) : d.Lists n (d.row budget n) where
  ordered := ordered_row budget n
  mem_iff p m := by
    rw [mem_row, and_iff_left_iff_imp]
    intro there
    obtain ⟨trail, leads, length⟩ := exists_leads_of_nodeAt? there
    by_contra deep
    have none : View.image d budget n = none :=
      View.image_eq_none_iff.mpr ⟨trail, m, leads, .inl (by omega)⟩
    rw [image] at none
    cases none

/-- The totals of the views. -/
def Log.Summary.ofTrees (status : String) (trees : List View) : Summary :=
  ⟨status, trees.length, (View.preorders trees).length,
    (View.preorders trees).countP (·.degraded), View.tallest trees⟩

namespace Builder

variable (b : Builder) (sql : String)

/-- The measurements of a call that gives the views. -/
def measurementsOf (trees : List View) : List (String × Value) :=
  ("parse.nodes", .integer (View.preorders trees).length) ::
    if (View.preorders trees).any (·.degraded) then
      [("parse.partial_nodes", .integer ((View.preorders trees).countP (·.degraded)))]
    else []

/-- What the parser says for itself; it is not asked about a text that is too long. -/
def spoken : List Log.Record :=
  if b.lengthLimit < sql.length then [] else (b.dialect.parse sql).1

/-- The statements that a rejected text gets through: those before the first that is too deep, and
none if it fails at an earlier stage. -/
inductive Passes : List Node → Prop
  | length (long : b.lengthLimit < sql.length) : Passes []
  | parse {e : ParseError} (short : (sql.length : Int) ≤ b.lengthLimit)
      (rejects : (b.dialect.parse sql).2 = .error (.rejected e)) : Passes []
  | depth {passed later : List Node} {n : Node} (reads : b.Reads sql (passed ++ n :: later))
      (within : ∀ m ∈ passed, ¬ b.dialect.Exceeds b.depthLimit m)
      (deep : b.dialect.Exceeds b.depthLimit n) : Passes passed

/-- The summary of a rejected text: it counts the nodes of the statements that the text gets
through, those that falter, and the levels of their views. -/
structure Counts (passed : List Node) (s : Log.Summary) : Prop where
  status : s.status = "rejected"
  statements : s.statements = passed.length
  nodes : ∃ rows, List.Forall₂ b.dialect.Lists passed rows ∧ s.nodes = rows.flatten.length ∧
    s.degraded = rows.flatten.countP fun e => b.dialect.Falters e.2
  deepest : ∃ trees, List.Forall₂
      (fun n v => ∀ p, (View.normalize b.dialect b.depthLimit n p).2 = .ok v) passed trees ∧
    s.deepest = View.tallest trees

/-- The log is that of a call with this answer. -/
inductive Reported (log : List Log.Record) : Except Fault Envelope → Prop
  | completed {trees : List View}
      (tells : Log.Tells log (measurementsOf trees) (true, trees.length)
        (.ofTrees "completed" trees)) : Reported log (.ok (.ok trees))
  | rejected {passed : List Node} {summary : Log.Summary} {reason : String}
      (passes : b.Passes sql passed) (counts : b.Counts passed summary)
      (tells : Log.Tells log [("parse.rejected", .integer 1)] (false, 0) summary) :
      Reported log (.ok (.failure reason))
  | crashed {fault : Fault} (raises : b.Raises sql fault) (plain : Log.Plain log)
      (silent : (∀ statements, ¬ b.Reads sql statements) → log = []) : Reported log (.error fault)

variable {b sql}

theorem exists_rows {d : Dialect} {budget : Nat} {passed : List Node} {trees : List View}
    (images : List.Forall₂ (fun n v => View.image d budget n = some v) passed trees) :
    ∃ rows, List.Forall₂ d.Lists passed rows ∧
      rows.flatten.length = (View.preorders trees).length ∧
      (rows.flatten.countP fun e => d.Falters e.2) =
        (View.preorders trees).countP (·.degraded) := by
  induction images with
  | nil => exact ⟨[], .nil, rfl, rfl⟩
  | @cons n v passed trees image _ ih =>
    obtain ⟨rows, lists, length, falters⟩ := ih
    obtain ⟨size, degradations⟩ := View.measures_row image
    refine ⟨d.row budget n :: rows, .cons (Dialect.lists_row image) lists, ?_, ?_⟩
    · rw [List.flatten_cons, View.preorders, List.length_append, List.length_append, size, length,
        View.length_preorder]
    · rw [List.flatten_cons, View.preorders, List.countP_append, List.countP_append, degradations,
        falters, View.countP_preorder]

theorem counts_ofTrees {passed : List Node} {trees : List View}
    (images : List.Forall₂ (fun n v => View.image b.dialect b.depthLimit.toNat n = some v)
      passed trees) :
    b.Counts passed (.ofTrees "rejected" trees) where
  status := rfl
  statements := congrArg Nat.cast images.length_eq.symm
  nodes := by
    obtain ⟨rows, lists, length, falters⟩ := exists_rows images
    exact ⟨rows, lists, congrArg Nat.cast length.symm, congrArg Nat.cast falters.symm⟩
  deepest := by
    refine ⟨trees, images.imp ?_, rfl⟩
    intro n v image p
    exact View.normalize_eq_ok_iff.mpr image

/-- A call that ends in a rejection reports what it has recorded. -/
theorem reported_reject {passed : List Node} {trees : List View} {m : Metrics}
    {log : List Log.Record} (passes : b.Passes sql passed)
    (images : List.Forall₂ (fun n v => View.image b.dialect b.depthLimit.toNat n = some v)
      passed trees)
    (accounts : m.AccountsFor trees) (plain : Log.Plain log) (finished : Int) (reason : String) :
    b.Reported sql (log ++ (reject m finished reason).1) (.ok (reject m finished reason).2) := by
  have tells := tells_reject m finished reason
  rw [accounts.statements, accounts.nodes, accounts.degraded, accounts.deepest] at tells
  exact .rejected passes (counts_ofTrees images) (tells.behind plain)

theorem reported_accept {trees : List View} {m : Metrics} {log : List Log.Record}
    (accounts : m.AccountsFor trees) (plain : Log.Plain log) (finished : Int) :
    b.Reported sql (log ++ (accept m finished trees).1) (.ok (accept m finished trees).2) := by
  have tells := tells_accept m finished trees
  have partly : (View.preorders trees).any (·.degraded) = true ↔ ¬ m.degraded = 0 := by
    rw [accounts.degraded, Int.natCast_eq_zero, List.countP_eq_zero, List.any_eq_true]
    simp
  have measurements : measurementsOf trees = ("parse.nodes", .integer m.nodes) ::
      if m.degraded = 0 then [] else [("parse.partial_nodes", .integer m.degraded)] := by
    rw [measurementsOf, ← accounts.nodes, ← accounts.degraded]
    simp only [partly, ite_not]
  rw [← measurements, accounts.statements, accounts.nodes, accounts.degraded, accounts.deepest]
    at tells
  exact .completed (tells.behind plain)

/-- The views of all statements, or a statement that ends the walk behind some that do not. -/
theorem views_cases (statements : List (Option Node)) {m : Metrics} (fresh : m.AccountsFor []) :
    ∃ passed trees, List.Forall₂
        (fun n v => View.image b.dialect b.depthLimit.toNat n = some v) passed trees ∧
      (b.views statements m).2.1.AccountsFor trees ∧
      ((b.views statements m).2.2 = .ok trees ∨
        ∃ stop n later, (b.views statements m).2.2 = .error stop ∧
          statements.filterMap id = passed ++ n :: later ∧
          View.outcome b.dialect b.depthLimit b.depthLimit.toNat n = .error stop) := by
  obtain ⟨passed, trees, later, split, images, stops⟩ :=
    exists_images (View.image b.dialect b.depthLimit.toNat) (statements.filterMap id)
  refine ⟨passed, trees, images, views_accountsFor split images stops fresh, ?_⟩
  rw [views_snd, split]
  cases later with
  | nil =>
    rw [List.append_nil]
    exact .inl (View.mapM_outcome_eq_ok_iff.mpr (mapM_eq_some_iff.mpr images))
  | cons n later =>
    have none := stops n rfl
    cases outcome : View.outcome b.dialect b.depthLimit b.depthLimit.toNat n with
    | ok v =>
      rw [View.outcome_eq_ok_iff.mp outcome] at none
      cases none
    | error stop =>
      refine .inr ⟨stop, n, later, mapM_eq_error_iff.mpr ⟨passed, n, later, rfl, ?_, outcome⟩, rfl,
        outcome⟩
      intro m member
      obtain ⟨v, -, image⟩ := exists_right_of_forall₂ images member
      exact ⟨v, View.outcome_eq_ok_iff.mpr image⟩

theorem passes_of_images {passed later : List Node} {n : Node} {trees : List View}
    (reads : b.Reads sql (passed ++ n :: later))
    (images : List.Forall₂ (fun n v => View.image b.dialect b.depthLimit.toNat n = some v)
      passed trees)
    (deep : b.dialect.Exceeds b.depthLimit n) : b.Passes sql passed := by
  refine .depth reads ?_ deep
  intro m member exceeds
  obtain ⟨v, -, image⟩ := exists_right_of_forall₂ images member
  exact View.not_exceeds_of_image image exceeds

/-- Behind what the parser says for itself, a call that gives views reports these views, and one
that is rejected the statements before the first that is too deep. -/
theorem build_reports (b : Builder) (timing : Timing) (sql : String) :
    ∃ log, (b.build timing sql).1 = b.spoken sql ++ log ∧
      b.Reported sql log (b.build timing sql).2 := by
  have fresh := Metrics.accountsFor_new b.dialect.name 0
  have silent : Log.Plain [] := nofun
  have raises {fault : Fault} : (b.build timing sql).2 = .error fault → b.Raises sql fault :=
    (build_eq_error_iff timing).mp
  unfold build at raises ⊢
  unfold spoken
  by_cases long : b.lengthLimit < sql.length
  · rw [if_pos long] at raises ⊢
    rw [if_pos long]
    split at raises
    · rename_i told
      rw [if_pos told]
      exact ⟨_, rfl, reported_reject (.length long) .nil fresh silent _ _⟩
    · rename_i untold
      rw [if_neg untold]
      exact ⟨[], rfl, .crashed (raises rfl) silent fun _ => rfl⟩
  · rw [if_neg long] at raises ⊢
    rw [if_neg long]
    have short : (sql.length : Int) ≤ b.lengthLimit := by omega
    have begun := fresh.recordPhase "parse" timing.parse
    rcases parses : b.dialect.parse sql with ⟨parseLog, refusal | parsed⟩
    · rw [parses] at raises
      cases refusal with
      | crashed fault =>
        exact ⟨[], (List.append_nil _).symm, .crashed (raises rfl) silent fun _ => rfl⟩
      | rejected e =>
        have passes : b.Passes sql [] := .parse short (by rw [parses])
        exact ⟨_, rfl, reported_reject passes .nil begun silent _ _⟩
    · have plain := plain_views (b := b) parsed
        (((Metrics.new b.dialect.name).start 0).recordPhase "parse" timing.parse)
      obtain ⟨passed, trees, images, accounts, outcome⟩ := views_cases (b := b) parsed begun
      rw [parses] at raises
      dsimp only at raises
      rcases walked : b.views parsed
        (((Metrics.new b.dialect.name).start 0).recordPhase "parse" timing.parse) with
        ⟨viewLog, m, viewed⟩
      rw [walked] at plain accounts outcome raises
      have accounts := accounts.recordPhase "normalize" timing.normalize
      have read : b.Reads sql (parsed.filterMap id) := ⟨short, parsed, by rw [parses], rfl⟩
      simp only [walked]
      rcases outcome with rfl | ⟨stop, n, later, rfl, split, stops⟩
      · exact ⟨_, List.append_assoc _ _ _, reported_accept accounts plain _⟩
      · cases stop with
        | crashed fault =>
          exact ⟨viewLog, rfl, .crashed (raises rfl) plain fun none => absurd read (none _)⟩
        | tooDeep e =>
          obtain ⟨rfl, deep⟩ := View.exceeds_of_tooDeep stops
          exact ⟨_, List.append_assoc _ _ _,
            reported_reject (passes_of_images (split ▸ read) images deep) images accounts plain _ _⟩

/-- The statement that is absent and the one that is too deep are not counted. -/
theorem build_reports_lateFailure :
    ∃ log, (lateFailure.build ⟨0, .zero false, .zero false⟩ "COMMIT").1 = log ∧
      log.filterMap Log.Record.summary? = [⟨"rejected", 1, 1, 0, 1⟩] ∧
      lateFailure.Reported "COMMIT" log (.ok (.failure (TooDeep.message ⟨1⟩))) := by
  obtain ⟨log, logged, reported⟩ :=
    lateFailure.build_reports ⟨0, .zero false, .zero false⟩ "COMMIT"
  have spoken : lateFailure.spoken "COMMIT" = [] := rfl
  rw [spoken, List.nil_append] at logged
  refine ⟨log, logged, ?_, reported⟩
  rw [← logged]
  rfl

end Builder

end SqlSyntax
