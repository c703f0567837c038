import SqlSyntax.Proofs.Expression.Calls

/-!
# Every expression is written

By induction on the expression, for every place where no keyword hides a function name of it.
-/

namespace SqlSyntax

/-- At every place where it is not hidden the expression is written. -/
def Writes (level : Level) (x : Node) : Prop :=
  ∀ place, x.unhidden place = true → ∃ text, Written place level x text

variable {place : Place} {x : Node} {items : List Node}

theorem exists_writtenTail (each : ∀ y ∈ items, Writes .disjunction y)
    (visible : Slot.unhiddenEach .condition (items.map .node) = true) :
    ∃ text, WrittenTail items text := by
  induction items with
  | nil => exact ⟨"", .nil⟩
  | cons y ys ih =>
    rw [List.map_cons, Slot.unhiddenEach, Bool.and_eq_true] at visible
    obtain ⟨text, head⟩ := each y List.mem_cons_self .condition visible.1
    obtain ⟨later, tail⟩ := ih (fun z member => each z (List.mem_cons_of_mem y member)) visible.2
    exact ⟨_, .cons head tail⟩

theorem exists_writtenList (occupied : items ≠ []) (each : ∀ y ∈ items, Writes .disjunction y)
    (visible : Slot.unhiddenEach place (items.map .node) = true) :
    ∃ text, WrittenList place items text := by
  cases items with
  | nil => exact absurd rfl occupied
  | cons y ys =>
    rw [List.map_cons, Slot.unhiddenEach, Bool.and_eq_true] at visible
    obtain ⟨text, head⟩ := each y List.mem_cons_self place visible.1
    obtain ⟨later, tail⟩ :=
      exists_writtenTail (fun z member => each z (List.mem_cons_of_mem y member)) visible.2
    exact ⟨_, .cons head tail⟩

theorem exists_writtenBranches {branches : List (Node × Node)}
    (conditions : ∀ b ∈ branches, Writes .disjunction b.1)
    (results : ∀ b ∈ branches, Writes .disjunction b.2)
    (visible : Slot.unhiddenEach .condition (branches.map fun b => .node (branchNode b)) = true) :
    ∃ text, WrittenBranches branches text := by
  induction branches with
  | nil => exact ⟨"", .nil⟩
  | cons b bs ih =>
    rw [List.map_cons, Slot.unhiddenEach, Bool.and_eq_true] at visible
    have both : b.1.unhidden .condition = true ∧ b.2.unhidden .condition = true := by
      simpa [Slot.unhidden, branchNode, Node.unhidden] using visible.1
    obtain ⟨condition, first⟩ := conditions b List.mem_cons_self .condition both.1
    obtain ⟨result, second⟩ := results b List.mem_cons_self .condition both.2
    obtain ⟨later, tail⟩ := ih (fun c member => conditions c (List.mem_cons_of_mem b member))
      (fun c member => results c (List.mem_cons_of_mem b member)) visible.2
    exact ⟨_, .cons first second tail⟩

theorem exists_writtenOption {value : Option Node} (lead : String)
    (each : ∀ x ∈ value, Writes .disjunction x)
    (visible : (Slot.ofOption value).unhidden place = true) :
    ∃ text, WrittenOption place lead value text := by
  cases value with
  | none => exact ⟨"", .none⟩
  | some x =>
    obtain ⟨text, written⟩ := each x rfl place visible
    exact ⟨_, .some written⟩

theorem exists_writtenArguments {star : Bool} (alone : star = true → items = [])
    (each : ∀ y ∈ items, Writes .disjunction y)
    (visible : Slot.unhiddenEach place (items.map .node) = true) :
    ∃ args text, WrittenArguments place items star args text := by
  cases star
  · cases items with
    | nil => exact ⟨none, "", .none⟩
    | cons y ys =>
      obtain ⟨text, list⟩ := exists_writtenList (List.cons_ne_nil y ys) each visible
      exact ⟨_, text, .list list⟩
  · obtain rfl := alone rfl
    exact ⟨_, "*", .star⟩

theorem Expression.writes {level : Level} (expression : Expression level x) : Writes level x := by
  induction expression with
  | operand below operand ih =>
    intro place visible
    obtain ⟨text, written⟩ := ih place visible
    exact ⟨text, written.operand below⟩
  | infixed listed below left right ihl ihr =>
    intro place visible
    simp only [Grammar.binaryNode, Node.unhidden, Slot.unhidden, Bool.and_eq_true] at visible
    obtain ⟨text, first⟩ := ihl place visible.1
    obtain ⟨later, second⟩ := ihr _ visible.2
    exact ⟨_, first.infixed listed below second⟩
  | signed listed operand ih =>
    intro place visible
    obtain ⟨text, written⟩ := ih _ visible
    exact ⟨_, written.signed listed⟩
  | isNull operand negated ih =>
    intro place visible
    obtain ⟨text, written⟩ := ih place visible
    exact ⟨_, written.isNull negated⟩
  | isTruth operand negated truth ih =>
    intro place visible
    obtain ⟨text, written⟩ := ih place visible
    exact ⟨_, written.isTruth negated truth⟩
  | inList operand occupied each negated ih ihs =>
    intro place visible
    simp only [Node.unhidden, Slot.unhidden, Bool.and_eq_true] at visible
    obtain ⟨text, written⟩ := ih place visible.1
    obtain ⟨later, list⟩ := exists_writtenList occupied ihs visible.2
    exact ⟨_, written.inList list negated⟩
  | between operand lower upper negated ih ihl ihh =>
    intro place visible
    simp only [Node.unhidden, Slot.unhidden, Bool.and_eq_true] at visible
    obtain ⟨text, written⟩ := ih place visible.1.1
    obtain ⟨later, low⟩ := ihl _ visible.1.2
    obtain ⟨last, high⟩ := ihh _ visible.2
    exact ⟨_, written.between low high negated⟩
  | like operand like negated escape ih ihp =>
    intro place visible
    simp only [Node.unhidden, Slot.unhidden, Bool.and_eq_true] at visible
    obtain ⟨text, written⟩ := ih place visible.1
    obtain ⟨later, pattern⟩ := ihp _ visible.2
    exact ⟨_, written.like pattern negated escape⟩
  | regexp operand like negated ih ihp =>
    intro place visible
    simp only [Node.unhidden, Slot.unhidden, Bool.and_eq_true] at visible
    obtain ⟨text, written⟩ := ih place visible.1
    obtain ⟨later, pattern⟩ := ihp _ visible.2
    exact ⟨_, written.regexp pattern negated⟩
  | literal written => exact fun place _ => ⟨_, .literal written⟩
  | marker order => exact fun place _ => ⟨_, .marker order⟩
  | variableRef named isSystem => exact fun place _ => ⟨_, .variableRef named isSystem⟩
  | column named qualified => exact fun place _ => ⟨_, .column named qualified⟩
  | paren operand ih =>
    intro place visible
    obtain ⟨text, written⟩ := ih _ visible
    exact ⟨_, written.paren⟩
  | @row items several each ihs =>
    intro place visible
    cases items with
    | nil => simp at several
    | cons x xs =>
      have others : xs ≠ [] := by
        rintro rfl
        simp at several
      simp only [Node.unhidden, List.map_cons, Slot.unhiddenEach, Slot.unhidden, Bool.and_eq_true]
        at visible
      obtain ⟨text, first⟩ := ihs x List.mem_cons_self _ visible.1
      obtain ⟨later, list⟩ := exists_writtenList others
        (fun y member => ihs y (List.mem_cons_of_mem x member)) visible.2
      exact ⟨_, .rowOf first list⟩
  | caseOf occupied compared conditions results last ihv ihc ihr ihl =>
    intro place visible
    simp only [Node.unhidden, Bool.and_eq_true] at visible
    obtain ⟨compared, operand⟩ := exists_writtenOption " " ihv visible.1.1
    obtain ⟨text, whens⟩ := exists_writtenBranches ihc ihr visible.1.2
    obtain ⟨last, option⟩ := exists_writtenOption " ELSE " ihl visible.2
    exact ⟨_, .caseOf occupied operand whens option⟩
  | @call name items named plain each ihs =>
    intro place visible
    simp only [Node.unhidden, Bool.and_eq_true, Bool.not_eq_true'] at visible
    have starless : false = true → items = [] := fun star => absurd star Bool.false_ne_true
    obtain ⟨args, text, arguments⟩ := exists_writtenArguments starless ihs visible.2
    exact ⟨_, .call named plain visible.1 arguments⟩
  | aggregate listed each alone distinct ihs =>
    intro place visible
    simp only [Node.unhidden, Bool.and_eq_true, Bool.not_eq_true'] at visible
    obtain ⟨args, text, arguments⟩ := exists_writtenArguments alone ihs visible.2
    exact ⟨_, .aggregate listed visible.1 distinct arguments⟩

end SqlSyntax
