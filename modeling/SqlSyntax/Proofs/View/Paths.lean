import Mathlib.Data.List.Lex
import SqlSyntax.Proofs.View.Reach

/-!
# Paths to the nodes in reach

A path says which child to take at each step, so that every occurrence of a node has its own. Paths
are ordered lexicographically: a node comes before everything below it, and everything below one
child before the next child. This is the order of a walk. The row of the nodes down to some level
lists them in this order, and is cut at the first that is too deep.
-/

namespace SqlSyntax

/-- Which child to take at each step, counted from zero. -/
abbrev Path := List Nat

namespace Dialect

/-- The node at the end of a path. -/
def nodeAt? (d : Dialect) : Node → Path → Option Node
  | n, [] => some n
  | n, i :: path => (d.children n)[i]?.bind fun c => nodeAt? d c.node path

/-- The path leads to the first node below the limit; the node itself is on the first level. -/
structure FirstBelow (d : Dialect) (limit : Int) (n : Node) (q : Path) : Prop where
  reached : (d.nodeAt? n q).isSome = true
  deep : limit < q.length + 1
  first : ∀ p, (d.nodeAt? n p).isSome = true → limit < p.length + 1 → q ≤ p

/-- The row has every node before the end of the path, each once and in the order of a walk. -/
structure ListsBefore (d : Dialect) (n : Node) (q : Path) (row : List (Path × Node)) : Prop where
  ordered : (row.map Prod.fst).Pairwise (· < ·)
  mem_iff : ∀ p m, (p, m) ∈ row ↔ d.nodeAt? n p = some m ∧ p < q

/-- A row of child number `i`, as it is seen from the parent. -/
def inChild (i : Nat) (row : List (Path × Node)) : List (Path × Node) :=
  row.map fun e => (i :: e.1, e.2)

/-- The rows of some children one after the other, the first of which is number `i`. -/
def rowsBelow (row : Node → List (Path × Node)) : Nat → List Child → List (Path × Node)
  | _, [] => []
  | i, c :: rest => inChild i (row c.node) ++ rowsBelow row (i + 1) rest

/-- The nodes of so many levels, and those of the level below. -/
def row (d : Dialect) : Nat → Node → List (Path × Node)
  | 0, n => [([], n)]
  | levels + 1, n => ([], n) :: rowsBelow (row d levels) 0 (d.children n)

variable {d : Dialect}

theorem nodeAt?_append (n : Node) (p q : Path) :
    d.nodeAt? n (p ++ q) = (d.nodeAt? n p).bind fun m => d.nodeAt? m q := by
  induction p generalizing n with
  | nil => rfl
  | cons i p ih =>
    simp only [List.cons_append, nodeAt?]
    cases (d.children n)[i]? with
    | none => rfl
    | some c => exact ih c.node

/-- A path that is cut short still leads to a node. -/
theorem nodeAt?_take {n : Node} {p : Path} (reached : (d.nodeAt? n p).isSome = true) (k : Nat) :
    (d.nodeAt? n (p.take k)).isSome = true := by
  rw [← List.take_append_drop k p, nodeAt?_append] at reached
  exact Option.isSome_of_isSome_bind reached

theorem exists_leads_of_nodeAt? {p : Path} {m : Node} (there : d.nodeAt? n p = some m) :
    ∃ trail, d.Leads n trail m ∧ trail.length = p.length := by
  induction p generalizing n with
  | nil =>
    cases there
    exact ⟨[], rfl, rfl⟩
  | cons i p ih =>
    obtain ⟨c, child, there⟩ := Option.bind_eq_some_iff.mp there
    obtain ⟨trail, leads, length⟩ := ih there
    refine ⟨c.origin :: trail, leads_cons.mpr ⟨c, List.mem_of_getElem? child, rfl, leads⟩, ?_⟩
    rw [List.length_cons, List.length_cons, length]

theorem mem_inChild {i : Nat} {row : List (Path × Node)} {p : Path} {m : Node} :
    (p, m) ∈ inChild i row ↔ ∃ q, (q, m) ∈ row ∧ p = i :: q := by
  simp only [inChild, List.mem_map, Prod.mk.injEq, Prod.exists]
  constructor
  · rintro ⟨q, _, held, rfl, rfl⟩
    exact ⟨q, held, rfl⟩
  · rintro ⟨q, held, rfl⟩
    exact ⟨q, m, held, rfl, rfl⟩

theorem shallow_inChild {levels : Nat} {row : List (Path × Node)}
    (short : ∀ e ∈ row, e.1.length < levels) (i : Nat) :
    ∀ e ∈ inChild i row, e.1.length < levels + 1 := by
  rintro ⟨p, m⟩ member
  obtain ⟨q, held, rfl⟩ := mem_inChild.mp member
  exact Nat.succ_lt_succ (short (q, m) held)

section rowsBelow

variable {f : Node → List (Path × Node)}

theorem mem_rowsBelow {i : Nat} {children : List Child} {p : Path} {m : Node} :
    (p, m) ∈ rowsBelow f i children ↔
      ∃ k c q, children[k]? = some c ∧ (q, m) ∈ f c.node ∧ p = (i + k) :: q := by
  induction children generalizing i with
  | nil => simp [rowsBelow]
  | cons c rest ih =>
    rw [rowsBelow, List.mem_append, ih, mem_inChild]
    constructor
    · rintro (⟨q, held, rfl⟩ | ⟨k, c', q, there, held, rfl⟩)
      · exact ⟨0, c, q, rfl, held, rfl⟩
      · exact ⟨k + 1, c', q, there, held, by rw [Nat.add_right_comm, Nat.add_assoc]⟩
    · rintro ⟨k, c', q, there, held, rfl⟩
      cases k with
      | zero =>
        cases there
        exact .inl ⟨q, held, rfl⟩
      | succ k => exact .inr ⟨k, c', q, there, held, by rw [Nat.add_right_comm, Nat.add_assoc]⟩

theorem ordered_rowsBelow (ordered : ∀ n, ((f n).map Prod.fst).Pairwise (· < ·)) (i : Nat)
    (children : List Child) : ((rowsBelow f i children).map Prod.fst).Pairwise (· < ·) := by
  induction children generalizing i with
  | nil => exact List.Pairwise.nil
  | cons c rest ih =>
    rw [rowsBelow, List.map_append, inChild, List.map_map]
    refine List.pairwise_append.mpr ⟨?_, ih (i + 1), ?_⟩
    · refine List.pairwise_map.mpr ((List.pairwise_map.mp (ordered c.node)).imp ?_)
      intro e e' before
      exact List.cons_lt_cons_iff.mpr (.inr ⟨rfl, before⟩)
    · intro p first q later
      obtain ⟨e, -, rfl⟩ := List.mem_map.mp first
      obtain ⟨⟨q, m⟩, held, rfl⟩ := List.mem_map.mp later
      obtain ⟨k, c', q', -, -, rfl⟩ := mem_rowsBelow.mp held
      exact List.cons_lt_cons_iff.mpr (.inl (by omega))

end rowsBelow

theorem mem_row {levels : Nat} {n m : Node} {p : Path} :
    (p, m) ∈ d.row levels n ↔ d.nodeAt? n p = some m ∧ p.length ≤ levels := by
  induction levels generalizing n p with
  | zero =>
    constructor
    · intro held
      cases List.mem_singleton.mp held
      exact ⟨rfl, Nat.le_refl 0⟩
    · rintro ⟨there, short⟩
      obtain rfl := List.eq_nil_of_length_eq_zero (Nat.le_zero.mp short)
      cases there
      exact List.mem_singleton_self _
  | succ levels ih =>
    rw [row, List.mem_cons, mem_rowsBelow]
    constructor
    · rintro (same | ⟨k, c, q, child, held, rfl⟩)
      · cases same
        exact ⟨rfl, Nat.zero_le _⟩
      · obtain ⟨there, short⟩ := ih.mp held
        refine ⟨?_, Nat.succ_le_succ short⟩
        rw [nodeAt?, Nat.zero_add, child]
        exact there
    · rintro ⟨there, short⟩
      cases p with
      | nil =>
        cases there
        exact .inl rfl
      | cons k p =>
        obtain ⟨c, child, there⟩ := Option.bind_eq_some_iff.mp there
        have held := ih.mpr ⟨there, Nat.le_of_succ_le_succ short⟩
        exact .inr ⟨k, c, p, child, held, by rw [Nat.zero_add]⟩

theorem ordered_row (levels : Nat) (n : Node) :
    ((d.row levels n).map Prod.fst).Pairwise (· < ·) := by
  induction levels generalizing n with
  | zero => exact List.pairwise_singleton _ _
  | succ levels ih =>
    refine List.pairwise_cons.mpr ⟨?_, ordered_rowsBelow ih 0 (d.children n)⟩
    intro p below
    obtain ⟨⟨p, m⟩, held, rfl⟩ := List.mem_map.mp below
    obtain ⟨k, c, q, -, -, rfl⟩ := mem_rowsBelow.mp held
    exact List.nil_lt_cons _ _

/-! ### The first node that is too deep -/

/-- A row is cut in front of its first path of so many steps. -/
structure Cut (levels : Nat) (whole : List (Path × Node)) (q : Path) (met : List (Path × Node)) :
    Prop where
  split : ∃ m later, whole = met ++ (q, m) :: later
  deep : q.length = levels
  shallow : ∀ e ∈ met, e.1.length < levels

theorem Cut.cons {levels : Nat} {whole met : List (Path × Node)} {q : Path}
    (cut : Cut levels whole q met) {e : Path × Node} (short : e.1.length < levels) :
    Cut levels (e :: whole) q (e :: met) := by
  obtain ⟨⟨m, later, rfl⟩, deep, shallow⟩ := cut
  refine ⟨⟨m, later, rfl⟩, deep, ?_⟩
  intro e' member
  rcases List.mem_cons.mp member with rfl | member
  · exact short
  · exact shallow e' member

/-- The first child already has a node that is too deep. -/
theorem Cut.within {levels : Nat} {whole met : List (Path × Node)} {q : Path}
    (cut : Cut levels whole q met) (i : Nat) (others : List (Path × Node)) :
    Cut (levels + 1) (inChild i whole ++ others) (i :: q) (inChild i met) := by
  obtain ⟨⟨m, later, rfl⟩, deep, shallow⟩ := cut
  refine ⟨⟨m, inChild i later ++ others, by simp [inChild]⟩, ?_, shallow_inChild shallow i⟩
  rw [List.length_cons, deep]

/-- All of the first child is within the levels. -/
theorem Cut.beyond {levels : Nat} {whole met first : List (Path × Node)} {q : Path}
    (cut : Cut levels whole q met) (short : ∀ e ∈ first, e.1.length < levels) :
    Cut levels (first ++ whole) q (first ++ met) := by
  obtain ⟨⟨m, later, rfl⟩, deep, shallow⟩ := cut
  refine ⟨⟨m, later, (List.append_assoc _ _ _).symm⟩, deep, ?_⟩
  intro e member
  rcases List.mem_append.mp member with held | held
  · exact short e held
  · exact shallow e held

variable {levels : Nat} {n : Node} {q : Path} {met : List (Path × Node)}

theorem Cut.reached (cut : Cut levels (d.row levels n) q met) :
    (d.nodeAt? n q).isSome = true := by
  obtain ⟨m, later, split⟩ := cut.split
  have held : (q, m) ∈ d.row levels n := by simp [split]
  rw [(mem_row.mp held).1]
  rfl

theorem Cut.before (cut : Cut levels (d.row levels n) q met) {p : Path} {m : Node}
    (held : (p, m) ∈ met) : d.nodeAt? n p = some m ∧ p < q := by
  obtain ⟨m', later, split⟩ := cut.split
  have inRow : (p, m) ∈ d.row levels n := by simp [split, held]
  have ordered := ordered_row (d := d) levels n
  rw [split, List.map_append, List.map_cons] at ordered
  have apart := (List.pairwise_append.mp ordered).2.2
  exact ⟨(mem_row.mp inRow).1, apart p (List.mem_map_of_mem held) q List.mem_cons_self⟩

/-- What is in the row stands before the cut, at it or behind it. -/
theorem Cut.compare (cut : Cut levels (d.row levels n) q met) {p : Path} {m : Node}
    (held : (p, m) ∈ d.row levels n) : (p, m) ∈ met ∨ q ≤ p := by
  obtain ⟨m', later, split⟩ := cut.split
  have ordered := ordered_row (d := d) levels n
  rw [split, List.map_append, List.map_cons] at ordered
  have behind := (List.pairwise_append.mp ordered).2.1
  rw [split, List.mem_append, List.mem_cons] at held
  rcases held with held | same | held
  · exact .inl held
  · cases same
    exact .inr le_rfl
  · have later := (List.pairwise_cons.mp behind).1 p (List.mem_map_of_mem held)
    exact .inr later.le

/-- A node below the levels lies below one of the last row, which is not before the cut. -/
theorem Cut.first (cut : Cut levels (d.row levels n) q met) {p : Path}
    (reached : (d.nodeAt? n p).isSome = true) (deep : levels ≤ p.length) : q ≤ p := by
  have length : (p.take levels).length = levels := by rw [List.length_take, Nat.min_eq_left deep]
  obtain ⟨m, there⟩ := Option.isSome_iff_exists.mp (nodeAt?_take reached levels)
  have held : (p.take levels, m) ∈ d.row levels n := mem_row.mpr ⟨there, Nat.le_of_eq length⟩
  have above : p.take levels ≤ p := not_lt.mp (List.IsPrefix.le (List.take_prefix levels p))
  rcases cut.compare held with before | behind
  · have short : (p.take levels).length < levels := cut.shallow _ before
    omega
  · exact behind.trans above

theorem Cut.firstBelow {limit : Int} (cut : Cut limit.toNat (d.row limit.toNat n) q met)
    (positive : 0 ≤ limit) : d.FirstBelow limit n q where
  reached := cut.reached
  deep := by
    have length := cut.deep
    omega
  first p reached below := cut.first reached (by omega)

theorem Cut.listsBefore (cut : Cut levels (d.row levels n) q met) : d.ListsBefore n q met where
  ordered := by
    obtain ⟨m, later, split⟩ := cut.split
    have ordered := ordered_row (d := d) levels n
    rw [split, List.map_append] at ordered
    exact (List.pairwise_append.mp ordered).1
  mem_iff p m := by
    constructor
    · exact cut.before
    · rintro ⟨there, before⟩
      have reached : (d.nodeAt? n p).isSome = true := Option.isSome_of_eq_some there
      have short : p.length ≤ levels := by
        by_cases long : levels ≤ p.length
        · exact absurd before (not_lt.mpr (cut.first reached long))
        · omega
      rcases cut.compare (mem_row.mpr ⟨there, short⟩) with held | behind
      · exact held
      · exact absurd before (not_lt.mpr behind)

end Dialect

end SqlSyntax
