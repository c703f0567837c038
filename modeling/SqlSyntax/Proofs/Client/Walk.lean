import SqlSyntax.Proofs.Client.Nodes

/-!
# The walk with a stack

A walk keeps the nodes that it has yet to tell on a stack. Each round takes the last of them, tells
it and pushes its children in reverse, so that the first child is the next to be taken. The stack
may grow in a round, but the number of nodes on it and below goes down by one. Whoever asks for the
nodes may stop at any time, so rounds that leave something on the stack are considered as well.
-/

namespace SqlSyntax.View

/-! ### Rounds -/

/-- Some rounds of a walk: the stack before them, what they tell, and the stack after them. -/
inductive Rounds : List View → List View → List View → Prop
  | stop (stack : List View) : Rounds stack [] stack
  | take {rest told left : List View} {v : View}
      (more : Rounds (rest ++ v.children.reverse) told left) : Rounds (rest ++ [v]) (v :: told) left

variable {stack told left : List View} {v : View}

theorem size_eq (v : View) : v.size = sizes v.children + 1 := by
  cases v
  rfl

theorem sizes_reverse (views : List View) : sizes views.reverse = sizes views := by
  induction views with
  | nil => rfl
  | cons v rest ih =>
    rw [List.reverse_cons, sizes_append, ih]
    simp only [sizes]
    omega

theorem Rounds.length_add_sizes (rounds : Rounds stack told left) :
    told.length + sizes left = sizes stack := by
  induction rounds with
  | stop stack => exact Nat.zero_add _
  | @take rest told left v more ih =>
    rw [sizes_append, sizes_reverse] at ih
    rw [sizes_append, List.length_cons]
    simp only [sizes, size_eq v]
    omega

/-- What was told and what the stack has still to tell make up the whole walk. -/
theorem Rounds.told_append (rounds : Rounds stack told left) :
    told ++ walk left.reverse = walk stack.reverse := by
  induction rounds with
  | stop stack => rfl
  | @take rest told left v more ih =>
    rw [List.reverse_append, List.reverse_reverse] at ih
    rw [List.reverse_append, List.reverse_singleton, List.singleton_append, walk, ← ih]
    rfl

/-- The walk itself is told in rounds, until the stack is empty. -/
theorem rounds_walk (stack : List View) : Rounds stack.reverse (walk stack) [] := by
  fun_induction walk stack with
  | case1 => exact .stop []
  | case2 v rest ih =>
    rw [List.reverse_append] at ih
    rw [List.reverse_cons]
    exact .take ih

theorem rounds_iff : Rounds [v] told [] ↔ told = walk [v] := by
  constructor
  · intro rounds
    have whole := rounds.told_append
    rwa [List.reverse_nil, walk, List.append_nil] at whole
  · rintro rfl
    exact rounds_walk [v]

/-! ### Every node at its path -/

mutual

/-- The nodes of a tree with the paths to them. -/
def row : View → List (Path × View)
  | ⟨type, text, children, data, degraded⟩ =>
    ([], ⟨type, text, children, data, degraded⟩) :: rows 0 children

/-- The rows of children one after the other, the first of which is number `i`. -/
def rows : Nat → List View → List (Path × View)
  | _, [] => []
  | i, v :: rest => (row v).map (fun e => (i :: e.1, e.2)) ++ rows (i + 1) rest

end

/-- The row has every node of the tree, each once and in the order of the paths. -/
structure Lists (v : View) (row : List (Path × View)) : Prop where
  ordered : (row.map Prod.fst).Pairwise (· < ·)
  mem_iff : ∀ p w, (p, w) ∈ row ↔ v.viewAt? p = some w

theorem row_eq (v : View) : v.row = ([], v) :: rows 0 v.children := by
  cases v
  rfl

mutual

theorem map_snd_row : ∀ v : View, v.row.map Prod.snd = v.preorder
  | ⟨_, _, children, _, _⟩ => by
    rw [row, preorder, List.map_cons, map_snd_rows 0 children]

theorem map_snd_rows : ∀ (i : Nat) (views : List View), (rows i views).map Prod.snd =
    preorders views
  | _, [] => rfl
  | i, v :: rest => by
    rw [rows, preorders, List.map_append, List.map_map, map_snd_rows (i + 1) rest, ← map_snd_row v]
    rfl

end

/-- The rows of children that each have their own nodes. -/
theorem mem_rows {views : List View} (lists : ∀ v ∈ views, v.Lists v.row) {i : Nat} {p : Path}
    {w : View} :
    (p, w) ∈ rows i views ↔ ∃ k q, p = (i + k) :: q ∧
      (views[k]?.bind fun v => v.viewAt? q) = some w := by
  induction views generalizing i with
  | nil => simp [rows]
  | cons v rest ih =>
    rw [rows, List.mem_append, ih fun u later => lists u (List.mem_cons_of_mem v later)]
    constructor
    · rintro (first | ⟨k, q, rfl, there⟩)
      · obtain ⟨⟨q, u⟩, held, same⟩ := List.mem_map.mp first
        obtain ⟨rfl, rfl⟩ := Prod.mk.inj same
        exact ⟨0, q, rfl, ((lists v List.mem_cons_self).mem_iff q u).mp held⟩
      · exact ⟨k + 1, q, by rw [Nat.add_right_comm, Nat.add_assoc], there⟩
    · rintro ⟨k, q, rfl, there⟩
      cases k with
      | zero =>
        have held : (q, w) ∈ v.row := ((lists v List.mem_cons_self).mem_iff q w).mpr there
        exact .inl (List.mem_map_of_mem (f := fun e => (i :: e.1, e.2)) held)
      | succ k => exact .inr ⟨k, q, by rw [Nat.add_right_comm, Nat.add_assoc], there⟩

theorem ordered_rows {views : List View} (lists : ∀ v ∈ views, v.Lists v.row) (i : Nat) :
    ((rows i views).map Prod.fst).Pairwise (· < ·) := by
  induction views generalizing i with
  | nil => exact List.Pairwise.nil
  | cons v rest ih =>
    have later : ∀ u ∈ rest, u.Lists u.row := fun u held => lists u (List.mem_cons_of_mem v held)
    rw [rows, List.map_append, List.map_map]
    refine List.pairwise_append.mpr ⟨?_, ih later (i + 1), ?_⟩
    · refine List.pairwise_map.mpr
        ((List.pairwise_map.mp (lists v List.mem_cons_self).ordered).imp ?_)
      intro e e' before
      exact List.cons_lt_cons_iff.mpr (.inr ⟨rfl, before⟩)
    · intro p first q behind
      obtain ⟨e, -, rfl⟩ := List.mem_map.mp first
      obtain ⟨⟨q, w⟩, held, rfl⟩ := List.mem_map.mp behind
      obtain ⟨k, q', rfl, -⟩ := (mem_rows later).mp held
      exact List.cons_lt_cons_iff.mpr (.inl (by omega))

/-- A node comes before all that is below it, and the children are in order. -/
theorem lists_of_children (lists : ∀ w ∈ v.children, w.Lists w.row) : v.Lists v.row where
  ordered := by
    rw [row_eq]
    refine List.pairwise_cons.mpr ⟨?_, ordered_rows lists 0⟩
    intro p below
    obtain ⟨⟨p, w⟩, held, rfl⟩ := List.mem_map.mp below
    obtain ⟨k, q, rfl, -⟩ := (mem_rows lists).mp held
    exact List.nil_lt_cons _ _
  mem_iff p w := by
    rw [row_eq, List.mem_cons, mem_rows lists]
    cases p with
    | nil => simp [viewAt?, eq_comm]
    | cons k q => simp [viewAt?]

mutual

theorem lists_row : ∀ v : View, v.Lists v.row
  | ⟨_, _, children, _, _⟩ => lists_of_children (lists_rows children)

theorem lists_rows : ∀ (views : List View), ∀ v ∈ views, v.Lists v.row
  | [], _, held => absurd held List.not_mem_nil
  | v :: rest, w, held =>
    (List.mem_cons.mp held).elim (fun same => same ▸ lists_row v) (lists_rows rest w)

end

/-! ### The walk of a query -/

/-- The walk with a stack against the tree that it walks through. -/
structure WalksThrough (v : View) : Prop where
  /-- The node is told first, and then what the walks of its children tell. -/
  preorder : walk [v] = v.preorder
  /-- Every node is told once, before all that is below it, and siblings in order. -/
  lists : ∃ row, v.Lists row ∧ walk [v] = row.map Prod.snd
  /-- Every round tells a node, and the rounds that are left tell the others. -/
  rounds : ∀ told left, Rounds [v] told left →
    told ++ walk left.reverse = walk [v] ∧ told.length + sizes left = v.size
  ends : ∀ told, Rounds [v] told [] ↔ told = walk [v]

end View

/-- Walks end and are in pre-order, and a query is walked through statement by statement. -/
theorem Query.walks_in_preorder :
    (∀ v : View, v.WalksThrough) ∧ ∀ q : Query, q.nodes = q.trees.flatMap View.preorder := by
  refine ⟨fun v => ⟨View.walk_singleton v, ?_, ?_, fun _ => View.rounds_iff⟩, ?_⟩
  · exact ⟨v.row, View.lists_row v, by rw [View.walk_singleton, View.map_snd_row]⟩
  · intro told left rounds
    refine ⟨rounds.told_append, ?_⟩
    rw [rounds.length_add_sizes, View.sizes, View.sizes, Nat.add_zero]
  · intro q
    rw [Query.nodes_eq_preorders, View.flatMap_preorder]

end SqlSyntax
