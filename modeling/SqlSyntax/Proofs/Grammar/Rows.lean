import SqlSyntax.Grammar.Automaton

/-!
# Rows of an automaton

A row expects a terminal exactly if it has an action for it. A check of all rows, which can be
computed, says something of every state.
-/

namespace SqlSyntax

namespace TerminalSet

theorem contains_insert (s : TerminalSet) (t u : Terminal) :
    (s.insert t).contains u = (s.contains u || t.ctorIdx == u.ctorIdx) := by
  simp only [insert, contains, Nat.testBit_or, Nat.one_shiftLeft, Nat.testBit_two_pow]
  rfl

theorem contains_union (s t : TerminalSet) (u : Terminal) :
    (s.union t).contains u = (s.contains u || t.contains u) := by
  simp only [union, contains, Nat.testBit_or]

theorem contains_empty (u : Terminal) : empty.contains u = false := by
  simp [empty, contains]

theorem ctorIdx_inj {t u : Terminal} (same : t.ctorIdx = u.ctorIdx) : t = u := by
  rw [← Terminal.ofNat_ctorIdx t, same, Terminal.ofNat_ctorIdx]

theorem contains_insert_iff (s : TerminalSet) (t u : Terminal) :
    (s.insert t).contains u = true ↔ s.contains u = true ∨ u = t := by
  rw [contains_insert, Bool.or_eq_true, beq_iff_eq]
  exact or_congr_right ⟨fun same => (ctorIdx_inj same).symm, fun same => by rw [same]⟩

theorem contains_ofList_iff (ts : List Terminal) (u : Terminal) :
    (ofList ts).contains u = true ↔ u ∈ ts := by
  have grows (s : TerminalSet) : (ts.foldl insert s).contains u = true ↔
      s.contains u = true ∨ u ∈ ts := by
    induction ts generalizing s with
    | nil => simp
    | cons t ts ih => rw [List.foldl_cons, ih, contains_insert_iff, List.mem_cons, or_assoc]
  rw [ofList, grows, contains_empty]
  simp

theorem contains_foldl_union_iff (sets : List TerminalSet) (s : TerminalSet) (u : Terminal) :
    (sets.foldl union s).contains u = true ↔
      s.contains u = true ∨ ∃ set ∈ sets, set.contains u = true := by
  induction sets generalizing s with
  | nil => simp
  | cons set sets ih =>
    rw [List.foldl_cons, ih, contains_union, Bool.or_eq_true]
    simp [or_assoc]

end TerminalSet

namespace Grammar

theorem mem_of_lookup {α β : Type} [BEq α] [LawfulBEq α] {l : List (α × β)} {k : α} {b : β}
    (found : l.lookup k = some b) : (k, b) ∈ l := by
  obtain ⟨before, behind, rfl, _⟩ := List.lookup_eq_some_iff.mp found
  exact List.mem_append_right before List.mem_cons_self

namespace Row

theorem mem_reductions_of_action? {r : Row} {t : Terminal} {p : Production}
    (act : r.action? t = some (.reduce p)) :
    ∃ set, (p, set) ∈ r.reductions ∧ set.contains t = true := by
  unfold action? at act
  split at act
  · cases act
  · obtain ⟨e, found, same⟩ := Option.map_eq_some_iff.mp act
    cases same
    exact ⟨e.2, List.mem_of_find?_eq_some found, by simpa using List.find?_some found⟩

theorem contains_expected_iff (r : Row) (t : Terminal) :
    r.expected.contains t = true ↔ (r.action? t).isSome = true := by
  rw [expected, TerminalSet.contains_foldl_union_iff, TerminalSet.contains_ofList_iff]
  unfold action?
  constructor
  · intro member
    split
    · rfl
    · rename_i absent
      rw [Option.isSome_map, List.find?_isSome]
      obtain shifted | ⟨set, member, holds⟩ := member
      · obtain ⟨⟨s, target⟩, member, rfl⟩ := List.mem_map.mp shifted
        have := List.lookup_eq_none_iff.mp absent _ member
        simp at this
      · obtain ⟨e, listed, rfl⟩ := List.mem_map.mp member
        exact ⟨e, listed, holds⟩
  · intro acts
    split at acts
    · rename_i target found
      exact .inl (List.mem_map_of_mem (mem_of_lookup found))
    · rw [Option.isSome_map, List.find?_isSome] at acts
      obtain ⟨e, member, holds⟩ := acts
      exact .inr ⟨e.2, List.mem_map_of_mem member, holds⟩

end Row

namespace Automaton

/-- Every row with its state passes the check. -/
def all (a : Automaton) (check : Nat → Row → Bool) : Bool :=
  a.blocks.toList.zipIdx.all fun (block, i) =>
    block.toList.zipIdx.all fun (row, j) => check (i * blockSize + j) row

theorem check_of_all {a : Automaton} {check : Nat → Row → Bool} (passes : a.all check = true)
    {state : Nat} {row : Row} (found : a.row? state = some row) : check state row = true := by
  unfold row? at found
  split at found
  · rename_i block listed
    have outer := List.all_eq_true.mp passes (block, state / blockSize)
      (List.mk_mem_zipIdx_iff_getElem?.mpr (by rwa [Array.getElem?_toList]))
    have inner := List.all_eq_true.mp outer (row, state % blockSize)
      (List.mk_mem_zipIdx_iff_getElem?.mpr (by rwa [Array.getElem?_toList]))
    dsimp only at inner
    rwa [Nat.div_add_mod'] at inner
  · cases found

end Automaton

end Grammar

end SqlSyntax
