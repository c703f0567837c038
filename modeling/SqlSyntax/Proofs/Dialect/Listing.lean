import Mathlib.Data.List.Nodup
import Mathlib.Data.String.Basic
import SqlSyntax.Dialect.Files

/-!
# The names in a directory

A tree of files is proper if it has each path once, with every step back taken. Writing a file and
making a directory keep it so, and the names in a directory of a proper tree are then what lies
directly below it, each once and in order.
-/

namespace SqlSyntax.Files

/-- Each path stands once and leads straight down. -/
structure Proper (fs : Files) : Prop where
  distinct : (fs.map Prod.fst).Nodup
  straight : ∀ path ∈ fs.map Prod.fst, ".." ∉ path

/-- A tree of files that is proper. -/
abbrev Tree := { fs : Files // fs.Proper }

variable {fs made : Files} {path done rest : List String} {name text : String} {e : FileEntry}

/-! ### Paths -/

theorem straight_steps {done : List String} (straight : ".." ∉ done) :
    ".." ∉ path.foldl (fun done name => if name = ".." then done.drop 1 else name :: done)
      done := by
  induction path generalizing done with
  | nil => exact straight
  | cons name rest ih =>
    rw [List.foldl_cons]
    apply ih
    split
    · exact fun member => straight (List.mem_of_mem_drop member)
    · rename_i forward
      simp [straight, Ne.symm forward]

theorem straight_resolved (path : List String) : ".." ∉ resolved path := by
  rw [resolved, List.mem_reverse]
  exact straight_steps List.not_mem_nil

theorem resolved_concat (path : List String) (forward : name ≠ "..") :
    resolved (path ++ [name]) = resolved path ++ [name] := by
  simp [resolved, List.foldl_append, forward]

theorem item?_concat (fs : Files) (path : List String) (forward : name ≠ "..") :
    fs.item? (path ++ [name]) = fs.lookup (resolved path ++ [name]) := by
  rw [item?, resolved_concat path forward]
  split
  · rename_i empty
    simp at empty
  · rfl

/-! ### Proper trees -/

theorem Proper.nil : Proper [] :=
  ⟨List.nodup_nil, by simp⟩

theorem Proper.put (proper : fs.Proper) (straight : ".." ∉ path) : (fs.put path e).Proper := by
  have others : (fs.filter fun old => old.1 != path).map Prod.fst =
      (fs.map Prod.fst).filter (· != path) := by
    rw [List.filter_map]
    rfl
  constructor
  · rw [Files.put, List.map_cons, others, List.nodup_cons]
    exact ⟨by simp, proper.distinct.filter _⟩
  · intro other member
    rw [Files.put, List.map_cons, others] at member
    rcases List.mem_cons.mp member with rfl | member
    · exact straight
    · exact proper.straight other (List.mem_of_mem_filter member)

theorem Proper.makeFrom (proper : fs.Proper) (behind : ".." ∉ done) (ahead : ".." ∉ rest)
    (ok : fs.makeFrom done rest = .ok made) : made.Proper := by
  induction rest generalizing fs done with
  | nil =>
    obtain rfl : fs = made := by simpa [Files.makeFrom] using ok
    exact proper
  | cons name rest ih =>
    obtain ⟨forward, ahead⟩ := not_or.mp (mt List.mem_cons.mpr ahead)
    have behind : ".." ∉ done ++ [name] := by simp [behind, forward]
    rw [Files.makeFrom] at ok
    split at ok
    · simp at ok
    · exact ih proper behind ahead ok
    · exact ih (proper.put behind) behind ahead ok

theorem Proper.makeDirectory (proper : fs.Proper) (ok : fs.makeDirectory path = .ok made) :
    made.Proper :=
  proper.makeFrom List.not_mem_nil (straight_resolved path) ok

theorem Proper.write (proper : fs.Proper) (ok : fs.write path text = .ok made) : made.Proper := by
  rw [Files.write] at ok
  split at ok
  · simp at ok
  · rename_i between reached
    have proper : between.Proper := proper.makeDirectory reached
    split at ok
    · simp at ok
    · obtain rfl : between.put (resolved path) (.file text) = made := by simpa using ok
      exact proper.put (straight_resolved path)

/-! ### Names -/

/-- The last name of a path directly below another. -/
def nameBelow? (path below : List String) : Option String :=
  if below.dropLast = path then below.getLast? else none

theorem nameBelow?_eq_some_iff {below : List String} :
    nameBelow? path below = some name ↔ below = path ++ [name] := by
  rw [nameBelow?]
  constructor
  · intro found
    split at found
    · rename_i same
      rw [← List.dropLast_append_getLast? name found, same]
    · simp at found
  · rintro rfl
    simp

theorem names_eq (fs : Files) (path : List String) :
    fs.names path =
      ((fs.map Prod.fst).filterMap (nameBelow? (resolved path))).mergeSort
        fun a b => decide (a ≤ b) := by
  rw [names, List.filterMap_map]
  rfl

theorem mem_names_iff : name ∈ fs.names path ↔ resolved path ++ [name] ∈ fs.map Prod.fst := by
  rw [names_eq, List.mem_mergeSort, List.mem_filterMap]
  simp only [nameBelow?_eq_some_iff, exists_eq_right]

/-- Sorted by a total order, and each once: strictly in order. -/
theorem Proper.names_ordered (proper : fs.Proper) (path : List String) :
    (fs.names path).Pairwise (· < ·) := by
  have once : (fs.names path).Nodup := by
    rw [names_eq, (List.mergeSort_perm _ _).nodup_iff]
    apply proper.distinct.filterMap
    intro a b name first second
    rw [nameBelow?_eq_some_iff.mp first, nameBelow?_eq_some_iff.mp second]
  have sorted : (fs.names path).Pairwise (· ≤ ·) := by
    rw [names_eq]
    refine (List.pairwise_mergeSort ?_ ?_ _).imp of_decide_eq_true
    · intro a b c first second
      exact decide_eq_true (le_trans (of_decide_eq_true first) (of_decide_eq_true second))
    · intro a b
      simpa using le_total a b
  exact (sorted.and once).imp fun both => lt_of_le_of_ne both.1 both.2

theorem Proper.mem_names_iff_item? (proper : fs.Proper) :
    name ∈ fs.names path ↔ name ≠ ".." ∧ (fs.item? (path ++ [name])).isSome := by
  rw [mem_names_iff]
  constructor
  · intro member
    have forward : name ≠ ".." := by
      rintro rfl
      exact proper.straight _ member (by simp)
    rw [item?_concat fs path forward]
    exact ⟨forward, by simpa [List.lookup_isSome_iff] using member⟩
  · rintro ⟨forward, present⟩
    rw [item?_concat fs path forward] at present
    simpa [List.lookup_isSome_iff] using present

end SqlSyntax.Files
