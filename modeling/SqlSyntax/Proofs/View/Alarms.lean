import SqlSyntax.Proofs.View.Paths

/-!
# What ends a walk

Two things end a walk before it has a view to give: a node below its limit, and a dialect that fails
at a node. Such a failure comes behind the children that were found there and has the path of the
child that would be the next. Paths are ordered as a walk takes them, so it ends with the least one.
-/

namespace SqlSyntax

/-- The row fails with its first failure. -/
theorem mapM_eq_error_iff {α β ε : Type} {f : α → Except ε β} {as : List α} {e : ε} :
    as.mapM f = .error e ↔
      ∃ before a behind, as = before ++ a :: behind ∧ (∀ b ∈ before, ∃ v, f b = .ok v) ∧
        f a = .error e := by
  induction as with
  | nil =>
    constructor
    · intro impossible
      cases impossible
    · rintro ⟨before, a, behind, split, -⟩
      simp at split
  | cons a as ih =>
    rw [List.mapM_cons]
    cases first : f a with
    | error e' =>
      constructor
      · intro same
        cases Except.error.inj same
        exact ⟨[], a, as, rfl, nofun, first⟩
      · rintro ⟨before, a', behind, split, sound, fails⟩
        cases before with
        | nil =>
          obtain ⟨rfl, rfl⟩ := List.cons.inj split
          rw [first] at fails
          cases fails
          rfl
        | cons b before =>
          obtain ⟨rfl, -⟩ := List.cons.inj split
          obtain ⟨v, read⟩ := sound a List.mem_cons_self
          rw [first] at read
          cases read
    | ok b =>
      have onward : (do let bs ← as.mapM f; pure (b :: bs)) = .error e ↔ as.mapM f = .error e := by
        cases as.mapM f with
        | error e' => exact ⟨fun same => congrArg Except.error (Except.error.inj same),
            fun same => congrArg Except.error (Except.error.inj same)⟩
        | ok bs => exact ⟨nofun, nofun⟩
      refine onward.trans (ih.trans ⟨?_, ?_⟩)
      · rintro ⟨before, a', behind, rfl, sound, fails⟩
        exact ⟨a :: before, a', behind, rfl, List.forall_mem_cons.mpr ⟨⟨b, first⟩, sound⟩, fails⟩
      · rintro ⟨before, a', behind, split, sound, fails⟩
        cases before with
        | nil =>
          obtain ⟨rfl, rfl⟩ := List.cons.inj split
          rw [first] at fails
          cases fails
        | cons b' before =>
          obtain ⟨rfl, rfl⟩ := List.cons.inj split
          exact ⟨before, a', behind, rfl, (List.forall_mem_cons.mp sound).2, fails⟩

theorem exists_mapM_eq_ok_iff {α β ε : Type} {f : α → Except ε β} {as : List α} :
    (∃ bs, as.mapM f = .ok bs) ↔ ∀ a ∈ as, ∃ b, f a = .ok b := by
  induction as with
  | nil => exact ⟨nofun, fun _ => ⟨[], rfl⟩⟩
  | cons a as ih =>
    rw [List.mapM_cons, List.forall_mem_cons, ← ih]
    cases f a with
    | error e => exact ⟨nofun, nofun⟩
    | ok b =>
      cases as.mapM f with
      | error e => exact ⟨nofun, nofun⟩
      | ok bs => exact ⟨fun _ => ⟨⟨b, rfl⟩, bs, rfl⟩, fun _ => ⟨b :: bs, rfl⟩⟩

namespace Dialect

/-- What ends a walk with so many levels left that comes to the path. -/
inductive Alarm (d : Dialect) (limit : Int) (budget : Nat) (n : Node) : Path → Walk.Stop → Prop
  | below {q : Path} (reached : (d.nodeAt? n q).isSome = true) (deep : budget ≤ q.length) :
      Alarm d limit budget n q (.below limit)
  | defect {q : Path} {m : Node} {fault : Fault} (reached : d.nodeAt? n q = some m)
      (fails : d.defect? m = some fault) :
      Alarm d limit budget n (q ++ [(d.children m).length]) (.crashed fault)

/-- The first thing that a walk meets and that ends it. -/
structure FirstAlarm (d : Dialect) (limit : Int) (budget : Nat) (n : Node) (q : Path)
    (stop : Walk.Stop) : Prop where
  rings : d.Alarm limit budget n q stop
  first : ∀ p other, d.Alarm limit budget n p other → q ≤ p

variable {d : Dialect} {limit : Int} {budget : Nat} {n : Node} {q : Path} {stop : Walk.Stop}

/-- There is nothing at the path of the child behind the last one. -/
theorem nodeAt?_behind {m : Node} (reached : d.nodeAt? n q = some m) :
    d.nodeAt? n (q ++ [(d.children m).length]) = none := by
  simp [nodeAt?_append, reached, nodeAt?]

theorem Alarm.unique {other : Walk.Stop} (rings : d.Alarm limit budget n q stop)
    (again : d.Alarm limit budget n q other) : stop = other := by
  cases rings with
  | below reached =>
    generalize same : q = p at again
    cases again with
    | below => rfl
    | defect there =>
      rw [same, nodeAt?_behind there] at reached
      cases reached
  | @defect q m fault there fails =>
    generalize same : q ++ [(d.children m).length] = p at again
    cases again with
    | below reached =>
      rw [← same, nodeAt?_behind there] at reached
      cases reached
    | defect there' fails' =>
      obtain ⟨rfl, -⟩ := List.append_inj' same rfl
      rw [there] at there'
      cases there'
      rw [fails] at fails'
      cases fails'
      rfl

theorem FirstAlarm.unique {p : Path} {other : Walk.Stop}
    (meets : d.FirstAlarm limit budget n q stop)
    (again : d.FirstAlarm limit budget n p other) : stop = other := by
  have same : q = p := le_antisymm (meets.first p other again.rings)
    (again.first q stop meets.rings)
  exact meets.rings.unique (same ▸ again.rings)

theorem firstAlarm_zero : d.FirstAlarm limit 0 n [] (.below limit) where
  rings := .below rfl (Nat.zero_le _)
  first p _ _ := not_lt.mp (List.not_lt_nil p)

/-- What ends a walk is below a child, or comes behind all of them. -/
theorem alarm_succ_iff :
    d.Alarm limit (budget + 1) n q stop ↔
      (∃ i c p, (d.children n)[i]? = some c ∧ d.Alarm limit budget c.node p stop ∧ q = i :: p) ∨
        ∃ fault, d.defect? n = some fault ∧ q = [(d.children n).length] ∧
          stop = .crashed fault := by
  constructor
  · intro rings
    cases rings with
    | below reached deep =>
      cases q with
      | nil => cases deep
      | cons i p =>
        obtain ⟨m, there⟩ := Option.isSome_iff_exists.mp reached
        obtain ⟨c, child, there⟩ := Option.bind_eq_some_iff.mp there
        exact .inl ⟨i, c, p, child,
          .below (Option.isSome_of_eq_some there) (Nat.le_of_succ_le_succ deep), rfl⟩
    | @defect q m fault there fails =>
      cases q with
      | nil =>
        cases there
        exact .inr ⟨fault, fails, rfl, rfl⟩
      | cons i p =>
        obtain ⟨c, child, there⟩ := Option.bind_eq_some_iff.mp there
        exact .inl ⟨i, c, _, child, .defect there fails, rfl⟩
  · rintro (⟨i, c, p, child, rings, rfl⟩ | ⟨fault, fails, rfl, rfl⟩)
    · cases rings with
      | below reached deep =>
        refine .below ?_ (Nat.succ_le_succ deep)
        rw [nodeAt?, child]
        exact reached
      | @defect p m fault there fails =>
        refine .defect (q := i :: p) ?_ fails
        rw [nodeAt?, child]
        exact there
    · exact .defect (q := []) rfl fails

theorem cons_le_cons {p : Path} (i : Nat) (before : q ≤ p) : i :: q ≤ i :: p := by
  rcases before.eq_or_lt with rfl | before
  · exact le_rfl
  · exact (List.cons_lt_cons_iff.mpr (.inr ⟨rfl, before⟩)).le

/-- What a walk meets first below a child comes first if the children before it are all silent. -/
theorem FirstAlarm.inChild {before behind : List Child} {c : Child}
    (split : d.children n = before ++ c :: behind)
    (silent : ∀ b ∈ before, ∀ p other, ¬ d.Alarm limit budget b.node p other)
    (meets : d.FirstAlarm limit budget c.node q stop) :
    d.FirstAlarm limit (budget + 1) n (before.length :: q) stop where
  rings := alarm_succ_iff.mpr (.inl ⟨_, c, q, by simp [split], meets.rings, rfl⟩)
  first p other rings := by
    rcases alarm_succ_iff.mp rings with ⟨i, b, p, child, within, rfl⟩ | ⟨fault, -, rfl, -⟩
    · rw [split] at child
      rcases lt_trichotomy i before.length with earlier | rfl | later
      · rw [List.getElem?_append_left earlier] at child
        exact absurd within (silent b (List.mem_of_getElem? child) p other)
      · simp only [List.getElem?_append_right le_rfl, Nat.sub_self, List.getElem?_cons_zero,
          Option.some.injEq] at child
        subst child
        exact cons_le_cons _ (meets.first p other within)
      · exact (List.cons_lt_cons_iff.mpr (.inl later)).le
    · refine (List.cons_lt_cons_iff.mpr (.inl ?_)).le
      simp [split]

theorem FirstAlarm.behind {fault : Fault} (fails : d.defect? n = some fault)
    (silent : ∀ c ∈ d.children n, ∀ p other, ¬ d.Alarm limit budget c.node p other) :
    d.FirstAlarm limit (budget + 1) n [(d.children n).length] (.crashed fault) where
  rings := alarm_succ_iff.mpr (.inr ⟨fault, fails, rfl, rfl⟩)
  first p other rings := by
    rcases alarm_succ_iff.mp rings with ⟨i, c, p, child, within, -⟩ | ⟨_, -, rfl, -⟩
    · exact absurd within (silent c (List.mem_of_getElem? child) p other)
    · exact le_rfl

end Dialect

namespace View

variable {d : Dialect} {limit : Int}

/-- By induction on the levels: a walk ends with the first alarm, and has a view if there is
none. -/
theorem outcome_cases (d : Dialect) (limit : Int) (budget : Nat) (n : Node) :
    ((∃ v, outcome d limit budget n = .ok v) ∧ ∀ q stop, ¬ d.Alarm limit budget n q stop) ∨
      ∃ q stop, outcome d limit budget n = .error stop ∧ d.FirstAlarm limit budget n q stop := by
  induction budget generalizing n with
  | zero => exact .inr ⟨[], .below limit, rfl, Dialect.firstAlarm_zero⟩
  | succ budget ih =>
    have silent (c : Child) (seen : ∃ v, outcome d limit budget c.node = .ok v) :
        ∀ q stop, ¬ d.Alarm limit budget c.node q stop := by
      obtain ⟨v, seen⟩ := seen
      rcases ih c.node with ⟨-, silent⟩ | ⟨q, stop, stops, -⟩
      · exact silent
      · rw [seen] at stops
        cases stops
    rw [outcome]
    cases walked : (d.children n).mapM fun c => outcome d limit budget c.node with
    | error stop =>
      obtain ⟨before, c, behind, split, seen, stops⟩ := mapM_eq_error_iff.mp walked
      rcases ih c.node with ⟨⟨v, seen⟩, -⟩ | ⟨q, other, stops', meets⟩
      · rw [stops] at seen
        cases seen
      · rw [stops] at stops'
        cases stops'
        exact .inr ⟨_, stop, rfl, meets.inChild split fun b member => silent b (seen b member)⟩
    | ok views =>
      have seen := exists_mapM_eq_ok_iff.mp ⟨views, walked⟩
      cases defect : d.defect? n with
      | some fault =>
        exact .inr ⟨_, _, rfl, .behind defect fun c member => silent c (seen c member)⟩
      | none =>
        refine .inl ⟨⟨_, rfl⟩, ?_⟩
        intro q stop rings
        rcases Dialect.alarm_succ_iff.mp rings with ⟨i, c, p, child, within, -⟩ | ⟨fault, fails, -⟩
        · exact silent c (seen c (List.mem_of_getElem? child)) p stop within
        · rw [defect] at fails
          cases fails

theorem outcome_eq_error_iff {budget : Nat} {n : Node} {stop : Walk.Stop} :
    outcome d limit budget n = .error stop ↔ ∃ q, d.FirstAlarm limit budget n q stop := by
  rcases outcome_cases d limit budget n with
    ⟨⟨v, seen⟩, silent⟩ | ⟨q, other, stops, meets⟩
  · rw [seen]
    constructor
    · intro impossible
      cases impossible
    · rintro ⟨q, meets⟩
      exact absurd meets.rings (silent q stop)
  · rw [stops]
    constructor
    · rintro ⟨⟩
      exact ⟨q, meets⟩
    · rintro ⟨p, again⟩
      rw [meets.unique again]

theorem exists_outcome_eq_ok_iff {budget : Nat} {n : Node} :
    (∃ v, outcome d limit budget n = .ok v) ↔ ∀ q stop, ¬ d.Alarm limit budget n q stop := by
  rcases outcome_cases d limit budget n with
    ⟨seen, silent⟩ | ⟨q, stop, stops, meets⟩
  · exact ⟨fun _ => silent, fun _ => seen⟩
  · rw [stops]
    exact ⟨nofun, fun silent => absurd meets.rings (silent q stop)⟩

/-- A walk that finds a tree too deep has met a node below its limit. -/
theorem exceeds_of_tooDeep {n : Node} {e : TooDeep}
    (stops : outcome d limit limit.toNat n = .error (.tooDeep e)) :
    e = ⟨limit⟩ ∧ d.Exceeds limit n := by
  obtain ⟨q, meets⟩ := outcome_eq_error_iff.mp stops
  generalize same : Walk.Stop.tooDeep e = stop at meets
  cases meets.rings with
  | below reached deep =>
    obtain ⟨m, there⟩ := Option.isSome_iff_exists.mp reached
    obtain ⟨trail, leads, length⟩ := Dialect.exists_leads_of_nodeAt? there
    refine ⟨?_, trail, m, leads, by omega⟩
    unfold Walk.Stop.below at same
    split at same
    · exact Walk.Stop.tooDeep.inj same
    · cases same
  | defect => cases same

end View

end SqlSyntax
