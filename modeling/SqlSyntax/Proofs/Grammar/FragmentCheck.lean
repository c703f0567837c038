import SqlSyntax.Proofs.Grammar.Derivation

/-!
# Checking a table against a fragment

The conditions under which an automaton reads a fragment are computed from its rows, for whole sets
of terminals at a time. What passes the check fits.
-/

namespace SqlSyntax

namespace TerminalSet

def within (s t : TerminalSet) : Bool :=
  s.bits &&& t.bits == s.bits

def disjoint (s t : TerminalSet) : Bool :=
  s.bits &&& t.bits == 0

theorem contains_of_within {s t : TerminalSet} (inside : s.within t = true) {u : Terminal}
    (member : s.contains u = true) : t.contains u = true := by
  have same : s.bits &&& t.bits = s.bits := by simpa [within] using inside
  have bit := congrArg (·.testBit u.ctorIdx) same
  simp only [Nat.testBit_and] at bit
  unfold contains at member ⊢
  rwa [member, Bool.true_and] at bit

theorem not_contains_of_disjoint {s t : TerminalSet} (apart : s.disjoint t = true) {u : Terminal}
    (member : s.contains u = true) : t.contains u = false := by
  have none : s.bits &&& t.bits = 0 := by simpa [disjoint] using apart
  have bit := congrArg (·.testBit u.ctorIdx) none
  simp only [Nat.testBit_and, Nat.zero_testBit] at bit
  unfold contains at member ⊢
  rwa [member, Bool.true_and] at bit

def inter (s t : TerminalSet) : TerminalSet :=
  ⟨s.bits &&& t.bits⟩

theorem contains_inter {s t : TerminalSet} {u : Terminal} (left : s.contains u = true)
    (right : t.contains u = true) : (s.inter t).contains u = true := by
  unfold contains inter at *
  rw [Nat.testBit_and, left, right]
  rfl

/-- All terminals. -/
def full : TerminalSet :=
  ⟨1 <<< 125 - 1⟩

theorem contains_full (u : Terminal) : full.contains u = true := by
  have bounded : u.ctorIdx < 125 := by cases u <;> decide
  simp only [full, contains, Nat.one_shiftLeft, Nat.testBit_two_pow_sub_one, bounded, decide_true]

end TerminalSet

namespace Grammar

namespace Row

/-- The first reduction before a terminal of the set is by `p`. -/
def reducesFirst (p : Production) (before : TerminalSet) : List (Production × TerminalSet) → Bool
  | [] => false
  | (q, lookahead) :: rest =>
    if q = p then before.within lookahead else before.disjoint lookahead &&
      reducesFirst p before rest

/-- Before every terminal of the set the row reduces by `p`. -/
def reducesBy (r : Row) (p : Production) (before : TerminalSet) : Bool :=
  before.disjoint (.ofList (r.shifts.map Prod.fst)) && reducesFirst p before r.reductions

theorem find?_of_reducesFirst {p : Production} {before : TerminalSet} {t : Terminal}
    (member : before.contains t = true) {reductions : List (Production × TerminalSet)}
    (passes : reducesFirst p before reductions = true) :
    (reductions.find? fun e => e.2.contains t).map Prod.fst = some p := by
  induction reductions with
  | nil => cases passes
  | cons e rest ih =>
    obtain ⟨q, lookahead⟩ := e
    rw [reducesFirst] at passes
    split at passes
    · rename_i same
      have found := TerminalSet.contains_of_within passes member
      simp only [List.find?_cons, found, Option.map_some, same]
    · rw [Bool.and_eq_true] at passes
      have absent := TerminalSet.not_contains_of_disjoint passes.1 member
      simp only [List.find?_cons, absent]
      exact ih passes.2

theorem action?_of_reducesBy {r : Row} {p : Production} {before : TerminalSet}
    (passes : r.reducesBy p before = true) {t : Terminal} (member : before.contains t = true) :
    r.action? t = some (.reduce p) := by
  rw [reducesBy, Bool.and_eq_true] at passes
  have unshifted : r.shifts.lookup t = none := by
    have absent := TerminalSet.not_contains_of_disjoint passes.1 member
    cases found : r.shifts.lookup t with
    | none => rfl
    | some target =>
      have listed : t ∈ r.shifts.map Prod.fst :=
        List.mem_map.mpr ⟨(t, target), mem_of_lookup found, rfl⟩
      rw [(TerminalSet.contains_ofList_iff _ t).mpr listed] at absent
      cases absent
  have first := find?_of_reducesFirst member passes.2
  obtain ⟨e, found, rfl⟩ := Option.map_eq_some_iff.mp first
  simp [action?, unshifted, found]

end Row

namespace Fragment

variable {f : Fragment} {a : Automaton}

/-- The terminals that a row of symbols starts with when the set follows it. -/
def starting (f : Fragment) (behind : TerminalSet) : List Symbol → TerminalSet
  | [] => behind
  | .terminal t :: _ => .insert .empty t
  | .nonterminal n :: rest =>
    if f.nullable n then (f.first n).union (starting f behind rest) else f.first n

theorem contains_starting {behind : TerminalSet} {t u : Terminal} {symbols : List Symbol}
    (member : behind.contains t = true) (starts : f.Starts t symbols u) :
    (f.starting behind symbols).contains u = true := by
  induction symbols with
  | nil => exact starts ▸ member
  | cons s rest ih =>
    cases s with
    | terminal s => exact (TerminalSet.contains_insert_iff _ s u).mpr (.inr starts)
    | nonterminal n =>
      rw [starting]
      split
      · rw [TerminalSet.contains_union, Bool.or_eq_true]
        exact starts.imp_right fun later => ih later.2
      · rename_i solid
        exact starts.resolve_right fun later => solid later.1

/-- Behind every alternative that can stand before the terminals no more is looked for than
allowed. -/
def closes (f : Fragment) (alternatives : List Production) (before allowed : TerminalSet) : Bool :=
  allowed == .full ||
    alternatives.all fun p => before.disjoint (f.ends p) || (f.closing p).within allowed

/-- The symbols lead on from the state, each recognised in time, to a state that reduces by `p`. -/
def walks (f : Fragment) (a : Automaton) (alternatives : Nonterminal → List Production)
    (p : Production) (behind : TerminalSet) : Nat → List Symbol → Bool
  | q, [] => (a.row? q).any (·.reducesBy p behind)
  | q, .terminal t :: rest =>
    match a.next? q (.terminal t) with
    | none => false
    | some next =>
      let sought := f.scope (.terminal t) rest.head?
      (sought == .full || (a.row? next).all fun row => row.expected.within sought) &&
        walks f a alternatives p behind next rest
  | q, .nonterminal n :: rest =>
    match a.next? q (.nonterminal n) with
    | none => false
    | some next =>
      (f.starting behind rest).within (f.follow q n) &&
        f.closes (alternatives n) (f.starting behind rest) (f.scope (.nonterminal n) rest.head?) &&
          walks f a alternatives p behind next rest

theorem contains_of_closes {alternatives : List Production} {before allowed : TerminalSet}
    (passes : f.closes alternatives before allowed = true) {p : Production}
    (listed : p ∈ alternatives)
    {t : Terminal} (starts : before.contains t = true) (ends : (f.ends p).contains t = true)
    {u : Terminal} (member : (f.closing p).contains u = true) : allowed.contains u = true := by
  rw [closes, Bool.or_eq_true, beq_iff_eq, List.all_eq_true] at passes
  obtain rfl | each := passes
  · exact TerminalSet.contains_full u
  · have bounded := each p listed
    rw [Bool.or_eq_true] at bounded
    obtain apart | inside := bounded
    · rw [TerminalSet.not_contains_of_disjoint apart starts] at ends
      cases ends
    · exact TerminalSet.contains_of_within inside member

theorem guides_of_walks {alternatives : Nonterminal → List Production}
    (listed : ∀ p, f.covers p = true → p ∈ alternatives p.lhs) {p : Production}
    {behind : TerminalSet} {t : Terminal} (member : behind.contains t = true) {q : Nat}
    {symbols : List Symbol} (passes : f.walks a alternatives p behind q symbols = true) :
    ∃ last, f.Guides a t q symbols last ∧ a.action? last t = some (.reduce p) := by
  induction symbols generalizing q with
  | nil =>
    rw [walks, Option.any_eq_true] at passes
    obtain ⟨row, found, reduces⟩ := passes
    refine ⟨q, rfl, ?_⟩
    rw [Automaton.action?, found]
    exact Row.action?_of_reducesBy reduces member
  | cons s rest ih =>
    cases s with
    | terminal s =>
      rw [walks] at passes
      split at passes
      · cases passes
      · rename_i next moves
        rw [Bool.and_eq_true, Bool.or_eq_true] at passes
        obtain ⟨last, guides, act⟩ := ih passes.2
        refine ⟨last, ⟨next, moves, ?_, guides⟩, act⟩
        intro u acts
        obtain free | bounded := passes.1
        · rw [eq_of_beq free]
          exact TerminalSet.contains_full u
        · unfold Automaton.action? at acts
          cases found : a.row? next with
          | none =>
            rw [found] at acts
            cases acts
          | some row =>
            rw [found, Option.all_some] at bounded
            rw [found] at acts
            exact TerminalSet.contains_of_within bounded ((row.contains_expected_iff u).mpr acts)
    | nonterminal n =>
      rw [walks] at passes
      split at passes
      · cases passes
      · rename_i next moves
        simp only [Bool.and_eq_true] at passes
        obtain ⟨⟨starts, closes⟩, later⟩ := passes
        obtain ⟨last, guides, act⟩ := ih later
        refine ⟨last, ⟨next, moves, ?_, ?_, guides⟩, act⟩
        · exact fun u first => TerminalSet.contains_of_within starts
            (contains_starting member first)
        · rintro p t covered rfl first ends u closing
          exact contains_of_closes closes (listed p covered) (contains_starting member first) ends
            closing

/-- A production by itself: it starts and closes as its left-hand side does, or is empty as that may
be. -/
def sound (f : Fragment) (p : Production) : Bool :=
  if p.rhs.isEmpty then f.nullable p.lhs && f.closing p == .full
  else
    (f.starting .full p.rhs).within (f.first p.lhs) &&
      (f.lastScope .full p.rhs).within (f.closing p)

/-- From the state every alternative of a nonterminal that can be started there is read. -/
def readFrom (f : Fragment) (a : Automaton) (alternatives : Nonterminal → List Production) (q : Nat)
    (row : Row) : Bool :=
  row.gotos.all fun (n, target) => (alternatives n).all fun p =>
    f.follow q n == .empty ||
      target != a.final && decide (f.weight (.nonterminal n) + f.credit target < f.spares q p) &&
        f.walks a alternatives p ((f.follow q n).inter (f.ends p)) q p.rhs

theorem lastScope_congr {symbols : List Symbol} (occupied : symbols ≠ []) (s t : TerminalSet) :
    f.lastScope s symbols = f.lastScope t symbols := by
  cases symbols with
  | nil => exact absurd rfl occupied
  | cons s rest => rfl

theorem fits_of_check {alternatives : Nonterminal → List Production}
    (listed : ∀ p, f.covers p = true → p ∈ alternatives p.lhs) (light : ∀ s, f.weight s < 48)
    (small : ∀ q, f.credit q < 16) (none : f.credit 0 = 0)
    (each : ∀ n, (alternatives n).all f.sound = true)
    (rows : a.all (f.readFrom a alternatives) = true) : f.Fits a := by
  have sound (p : Production) (covered : f.covers p = true) : f.sound p = true :=
    List.all_eq_true.mp (each p.lhs) p (listed p covered)
  refine ⟨?_, ?_, light, small, none, ?_⟩
  · intro p covered behind t starts
    have passes := sound p covered
    unfold Fragment.sound at passes
    split at passes
    · rename_i empty
      rw [List.isEmpty_iff.mp empty] at starts
      exact .inr ⟨(Bool.and_eq_true _ _ ▸ passes).1, starts⟩
    · simp only [Bool.and_eq_true] at passes
      exact .inl (TerminalSet.contains_of_within passes.1
        (contains_starting (TerminalSet.contains_full behind) starts))
  · intro p covered scope u member
    have passes := sound p covered
    unfold Fragment.sound at passes
    split at passes
    · rw [Bool.and_eq_true, beq_iff_eq] at passes
      rw [passes.2]
      exact TerminalSet.contains_full u
    · rename_i occupied
      simp only [Bool.and_eq_true] at passes
      apply TerminalSet.contains_of_within passes.2
      rwa [lastScope_congr (fun empty => occupied (List.isEmpty_iff.mpr empty)) .full scope]
  · intro p covered q target behind moves member ends
    obtain ⟨row, found, moved⟩ := Option.bind_eq_some_iff.mp moves
    have read := Automaton.check_of_all rows found
    have read := List.all_eq_true.mp read (p.lhs, target) (mem_of_lookup moved)
    have read := List.all_eq_true.mp read p (listed p covered)
    simp only [Bool.or_eq_true, Bool.and_eq_true, beq_iff_eq, bne_iff_ne, decide_eq_true_eq] at read
    obtain nothing | ⟨⟨goes, lighter⟩, walks⟩ := read
    · rw [nothing, TerminalSet.contains_empty] at member
      cases member
    · exact ⟨goes, lighter, guides_of_walks listed (TerminalSet.contains_inter member ends) walks⟩

end Fragment

end Grammar

end SqlSyntax
