import Mathlib.Data.List.Induction
import Mathlib.Data.List.Nodup
import SqlSyntax.Client.Query

/-!
# Ownership of buffers

A run is a row of operations on a new bridge, and its log tells what each of them came to. Which
buffers are live, what they hold and how many there are can be read off the log alone: a text is
held from the operation that stored it until a release of its address is tried. No address is given
out twice, by the definition of allocation. A query takes a buffer for itself and leaves none.
-/

namespace SqlSyntax.Bridge

/-! ### Operations and runs -/

inductive Operation where
  | parse (timing : Timing) (input : Input)
  | parseNatively (timing : Timing) (bytes : Option (List UInt8))
  | allocate (text : String)
  | read (a : Address)
  | release (a : Address)
  | releaseNatively (a : Address)
  | query (timing : Timing) (sql : String)

inductive Outcome where
  | stored (a : Address)
  | found (text : String)
  | released
  | misused (m : Misuse)
  | crashed (fault : Fault)
  | queried (result : Except Query.Failure Query)

namespace Operation

/-- What is left of an attempt to parse. -/
def ofParse (b : Bridge) : Except Fault (Bridge × Address) → Bridge × Outcome
  | .ok (b', a) => (b', .stored a)
  | .error fault => (b, .crashed fault)

/-- A native caller is not told what came of its release; the log tells it. -/
def perform (b : Bridge) : Operation → Bridge × Outcome
  | .parse timing input => ofParse b (b.parse timing input)
  | .parseNatively timing bytes => ofParse b (b.parse timing (nativeInput bytes))
  | .allocate text => ((b.allocate text).1, .stored (b.allocate text).2)
  | .read a =>
    match b.read a with
    | .ok text => (b, .found text)
    | .error m => (b, .misused m)
  | .release a =>
    match b.release a with
    | .ok b' => (b', .released)
    | .error m => (b, .misused m)
  | .releaseNatively a =>
    (b.releaseQuietly a,
      match b.release a with
      | .ok _ => .released
      | .error m => .misused m)
  | .query timing sql => ((Query.parse b timing sql).1, .queried (Query.parse b timing sql).2)

/-- The text that the operation stores, if it gets to that. -/
def text? (builder : Builder) : Operation → Option String
  | .parse timing input => ((new builder).envelope timing input).toOption.map Envelope.json
  | .parseNatively timing bytes =>
    ((new builder).envelope timing (nativeInput bytes)).toOption.map Envelope.json
  | .allocate text => some text
  | _ => none

/-- The operation tries to release the address. -/
def releases (a : Address) : Operation → Bool
  | .release a' => a' == a
  | .releaseNatively a' => a' == a
  | _ => false

end Operation

abbrev Log := List (Operation × Outcome)

/-- All operations one after the other. -/
def run (builder : Builder) (operations : List Operation) : Bridge × Log :=
  operations.foldl (fun (b, log) op => ((op.perform b).1, log ++ [(op, (op.perform b).2)]))
    (new builder, [])

theorem run_append_singleton (builder : Builder) (operations : List Operation) (op : Operation) :
    run builder (operations ++ [op]) =
      ((op.perform (run builder operations).1).1,
        (run builder operations).2 ++ [(op, (op.perform (run builder operations).1).2)]) := by
  rw [run, List.foldl_append]
  rfl

namespace Log

def isStore (a : Address) : Operation × Outcome → Bool
  | (_, .stored a') => a' == a
  | _ => false

def isRelease (a : Address) : Operation × Outcome → Bool
  | (op, .released) => op.releases a
  | _ => false

/-- How many buffers were allocated at the address. -/
def storesAt (log : Log) (a : Address) : Nat :=
  log.countP (isStore a)

/-- How many releases of the address succeeded. -/
def releasesOf (log : Log) (a : Address) : Nat :=
  log.countP (isRelease a)

def stores (log : Log) : Nat :=
  log.countP fun e => match e.2 with
    | .stored _ => true
    | _ => false

def releases (log : Log) : Nat :=
  log.countP fun e => match e.2 with
    | .released => true
    | _ => false

/-- The text was stored at the address, and no release of the address was tried since. -/
def Holds (builder : Builder) (log : Log) (a : Address) (text : String) : Prop :=
  ∃ before op after, log = before ++ (op, .stored a) :: after ∧ op.text? builder = some text ∧
    ∀ e ∈ after, e.1.releases a = false

variable {builder : Builder} {log : Log}

theorem countP_append_singleton {α : Type} (p : α → Bool) (l : List α) (a : α) :
    (l ++ [a]).countP p = l.countP p + (p a).toNat := by
  rw [List.countP_append, List.countP_singleton]
  cases p a <;> rfl

theorem not_holds_nil (a : Address) (text : String) : ¬ Holds builder [] a text := by
  rintro ⟨before, op, after, empty, -⟩
  simp at empty

/-- The last entry stores the text or does not try to release it. -/
theorem holds_append_singleton {e : Operation × Outcome} {a : Address} {text : String} :
    Holds builder (log ++ [e]) a text ↔
      Holds builder log a text ∧ e.1.releases a = false ∨
        e.2 = .stored a ∧ e.1.text? builder = some text := by
  constructor
  · rintro ⟨before, op, after, split, stores, kept⟩
    rcases List.eq_nil_or_concat after with rfl | ⟨after, last, rfl⟩
    · obtain ⟨-, rfl⟩ := List.append_inj' split rfl |>.imp id List.head_eq_of_cons_eq
      exact .inr ⟨rfl, stores⟩
    · rw [List.concat_eq_append, ← List.cons_append, ← List.append_assoc] at split
      obtain ⟨rfl, same⟩ := List.append_inj' split rfl
      obtain rfl := List.head_eq_of_cons_eq same
      refine .inl ⟨⟨before, op, after, rfl, stores, ?_⟩, kept e (by simp)⟩
      intro e member
      exact kept e (by simp [member])
  · rintro (⟨⟨before, op, after, rfl, stores, kept⟩, idle⟩ | ⟨stored, stores⟩)
    · refine ⟨before, op, after ++ [e], by simp, stores, ?_⟩
      intro f member
      rcases List.mem_append.mp member with member | member
      · exact kept f member
      · obtain rfl := List.mem_singleton.mp member
        exact idle
    · obtain ⟨op, outcome⟩ := e
      obtain rfl : outcome = .stored a := stored
      exact ⟨log, op, [], rfl, stores, by simp⟩

end Log

/-! ### What an operation can do -/

/-- The buffers have different numbers, all of them given out already. -/
structure Sound (b : Bridge) : Prop where
  bounded : ∀ e ∈ b.buffers, e.1 < b.allocated
  distinct : (b.buffers.map Prod.fst).Nodup

/-- An operation stores a text, releases a live buffer, or leaves the buffers alone. -/
inductive Effect (b : Bridge) (op : Operation) : Bridge × Outcome → Prop
  | stores {text : String} (given : op.text? b.builder = some text)
      (idle : ∀ a, op.releases a = false) :
      Effect b op ((b.allocate text).1, .stored (b.allocate text).2)
  | releases {n : Nat} {text : String} (live : b.content? (.allocated n) = some text)
      (asked : ∀ a, op.releases a = (.allocated n == a)) :
      Effect b op ({ b with buffers := b.buffers.filter fun e => e.1 != n }, .released)
  | keeps {b' : Bridge} {outcome : Outcome} (same : b'.builder = b.builder)
      (buffers : b'.buffers = b.buffers) (later : b.allocated ≤ b'.allocated)
      (idle : ∀ a, op.releases a = true → b.content? a = none)
      (silent : (∀ a, outcome ≠ .stored a) ∧ outcome ≠ .released) : Effect b op (b', outcome)

variable {b : Bridge}

theorem envelope_new (timing : Timing) (input : Input) :
    (new b.builder).envelope timing input = b.envelope timing input := by
  cases input <;> rfl

/-- A release takes the buffer away or finds none. -/
theorem release_cases (b : Bridge) (a : Address) :
    (∃ n text, a = .allocated n ∧ b.content? a = some text ∧
        b.release a = .ok { b with buffers := b.buffers.filter fun e => e.1 != n }) ∨
      b.content? a = none ∧ b.release a = .error (.unreleasable a) := by
  cases held : b.content? a with
  | none => exact .inr ⟨rfl, by simp [release, held]⟩
  | some text =>
    cases a with
    | foreign i => cases held
    | allocated n =>
      have same (m : Nat) : (Address.allocated m != .allocated n) = (m != n) := by
        simp [bne, BEq.beq]
      exact .inl ⟨n, text, rfl, rfl, by simp [release, held, same]⟩

/-- A query allocates a buffer and releases the same. -/
theorem query_keeps (sound : b.Sound) (timing : Timing) (sql : String) :
    (Query.parse b timing sql).1.builder = b.builder ∧
      (Query.parse b timing sql).1.buffers = b.buffers ∧
        b.allocated ≤ (Query.parse b timing sql).1.allocated := by
  have others : b.buffers.filter (fun e => e.1 != b.allocated) = b.buffers := by
    rw [List.filter_eq_self]
    intro e member
    have older := sound.bounded e member
    simp only [bne_iff_ne, ne_eq]
    omega
  cases made : b.envelope timing (.text sql) with
  | error fault => simp [Query.parse, Bridge.parse, made]
  | ok e =>
    have parsed : b.parse timing (.text sql) = .ok (b.allocate e.json) := by
      simp [Bridge.parse, made]
    have emptied : (b.allocate e.json).1.buffers.filter (fun e => e.1 != b.allocated) =
        b.buffers := by
      simp only [allocate, List.filter_cons, bne_self_eq_false, Bool.false_eq_true,
        if_false, others]
    rcases release_cases (b.allocate e.json).1 (b.allocate e.json).2 with
      ⟨n, text, same, -, released⟩ | ⟨impossible, -⟩
    · obtain rfl : b.allocated = n := Address.allocated.inj same
      rw [emptied] at released
      have left : (Query.parse b timing sql).1 =
          { (b.allocate e.json).1 with buffers := b.buffers } := by
        cases read : (b.allocate e.json).1.read (b.allocate e.json).2 <;>
          simp only [Query.parse, parsed, released, read]
      rw [left]
      exact ⟨rfl, rfl, Nat.le_succ _⟩
    · simp [allocate, content?] at impossible

theorem effect_ofParse {op : Operation} {timing : Timing} {input : Input}
    (given : op.text? b.builder = ((new b.builder).envelope timing input).toOption.map
      Envelope.json)
    (idle : ∀ a, op.releases a = false) :
    Effect b op (Operation.ofParse b (b.parse timing input)) := by
  rw [envelope_new] at given
  cases made : b.envelope timing input with
  | error fault =>
    have crashed : b.parse timing input = .error fault := by simp [Bridge.parse, made]
    rw [crashed]
    refine .keeps rfl rfl (Nat.le_refl _) ?_ ⟨nofun, nofun⟩
    intro a asked
    rw [idle a] at asked
    cases asked
  | ok e =>
    have stored : b.parse timing input = .ok (b.allocate e.json) := by simp [Bridge.parse, made]
    rw [made] at given
    rw [stored]
    exact .stores given idle

theorem effect_perform (sound : b.Sound) (op : Operation) : Effect b op (op.perform b) := by
  cases op with
  | parse timing input => exact effect_ofParse rfl fun _ => rfl
  | parseNatively timing bytes => exact effect_ofParse rfl fun _ => rfl
  | allocate text => exact .stores rfl fun _ => rfl
  | read a =>
    rw [Operation.perform]
    split
    · exact .keeps rfl rfl (Nat.le_refl _) nofun ⟨nofun, nofun⟩
    · exact .keeps rfl rfl (Nat.le_refl _) nofun ⟨nofun, nofun⟩
  | release a =>
    rw [Operation.perform]
    rcases release_cases b a with ⟨n, text, rfl, live, released⟩ | ⟨gone, refused⟩
    · rw [released]
      exact .releases live fun _ => rfl
    · rw [refused]
      refine .keeps rfl rfl (Nat.le_refl _) ?_ ⟨nofun, nofun⟩
      intro a' asked
      obtain rfl : a = a' := by simpa [Operation.releases] using asked
      exact gone
  | releaseNatively a =>
    rw [Operation.perform, releaseQuietly]
    rcases release_cases b a with ⟨n, text, rfl, live, released⟩ | ⟨gone, refused⟩
    · rw [released]
      exact .releases live fun _ => rfl
    · rw [refused]
      refine .keeps rfl rfl (Nat.le_refl _) ?_ ⟨nofun, nofun⟩
      intro a' asked
      obtain rfl : a = a' := by simpa [Operation.releases] using asked
      exact gone
  | query timing sql =>
    obtain ⟨same, buffers, later⟩ := query_keeps sound timing sql
    exact .keeps same buffers later nofun ⟨nofun, nofun⟩

/-! ### What a run preserves -/

theorem content?_allocate_of_ne {a : Address} (other : a ≠ .allocated b.allocated) (text : String) :
    (b.allocate text).1.content? a = b.content? a := by
  cases a with
  | foreign i => rfl
  | allocated n =>
    have differs : (n == b.allocated) = false := by
      rw [beq_eq_false_iff_ne]
      rintro rfl
      exact other rfl
    simp [allocate, content?, List.lookup_cons, differs]

theorem lookup_filter_ne {α : Type} (buffers : List (Nat × α)) (n m : Nat) :
    (buffers.filter fun e => e.1 != n).lookup m = if m = n then none else buffers.lookup m := by
  induction buffers with
  | nil => simp
  | cons e rest ih =>
    obtain ⟨k, text⟩ := e
    by_cases dropped : k = n
    · subst dropped
      by_cases same : m = k
      · simp [same] at ih ⊢
        exact ih
      · simp [ih, same, List.lookup_cons, beq_eq_false_iff_ne.mpr same]
    · by_cases same : m = k
      · subst same
        simp [dropped]
      · simp [dropped, List.lookup_cons, beq_eq_false_iff_ne.mpr same, ih]

theorem length_filter_ne {α : Type} {buffers : List (Nat × α)} {n : Nat} {text : α}
    (distinct : (buffers.map Prod.fst).Nodup) (live : buffers.lookup n = some text) :
    (buffers.filter fun e => e.1 != n).length + 1 = buffers.length := by
  induction buffers with
  | nil => cases live
  | cons e rest ih =>
    obtain ⟨k, other⟩ := e
    obtain ⟨fresh, distinct⟩ := List.nodup_cons.mp distinct
    by_cases same : n = k
    · subst same
      have kept : rest.filter (fun e => e.1 != n) = rest := by
        rw [List.filter_eq_self]
        intro e member
        rw [bne_iff_ne]
        rintro rfl
        exact fresh (List.mem_map.mpr ⟨e, member, rfl⟩)
      simp [kept]
    · rw [List.lookup_cons, beq_eq_false_iff_ne.mpr same] at live
      have shorter := ih distinct live
      have stays : (k != n) = true := bne_iff_ne.mpr (Ne.symm same)
      simp only [List.filter_cons, stays, if_true, List.length_cons]
      omega

/-- What the log says of the bridge. -/
structure Tracks (builder : Builder) (b : Bridge) (log : Log) : Prop where
  sound : b.Sound
  builder_eq : b.builder = builder
  stored_lt : ∀ op a, (op, Outcome.stored a) ∈ log → ∃ n < b.allocated, a = .allocated n
  content : ∀ a text, b.content? a = some text ↔ log.Holds builder a text
  balance : b.outstanding + log.releases = log.stores
  ledger : ∀ a, log.releasesOf a + (b.content? a).toList.length = log.storesAt a
  single : ∀ a, log.storesAt a ≤ 1

variable {builder : Builder} {log : Log}

theorem tracks_new (builder : Builder) : Tracks builder (new builder) [] where
  sound := ⟨by simp [new], by simp [new]⟩
  builder_eq := rfl
  stored_lt := by simp
  content a text := by
    have empty : (new builder).content? a = none := by cases a <;> rfl
    simp [empty, Log.not_holds_nil]
  balance := rfl
  ledger a := by cases a <;> rfl
  single a := Nat.zero_le _

theorem Tracks.storesAt_eq_zero (tracks : Tracks builder b log) :
    log.storesAt (.allocated b.allocated) = 0 := by
  rw [Log.storesAt, List.countP_eq_zero]
  rintro ⟨op, outcome⟩ member stores
  cases outcome with
  | stored a =>
    obtain ⟨n, older, rfl⟩ := tracks.stored_lt op a member
    have same : n = b.allocated := by simpa [Log.isStore] using stores
    omega
  | _ => cases stores

theorem Tracks.content?_allocated (tracks : Tracks builder b log) :
    b.content? (.allocated b.allocated) = none := by
  have ledger := tracks.ledger (.allocated b.allocated)
  rw [tracks.storesAt_eq_zero] at ledger
  cases held : b.content? (.allocated b.allocated) with
  | none => rfl
  | some text => simp [held] at ledger

theorem Tracks.store (tracks : Tracks builder b log) {op : Operation} {text : String}
    (given : op.text? b.builder = some text) (idle : ∀ a, op.releases a = false) :
    Tracks builder (b.allocate text).1 (log ++ [(op, .stored (b.allocate text).2)]) where
  sound := by
    constructor
    · intro e member
      rcases List.mem_cons.mp member with rfl | member
      · exact Nat.lt_succ_self _
      · exact Nat.lt_succ_of_lt (tracks.sound.bounded e member)
    · refine List.nodup_cons.mpr ⟨?_, tracks.sound.distinct⟩
      intro listed
      obtain ⟨e, member, same⟩ := List.mem_map.mp listed
      have older := tracks.sound.bounded e member
      omega
  builder_eq := tracks.builder_eq
  stored_lt op' a member := by
    rcases List.mem_append.mp member with member | member
    · obtain ⟨n, older, rfl⟩ := tracks.stored_lt op' a member
      exact ⟨n, Nat.lt_succ_of_lt older, rfl⟩
    · cases List.mem_singleton.mp member
      exact ⟨b.allocated, Nat.lt_succ_self _, rfl⟩
  content a text' := by
    rw [Log.holds_append_singleton, ← tracks.content]
    have stored : (b.allocate text).2 = .allocated b.allocated := rfl
    by_cases new : a = .allocated b.allocated
    · subst new
      rw [tracks.content?_allocated, ← tracks.builder_eq]
      simp [allocate, content?, given]
    · have other : Outcome.stored (b.allocate text).2 ≠ .stored a := by
        rw [stored]
        rintro ⟨⟩
        exact new rfl
      simp [content?_allocate_of_ne new, idle, other]
  balance := by
    have before := tracks.balance
    simp only [Log.releases, Log.stores, outstanding, Log.countP_append_singleton] at before ⊢
    simp only [allocate, List.length_cons, Bool.toNat_true, Bool.toNat_false]
    omega
  ledger a := by
    have before := tracks.ledger a
    simp only [Log.releasesOf, Log.storesAt, Log.countP_append_singleton] at before ⊢
    by_cases new : a = .allocated b.allocated
    · subst new
      rw [tracks.content?_allocated] at before
      simp only [Log.isStore, Log.isRelease, allocate, content?, beq_self_eq_true,
        List.lookup_cons_self, Option.toList_some, Option.toList_none, List.length_cons,
        List.length_nil, Bool.toNat_true, Bool.toNat_false] at before ⊢
      omega
    · have other : ((b.allocate text).2 == a) = false := beq_eq_false_iff_ne.mpr (Ne.symm new)
      rw [content?_allocate_of_ne new]
      simp only [Log.isStore, Log.isRelease, other, Bool.toNat_false]
      omega
  single a := by
    have before := tracks.single a
    simp only [Log.storesAt, Log.countP_append_singleton] at before ⊢
    by_cases new : a = .allocated b.allocated
    · subst new
      have fresh := tracks.storesAt_eq_zero
      rw [Log.storesAt] at fresh
      have one :=
        Bool.toNat_le (Log.isStore (.allocated b.allocated) (op, .stored (b.allocate text).2))
      omega
    · have other : ((b.allocate text).2 == a) = false := beq_eq_false_iff_ne.mpr (Ne.symm new)
      simp only [Log.isStore, other, Bool.toNat_false]
      omega

theorem Tracks.release (tracks : Tracks builder b log) {op : Operation} {n : Nat} {text : String}
    (live : b.content? (.allocated n) = some text)
    (asked : ∀ a, op.releases a = (.allocated n == a)) :
    Tracks builder { b with buffers := b.buffers.filter fun e => e.1 != n }
      (log ++ [(op, .released)]) := by
  have emptied (a : Address) :
      ({ b with buffers := b.buffers.filter fun e => e.1 != n } : Bridge).content? a =
        if a = .allocated n then none else b.content? a := by
    cases a with
    | foreign i => simp [content?]
    | allocated m => simp [content?, lookup_filter_ne]
  refine ⟨⟨?_, ?_⟩, tracks.builder_eq, ?_, ?_, ?_, ?_, ?_⟩
  · intro e member
    exact tracks.sound.bounded e (List.mem_filter.mp member).1
  · exact tracks.sound.distinct.sublist (List.filter_sublist.map Prod.fst)
  · intro op' a member
    rcases List.mem_append.mp member with member | member
    · exact tracks.stored_lt op' a member
    · cases List.mem_singleton.mp member
  · intro a text'
    rw [Log.holds_append_singleton, ← tracks.content, emptied, asked]
    by_cases same : a = .allocated n
    · simp [same]
    · have other : (Address.allocated n == a) = false := beq_eq_false_iff_ne.mpr (Ne.symm same)
      simp [same, other]
  · have before := tracks.balance
    have shorter := length_filter_ne tracks.sound.distinct live
    simp only [Log.releases, Log.stores, outstanding, Log.countP_append_singleton] at before ⊢
    simp only [Bool.toNat_true, Bool.toNat_false]
    omega
  · intro a
    have before := tracks.ledger a
    simp only [Log.releasesOf, Log.storesAt, Log.countP_append_singleton] at before ⊢
    rw [emptied]
    by_cases same : a = .allocated n
    · subst same
      simp only [live, Option.toList_some, List.length_cons, List.length_nil] at before
      simp only [Log.isStore, Log.isRelease, asked, beq_self_eq_true, if_true, Option.toList_none,
        List.length_nil, Bool.toNat_true, Bool.toNat_false]
      omega
    · have other : (Address.allocated n == a) = false := beq_eq_false_iff_ne.mpr (Ne.symm same)
      simp only [Log.isStore, Log.isRelease, asked, other, if_neg same, Bool.toNat_false]
      omega
  · intro a
    have before := tracks.single a
    simp only [Log.storesAt, Log.countP_append_singleton, Log.isStore, Bool.toNat_false] at before ⊢
    omega

theorem Tracks.keep (tracks : Tracks builder b log) {op : Operation} {b' : Bridge}
    {outcome : Outcome} (same : b'.builder = b.builder) (buffers : b'.buffers = b.buffers)
    (later : b.allocated ≤ b'.allocated)
    (idle : ∀ a, op.releases a = true → b.content? a = none)
    (silent : (∀ a, outcome ≠ .stored a) ∧ outcome ≠ .released) :
    Tracks builder b' (log ++ [(op, outcome)]) := by
  have content (a : Address) : b'.content? a = b.content? a := by
    cases a with
    | foreign i => rfl
    | allocated m => simp [content?, buffers]
  have stores (a : Address) : Log.isStore a (op, outcome) = false := by
    cases outcome with
    | stored a => exact absurd rfl (silent.1 a)
    | _ => rfl
  have releases (a : Address) : Log.isRelease a (op, outcome) = false := by
    cases outcome with
    | released => exact absurd rfl silent.2
    | _ => rfl
  refine ⟨⟨?_, ?_⟩, same.trans tracks.builder_eq, ?_, ?_, ?_, ?_, ?_⟩
  · intro e member
    rw [buffers] at member
    exact Nat.lt_of_lt_of_le (tracks.sound.bounded e member) later
  · rw [buffers]
    exact tracks.sound.distinct
  · intro op' a member
    rcases List.mem_append.mp member with member | member
    · obtain ⟨n, older, rfl⟩ := tracks.stored_lt op' a member
      exact ⟨n, Nat.lt_of_lt_of_le older later, rfl⟩
    · cases List.mem_singleton.mp member
      exact absurd rfl (silent.1 a)
  · intro a text
    rw [Log.holds_append_singleton, content, ← tracks.content]
    constructor
    · intro live
      refine .inl ⟨live, ?_⟩
      cases asked : op.releases a with
      | false => rfl
      | true =>
        rw [idle a asked] at live
        cases live
    · rintro (⟨live, -⟩ | ⟨stored, -⟩)
      · exact live
      · exact absurd stored (silent.1 a)
  · have before := tracks.balance
    simp only [Log.releases, Log.stores, outstanding, Log.countP_append_singleton,
      buffers] at before ⊢
    cases outcome with
    | stored a => exact absurd rfl (silent.1 a)
    | released => exact absurd rfl silent.2
    | _ => exact before
  · intro a
    have before := tracks.ledger a
    simp only [Log.releasesOf, Log.storesAt, Log.countP_append_singleton, stores, releases, content,
      Bool.toNat_false] at before ⊢
    omega
  · intro a
    have before := tracks.single a
    simp only [Log.storesAt, Log.countP_append_singleton, stores, Bool.toNat_false] at before ⊢
    omega

/-- The step lemma. -/
theorem Tracks.perform (tracks : Tracks builder b log) (op : Operation) :
    Tracks builder (op.perform b).1 (log ++ [(op, (op.perform b).2)]) := by
  have effect := effect_perform tracks.sound op
  generalize op.perform b = after at effect
  cases effect with
  | stores given idle => exact tracks.store given idle
  | releases live asked => exact tracks.release live asked
  | keeps same buffers later idle silent => exact tracks.keep same buffers later idle silent

/-- By induction on the operations, the last one first. -/
theorem tracks_run (builder : Builder) (operations : List Operation) :
    Tracks builder (run builder operations).1 (run builder operations).2 := by
  induction operations using List.reverseRecOn with
  | nil => exact tracks_new builder
  | append_singleton operations op ih =>
    rw [run_append_singleton]
    exact ih.perform op

/-! ### Ownership -/

/-- The buffers of a bridge are those that the log of its run holds. A buffer is released at most
once, and its release can be missing only as long as it is held. -/
structure Owns (builder : Builder) (b : Bridge) (log : Log) : Prop where
  balance : b.outstanding + log.releases = log.stores
  readable : ∀ a text, b.read a = .ok text ↔ ∃ whole, log.Holds builder a whole ∧
    upToZero whole = text
  releasable : ∀ a, (∃ b', b.release a = .ok b') ↔ ∃ text, log.Holds builder a text
  refused : ∀ a, (∀ text, ¬ log.Holds builder a text) →
    b.read a = .error (.unreadable a) ∧ b.release a = .error (.unreleasable a)
  single : ∀ a, log.storesAt a ≤ 1
  held : ∀ a text, log.Holds builder a text → log.storesAt a = 1 ∧ log.releasesOf a = 0
  gone : ∀ a, (∀ text, ¬ log.Holds builder a text) → log.releasesOf a = log.storesAt a
  failing : ∀ (op : Operation) (m : Misuse), (op.perform b).2 = .misused m → (op.perform b).1 = b
  queried : ∀ timing sql, (Query.parse b timing sql).1.buffers = b.buffers ∧
    (Query.parse b timing sql).1.outstanding = b.outstanding

theorem perform_of_misused {op : Operation} {m : Misuse} (failed : (op.perform b).2 = .misused m) :
    (op.perform b).1 = b := by
  cases op with
  | parse timing input =>
    rw [Operation.perform] at failed ⊢
    cases made : b.parse timing input <;> rw [made] at failed <;> cases failed
  | parseNatively timing bytes =>
    rw [Operation.perform] at failed ⊢
    cases made : b.parse timing (nativeInput bytes) <;> rw [made] at failed <;> cases failed
  | allocate text => cases failed
  | query timing sql => cases failed
  | read a =>
    rw [Operation.perform]
    split <;> rfl
  | release a =>
    rw [Operation.perform] at failed ⊢
    cases released : b.release a with
    | ok b' =>
      rw [released] at failed
      cases failed
    | error m => rfl
  | releaseNatively a =>
    rw [Operation.perform] at failed ⊢
    cases released : b.release a with
    | ok b' =>
      rw [released] at failed
      cases failed
    | error m => simp only [releaseQuietly, released]

theorem Tracks.content?_eq_none (tracks : Tracks builder b log) {a : Address}
    (gone : ∀ text, ¬ log.Holds builder a text) : b.content? a = none := by
  cases held : b.content? a with
  | none => rfl
  | some text => exact absurd ((tracks.content a text).mp held) (gone text)

theorem Tracks.owns (tracks : Tracks builder b log) : Owns builder b log where
  balance := tracks.balance
  readable a text := by
    simp only [← tracks.content]
    cases held : b.content? a with
    | none => simp [Bridge.read, held]
    | some whole => simp [Bridge.read, held]
  releasable a := by
    simp only [← tracks.content]
    rcases release_cases b a with ⟨n, text, rfl, live, released⟩ | ⟨gone, refused⟩
    · simp [live, released]
    · simp [gone, refused]
  refused a gone := by
    have none := tracks.content?_eq_none gone
    exact ⟨by simp [Bridge.read, none], by simp [Bridge.release, none]⟩
  single := tracks.single
  held a text holds := by
    have ledger := tracks.ledger a
    have single := tracks.single a
    rw [(tracks.content a text).mpr holds] at ledger
    simp only [Option.toList_some, List.length_cons, List.length_nil] at ledger
    omega
  gone a gone := by
    have ledger := tracks.ledger a
    rwa [tracks.content?_eq_none gone] at ledger
  failing op m := perform_of_misused
  queried timing sql := by
    obtain ⟨-, buffers, -⟩ := query_keeps tracks.sound timing sql
    exact ⟨buffers, congrArg List.length buffers⟩

/-- Whatever is done with a bridge, its log tells who owns what. -/
theorem run_owns (builder : Builder) (operations : List Operation) :
    Owns builder (run builder operations).1 (run builder operations).2 :=
  (tracks_run builder operations).owns

end SqlSyntax.Bridge
