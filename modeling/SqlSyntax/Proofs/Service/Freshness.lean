import SqlSyntax.Proofs.Dialect.Aliases
import SqlSyntax.Service.Builders

/-!
# Freshness of the builders that a service keeps

Dialects come and go between the requests for builders. The dialects at hand are numbered, so a
number tells one from another of the same name, and registering the same one twice is possible. In
every state that a history can reach, a request is answered by a builder for the dialect that its
name means at that moment, and two requests share a builder exactly if they mean the same dialect
and no other one of its name was served between them.
-/

namespace SqlSyntax.Service

/-! ### Histories -/

/-- The dialects at hand. The built-in one comes first. -/
def offered (others : Nat → Dialect) : Nat → Registration
  | 0 => ⟨0, .mysql⟩
  | n + 1 => ⟨n + 1, others n⟩

inductive Event where
  | register (n : Nat)
  | unregister (name : String)
  | request (asked : Option String)

variable (others : Nat → Dialect)

/-- A request that fails changes nothing. -/
def perform (s : Service) : Event → Service
  | .register n => { s with registry := s.registry.register (offered others n) }
  | .unregister name => { s with registry := (s.registry.unregister name).1 }
  | .request asked =>
    match s.builderFor asked with
    | .ok (later, _) => later
    | .error _ => s

def run (s : Service) (events : List Event) : Service :=
  events.foldl (perform others) s

/-- The builder that an event serves, if it does. -/
def served (s : Service) : Event → List Served
  | .request asked =>
    match s.builderFor asked with
    | .ok (_, b) => [b]
    | .error _ => []
  | .register _ | .unregister _ => []

def servedBy (s : Service) : List Event → List Served
  | [] => []
  | event :: events => s.served event ++ (s.perform others event).servedBy events

/-! ### What is kept -/

/-- Every dialect that is registered is one of those at hand, and every builder is kept under the
name of its dialect and has a number given out before. -/
structure Consistent (settings : Settings) (s : Service) : Prop where
  constant : s.settings = settings
  dialects : ∀ name found, s.registry.dialects.get? name = some found →
    found = offered others found.serial
  builders : ∀ name b, s.builders.get? name = some b →
    b.registration = offered others b.registration.serial ∧ b.registration.dialect.name = name ∧
      b.builder = ⟨b.registration.dialect, settings.depthLimit, settings.lengthLimit⟩ ∧
      b.number < s.made
  numbers : ∀ name b name' b', s.builders.get? name = some b → s.builders.get? name' = some b' →
    b.number = b'.number → b = b'

/-- What a request that succeeds comes to: the builder kept for the very dialect found is served
again, or a new one takes its place. -/
inductive Answer (settings : Settings) (s : Service) (found : Registration) :
    Service → Served → Prop where
  | kept {b : Served} (held : s.builders.get? found.dialect.name = some b)
      (same : b.registration = found) : Answer settings s found s b
  | fresh
      (other : ∀ b, s.builders.get? found.dialect.name = some b → b.registration ≠ found) :
      Answer settings s found
        { s with
          builders :=
            s.builders.put found.dialect.name
              ⟨s.made, found, ⟨found.dialect, settings.depthLimit, settings.lengthLimit⟩⟩
          made := s.made + 1 }
        ⟨s.made, found, ⟨found.dialect, settings.depthLimit, settings.lengthLimit⟩⟩

variable {others} {settings : Settings} {s later : Service} {b : Served} {found : Registration}
  {asked : Option String}

theorem offered_serial (n : Nat) : (offered others n).serial = n := by
  cases n <;> rfl

theorem Consistent.find? (consistent : Consistent others settings s) {name : String}
    (finds : s.registry.find? name = some found) : found = offered others found.serial := by
  unfold Registry.find? at finds
  dsimp only at finds
  split at finds
  · rename_i registered
    cases finds
    exact consistent.dialects _ _ registered
  · obtain ⟨key, -, registered⟩ := Option.bind_eq_some_iff.mp finds
    exact consistent.dialects _ _ registered

theorem builderFor_of_none (missing : s.registry.find? (s.meant asked) = none) :
    s.builderFor asked = .error ⟨s.meant asked⟩ := by
  simp [builderFor, Registry.require, missing]

theorem Consistent.builderFor_of_some (consistent : Consistent others settings s)
    (finds : s.registry.find? (s.meant asked) = some found) :
    ∃ later b, s.builderFor asked = .ok (later, b) ∧ Answer settings s found later b := by
  obtain rfl := consistent.constant
  simp only [builderFor, Registry.require, finds]
  have offer := consistent.find? finds
  cases held : s.builders.get? found.dialect.name with
  | none => exact ⟨_, _, rfl, .fresh (by simp [held])⟩
  | some kept =>
    -- A serial number decides, since both registrations are among the dialects at hand.
    have same_iff : kept.registration.serial = found.serial ↔ kept.registration = found := by
      constructor
      · intro same
        rw [offer, (consistent.builders _ _ held).1, same]
      · exact congrArg Registration.serial
    by_cases same : kept.registration.serial = found.serial
    · exact ⟨_, _, by simp [same], .kept held (same_iff.mp same)⟩
    · refine ⟨_, _, by simp [same], .fresh ?_⟩
      rintro b held'
      cases held.symm.trans held'
      exact fun equal => same (same_iff.mpr equal)

theorem Consistent.answer (consistent : Consistent others settings s)
    (served : s.builderFor asked = .ok (later, b)) :
    ∃ found, s.registry.find? (s.meant asked) = some found ∧ Answer settings s found later b := by
  cases finds : s.registry.find? (s.meant asked) with
  | none =>
    rw [builderFor_of_none finds] at served
    cases served
  | some found =>
    obtain ⟨later', b', served', answer⟩ := consistent.builderFor_of_some finds
    cases served.symm.trans served'
    exact ⟨found, rfl, answer⟩

theorem Answer.registration (answer : Answer settings s found later b) :
    b.registration = found := by
  cases answer with
  | kept held same => exact same
  | fresh other => rfl

/-- Behind a request its builder is kept under the name of its dialect. -/
theorem Answer.held (answer : Answer settings s found later b) :
    later.builders.get? found.dialect.name = some b := by
  cases answer with
  | kept held same => exact held
  | fresh other => simp [Entries.get?_put]

theorem Consistent.of_answer (consistent : Consistent others settings s)
    (offer : found = offered others found.serial) (answer : Answer settings s found later b) :
    Consistent others settings later := by
  cases answer with
  | kept held same => exact consistent
  | fresh other =>
    refine ⟨consistent.constant, consistent.dialects, ?_, ?_⟩
    · intro name kept held
      rw [Entries.get?_put] at held
      split at held
      · rename_i same
        cases held
        exact ⟨offer, same.symm, rfl, Nat.lt_succ_self _⟩
      · obtain ⟨offer', named, made, bound⟩ := consistent.builders _ _ held
        exact ⟨offer', named, made, Nat.lt_succ_of_lt bound⟩
    · intro name kept name' kept' held held' same
      rw [Entries.get?_put] at held held'
      -- The new number is above all others, so it belongs to the new builder alone.
      split at held <;> split at held'
      · cases held
        cases held'
        rfl
      · cases held
        have bound := (consistent.builders _ _ held').2.2.2
        simp only at same
        omega
      · cases held'
        have bound := (consistent.builders _ _ held).2.2.2
        simp only at same
        omega
      · exact consistent.numbers _ _ _ _ held held' same

theorem Consistent.builderFor (consistent : Consistent others settings s)
    (served : s.builderFor asked = .ok (later, b)) : Consistent others settings later := by
  obtain ⟨found, finds, answer⟩ := consistent.answer served
  exact consistent.of_answer (consistent.find? finds) answer

theorem Consistent.perform (consistent : Consistent others settings s) (event : Event) :
    Consistent others settings (s.perform others event) := by
  cases event with
  | register n =>
    refine ⟨consistent.constant, ?_, consistent.builders, consistent.numbers⟩
    intro name found registered
    rw [Service.perform, Registry.dialects_register] at registered
    split at registered
    · cases registered
      rw [offered_serial]
    · exact consistent.dialects _ _ registered
  | unregister given =>
    refine ⟨consistent.constant, ?_, consistent.builders, consistent.numbers⟩
    intro name found registered
    rw [Service.perform, Registry.dialects_unregister] at registered
    split at registered
    · cases registered
    · exact consistent.dialects _ _ registered
  | request asked =>
    unfold Service.perform
    dsimp only
    split
    · rename_i later b served
      exact consistent.builderFor served
    · exact consistent

theorem Consistent.run (consistent : Consistent others settings s) (events : List Event) :
    Consistent others settings (s.run others events) := by
  induction events generalizing s with
  | nil => exact consistent
  | cons event events ih => exact ih (consistent.perform event)

theorem consistent_initial (others : Nat → Dialect) (settings : Settings) :
    Consistent others settings (initial settings) := by
  refine ⟨rfl, ?_, ?_, ?_⟩
  · intro name found registered
    have registered : (Registry.empty.register ⟨0, .mysql⟩).dialects.get? name = some found :=
      registered
    rw [Registry.dialects_register] at registered
    split at registered
    · cases registered
      rfl
    · cases registered
  · intro name b held
    cases held
  · intro name b name' b' held
    cases held

/-! ### How long a builder serves -/

/-- No dialect but that of the builder was served under its name. -/
def Undisturbed (b : Served) (served : List Served) : Prop :=
  ∀ k ∈ served, k.registration.dialect.name = b.registration.dialect.name →
    k.registration = b.registration

/-- A builder that was served at some time: it is still kept if `kept` says so, and none of the
builders kept has its number otherwise. -/
structure Traces (b : Served) (s : Service) (kept : Prop) : Prop where
  held : kept → s.builders.get? b.registration.dialect.name = some b
  unique : ∀ name k, s.builders.get? name = some k → k.number = b.number → k = b ∧ kept
  bound : b.number < s.made

theorem Answer.traces (consistent : Consistent others settings later)
    (answer : Answer settings s found later b) : Traces b later True := by
  have held := answer.held
  refine ⟨fun _ => answer.registration ▸ held, ?_, (consistent.builders _ _ held).2.2.2⟩
  intro name k kept same
  exact ⟨consistent.numbers _ _ _ _ kept held same, trivial⟩

/-- One more builder is served: the one that is traced stays unless its place is taken. -/
theorem Traces.answer {kept : Prop} {k : Served} (traces : Traces b s kept)
    (consistent : Consistent others settings s) (answer : Answer settings s found later k) :
    Traces b later (kept ∧ Undisturbed b [k]) := by
  simp only [Undisturbed, List.mem_singleton, forall_eq]
  cases answer with
  | kept held same =>
    refine ⟨fun both => traces.held both.1, ?_, traces.bound⟩
    intro name k' held' number
    obtain ⟨rfl, still⟩ := traces.unique name k' held' number
    refine ⟨rfl, still, ?_⟩
    intro named
    rw [← same, named, traces.held still] at held
    cases held
    rfl
  | fresh other =>
    refine ⟨?_, ?_, Nat.lt_succ_of_lt traces.bound⟩
    · rintro ⟨still, quiet⟩
      have elsewhere : b.registration.dialect.name ≠ found.dialect.name := by
        intro named
        have held := traces.held still
        rw [named] at held
        exact other b held (quiet named.symm).symm
      rw [Entries.get?_put, if_neg elsewhere]
      exact traces.held still
    · intro name k' held number
      rw [Entries.get?_put] at held
      split at held
      · cases held
        exact absurd number (Nat.ne_of_gt traces.bound)
      · rename_i elsewhere
        obtain ⟨rfl, still⟩ := traces.unique name k' held number
        refine ⟨rfl, still, ?_⟩
        intro named
        exact absurd ((consistent.builders _ _ held).2.1.symm.trans named.symm) elsewhere

theorem Traces.perform {kept : Prop} (traces : Traces b s kept)
    (consistent : Consistent others settings s) (event : Event) :
    Traces b (s.perform others event) (kept ∧ Undisturbed b (s.served event)) := by
  have idle : (kept ∧ Undisturbed b []) = kept := by simp [Undisturbed]
  cases event with
  | register n =>
    rw [served, idle]
    exact ⟨traces.held, traces.unique, traces.bound⟩
  | unregister name =>
    rw [served, idle]
    exact ⟨traces.held, traces.unique, traces.bound⟩
  | request asked =>
    cases outcome : s.builderFor asked with
    | error e =>
      simp only [Service.perform, served, outcome, idle]
      exact traces
    | ok answered =>
      obtain ⟨later, k⟩ := answered
      obtain ⟨found, -, answer⟩ := consistent.answer outcome
      simp only [Service.perform, served, outcome]
      exact traces.answer consistent answer

theorem Traces.run {kept : Prop} (traces : Traces b s kept)
    (consistent : Consistent others settings s)
    (events : List Event) :
    Traces b (s.run others events) (kept ∧ Undisturbed b (s.servedBy others events)) := by
  induction events generalizing s kept with
  | nil => simpa [Undisturbed, servedBy, Service.run] using traces
  | cons event events ih =>
    have onward := ih (traces.perform consistent event) (consistent.perform event)
    have joined : Undisturbed b (s.servedBy others (event :: events)) ↔
        Undisturbed b (s.served event) ∧
          Undisturbed b ((s.perform others event).servedBy others events) := by
      simp only [Undisturbed, servedBy, List.mem_append, or_imp, forall_and]
    rw [joined, ← and_assoc]
    exact onward

/-! ### The answer to a request -/

/-- What is said of a request in some state: whatever its name means is served, nothing else makes
it fail, and its builder is served again as long as it may be. -/
structure Serves (others : Nat → Dialect) (settings : Settings) (s : Service)
    (asked : Option String) : Prop where
  current : ∀ found, s.registry.find? (s.meant asked) = some found →
    ∃ later b, s.builderFor asked = .ok (later, b) ∧ b.registration = found ∧
      b.builder = ⟨found.dialect, settings.depthLimit, settings.lengthLimit⟩
  unknown : s.registry.find? (s.meant asked) = none →
    s.builderFor asked = .error ⟨s.meant asked⟩ ∧ s.perform others (.request asked) = s
  lasting : ∀ later b, s.builderFor asked = .ok (later, b) → ∀ between again last b',
    (later.run others between).builderFor again = .ok (last, b') →
      (b'.number = b.number ↔ b' = b) ∧
      (b' = b ↔ b'.registration = b.registration ∧ Undisturbed b (later.servedBy others between))

theorem Traces.again {kept : Prop} {b' : Served} (traces : Traces b s kept)
    (answer : Answer settings s found later b') :
    (b'.number = b.number → b' = b) ∧ (b' = b ↔ b'.registration = b.registration ∧ kept) := by
  cases answer with
  | kept held same =>
    refine ⟨fun number => (traces.unique _ _ held number).1, ?_, ?_⟩
    · rintro rfl
      exact ⟨rfl, (traces.unique _ _ held rfl).2⟩
    · rintro ⟨registration, still⟩
      rw [← same, registration, traces.held still] at held
      exact (Option.some.inj held).symm
  | fresh other =>
    have above := traces.bound
    refine ⟨fun number => absurd number (Nat.ne_of_gt above), ?_, ?_⟩
    · rintro rfl
      exact absurd above (Nat.lt_irrefl _)
    · rintro ⟨registration, still⟩
      have registration : found = b.registration := registration
      exact absurd registration.symm (other b (registration ▸ traces.held still))

/-- After any history, a request is served by a builder for the very dialect that its name means
then, fails exactly if there is none, and shares its builder with a later one exactly if that means
the same dialect and no other of its name was served in between. -/
theorem run_serves (others : Nat → Dialect) (settings : Settings) (history : List Event)
    (asked : Option String) :
    Serves others settings ((initial settings).run others history) asked := by
  have consistent := (consistent_initial others settings).run history
  refine ⟨?_, ?_, ?_⟩
  · intro found finds
    obtain ⟨later, b, served, answer⟩ := consistent.builderFor_of_some finds
    obtain ⟨-, -, builder, -⟩ := (consistent.builderFor served).builders _ _ answer.held
    refine ⟨later, b, served, answer.registration, ?_⟩
    rw [builder, answer.registration]
  · intro missing
    have failed := builderFor_of_none missing
    refine ⟨failed, ?_⟩
    simp only [perform, failed]
  · intro later b served between again last b' served'
    obtain ⟨found, -, answer⟩ := consistent.answer served
    have consistent := consistent.builderFor served
    obtain ⟨found', -, answer'⟩ := (consistent.run between).answer served'
    have traces := (answer.traces consistent).run consistent between
    rw [true_and] at traces
    obtain ⟨number, shared⟩ := traces.again answer'
    exact ⟨⟨number, congrArg Served.number⟩, shared⟩

end SqlSyntax.Service
