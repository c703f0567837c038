import SqlSyntax.Proofs.Grammar.MarkerCount
import SqlSyntax.Proofs.Grammar.Run

/-!
# The number of markers during a run

As long as nothing on the stack has failed, the values on it hold as many markers as have been
numbered.
-/

namespace SqlSyntax.Grammar

/-- The orders of the markers in the value of an entry, if it has one. -/
def Entry.markers (e : Entry) : List Int :=
  match e with
  | ⟨_, .nonterminal n, .ok v⟩ => n.markers v
  | _ => []

def Entry.IsSound (e : Entry) : Prop :=
  ∃ v, e.value = .ok v

theorem valuesOf_ok {symbols : List Symbol} {entries : List Entry} {vs : Values symbols}
    (found : valuesOf symbols entries = some (.ok vs)) :
    (∀ e ∈ entries, e.IsSound) ∧
      ∀ earlier, Values.markersAfter earlier symbols vs =
        earlier.getD [] ++ entries.flatMap Entry.markers := by
  induction symbols generalizing entries with
  | nil =>
    cases entries with
    | nil =>
      refine ⟨fun _ member => (List.not_mem_nil member).elim, fun earlier => ?_⟩
      rw [Values.markersAfter, List.flatMap_nil, List.append_nil]
    | cons e entries => simp [valuesOf] at found
  | cons s rest ih =>
    cases entries with
    | nil => simp [valuesOf] at found
    | cons e entries =>
      obtain ⟨state, symbol, value⟩ := e
      obtain rfl : symbol = s := by
        have := symbols_of_valuesOf found
        exact (List.cons.inj this).1
      rw [valuesOf_cons] at found
      obtain ⟨later, others, joined⟩ := Option.map_eq_some_iff.mp found
      cases value with
      | error err => cases joined
      | ok v =>
        cases later with
        | error err => cases joined
        | ok ws =>
          cases joined
          obtain ⟨sound, markers⟩ := ih others
          refine ⟨?_, ?_⟩
          · rintro e (_ | ⟨_, member⟩)
            · exact ⟨v, rfl⟩
            · exact sound e member
          · intro earlier
            cases symbol with
            | terminal t =>
              refine (markers earlier).trans ?_
              rw [List.flatMap_cons]
              rfl
            | nonterminal n =>
              rw [List.flatMap_cons]
              cases earlier with
              | none => exact markers _
              | some earlier => exact (markers _).trans (List.append_assoc _ _ _)

theorem Production.length_markers (m : Nat) (p : Production) (vs : Values p.rhs) :
    (p.markers m vs).length + (if p.isMarker then 0 else 1) =
      (Values.markersAfter none p.rhs vs).length + 1 := by
  unfold Production.markers
  split
  · rename_i marks
    unfold Production.isMarker at marks
    split at marks
    · rfl
    · rfl
    · cases marks
  · rfl

/-- If all values are there, they hold `m` markers. -/
def Stack.Counts (m : Nat) (stack : Stack) : Prop :=
  (∀ e ∈ stack, e.IsSound) → (stack.flatMap Entry.markers).length = m

variable {a : Automaton} {t : Terminal} {p : Production} {m m' fuel : Nat} {stack stack' : Stack}

theorem Stack.Counts.reduce (counts : Stack.Counts m stack)
    (reduced : Grammar.reduce a p m stack = some stack') : Stack.Counts (counted p m) stack' := by
  obtain ⟨values, target, found, moved, rfl⟩ := reduce_eq_some_iff.mp reduced
  intro sound
  obtain ⟨v, whole⟩ := sound _ List.mem_cons_self
  cases values with
  | error err => cases whole
  | ok vs =>
    obtain ⟨top, markers⟩ := valuesOf_ok found
    have before := counts (by
      intro e member
      rw [← List.take_append_drop p.rhs.length stack] at member
      obtain above | below := List.mem_append.mp member
      · exact top e (List.mem_reverse.mpr above)
      · exact sound e (List.mem_cons_of_mem _ below))
    rw [← List.take_append_drop p.rhs.length stack, List.flatMap_append, List.length_append]
      at before
    have own : (p.lhs.markers v).length = (p.markers m vs).length := by
      have := p.build_markers m vs
      rw [show p.build m vs = .ok v from whole] at this
      exact this.length_eq
    have taken : (Values.markersAfter none p.rhs vs).length =
        ((stack.take p.rhs.length).flatMap Entry.markers).length := by
      rw [markers none, Option.getD_none, List.nil_append]
      exact ((List.reverse_perm _).flatMap_right _).length_eq
    have grown := p.length_markers m vs
    have shown : Entry.markers ⟨target, .nonterminal p.lhs, built p m (.ok vs)⟩ =
        p.lhs.markers v := by
      rw [show built p m (.ok vs) = .ok v from whole]
      rfl
    rw [List.flatMap_cons, List.length_append, shown, counted]
    split_ifs at grown ⊢ <;> omega

theorem Stack.Counts.settle {target : Nat} {settled : Stack} (counts : Stack.Counts m stack)
    (ready : Grammar.settle a t fuel m stack = .ready settled m' target) :
    Stack.Counts m' settled := by
  induction fuel generalizing m stack with
  | zero => cases ready
  | succ fuel ih =>
    obtain refused | ⟨target', act, done⟩ | ⟨p, stack', act, reduced, last | ⟨goes, next⟩⟩ :=
      settle_cases a t fuel m stack
    · rw [refused] at ready
      cases ready
    · rw [done] at ready
      cases ready
      exact counts
    · rw [last.2.2] at ready
      cases ready
    · rw [next] at ready
      exact ih (counts.reduce reduced) ready

theorem Step.counts {c d : Configuration} (step : Step a c d)
    (counts : Stack.Counts c.markers c.stack) : Stack.Counts d.markers d.stack := by
  cases step with
  | blank ahead => exact counts
  | @token _ _ m stack _ _ settled m' _ ahead ready =>
    have counts : Stack.Counts m stack := counts
    have later := counts.settle ready
    exact fun sound => later fun e member => sound e (List.mem_cons_of_mem _ member)

end SqlSyntax.Grammar
