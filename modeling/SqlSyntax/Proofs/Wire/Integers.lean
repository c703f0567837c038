import Mathlib.Data.List.Basic
import SqlSyntax.Wire.Value

/-!
# Integers in a value

A value is within a limit on digits exactly if every integer that stands somewhere in it is.
-/

namespace SqlSyntax.Value

/-- The integer stands somewhere in the value. -/
inductive Mentions (n : Int) : Value → Prop
  | here : Mentions n (.integer n)
  | item {items : List Value} {v : Value} (member : v ∈ items) (inside : Mentions n v) :
    Mentions n (.list items)
  | field {fields : List (String × Value)} {e : String × Value} (member : e ∈ fields)
    (inside : Mentions n e.2) : Mentions n (.record fields)

theorem mentions_list {n : Int} {items : List Value} :
    (list items).Mentions n ↔ ∃ v ∈ items, v.Mentions n := by
  constructor
  · rintro (_ | ⟨member, inside⟩)
    exact ⟨_, member, inside⟩
  · rintro ⟨v, member, inside⟩
    exact .item member inside

theorem mentions_record {n : Int} {fields : List (String × Value)} :
    (record fields).Mentions n ↔ ∃ e ∈ fields, e.2.Mentions n := by
  constructor
  · rintro (_ | _ | ⟨member, inside⟩)
    exact ⟨_, member, inside⟩
  · rintro ⟨e, member, inside⟩
    exact .field member inside

variable {limit : Option Nat}

theorem isWithin_plain (l : Literal) :
    (plain l).isWithin limit ↔ ∀ n, (plain l).Mentions n → Numeral.isWithin limit n := by
  cases l with
  | integer n =>
    constructor
    · rintro short _ ⟨⟩
      exact short
    · exact fun all => all n .here
  | _ =>
    simp only [isWithin, true_iff]
    rintro n ⟨⟩

mutual

theorem isWithin_iff :
    (v : Value) → (v.isWithin limit ↔ ∀ n, v.Mentions n → Numeral.isWithin limit n)
  | .plain l => isWithin_plain l
  | .list items => by
    rw [isWithin, areWithin_iff items]
    simp only [mentions_list, forall_exists_index, and_imp]
    exact ⟨fun all n v member => all v member n, fun all v member n => all n v member⟩
  | .record fields => by
    rw [isWithin, fieldsAreWithin_iff fields]
    simp only [mentions_record, forall_exists_index, and_imp]
    exact ⟨fun all n e member => all e member n, fun all e member n => all n e member⟩

theorem areWithin_iff : (items : List Value) →
    (areWithin limit items ↔ ∀ v ∈ items, ∀ n, v.Mentions n → Numeral.isWithin limit n)
  | [] => by simp [areWithin]
  | v :: rest => by
    rw [areWithin, Bool.and_eq_true, isWithin_iff v, areWithin_iff rest, List.forall_mem_cons]

theorem fieldsAreWithin_iff : (fields : List (String × Value)) →
    (fieldsAreWithin limit fields ↔ ∀ e ∈ fields, ∀ n, e.2.Mentions n → Numeral.isWithin limit n)
  | [] => by simp [fieldsAreWithin]
  | (key, v) :: rest => by
    rw [fieldsAreWithin, Bool.and_eq_true, isWithin_iff v, fieldsAreWithin_iff rest,
      List.forall_mem_cons]

end

end SqlSyntax.Value
