import SqlSyntax.Proofs.Wire.JsonRoundTrip

/-!
# Compact JSON has no control characters

Whatever characters its texts and keys have, the compact text of a value has none below the space.
Values with numbers that are no integers are left out, as they are in the reading of such texts.
-/

namespace SqlSyntax.Json

/-- No character comes before the space. -/
def Printable (cs : List Char) : Prop :=
  ∀ c ∈ cs, 32 ≤ c.toNat

instance (cs : List Char) : Decidable (Printable cs) :=
  List.decidableBAll (fun c : Char => 32 ≤ c.toNat) cs

theorem printable_append {cs ds : List Char} :
    Printable (cs ++ ds) ↔ Printable cs ∧ Printable ds :=
  List.forall_mem_append

theorem printable_cons {c : Char} {cs : List Char} :
    Printable (c :: cs) ↔ 32 ≤ c.toNat ∧ Printable cs :=
  List.forall_mem_cons

theorem printable_hexCode (code : Nat) (control : code < 32) : Printable (hexCode code) := by
  revert code
  decide

theorem printable_compactChar (c : Char) : Printable (compactChar c) := by
  unfold compactChar commonEscape?
  split_ifs with quoted _ _ _ _ _ control
  · rcases quoted with rfl | rfl <;> decide
  · exact (by decide : Printable [Text.backslash, 'b'])
  · exact (by decide : Printable [Text.backslash, 't'])
  · exact (by decide : Printable [Text.backslash, 'n'])
  · exact (by decide : Printable [Text.backslash, 'f'])
  · exact (by decide : Printable [Text.backslash, 'r'])
  · exact printable_hexCode c.toNat control
  · intro d member
    obtain rfl := List.mem_singleton.mp member
    omega

theorem printable_quoted (s : String) : Printable (compact.quoted s).toList := by
  have marked : Printable [Text.doubleQuote] := by decide
  rw [toList_quoted]
  refine printable_cons.mpr ⟨by decide, printable_append.mpr ⟨?_, marked⟩⟩
  intro c member
  obtain ⟨original, -, member⟩ := List.mem_flatMap.mp member
  exact printable_compactChar original c member

theorem printable_integer (n : Int) : Printable (toString n).toList := by
  intro c member
  by_contra control
  have number := isNumberChar_of_mem_toString member
  have all : ∀ code < 32, isNumberChar (Char.ofNat code) = false := by decide
  rw [← Char.ofNat_toNat c, all c.toNat (by omega)] at number
  cases number

mutual

theorem printable_write : ∀ v : Value, v.Faithful → Printable (write compact v).toList
  | .plain .null, _ => by decide
  | .plain (.boolean true), _ => by decide
  | .plain (.boolean false), _ => by decide
  | .plain (.integer n), _ => printable_integer n
  | .plain (.text s), _ => printable_quoted s
  | .list items, faithful => by
    rw [toList_write_list]
    exact printable_cons.mpr ⟨by decide,
      printable_append.mpr ⟨printable_writeItems items faithful, by decide⟩⟩
  | .record fields, faithful => by
    rw [toList_write_record]
    exact printable_cons.mpr ⟨by decide,
      printable_append.mpr ⟨printable_writeFields fields faithful.2, by decide⟩⟩

theorem printable_writeItems : ∀ items : List Value, Value.FaithfulItems items →
    Printable (writeItems compact items).toList
  | [], _ => by decide
  | [v], faithful => printable_write v faithful.1
  | v :: next :: rest, faithful => by
    rw [toList_writeItems_cons]
    exact printable_append.mpr ⟨printable_write v faithful.1,
      printable_cons.mpr ⟨by decide, printable_writeItems (next :: rest) faithful.2⟩⟩

theorem printable_writeFields : ∀ fields : List (String × Value), Value.FaithfulFields fields →
    Printable (writeFields compact fields).toList
  | [], _ => by decide
  | [(key, v)], faithful => by
    rw [toList_writeFields_one]
    exact printable_append.mpr ⟨printable_quoted key,
      printable_cons.mpr ⟨by decide, printable_write v faithful.1⟩⟩
  | (key, v) :: next :: rest, faithful => by
    rw [toList_writeFields_cons]
    exact printable_append.mpr ⟨printable_quoted key, printable_cons.mpr ⟨by decide,
      printable_append.mpr ⟨printable_write v faithful.1,
        printable_cons.mpr ⟨by decide, printable_writeFields (next :: rest) faithful.2⟩⟩⟩⟩

end

end SqlSyntax.Json
