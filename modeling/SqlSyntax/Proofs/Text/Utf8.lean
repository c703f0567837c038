import Mathlib.Data.List.Basic
import SqlSyntax.Text.Utf8

/-!
# Valid UTF-8

Bytes are valid if they are the encoding of some text. Reading gives that text back. Where there is
none, the error tells how many bytes stand before the first place at which no character can be read,
and this is the longest valid part in front. Which of the three flaws is reported is left aside.
-/

namespace SqlSyntax.Utf8

/-! ### One character -/

theorem isContinuation_iff {b : UInt8} :
    isContinuation b = true ↔ 0x80 ≤ b.toNat ∧ b.toNat < 0xc0 := by
  simp [isContinuation, UInt8.le_iff_toNat_le, UInt8.lt_iff_toNat_lt]

theorem mayFollow_iff {a b : UInt8} :
    mayFollow a b = true ↔
      (0x80 ≤ b.toNat ∧ b.toNat < 0xc0) ∧ (a.toNat = 0xe0 → 0xa0 ≤ b.toNat) ∧
        (a.toNat = 0xed → b.toNat < 0xa0) ∧ (a.toNat = 0xf0 → 0x90 ≤ b.toNat) ∧
        (a.toNat = 0xf4 → b.toNat < 0x90) := by
  have same (n : UInt8) : a = n ↔ a.toNat = n.toNat := UInt8.toNat_inj.symm
  simp only [mayFollow, Bool.and_eq_true, isContinuation_iff, same]
  split_ifs <;> simp_all [UInt8.le_iff_toNat_le, UInt8.lt_iff_toNat_lt]

/-- The bytes are a sequence for one character, which has that code. -/
inductive Spells : List UInt8 → Nat → Prop
  | one {a : UInt8} (first : a.toNat < 0x80) : Spells [a] a.toNat
  | two {a b : UInt8} (first : 0xc2 ≤ a.toNat ∧ a.toNat < 0xe0) (second : mayFollow a b = true) :
      Spells [a, b] (extended (a.toNat - 0xc0) b)
  | three {a b c : UInt8} (first : 0xe0 ≤ a.toNat ∧ a.toNat < 0xf0) (second : mayFollow a b = true)
      (third : isContinuation c = true) :
      Spells [a, b, c] (extended (extended (a.toNat - 0xe0) b) c)
  | four {a b c d : UInt8} (first : 0xf0 ≤ a.toNat ∧ a.toNat < 0xf5) (second : mayFollow a b = true)
      (third : isContinuation c = true) (fourth : isContinuation d = true) :
      Spells [a, b, c, d] (extended (extended (extended (a.toNat - 0xf0) b) c) d)

variable {bytes : List UInt8} {code : Nat}

/-- Overlong forms, surrogates and codes past the last one are ruled out. -/
theorem Spells.isValidChar (spells : Spells bytes code) : code.isValidChar := by
  unfold Nat.isValidChar
  cases spells with
  | one first => omega
  | two first second =>
    have second := mayFollow_iff.mp second
    unfold extended
    omega
  | three first second third =>
    have second := mayFollow_iff.mp second
    have third := isContinuation_iff.mp third
    unfold extended
    omega
  | four first second third fourth =>
    have second := mayFollow_iff.mp second
    have third := isContinuation_iff.mp third
    have fourth := isContinuation_iff.mp fourth
    unfold extended
    omega

theorem ofNat_eq {n : Nat} {b : UInt8} (same : n = b.toNat) : UInt8.ofNat n = b := by
  rw [same, UInt8.ofNat_toNat]

/-- A sequence is the encoding of its character. -/
theorem Spells.encodeChar (spells : Spells bytes code) :
    String.utf8EncodeChar (Char.ofNat code) = bytes := by
  have coded : (Char.ofNat code).val.toNat = code := by
    rw [Char.ofNat, dif_pos spells.isValidChar]
    rfl
  unfold String.utf8EncodeChar
  rw [coded]
  cases spells with
  | one first => rw [if_pos (by omega), UInt8.ofNat_toNat]
  | two first second =>
    have second := mayFollow_iff.mp second
    unfold extended
    rw [if_neg (by omega), if_pos (by omega)]
    simp only [List.cons.injEq, and_true]
    refine ⟨ofNat_eq ?_, ofNat_eq ?_⟩ <;> omega
  | three first second third =>
    have second := mayFollow_iff.mp second
    have third := isContinuation_iff.mp third
    unfold extended
    rw [if_neg (by omega), if_neg (by omega), if_pos (by omega)]
    simp only [List.cons.injEq, and_true]
    refine ⟨ofNat_eq ?_, ofNat_eq ?_, ofNat_eq ?_⟩ <;> omega
  | four first second third fourth =>
    have second := mayFollow_iff.mp second
    have third := isContinuation_iff.mp third
    have fourth := isContinuation_iff.mp fourth
    unfold extended
    rw [if_neg (by omega), if_neg (by omega), if_neg (by omega)]
    simp only [List.cons.injEq, and_true]
    refine ⟨ofNat_eq ?_, ofNat_eq ?_, ofNat_eq ?_, ofNat_eq ?_⟩ <;> omega

theorem exists_byte {n : Nat} (small : n < 256) : ∃ b : UInt8, UInt8.ofNat n = b ∧ b.toNat = n :=
  ⟨_, rfl, UInt8.toNat_ofNat_of_lt' small⟩

/-- The encoding of a character is a sequence for it. -/
theorem spells_encodeChar (c : Char) : Spells (String.utf8EncodeChar c) c.toNat := by
  have valid : c.toNat < 0xd800 ∨ 0xdfff < c.toNat ∧ c.toNat < 0x110000 := c.valid
  unfold String.utf8EncodeChar
  rw [show c.val.toNat = c.toNat from rfl]
  generalize c.toNat = code at valid
  dsimp only
  split_ifs with one two three
  · obtain ⟨a, isFirst, rfl⟩ := exists_byte (n := code) (by omega)
    rw [isFirst]
    exact .one (by omega)
  · obtain ⟨a, isFirst, first⟩ := exists_byte (n := code / 64 % 32 + 192) (by omega)
    obtain ⟨b, isSecond, second⟩ := exists_byte (n := code % 64 + 128) (by omega)
    have coded : code = extended (a.toNat - 0xc0) b := by
      unfold extended
      omega
    rw [isFirst, isSecond, coded]
    exact .two (by omega) (mayFollow_iff.mpr (by omega))
  · obtain ⟨a, isFirst, first⟩ := exists_byte (n := code / 4096 % 16 + 224) (by omega)
    obtain ⟨b, isSecond, second⟩ := exists_byte (n := code / 64 % 64 + 128) (by omega)
    obtain ⟨c, isThird, third⟩ := exists_byte (n := code % 64 + 128) (by omega)
    have coded : code = extended (extended (a.toNat - 0xe0) b) c := by
      unfold extended
      omega
    rw [isFirst, isSecond, isThird, coded]
    exact .three (by omega) (mayFollow_iff.mpr (by omega)) (isContinuation_iff.mpr (by omega))
  · obtain ⟨a, isFirst, first⟩ := exists_byte (n := code / 262144 % 8 + 240) (by omega)
    obtain ⟨b, isSecond, second⟩ := exists_byte (n := code / 4096 % 64 + 128) (by omega)
    obtain ⟨c, isThird, third⟩ := exists_byte (n := code / 64 % 64 + 128) (by omega)
    obtain ⟨d, isFourth, fourth⟩ := exists_byte (n := code % 64 + 128) (by omega)
    have coded : code = extended (extended (extended (a.toNat - 0xf0) b) c) d := by
      unfold extended
      omega
    rw [isFirst, isSecond, isThird, isFourth, coded]
    exact .four (by omega) (mayFollow_iff.mpr (by omega)) (isContinuation_iff.mpr (by omega))
      (isContinuation_iff.mpr (by omega))

/-- No two characters can be read at one place. -/
theorem encodeChar_append_inj {c d : Char} {rest others : List UInt8}
    (same : String.utf8EncodeChar c ++ rest = String.utf8EncodeChar d ++ others) :
    c = d ∧ rest = others := by
  have first : c = d := by
    have read := congrArg (fun bytes => bytes.toByteArray.utf8DecodeChar? 0) same
    simpa [List.toByteArray_append, ByteArray.utf8DecodeChar?_utf8EncodeChar_append] using read
  subst first
  exact ⟨rfl, List.append_cancel_left same⟩

/-! ### One step of the reader -/

/-- No character can be read at the front. -/
def Stuck (bytes : List UInt8) : Prop :=
  ∀ c rest, bytes ≠ String.utf8EncodeChar c ++ rest

theorem Spells.not_stuck (spells : Spells bytes code) (rest : List UInt8) :
    ¬ Stuck (bytes ++ rest) := by
  intro stuck
  rw [← spells.encodeChar] at stuck
  exact stuck _ rest rfl

theorem decodeFrom_spells (spells : Spells bytes code) (start : Nat) (taken : List Char)
    (rest : List UInt8) :
    decodeFrom start taken (bytes ++ rest) =
      decodeFrom (start + bytes.length) (Char.ofNat code :: taken) rest := by
  cases spells <;> simp only [List.cons_append, List.nil_append] <;> rw [decodeFrom.eq_def] <;>
    grind [UInt8.lt_iff_toNat_lt]

theorem decodeFrom_encodeChar (c : Char) (start : Nat) (taken : List Char) (rest : List UInt8) :
    decodeFrom start taken (String.utf8EncodeChar c ++ rest) =
      decodeFrom (start + (String.utf8EncodeChar c).length) (c :: taken) rest := by
  rw [decodeFrom_spells (spells_encodeChar c), Char.ofNat_toNat]

/-- Where no character can be read, the reader stops at once. -/
theorem decodeFrom_stuck (stuck : Stuck bytes) (left : bytes ≠ []) (start : Nat)
    (taken : List Char) : ∃ flaw, decodeFrom start taken bytes = .error ⟨flaw, start⟩ := by
  -- In the four cases in which the reader would go on there is a sequence at the front.
  fun_cases decodeFrom start taken bytes with
  | case1 => exact absurd rfl left
  | case2 a rest one =>
    have spells : Spells [a] _ := .one (UInt8.lt_iff_toNat_lt.mp one)
    exact absurd stuck (spells.not_stuck rest)
  | case6 a _ within b rest second two =>
    have spells : Spells [a, b] _ := .two (by grind [UInt8.lt_iff_toNat_lt]) (by grind)
    exact absurd stuck (spells.not_stuck rest)
  | case9 a _ within b second more c rest third three =>
    have spells : Spells [a, b, c] _ := .three (by grind [UInt8.lt_iff_toNat_lt]) (by grind)
      (by grind)
    exact absurd stuck (spells.not_stuck rest)
  | case12 a _ within b second more c third most d rest fourth =>
    have spells : Spells [a, b, c, d] _ :=
      .four (by grind [UInt8.lt_iff_toNat_lt]) (by grind) (by grind) (by grind)
    exact absurd stuck (spells.not_stuck rest)
  | _ => exact ⟨_, rfl⟩

/-! ### Whole texts -/

/-- The bytes of characters, one after the other. -/
def bytesOf (cs : List Char) : List UInt8 :=
  cs.flatMap String.utf8EncodeChar

theorem bytesOf_cons (c : Char) (cs : List Char) :
    bytesOf (c :: cs) = String.utf8EncodeChar c ++ bytesOf cs := rfl

private theorem loop_toList (bytes : ByteArray) (i : Nat) (read : List UInt8) :
    ByteArray.toList.loop bytes i read = read.reverse ++ bytes.data.toList.drop i := by
  fun_induction ByteArray.toList.loop bytes i read with
  | case1 i read within ih =>
    have there : i < bytes.data.toList.length := within
    rw [ih, List.reverse_cons, List.append_assoc, List.singleton_append,
      List.drop_eq_getElem_cons there]
    congr 2
    exact getElem!_pos bytes.data i within
  | case2 i read beyond =>
    have past : bytes.data.toList.length ≤ i := Nat.le_of_not_lt beyond
    rw [List.drop_eq_nil_of_le past, List.append_nil]

theorem encode_eq (s : String) : encode s = bytesOf s.toList := by
  have bytes : s.toUTF8 = (bytesOf s.toList).toByteArray := by
    rw [String.toUTF8_eq_toByteArray, ← String.utf8Encode_toList]
    rfl
  rw [encode, bytes, ByteArray.toList, loop_toList, List.toList_data_toByteArray]
  rfl

theorem decodeFrom_bytesOf (cs : List Char) (start : Nat) (taken : List Char)
    (rest : List UInt8) :
    decodeFrom start taken (bytesOf cs ++ rest) =
      decodeFrom (start + (bytesOf cs).length) (cs.reverse ++ taken) rest := by
  induction cs generalizing start taken with
  | nil => rfl
  | cons c cs ih =>
    rw [bytesOf_cons, List.append_assoc, decodeFrom_encodeChar, ih, List.length_append,
      Nat.add_assoc, List.reverse_cons, List.append_assoc, List.singleton_append]

theorem decode_encode (s : String) : decode (encode s) = .ok s := by
  have read := decodeFrom_bytesOf s.toList 0 [] []
  rw [List.append_nil, List.append_nil, decodeFrom, List.reverse_reverse] at read
  rw [decode, encode_eq, read]
  exact congrArg Except.ok String.ofList_toList

/-- Characters are read from the front until no more can be read. -/
theorem exists_stuck (bytes : List UInt8) : ∃ cs rest, bytes = bytesOf cs ++ rest ∧ Stuck rest := by
  by_cases stuck : Stuck bytes
  · exact ⟨[], bytes, rfl, stuck⟩
  · simp only [Stuck, not_forall, not_not] at stuck
    obtain ⟨c, behind, rfl⟩ := stuck
    have shorter : behind.length < (String.utf8EncodeChar c ++ behind).length := by
      have positive := c.utf8Size_pos
      rw [List.length_append, String.length_utf8EncodeChar]
      omega
    obtain ⟨cs, rest, split, stuck⟩ := exists_stuck behind
    exact ⟨c :: cs, rest, by rw [bytesOf_cons, List.append_assoc, ← split], stuck⟩
termination_by bytes.length

/-- The bytes are the encoding of a text. -/
def Valid (bytes : List UInt8) : Prop :=
  ∃ s : String, encode s = bytes

theorem valid_iff : Valid bytes ↔ ∃ cs, bytesOf cs = bytes := by
  constructor
  · rintro ⟨s, rfl⟩
    exact ⟨s.toList, (encode_eq s).symm⟩
  · rintro ⟨cs, rfl⟩
    exact ⟨.ofList cs, by rw [encode_eq, String.toList_ofList]⟩

/-- The longest valid part in front of the bytes has that length. -/
structure LongestValid (bytes : List UInt8) (length : Nat) : Prop where
  reached : ∃ front, front <+: bytes ∧ Valid front ∧ front.length = length
  longest : ∀ front, front <+: bytes → Valid front → front.length ≤ length

/-- What is valid in front ends before the place at which no character can be read. -/
theorem length_le_of_stuck {rest : List UInt8} (stuck : Stuck rest) {cs ds : List Char}
    (front : bytesOf ds <+: bytesOf cs ++ rest) : (bytesOf ds).length ≤ (bytesOf cs).length := by
  induction ds generalizing cs with
  | nil => exact Nat.zero_le _
  | cons d ds ih =>
    obtain ⟨behind, split⟩ := front
    rw [bytesOf_cons, List.append_assoc] at split
    cases cs with
    | nil => exact absurd split.symm (stuck d _)
    | cons c cs =>
      rw [bytesOf_cons, List.append_assoc] at split
      obtain ⟨rfl, onward⟩ := encodeChar_append_inj split
      rw [bytesOf_cons, bytesOf_cons, List.length_append, List.length_append]
      exact Nat.add_le_add_left (ih ⟨behind, onward⟩) _

theorem longestValid_of_stuck {rest : List UInt8} (stuck : Stuck rest) (cs : List Char) :
    LongestValid (bytesOf cs ++ rest) (bytesOf cs).length where
  reached := ⟨_, List.prefix_append _ _, valid_iff.mpr ⟨cs, rfl⟩, rfl⟩
  longest front isFront valid := by
    obtain ⟨ds, rfl⟩ := valid_iff.mp valid
    exact length_le_of_stuck stuck isFront

/-- The error of bytes that are not valid tells the length of their longest valid part in front. -/
theorem decode_of_not_valid (invalid : ¬ Valid bytes) :
    ∃ e, decode bytes = .error e ∧ LongestValid bytes e.start := by
  obtain ⟨cs, rest, rfl, stuck⟩ := exists_stuck bytes
  have left : rest ≠ [] := by
    rintro rfl
    exact invalid (valid_iff.mpr ⟨cs, (List.append_nil _).symm⟩)
  obtain ⟨flaw, stops⟩ := decodeFrom_stuck stuck left (0 + (bytesOf cs).length) (cs.reverse ++ [])
  refine ⟨⟨flaw, (bytesOf cs).length⟩, ?_, longestValid_of_stuck stuck cs⟩
  rw [decode, decodeFrom_bytesOf, stops, Nat.zero_add]

/-! ### Zero bytes -/

/-- A byte of a sequence is the code itself, or none of the first half. -/
theorem Spells.eq_or_le (spells : Spells bytes code) :
    ∀ b ∈ bytes, b.toNat = code ∨ 0x80 ≤ b.toNat := by
  cases spells with
  | one first => simp
  | two first second =>
    have second := mayFollow_iff.mp second
    simp only [List.forall_mem_cons, List.not_mem_nil, IsEmpty.forall_iff, implies_true, and_true]
    omega
  | three first second third =>
    have second := mayFollow_iff.mp second
    have third := isContinuation_iff.mp third
    simp only [List.forall_mem_cons, List.not_mem_nil, IsEmpty.forall_iff, implies_true, and_true]
    omega
  | four first second third fourth =>
    have second := mayFollow_iff.mp second
    have third := isContinuation_iff.mp third
    have fourth := isContinuation_iff.mp fourth
    simp only [List.forall_mem_cons, List.not_mem_nil, IsEmpty.forall_iff, implies_true, and_true]
    omega

/-- Only the zero character has a zero byte. -/
theorem ne_zero_of_mem_encodeChar {c : Char} (other : c ≠ '\x00') :
    ∀ b ∈ String.utf8EncodeChar c, (b != 0) = true := by
  have code : c.toNat ≠ 0 := fun zero => other (Char.toNat_inj.mp zero)
  intro b member
  rw [bne_iff_ne]
  rintro rfl
  rcases (spells_encodeChar c).eq_or_le 0 member with zero | high
  · exact code zero.symm
  · exact absurd high (by decide)

/-- Up to the first zero byte stand the characters up to the first zero character. -/
theorem takeWhile_bytesOf (cs : List Char) :
    (bytesOf cs).takeWhile (· != 0) = bytesOf (cs.takeWhile (· != '\x00')) := by
  induction cs with
  | nil => rfl
  | cons c cs ih =>
    by_cases zero : c = '\x00'
    · subst zero
      rfl
    · have kept : (c :: cs).takeWhile (· != '\x00') = c :: cs.takeWhile (· != '\x00') := by
        simp [zero]
      rw [bytesOf_cons, List.takeWhile_append_of_pos (ne_zero_of_mem_encodeChar zero), ih, kept,
        bytesOf_cons]

end SqlSyntax.Utf8
