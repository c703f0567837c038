import SqlSyntax.Proofs.Service.Boundaries
import SqlSyntax.Proofs.Service.Ownership
import SqlSyntax.Proofs.Text.Utf8

/-!
# Bytes as input of a bridge

A text may be put to a bridge as its bytes. The answer is the same, and a native caller gets the
answer to the part in front of the first zero character. Bytes that are no text are answered as
well: the parser is not asked, and one buffer tells where the bytes go wrong.
-/

namespace SqlSyntax.Bridge

/-- One buffer more, which holds the text for its reader, and none touched. -/
structure Adds (b b' : Bridge) (a : Address) (text : String) : Prop where
  read : b'.read a = .ok text
  one : b'.outstanding = b.outstanding + 1
  kept : ∀ other, other ≠ a → b'.content? other = b.content? other

/-- A call with that input returns, however long it takes, and leaves the text in a new buffer. -/
def Stores (b : Bridge) (input : Input) (text : String) : Prop :=
  ∀ timing, ∃ b' a, b.parse timing input = .ok (b', a) ∧ b.Adds b' a text

variable {b : Bridge}

theorem adds_allocate {e : Envelope} (faithful : e.wire.Faithful) :
    b.Adds (b.allocate e.json).1 (b.allocate e.json).2 e.json where
  read := by
    unfold Bridge.read
    rw [content?_allocate]
    exact congrArg Except.ok (upToZero_of_not_mem (Envelope.zero_not_mem_json faithful))
  one := List.length_cons
  kept _ differs := content?_allocate_of_ne differs e.json

theorem stores_of_envelope {input : Input} {e : Envelope} (faithful : e.wire.Faithful)
    (answered : ∀ timing, b.envelope timing input = .ok e) : b.Stores input e.json := by
  intro timing
  refine ⟨_, _, ?_, adds_allocate faithful⟩
  rw [parse, answered timing]

/-- The answer does not depend on the time it takes. -/
theorem parse_text_timeless (sql : String) (timing timing' : Timing) :
    b.parse timing (.text sql) = b.parse timing' (.text sql) := by
  simp only [parse, envelope, Builder.build_snd]

theorem parse_bytes_encode (sql : String) (timing : Timing) :
    b.parse timing (.bytes (Utf8.encode sql)) = b.parse timing (.text sql) := by
  simp only [parse, envelope, Utf8.decode_encode]

theorem nativeInput_encode (sql : String) :
    nativeInput (some (Utf8.encode sql)) = .bytes (Utf8.encode (upToZero sql)) := by
  simp only [nativeInput, upToZero, Utf8.encode_eq, Utf8.takeWhile_bytesOf, String.toList_ofList]

/-- What is told about bytes that are no text. -/
def invalidAt (flaw : Utf8.Flaw) (place : Nat) : Envelope :=
  .failure ("input is not valid UTF-8: " ++ flaw.reason ++ " at byte " ++ toString place)

/-- The bytes of a text are answered as the text is, natively up to its first zero character; a text
is answered by its envelope unless a fault leaves the call; and bytes that are no text are answered
by the place at which their longest valid part ends. -/
theorem parse_bytes_agrees (b : Bridge) :
    (∀ sql timing timing',
        b.parse timing (.bytes (Utf8.encode sql)) = b.parse timing' (.text sql) ∧
          b.parse timing (nativeInput (some (Utf8.encode sql))) =
            b.parse timing' (.text (upToZero sql))) ∧
      (∀ sql, (∀ fault, ¬ b.builder.Raises sql fault) →
        ∃ e, b.builder.Answers sql e ∧ b.Stores (.text sql) e.json) ∧
      ∀ bytes, ¬ Utf8.Valid bytes →
        ∃ flaw place, Utf8.LongestValid bytes place ∧
          b.Stores (.bytes bytes) (invalidAt flaw place).json := by
  refine ⟨?_, ?_, ?_⟩
  · intro sql timing timing'
    rw [nativeInput_encode, parse_bytes_encode, parse_bytes_encode]
    exact ⟨parse_text_timeless sql timing timing', parse_text_timeless _ timing timing'⟩
  · intro sql calm
    obtain ⟨e, answers, built, faithful, -⟩ := Service.exists_envelope b.builder calm
    exact ⟨e, answers, stores_of_envelope faithful built⟩
  · intro bytes invalid
    obtain ⟨⟨flaw, place⟩, stops, longest⟩ := Utf8.decode_of_not_valid invalid
    refine ⟨flaw, place, longest, stores_of_envelope (Envelope.faithful_failure _) ?_⟩
    intro timing
    simp only [envelope, stops]
    rfl

/-- A letter, the first two bytes of the Euro sign, and a letter in place of the third. -/
def brokenEuro : List UInt8 := [0x61, 0xe2, 0x82, 0x61]

theorem parse_bytes_agrees_brokenEuro :
    ¬ Utf8.Valid brokenEuro ∧
      ∃ flaw place, Utf8.LongestValid brokenEuro place ∧
        zeros.Stores (.bytes brokenEuro) (invalidAt flaw place).json := by
  have invalid : ¬ Utf8.Valid brokenEuro := by
    rintro ⟨s, encoded⟩
    have read := Utf8.decode_encode s
    rw [encoded] at read
    cases read
  exact ⟨invalid, (parse_bytes_agrees zeros).2.2 brokenEuro invalid⟩

end SqlSyntax.Bridge
