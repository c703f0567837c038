import Mathlib.Data.List.TakeWhile
import SqlSyntax.Client.Query
import SqlSyntax.Proofs.Envelope.Outcome
import SqlSyntax.Proofs.View.Data
import SqlSyntax.Proofs.Wire.JsonPrintable

/-!
# Delivery of envelopes

Buffers are read up to their first zero character. Since the text of an envelope has none, whatever
the statement held, a reader gets the whole of it, and a client finds in it the very trees or the
very reason that were put there, unless the place of a node in its list has too many digits to be
read. Nothing is said about a call that is left by a fault.
-/

namespace SqlSyntax

namespace View

variable {d : Dialect}

theorem preorder_eq (v : View) : v.preorder = v :: preorders v.children := by
  cases v
  rw [preorder]

theorem mem_preorders {views : List View} {w : View} :
    w ∈ preorders views ↔ ∃ v ∈ views, w ∈ v.preorder := by
  induction views with
  | nil => simp [preorders]
  | cons v rest ih => simp [preorders, ih]

/-- By induction on the levels: an origin is the only thing added to what describes a node. -/
theorem simpleData_image {budget : Nat} {n : Node} {v : View} (image : image d budget n = some v) :
    ∀ w ∈ v.preorder, w.SimpleData := by
  induction budget generalizing n v with
  | zero => cases image
  | succ budget ih =>
    obtain ⟨-, views, images, rfl⟩ := exists_of_image image
    intro w member
    rw [preorder_eq] at member
    rcases List.mem_cons.mp member with rfl | below
    · exact simpleData_describe n
    · obtain ⟨_, view, member⟩ := mem_preorders.mp below
      obtain ⟨c, -, u, image, rfl⟩ := exists_left_of_forall₂ images view
      have simple := ih image
      rw [preorder_eq] at member simple
      rcases List.mem_cons.mp member with rfl | below
      · exact (simple u List.mem_cons_self).tagged c.field c.index
      · exact simple w (List.mem_cons_of_mem _ below)

end View

theorem Builder.Succeeds.simpleData {b : Builder} {sql : String} {trees : List View}
    (succeeds : b.Succeeds sql trees) : ∀ v ∈ View.preorders trees, v.SimpleData := by
  obtain ⟨statements, -, images⟩ := succeeds_iff.mp succeeds
  intro v member
  obtain ⟨tree, listed, member⟩ := View.mem_preorders.mp member
  obtain ⟨n, -, image⟩ := exists_left_of_forall₂ (mapM_eq_some_iff.mp images) listed
  exact View.simpleData_image image v member

namespace Envelope

theorem faithful_failure (reason : String) : (Envelope.failure reason).wire.Faithful :=
  ⟨by simp [Entries.keys], trivial, trivial, trivial⟩

theorem isTellable_ok_iff {trees : List View} (simple : ∀ v ∈ View.preorders trees, v.SimpleData) :
    (Envelope.ok trees).wire.isTellable ↔
      ∀ v ∈ View.preorders trees, v.DataWithin Numeral.digitLimit :=
  isWithin_some_wire_iff simple

theorem zero_not_mem_json {e : Envelope} (faithful : e.wire.Faithful) : '\x00' ∉ e.json.toList := by
  intro member
  have printable := Json.printable_write e.wire faithful '\x00' member
  exact absurd printable (by decide)

end Envelope

namespace Query

theorem decodeTrees_wires (trees : List View) : decodeTrees (View.wires trees) = .ok trees := by
  induction trees with
  | nil => rfl
  | cons v rest ih =>
    rw [View.wires, decodeTrees, View.ofWire_wire, ih]
    rfl

theorem ofJson_ok {trees : List View} (text : String)
    (faithful : (Envelope.ok trees).wire.Faithful) :
    ofJson text (Envelope.ok trees).json =
      if (Envelope.ok trees).wire.isTellable then .ok ⟨trees, text, []⟩
      else .error .unreadable := by
  unfold ofJson Envelope.json
  rw [Json.read?_write faithful]
  cases (Envelope.ok trees).wire.isTellable with
  | false => rfl
  | true =>
    have decoded := decodeTrees_wires trees
    simp [Envelope.wire, Value.get?, List.lookup_cons, decoded]

theorem ofJson_failure (text reason : String) :
    ofJson text (Envelope.failure reason).json = .error (.rejected reason) := by
  unfold ofJson Envelope.json
  rw [Json.read?_write (Envelope.faithful_failure reason)]
  rfl

end Query

namespace Bridge

variable {b : Bridge} {timing : Timing} {sql : String}

theorem upToZero_of_not_mem {text : String} (whole : '\x00' ∉ text.toList) :
    upToZero text = text := by
  have other : ∀ c ∈ text.toList, (c != '\x00') = true := by
    intro c member
    rw [bne_iff_ne]
    rintro rfl
    exact whole member
  rw [upToZero, List.takeWhile_eq_self_iff.mpr other, String.ofList_toList]

theorem content?_allocate (b : Bridge) (text : String) :
    (b.allocate text).1.content? (b.allocate text).2 = some text := by
  simp [allocate, content?]

/-- What an envelope's text goes through on its way to the reader and to the client. -/
structure Delivers (b : Bridge) (timing : Timing) (sql : String) (e : Envelope) : Prop where
  whole : '\x00' ∉ e.json.toList
  stored : ∃ b' a, b.parse timing (.text sql) = .ok (b', a) ∧ b'.content? a = some e.json ∧
    b'.read a = .ok e.json
  trees : ∀ trees, e = .ok trees →
    (∀ v ∈ View.preorders trees, v.DataWithin Numeral.digitLimit) →
    (Query.parse b timing sql).2 = .ok ⟨trees, sql, []⟩
  reason : ∀ reason, e = .failure reason → (Query.parse b timing sql).2 = .error (.rejected reason)

/-- The text of an envelope is read as it was stored. -/
theorem read_parse {e : Envelope} (built : (b.builder.build timing sql).2 = .ok e)
    (faithful : e.wire.Faithful) :
    ∃ b' a, b.parse timing (.text sql) = .ok (b', a) ∧ b'.content? a = some e.json ∧
      b'.read a = .ok e.json := by
  refine ⟨(b.allocate e.json).1, (b.allocate e.json).2, ?_, content?_allocate b e.json, ?_⟩
  · simp only [parse, envelope, built]
  · unfold Bridge.read
    rw [content?_allocate]
    exact congrArg Except.ok (upToZero_of_not_mem (Envelope.zero_not_mem_json faithful))

theorem query_parse {e : Envelope} (built : (b.builder.build timing sql).2 = .ok e)
    (faithful : e.wire.Faithful) : (Query.parse b timing sql).2 = Query.ofJson sql e.json := by
  obtain ⟨b', a, parsed, held, read⟩ := read_parse built faithful
  have released : ∃ freed, b'.release a = .ok freed := by
    unfold release
    rw [held]
    exact ⟨_, rfl⟩
  obtain ⟨freed, released⟩ := released
  simp only [Query.parse, parsed, read, released]

/-- A text has an envelope unless a fault leaves the call, and the envelope is delivered whole. -/
theorem parse_delivers (b : Bridge) (timing : Timing) (sql : String)
    (calm : ∀ fault, ¬ b.builder.Raises sql fault) :
    ∃ e, (b.builder.build timing sql).2 = .ok e ∧ b.Delivers timing sql e := by
  rcases b.builder.build_cases timing sql with
    ⟨fault, raises, -⟩ | ⟨reason, -, built⟩ | ⟨trees, succeeds, built⟩
  · exact absurd raises (calm fault)
  · have faithful := Envelope.faithful_failure reason
    refine ⟨_, built, Envelope.zero_not_mem_json faithful, read_parse built faithful, nofun, ?_⟩
    rintro _ ⟨⟩
    rw [query_parse built faithful, Query.ofJson_failure]
  · have faithful := Envelope.faithful_wire succeeds.simpleData
    refine ⟨_, built, Envelope.zero_not_mem_json faithful, read_parse built faithful, ?_, nofun⟩
    rintro _ ⟨⟩ short
    have tellable := (Envelope.isTellable_ok_iff succeeds.simpleData).mpr short
    rw [query_parse built faithful, Query.ofJson_ok sql faithful, if_pos tellable]

/-- A bridge whose parser finds a statement with zero characters, a quote and a backslash in it. -/
def zeros : Bridge :=
  .new ⟨{ Dialect.mysql with
    parse := fun _ => ([], .ok [some (.value (.text "\x00'\x5c\x22\x00"))]) }, 4, 100⟩

theorem parse_delivers_zeros :
    (∀ fault, ¬ zeros.builder.Raises "\x00" fault) ∧
      ∃ e, (zeros.builder.build ⟨0, .zero false, .zero false⟩ "\x00").2 = .ok e ∧
        zeros.Delivers ⟨0, .zero false, .zero false⟩ "\x00" e :=
  have sound : zeros.builder.Sound "\x00" :=
    { parser := by
        rintro fault ⟨⟩
      steady := Dialect.Usual.steady ⟨fun _ => rfl, fun _ => rfl, fun _ => rfl⟩
      length := by decide
      depth := by decide }
  ⟨sound.not_raises, parse_delivers zeros _ _ sound.not_raises⟩

end Bridge

end SqlSyntax
