import SqlSyntax.Proofs.Service.Delivery
import SqlSyntax.Proofs.Service.Freshness
import SqlSyntax.Service.Http

/-!
# The boundaries of a service

A text is put to a service as a call that answers in JSON, as a request over HTTP, or through a
bridge whose builder the service gave out. All three give the same value, now or later, as long as
the name means the same dialect and whichever way it is written, and a name that means none is
refused in the same words. A call that is left by a fault is left aside, and so is a place in a list
that has too many digits to be read.
-/

namespace SqlSyntax

namespace Http

/-- The fields of a request for a text in a dialect. One that asks for none may say so or be
silent. -/
structure Requests (fields : Entries Value) (sql : String) (asked : Option String) : Prop where
  sql : fields.get? "sql" = some (.text sql)
  dialect : fields.get? "dialect" = asked.map .text ∨
    asked = none ∧ fields.get? "dialect" = some .null

/-- The request to parse that has these fields. -/
def parseRequest (fields : Entries Value) : Request :=
  ⟨"POST", "/api/parse", some (.record fields)⟩

variable {fields : Entries Value} {sql : String} {asked : Option String}

theorem Requests.checkParse (requests : Requests fields sql asked) :
    checkParse (some (.record fields)) = .ok ⟨sql, asked⟩ := by
  have text : Value.requiredField fields "sql" Value.asText = .ok sql := by
    simp [Value.requiredField, requests.sql, Value.asText, Checked.under]
  have dialect : Value.fieldOr none fields "dialect" (Value.orNull Value.asText) = .ok asked := by
    rcases requests.dialect with given | ⟨rfl, null⟩
    · cases asked <;> simp [Value.fieldOr, given, Value.orNull, Value.asText, Checked.under]
    · simp [Value.fieldOr, null, Value.orNull, Checked.under]
  simp only [Http.checkParse, text, dialect]

theorem target_parse : Location.target "/api/parse" = .ok "/api/parse" := by rfl

theorem at?_parse : Route.at? "/api/parse" = some .parse := by rfl

theorem Requests.answer (requests : Requests fields sql asked) (s : Service) (timing : Timing) :
    answer s timing (parseRequest fields) = .ok (parse s timing ⟨sql, asked⟩) := by
  have method : Text.toUpper "POST" = "POST" := by rfl
  have allowed : Route.parse.methods.contains "POST" = true := by rfl
  have body : ("POST" : String) ≠ "HEAD" := by decide
  simp only [Http.answer, parseRequest, target_parse, at?_parse, method, allowed, answerAt,
    requests.checkParse, Checked.under, if_true, if_neg body, bind, Except.bind]

end Http

namespace Service

variable {others : Nat → Dialect} {settings : Settings} {s later : Service} {b : Served}
  {found : Registration} {asked : Option String} {sql : String}

/-- The builder that the settings make for a dialect. -/
def builderOf (settings : Settings) (d : Dialect) : Builder :=
  ⟨d, settings.depthLimit, settings.lengthLimit⟩

/-- What a service says about a text, wherever it is asked: the value is read from the JSON text,
from the body of the response, and from the buffer that any bridge over the builder leaves. -/
structure Tells (s : Service) (sql : String) (asked : Option String) (value : Value) : Prop where
  json : ∀ timing, ∃ text, (s.json timing sql asked).2 = .ok text ∧ Json.read? text = some value
  http : ∀ timing fields, Http.Requests fields sql asked →
    ∃ later text, Http.answer s timing (Http.parseRequest fields) = .ok (later, ⟨200, some text⟩) ∧
      Json.read? text = some value
  bridge : ∃ later b, s.builderFor asked = .ok (later, b) ∧
    ∀ (bridge : Bridge) (timing : Timing), bridge.builder = b.builder →
      ∃ bridge' address text, bridge.parse timing (.text sql) = .ok (bridge', address) ∧
        bridge'.read address = .ok text ∧ Json.read? text = some value

/-- How a service refuses a text in a dialect that it does not know. -/
structure Refuses (s : Service) (sql : String) (asked : Option String)
    (e : Registry.UnknownDialect) : Prop where
  json : ∀ timing, s.json timing sql asked = (s, .error (.unknown e))
  http : ∀ timing fields, Http.Requests fields sql asked →
    Http.answer s timing (Http.parseRequest fields) = .ok (s, Http.detail 404 e.message)

theorem Consistent.builder_of_some (consistent : Consistent others settings s)
    (finds : s.registry.find? (s.meant asked) = some found) :
    ∃ later b, s.builderFor asked = .ok (later, b) ∧
      b.builder = builderOf settings found.dialect := by
  obtain ⟨later, b, served, answer⟩ := consistent.builderFor_of_some finds
  obtain ⟨-, -, builder, -⟩ := (consistent.builderFor served).builders _ _ answer.held
  exact ⟨later, b, served, by rw [builder, answer.registration, builderOf]⟩

/-- An envelope that survives being written is told in the same way everywhere. -/
theorem tells_of_builderFor {e : Envelope} (served : s.builderFor asked = .ok (later, b))
    (built : ∀ timing, (b.builder.build timing sql).2 = .ok e) (faithful : e.wire.Faithful)
    (tellable : e.wire.isTellable) : s.Tells sql asked e.wire := by
  have decoded : Json.read? e.json = some e.wire := by
    rw [Envelope.json, Json.read?_write faithful, if_pos tellable]
  refine ⟨?_, ?_, later, b, served, ?_⟩
  · intro timing
    exact ⟨e.json, by simp only [json, envelope, served, built timing], decoded⟩
  · intro timing fields requests
    refine ⟨later, e.json, ?_, decoded⟩
    rw [requests.answer]
    simp only [Http.parse, served, built timing, Http.data, Json.write_terse e.wire faithful]
    rfl
  · intro bridge timing same
    have built : (bridge.builder.build timing sql).2 = .ok e := same ▸ built timing
    obtain ⟨bridge', address, parsed, -, read⟩ := Bridge.read_parse built faithful
    exact ⟨bridge', address, e.json, parsed, read, decoded⟩

theorem refuses_of_none (missing : s.registry.find? (s.meant asked) = none) :
    s.Refuses sql asked ⟨s.meant asked⟩ := by
  have failed := builderFor_of_none missing
  refine ⟨?_, ?_⟩
  · intro timing
    simp only [json, envelope, failed]
  · intro timing fields requests
    rw [requests.answer]
    simp only [Http.parse, failed]

/-- The builder's answer does not depend on the time it takes, and can be written; it can be read if
the places of the nodes in their lists can. -/
theorem exists_envelope (builder : Builder) (calm : ∀ fault, ¬ builder.Raises sql fault) :
    ∃ e, builder.Answers sql e ∧ (∀ timing, (builder.build timing sql).2 = .ok e) ∧
      e.wire.Faithful ∧
      (e.wire.isTellable ↔ ∀ trees, e = .ok trees →
        ∀ v ∈ View.preorders trees, v.DataWithin Numeral.digitLimit) := by
  have timeless : ∀ timing timing', (builder.build timing sql).2 =
      (builder.build timing' sql).2 := by
    intro timing timing'
    rw [Builder.build_snd, Builder.build_snd]
  rcases builder.build_cases ⟨0, .zero false, .zero false⟩ sql with
    ⟨fault, raises, -⟩ | ⟨reason, fails, built⟩ | ⟨trees, succeeds, built⟩
  · exact absurd raises (calm fault)
  · exact ⟨_, fails.answers, fun timing => (timeless timing _).trans built,
      Envelope.faithful_failure reason, fun _ => nofun, fun _ => rfl⟩
  · refine ⟨_, succeeds.answers, fun timing => (timeless timing _).trans built,
      Envelope.faithful_wire succeeds.simpleData, ?_⟩
    rw [Envelope.isTellable_ok_iff succeeds.simpleData]
    constructor
    · rintro short _ ⟨⟩
      exact short
    · exact fun short => short trees rfl

/-- The text has one envelope in a dialect, and after any history, under any name that means the
dialect then, every boundary tells it. Under a name that means none, every boundary refuses. -/
theorem boundaries_agree (others : Nat → Dialect) (settings : Settings) (sql : String) :
    (∀ found : Registration,
      (∀ fault, ¬ (builderOf settings found.dialect).Raises sql fault) →
      ∃ e, (builderOf settings found.dialect).Answers sql e ∧
        ((∀ trees, e = .ok trees → ∀ v ∈ View.preorders trees, v.DataWithin Numeral.digitLimit) →
          ∀ history asked,
            let s := (initial settings).run others history
            s.registry.find? (s.meant asked) = some found → s.Tells sql asked e.wire)) ∧
    ∀ history asked,
      let s := (initial settings).run others history
      s.registry.find? (s.meant asked) = none → s.Refuses sql asked ⟨s.meant asked⟩ := by
  refine ⟨?_, ?_⟩
  · intro found calm
    obtain ⟨e, answers, built, faithful, tellable⟩ :=
      exists_envelope (builderOf settings found.dialect) calm
    refine ⟨e, answers, ?_⟩
    intro short history asked s finds
    have consistent : Consistent others settings s :=
      (consistent_initial others settings).run history
    obtain ⟨later, b, served, builder⟩ := consistent.builder_of_some finds
    exact tells_of_builderFor served (fun timing => builder ▸ built timing) faithful
      (tellable.mpr short)
  · intro history asked s missing
    exact refuses_of_none missing

/-- A service to which a second dialect came, and which has answered for it. -/
def grownService : Service :=
  (initial .default).run (fun _ => { Dialect.mysql with name := "Other", aliases := ["MySQL8"] })
    [.register 1, .request (some "mysql8")]

/-- A text with a zero character and a quote that is not closed, in the built-in dialect under an
alias, and in one that is not there. -/
theorem boundaries_agree_grownService :
    (∀ fault, ¬ (builderOf .default .mysql).Raises "SELECT '\x00é" fault) ∧
      grownService.registry.find? (grownService.meant (some "MariaDB")) = some ⟨0, .mysql⟩ ∧
      (∃ e, (builderOf .default .mysql).Answers "SELECT '\x00é" e ∧
        grownService.Tells "SELECT '\x00é" (some "MariaDB") e.wire) ∧
      grownService.registry.find? (grownService.meant (some "oracle")) = none ∧
      grownService.Refuses "SELECT '\x00é" (some "oracle") ⟨"oracle"⟩ := by
  have rejects : ∃ e, (Dialect.mysql.parse "SELECT '\x00é").2 = .error (.rejected e) := by
    have refused : (Script.parse "SELECT '\x00é").toOption = none := by decide +kernel
    simp only [Dialect.mysql, Dialect.Mysql.parse]
    cases parsed : Script.parse "SELECT '\x00é" with
    | error e => exact ⟨_, rfl⟩
    | ok statements =>
      rw [parsed] at refused
      cases refused
  obtain ⟨reason, rejects⟩ := rejects
  have sound : (builderOf .default .mysql).Sound "SELECT '\x00é" :=
    { parser := by
        intro fault crashes
        rw [builderOf, rejects] at crashes
        cases crashes
      steady := Dialect.Usual.steady ⟨fun _ => rfl, fun _ => rfl, fun _ => rfl⟩
      length := by decide
      depth := by decide }
  have finds : grownService.registry.find? (grownService.meant (some "MariaDB")) =
      some ⟨0, .mysql⟩ := by
    rfl
  have missing : grownService.registry.find? (grownService.meant (some "oracle")) = none := by rfl
  obtain ⟨told, refused⟩ := boundaries_agree
    (fun _ => { Dialect.mysql with name := "Other", aliases := ["MySQL8"] })
      .default "SELECT '\x00é"
  obtain ⟨e, answers, tells⟩ := told ⟨0, .mysql⟩ sound.not_raises
  have treeless : ∀ trees, e ≠ .ok trees := by
    rintro trees rfl
    obtain ⟨statements, ⟨-, parsed, parses, -⟩, -⟩ := (answers.trees_iff trees).mp rfl
    rw [builderOf, rejects] at parses
    cases parses
  exact ⟨sound.not_raises, finds,
    ⟨e, answers, tells (fun trees same => absurd same (treeless trees)) _ _ finds⟩, missing,
    refused _ _ missing⟩

end Service

end SqlSyntax
