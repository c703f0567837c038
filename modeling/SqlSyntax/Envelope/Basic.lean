import SqlSyntax.View.Wire
import SqlSyntax.Wire.Json

/-! Envelopes: the one answer to a text, which is either the views of its statements or the reason
why there are none. -/

namespace SqlSyntax

inductive Envelope where
  | ok (trees : List View)
  | failure (reason : String)

namespace Envelope

def isOk : Envelope → Bool
  | .ok _ => true
  | .failure _ => false

def wire : Envelope → Value
  | .ok trees => .record [("success", .boolean true), ("ast", .list (View.wires trees))]
  | .failure reason => .record [("success", .boolean false), ("error", .text reason)]

def json (e : Envelope) : String :=
  Json.write Json.compact e.wire

/-- A reason goes with failure and is not empty, trees go with success. -/
def ofParts (input : Value) (success : Bool) (reason : Option String)
    (trees : Option (List View)) : Checked Envelope :=
  match success, reason, trees with
  | true, none, some trees => .ok (.ok trees)
  | true, _, _ => .fail (.inconsistent "successful envelope needs ast and no error") input
  | false, some reason, none =>
    if reason.isEmpty then
      .fail (.inconsistent "failed envelope needs a non-empty error and no ast") input
    else .ok (.failure reason)
  | false, _, _ =>
    .fail (.inconsistent "failed envelope needs a non-empty error and no ast") input

/-- An envelope given by its fields; unknown ones are passed over. -/
def check (fields : Entries Value) : Checked Envelope :=
  match Value.requiredField fields "success" Value.asBoolean,
    Value.fieldOr none fields "error" (Value.orNull Value.asText),
    Value.fieldOr none fields "ast" (Value.orNull View.checkList) with
  | .ok success, .ok reason, .ok trees => ofParts (.record fields) success reason trees
  | success, reason, trees =>
    .error (success.complaints ++ reason.complaints ++ trees.complaints)

end Envelope

end SqlSyntax
