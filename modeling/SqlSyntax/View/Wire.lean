import SqlSyntax.View.Basic
import SqlSyntax.Wire.Check

/-! The wire form of views: a record without the fields that hold their default. Reading it back
fills them in. -/

namespace SqlSyntax.View

mutual

/-- Fields that hold their default are left out. -/
def wire : View → Value
  | ⟨type, text, children, data, degraded⟩ =>
    .record
      ([("type", .text type)] ++
        (if text.isEmpty then [] else [("text", .text text)]) ++
        (if children.isEmpty then [] else [("children", .list (wires children))]) ++
        (if data.isEmpty then [] else [("data", .record data)]) ++
        (if degraded then [("partial", .boolean true)] else []))

def wires : List View → List Value
  | [] => []
  | v :: rest => wire v :: wires rest

end

mutual

/-- All fields. -/
def record : View → Value
  | ⟨type, text, children, data, degraded⟩ =>
    .record [("type", .text type), ("text", .text text), ("children", .list (records children)),
      ("data", .record data), ("partial", .boolean degraded)]

def records : List View → List Value
  | [] => []
  | v :: rest => record v :: records rest

end

/-- The view that the checked fields make up, or all that is wrong with them. -/
def assemble (type text : Checked String) (children : Checked (List View))
    (data : Checked (Entries Value)) (degraded : Checked Bool) : Checked View :=
  match type, text, children, data, degraded with
  | .ok type, .ok text, .ok children, .ok data, .ok degraded =>
    .ok ⟨type, text, children, data, degraded⟩
  | type, text, children, data, degraded =>
    .error (type.complaints ++ text.complaints ++ children.complaints ++ data.complaints ++
      degraded.complaints)

mutual

/-- A view given as a record. -/
def check : Value → Checked View
  | .record fields =>
    assemble (Value.requiredField fields "type" Value.asText)
      (Value.fieldOr "" fields "text" Value.asText)
      (checkChildren fields)
      (Value.fieldOr [] fields "data" Value.asRecord)
      (Value.fieldOr false fields "partial" Value.asBoolean)
  | v => .fail (.notModel "NodeView") v

def checkChildren : List (String × Value) → Checked (List View)
  | [] => .ok []
  | (key, v) :: rest =>
    if key = "children" then (checkList v).under (.field key) else checkChildren rest

def checkList : Value → Checked (List View)
  | .list items => checkItems 0 items
  | v => .fail .notList v

def checkItems (index : Nat) : List Value → Checked (List View)
  | [] => .ok []
  | v :: rest =>
    match (check v).under (.item index), checkItems (index + 1) rest with
    | .ok view, .ok views => .ok (view :: views)
    | first, others => .error (first.complaints ++ others.complaints)

end

/-- Why a decoded tree is none of views. -/
inductive DecodeError where
  /-- A node lacks that field. -/
  | missing (field : String)
  /-- A node is no record, or its children are no list. -/
  | shapeless
  | invalid (complaints : List Complaint)

/-- The children, unless one is absent. -/
def present (index : Nat) : List (Option View) → Checked (List View)
  | [] => .ok []
  | child :: rest =>
    let first : Checked View := match child with
      | some view => .ok view
      | none => .error [⟨[.item index], .notModel "ASTNode", .null⟩]
    match first, present (index + 1) rest with
    | .ok view, .ok views => .ok (view :: views)
    | first, others => .error (first.complaints ++ others.complaints)

mutual

/-- The view that a decoded record spells; null is no view. Fields that are missing or hold nothing
have their default. -/
def ofWire : Value → Except DecodeError (Option View)
  | .null => .ok none
  | .record fields =>
    match fields.lookup "type" with
    | none => .error (.missing "type")
    | some type =>
      match childrenOf fields with
      | .error e => .error e
      | .ok children =>
        let given (name : String) : Option Value :=
          match fields.lookup name with
          | some v => if v.isNothing then none else some v
          | none => none
        let checked := assemble (type.asText.under (.field "type"))
          (match given "text" with
            | some v => v.asText.under (.field "text")
            | none => .ok "")
          ((present 0 children).under (.field "children"))
          (match given "data" with
            | some v => v.asRecord.under (.field "data")
            | none => .ok [])
          (Value.fieldOr false fields "partial" Value.asBoolean)
        match checked with
        | .ok view => .ok (some view)
        | .error cs => .error (.invalid cs)
  | _ => .error .shapeless

def childrenOf : List (String × Value) → Except DecodeError (List (Option View))
  | [] => .ok []
  | (key, v) :: rest => if key = "children" then childList v else childrenOf rest

def childList : Value → Except DecodeError (List (Option View))
  | .list items => childItems items
  | v => if v.isNothing then .ok [] else .error .shapeless

def childItems : List Value → Except DecodeError (List (Option View))
  | [] => .ok []
  | v :: rest =>
    match ofWire v with
    | .error e => .error e
    | .ok child =>
      match childItems rest with
      | .error e => .error e
      | .ok children => .ok (child :: children)

end

end SqlSyntax.View
