import SqlSyntax.Dialect.Basic
import SqlSyntax.Tree.Parts
import SqlSyntax.View.Basic

/-! From syntax trees to views. What is told of a node comes from its dialect alone. Where the
dialect fails to render a node or to enumerate its members, the view is degraded and the walk goes
on; any other failure of the dialect ends the walk. A tree that nests deeper than the limit has no
view. -/

namespace SqlSyntax

/-- Counters of one walk. -/
structure Tally where
  nodes : Nat
  deepest : Nat
  degraded : Nat
deriving DecidableEq, Repr

namespace Tally

def zero : Tally := ⟨0, 0, 0⟩

/-- One more node, met at that level. -/
def enter (t : Tally) (level : Nat) : Tally :=
  { t with nodes := t.nodes + 1, deepest := max t.deepest level }

def degrade (t : Tally) : Tally :=
  { t with degraded := t.degraded + 1 }

end Tally

/-- A tree nests deeper than this limit. -/
structure TooDeep where
  limit : Int
deriving DecidableEq, Repr

def TooDeep.message (e : TooDeep) : String :=
  "statement too deep: nesting exceeds " ++ toString e.limit ++ " levels"

/-- A child of a node: the member that holds it and, in a list, its place there. -/
structure Child where
  field : String
  index : Option Nat
  node : Node

/-- A child that was found, or the failure to tell whether a value is one. -/
abbrev Finding := Except Fault Child

namespace Finding

/-- What an item of a list gives: nothing unless it is there and is a node. -/
def ofItem? (d : Dialect) (field : String) (s : Slot) (index : Nat) : Option Finding :=
  if s.isEmpty then none
  else
    match d.node? s with
    | .error fault => some (.error fault)
    | .ok found => found.map fun n => .ok ⟨field, some index, n⟩

/-- What is absent has no view to be tagged, even if it passes for a node. -/
def originless : Fault :=
  ⟨"AttributeError", "'NoneType' object has no attribute 'tag_origin'"⟩

/-- What the value of a member gives: a child, or those among its items. -/
def ofMember (d : Dialect) (field : String) (s : Slot) : List Finding :=
  match d.node? s with
  | .error fault => [.error fault]
  | .ok (some n) => [if s.isEmpty then .error originless else .ok ⟨field, none, n⟩]
  | .ok none => s.items.zipIdx.filterMap fun (item, i) => ofItem? d field item i

/-- What the members give, in their order. -/
def ofMembers (d : Dialect) (members : List (String × Member)) : List Finding :=
  members.flatMap fun (field, m) => ofMember d field m.toSlot

/-- The children up to the first failure, and that failure. -/
def upToFailure : List Finding → List Child × Option Fault
  | [] => ([], none)
  | .error fault :: _ => ([], some fault)
  | .ok child :: rest =>
    let (children, defect) := upToFailure rest
    (child :: children, defect)

end Finding

/-- What a walk has counted and logged so far. -/
structure Progress where
  tally : Tally
  log : List Log.Record

/-- Why a walk gives up. -/
inductive Walk.Stop where
  | tooDeep (e : TooDeep)
  | crashed (fault : Fault)
deriving DecidableEq, Repr

/-- The end of a walk at a node below the limit. Its message has to tell the limit. -/
def Walk.Stop.below (limit : Int) : Walk.Stop :=
  if Numeral.isShort limit then .tooDeep ⟨limit⟩ else .crashed .untold

/-- A walk may give up, and keeps its progress also then. -/
abbrev Walk (α : Type) := Progress → Progress × Except Walk.Stop α

namespace Walk

def count (f : Tally → Tally) (p : Progress) : Progress :=
  { p with tally := f p.tally }

def say (records : List Log.Record) (p : Progress) : Progress :=
  { p with log := p.log ++ records }

/-- One walk after the other, up to the first that gives up. -/
def each {α β : Type} (f : α → Walk β) : List α → Walk (List β)
  | [], p => (p, .ok [])
  | a :: rest, p =>
    match f a p with
    | (p, .error e) => (p, .error e)
    | (p, .ok b) =>
      match each f rest p with
      | (p, .error e) => (p, .error e)
      | (p, .ok bs) => (p, .ok (b :: bs))

end Walk

namespace View

def walkLogger : String := "mysql_parser.core.normalizer"

/-- What a walk learns at a node. -/
structure Account where
  /-- The view of the node without its children. -/
  view : View
  /-- The children up to the first that the dialect fails to tell. -/
  children : List Child
  /-- What ends the walk when it has been to these children. -/
  defect : Option Fault
  log : List Log.Record

/-- The dialect is asked for the tag, the text, the categories and the members, in this order. -/
def describe (d : Dialect) (n : Node) : Account :=
  match d.tag n with
  | .error fault => ⟨⟨"", "", [], [], false⟩, [], some fault, []⟩
  | .ok tag =>
    let complain (what : String) (fault : Fault) : Log.Record :=
      .plain .debug walkLogger (what ++ tag ++ ": " ++ fault.message)
    let (text, textLog) := match d.render n with
      | .ok text => (text, [])
      | .error fault => ("", [complain "Could not render " fault])
    match d.marking n with
    | .error fault => ⟨⟨tag, text, [], [], false⟩, [], some fault, textLog⟩
    | .ok _ =>
      let (markLog, marks) := d.categories.markers (.node n)
      let (findings, memberLog) := match d.members n with
        | .ok members => (Finding.ofMembers d members, [])
        | .error fault => ([], [complain "Could not enumerate members of " fault])
      let (children, defect) := Finding.upToFailure findings
      ⟨⟨tag, text, [], marks.map fun (key, marker) => (key, .text marker),
          !(textLog.isEmpty && memberLog.isEmpty)⟩,
        children, defect, textLog ++ markLog ++ memberLog⟩

/-- The view of a node at the given level, with `budget` levels left from there on. -/
def ofNode (d : Dialect) (limit : Int) : Nat → Nat → Node → Walk View
  | 0, _, _, p => (p, .error (.below limit))
  | budget + 1, level, n, p =>
    let a := describe d n
    let p := Walk.say a.log (Walk.count (·.enter level) p)
    match Walk.each (fun child => ofNode d limit budget (level + 1) child.node) a.children p with
    | (p, .error e) => (p, .error e)
    | (p, .ok views) =>
      match a.defect with
      | some fault => (p, .error (.crashed fault))
      | none =>
        let p := if a.view.degraded then Walk.count Tally.degrade p else p
        let tagOf (child : Child) (v : View) : View := v.tagged child.field child.index
        (p, .ok { a.view with children := List.zipWith tagOf a.children views })

/-- The view of a whole statement. -/
def normalize (d : Dialect) (limit : Int) (n : Node) : Walk View :=
  ofNode d limit limit.toNat 1 n

end View

end SqlSyntax
