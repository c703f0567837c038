import SqlSyntax.View.Basic

/-! Measures of views: their number, their levels, how many are degraded, and their order with
parents first. -/

namespace SqlSyntax.View

mutual

/-- How many views a tree has. -/
def size : View → Nat
  | ⟨_, _, children, _, _⟩ => sizes children + 1

def sizes : List View → Nat
  | [] => 0
  | v :: rest => size v + sizes rest

end

mutual

/-- How many levels a tree has. -/
def height : View → Nat
  | ⟨_, _, children, _, _⟩ => tallest children + 1

def tallest : List View → Nat
  | [] => 0
  | v :: rest => max (height v) (tallest rest)

end

mutual

/-- How many views of a tree are degraded. -/
def degradations : View → Nat
  | ⟨_, _, children, _, degraded⟩ => degradationsOf children + if degraded then 1 else 0

def degradationsOf : List View → Nat
  | [] => 0
  | v :: rest => degradations v + degradationsOf rest

end

mutual

/-- A view and everything below it, parents first. -/
def preorder : View → List View
  | ⟨type, text, children, data, degraded⟩ =>
    ⟨type, text, children, data, degraded⟩ :: preorders children

def preorders : List View → List View
  | [] => []
  | v :: rest => preorder v ++ preorders rest

end

end SqlSyntax.View
