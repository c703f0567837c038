/-! Keyed entries in the order of their first insertion. -/

namespace SqlSyntax

abbrev Entries (α : Type) := List (String × α)

namespace Entries

variable {α : Type}

def get? (es : Entries α) (key : String) : Option α :=
  List.lookup key es

def has (es : Entries α) (key : String) : Bool :=
  es.any fun e => e.1 == key

def keys (es : Entries α) : List String :=
  es.map Prod.fst

/-- A present key keeps its place, a new one goes to the end. -/
def put (key : String) (value : α) : Entries α → Entries α
  | [] => [(key, value)]
  | e :: rest => if e.1 = key then (key, value) :: rest else e :: put key value rest

def remove (es : Entries α) (key : String) : Entries α :=
  es.filter fun e => e.1 != key

/-- All entries of `later` put one after the other. -/
def merge (es later : Entries α) : Entries α :=
  later.foldl (fun acc e => put e.1 e.2 acc) es

end Entries

end SqlSyntax
