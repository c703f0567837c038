/-! A tree of files below one root. -/

namespace SqlSyntax

inductive FileEntry where
  | directory
  | file (text : String)
deriving DecidableEq, Repr

/-- What lies below the root, by path. -/
abbrev Files := List (List String × FileEntry)

namespace Files

inductive Obstacle where
  /-- A directory stands where a file is wanted. -/
  | isDirectory
  /-- A file stands where a directory is wanted. -/
  | isFile
  /-- A file stands where a directory is to be made. -/
  | occupied
deriving DecidableEq, Repr

/-- The names along a path; empty names and dots do not count. -/
def parts (path : String) : List String :=
  (path.splitOn "/").filter fun name => !(name.isEmpty || name == ".")

/-- The path with every step back taken. -/
def resolved (path : List String) : List String :=
  (path.foldl (fun done name => if name = ".." then done.drop 1 else name :: done) []).reverse

/-- What lies at a path. -/
def item? (fs : Files) (path : List String) : Option FileEntry :=
  match resolved path with
  | [] => some .directory
  | path => fs.lookup path

def put (fs : Files) (path : List String) (e : FileEntry) : Files :=
  (path, e) :: fs.filter fun old => old.1 != path

/-- Makes the directories from `done` on along the rest of a path. -/
def makeFrom (fs : Files) (done : List String) : List String → Except Obstacle Files
  | [] => .ok fs
  | name :: rest =>
    let path := done ++ [name]
    match fs.item? path with
    | some (.file _) => .error (if rest.isEmpty then .occupied else .isFile)
    | some .directory => makeFrom fs path rest
    | none => makeFrom (fs.put path .directory) path rest

def makeDirectory (fs : Files) (path : List String) : Except Obstacle Files :=
  fs.makeFrom [] (resolved path)

/-- Writes a file and makes the directories that lead to it. -/
def write (fs : Files) (path : List String) (text : String) : Except Obstacle Files :=
  let path := resolved path
  match fs.makeDirectory path.dropLast with
  | .error e => .error e
  | .ok fs =>
    match fs.item? path with
    | some .directory => .error .isDirectory
    | _ => .ok (fs.put path (.file text))

/-- The names in a directory, in order. -/
def names (fs : Files) (path : List String) : List String :=
  let path := resolved path
  let below := fs.filterMap fun (p, _) => if p.dropLast = path then p.getLast? else none
  below.mergeSort fun a b => decide (a ≤ b)

end Files

end SqlSyntax
