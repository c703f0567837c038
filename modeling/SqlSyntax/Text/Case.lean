import SqlSyntax.Text.CaseTable

/-! Full case mappings. Upper case may lengthen a text; lower case writes a sigma at the end of a
word in its final form. -/

namespace SqlSyntax.Text

def mapCase (expansions : List (Nat × List Nat)) (runs : List CaseRun) (c : Char) : List Char :=
  match expansions.lookup c.toNat with
  | some codes => codes.map Char.ofNat
  | none =>
    match runs.findSome? (·.image? c.toNat) with
    | some code => [Char.ofNat code]
    | none => [c]

def upperChar (c : Char) : List Char :=
  if c.toNat < 128 then [c.toUpper] else mapCase upperExpansions upperRuns c

def lowerChar (c : Char) : List Char :=
  if c.toNat < 128 then [c.toLower] else mapCase lowerExpansions lowerRuns c

def toUpper (s : String) : String :=
  String.ofList (s.toList.flatMap upperChar)

def isCased (c : Char) : Bool :=
  casedSpans.contains c.toNat

def isCaseIgnorable (c : Char) : Bool :=
  caseIgnorableSpans.contains c.toNat

/-- The first character that is not ignored is cased. -/
def startsCased : List Char → Bool
  | [] => false
  | c :: rest => if isCaseIgnorable c then startsCased rest else isCased c

/-- `afterCased` tells whether the last character that is not ignored was cased. -/
def lowerFrom (afterCased : Bool) : List Char → List Char
  | [] => []
  | c :: rest =>
    let lowered :=
      if c.toNat == 0x3a3 then
        [if afterCased && !startsCased rest then Char.ofNat 0x3c2 else Char.ofNat 0x3c3]
      else lowerChar c
    lowered ++ lowerFrom (if isCaseIgnorable c then afterCased else isCased c) rest

def toLower (s : String) : String :=
  String.ofList (lowerFrom false s.toList)

end SqlSyntax.Text
