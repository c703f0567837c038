import SqlSyntax.Text.Blank
import SqlSyntax.Text.Digit
import SqlSyntax.Text.Letter
import SqlSyntax.Text.Shown

/-! Where a request goes. A location may name a scheme and an authority; one that does not name both
is taken below the root of the service. Query and fragment do not matter. -/

namespace SqlSyntax.Http

/-- Why a location leads nowhere. -/
inductive LocationError where
  | malformed
  | unknownScheme (name : String)
  /-- The scheme asks for a lasting connection. -/
  | upgrade
deriving DecidableEq, Repr

/-- Who is asked, as written: someone at a host and a port. -/
structure Authority where
  user : List Char
  host : List Char
  port : List Char
deriving DecidableEq, Repr

namespace Authority

/-- What stands before the last sign of the given kind, and what stands behind it. -/
def splitLast (sign : Char) (cs : List Char) : Option (List Char × List Char) :=
  if cs.contains sign then
    let behind := (cs.reverse.takeWhile (· != sign)).reverse
    some (cs.take (cs.length - behind.length - 1), behind)
  else none

/-- The user ends at the last `@`; a host in square brackets may hold colons. -/
def read (cs : List Char) : Authority :=
  let (user, cs) := (splitLast '@' cs).getD ([], cs)
  let host := match cs.head?, splitLast ']' cs with
    | some '[', some (inner, _) => inner ++ [']']
    | _, _ => cs.takeWhile (· != ':')
  match cs.drop host.length with
  | ':' :: port => ⟨user, host, port⟩
  | port => ⟨user, host, port⟩

/-- Rows of digits, `left` more of them to come, with any character between two rows. -/
def isNumeric (left : Nat) (inRow : Bool) : List Char → Bool
  | [] => left == 0 && inRow
  | c :: rest =>
    (c.isDigit && isNumeric left true rest) ||
      (inRow && 0 < left && isNumeric (left - 1) false rest)

/-- The parts between separators. -/
def parts (separator : Char) : List Char → List (List Char)
  | [] => [[]]
  | c :: rest =>
    match parts separator rest with
    | first :: others => if c = separator then [] :: first :: others else (c :: first) :: others
    | [] => [[c]]

/-- A number below 256 without leading zeros. -/
def isOctet (cs : List Char) : Bool :=
  !cs.isEmpty && cs.length ≤ 3 && cs.all Char.isDigit && (cs.length == 1 || cs.head? != some '0') &&
    cs.foldl (fun n c => 10 * n + (c.toNat - 48)) 0 < 256

def isIPv4 (cs : List Char) : Bool :=
  let octets := parts '.' cs
  octets.length == 4 && octets.all isOctet

def isHexDigit (c : Char) : Bool :=
  c.isDigit || ('a' ≤ c && c ≤ 'f') || ('A' ≤ c && c ≤ 'F')

/-- Up to four hexadecimal digits. -/
def isGroup (cs : List Char) : Bool :=
  !cs.isEmpty && cs.length ≤ 4 && cs.all isHexDigit

/-- The groups on one side of a gap, of which there may be none. -/
def sideLength? (groups : List (List Char)) : Option Nat :=
  if groups = [[]] then some 0 else if groups.all isGroup then some groups.length else none

/-- Eight groups, or fewer with one gap among them; the last two may be written as octets. -/
def isIPv6 (cs : List Char) : Bool :=
  let groups := parts ':' cs
  let groups :=
    if (groups.getLast?.map isIPv4).getD false then groups.dropLast ++ [['0'], ['0']] else groups
  let inner := (groups.drop 1).dropLast
  match inner.findIdx? List.isEmpty with
  | none => groups.length == 8 && groups.all isGroup
  | some i =>
    match sideLength? (groups.take (i + 1)), sideLength? (groups.drop (i + 2)) with
    | some high, some low => high + low < 8
    | _, _ => false

/-- A host that looks like a number has to be one; other hosts are names. -/
def isHost (cs : List Char) : Bool :=
  if isNumeric 3 false cs then isIPv4 cs
  else if cs.head? == some '[' && cs.getLast? == some ']' then isIPv6 ((cs.drop 1).dropLast)
  else cs.all fun c => c.toNat < 0x80 || Text.isAlphanumeric c

/-- Digits of any script, with single underscores between them. -/
def areDigits : Bool → List Char → Bool
  | afterDigit, [] => afterDigit
  | afterDigit, c :: rest =>
    if Text.isDigit c then areDigits true rest
    else c == '_' && afterDigit && areDigits false rest

def isPort (cs : List Char) : Bool :=
  match (Text.trimmed (String.ofList cs)).toList with
  | [] => cs.isEmpty
  | c :: rest => areDigits false (if c == '+' || c == '-' then rest else c :: rest)

def isEmpty (a : Authority) : Bool :=
  a.user.isEmpty && a.host.isEmpty && a.port.isEmpty

def isValid (a : Authority) : Bool :=
  isHost a.host && isPort a.port

end Authority

/-- A location in its parts, as written. -/
structure Location where
  scheme : List Char
  authority : Authority
  path : List Char
deriving DecidableEq, Repr

namespace Location

def isSchemeChar (c : Char) : Bool :=
  c.isAlphanum || c == '+' || c == '.' || c == '-'

/-- The scheme, which begins with a letter or is empty, and what follows its colon. -/
def splitScheme (cs : List Char) : List Char × List Char :=
  let run := match cs with
    | c :: _ => if c.isAlpha then cs.takeWhile isSchemeChar else []
    | [] => []
  match cs.drop run.length with
  | ':' :: rest => (run.map Char.toLower, rest)
  | _ => ([], cs)

def read (cs : List Char) : Location :=
  let (scheme, cs) := splitScheme cs
  let (authority, cs) := match cs with
    | '/' :: '/' :: rest =>
      let named := rest.takeWhile fun c => !(c == '/' || c == '?' || c == '#')
      (named, rest.drop named.length)
    | cs => ([], cs)
  ⟨scheme, .read authority, cs.takeWhile fun c => !(c == '?' || c == '#')⟩

/-- Steps that stay in place are dropped, steps up take the step before them away. -/
def resolve (kept : List (List Char)) : List (List Char) → List (List Char)
  | [] => kept.reverse
  | step :: rest =>
    if step = ['.'] then resolve kept rest
    else if step = ['.', '.'] then
      resolve (if kept.isEmpty || kept == [[]] then kept else kept.drop 1) rest
    else resolve (step :: kept) rest

/-- The path without steps in place and steps up. -/
def resolved (path : List Char) : List Char :=
  List.intercalate ['/'] (resolve [] (Authority.parts '/' path))

def hexValue? (c : Char) : Option Nat :=
  if c.isDigit then some (c.toNat - 48)
  else if 'a' ≤ c && c ≤ 'f' then some (c.toNat - 87)
  else if 'A' ≤ c && c ≤ 'F' then some (c.toNat - 55)
  else none

/-- The path with its escapes resolved. Those beyond ASCII are parts of characters that no route
has. -/
def unescaped : List Char → List Char
  | '%' :: a :: b :: rest =>
    match hexValue? a, hexValue? b with
    | some x, some y =>
      let code := 16 * x + y
      (if code < 0x80 then Char.ofNat code else '�') :: unescaped rest
    | _, _ => '%' :: unescaped (a :: b :: rest)
  | c :: rest => c :: unescaped rest
  | [] => []

def orRoot (path : List Char) : List Char :=
  if path.isEmpty then ['/'] else path

/-- The longest location. -/
def longest : Nat := 65536

def isControl (c : Char) : Bool :=
  c.toNat < 0x20 || c.toNat == 0x7f

/-- The path that a location leads to in the service. Escapes are resolved on both sides of the
connection. -/
def target (text : String) : Except LocationError String :=
  let cs := text.toList
  let l := read cs
  let free := l.scheme.isEmpty && l.authority.isEmpty
  let path := if free then l.path else resolved l.path
  if longest < cs.length || cs.any isControl || !l.authority.isValid then .error .malformed
  else if free && (l.path.take 2 == ['/', '/'] || l.path.take 1 == [':']) then .error .malformed
  else
    let served (path : List Char) : Except LocationError String :=
      .ok (String.ofList (unescaped (unescaped (orRoot path))))
    if l.scheme.isEmpty || l.authority.host.isEmpty then
      served (resolved ('/' :: (orRoot path).dropWhile (· == '/')))
    else
      match String.ofList l.scheme with
      | "http" => served path
      | "https" => served path
      | "ws" => .error .upgrade
      | "wss" => .error .upgrade
      | scheme => .error (.unknownScheme scheme)

end Location

end SqlSyntax.Http
