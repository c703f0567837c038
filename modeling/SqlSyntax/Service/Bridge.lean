import SqlSyntax.Envelope.Builder
import SqlSyntax.Text.Utf8

/-! The bridge to native callers. A call leaves its answer in a buffer, which is read up to its
first zero character and lives until it is released; no address is given out twice. -/

namespace SqlSyntax

/-- An address is one that was given out, or some other number. -/
inductive Address where
  | allocated (n : Nat)
  | foreign (n : Int)
deriving DecidableEq, Repr

namespace Address

def hexText (n : Int) : String :=
  (if n < 0 then "-0x" else "0x") ++ String.ofList (Nat.toDigits 16 n.natAbs)

/-- Where an allocated buffer lies is nobody's business. -/
def text : Address → String
  | .allocated _ => "<address>"
  | .foreign n => hexText n

end Address

structure Bridge where
  builder : Builder
  /-- The live buffers by the number of their allocation. -/
  buffers : List (Nat × String)
  /-- How many buffers were allocated so far. -/
  allocated : Nat

namespace Bridge

inductive Misuse where
  | unreadable (a : Address)
  | unreleasable (a : Address)
deriving DecidableEq, Repr

def Misuse.message : Misuse → String
  | .unreadable a => "unknown result buffer: " ++ a.text
  | .unreleasable a => "unknown or already released result buffer: " ++ a.text

def new (builder : Builder) : Bridge := ⟨builder, [], 0⟩

def outstanding (b : Bridge) : Nat := b.buffers.length

def allocate (b : Bridge) (text : String) : Bridge × Address :=
  ({ b with buffers := (b.allocated, text) :: b.buffers, allocated := b.allocated + 1 },
    .allocated b.allocated)

/-- A text up to its first zero character. -/
def upToZero (text : String) : String :=
  String.ofList (text.toList.takeWhile (· != '\x00'))

def content? (b : Bridge) : Address → Option String
  | .allocated n => b.buffers.lookup n
  | .foreign _ => none

def read (b : Bridge) (a : Address) : Except Misuse String :=
  match b.content? a with
  | some text => .ok (upToZero text)
  | none => .error (.unreadable a)

def release (b : Bridge) (a : Address) : Except Misuse Bridge :=
  match b.content? a with
  | some _ => .ok { b with buffers := b.buffers.filter fun (n, _) => .allocated n != a }
  | none => .error (.unreleasable a)

/-- A native caller's release, which never fails. -/
def releaseQuietly (b : Bridge) (a : Address) : Bridge :=
  match b.release a with
  | .ok b => b
  | .error _ => b

/-- The text to parse: given as such, as bytes, or not at all. -/
inductive Input where
  | text (sql : String)
  | bytes (sql : List UInt8)
  | nothing

def encodingFailure (e : Utf8.DecodeError) : Envelope :=
  .failure ("input is not valid UTF-8: " ++ e.flaw.reason ++ " at byte " ++ toString e.start)

/-- The envelope of an input, unless the parser crashes. -/
def envelope (b : Bridge) (timing : Timing) : Input → Except Fault Envelope
  | .text sql => (b.builder.build timing sql).2
  | .nothing => (b.builder.build timing "").2
  | .bytes sql =>
    match Utf8.decode sql with
    | .ok sql => (b.builder.build timing sql).2
    | .error e => .ok (encodingFailure e)

def parse (b : Bridge) (timing : Timing) (input : Input) : Except Fault (Bridge × Address) :=
  match b.envelope timing input with
  | .ok e => .ok (b.allocate e.json)
  | .error fault => .error fault

/-- The input of a native caller ends at the first zero byte. -/
def nativeInput : Option (List UInt8) → Input
  | some bytes => .bytes (bytes.takeWhile (· != 0))
  | none => .nothing

end Bridge

end SqlSyntax
