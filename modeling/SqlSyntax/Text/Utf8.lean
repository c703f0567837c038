/-! Reading UTF-8. Bytes that are none are reported with the place of the sequence they spoil. -/

namespace SqlSyntax.Utf8

inductive Flaw where
  | startByte
  | continuationByte
  | unexpectedEnd
deriving DecidableEq, Repr

def Flaw.reason : Flaw → String
  | .startByte => "invalid start byte"
  | .continuationByte => "invalid continuation byte"
  | .unexpectedEnd => "unexpected end of data"

structure DecodeError where
  flaw : Flaw
  /-- How many bytes stand before the bad sequence. -/
  start : Nat
deriving DecidableEq, Repr

def isContinuation (b : UInt8) : Bool :=
  0x80 ≤ b && b < 0xc0

/-- The second byte of a sequence also has to rule out overlong forms, surrogates and codes past the
last one. -/
def mayFollow (first second : UInt8) : Bool :=
  isContinuation second &&
    (if first = 0xe0 then 0xa0 ≤ second
      else if first = 0xed then second < 0xa0
      else if first = 0xf0 then 0x90 ≤ second
      else if first = 0xf4 then second < 0x90
      else true)

/-- The code with six more bits. -/
def extended (code : Nat) (b : UInt8) : Nat :=
  code * 64 + (b.toNat - 0x80)

/-- `start` bytes were read so far and gave `taken`, the last character first. -/
def decodeFrom (start : Nat) (taken : List Char) : List UInt8 → Except DecodeError (List Char)
  | [] => .ok taken.reverse
  | a :: rest =>
    if a < 0x80 then decodeFrom (start + 1) (Char.ofNat a.toNat :: taken) rest
    else if a < 0xc2 || 0xf4 < a then .error ⟨.startByte, start⟩
    else
      match rest with
      | [] => .error ⟨.unexpectedEnd, start⟩
      | b :: rest =>
        if !mayFollow a b then .error ⟨.continuationByte, start⟩
        else if a < 0xe0 then
          decodeFrom (start + 2) (Char.ofNat (extended (a.toNat - 0xc0) b) :: taken) rest
        else
          match rest with
          | [] => .error ⟨.unexpectedEnd, start⟩
          | c :: rest =>
            if !isContinuation c then .error ⟨.continuationByte, start⟩
            else if a < 0xf0 then
              let code := extended (extended (a.toNat - 0xe0) b) c
              decodeFrom (start + 3) (Char.ofNat code :: taken) rest
            else
              match rest with
              | [] => .error ⟨.unexpectedEnd, start⟩
              | d :: rest =>
                if !isContinuation d then .error ⟨.continuationByte, start⟩
                else
                  let code := extended (extended (extended (a.toNat - 0xf0) b) c) d
                  decodeFrom (start + 4) (Char.ofNat code :: taken) rest

def decode (bytes : List UInt8) : Except DecodeError String :=
  match decodeFrom 0 [] bytes with
  | .ok cs => .ok (String.ofList cs)
  | .error e => .error e

def encode (s : String) : List UInt8 :=
  s.toUTF8.toList

end SqlSyntax.Utf8
