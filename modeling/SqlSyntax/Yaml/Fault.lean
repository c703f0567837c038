import SqlSyntax.Number.Numeral

/-! Why a YAML text cannot be read. -/

namespace SqlSyntax.Yaml

inductive Fault where
  /-- The text breaks a rule of the format, or uses a part of it that is not known here. -/
  | malformed
  /-- An integer has more digits than are read. -/
  | tooManyDigits (count : Nat)
  /-- An integer of that base has no digits. -/
  | noDigits (base : Nat)
  /-- No character has the code that an escape gives. -/
  | noCharacter
  /-- The code that an escape gives is past every code that can be looked up. -/
  | codeOverflow
  /-- A place of a number in base sixty is worth more than any double. -/
  | worthOverflow
deriving DecidableEq, Repr

def Fault.message : Fault → String
  | .malformed => "malformed YAML"
  | .tooManyDigits count => Numeral.tooLong count
  | .noDigits base => "invalid literal for int() with base " ++ toString base ++ ": ''"
  | .noCharacter => "chr() arg not in range(0x110000)"
  | .codeOverflow => "Python int too large to convert to C int"
  | .worthOverflow => "int too large to convert to float"

end SqlSyntax.Yaml
