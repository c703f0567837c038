import SqlSyntax.Text.Spans

/-! White space. Unicode white space here also has the four information separators; the layout
characters are the five that separate the words of a statement. -/

namespace SqlSyntax.Text

def blankSpans : Spans := [
  0x9, 0xd, 0x1c, 0x20, 0x85, 0x85, 0xa0, 0xa0, 0x1680, 0x1680, 0x2000, 0x200a, 0x2028, 0x2029,
  0x202f, 0x202f, 0x205f, 0x205f, 0x3000, 0x3000]

def isBlank (c : Char) : Bool :=
  blankSpans.contains c.toNat

/-- Space, tab, form feed, carriage return and line feed. -/
def isLayout (c : Char) : Bool :=
  c == ' ' || c == '\t' || c == '\x0c' || c == '\r' || c == '\n'

/-- Without the blanks at both ends. -/
def trimmed (s : String) : String :=
  String.ofList ((s.toList.dropWhile isBlank).reverse.dropWhile isBlank).reverse

end SqlSyntax.Text
