import Blueprint.Text.Numeral

/-!
# Quoted literals

A text as a string literal of the generated script, on one line.  The literal stands in single
quotes, or in double quotes if the text has single quotes only.  Line feed, carriage return, tab,
the backslash and the enclosing quote get a backslash; other control characters, the delete
character, the C1 controls and the no-break space are written as two hexadecimal digits.
-/

namespace Blueprint.Text

/-- The quote a text is enclosed in. -/
def quoteFor (text : List Char) : Char :=
  if text.contains '\'' && !text.contains '"' then '"' else '\''

/-- The character is written as `\xNN`. -/
def isHexEscaped (c : Char) : Bool :=
  decide (c.toNat < 0x20) || (decide (0x7F ≤ c.toNat) && decide (c.toNat ≤ 0xA0))

/-- One character inside a literal enclosed in `quote`. -/
def quoteChar (quote c : Char) : List Char :=
  if c = '\\' then ['\\', '\\']
  else if c = '\n' then ['\\', 'n']
  else if c = '\r' then ['\\', 'r']
  else if c = '\t' then ['\\', 't']
  else if c = quote then ['\\', c]
  else if isHexEscaped c then '\\' :: 'x' :: hexDigits 2 c.toNat
  else [c]

/-- The literal of a text. -/
def quoted (text : String) : String :=
  let quote := quoteFor text.toList
  String.ofList (quote :: text.toList.flatMap (quoteChar quote) ++ [quote])

end Blueprint.Text
