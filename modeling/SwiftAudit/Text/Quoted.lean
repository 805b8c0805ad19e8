import SwiftAudit.Text.Numeral
import SwiftAudit.Text.Printable

namespace SwiftAudit.Text

-- A text in quotes shows every character, those that cannot be printed as escapes. It
-- stands in single quotes unless it holds some and no double ones.
def quoteMark (text : List Char) : Char :=
  if text.contains '\'' && !text.contains '"' then '"' else '\''

def escaped (mark c : Char) : List Char :=
  let n := c.toNat
  if c = mark || c = '\\' then ['\\', c]
  else if c = '\t' then ['\\', 't']
  else if c = '\n' then ['\\', 'n']
  else if c = '\r' then ['\\', 'r']
  else if isPrintable c then [c]
  else if n < 0x100 then '\\' :: 'x' :: hexText 2 n
  else if n < 0x10000 then '\\' :: 'u' :: hexText 4 n
  else '\\' :: 'U' :: hexText 8 n

end SwiftAudit.Text
