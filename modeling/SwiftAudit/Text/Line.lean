import SwiftAudit.Text.Blank

namespace SwiftAudit.Text

-- The lines between line feeds. A final line feed is followed by one more, empty line.
def lines (text : List Char) : List (List Char) := text.splitOn '\n'

-- Characters that end a line when text is cut for display, which are more than the line
-- feed of the file's own lines. Each of them is blank.
def isLineBreak (c : Char) : Bool :=
  let n := c.toNat
  (0x0A ≤ n && n ≤ 0x0D) || (0x1C ≤ n && n ≤ 0x1E) || n == 0x85 || n == 0x2028 || n == 0x2029

def snippetLimit : Nat := 40

-- The first line of the trimmed text, cut with an ellipsis when it is long. A trimmed text
-- does not start with a line break, so its first line is empty only if it is.
def snippet (text : List Char) : List Char :=
  let line := (trim text).takeWhile (!isLineBreak ·)
  if line.length > snippetLimit then line.take snippetLimit ++ ['.', '.', '.'] else line

end SwiftAudit.Text
