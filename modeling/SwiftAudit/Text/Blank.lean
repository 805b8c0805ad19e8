namespace SwiftAudit.Text

-- White space of every script. The four separator controls and the next-line control count,
-- as they end a paragraph or a line in Unicode's bidirectional classes.
def isBlank (c : Char) : Bool :=
  let n := c.toNat
  (0x09 ≤ n && n ≤ 0x0D) || (0x1C ≤ n && n ≤ 0x20) || n == 0x85 || n == 0xA0 || n == 0x1680 ||
    (0x2000 ≤ n && n ≤ 0x200A) || n == 0x2028 || n == 0x2029 || n == 0x202F || n == 0x205F ||
    n == 0x3000

def trimLeftWhere (p : Char → Bool) (text : List Char) : List Char :=
  text.dropWhile p

def trimRightWhere (p : Char → Bool) (text : List Char) : List Char :=
  (text.reverse.dropWhile p).reverse

def trimWhere (p : Char → Bool) (text : List Char) : List Char :=
  trimRightWhere p (trimLeftWhere p text)

def trimLeft : List Char → List Char := trimLeftWhere isBlank

def trim : List Char → List Char := trimWhere isBlank

def isBlankText (text : List Char) : Bool := text.all isBlank

-- The maximal runs of characters that are not blank.
def words (text : List Char) : List (List Char) :=
  (text.splitOnP isBlank).filter (!·.isEmpty)

end SwiftAudit.Text
