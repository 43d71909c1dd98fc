/-!
Unicode white space: which characters count, trimming both ends, and cutting into words.
-/

set_option autoImplicit false

namespace RadioLink.Text

/-- The characters with the Unicode property `White_Space`. -/
def isBlank (c : Char) : Bool :=
  let n := c.toNat
  (9 ≤ n && n ≤ 13) || n == 32 || n == 0x85 || n == 0xa0 || n == 0x1680 ||
    (0x2000 ≤ n && n ≤ 0x200a) || n == 0x2028 || n == 0x2029 || n == 0x202f || n == 0x205f ||
    n == 0x3000

/-- The text without the blanks at its end. -/
def trimEnd (text : List Char) : List Char :=
  (text.reverse.dropWhile isBlank).reverse

/-- The text without the blanks at either end. -/
def trim (text : List Char) : List Char :=
  trimEnd (text.dropWhile isBlank)

/-- The first word being read and the words after it; a blank closes a word. -/
def splitWords : List Char → List Char × List (List Char)
  | [] => ([], [])
  | c :: rest =>
    let (word, more) := splitWords rest
    if isBlank c then ([], if word.isEmpty then more else word :: more)
    else (c :: word, more)

/-- The maximal runs of characters that are not blank, in order. -/
def words (text : List Char) : List (List Char) :=
  let (word, more) := splitWords text
  if word.isEmpty then more else word :: more

/-- Cuts at every occurrence of the separator and keeps empty pieces: the first piece, and the
rest. -/
def splitOn (separator : Char) : List Char → List Char × List (List Char)
  | [] => ([], [])
  | c :: rest =>
    let (piece, more) := splitOn separator rest
    if c = separator then ([], piece :: more) else (c :: piece, more)

/-- All pieces between occurrences of the separator. -/
def pieces (separator : Char) (text : List Char) : List (List Char) :=
  let (piece, more) := splitOn separator text
  piece :: more

/-- The text without the given character at its end. -/
def dropTrailing (c : Char) (text : List Char) : List Char :=
  (text.reverse.dropWhile (· = c)).reverse

def trimmed (text : String) : String :=
  String.ofList (trim text.toList)

end RadioLink.Text
