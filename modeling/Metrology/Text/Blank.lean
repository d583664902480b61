import Metrology.Text.Pieces

/-!
# Blank characters and words

A text is read as words separated by blanks. This module fixes which characters are blank and
gives the three ways in which the library cuts a text at them: stripping both ends, cutting it
into all of its words, and cutting off the first word alone.
-/

namespace Metrology.Text

/-- The characters that separate words: the horizontal and vertical controls, the four
information separators, and every space of Unicode that has a width. -/
def isBlank (c : Char) : Bool :=
  let n := c.toNat
  (9 ≤ n && n ≤ 13) || (28 ≤ n && n ≤ 32) || n == 0x85 || n == 0xA0 || n == 0x1680 ||
    (0x2000 ≤ n && n ≤ 0x200A) || n == 0x2028 || n == 0x2029 || n == 0x202F || n == 0x205F ||
    n == 0x3000

/-! ### Stripping -/

/-- Drop the blanks in front. -/
def stripLeft (s : List Char) : List Char := s.dropWhile isBlank

def stripRight (s : List Char) : List Char := (s.reverse.dropWhile isBlank).reverse

def stripChars (s : List Char) : List Char := stripRight (stripLeft s)

/-- Drop the blanks at both ends of a text. -/
def strip (s : String) : String := String.ofList (stripChars s.toList)

/-! ### Words -/

def wordsOf (s : List Char) : List (List Char) := fullPieces isBlank s

/-- All words of a text, in order. -/
def words (s : String) : List String := (wordsOf s.toList).map String.ofList

/-- The first word and, from the next word on, everything that follows it; nothing if there are
fewer than two words. Blanks at the end stay with the second part. -/
def splitFirst? (s : List Char) : Option (List Char × List Char) :=
  let t := stripLeft s
  let rest := stripLeft (t.dropWhile (!isBlank ·))
  if rest.isEmpty then none else some (t.takeWhile (!isBlank ·), rest)

end Metrology.Text
