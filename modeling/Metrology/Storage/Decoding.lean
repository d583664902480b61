import Metrology.Text.Lines

/-!
# Decoding in chunks

The bytes of a file are read and decoded in chunks, and the lines of a chunk are handed out before
the next one is read. So if the bytes are no text, all lines that end before the chunk with the
mistake have been handed out when it is found. The bytes of a character may stand in two chunks;
then the character belongs to the second of them.
-/

namespace Metrology.Decoding

/-- How many bytes are read at a time. -/
def chunkSize : Nat := 8192

/-- Are these the first two bytes of what would be a surrogate? They are taken for the beginning of
a character, though none begins with them. -/
def isCutSurrogate (b : ByteArray) : Bool :=
  match b.toList with
  | [x, y] => x == 0xed && 0xa0 ≤ y && y < 0xc0
  | _ => false

/-- May a text begin with the bytes? The last character may lack up to three bytes. If any bytes
complete it, then the least or the greatest that a character is continued with do. -/
def isBeginning (b : ByteArray) : Bool :=
  (List.range 4).any (fun n =>
    [0x80, 0xbf].any fun c => (b ++ ⟨Array.replicate n c⟩).validateUTF8) ||
  isCutSurrogate (b.extract (b.size - 2) b.size) && (b.extract 0 (b.size - 2)).validateUTF8

/-- The text that the bytes begin with, without a character that is not complete. -/
def beginning (b : ByteArray) : String :=
  ((List.range 4).findSome? fun n => String.fromUTF8? (b.extract 0 (b.size - n))).getD ""

/-- The bytes of all chunks in front of the first one that cannot be decoded. A character that the
bytes end in the middle of is only missed behind the last chunk. -/
def decodable (content : ByteArray) : ByteArray :=
  let ends := (List.range (content.size / chunkSize + 2)).map (· * chunkSize)
  ((ends.map fun n => content.extract 0 n).filter isBeginning).getLast?.getD .empty

/-- The lines that are handed out before it is found that the bytes are no text. -/
def linesBeforeFault (content : ByteArray) : List String :=
  Text.endedLines (beginning (decodable content))

end Metrology.Decoding
