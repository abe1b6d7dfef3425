import SourceHarvest.Digest.Hexadecimal
import SourceHarvest.Text.Split

/-!
# Tables of code points

The tables of Unicode are written as texts of words with blanks between them.  A word is a
code point or a range of code points, in hexadecimal digits; what a table says about these
comes behind a mark.  The tables for domain names are those of Unicode 18, and the table of
letters and numbers is that of Unicode 17.
-/

namespace SourceHarvest.Unicode

open SourceHarvest.Text (splitAtMark)

/-- The code points from a first to a last one. -/
structure Range where
  first : Nat
  last : Nat
deriving DecidableEq, Repr

/-- The character is in the range. -/
def Range.contains (range : Range) (c : Char) : Bool :=
  range.first ≤ c.toNat && c.toNat ≤ range.last

/-- The character is in one of several ranges. -/
def inRanges (ranges : List Range) (c : Char) : Bool :=
  ranges.any (·.contains c)

/-! ### Reading tables -/

/-- Read words.  The word that is being read and the words before it are kept latest first. -/
def readWords (word : List Char) (found : List (List Char)) : List Char → List (List Char)
  | [] => (if word.isEmpty then found else word.reverse :: found).reverse
  | c :: rest =>
      if c = ' ' ∨ c = '\n' then
        readWords [] (if word.isEmpty then found else word.reverse :: found) rest
      else readWords (c :: word) found rest

/-- The words of a table. -/
def words (text : String) : List (List Char) :=
  readWords [] [] text.toList

/-- The number that hexadecimal digits stand for. -/
def hexNumber (digits : List Char) : Nat :=
  digits.foldl (fun value digit => 16 * value + (Digest.hexValue? digit).getD 0) 0

/-- The character whose code point hexadecimal digits stand for. -/
def charOfHex (digits : List Char) : Char :=
  Char.ofNat (hexNumber digits)

/-- The range that is written as one code point, or as two with a dash between them. -/
def Range.ofWord (word : List Char) : Range :=
  match splitAtMark '-' word with
  | [first, last] => ⟨hexNumber first, hexNumber last⟩
  | _ => ⟨hexNumber word, hexNumber word⟩

/-- The ranges of a table. -/
def rangesOf (text : String) : List Range :=
  (words text).map Range.ofWord

/-- The ranges of a table with what stands behind a mark after each. -/
def assignedRanges (mark : Char) (text : String) : List (Range × List Char) :=
  (words text).map fun word =>
    (Range.ofWord (word.takeWhile (· != mark)), (word.dropWhile (· != mark)).drop 1)

end SourceHarvest.Unicode
