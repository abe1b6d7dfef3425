import SourceHarvest.Http.Punycode
import SourceHarvest.Unicode.Direction
import SourceHarvest.Unicode.Joining
import SourceHarvest.Unicode.NameMapping

/-!
# Domain names

A domain name is made of labels with dots between them.  In its usual form it is in ASCII:
a label with other characters is written in Punycode behind a mark.  Such a label has to be
well formed, whether it comes with its characters or in Punycode: it starts with no mark of
a letter, joiners stand only where they have something to do, and in a name with text from
right to left no label changes its direction.
-/

namespace SourceHarvest.Http.DomainName

open SourceHarvest.Text (splitAtMark joinWithMark)
open SourceHarvest.Unicode

/-- What a label in Punycode starts with. -/
def punycodeMark : List Char := "xn--".toList

/-- The greatest length of a label outside ASCII. -/
def greatestLabelLength : Nat := 1000

/-- The greatest length of a label in Punycode, without its mark. -/
def greatestPunycodeLength : Nat := 2000

/-- All characters are in ASCII. -/
def isAscii (text : List Char) : Bool :=
  text.all fun c => c.toNat < 0x80

/-! ### Joiners -/

/-- The character that keeps letters from joining. -/
def nonJoiner : Char := '\u200c'

/-- The character that makes letters join. -/
def joiner : Char := '\u200d'

/-- Of the characters that come next, the first that is not transparent passes a test. -/
def meets (test : Char → Bool) (next : List Char) : Bool :=
  match next.dropWhile fun c => !test c && isTransparent c with
  | c :: _ => test c
  | [] => false

/-- A joiner of either kind has something to do between what is before it, latest first, and
what is after it. -/
def joinerFits (c : Char) (before after : List Char) : Bool :=
  before.head?.any (combiningClass · = vowelKiller) ||
    (c == nonJoiner && meets joinsNext before && meets joinsPrevious after)

/-- All joiners of a label have something to do; `before` is what comes before it, latest
first. -/
def joinersFit (before : List Char) : List Char → Bool
  | [] => true
  | c :: rest =>
      ((c != nonJoiner && c != joiner) || joinerFits c before rest) && joinersFit (c :: before) rest

/-! ### Directions -/

/-- A label of a name with text from right to left keeps its direction. -/
def keepsDirection (label : List Char) : Bool :=
  match label.map Direction.ofChar with
  | [] => true
  | first :: rest =>
      let others := (rest.reverse.dropWhile (· == .nonspacing)).reverse
      let last := others.getLast?
      match first with
      | .leftToRight =>
          others.all (fun one => one != .rightToLeft && one != .arabicNumber) &&
            last.all (fun one => one == .leftToRight || one == .europeanNumber)
      | .rightToLeft =>
          others.all (· != .leftToRight) &&
            last.all (fun one => one != .neutral) &&
            !(others.contains .europeanNumber && others.contains .arabicNumber)
      | _ => false

/-- A text has characters that run from right to left. -/
def runsLeft (text : List Char) : Bool :=
  text.any fun c =>
    Direction.ofChar c == .rightToLeft || Direction.ofChar c == .arabicNumber

/-! ### Labels -/

/-- A label outside ASCII is well formed. -/
def isWellFormed (label : List Char) : Bool :=
  !label.head?.any isMark && !punycodeMark.isPrefixOf label && joinersFit [] label

/-- The characters of a label that may be in Punycode, if it is well formed. -/
def characters? (label : List Char) : Option (List Char) :=
  if punycodeMark.isPrefixOf label then do
    let text := label.drop punycodeMark.length
    let last ← text.getLast?
    if last = '-' ∨ greatestPunycodeLength < text.length ∨ !isAscii text then none
    else (Punycode.decode? text).filter fun found => isNameForm found && isWellFormed found
  else if isAscii label then some label
  else if label.length ≤ greatestLabelLength ∧ isWellFormed label then some label
  else none

/-- A label in ASCII. -/
def asciiLabel (label : List Char) : List Char :=
  if isAscii label then label else punycodeMark ++ Punycode.encode label

/-- The usual form of a domain name, if it is well formed. -/
def usualForm? (name : List Char) : Option (List Char) := do
  let labels := splitAtMark '.' (← nameForm name)
  let shown ← labels.mapM characters?
  if shown.any runsLeft && !shown.all keepsDirection then none
  else pure (joinWithMark '.' (labels.map asciiLabel))

end SourceHarvest.Http.DomainName
