/-!
# Glob patterns

A pattern is a list of tokens.  A star and a question mark stop at slashes; two stars
between slashes stand for any number of directories; braces hold several patterns, one
of which is taken, and such groups can lie in each other.
-/

namespace SourceHarvest.Ignore

/-- A part of a glob pattern. -/
inductive GlobToken where
  /-- One character, byte for byte. -/
  | literal (c : Char)
  /-- One byte other than a slash. -/
  | anyByte
  /-- Any bytes other than slashes. -/
  | anyName
  /-- Nothing, or any directories with the slash after them. -/
  | anyDirectories
  /-- A slash and whatever follows it. -/
  | everythingBelow
  /-- A slash, or any directories with slashes around them. -/
  | anyDirectoriesBetween
  /-- One byte that is in the ranges, or that is not. -/
  | byteClass (negated : Bool) (ranges : List (Char × Char))
  /-- Any one of several patterns. -/
  | oneOf (branches : List (List GlobToken))

namespace Glob

/-! ### Reading patterns -/

/-- A pattern while it is read.  Tokens are kept latest first; the patterns of the
group that is being read, and those of the groups around it, wait for their end. -/
structure Draft where
  tokens : List GlobToken
  branches : List (List GlobToken)
  outer : List (List GlobToken × List (List GlobToken))

namespace Draft

/-- Nothing read yet. -/
def empty : Draft := ⟨[], [], []⟩

/-- One token more. -/
def push (draft : Draft) (token : GlobToken) : Draft :=
  { draft with tokens := token :: draft.tokens }

/-- Two stars that are not alone between slashes. -/
def pushStars (draft : Draft) : Draft :=
  (draft.push .anyName).push .anyName

/-- The start of a group. -/
def openGroup (draft : Draft) : Draft :=
  ⟨[], [], (draft.tokens, draft.branches) :: draft.outer⟩

/-- A comma: in a group the start of its next pattern. -/
def comma (draft : Draft) : Draft :=
  match draft.outer with
  | [] => draft.push (.literal ',')
  | _ => { draft with tokens := [], branches := draft.tokens.reverse :: draft.branches }

/-- The end of a group, if one is open. -/
def closeGroup? (draft : Draft) : Option Draft :=
  match draft.outer with
  | [] => none
  | (tokens, branches) :: outer =>
      let group := (draft.tokens.reverse :: draft.branches).reverse
      some ⟨.oneOf group :: tokens, branches, outer⟩

/-- Two stars for directories, with a slash or an end behind them, take the place of the
token for the character before them. -/
def replaceLast (draft : Draft) (token : GlobToken) : Draft :=
  match draft.tokens with
  | .anyDirectories :: _ => draft
  | .everythingBelow :: _ => draft
  | _ :: rest => { draft with tokens := token :: rest }
  | [] => draft.push token

/-- The whole pattern, if no group is open. -/
def finish? (draft : Draft) : Option (List GlobToken) :=
  if draft.outer.isEmpty then some draft.tokens.reverse else none

end Draft

/-- Two stars behind a character can stand for directories: behind a slash, and in a group
also behind an escaped comma or an escaped opening brace. -/
def Draft.joinsStars (draft : Draft) (before : Option Char) : Bool :=
  before = some '/' || (!draft.outer.isEmpty && (before = some ',' || before = some '\x7b'))

/-- What two stars come to, by the character before them and the text after them: the
draft with their token, the character last read, and what is left to read. -/
def readStars (before : Option Char) (draft : Draft) (rest : List Char) :
    Draft × Option Char × List Char :=
  match rest with
  | [] =>
      if draft.tokens.isEmpty then (draft.push .anyDirectories, some '*', [])
      else if draft.joinsStars before then (draft.replaceLast .everythingBelow, some '*', [])
      else (draft.pushStars, some '*', [])
  | next :: more =>
      if next = '/' ∧ draft.tokens.isEmpty then (draft.push .anyDirectories, some '/', more)
      else if next = '/' ∧ draft.joinsStars before then
        (draft.replaceLast .anyDirectoriesBetween, some '/', more)
      else if (next = ',' ∨ next = '\x7d') ∧ draft.outer.isEmpty = false ∧
          draft.tokens.isEmpty = false ∧ draft.joinsStars before then
        (draft.replaceLast .everythingBelow, some '*', next :: more)
      else (draft.pushStars, some '*', next :: more)

theorem readStars_length (before : Option Char) (draft : Draft) (rest : List Char) :
    (readStars before draft rest).2.2.length ≤ rest.length := by
  cases rest with
  | nil => simp only [readStars]; split <;> (try split) <;> simp
  | cons next more => simp only [readStars]; split <;> (try split) <;> (try split) <;> simp

/-- What reading a class of bytes comes to: ranges and what follows the class, an end
of the pattern before the end of the class, or a range whose ends are in the wrong order. -/
inductive ClassResult where
  | complete (ranges : List (Char × Char)) (rest : List Char)
  | unclosed
  | invalid

/-- Read the inside of a class.  The ranges are kept latest first. -/
def readRanges (first inRange : Bool) (ranges : List (Char × Char)) : List Char → ClassResult
  | [] => .unclosed
  | c :: rest =>
      if c = ']' ∧ first = false then
        .complete (if inRange then ('-', '-') :: ranges else ranges).reverse rest
      else if c = '-' ∧ first = false ∧ inRange = false then readRanges false true ranges rest
      else if inRange then
        match ranges with
        | (low, _) :: others =>
            if c < low then .invalid else readRanges false false ((low, c) :: others) rest
        | [] => readRanges false false [(c, c)] rest
      else readRanges false false ((c, c) :: ranges) rest

theorem readRanges_length {first inRange : Bool} {ranges found : List (Char × Char)}
    {text rest : List Char} (read : readRanges first inRange ranges text = .complete found rest) :
    rest.length < text.length := by
  induction text generalizing first inRange ranges with
  | nil => simp [readRanges] at read
  | cons c more inductionHypothesis =>
      simp only [readRanges] at read
      grind

/-- Read a class behind its opening bracket: whether it is negated, and its ranges. -/
def readClass (text : List Char) : Bool × ClassResult :=
  match text with
  | '!' :: rest => (true, readRanges true false [] rest)
  | '^' :: rest => (true, readRanges true false [] rest)
  | _ => (false, readRanges true false [] text)

theorem readClass_length {text rest : List Char} {ranges : List (Char × Char)}
    (read : (readClass text).2 = .complete ranges rest) : rest.length < text.length := by
  simp only [readClass] at read
  split at read
  · have shorter := readRanges_length read
    simp only [List.length_cons]
    omega
  · have shorter := readRanges_length read
    simp only [List.length_cons]
    omega
  · exact readRanges_length read

/-- Read a pattern.  `before` is the character just read, and `literalBrackets` says that
an opening bracket without its partner was met, after which brackets are characters. -/
def readTokens (before : Option Char) (literalBrackets : Bool) (draft : Draft)
    (text : List Char) : Option (List GlobToken) :=
  match text with
  | [] => draft.finish?
  | '?' :: rest => readTokens (some '?') literalBrackets (draft.push .anyByte) rest
  | '*' :: '*' :: rest =>
      readTokens (readStars before draft rest).2.1 literalBrackets (readStars before draft rest).1
        (readStars before draft rest).2.2
  | '*' :: rest => readTokens (some '*') literalBrackets (draft.push .anyName) rest
  | '[' :: rest =>
      if literalBrackets then readTokens (some '[') true (draft.push (.literal '[')) rest
      else
        match _found : (readClass rest).2 with
        | .complete ranges after =>
            readTokens (some ']') false (draft.push (.byteClass (readClass rest).1 ranges)) after
        | .unclosed => readTokens (some '[') true (draft.push (.literal '[')) rest
        | .invalid => none
  | '\x7b' :: rest => readTokens (some '\x7b') literalBrackets draft.openGroup rest
  | '\x7d' :: rest =>
      match draft.closeGroup? with
      | some closed => readTokens (some '\x7d') literalBrackets closed rest
      | none => none
  | ',' :: rest => readTokens (some ',') literalBrackets draft.comma rest
  | ['\\'] => none
  | '\\' :: c :: rest => readTokens (some c) literalBrackets (draft.push (.literal c)) rest
  | c :: rest => readTokens (some c) literalBrackets (draft.push (.literal c)) rest
termination_by text.length
decreasing_by
  all_goals simp only [List.length_cons]
  all_goals first
    | omega
    | (have shorter := readStars_length before draft rest; omega)
    | (have shorter := readClass_length _found; omega)

/-- The tokens of a pattern, if it is well formed. -/
def ofText? (text : List Char) : Option (List GlobToken) :=
  readTokens none false .empty text

/-! ### Bytes of characters -/

/-- The UTF-8 bytes of a character. -/
def charBytes (c : Char) : List UInt8 :=
  String.toUTF8 (String.singleton c) |>.toList

/-- The bytes between two characters of a class, which is a class of bytes: a range reaches
from the last byte of its first character to the first byte of its last one, and the
other bytes of both stand for themselves. -/
def rangeContains (range : Char × Char) (byte : UInt8) : Bool :=
  if range.1 = range.2 then (charBytes range.1).contains byte
  else
    let low := charBytes range.1
    let high := charBytes range.2
    low.contains byte || high.contains byte ||
      (low.getLast?.any (· ≤ byte) && high.head?.any (byte ≤ ·))

/-- How many single bytes and ranges of bytes the ranges of a class come to. -/
def classSize (ranges : List (Char × Char)) : Nat :=
  ranges.foldr (fun range size =>
    (if range.1 = range.2 then (charBytes range.1).length
    else (charBytes range.1).length + (charBytes range.2).length - 1) + size) 0

/-! ### Nesting -/

/-- The levels of parts that follow each other: several of them are a level themselves. -/
def sequenceLevels : List Nat → Nat
  | [] => 0
  | [levels] => levels
  | several => (several.max?).getD 0 + 1

/-- The levels of a group with one of several patterns in it: the group is a level, and
so is the choice, if there is one. -/
def groupLevels : List Nat → List Nat
  | [] => []
  | [levels] => [levels + 1]
  | several => [(several.max?).getD 0 + 2]

mutual

/-- The levels of the parts as which a token stands in a regular expression over bytes.
Each group, choice, sequence, repetition and class is a level, and so are the members of
a class with more than one. -/
def tokenLevels : GlobToken → List Nat
  | .literal c => (charBytes c).map fun _ => 0
  | .anyByte => [1]
  | .anyName => [2]
  | .anyDirectories => [4]
  | .everythingBelow => [0, 1]
  | .anyDirectoriesBetween => [4]
  | .byteClass _ ranges => [if classSize ranges = 1 then 1 else 2]
  | .oneOf branches => groupLevels (branchLevels branches)

/-- The levels of the parts of a pattern. -/
def tokensLevels : List GlobToken → List Nat
  | [] => []
  | token :: tokens => tokenLevels token ++ tokensLevels tokens

/-- The levels of each of several patterns, without those in which nothing is written. -/
def branchLevels : List (List GlobToken) → List Nat
  | [] => []
  | branch :: others =>
      let levels := tokensLevels branch
      if levels.isEmpty then branchLevels others
      else sequenceLevels levels :: branchLevels others

end

/-- How many levels lie in each other in a pattern, whose parts are one sequence. -/
def nesting (tokens : List GlobToken) : Nat :=
  ((tokensLevels tokens).max?).getD 0 + 1

/-- The greatest nesting of a pattern that can be matched. -/
def greatestNesting : Nat := 250

end Glob

end SourceHarvest.Ignore
