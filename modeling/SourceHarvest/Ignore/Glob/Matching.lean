import SourceHarvest.Ignore.Glob

/-!
# Matching of glob patterns

A pattern is matched against the bytes of a path in UTF-8, and from its end: each token
takes the rests of the path that the tokens behind it match to the rests that are matched
together with it.  So the work grows with the path and with the pattern, however many
ways there are to match one with the other.
-/

namespace SourceHarvest.Ignore.Glob

/-! ### Marks -/

/-- Which rests of a path are matched: a mark for the path itself comes first, then one for
each shorter rest, and the mark for the empty rest comes last. -/
abbrev Marks := List Bool

namespace Marks

/-- Only the empty rest is matched. -/
def atEnd (path : List UInt8) : Marks :=
  path.map (fun _ => false) ++ [true]

/-- The whole path is matched. -/
def whole (marks : Marks) : Bool :=
  marks.headD false

/-- What is matched in either of two ways. -/
def union (marks others : Marks) : Marks :=
  List.zipWith (· || ·) marks others

/-- One byte that fits, and what is matched behind it. -/
def behindByte (fits : UInt8 → Bool) : List UInt8 → Marks → Marks
  | byte :: rest, _ :: marks => (fits byte && whole marks) :: behindByte fits rest marks
  | _, _ => [false]

/-- Any number of bytes that fit, and what is matched behind them. -/
def behindBytes (fits : UInt8 → Bool) : List UInt8 → Marks → Marks
  | byte :: rest, mark :: marks =>
      let later := behindBytes fits rest marks
      (mark || (fits byte && whole later)) :: later
  | _, marks => marks

/-- Anything up to a slash and with it, and what is matched behind it. -/
def behindSlash : List UInt8 → Marks → Marks
  | byte :: rest, _ :: marks =>
      let later := behindSlash rest marks
      ((byte == 47 && whole marks) || whole later) :: later
  | _, _ => [false]

@[simp]
theorem length_atEnd (path : List UInt8) : (atEnd path).length = path.length + 1 := by
  simp [atEnd]

@[simp]
theorem length_union (marks others : Marks) :
    (union marks others).length = min marks.length others.length := by
  simp [union]

@[simp]
theorem length_behindByte (fits : UInt8 → Bool) (path : List UInt8) (marks : Marks)
    (complete : marks.length = path.length + 1) :
    (behindByte fits path marks).length = path.length + 1 := by
  induction path generalizing marks with
  | nil => simp [behindByte]
  | cons byte rest inductionHypothesis =>
      cases marks with
      | nil => simp at complete
      | cons mark marks =>
          simp only [List.length_cons, Nat.add_right_cancel_iff] at complete
          simp [behindByte, inductionHypothesis marks complete]

@[simp]
theorem length_behindBytes (fits : UInt8 → Bool) (path : List UInt8) (marks : Marks) :
    (behindBytes fits path marks).length = marks.length := by
  induction path generalizing marks with
  | nil => simp [behindBytes]
  | cons byte rest inductionHypothesis =>
      cases marks with
      | nil => simp [behindBytes]
      | cons mark marks => simp [behindBytes, inductionHypothesis]

@[simp]
theorem length_behindSlash (path : List UInt8) (marks : Marks)
    (complete : marks.length = path.length + 1) :
    (behindSlash path marks).length = path.length + 1 := by
  induction path generalizing marks with
  | nil => simp [behindSlash]
  | cons byte rest inductionHypothesis =>
      cases marks with
      | nil => simp at complete
      | cons mark marks =>
          simp only [List.length_cons, Nat.add_right_cancel_iff] at complete
          simp [behindSlash, inductionHypothesis marks complete]

end Marks

/-! ### Tokens -/

/-- The byte is no slash. -/
def inName (byte : UInt8) : Bool :=
  byte != 47

/-- Given bytes, and what is matched behind them. -/
def bytesMarks (path : List UInt8) (bytes : List UInt8) (marks : Marks) : Marks :=
  bytes.foldr (fun byte marks => marks.behindByte (· == byte) path) marks

mutual

/-- The token is a group in which nothing is written. -/
def tokenVoid : GlobToken → Bool
  | .oneOf branches => branchesVoid branches
  | _ => false

/-- Nothing is written in a pattern. -/
def tokensVoid : List GlobToken → Bool
  | [] => true
  | token :: tokens => tokenVoid token && tokensVoid tokens

/-- Nothing is written in any of several patterns. -/
def branchesVoid : List (List GlobToken) → Bool
  | [] => true
  | branch :: others => tokensVoid branch && branchesVoid others

end

mutual

/-- What a token matches together with what is matched behind it. -/
def tokenMarks (path : List UInt8) (marks : Marks) : GlobToken → Marks
  | .literal c => bytesMarks path (charBytes c) marks
  | .anyByte => marks.behindByte inName path
  | .anyName => marks.behindBytes inName path
  | .anyDirectories => marks.union (marks.behindSlash path)
  | .everythingBelow => (marks.behindBytes (fun _ => true) path).behindByte (· == 47) path
  | .anyDirectoriesBetween => (marks.union (marks.behindSlash path)).behindByte (· == 47) path
  | .byteClass negated ranges =>
      marks.behindByte (fun byte => ranges.any (rangeContains · byte) != negated) path
  | .oneOf branches =>
      if branchesVoid branches then marks else branchMarks path marks branches

/-- What a list of tokens matches together with what is matched behind it. -/
def tokensMarks (path : List UInt8) (marks : Marks) : List GlobToken → Marks
  | [] => marks
  | token :: tokens => tokenMarks path (tokensMarks path marks tokens) token

/-- What any of several patterns matches together with what is matched behind it.  A pattern
in which nothing is written counts only if all of them are such. -/
def branchMarks (path : List UInt8) (marks : Marks) : List (List GlobToken) → Marks
  | [] => marks.map fun _ => false
  | branch :: others =>
      if tokensVoid branch then branchMarks path marks others
      else (tokensMarks path marks branch).union (branchMarks path marks others)

end

/-- The whole path is matched.  The pattern of two stars alone matches everything. -/
def accepts (tokens : List GlobToken) (path : List UInt8) : Bool :=
  match tokens with
  | [.anyDirectories] => true
  | _ => (tokensMarks path (Marks.atEnd path) tokens).whole

end SourceHarvest.Ignore.Glob
