import SourceHarvest.Digest.Hexadecimal

/-!
# Quoted texts

Inside quotes a reverse solidus starts an escape.  Reading has two stages: the
escapes are resolved into characters and halves of surrogate pairs, then the
halves are paired.  A half without its partner is well formed as it is written,
but stands for no character, so such a text can be passed over and not be read.
Writing escapes the quote, the reverse solidus and the control characters, and
nothing else.
-/

namespace SourceHarvest.Json.Quoted

open SourceHarvest.Digest (hexValue? hexDigit)

/-- What one place of a quoted text stands for. -/
inductive Piece where
  | character (c : Char)
  | highHalf (bits : Nat)
  | lowHalf (bits : Nat)
deriving DecidableEq, Repr

/-- The piece that a 16-bit unit stands for; a half keeps its ten bits. -/
def pieceOfUnit (unit : Nat) : Piece :=
  if 0xD800 ≤ unit ∧ unit < 0xDC00 then .highHalf (unit - 0xD800)
  else if 0xDC00 ≤ unit ∧ unit < 0xE000 then .lowHalf (unit - 0xDC00)
  else .character (Char.ofNat unit)

/-- The character of a one-letter escape. -/
def escaped? : Char → Option Char
  | '"' => some '"'
  | '\\' => some '\\'
  | '/' => some '/'
  | 'b' => some '\x08'
  | 'f' => some '\x0c'
  | 'n' => some '\n'
  | 'r' => some '\r'
  | 't' => some '\t'
  | _ => none

/-- Read up to and with the closing quote; also give what follows it. -/
def readPieces? : List Char → Option (List Piece × List Char)
  | [] => none
  | '"' :: rest => some ([], rest)
  | '\\' :: 'u' :: first :: second :: third :: fourth :: rest => do
      let a ← hexValue? first
      let b ← hexValue? second
      let c ← hexValue? third
      let d ← hexValue? fourth
      let (pieces, after) ← readPieces? rest
      pure (pieceOfUnit (4096 * a + 256 * b + 16 * c + d) :: pieces, after)
  | '\\' :: letter :: rest => do
      let c ← escaped? letter
      let (pieces, after) ← readPieces? rest
      pure (.character c :: pieces, after)
  | c :: rest =>
      if c = '\\' ∨ c.toNat < 0x20 then none
      else do
        let (pieces, after) ← readPieces? rest
        pure (.character c :: pieces, after)

/-- Pair the halves up; a half without its partner makes the text unreadable. -/
def joinPieces? : List Piece → Option (List Char)
  | [] => some []
  | .character c :: rest => (joinPieces? rest).map (c :: ·)
  | .highHalf high :: .lowHalf low :: rest =>
      (joinPieces? rest).map (Char.ofNat (0x10000 + 1024 * high + low) :: ·)
  | .highHalf _ :: _ => none
  | .lowHalf _ :: _ => none

/-- The escape of a control character. -/
def controlEscape (c : Char) : List Char :=
  match c with
  | '\x08' => ['\\', 'b']
  | '\x0c' => ['\\', 'f']
  | '\n' => ['\\', 'n']
  | '\r' => ['\\', 'r']
  | '\t' => ['\\', 't']
  | _ => ['\\', 'u', '0', '0', hexDigit (c.toNat / 16), hexDigit (c.toNat % 16)]

/-- The written form of one character. -/
def writeChar (c : Char) : List Char :=
  if c = '"' then ['\\', '"']
  else if c = '\\' then ['\\', '\\']
  else if c.toNat < 0x20 then controlEscape c
  else [c]

/-- The written form of a text, with its quotes. -/
def write (text : List Char) : List Char :=
  '"' :: (text.flatMap writeChar ++ ['"'])

/-- Four hexadecimal digits after the letter of a unit escape. -/
def unitEscape (unit : Nat) : List Char :=
  ['\\', 'u', hexDigit (unit / 4096 % 16), hexDigit (unit / 256 % 16),
   hexDigit (unit / 16 % 16), hexDigit (unit % 16)]

/-- The written form of one character in which every character from U+007F on is
escaped, those above U+FFFF as a surrogate pair. -/
def writeAsciiChar (c : Char) : List Char :=
  if c.toNat < 0x7F then writeChar c
  else if c.toNat < 0x10000 then unitEscape c.toNat
  else
    unitEscape (0xD800 + (c.toNat - 0x10000) / 1024) ++
      unitEscape (0xDC00 + (c.toNat - 0x10000) % 1024)

/-- The written form of a text in ASCII, with its quotes. -/
def writeAscii (text : List Char) : List Char :=
  '"' :: (text.flatMap writeAsciiChar ++ ['"'])

/-- What follows the closing quote is shorter than the text read. -/
theorem readPieces?_length {text : List Char} {result : List Piece × List Char}
    (read : readPieces? text = some result) : result.2.length < text.length := by
  fun_induction readPieces? text generalizing result with
  | case1 => simp at read
  | case2 rest => simp only [Option.some.injEq] at read; subst read; simp
  | case3 first second third fourth rest inductionHypothesis =>
      simp only [Option.bind_eq_bind, Option.bind_eq_some_iff, Option.pure_def,
        Option.some.injEq] at read
      obtain ⟨_, _, _, _, _, _, _, _, inner, innerRead, equal⟩ := read
      have shorter := inductionHypothesis innerRead
      subst equal
      simp only [List.length_cons] at shorter ⊢
      omega
  | case4 letter rest _ inductionHypothesis =>
      simp only [Option.bind_eq_bind, Option.bind_eq_some_iff, Option.pure_def,
        Option.some.injEq] at read
      obtain ⟨_, _, inner, innerRead, equal⟩ := read
      have shorter := inductionHypothesis innerRead
      subst equal
      simp only [List.length_cons] at shorter ⊢
      omega
  | case5 => simp at read
  | case6 c rest _ _ _ _ inductionHypothesis =>
      simp only [Option.bind_eq_bind, Option.bind_eq_some_iff, Option.pure_def,
        Option.some.injEq] at read
      obtain ⟨inner, innerRead, equal⟩ := read
      have shorter := inductionHypothesis innerRead
      subst equal
      simp only [List.length_cons] at shorter ⊢
      omega

end SourceHarvest.Json.Quoted
