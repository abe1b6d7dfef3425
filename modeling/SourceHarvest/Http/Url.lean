import SourceHarvest.Digest.Hexadecimal
import SourceHarvest.Http.Host

/-!
# Addresses of the web

The text of an address is brought into its usual form: scheme and host in lowercase, no
port where it is the usual one, dots in the path resolved, and characters that do not
belong in an address escaped.  Only plain addresses, without encryption, are known.
An address may name its sender; a request tells the sender in a header instead.
-/

namespace SourceHarvest.Http

/-- The sender that an address names, with escapes. -/
structure Sender where
  name : List Char
  password : Option (List Char)
deriving DecidableEq, Repr

namespace Sender

/-- The text of a sender in an address. -/
def text (sender : Sender) : String :=
  let password := match sender.password with
    | some words => ":" ++ String.ofList words
    | none => ""
  String.ofList sender.name ++ password ++ "@"

/-- The bytes are those of a text. -/
def isText (bytes : List UInt8) : Bool :=
  (String.fromUTF8? ⟨bytes.toArray⟩).isSome

/-- The bytes of name and password behind their escapes, with a colon between them.  A name
that is no text cannot be told; a password that is no text is left out. -/
def credentials? (sender : Sender) : Option (List UInt8) :=
  let name := percentDecode sender.name
  let password := (sender.password.map percentDecode).filter isText
  if isText name && (!name.isEmpty || password.isSome) then
    some (name ++ 58 :: password.getD [])
  else none

end Sender

/-- An address in its usual form. -/
structure Url where
  sender : Option Sender
  host : String
  port : Option Nat
  path : String
  query : Option String
  fragment : Option String
deriving DecidableEq, Repr

namespace Url

/-- The port that need not be written. -/
def usualPort : Nat := 80

/-- The text of an address. -/
def text (url : Url) : String :=
  let sender := match url.sender with
    | some named => named.text
    | none => ""
  let port := match url.port with
    | some number => ":" ++ toString number
    | none => ""
  let query := match url.query with
    | some words => "?" ++ words
    | none => ""
  let fragment := match url.fragment with
    | some words => "#" ++ words
    | none => ""
  "http://" ++ sender ++ url.host ++ port ++ url.path ++ query ++ fragment

/-- The address as it is asked for: a fragment concerns only the one who asks. -/
def withoutFragment (url : Url) : Url :=
  { url with fragment := none }

/-- The credentials that an address brings, and the address without them. -/
def takeCredentials (url : Url) : Option (List UInt8) × Url :=
  match url.sender.bind Sender.credentials? with
  | some credentials => (some credentials, { url with sender := none })
  | none => (none, url)

/-- The greatest length of an address in a request. -/
def greatestLength : Nat := 65534

/-- A request can hold the address: some characters of hosts have no place in requests. -/
def fitsRequest (url : Url) : Bool :=
  !url.host.toList.any ("\"`\x7b\x7d".toList.contains ·) && url.text.utf8ByteSize ≤ greatestLength

/-- One byte behind a percent sign. -/
def escapeByte (byte : UInt8) : List Char :=
  ['%', (Digest.hexDigit (byte.toNat / 16)).toUpper, (Digest.hexDigit (byte.toNat % 16)).toUpper]

/-- Escape the characters outside ASCII, the control characters, and some others. -/
def escape (others : List Char) (text : List Char) : List Char :=
  text.flatMap fun c =>
    if c.toNat < 0x20 || 0x7F ≤ c.toNat || others.contains c then
      (String.singleton c).toUTF8.toList.flatMap escapeByte
    else [c]

/-- What is escaped in a path, besides control characters. -/
def escapedInPath : List Char := " \"#<>?`\x7b\x7d".toList

/-- What is escaped in the name and the password of a sender, besides control characters. -/
def escapedInSender : List Char := escapedInPath ++ "/:;=@[\\]^|".toList

/-- What is escaped in a fragment, besides control characters. -/
def escapedInFragment : List Char := " \"<>`".toList

/-- What is escaped in a query, besides control characters. -/
def escapedInQuery : List Char := " \"#<>'".toList

/-- A text in which escaped dots are written out, for comparison. -/
def plainDots : List Char → List Char
  | '%' :: '2' :: 'e' :: rest => '.' :: plainDots rest
  | '%' :: '2' :: 'E' :: rest => '.' :: plainDots rest
  | c :: rest => c :: plainDots rest
  | [] => []

/-- The segment is a letter with a colon or a bar behind it, as some systems name drives. -/
def isDrive : List Char → Bool
  | [letter, mark] => letter.isAlpha && (mark == ':' || mark == '|')
  | _ => false

/-- Segments, latest first, without the last one; a drive is never left. -/
def leaveLast : List (List Char) → List (List Char)
  | [] => []
  | segment :: before => if isDrive segment then segment :: before else before

/-- Put the segments of a path behind those before them, which are kept latest first. -/
def resolveDots (latestFirst : List (List Char)) : List (List Char) → List (List Char)
  | [] => latestFirst.reverse
  | segment :: rest =>
      let isLast := rest.isEmpty
      if plainDots segment = ['.', '.'] then
        let shorter := leaveLast latestFirst
        resolveDots (if isLast then [] :: shorter else shorter) rest
      else if plainDots segment = ['.'] then
        resolveDots (if isLast then [] :: latestFirst else latestFirst) rest
      else resolveDots (segment :: latestFirst) rest

/-- The usual form of a path, which is at least one slash. -/
def pathOf (text : List Char) : String :=
  let segments := Text.splitAtMark '/' (text.map fun c => if c = '\\' then '/' else c)
  let named := match segments with
    | [] :: next :: rest => next :: rest
    | all => all
  let resolved := resolveDots [] named
  String.ofList (resolved.flatMap fun segment => '/' :: escape escapedInPath segment)

/-- Cut a text before the first character of a class. -/
def cutBefore (test : Char → Bool) (text : List Char) : List Char × List Char :=
  (text.takeWhile fun c => !test c, text.dropWhile fun c => !test c)

/-- Cut an authority behind its last at sign: the text of the sender and the rest. -/
def cutSender (authority : List Char) : Option (List Char) × List Char :=
  if authority.contains '@' then
    let rest := (authority.reverse.takeWhile (· != '@')).reverse
    (some (authority.take (authority.length - rest.length - 1)), rest)
  else (none, authority)

/-- The sender in front of an at sign, if any is named. -/
def senderOf? (text : List Char) : Option Sender :=
  let (name, rest) := cutBefore (· == ':') text
  let password := rest.drop 1
  if name.isEmpty && password.isEmpty then none
  else
    some
      { name := escape escapedInSender name
        password := if password.isEmpty then none else some (escape escapedInSender password) }

/-- The number of a port, if it is not the usual one. -/
def portOf? (digits : List Char) : Option (Option Nat) :=
  if digits.isEmpty then some none
  else if digits.all Char.isDigit then
    (numberOf? 10 digits).bind fun number =>
      if number < 65536 then some (if number = usualPort then none else some number) else none
  else none

/-- Cut an authority before its port; colons in brackets do not count. -/
def cutPort (authority : List Char) : List Char × List Char :=
  match authority with
  | '[' :: _ =>
      let inside := authority.takeWhile (· != ']')
      let outside := authority.drop (inside.length + 1)
      let (rest, port) := cutBefore (· == ':') outside
      (inside ++ (authority.drop inside.length).take 1 ++ rest, port.drop 1)
  | _ =>
      let (host, port) := cutBefore (· == ':') authority
      (host, port.drop 1)

/-- What may stand around the text of an address. -/
def isSurrounding (c : Char) : Bool :=
  c.toNat ≤ 0x20

/-- The text without what may stand around it, and without tabs and newlines inside. -/
def cleaned (text : String) : List Char :=
  let inner := text.toList.dropWhile isSurrounding
  let trimmed := (inner.reverse.dropWhile isSurrounding).reverse
  trimmed.filter fun c => c != '\t' && c != '\n' && c != '\r'

/-- What follows the scheme of plain addresses, without the slashes behind it. -/
def afterScheme? (text : List Char) : Option (List Char) :=
  let (scheme, rest) := cutBefore (· == ':') text
  if scheme.map Char.toLower = "http".toList ∧ rest ≠ [] then
    some ((rest.drop 1).dropWhile fun c => c == '/' || c == '\\')
  else none

/-- Read an address. -/
def ofText? (text : String) : Option Url := do
  let rest ← afterScheme? (cleaned text)
  let (authority, tail) := cutBefore (fun c => "/\\?#".toList.contains c) rest
  let (senderText, place) := cutSender authority
  let (hostText, portText) := cutPort place
  let host ← hostOf? hostText
  let port ← portOf? portText
  let (beforeFragment, fragmentText) := cutBefore (· == '#') tail
  let (pathText, queryText) := cutBefore (· == '?') beforeFragment
  let marked := fun escaped (text : List Char) =>
    if text.isEmpty then none else some (String.ofList (escape escaped (text.drop 1)))
  pure
    { sender := senderText.bind senderOf?
      host, port
      path := pathOf pathText
      query := marked escapedInQuery queryText
      fragment := marked escapedInFragment fragmentText }

end Url

end SourceHarvest.Http
