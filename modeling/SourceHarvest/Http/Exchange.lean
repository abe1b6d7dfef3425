import SourceHarvest.Failure.Basic
import SourceHarvest.Http.Url
import SourceHarvest.Json.Decode
import SourceHarvest.Json.Writer

/-!
# Requests and replies

A transport takes a request to where it leads, and brings back a reply or nothing.  A
client posts JSON over a transport.  A request whose address or headers cannot be used
never reaches the transport; for the client that looks like a reply that does not come.
-/

namespace SourceHarvest.Http

/-- A request as it is sent. -/
structure HttpRequest where
  method : String
  url : String
  authorization : Option String
  body : String
deriving DecidableEq, Repr

/-- A reply as it comes back. -/
structure HttpReply where
  status : Nat
  body : String
deriving DecidableEq, Repr

namespace HttpReply

/-- The reply says that all is well. -/
def isSuccess (reply : HttpReply) : Bool :=
  200 ≤ reply.status && reply.status < 300

/-- The usual words for each status. -/
def reasons : List (Nat × String) :=
  [ (101, "Switching Protocols"), (200, "OK"), (201, "Created"), (202, "Accepted"),
    (203, "Non Authoritative Information"),
    (204, "No Content"), (205, "Reset Content"), (206, "Partial Content"), (207, "Multi-Status"),
    (208, "Already Reported"), (226, "IM Used"), (300, "Multiple Choices"),
    (301, "Moved Permanently"), (302, "Found"), (303, "See Other"), (304, "Not Modified"),
    (305, "Use Proxy"), (307, "Temporary Redirect"), (308, "Permanent Redirect"),
    (400, "Bad Request"), (401, "Unauthorized"), (402, "Payment Required"), (403, "Forbidden"),
    (404, "Not Found"), (405, "Method Not Allowed"), (406, "Not Acceptable"),
    (407, "Proxy Authentication Required"), (408, "Request Timeout"), (409, "Conflict"),
    (410, "Gone"), (411, "Length Required"), (412, "Precondition Failed"),
    (413, "Payload Too Large"), (414, "URI Too Long"), (415, "Unsupported Media Type"),
    (416, "Range Not Satisfiable"), (417, "Expectation Failed"), (418, "I'm a teapot"),
    (421, "Misdirected Request"), (422, "Unprocessable Entity"), (423, "Locked"),
    (424, "Failed Dependency"), (426, "Upgrade Required"),
    (428, "Precondition Required"), (429, "Too Many Requests"),
    (431, "Request Header Fields Too Large"), (451, "Unavailable For Legal Reasons"),
    (500, "Internal Server Error"), (501, "Not Implemented"), (502, "Bad Gateway"),
    (503, "Service Unavailable"), (504, "Gateway Timeout"), (505, "HTTP Version Not Supported"),
    (506, "Variant Also Negotiates"), (507, "Insufficient Storage"), (508, "Loop Detected"),
    (510, "Not Extended"), (511, "Network Authentication Required") ]

/-- The number of the status with its words. -/
def statusText (reply : HttpReply) : String :=
  toString reply.status ++ " " ++ (reasons.lookup reply.status).getD "<unknown status code>"

/-- The body as words for a person, without a byte order mark at its start. -/
def words (reply : HttpReply) : String :=
  match reply.body.toList with
  | '\ufeff' :: rest => String.ofList rest
  | _ => reply.body

end HttpReply

/-- Takes a request to where it leads, and brings back a reply or nothing. -/
abbrev Transport (σ : Type) := HttpRequest → σ → Option HttpReply × σ

/-! ### Credentials -/

/-- The digits of base 64. -/
def base64Digit (value : Nat) : Char :=
  if value < 26 then Char.ofNat (65 + value)
  else if value < 52 then Char.ofNat (71 + value)
  else if value < 62 then Char.ofNat (value - 4)
  else if value = 62 then '+'
  else '/'

/-- The text of bytes in base 64, padded to full groups of four digits. -/
def base64 : List UInt8 → List Char
  | [] => []
  | [a] =>
      let group := 65536 * a.toNat
      [base64Digit (group / 262144), base64Digit (group / 4096 % 64), '=', '=']
  | [a, b] =>
      let group := 65536 * a.toNat + 256 * b.toNat
      [base64Digit (group / 262144), base64Digit (group / 4096 % 64),
        base64Digit (group / 64 % 64), '=']
  | a :: b :: c :: rest =>
      let group := 65536 * a.toNat + 256 * b.toNat + c.toNat
      base64Digit (group / 262144) :: base64Digit (group / 4096 % 64) ::
        base64Digit (group / 64 % 64) :: base64Digit (group % 64) :: base64 rest

/-- The text can be the value of a header. -/
def isHeaderValue (text : String) : Bool :=
  text.toList.all fun c => c == '\t' || (0x20 ≤ c.toNat && c.toNat != 0x7F)

/-! ### Posting -/

/-- An address without slashes at its end. -/
def withoutFinalSlashes (address : String) : String :=
  String.ofList (address.toList.reverse.dropWhile (· == '/')).reverse

/-- Work over the state of a transport, which stays as the work left it even when it fails. -/
abbrev Exchange (σ : Type) := ExceptT Failure (StateM σ)

/-- What stands between a request and its reply. -/
inductive Obstacle where
  /-- What should be an address is none. -/
  | noAddress
  /-- A request cannot hold the address. -/
  | unusableAddress (address : String)
  /-- A request cannot hold a header. -/
  | unusableHeader
  /-- Nothing came back from the address. -/
  | noReply (address : String)
deriving DecidableEq, Repr

namespace Obstacle

/-- The step that an obstacle stops. -/
def step : Obstacle → String
  | noAddress => "builder error"
  | unusableAddress address => s!"builder error for url ({address})"
  | unusableHeader => "builder error"
  | noReply address => s!"error sending request for url ({address})"

/-- What the obstacle is. -/
def origin : Obstacle → String
  | noAddress => "relative URL without a base"
  | unusableAddress _ => "a parsed Url should always be a valid Uri"
  | unusableHeader => "failed to parse header value"
  | noReply _ => "connection closed before message completed"

/-- The failure of a request that meets an obstacle: what the request was for, the step that
is stopped, and what stops it. -/
def failure (obstacle : Obstacle) (purpose : String) : Failure :=
  ((Failure.ofCause (.exchange obstacle.origin)).within
    (.exchange s!"{obstacle.step}: {obstacle.origin}")).context purpose

end Obstacle

/-- The request that posts JSON to an address. -/
def postRequest (url : String) (body : Json.Value) : Except Obstacle HttpRequest :=
  match Url.ofText? url with
  | none => .error .noAddress
  | some found =>
      let (credentials, address) := found.takeCredentials
      if address.fitsRequest then
        .ok
          { method := "POST"
            url := address.withoutFragment.text
            authorization := credentials.map fun bytes => "Basic " ++ String.ofList (base64 bytes)
            body := body.compact }
      else .error (.unusableAddress address.text)

/-- Send a request that could be made, with what a transport does. -/
def sendOver {σ : Type} (send : HttpRequest → σ → Option HttpReply × σ)
    (request : Except Obstacle HttpRequest) (purpose : String) : Exchange σ HttpReply :=
  ExceptT.mk fun state =>
    match request with
    | .error obstacle => (.error (obstacle.failure purpose), state)
    | .ok request =>
        match send request state with
        | (some reply, next) => (.ok reply, next)
        | (none, next) => (.error ((Obstacle.noReply request.url).failure purpose), next)

/-- Post JSON and wait for the reply.  Where none comes, the failure says what was being sent. -/
def post {σ : Type} (transport : Transport σ) (url : String) (body : Json.Value)
    (purpose : String) : Exchange σ HttpReply :=
  sendOver transport (postRequest url body) purpose

/-- The body of a reply as data.  Where it is no such data, the failure says what was read. -/
def decode {σ α : Type} (read : Json.Document → Option α) (reply : HttpReply) (purpose : String) :
    Exchange σ α :=
  match (Json.Document.ofText? reply.body).bind read with
  | some value => pure value
  | none => throw (Failure.ofMessage purpose)

end SourceHarvest.Http
