import QuoteService.Failure
import QuoteService.Http.Query
import QuoteService.Http.Request
import QuoteService.Number.IntegerText

/-! The authority of a request's address: its Host header if that has the form of one, else the address
of the server. -/
namespace QuoteService.Http
open Number Text

namespace Authority

def isHex (c : Char) : Bool := (hexValue c).isSome

/-- Up to four hexadecimal digits. -/
def isHexGroup (cs : List Char) : Bool :=
  !cs.isEmpty && cs.length ≤ 4 && cs.all isHex

/-- A number up to 255 without leading zeros. -/
def isOctet (cs : List Char) : Bool :=
  !cs.isEmpty && cs.length ≤ 3 && cs.all Char.isDigit &&
    (cs.length == 1 || cs.head? != some '0') && digitsValue 0 cs ≤ 255

def isIPv4 (cs : List Char) : Bool :=
  let octets := splitOn '.' cs
  octets.length == 4 && octets.all isOctet

/-- How many groups of 16 bits the parts are; the last part may be an IPv4 address, which is two. -/
def groupCount : List (List Char) → Option Nat
  | [] => none
  | [part] => if isHexGroup part then some 1 else if isIPv4 part then some 2 else none
  | part :: rest => if isHexGroup part then (groupCount rest).map (· + 1) else none

/-- The texts before and after the first double colon. -/
def cutGap : List Char → Option (List Char × List Char)
  | ':' :: ':' :: rest => some ([], rest)
  | c :: rest => (cutGap rest).map fun (left, right) => (c :: left, right)
  | [] => none

/-- Eight groups, or fewer around one gap. Before the gap all groups are hexadecimal. -/
def isIPv6 (cs : List Char) : Bool :=
  match cutGap cs with
  | none => groupCount (splitOn ':' cs) == some 8
  | some (left, right) =>
    let before := splitOn ':' left
    let high := if left.isEmpty then some 0
      else if before.all isHexGroup then some before.length else none
    let low := if right.isEmpty then some 0 else groupCount (splitOn ':' right)
    match high, low with
    | some m, some n => m + n ≤ 7
    | _, _ => false

/-- The characters of a name: letters, digits, and those without a meaning in an address. -/
def isNameChar (c : Char) : Bool :=
  c.isAlphanum || "._~%!$&'()*+,;=-".toList.contains c

/-- A literal of a future version: `v`, its number, and a text after the dot. -/
def isFutureLiteral : List Char → Bool
  | 'v' :: rest =>
    let version := rest.takeWhile (· != '.')
    let text := (rest.dropWhile (· != '.')).drop 1
    !version.isEmpty && version.all isHex && !text.isEmpty &&
      text.all fun c => c == ':' || (isNameChar c && c != '%')
  | _ => false

/-- Nothing, or a colon and a port number of at most 65535. -/
def isPortSuffix : List Char → Bool
  | [] => true
  | ':' :: digits =>
    !digits.isEmpty && digits.all Char.isDigit &&
      (digits.dropWhile (· == '0')).length ≤ 5 && digitsValue 0 digits ≤ 65535
  | _ => false

/-- Whether a Host header names a host: a name, or a literal in brackets, with or without a port. -/
def isAccepted (host : String) : Bool :=
  match host.toList with
  | '[' :: rest =>
    let literal := rest.takeWhile (· != ']')
    match rest.dropWhile (· != ']') with
    | ']' :: port => (isIPv6 literal || isFutureLiteral literal) && isPortSuffix port
    | _ => false
  | cs =>
    let name := cs.takeWhile isNameChar
    !name.isEmpty && isPortSuffix (cs.dropWhile isNameChar)

def defaultPort? : String → Option Int
  | "http" | "ws" => some 80
  | "https" | "wss" => some 443
  | _ => none

/-- A host with colons stands in brackets, unless it starts with one. -/
def bracketed (host : String) : String :=
  if host.toList.contains ':' && host.toList.head? != some '[' then "[" ++ host ++ "]" else host

/-- The address of a server. The usual port of the scheme is left out; another scheme has none. -/
def ofServer (scheme : String) (server : Endpoint) : Except Failure String :=
  match defaultPort? scheme with
  | none => .error (.fault .key (some scheme))
  | some port =>
    if port = server.port then .ok (bracketed server.host)
    else .ok (bracketed server.host ++ ":" ++ integerText server.port)

end Authority

/-- The authority of a request's address; none without an accepted Host header and a server. -/
def Request.authority (r : Request) : Except Failure (Option String) :=
  match r.host.filter Authority.isAccepted, r.server with
  | some host, _ => .ok (some host)
  | none, some server => some <$> Authority.ofServer r.scheme server
  | none, none => .ok none

end QuoteService.Http
