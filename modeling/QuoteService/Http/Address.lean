import QuoteService.Http.Authority

/-! The address of a request, and the path that a reader of the address finds in it. -/
namespace QuoteService.Http
open Number Text

/-- An address, and the path that is found in it. -/
structure Address where
  url : String
  path : String
  deriving DecidableEq, Repr

namespace Address

/-- Characters that would end the path or change its segments are escaped. -/
def escapePathChar : Char → List Char
  | '?' => ['%', '3', 'F']
  | '#' => ['%', '2', '3']
  | '\\' => ['%', '5', 'C']
  | c => [c]

def escapePath (path : List Char) : List Char := path.flatMap escapePathChar

/-- Between an authority and a path stands a slash. -/
def rooted : List Char → List Char
  | [] => []
  | '/' :: rest => '/' :: rest
  | path => '/' :: path

/-- A path without an authority must not look like one. -/
def unauthorized : List Char → List Char
  | '/' :: '/' :: rest => '/' :: '%' :: '2' :: 'F' :: rest
  | path => path

/-- Authority and path. An empty authority is left out before a path that looks like one. -/
def located (authority path : List Char) : List Char :=
  match authority, path with
  | [], '/' :: '/' :: rest => '/' :: '/' :: rest
  | _, _ => '/' :: '/' :: authority ++ rooted path

def compose (scheme : String) (authority : Option String) (path query : String) : List Char :=
  let path := escapePath path.toList
  let query := if query = "" then [] else '?' :: query.toList
  match authority with
  | some a =>
    (if scheme = "" then [] else scheme.toList ++ [':']) ++ located a.toList path ++ query
  | none => unauthorized path ++ query

/-- Readers drop tabs and line ends anywhere, and blanks and controls in front. -/
def isDropped (c : Char) : Bool := c == '\t' || c == '\r' || c == '\n'

def cleaned (url : List Char) : List Char :=
  (url.dropWhile fun c => c.toNat ≤ 0x20).filter fun c => !isDropped c

def isSchemeChar (c : Char) : Bool := c.isAlphanum || c == '+' || c == '-' || c == '.'

/-- What follows the scheme, if the text starts with one. -/
def afterScheme (url : List Char) : List Char :=
  let scheme := url.takeWhile (· != ':')
  match scheme, url.dropWhile (· != ':') with
  | c :: _, _ :: rest => if c.isAlpha && scheme.all isSchemeChar then rest else url
  | _, _ => url

def isAuthorityEnd (c : Char) : Bool := c == '/' || c == '?' || c == '#'

/-- Characters whose compatibility forms contain a separator of addresses. -/
def lookalikes : List Nat :=
  [0x2047, 0x2048, 0x2049, 0x2100, 0x2101, 0x2105, 0x2106, 0x2A74, 0xFE13, 0xFE16, 0xFE55, 0xFE56,
   0xFE5F, 0xFE6B, 0xFF03, 0xFF0F, 0xFF1A, 0xFF1F, 0xFF20]

/-- Refuses an authority with such a character. -/
def checkLookalikes (authority : List Char) : Except Failure Unit :=
  if authority.any fun c => lookalikes.contains c.toNat then
    .error (.fault .value (some ("netloc '" ++ String.ofList authority ++
      "' contains invalid characters under NFKC normalization")))
  else .ok ()

def unbalanced : Failure := .fault .value (some "Invalid IPv6 URL")

/-- What an authority in an address must keep to if it has brackets: at most a user in front of them,
an address inside, and a port behind. -/
def checkBrackets (authority : List Char) : Except Failure Unit :=
  let opens := authority.contains '['
  let closes := authority.contains ']'
  if opens != closes then .error unbalanced
  else if !opens then .ok ()
  else
    let place := (authority.reverse.takeWhile (· != '@')).reverse
    let (host, port) :=
      if place.contains '[' then
        let inner := (place.dropWhile (· != '[')).drop 1
        (inner.takeWhile (· != ']'), (inner.dropWhile (· != ']')).drop 1)
      else (place.takeWhile (· != ':'), [])
    if place.contains '[' && (place.head? != some '[' || !(port.isEmpty || port.head? == some ':'))
    then .error unbalanced
    else if host.head? == some 'v' then
      let version := (host.drop 1).takeWhile (· != '.')
      let text := ((host.drop 1).dropWhile (· != '.')).drop 1
      if version.all Authority.isHex && !version.isEmpty && !text.isEmpty then .ok ()
      else .error (.fault .value (some "IPvFuture address is invalid"))
    else if Authority.isIPv4 host then
      .error (.fault .value (some "An IPv4 address cannot be in brackets"))
    else
      let zone := (host.dropWhile (· != '%')).drop 1
      let zoned := host.contains '%'
      if Authority.isIPv6 (host.takeWhile (· != '%')) &&
          (!zoned || (!zone.isEmpty && !zone.contains '%')) then .ok ()
      else .error (.fault .value
        (some (quote (String.ofList host) ++ " does not appear to be an IPv4 or IPv6 address")))

/-- The path of an address: what stands between the authority and the query. -/
def pathOf (url : List Char) : Except Failure String := do
  let rest ← match afterScheme (cleaned url) with
    | '/' :: '/' :: rest => do
      let authority := rest.takeWhile fun c => !isAuthorityEnd c
      checkBrackets authority
      checkLookalikes authority
      pure (rest.dropWhile fun c => !isAuthorityEnd c)
    | rest => pure rest
  return String.ofList (rest.takeWhile fun c => !(c == '?' || c == '#'))

end Address

/-- Who sent a request. -/
def Request.remote (r : Request) : String :=
  match r.client with
  | some c => c.host ++ ":" ++ integerText c.port
  | none => "unknown"

/-- The address of a request. Without an authority it is the path and the query alone. -/
def Request.address (r : Request) : Except Failure Address := do
  let url := Address.compose r.scheme (← r.authority) r.path r.query
  return ⟨String.ofList url, ← Address.pathOf url⟩

end QuoteService.Http
