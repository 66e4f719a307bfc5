import QuoteService.Database.Disk
import QuoteService.Text.Percent

/-! Places of databases: a server, memory, or a file, which a URI may name. -/
namespace QuoteService
open Text

/-- Where a database is. An unusable place is known as such only when a connection is tried. -/
inductive Place where
  | server
  | memory
  | file (path : String) (access : Access)
  | unusable (failure : Failure)

namespace Place

/-- How much an access allows; memory, which is no access to a file, allows most. -/
def allowance : Option Access → Nat
  | some .readOnly => 0
  | some .existing => 1
  | some .create => 2
  | none => 3

/-- The access of a mode. -/
def ofMode? : String → Option (Option Access)
  | "ro" => some (some .readOnly)
  | "rw" => some (some .existing)
  | "rwc" => some (some .create)
  | "memory" => some none
  | _ => none

/-- The access that a file URI has after one more option. It is never widened, but for memory. -/
def narrow (access : Option Access) (option : String × String) :
    Except Failure (Option Access) :=
  match option with
  | ("mode", mode) =>
    match ofMode? mode with
    | none => .error (Disk.refused ("no such access mode: " ++ mode))
    | some wanted =>
      if wanted.isNone || allowance wanted ≤ allowance access then .ok wanted
      else .error (Disk.refused ("access mode not allowed: " ++ mode))
  | ("cache", mode) =>
    if mode = "shared" ∨ mode = "private" then .ok access
    else .error (Disk.refused ("no such cache mode: " ++ mode))
  | _ => .ok access

/-- The ways to reach files, besides the one that keeps them in memory. -/
def fileSystems : List String := ["unix", "unix-none", "unix-dotfile", "unix-excl"]

/-- The access that a file URI has by its options, the last of which decides on the way. -/
def accessOf (options : List (String × String)) : Except Failure (Option Access) := do
  let access ← options.foldlM narrow (some .create)
  match options.reverse.lookup "vfs" with
  | none => return access
  | some "memdb" => return none
  | some name =>
    if fileSystems.contains name then return access
    else .error (Disk.refused ("no such vfs: " ++ name))

def inMemory : String := ":memory:"

/-- A database without a name is a temporary one. -/
def ofPath (path : String) : Place :=
  if path = "" ∨ path = inMemory then .memory else .file path .create

/-- Decodes a part of a file URI; what follows a zero is lost. -/
def uriText (cs : List Char) : String :=
  String.ofList ((percentDecode cs).takeWhile (· != '\x00'))

/-- The authority of a file URI, and what follows it. -/
def cutAuthority : List Char → List Char × List Char
  | '/' :: '/' :: rest => (rest.takeWhile (· != '/'), rest.dropWhile (· != '/'))
  | rest => ([], rest)

/-- The options of a file URI; those without a name are ignored. -/
def uriOptions (cs : List Char) : List (String × String) :=
  let pairs := (splitOn '&' cs).map cutPair
  (pairs.map fun p => (uriText p.1, uriText p.2)).filter fun p => p.1 != ""

/-- The place of a file URI, given without its scheme. A fragment is ignored. -/
def ofUri (uri : List Char) : Place :=
  let (authority, rest) := cutAuthority uri
  let rest := rest.takeWhile (· != '#')
  if authority ≠ [] ∧ String.ofList authority ≠ "localhost" then
    .unusable (Disk.refused ("invalid uri authority: " ++ String.ofList authority))
  else
    let place := ofPath (uriText (rest.takeWhile (· != '?')))
    match accessOf (uriOptions ((rest.dropWhile (· != '?')).drop 1)), place with
    | .error failure, _ => .unusable failure
    | .ok (some access), .file path _ => .file path access
    | .ok none, _ => .memory
    | .ok _, place => place

def uriScheme : List Char := ['f', 'i', 'l', 'e', ':']

def embeddedZero : Failure := .fault .value (some "embedded null byte")

/-- The place of a database by its name, which may be a file URI only if that is said. -/
def ofName (asUri : Bool) (name : String) : Place :=
  match asUri, uriScheme.isPrefixOf? name.toList with
  | true, some uri => ofUri uri
  | _, _ => ofPath name

end Place

/-- Why a place cannot be connected to, if so. No server is in reach. -/
def Place.refusal? (disk : Disk) : Place → Option Failure
  | .server => some (.fault .system (some "[Errno 111] Connect call failed"))
  | .memory => none
  | .file path access => disk.refusal? access path
  | .unusable failure => some failure

end QuoteService
