import QuoteService.Failure
import QuoteService.Text.Split

/-! Where database files are and can be made. Paths are read name by name: an empty name and `.` stay
where they are, `..` goes back. -/
namespace QuoteService
open Text

/-- How a database file is opened: `create` makes it if it is not there, the others refuse. -/
inductive Access where
  | create
  | existing
  | readOnly
  deriving DecidableEq, Repr

/-- Directories and files by their paths from the root. -/
structure Disk where
  workingDirectory : String
  directories : List String
  files : List String

namespace Disk

/-- One name further, from the names passed so far; the last comes first. -/
def enter (passed : List (List Char)) (name : List Char) : List (List Char) :=
  if name = [] ∨ name = ['.'] then passed
  else if name = ['.', '.'] then passed.drop 1
  else name :: passed

/-- The path through names, the last of which comes first. -/
def pathThrough (passed : List (List Char)) : String :=
  String.ofList ('/' :: ['/'].intercalate passed.reverse)

/-- The names on the way to a path. One that does not start at the root starts at the working
directory. -/
def way (d : Disk) (path : String) : List (List Char) :=
  let start := if path.toList.head? = some '/' then [] else d.workingDirectory.toList ++ ['/']
  (splitOn '/' (start ++ path.toList)).foldl enter []

/-- A path from the root, in its only form. -/
def absolute (d : Disk) (path : String) : String := pathThrough (d.way path)

/-- The directory that a path is in. -/
def directoryOf (d : Disk) (path : String) : String := pathThrough ((d.way path).drop 1)

/-- A refusal of the database itself. -/
def refused (message : String) : Failure :=
  .fault .operational (some ("(sqlite3.OperationalError) " ++ message))

def unopened : Failure := refused "unable to open database file"

/-- A directory but the root can be opened to be read, and then cannot be read. -/
def unread : Failure := refused "disk I/O error"

/-- Why a database file cannot be opened, if so. -/
def refusal? (d : Disk) (access : Access) (path : String) : Option Failure :=
  if d.absolute path ∈ d.directories then
    some (if access = .readOnly ∧ d.way path ≠ [] then unread else unopened)
  else if d.directoryOf path ∈ d.directories ∧ (access = .create ∨ d.absolute path ∈ d.files) then none
  else some unopened

end Disk
end QuoteService
