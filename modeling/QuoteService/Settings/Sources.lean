import QuoteService.Settings.Dotenv
import QuoteService.Text.Case

/-! Where settings come from: arguments first, then the environment, then a file. Names in the
environment and in the file match in any case. -/
namespace QuoteService.Settings
open Text

/-- The arguments as they are given, all variables of the environment, and the entries of the file. -/
structure Sources where
  arguments : List (String × Json)
  environment : List (String × String)
  file : List Dotenv.Entry

/-- The names in lower case, each with its last value. -/
def foldNames {α : Type} (entries : List (String × α)) : List (String × α) :=
  Json.distinct (entries.map fun e => (lower e.1, e.2))

namespace Sources

/-- The value of a name before it is checked. A file may name a key without giving it a value. -/
def raw? (s : Sources) (name : String) : Option Json :=
  match s.arguments.lookup name with
  | some value => some value
  | none =>
    match (foldNames s.environment).lookup name with
    | some value => some (.string value)
    | none =>
      match (foldNames s.file).lookup name with
      | some (some value) => some (.string value)
      | _ => none

/-- Names that are no settings: those of the file that have a text, then those of the arguments.
Other variables of the environment are none of the service's business. -/
def unknown (known : List String) (s : Sources) : List String :=
  let ofFile := (foldNames s.file).filterMap fun e =>
    if known.contains e.1 || e.2.getD "" == "" then none else some e.1
  let ofArguments := s.arguments.filterMap fun e =>
    if known.contains e.1 || ofFile.contains e.1 then none else some e.1
  ofFile ++ ofArguments

end Sources
end QuoteService.Settings
