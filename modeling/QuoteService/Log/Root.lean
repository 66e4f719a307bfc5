import QuoteService.Log.Line

/-! The root of all loggers: its level and its handlers. The service installs one handler and replaces
it when logging is set up again; handlers of others are left alone. -/
namespace QuoteService.Log

/-- A handler; its format is unknown if others have added it. -/
structure Handler where
  id : Nat
  format : Option Format
  deriving DecidableEq, Repr

/-- `installed` is the handler of the last set-up, also if it has been removed since; `next` is larger
than any number of a handler so far. -/
structure Root where
  handlers : List Handler
  level : Int
  installed : Option Nat
  next : Nat
  deriving DecidableEq, Repr

namespace Root

/-- No handlers, and only warnings pass. -/
def initial : Root := ⟨[], 30, none, 0⟩

/-- A handler that is not of the service. -/
def add (r : Root) : Root :=
  { r with handlers := r.handlers ++ [⟨r.next, none⟩], next := r.next + 1 }

def remove (r : Root) (id : Nat) : Root :=
  { r with handlers := r.handlers.filter fun h => h.id ≠ id }

/-- Puts the handler of the service in place of the one it has installed before. -/
def install (r : Root) (format : Format) : Root :=
  { r with
    handlers := (r.handlers.filter fun h => some h.id ≠ r.installed) ++ [⟨r.next, some format⟩]
    installed := some r.next
    next := r.next + 1 }

/-- The layouts that a record can have, each with its sign and its class. -/
def layouts : String :=
  "\x7b'%': (<class 'logging.PercentStyle'>, '%(levelname)s:%(name)s:%(message)s'), " ++
    "'\x7b': (<class 'logging.StrFormatStyle'>, '\x7blevelname\x7d:\x7bname\x7d:\x7bmessage\x7d'), " ++
    "'$': (<class 'logging.StringTemplateStyle'>, " ++
    "'$\x7blevelname\x7d:$\x7bname\x7d:$\x7bmessage\x7d')\x7d"

/-- Two names look like that of a level; one is that of a layout, the other that of all of them. -/
def notALevel? : String → Option Failure
  | "BASIC_FORMAT" =>
    some (.fault .value (some "Unknown level: '%(levelname)s:%(name)s:%(message)s'"))
  | "_STYLES" => some (.fault .type (some ("Level not an integer or a valid string: " ++ layouts)))
  | _ => none

/-- The level of a name in any case; unknown names mean INFO. -/
def levelNumber (name : String) : Except Failure Int :=
  let name := Text.upper name
  match notALevel? name with
  | some failure => .error failure
  | none => .ok ((Level.ofName? name).getD .info).number

/-- Sets logging up. The handler is replaced before the level is known. -/
def setup (r : Root) (level format : String) : Root × Except Failure Unit :=
  let replaced := r.install (Format.ofName format)
  match levelNumber level with
  | .ok number => ({ replaced with level := number }, .ok ())
  | .error failure => (replaced, .error failure)

/-- Records without a level are never written. -/
def passes (r : Root) (record : Record) : Bool :=
  0 < record.level.number && r.level ≤ record.level.number

/-- The texts that the handlers of the service write for a record. -/
def emit (r : Root) (time : String) (traces : Traces) (record : Record) :
    Except Failure (List String) :=
  if r.passes record then
    (r.handlers.filterMap (·.format)).mapM fun format => record.line time traces format
  else .ok []

end Root

end QuoteService.Log
