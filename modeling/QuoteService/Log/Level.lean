import QuoteService.Text.Case

/-! Log levels: names, and the numbers that decide what is written. Others may add levels of their own;
what stands here are those that come with the language. -/
namespace QuoteService.Log

structure Level where
  number : Int
  name : String
  deriving DecidableEq, Repr

namespace Level

def notset : Level := ⟨0, "NOTSET"⟩

def debug : Level := ⟨10, "DEBUG"⟩

def info : Level := ⟨20, "INFO"⟩

def warning : Level := ⟨30, "WARNING"⟩

def error : Level := ⟨40, "ERROR"⟩

def critical : Level := ⟨50, "CRITICAL"⟩

def all : List Level := [notset, debug, info, warning, error, critical]

/-- The level of a name in capitals. Two levels have a second name. -/
def ofName? (name : String) : Option Level :=
  if name = "WARN" then some warning
  else if name = "FATAL" then some critical
  else all.find? fun l => l.name == name

theorem ofName?_name : ∀ l ∈ all, ofName? l.name = some l := by decide

end Level
end QuoteService.Log
