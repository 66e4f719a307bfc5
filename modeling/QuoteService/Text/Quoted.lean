import QuoteService.Text.Hex
import QuoteService.Text.Printable

/-! Quoted text, as diagnostics show it: one line of printable characters between two quotes. -/
namespace QuoteService.Text

/-- The quote around a text: the double one only if the text has single quotes and no double ones. -/
def delimiter (cs : List Char) : Char :=
  if cs.contains '\x27' && !cs.contains '\x22' then '\x22' else '\x27'

/-- A code point by number, in the shortest of the three widths. -/
def escapeCode (n : Nat) : List Char :=
  if n < 0x100 then '\\' :: 'x' :: hexPadded 2 n
  else if n < 0x10000 then '\\' :: 'u' :: hexPadded 4 n
  else '\\' :: 'U' :: hexPadded 8 n

def escapeChar (delim c : Char) : List Char :=
  if c = '\\' then ['\\', '\\']
  else if c = delim then ['\\', delim]
  else if c = '\n' then ['\\', 'n']
  else if c = '\r' then ['\\', 'r']
  else if c = '\t' then ['\\', 't']
  else if isPrintable c then [c]
  else escapeCode c.toNat

def quote (s : String) : String :=
  let delim := delimiter s.toList
  String.ofList (delim :: s.toList.flatMap (escapeChar delim) ++ [delim])

end QuoteService.Text
