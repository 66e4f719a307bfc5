import QuoteService.Failure
import QuoteService.Json.Basic
import QuoteService.Text.Blank

/-! Files of settings: one `KEY=VALUE` a line, with comments, quoted values, and references to other
values. A line of another form is skipped. -/
namespace QuoteService.Dotenv
open Text

/-- An entry; a key without an equals sign has no value. -/
abbrev Entry := String × Option String

/-- Line ends are read as line feeds. -/
def normalized : List Char → List Char
  | '\r' :: '\n' :: rest => '\n' :: normalized rest
  | '\r' :: rest => '\n' :: normalized rest
  | c :: rest => c :: normalized rest
  | [] => []

/-- Spacing within a line. -/
def isBlank (c : Char) : Bool := isSpacing c && c != '\n'

def skipBlank (cs : List Char) : List Char := cs.dropWhile isBlank

/-- What follows the line feed that ends the current line. -/
def restOfLine (cs : List Char) : List Char := (cs.dropWhile (· != '\n')).drop 1

/-- Drops `export` and the spacing after it. -/
def skipExport (cs : List Char) : List Char :=
  match "export".toList.isPrefixOf? cs with
  | some (c :: rest) => if isBlank c then skipBlank rest else cs
  | _ => cs

def isKeyChar (c : Char) : Bool := !(c == '=' || c == '#' || isSpacing c)

/-- A key, which may be quoted. A line that starts with a number sign has none. -/
def readKey (cs : List Char) : Option (Option (List Char) × List Char) :=
  match cs with
  | '#' :: _ => some (none, cs)
  | '\x27' :: rest =>
    let key := rest.takeWhile (· != '\x27')
    match rest.dropWhile (· != '\x27') with
    | _ :: after => if key.isEmpty then none else some (some key, after)
    | [] => none
  | _ =>
    let key := cs.takeWhile isKeyChar
    if key.isEmpty then none else some (some key, cs.dropWhile isKeyChar)

/-- The text up to the closing quote. What follows a backslash closes nothing. -/
def readQuoted (delim : Char) : List Char → Option (List Char × List Char)
  | [] => none
  | '\\' :: c :: rest =>
    (readQuoted delim rest).map fun (value, after) => ('\\' :: c :: value, after)
  | c :: rest =>
    if c = delim then some ([], rest)
    else (readQuoted delim rest).map fun (value, after) => (c :: value, after)

/-- What a backslash and a character stand for between quotes of a kind. -/
def escaped? (delim c : Char) : Option Char :=
  if c = '\\' then some '\\'
  else if c = '\x27' then some '\x27'
  else if delim = '\x27' then none
  else match c with
    | '\x22' => some '\x22'
    | 'a' => some '\x07'
    | 'b' => some '\x08'
    | 'f' => some '\x0c'
    | 'n' => some '\n'
    | 'r' => some '\r'
    | 't' => some '\t'
    | 'v' => some '\x0b'
    | _ => none

def unescape (delim : Char) : List Char → List Char
  | '\\' :: c :: rest =>
    match escaped? delim c with
    | some d => d :: unescape delim rest
    | none => '\\' :: unescape delim (c :: rest)
  | c :: rest => c :: unescape delim rest
  | [] => []

/-- A text without the comment that follows spacing, the spacing included. -/
def beforeComment : List Char → List Char
  | [] => []
  | c :: rest =>
    if isSpacing c && (rest.dropWhile isSpacing).head? == some '#' then []
    else c :: beforeComment rest

/-- A value after an equals sign, and what follows it. Spacing around it is dropped. -/
def readValue (cs : List Char) : Option (List Char × List Char) :=
  match skipBlank cs with
  | '\x27' :: rest => (readQuoted '\x27' rest).map fun (v, after) => (unescape '\x27' v, after)
  | '\x22' :: rest => (readQuoted '\x22' rest).map fun (v, after) => (unescape '\x22' v, after)
  | _ =>
    some (trim isSpacing (beforeComment (cs.takeWhile (· != '\n'))), cs.dropWhile (· != '\n'))

/-- The rest after the end of a line, before which only a comment may stand. -/
def endOfLine? (cs : List Char) : Option (List Char) :=
  match skipBlank cs with
  | '#' :: rest => some (restOfLine rest)
  | '\n' :: rest => some rest
  | [] => some []
  | _ => none

/-- What follows a key: a value after an equals sign, or none, and the end of the line. -/
def readAfterKey (cs : List Char) : Option (Option (List Char) × List Char) :=
  match skipBlank cs with
  | '=' :: rest =>
    (readValue rest).bind fun (value, rest) =>
      (endOfLine? rest).map fun rest => (some value, rest)
  | rest => (endOfLine? rest).map fun rest => (none, rest)

/-- Where reading goes on if a line has another form: after the line in which it broke off. -/
def skipFrom (cs : List Char) : List Char :=
  match readKey cs with
  | none => restOfLine cs
  | some (_, rest) =>
    match skipBlank rest with
    | '=' :: rest =>
      match readValue rest with
      | none => restOfLine rest
      | some (_, rest) => restOfLine rest
    | rest => restOfLine rest

/-- The entries of a text. Each one takes at least one character. -/
def readEntries : (fuel : Nat) → List Char → List Entry
  | 0, _ => []
  | fuel + 1, cs =>
    match cs.dropWhile isSpacing with
    | [] => []
    | cs =>
      let cs := skipExport cs
      match readKey cs with
      | none => readEntries fuel (skipFrom cs)
      | some (key, rest) =>
        match readAfterKey rest with
        | none => readEntries fuel (skipFrom cs)
        | some (value, rest) =>
          match key with
          | none => readEntries fuel rest
          | some key =>
            (String.ofList key, value.map String.ofList) :: readEntries fuel rest

/-- The value of the first reference `${name}` or `${name:-default}` at the start of a text, and the
rest. -/
def readReference (lookup : String → Option String) (cs : List Char) :
    Option (List Char × List Char) :=
  let name := cs.takeWhile fun c => c != '\x7d' && c != ':'
  let value (default : List Char) := ((lookup (String.ofList name)).map String.toList).getD default
  match cs.dropWhile fun c => c != '\x7d' && c != ':' with
  | '\x7d' :: rest => some (value [], rest)
  | ':' :: '-' :: rest =>
    match rest.dropWhile (· != '\x7d') with
    | _ :: after => some (value (rest.takeWhile (· != '\x7d')), after)
    | [] => none
  | _ => none

/-- Puts values in place of references. -/
def substitute (lookup : String → Option String) : (fuel : Nat) → List Char → List Char
  | 0, cs => cs
  | _, [] => []
  | fuel + 1, c :: rest =>
    match c, rest with
    | '$', '\x7b' :: inner =>
      match readReference lookup inner with
      | some (value, after) => value ++ substitute lookup fuel after
      | none => c :: substitute lookup fuel rest
    | _, _ => c :: substitute lookup fuel rest

/-- Resolves references in the order of the entries: to earlier entries, then to the environment. The
last value of a key stands where the key first came. -/
def resolve (environment : List (String × String)) (entries : List Entry) : List Entry :=
  entries.foldl (fun known entry =>
    let lookup (name : String) : Option String :=
      match known.lookup name with
      | some value => some (value.getD "")
      | none => environment.lookup name
    let value := entry.2.map fun v =>
      String.ofList (substitute lookup (v.length + 1) v.toList)
    Json.putMember entry.1 value known) []

/-- A text without the mark that some editors put in front. -/
def withoutMark : List Char → List Char
  | '\ufeff' :: rest => rest
  | cs => cs

def read (environment : List (String × String)) (text : String) : List Entry :=
  let cs := normalized (withoutMark text.toList)
  resolve environment (readEntries (cs.length + 1) cs)

end QuoteService.Dotenv
