import CellularAutomaton.Document.Json.Text

/-!
# Strings and spaces of TOML documents
-/
namespace CellularAutomaton.Document.Toml

def dropByteOrderMark : List Char → List Char
  | '\ufeff' :: cs => cs
  | cs => cs

def isSpace (c : Char) : Bool := c = ' ' || c = '\t'

def skipSpace (cs : List Char) : List Char := cs.dropWhile isSpace

def newline? : List Char → Option (List Char)
  | '\n' :: cs => some cs
  | '\r' :: '\n' :: cs => some cs
  | _ => none

/-- A character that may stand in a comment or a string by itself. Of the control characters only
the tab may. -/
def isPlain (c : Char) : Bool := c = '\t' || (0x20 ≤ c.toNat && c ≠ '\x7f')

def skipComment : List Char → List Char
  | '#' :: cs => cs.dropWhile isPlain
  | cs => cs

/-- What follows after space, a comment and the end of the line. -/
def endOfLine? (cs : List Char) : Option (List Char) :=
  match skipComment (skipSpace cs) with
  | [] => some []
  | rest => newline? rest

def skipLines : Nat → List Char → List Char
  | 0, cs => cs
  | fuel + 1, cs =>
    let rest := skipComment (skipSpace cs)
    match newline? rest with
    | some next => skipLines fuel next
    | none => rest

def skipNewlines : Nat → List Char → List Char
  | 0, cs => cs
  | fuel + 1, cs =>
    let rest := skipSpace cs
    match newline? rest with
    | some next => skipNewlines fuel next
    | none => rest

def codePoint? (n : Nat) : Option Char := if n.isValidChar then some (Char.ofNat n) else none

/-- The character of an escape, without its backslash. -/
def escape? : List Char → Option (Char × List Char)
  | 'b' :: cs => some ('\x08', cs)
  | 't' :: cs => some ('\t', cs)
  | 'n' :: cs => some ('\n', cs)
  | 'f' :: cs => some ('\x0c', cs)
  | 'r' :: cs => some ('\r', cs)
  | '"' :: cs => some ('"', cs)
  | '\\' :: cs => some ('\\', cs)
  | 'u' :: a :: b :: c :: d :: cs => do
    return (← codePoint? (← Json.unit? a b c d), cs)
  | 'U' :: a :: b :: c :: d :: e :: f :: g :: h :: cs => do
    return (← codePoint? ((← Json.unit? a b c d) * 65536 + (← Json.unit? e f g h)), cs)
  | _ => none

/-- The rest of a string on one line, up to its double quote. -/
def basic? : Nat → List Char → Option (List Char × List Char)
  | 0, _ => none
  | fuel + 1, cs =>
    match cs with
    | '"' :: rest => some ([], rest)
    | '\\' :: rest => do
      let (c, rest) ← escape? rest
      let (s, rest) ← basic? fuel rest
      return (c :: s, rest)
    | c :: rest =>
      if isPlain c then (basic? fuel rest).map fun p => (c :: p.1, p.2) else none
    | [] => none

def literal? (cs : List Char) : Option (List Char × List Char) :=
  let s := cs.takeWhile fun c => isPlain c && c ≠ '\''
  match cs.drop s.length with
  | '\'' :: rest => some (s, rest)
  | _ => none

/-- The rest of a string over several lines; three quotes end it, and up to two more before them
belong to it. -/
def multiline? (quote : Char) (escapes : Bool) : Nat → List Char → Option (List Char × List Char)
  | 0, _ => none
  | fuel + 1, cs =>
    let quotes := cs.takeWhile (· = quote)
    if 3 ≤ quotes.length then
      let inside := min 2 (quotes.length - 3)
      some (List.replicate inside quote, cs.drop (inside + 3))
    else match cs with
    | '\\' :: rest =>
      if !escapes then (multiline? quote escapes fuel rest).map fun p => ('\\' :: p.1, p.2)
      else match newline? (skipSpace rest) with
      | some rest => multiline? quote escapes fuel (skipNewlines rest.length rest)
      | none => do
        let (c, rest) ← escape? rest
        let (s, rest) ← multiline? quote escapes fuel rest
        return (c :: s, rest)
    | c :: rest =>
      match newline? cs with
      | some rest => (multiline? quote escapes fuel rest).map fun p => ('\n' :: p.1, p.2)
      | none =>
        if isPlain c then (multiline? quote escapes fuel rest).map fun p => (c :: p.1, p.2)
        else none
    | [] => none

/-- A line end right after the opening quotes is dropped. -/
def dropFirstNewline (cs : List Char) : List Char := (newline? cs).getD cs

def string? (cs : List Char) : Option (List Char × List Char) :=
  let fuel := cs.length + 1
  match cs with
  | '"' :: '"' :: '"' :: rest => multiline? '"' true fuel (dropFirstNewline rest)
  | '\'' :: '\'' :: '\'' :: rest => multiline? '\'' false fuel (dropFirstNewline rest)
  | '"' :: rest => basic? fuel rest
  | '\'' :: rest => literal? rest
  | _ => none

def isKeyChar (c : Char) : Bool := c.isAlphanum || c = '_' || c = '-'

/-- One part of a key: a bare word or a string on one line. -/
def keyPart? (cs : List Char) : Option (String × List Char) :=
  match cs with
  | '"' :: rest => (basic? (cs.length + 1) rest).map fun p => (String.ofList p.1, p.2)
  | '\'' :: rest => (literal? rest).map fun p => (String.ofList p.1, p.2)
  | _ =>
    let word := cs.takeWhile isKeyChar
    if word.isEmpty then none else some (String.ofList word, cs.drop word.length)

/-- A key of parts with points between them, and what follows it after space. -/
def key? : Nat → List Char → Option (List String × List Char)
  | 0, _ => none
  | fuel + 1, cs => do
    let (part, rest) ← keyPart? (skipSpace cs)
    match skipSpace rest with
    | '.' :: rest =>
      let (parts, rest) ← key? fuel rest
      return (part :: parts, rest)
    | rest => return ([part], rest)

end CellularAutomaton.Document.Toml
