/-!
# Files

What reading a file gives is its text or an error. A directory of files stands for a file system in
which nothing else can be read.
-/
namespace CellularAutomaton.CommandLine

inductive FileError
  | missing
  | notDirectory
  | isDirectory
  | nameTooLong
  | denied
  | notText
  deriving DecidableEq

def FileError.message : FileError → String
  | missing => "No such file or directory (os error 2)"
  | notDirectory => "Not a directory (os error 20)"
  | isDirectory => "Is a directory (os error 21)"
  | nameTooLong => "File name too long (os error 36)"
  | denied => "Permission denied (os error 13)"
  | notText => "stream did not contain valid UTF-8"

/-- The contents of the files, by their paths. -/
abbrev Files := String → Except FileError String

def nameLimit : Nat := 255

def pathLimit : Nat := 4095

/-- Follows the parts of a path, from the directory that has the entries or from another one, in
which there is nothing to read. Behind the name of a file no part may follow, not even an empty
one. -/
def follow (entries : List (String × String)) (here : Bool) :
    List (List Char) → Except FileError String
  | [] => .error .isDirectory
  | [] :: parts | ['.'] :: parts => follow entries here parts
  | ['.', '.'] :: parts => follow entries false parts
  | part :: parts =>
    let name := String.ofList part
    if nameLimit < name.utf8ByteSize then .error .nameTooLong
    else match if here then entries.lookup name else none with
      | some text => if parts.isEmpty then .ok text else .error .notDirectory
      | none => .error .missing

/-- The files of the current directory, which has no directories in it. -/
def Files.ofDirectory (entries : List (String × String)) : Files := fun path =>
  if path.isEmpty then .error .missing
  else if pathLimit < path.utf8ByteSize then .error .nameTooLong
  else follow entries (!path.startsWith "/") (path.toList.splitOn '/')

end CellularAutomaton.CommandLine
