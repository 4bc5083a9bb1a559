import CellularAutomaton.Error

/-!
# Reports of failures

A failure is reported with what was being done, and below that with its causes, from the outermost
to the innermost.
-/
namespace CellularAutomaton

/-- The innermost cause of an error in a rule file. -/
def RuleFileError.causes : RuleFileError → List String
  | invalidExpression _ cause => [cause.message]
  | _ => []

def Error.chain (e : Error) : List String :=
  e.message :: match e with
    | .rules cause => cause.message :: cause.causes
    | .evaluation cause => [cause.message]
    | _ => []

namespace CommandLine

structure Failure where
  message : String
  causes : List String

def Failure.ofError (e : Error) : Failure := ⟨e.message, e.chain.tail⟩

def Failure.during (message : String) (e : Error) : Failure := ⟨message, e.chain⟩

/-- The lines of the causes; they are numbered if there are several. -/
def causeLines : List String → List String
  | [c] => ["    " ++ c]
  | cs => cs.zipIdx.map fun p => "    " ++ String.ofList (Numeral.natural p.2) ++ ": " ++ p.1

def Failure.report (f : Failure) : String :=
  "\n".intercalate <| ("Error: " ++ f.message) ::
    if f.causes.isEmpty then [] else "" :: "Caused by:" :: causeLines f.causes

end CommandLine

end CellularAutomaton
