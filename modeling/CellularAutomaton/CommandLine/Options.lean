import CellularAutomaton.Coord
import CellularAutomaton.Numeral.ReadFloat
import CellularAutomaton.State

/-!
# Options of the command line

Arguments are read from left to right, and reading stops at the first that is wrong or that asks for
help or the version. An option has a long name, and most have a letter too. The value of an option
stands in the next argument, or in the same one: behind the letter, or behind an equals sign.
Letters of options without values may be written together. All other arguments are the rule file and
the two sides of the world, in this order.
-/
namespace CellularAutomaton.CommandLine

/-- Options that need a value. -/
inductive Setting
  | runs
  | maxIterations
  | seed
  | edge
  | edgeState
  | tolerance
  | config
  deriving DecidableEq

inductive Switch
  | strict
  | draw
  | json
  | verbose
  | help
  | version
  deriving DecidableEq

namespace Setting

def all : List Setting := [runs, maxIterations, seed, edge, edgeState, tolerance, config]

def name : Setting → String
  | runs => "runs"
  | maxIterations => "max-iterations"
  | seed => "seed"
  | edge => "edge"
  | edgeState => "edge-state"
  | tolerance => "tolerance"
  | config => "config"

def letter? : Setting → Option Char
  | runs => some 'n'
  | maxIterations => some 'm'
  | seed => some 's'
  | edge => some 'e'
  | config => some 'c'
  | edgeState | tolerance => none

end Setting

namespace Switch

def all : List Switch := [strict, draw, json, verbose, help, version]

def name : Switch → String
  | strict => "strict"
  | draw => "draw"
  | json => "json"
  | verbose => "verbose"
  | help => "help"
  | version => "version"

def letter? : Switch → Option Char
  | draw => some 'd'
  | verbose => some 'v'
  | help => some 'h'
  | version => some 'V'
  | strict | json => none

end Switch

structure Given where
  rules : Option String := none
  width : Option Nat := none
  height : Option Nat := none
  runs : Option Nat := none
  maxIterations : Option Nat := none
  seed : Option UInt64 := none
  edge : Option Edge := none
  edgeState : Option State := none
  tolerance : Option Float := none
  config : Option String := none
  strict : Bool := false
  draw : Bool := false
  json : Bool := false
  verbosity : Nat := 0

/-- Why reading stops before the end. -/
inductive Stop
  | usage
  | help
  | version
  deriving DecidableEq

/-- A value, which must neither be malformed nor be given a second time. -/
def once (old new : Option α) : Except Stop (Option α) :=
  match old, new with
  | none, some a => .ok (some a)
  | _, _ => .error .usage

def readPositive? (cs : List Char) : Option Nat :=
  (Numeral.readSize? cs).bind fun n => if n = 0 then none else some n

def readPath? (s : String) : Option String := if s.isEmpty then none else some s

namespace Given

def setting (g : Given) (o : Setting) (value : String) : Except Stop Given := do
  let cs := value.toList
  match o with
  | .runs => return { g with runs := ← once g.runs (readPositive? cs) }
  | .maxIterations =>
    return { g with maxIterations := ← once g.maxIterations (Numeral.readSize? cs) }
  | .seed => return { g with seed := ← once g.seed (Numeral.readUInt64? cs) }
  | .edge => return { g with edge := ← once g.edge (Edge.ofText? value) }
  | .edgeState => return { g with edgeState := ← once g.edgeState (Numeral.readInt32? cs) }
  | .tolerance => return { g with tolerance := ← once g.tolerance (Numeral.readFloat? cs) }
  | .config => return { g with config := ← once g.config (readPath? value) }

/-- Only the switch that asks for more log records may be repeated. -/
def switch (g : Given) : Switch → Except Stop Given
  | .strict => if g.strict then .error .usage else .ok { g with strict := true }
  | .draw => if g.draw then .error .usage else .ok { g with draw := true }
  | .json => if g.json then .error .usage else .ok { g with json := true }
  | .verbose => .ok { g with verbosity := g.verbosity + 1 }
  | .help => .error .help
  | .version => .error .version

def operand (g : Given) (s : String) : Except Stop Given := do
  if g.rules.isNone then return { g with rules := ← once none (readPath? s) }
  else if g.width.isNone then return { g with width := ← once none (readPositive? s.toList) }
  else return { g with height := ← once g.height (readPositive? s.toList) }

end Given

inductive Expecting
  /-- An option or an operand. -/
  | any
  /-- The value of an option. -/
  | value (o : Setting)
  /-- An operand, because all options have been closed by a double dash. -/
  | operand
  deriving DecidableEq

/-- An option by its long name, with a value behind an equals sign if there is one. -/
def readLong (g : Given) (name : String) (value : Option String) :
    Except Stop (Given × Expecting) :=
  match Setting.all.find? (·.name = name), Switch.all.find? (·.name = name), value with
  | some o, _, some v => (g.setting o v).map (·, .any)
  | some o, _, none => .ok (g, .value o)
  | none, some o, none => (g.switch o).map (·, .any)
  | _, _, _ => .error .usage

/-- Options by their letters. What follows the letter of an option with a value is its value. -/
def readLetters (g : Given) : List Char → Except Stop (Given × Expecting)
  | [] => .ok (g, .any)
  | c :: cs =>
    match Setting.all.find? (·.letter? = some c), Switch.all.find? (·.letter? = some c) with
    | some o, _ =>
      match cs with
      | [] => .ok (g, .value o)
      | '=' :: value => (g.setting o (String.ofList value)).map (·, .any)
      | value => (g.setting o (String.ofList value)).map (·, .any)
    | none, some o => do readLetters (← g.switch o) cs
    | none, none => .error .usage

/-- Reads one argument. A negative number is only taken for a value where a state is expected; any
other argument that starts with a dash is an option. -/
def readArgument (g : Given) (expecting : Expecting) (arg : String) :
    Except Stop (Given × Expecting) :=
  match expecting, arg.toList with
  | .operand, _ => (g.operand arg).map (·, .operand)
  | .any, ['-', '-'] => .ok (g, .operand)
  | .any, '-' :: '-' :: cs =>
    let name := cs.takeWhile (· ≠ '=')
    let value := match cs.drop name.length with
      | _ :: value => some (String.ofList value)
      | [] => none
    readLong g (String.ofList name) value
  | .any, '-' :: c :: cs => readLetters g (c :: cs)
  | .any, _ => (g.operand arg).map (·, .any)
  | .value o, '-' :: c :: _ =>
    if o = .edgeState ∧ c.isDigit then (g.setting o arg).map (·, .any) else .error .usage
  | .value o, _ => (g.setting o arg).map (·, .any)

def readArguments (g : Given) : Expecting → List String → Except Stop Given
  | .value _, [] => .error .usage
  | _, [] => .ok g
  | expecting, arg :: args => do
    let (g, expecting) ← readArgument g expecting arg
    readArguments g expecting args

/-- Whether all that is needed is given, and nothing that does not go together. The size of the
world may be left to a configuration file, an edge needs a state, and drawing excludes JSON. -/
def Given.isComplete (g : Given) : Bool :=
  g.rules.isSome && (g.config.isSome || (g.width.isSome && g.height.isSome)) &&
    g.edge.isSome = g.edgeState.isSome && !(g.draw && g.json)

def read (args : List String) : Except Stop Given := do
  let g ← readArguments {} .any args
  if g.isComplete then return g else throw .usage

end CellularAutomaton.CommandLine
