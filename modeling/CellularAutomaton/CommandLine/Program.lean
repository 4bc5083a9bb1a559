import CellularAutomaton.CommandLine.Drawing
import CellularAutomaton.CommandLine.Failure
import CellularAutomaton.CommandLine.Files
import CellularAutomaton.CommandLine.Options
import CellularAutomaton.Config.Reader
import CellularAutomaton.Document.Json
import CellularAutomaton.Document.Toml
import CellularAutomaton.Document.Yaml
import CellularAutomaton.Report.Document
import CellularAutomaton.Report.Text

/-!
# The program

All the program does is a function of its arguments, of the files it may read, and of the numbers
that seed runs without a configured seed.
-/
namespace CellularAutomaton.CommandLine

/-- What the program writes, and how it ends. -/
structure Outcome where
  /-- Zero, one for a failure, two for wrong arguments, 101 if the program is aborted. A program
  that never ends has none. -/
  exitCode : Option Nat
  output : String
  errors : String
  deriving DecidableEq

def readFile (files : Files) (what path : String) : Except Failure String :=
  match files path with
  | .ok text => .ok text
  | .error e => .error ⟨"cannot read " ++ what ++ " " ++ path, [e.message]⟩

/-- What follows the last point in the name of a file, unless the name starts with that point. -/
def extension (path : String) : String :=
  let name := (path.toList.splitOn '/').getLast?.getD []
  match (name.splitOn '.').reverse with
  | _ :: [[]] | [_] | [] => ""
  | last :: _ => String.ofList last

/-- A configuration, or the causes why there is none. What is wrong with the document is not told:
an empty text stands for it. -/
def ofDocument (format : String) : Option Config → Except (List String) Config
  | some c => .ok c
  | none => .error ["invalid " ++ format ++ " config", ""]

/-- Reads a configuration in the format that the extension of its file names. -/
def readConfig (extension text : String) : Except (List String) Config :=
  let format := String.ofList (extension.toList.map Char.toLower)
  if format = "toml" then
    ofDocument "TOML" <| (Document.Toml.parse? text).bind (Config.read? Document.Toml.reading)
  else if format = "yaml" ∨ format = "yml" then
    ofDocument "YAML" <|
      (Document.Yaml.Graph.ofText? text).bind fun g => Config.read? g.reading g.root
  else if format = "json" then
    ofDocument "JSON" <| (Document.Json.parse? text).bind (Config.read? Document.Json.reading)
  else
    .error
      ["unknown config format " ++ Text.quoted extension ++ ", expected toml, yaml or json"]

def loadConfig (files : Files) (path : String) : Except Failure Config := do
  let text ← readFile files "config file" path
  (readConfig (extension path) text).mapError (⟨"in " ++ path, ·⟩)

/-- What is given on the command line goes before the configuration file. -/
def Given.override (g : Given) (c : Config) : Config where
  width := g.width.getD c.width
  height := g.height.getD c.height
  runs := g.runs.getD c.runs
  maxIterations := g.maxIterations.or c.maxIterations
  seed := g.seed.or c.seed
  edge := match g.edge, g.edgeState with
    | some edge, some state => some ⟨edge, state⟩
    | _, _ => c.edge
  tolerance := g.tolerance.getD c.tolerance
  strict := g.strict || c.strict

def Given.configure (g : Given) (files : Files) : Except Failure Config :=
  match g.config with
  | some path => (loadConfig files path).map g.override
  | none => .ok (g.override .standard)

def loadRules (files : Files) (c : Config) (path : String) : Except Failure RuleSet := do
  let text ← readFile files "rule file" path
  match c.parseRules text with
  | .ok rules => return rules
  | .error e => throw (.during ("invalid rule file " ++ path) e)

def Given.simulate (g : Given) (entropy : Nat → UInt64) (c : Config) (rules : RuleSet) :
    List String × Except Obstacle (List RunResult) :=
  if g.draw then c.drawnRunsFrom entropy rules 0 c.runs else ([], c.runAll entropy rules)

def Given.report (g : Given) (results : List RunResult) : Except Obstacle String :=
  if g.json then .ok (Report.json results) else Report.ofResults results

def Outcome.failed (output : String) (f : Failure) : Outcome := ⟨some 1, output, f.report⟩

/-- How the program ends without a report. -/
def Given.stopped (g : Given) (output : String) : Obstacle → Outcome
  | .failure e => .failed output (if g.draw then .ofError e else .during "simulation failed" e)
  | .overflow => ⟨some 101, output, ""⟩
  | .endless => ⟨none, output, ""⟩

def Given.run (g : Given) (files : Files) (entropy : Nat → UInt64) : Outcome :=
  let loaded := do
    let c ← g.configure files
    return (c, ← loadRules files c (g.rules.getD ""))
  match loaded with
  | .error f => .failed "" f
  | .ok (c, rules) =>
    let (blocks, outcome) := g.simulate entropy c rules
    let drawn := String.join blocks
    match outcome.bind g.report with
    | .error o => g.stopped drawn o
    | .ok report => ⟨some 0, drawn ++ report ++ "\n", ""⟩

def version : String := "rulecell 0.1.0\n"

/-- The text of the help and of a usage error is not told. -/
def run (files : Files) (entropy : Nat → UInt64) (args : List String) : Outcome :=
  match read args with
  | .ok g => g.run files entropy
  | .error .help => ⟨some 0, "", ""⟩
  | .error .version => ⟨some 0, version, ""⟩
  | .error .usage => ⟨some 2, "", ""⟩

end CellularAutomaton.CommandLine
