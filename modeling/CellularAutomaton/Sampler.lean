import CellularAutomaton.Error

/-!
# Drawing initial states

A table of cumulative probabilities turns a draw from the unit interval into a state. The table is
divided by the sum of the probabilities, and its last entry is one in any case. So every draw below
one finds a state, also when the probabilities do not sum to one exactly.
-/
namespace CellularAutomaton

structure Sampler where
  cumulative : List Float
  deriving DecidableEq

namespace Sampler

/-- The entries for `ps`, if the probabilities before them sum to `sum` and all of them to
`total`. -/
def tableFrom (total sum : Float) : List Float → List Float
  | [] => []
  | [_] => [1.0]
  | p :: ps => (sum + p) / total :: tableFrom total (sum + p) ps

def ofProbabilities (ps : List Float) : Except Error Sampler :=
  let total := totalProbability ps
  if total.isFinite ∧ 0 < total then .ok ⟨tableFrom total 0 ps⟩ else .error .degenerateDistribution

/-- The state at the first entry that is not less than the draw. -/
def sample (sampler : Sampler) (states : List State) (draw : Float) : Except Error State :=
  match (sampler.cumulative.findIdx? (draw ≤ ·)).bind (states[·]?) with
  | some s => .ok s
  | none => .error (.sampleOutOfRange draw)

end Sampler

end CellularAutomaton
