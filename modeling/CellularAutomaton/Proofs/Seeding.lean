import CellularAutomaton.Proofs.Convergence

/-!
# Seeding an edge

An edge is seeded at most once after each drawing of the cells, and only before the first step: the
flag of a world tells how often it has been done since, and a world that has made a step accepts no
edits any more. The cells of the edge get the state, and nothing else changes but the flag.
-/

namespace CellularAutomaton

variable {w h : ℕ}

/-! ## The cells of an edge -/

theorem Edge.mem_places_iff (edge : Edge) (x : Fin w) (y : Fin h) :
    (⟨x, y⟩ : Coord) ∈ edge.places w h ↔ edge.holds w h x y = true := by
  have column := x.isLt
  have row := y.isLt
  cases edge with
  | north => simp [places, holds, eq_comm]
  | east =>
    simp [places, holds]
    omega
  | south =>
    simp [places, holds]
    omega
  | west => simp [places, holds, eq_comm]

namespace World

variable {world : World w h} {edge : Edge} {s : State}

theorem exists_locate_eq_ok {c : Coord} (inside : c.x < w ∧ c.y < h) :
    ∃ p, locate w h c = .ok p := by
  rw [locate, Grid.locate?, dif_pos inside]
  exact ⟨_, rfl⟩

theorem checkSetup_eq_ok_iff {c : Coord} : world.checkSetup c s = .ok () ↔
    world.status = .randomized ∧ (world.strict = true → s ∈ world.rules.states) := by
  refine ⟨checkSetup_eq_ok, fun ⟨status, possible⟩ => ?_⟩
  have allowed : ¬(world.strict && !world.rules.isPossible s) = true := by
    simpa [RuleSet.isPossible] using possible
  rw [checkSetup, if_neg (not_not.2 status), if_neg allowed]

theorem seedEdge_of_seeded (seeded : world.seeded = true) :
    ∃ e, world.seedEdge edge s = (.error e, world) := by
  rw [seedEdge]
  split
  · exact ⟨_, rfl⟩
  · rw [if_pos seeded]
    exact ⟨_, rfl⟩

theorem Sound.seedEdge_eq_ok_iff (sound : world.Sound) : (world.seedEdge edge s).1 = .ok () ↔
    world.status = .randomized ∧ world.seeded = false ∧
    (world.strict = true → s ∈ world.rules.states) := by
  constructor
  · intro done
    obtain ⟨e, failed⟩ | ⟨status, possible, -⟩ := world.seedEdge_writes sound.wide sound.high edge s
    · rw [failed] at done
      cases done
    · refine ⟨status, Bool.eq_false_of_not_eq_true fun seeded => ?_, possible⟩
      obtain ⟨e, failed⟩ : ∃ e, world.seedEdge edge s = (.error e, world) :=
        seedEdge_of_seeded seeded
      rw [failed] at done
      cases done
  · rintro ⟨status, fresh, possible⟩
    have written := world.setCells_eq_ok (fun c => mem_edge_places sound.wide sound.high edge) s
    rw [seedEdge, checkSetup_eq_ok_iff.2 ⟨status, possible⟩, fresh]
    generalize world.setCells s (edge.places w h) = result at written ⊢
    obtain ⟨answer, last⟩ := result
    obtain rfl : answer = .ok () := written
    rfl

theorem Sound.seedEdge_holds (sound : world.Sound) (done : (world.seedEdge edge s).1 = .ok ()) :
    ∃ cells : Grid State w h,
      (∀ x y, cells.get x y = if edge.holds w h x y then s else world.cells.get x y) ∧
      (world.seedEdge edge s).2 = { world with cells, seeded := true } := by
  obtain ⟨e, failed⟩ | ⟨-, -, cells, writes, seeded⟩ :=
    world.seedEdge_writes sound.wide sound.high edge s
  · rw [failed] at done
    cases done
  · refine ⟨cells, fun x y => ?_, congrArg Prod.snd seeded⟩
    simp only [writes, Edge.mem_places_iff]

theorem seeded_step (world : World w h) : world.step.2.seeded = world.seeded := by
  obtain ⟨-, same⟩ | ⟨-, same⟩ | ⟨-, next, -, moved⟩ | ⟨-, -, e, scratch, failed⟩ :=
    world.step_cases
  · rw [same]
  · rw [same]
  · rw [moved]
    rfl
  · rw [failed]
    rfl

end World

/-! ## How often an edge is seeded -/

namespace Operation

variable {world : World w h} {op : Operation} {ops : List Operation}

/-- The operations that succeed, of several that are performed one after another. -/
def succeeded (world : World w h) : List Operation → List Operation
  | [] => []
  | op :: ops =>
    (if (op.perform world).1.isOk then [op] else []) ++ succeeded (op.perform world).2 ops

def isSeeding : Operation → Bool
  | seedEdge _ _ => true
  | _ => false

theorem isSeeding_iff : op.isSeeding = true ↔ ∃ edge s, op = .seedEdge edge s := by
  cases op <;> simp [isSeeding]

theorem seeded_perform (sound : world.Sound) (noDrawing : ∀ words, op ≠ .randomize words) :
    (op.perform world).2.seeded.toNat =
      world.seeded.toNat + if (op.perform world).1.isOk && op.isSeeding then 1 else 0 := by
  cases op with
  | setStrict strict => rfl
  | randomize words => exact absurd rfl (noDrawing words)
  | seedEdge edge s =>
    rw [perform]
    obtain ⟨e, failed⟩ | ⟨-, cells, done⟩ := world.seedEdge_cases sound.wide sound.high edge s
    · rw [failed]
      rfl
    · have fresh := (sound.seedEdge_eq_ok_iff.1 (congrArg Prod.fst done)).2.1
      rw [done, fresh]
      rfl
  | setCell c s =>
    rw [perform]
    obtain ⟨e, failed⟩ | ⟨-, cells, done⟩ := world.setCell_cases c s
    · rw [failed]
      rfl
    · rw [done]
      rfl
  | step =>
    show world.step.2.seeded.toNat = _
    rw [world.seeded_step]
    simp [isSeeding]
  | run max =>
    have kept : (world.run max).2.seeded = world.seeded :=
      World.run_keeps (P := (·.seeded = world.seeded))
        (fun other same => other.seeded_step.trans same) rfl max
    show (world.run max).2.seeded.toNat = _
    rw [kept]
    simp [isSeeding]

theorem seeded_performAll (sound : world.Sound) (noDrawing : ∀ words, .randomize words ∉ ops) :
    (performAll world ops).seeded.toNat =
      world.seeded.toNat + (succeeded world ops).countP isSeeding := by
  induction ops generalizing world with
  | nil => rfl
  | cons op ops ih =>
    have first : ∀ words, op ≠ .randomize words :=
      fun words same => noDrawing words (same ▸ List.mem_cons_self)
    have later := ih (sound.perform op) fun words inside =>
      noDrawing words (List.mem_cons_of_mem _ inside)
    rw [succeeded, List.countP_append, ← Nat.add_assoc]
    have here : (if (op.perform world).1.isOk then [op] else []).countP isSeeding =
        if (op.perform world).1.isOk && op.isSeeding then 1 else 0 := by
      cases (op.perform world).1.isOk <;> simp
    rw [here, ← seeded_perform sound first, ← later]
    rfl

end Operation

/-! ## Worlds that have made a step -/

namespace World

variable {world : World w h}

/-- The cells have been drawn, and at least one step has been made since. -/
def Underway (world : World w h) : Prop := world.status = .running ∨ world.status = .converged

theorem Underway.not_randomized (underway : world.Underway) : world.status ≠ .randomized := by
  rcases underway with status | status <;> simp [status]

theorem underway_of_step_ok {next : World w h} {n : ℕ} (moved : world.step = (.ok n, next)) :
    next.Underway := by
  obtain ⟨status, -, rfl⟩ | ⟨after, -, -, rfl⟩ := cases_of_step_ok moved
  · exact .inr status
  · exact (world.advance_status after).symm

theorem Underway.seedEdge (underway : world.Underway) (sound : world.Sound) (edge : Edge)
    (s : State) :
    ∃ e, world.seedEdge edge s = (.error e, world) :=
  (world.seedEdge_cases sound.wide sound.high edge s).resolve_right fun done =>
    underway.not_randomized done.1

theorem Underway.setCell (underway : world.Underway) (c : Coord) (s : State) :
    ∃ e, world.setCell c s = (.error e, world) :=
  (world.setCell_cases c s).resolve_right fun done => underway.not_randomized done.1

end World

namespace Operation

variable {world : World w h} {past : List (World w h)} {op : Operation} {ops : List Operation}

/-- Operations that are neither drawings nor make steps set the flag for strictness, or they edit a
world of which no step has been made. -/
theorem perform_cases (sound : world.Sound) (noDrawing : ∀ words, op ≠ .randomize words) :
    (op.stages world = [] ∧ ∃ strict, (op.perform world).2 = world.setStrict strict) ∨
    (op.stages world = [] ∧ world.status = .randomized ∧
      ∃ cells seeded, (op.perform world).2 = { world with cells, seeded }) ∨
    (op = .step ∨ ∃ max, op = .run max) := by
  cases op with
  | setStrict strict => exact .inl ⟨rfl, strict, rfl⟩
  | randomize words => exact absurd rfl (noDrawing words)
  | seedEdge edge s =>
    obtain ⟨e, failed⟩ | ⟨status, cells, done⟩ := world.seedEdge_cases sound.wide sound.high edge s
    · exact .inl ⟨rfl, world.strict, congrArg Prod.snd failed⟩
    · exact .inr (.inl ⟨rfl, status, cells, true, congrArg Prod.snd done⟩)
  | setCell c s =>
    obtain ⟨e, failed⟩ | ⟨status, cells, done⟩ := world.setCell_cases c s
    · exact .inl ⟨rfl, world.strict, congrArg Prod.snd failed⟩
    · exact .inr (.inl ⟨rfl, status, cells, world.seeded, congrArg Prod.snd done⟩)
  | step => exact .inr (.inr (.inl rfl))
  | run max => exact .inr (.inr (.inr ⟨max, rfl⟩))

theorem underway_perform (sound : world.Sound) (underway : past ≠ [] → world.Underway)
    (noDrawing : ∀ words, op ≠ .randomize words) (some : past ++ op.stages world ≠ []) :
    (op.perform world).2.Underway := by
  obtain ⟨none, strict, same⟩ | ⟨none, status, -⟩ | steps := perform_cases sound noDrawing
  · rw [same]
    exact underway (by simpa [none] using some)
  · have before : world.Underway := underway (by simpa [none] using some)
    exact absurd status before.not_randomized
  · refine stages_keep (P := fun past world => past ≠ [] → world.Underway) ?_ ?_ underway steps some
    · exact fun _ _ _ _ _ moved _ => World.underway_of_step_ok moved
    · intro past world e next holds failed
      obtain ⟨scratch, rfl⟩ := World.exists_scratch_of_step_error failed
      exact holds

theorem underway_performAll (sound : world.Sound) (underway : past ≠ [] → world.Underway)
    (noDrawing : ∀ words, .randomize words ∉ ops) (some : past ++ stagesAll world ops ≠ []) :
    (performAll world ops).Underway := by
  induction ops generalizing world past with
  | nil => exact underway (by simpa [stagesAll] using some)
  | cons op ops ih =>
    have first : ∀ words, op ≠ .randomize words :=
      fun words same => noDrawing words (same ▸ List.mem_cons_self)
    rw [stagesAll, ← List.append_assoc] at some
    exact ih (sound.perform op) (underway_perform sound underway first)
      (fun words inside => noDrawing words (List.mem_cons_of_mem _ inside)) some

theorem blank_perform (sound : world.Sound) (blank : world.status = .uninitialized)
    (noDrawing : ∀ words, op ≠ .randomize words) :
    (op.perform world).2.status = .uninitialized := by
  have stepping : ∀ world : World w h, world.status = .uninitialized →
      world.step.2.status = .uninitialized := by
    intro world blank
    rw [World.step, blank]
    exact blank
  obtain ⟨-, strict, same⟩ | ⟨-, status, -⟩ | rfl | ⟨max, rfl⟩ := perform_cases sound noDrawing
  · rw [same]
    exact blank
  · rw [blank] at status
    cases status
  · exact stepping world blank
  · exact World.run_keeps stepping blank max

theorem exists_walks (sound : world.Sound) (underway : world.Underway)
    (noDrawing : ∀ words, op ≠ .randomize words) :
    ∃ ns last, world.Walks ns last ∧ (op.perform world).2.cells = last.cells ∧
      (ns ≠ [] → op = .step ∨ ∃ max, op = .run max) := by
  obtain ⟨-, strict, same⟩ | ⟨-, status, -⟩ | rfl | ⟨max, rfl⟩ := perform_cases sound noDrawing
  · exact ⟨[], world, .stay world, by rw [same]; rfl, by simp⟩
  · exact absurd status underway.not_randomized
  · cases stepped : world.step with | mk answer next =>
    cases answer with
    | error e =>
      obtain ⟨scratch, rfl⟩ := World.exists_scratch_of_step_error stepped
      exact ⟨[], world, .stay world, by rw [perform, stepped]; rfl, by simp⟩
    | ok n => exact ⟨[n], next, .step stepped (.stay next), by rw [perform, stepped]; rfl, by simp⟩
  · obtain ⟨ns, last, walks, done | ⟨e, failed, ended⟩⟩ := world.run_walks max
    · exact ⟨ns, last, walks, by rw [perform, done]; rfl, by simp⟩
    · have stepped : last.step = (.error e, last.step.2) := Prod.ext failed rfl
      obtain ⟨scratch, same⟩ := World.exists_scratch_of_step_error stepped
      refine ⟨ns, last, walks, ?_, by simp⟩
      rw [perform, ended, same]
      rfl

end Operation

/-! ## Since the last drawing -/

/-- Operations other than drawings have led to the world since its cells were drawn. -/
structure World.Since (world drawn : World w h) (ops : List Operation) : Prop where
  drawing : ∃ before words, Reachable before ∧ (before.randomize words).2 = drawn
  noDrawing : ∀ words, .randomize words ∉ ops
  led : Operation.performAll drawn ops = world

theorem Reachable.exists_since {world : World w h} (reachable : Reachable world)
    (begun : world.status ≠ .uninitialized) : ∃ drawn ops, world.Since drawn ops := by
  induction reachable with
  | new enough made =>
    obtain ⟨-, -, sampler, -, rfl⟩ := World.new_eq_ok made
    exact absurd rfl begun
  | @perform world op reachable ih =>
    by_cases drawing : ∃ words, op = .randomize words
    · obtain ⟨words, rfl⟩ := drawing
      exact ⟨_, [], ⟨world, words, reachable, rfl⟩, by simp, rfl⟩
    · have noDrawing : ∀ words, op ≠ .randomize words := fun words same => drawing ⟨words, same⟩
      obtain ⟨drawn, ops, since⟩ :=
        ih fun blank => begun (Operation.blank_perform reachable.sound blank noDrawing)
      refine ⟨drawn, ops ++ [op], since.drawing, ?_, ?_⟩
      · intro words inside
        rcases List.mem_append.1 inside with inside | inside
        · exact since.noDrawing words inside
        · exact noDrawing words (List.mem_singleton.1 inside).symm
      · rw [Operation.performAll, List.foldl_concat, ← Operation.performAll, since.led]

/-- An edge can be seeded if the cells have been drawn, no step has been made and no edge has been
seeded since, and the state is allowed. Its cells get the state and all others keep theirs, and of
the rest of the world only the flag changes. This happens at most once between two drawings. Once a
step has succeeded neither edges nor cells can be set any more, and all that changes the cells are
steps. -/
theorem Reachable.edge_is_seeded_once {world : World w h} (reachable : Reachable world) :
    (∀ edge s,
      ((world.seedEdge edge s).1 = .ok () ↔
        world.status = .randomized ∧ world.seeded = false ∧
          (world.strict = true → s ∈ world.rules.states)) ∧
      (∀ c ∈ edge.places w h, ∃ p, World.locate w h c = .ok p) ∧
      ((world.seedEdge edge s).1 = .ok () → ∃ cells : Grid State w h,
        (∀ x y, cells.get x y = if edge.holds w h x y then s else world.cells.get x y) ∧
        (world.seedEdge edge s).2 = { world with cells, seeded := true })) ∧
    (world.status ≠ .uninitialized → ∃ drawn ops, world.Since drawn ops) ∧
    ∀ drawn ops, world.Since drawn ops →
      (world.seeded = true ↔ ∃ edge s, .seedEdge edge s ∈ Operation.succeeded drawn ops) ∧
      (Operation.succeeded drawn ops).countP Operation.isSeeding ≤ 1 ∧
      (Operation.stagesAll drawn ops ≠ [] →
        (∀ edge s, ∃ e, world.seedEdge edge s = (.error e, world)) ∧
        (∀ c s, ∃ e, world.setCell c s = (.error e, world)) ∧
        ∀ op : Operation, (∀ words, op ≠ .randomize words) →
          ∃ ns last, world.Walks ns last ∧ (op.perform world).2.cells = last.cells ∧
            (ns ≠ [] → op = .step ∨ ∃ max, op = .run max)) := by
  have sound := reachable.sound
  refine ⟨fun edge s => ⟨sound.seedEdge_eq_ok_iff, ?_, sound.seedEdge_holds⟩,
    reachable.exists_since, ?_⟩
  · exact fun c inside => World.exists_locate_eq_ok
      (World.mem_edge_places sound.wide sound.high edge inside)
  · rintro drawn ops ⟨⟨before, words, origin, rfl⟩, noDrawing, rfl⟩
    obtain ⟨cells, -, drawing⟩ := origin.sound.randomize_eq words
    have fresh : (before.randomize words).2.seeded = false := by rw [drawing]
    have sound' := origin.sound.randomize words
    have counted := Operation.seeded_performAll sound' noDrawing
    rw [fresh, Bool.toNat_false, Nat.zero_add] at counted
    refine ⟨?_, counted ▸ Bool.toNat_le _, fun some => ?_⟩
    · have some : 0 < (Operation.succeeded (before.randomize words).2 ops).countP
        Operation.isSeeding ↔
          ∃ edge s, .seedEdge edge s ∈ Operation.succeeded (before.randomize words).2 ops := by
        simp only [List.countP_pos_iff, Operation.isSeeding_iff]
        constructor
        · rintro ⟨op, inside, edge, s, rfl⟩
          exact ⟨edge, s, inside⟩
        · rintro ⟨edge, s, inside⟩
          exact ⟨_, inside, edge, s, rfl⟩
      rw [← some, ← counted]
      cases (Operation.performAll (before.randomize words).2 ops).seeded <;> simp
    · have begin : ([] : List (World w h)) ≠ [] → (before.randomize words).2.Underway :=
        fun other => absurd rfl other
      have underway := Operation.underway_performAll sound' begin noDrawing some
      exact ⟨underway.seedEdge sound, underway.setCell,
        fun op => Operation.exists_walks sound underway⟩

/-- All edges but two lie on top of each other here: after the south no other edge can be seeded,
and after a step no cell can be set. -/
theorem Reachable.edge_is_seeded_once_forest :
    let ops : List Operation := [.setCell ⟨2, 0⟩ 0, .seedEdge .south 2, .seedEdge .west 1, .step]
    let last := Operation.performAll forest ops
    Reachable last ∧ last.Since forest ops ∧ (forest.seedEdge .south 2).1 = .ok () ∧
      (forest.seedEdge .south 2).2.cells = .replicate 2 ∧ last.seeded = true ∧
      last.status = .converged ∧
      ∃ e, last.setCell ⟨0, 0⟩ 1 = (.error e, last) := by
  intro ops last
  have made : World.new 3 1 forestRules = .ok plot := by decide +kernel
  have drawn : (plot.randomize fun i => if i = 1 then 0xA000000000000000
      else 0xF000000000000000).2 = forest := by
    decide +kernel
  have since : last.Since forest ops :=
    ⟨⟨plot, _, .new (by decide) made, drawn⟩, by simp [ops], rfl⟩
  have reachable : Reachable last := Operation.reachable_performAll reachable_forest ops
  have done : (forest.seedEdge .south 2).1 = .ok () :=
    ((edge_is_seeded_once reachable_forest).1 .south 2).1.2
    ⟨rfl, rfl, by simp [forest, plot]⟩
  obtain ⟨cells, writes, seeded⟩ := ((edge_is_seeded_once reachable_forest).1 .south 2).2.2 done
  have covered : cells = .replicate 2 := by
    ext x y
    rw [writes, Grid.get_replicate, if_pos (by simp [Edge.holds])]
  obtain ⟨flag, -, later⟩ := (edge_is_seeded_once reachable).2.2 forest ops since
  have some : Operation.stagesAll forest ops ≠ [] :=
    List.ne_nil_of_length_eq_add_one (show (Operation.stagesAll forest ops).length = 0 + 1 from rfl)
  have seededSouth : Operation.succeeded forest ops =
    [.setCell ⟨2, 0⟩ 0, .seedEdge .south 2, .step] := rfl
  refine ⟨reachable, since, done, by rw [seeded, covered], flag.2 ⟨.south, 2, ?_⟩,
    by decide +kernel, (later some).2.1 _ _⟩
  rw [seededSouth]
  simp

end CellularAutomaton
