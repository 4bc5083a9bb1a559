import CellularAutomaton.Expr.Basic
import CellularAutomaton.Proofs.Numeral.Integer
import CellularAutomaton.Proofs.Outcome

/-!
# Evaluation in unbounded integers

Over the unbounded integers an expression has a value unless it divides by zero somewhere. Checked
evaluation comes to this value if the values of all nodes fit into 64 bits. Otherwise it fails with
what is wrong at the first node that has no such value, where operands come before operators and
left ones before right ones.
-/

namespace CellularAutomaton

def Fits (n : ℤ) : Prop := -2 ^ 63 ≤ n ∧ n ≤ 2 ^ 63 - 1

instance : DecidablePred Fits := fun _ => inferInstanceAs (Decidable (_ ∧ _))

theorem fits_toInt (v : Int64) : Fits v.toInt := ⟨v.le_toInt, Int.le_sub_one_of_lt v.toInt_lt⟩

theorem checked_of_fits {n : ℤ} (fits : Fits n) : ∃ v, checked n = .ok v ∧ v.toInt = n := by
  have inRange : Int64.minValue.toInt ≤ n ∧ n ≤ Int64.maxValue.toInt := fits
  have found : checked n = .ok (Int64.ofInt n) := by rw [checked, Numeral.int64?, if_pos inRange]
  exact ⟨_, found, toInt_of_checked_eq_ok found⟩

theorem checked_of_not_fits {n : ℤ} (outside : ¬Fits n) : checked n = .error .overflow := by
  have notInRange : ¬(Int64.minValue.toInt ≤ n ∧ n ≤ Int64.maxValue.toInt) := outside
  rw [checked, Numeral.int64?, if_neg notInRange]

namespace Expr

variable {x : State} {e l r : Expr} {op : Operator} {a b m n : ℤ} {err : EvalError}

/-- The value over the unbounded integers, where division truncates toward zero. -/
inductive HasValue (x : State) : Expr → ℤ → Prop
  | literal (n : Int64) : HasValue x (.literal n) n.toInt
  | var : HasValue x .var x.toInt
  | neg {e : Expr} {a : ℤ} (operand : HasValue x e a) : HasValue x (.neg e) (-a)
  | add {l r : Expr} {a b : ℤ} (left : HasValue x l a) (right : HasValue x r b) :
      HasValue x (.binary .add l r) (a + b)
  | sub {l r : Expr} {a b : ℤ} (left : HasValue x l a) (right : HasValue x r b) :
      HasValue x (.binary .sub l r) (a - b)
  | mul {l r : Expr} {a b : ℤ} (left : HasValue x l a) (right : HasValue x r b) :
      HasValue x (.binary .mul l r) (a * b)
  | div {l r : Expr} {a b : ℤ} (left : HasValue x l a) (right : HasValue x r b) (nonzero : b ≠ 0) :
      HasValue x (.binary .div l r) (a.tdiv b)

/-- All nodes with what is below them, operands before operators and left ones before right ones. -/
def postorder : Expr → List Expr
  | literal n => [literal n]
  | var => [var]
  | neg e => e.postorder ++ [neg e]
  | binary op l r => l.postorder ++ r.postorder ++ [binary op l r]

/-- What is wrong with a node whose operands have values. -/
inductive Offends (x : State) : Expr → EvalError → Prop
  | divisionByZero {l r : Expr} (divisor : HasValue x r 0) :
      Offends x (.binary .div l r) .divisionByZero
  | overflow {e : Expr} {n : ℤ} (value : HasValue x e n) (outside : ¬Fits n) : Offends x e .overflow

def Sound (x : State) (e : Expr) : Prop := ∃ n, HasValue x e n ∧ Fits n

/-! ## Values -/

theorem HasValue.binary (left : HasValue x l a) (right : HasValue x r b)
    (nonzero : ¬(op = .div ∧ b = 0)) :
    HasValue x (.binary op l r) (op.exact a b) := by
  cases op with
  | add => exact .add left right
  | sub => exact .sub left right
  | mul => exact .mul left right
  | div => exact .div left right fun zero => nonzero ⟨rfl, zero⟩

theorem HasValue.operands (value : HasValue x (.binary op l r) n) :
    ∃ a b, HasValue x l a ∧ HasValue x r b ∧ ¬(op = .div ∧ b = 0) ∧ n = op.exact a b := by
  cases value with
  | add left right => exact ⟨_, _, left, right, nofun, rfl⟩
  | sub left right => exact ⟨_, _, left, right, nofun, rfl⟩
  | mul left right => exact ⟨_, _, left, right, nofun, rfl⟩
  | div left right nonzero => exact ⟨_, _, left, right, fun ⟨_, zero⟩ => nonzero zero, rfl⟩

theorem HasValue.unique (value : HasValue x e m) (value' : HasValue x e n) : m = n := by
  induction e generalizing m n with
  | literal k =>
    cases value
    cases value'
    rfl
  | var =>
    cases value
    cases value'
    rfl
  | neg e ih =>
    cases value with
    | neg operand =>
      cases value' with
      | neg operand' => rw [ih operand operand']
  | binary op l r ihl ihr =>
    obtain ⟨a, b, left, right, -, rfl⟩ := value.operands
    obtain ⟨a', b', left', right', -, rfl⟩ := value'.operands
    rw [ihl left left', ihr right right']

theorem Sound.not_offends (sound : Sound x e) : ¬Offends x e err := by
  obtain ⟨n, value, fits⟩ := sound
  intro offends
  cases offends with
  | divisionByZero divisor =>
    obtain ⟨a, b, -, right, nonzero, -⟩ := value.operands
    exact nonzero ⟨rfl, right.unique divisor⟩
  | overflow value' outside => exact outside (value.unique value' ▸ fits)

theorem Offends.unique {err' : EvalError} (offends : Offends x e err)
    (offends' : Offends x e err') :
    err = err' := by
  cases offends with
  | divisionByZero divisor =>
    cases offends' with
    | divisionByZero => rfl
    | overflow value _ =>
      obtain ⟨a, b, -, right, nonzero, -⟩ := value.operands
      exact absurd ⟨rfl, right.unique divisor⟩ nonzero
  | overflow value _ =>
    cases offends' with
    | divisionByZero divisor =>
      obtain ⟨a, b, -, right, nonzero, -⟩ := value.operands
      exact absurd ⟨rfl, right.unique divisor⟩ nonzero
    | overflow => rfl

/-! ## What evaluation comes to -/

/-- What is wrong with the first of the nodes that something is wrong with. -/
def FirstOffends (x : State) (es : List Expr) (err : EvalError) : Prop :=
  ∃ before s after, es = before ++ s :: after ∧ (∀ t ∈ before, ∀ err', ¬Offends x t err') ∧
    Offends x s err

theorem FirstOffends.append {es : List Expr} (first : FirstOffends x es err) (later : List Expr) :
    FirstOffends x (es ++ later) err := by
  obtain ⟨before, s, after, rfl, free, offends⟩ := first
  exact ⟨before, s, after ++ later, by simp, free, offends⟩

theorem FirstOffends.prepend {es : List Expr} (first : FirstOffends x es err) {earlier : List Expr}
    (sound : ∀ t ∈ earlier, Sound x t) : FirstOffends x (earlier ++ es) err := by
  obtain ⟨before, s, after, rfl, free, offends⟩ := first
  have free' : ∀ t ∈ earlier, ∀ err', ¬Offends x t err' :=
    fun t inside _ => (sound t inside).not_offends
  exact ⟨earlier ++ before, s, after, by simp, List.forall_mem_append.2 ⟨free', free⟩, offends⟩

theorem FirstOffends.last {es : List Expr} (sound : ∀ t ∈ es, Sound x t)
    (offends : Offends x e err) :
    FirstOffends x (es ++ [e]) err :=
  ⟨es, e, [], rfl, fun t inside _ => (sound t inside).not_offends, offends⟩

theorem FirstOffends.exists_mem {es : List Expr} (first : FirstOffends x es err) :
    ∃ s ∈ es, Offends x s err := by
  obtain ⟨before, s, after, rfl, -, offends⟩ := first
  exact ⟨s, by simp, offends⟩

theorem FirstOffends.unique {es : List Expr} {err' : EvalError} (first : FirstOffends x es err)
    (first' : FirstOffends x es err') : err = err' := by
  induction es with
  | nil =>
    obtain ⟨s, inside, -⟩ := first.exists_mem
    cases inside
  | cons e es ih =>
    obtain ⟨before, s, after, same, free, offends⟩ := first
    obtain ⟨before', s', after', same', free', offends'⟩ := first'
    cases before with
    | nil =>
      obtain ⟨rfl, -⟩ := List.cons.inj same
      cases before' with
      | nil =>
        obtain ⟨rfl, -⟩ := List.cons.inj same'
        exact offends.unique offends'
      | cons t before' =>
        obtain ⟨rfl, -⟩ := List.cons.inj same'
        exact absurd offends (free' _ List.mem_cons_self _)
    | cons t before =>
      obtain ⟨rfl, rest⟩ := List.cons.inj same
      cases before' with
      | nil =>
        obtain ⟨rfl, -⟩ := List.cons.inj same'
        exact absurd offends' (free _ List.mem_cons_self _)
      | cons t' before' =>
        obtain ⟨-, rest'⟩ := List.cons.inj same'
        exact ih ⟨before, s, after, rest, (List.forall_mem_cons.1 free).2, offends⟩
          ⟨before', s', after', rest', (List.forall_mem_cons.1 free').2, offends'⟩

theorem HasValue.sound {v : Int64} (value : HasValue x e v.toInt) : Sound x e :=
  ⟨_, value, fits_toInt v⟩

theorem checked_value {v : Int64} (value : HasValue x e n) (computed : checked n = .ok v) :
    HasValue x e v.toInt := by
  rwa [toInt_of_checked_eq_ok computed]

theorem offends_of_checked (value : HasValue x e n) (failed : checked n = .error err) :
    Offends x e err := by
  have outside : ¬Fits n := by
    intro fits
    obtain ⟨v, computed, -⟩ := checked_of_fits fits
    rw [computed] at failed
    cases failed
  rw [checked_of_not_fits outside] at failed
  cases failed
  exact .overflow value outside

theorem apply_eq_ok {op : Operator} {a b v : Int64} (computed : op.apply a b = .ok v) :
    ¬(op = .div ∧ b.toInt = 0) ∧ checked (op.exact a.toInt b.toInt) = .ok v := by
  unfold Operator.apply at computed
  split_ifs at computed with zero
  rw [← Int64.toInt_inj] at zero
  exact ⟨zero, computed⟩

theorem offends_of_apply {a b : Int64} (left : HasValue x l a.toInt) (right : HasValue x r b.toInt)
    (failed : op.apply a b = .error err) : Offends x (binary op l r) err := by
  unfold Operator.apply at failed
  split_ifs at failed with zero
  · obtain ⟨rfl, rfl⟩ := zero
    cases failed
    exact .divisionByZero right
  · rw [← Int64.toInt_inj] at zero
    exact offends_of_checked (left.binary right zero) failed

/-- If a value is computed, then it is the exact one, and so are those of all nodes. -/
theorem sound_of_eval_eq_ok {v : Int64} (computed : e.eval x = .ok v) :
    HasValue x e v.toInt ∧ ∀ s ∈ e.postorder, Sound x s := by
  induction e generalizing v with
  | literal n =>
    cases computed
    exact ⟨.literal n, by simpa [postorder] using (HasValue.literal n).sound⟩
  | var =>
    cases computed
    have value : HasValue x .var x.toInt64.toInt := by simpa using HasValue.var
    exact ⟨value, by simpa [postorder] using value.sound⟩
  | neg e ih =>
    obtain ⟨a, inner, outer⟩ := bind_eq_ok.1 computed
    obtain ⟨operand, sound⟩ := ih inner
    have value := checked_value operand.neg outer
    exact ⟨value, List.forall_mem_append.2 ⟨sound, by simpa using value.sound⟩⟩
  | binary op l r ihl ihr =>
    obtain ⟨a, first, computed⟩ := bind_eq_ok.1 computed
    obtain ⟨b, second, outer⟩ := bind_eq_ok.1 computed
    obtain ⟨left, soundLeft⟩ := ihl first
    obtain ⟨right, soundRight⟩ := ihr second
    obtain ⟨nonzero, outer⟩ := apply_eq_ok outer
    have value := checked_value (left.binary right nonzero) outer
    refine ⟨value, List.forall_mem_append.2 ⟨?_, by simpa using value.sound⟩⟩
    exact List.forall_mem_append.2 ⟨soundLeft, soundRight⟩

/-- If evaluation fails, then with what is wrong at the first node. -/
theorem firstOffends_of_eval_eq_error (failed : e.eval x = .error err) :
    FirstOffends x e.postorder err := by
  induction e with
  | literal n => cases failed
  | var => cases failed
  | neg e ih =>
    obtain inner | ⟨a, inner, outer⟩ := bind_eq_error.1 failed
    · exact (ih inner).append _
    · obtain ⟨operand, sound⟩ := sound_of_eval_eq_ok inner
      exact .last sound (offends_of_checked operand.neg outer)
  | binary op l r ihl ihr =>
    obtain first | ⟨a, first, failed⟩ := bind_eq_error.1 failed
    -- what is wrong on the left comes first, whatever is wrong on the right
    · exact ((ihl first).append _).append _
    · obtain ⟨left, soundLeft⟩ := sound_of_eval_eq_ok first
      obtain second | ⟨b, second, outer⟩ := bind_eq_error.1 failed
      · exact ((ihr second).prepend soundLeft).append _
      · obtain ⟨right, soundRight⟩ := sound_of_eval_eq_ok second
        exact .last (List.forall_mem_append.2 ⟨soundLeft, soundRight⟩)
          (offends_of_apply left right outer)

theorem eval_eq_error_iff : e.eval x = .error err ↔ FirstOffends x e.postorder err := by
  refine ⟨firstOffends_of_eval_eq_error, fun first => ?_⟩
  cases answer : e.eval x with
  | ok v =>
    obtain ⟨s, inside, offends⟩ := first.exists_mem
    exact absurd offends ((sound_of_eval_eq_ok answer).2 s inside).not_offends
  | error err' => rw [first.unique (firstOffends_of_eval_eq_error answer)]

/-! ## States -/

theorem evalState_of_some {v : Int64} {s : State} (computed : e.eval x = .ok v)
    (state : Numeral.int32? v.toInt = some s) : e.evalState x = .ok s := by
  simp only [evalState, computed, bind, Except.bind, state]

theorem evalState_of_none {v : Int64} (computed : e.eval x = .ok v)
    (none : Numeral.int32? v.toInt = none) :
    e.evalState x = .error .overflow := by
  simp only [evalState, computed, bind, Except.bind, none]

theorem evalState_of_error (failed : e.eval x = .error err) : e.evalState x = .error err := by
  simp only [evalState, failed, bind, Except.bind]

theorem evalState_eq_ok_iff {s : State} :
    e.evalState x = .ok s ↔ ∃ v, e.eval x = .ok v ∧ v.toInt = s.toInt := by
  constructor
  · intro found
    cases answer : e.eval x with
    | error err =>
      rw [evalState_of_error answer] at found
      cases found
    | ok v =>
      refine ⟨v, rfl, ?_⟩
      cases state : Numeral.int32? v.toInt with
      | none =>
        rw [evalState_of_none answer state] at found
        cases found
      | some s' =>
        rw [evalState_of_some answer state] at found
        cases found
        exact (Numeral.toInt_of_int32?_eq_some state).symm
  · rintro ⟨v, computed, same⟩
    exact evalState_of_some computed (same ▸ Numeral.int32?_toInt s)

theorem int32?_eq_none {n : ℤ} (outside : ¬(-2 ^ 31 ≤ n ∧ n ≤ 2 ^ 31 - 1)) :
    Numeral.int32? n = none := by
  have notInRange : ¬(Int32.minValue.toInt ≤ n ∧ n ≤ Int32.maxValue.toInt) := outside
  rw [Numeral.int32?, if_neg notInRange]

/-! ## Checked arithmetic is exact -/

/-- Evaluation answers with a value if and only if no divisor is zero and the values of all nodes
over the unbounded integers fit, and then with the exact value. It fails with an error if and only
if that is what is wrong with the first node, in the order of evaluation, that something is wrong
with. The next state is the value if that is a state, and an overflow if it is not. -/
theorem eval_is_exact (x : State) (e : Expr) :
    (∀ v, e.eval x = .ok v ↔ (∀ l r, binary .div l r ∈ e.postorder → ¬HasValue x r 0) ∧
      (∀ s ∈ e.postorder, ∀ n, HasValue x s n → Fits n) ∧ HasValue x e v.toInt) ∧
    (∀ err, e.eval x = .error err ↔ FirstOffends x e.postorder err) ∧
    (∀ s, e.evalState x = .ok s ↔ ∃ v, e.eval x = .ok v ∧ v.toInt = s.toInt) ∧
    (∀ v, e.eval x = .ok v → ¬(-2 ^ 31 ≤ v.toInt ∧ v.toInt ≤ 2 ^ 31 - 1) →
      e.evalState x = .error .overflow) ∧
    ∀ err, e.eval x = .error err → e.evalState x = .error err := by
  refine ⟨fun v => ?_, fun err => eval_eq_error_iff, fun s => evalState_eq_ok_iff, ?_,
    fun err => evalState_of_error⟩
  · constructor
    · intro computed
      obtain ⟨value, sound⟩ := sound_of_eval_eq_ok computed
      refine ⟨fun l r inside divisor => ?_, fun s inside n value' => ?_, value⟩
      · exact (sound _ inside).not_offends (.divisionByZero divisor)
      · by_contra outside
        exact (sound s inside).not_offends (.overflow value' outside)
    · rintro ⟨nonzero, fits, value⟩
      cases answer : e.eval x with
      | ok u =>
        have same := (sound_of_eval_eq_ok answer).1.unique value
        rw [Int64.toInt_inj.1 same]
      | error err =>
        obtain ⟨s, inside, offends⟩ := (firstOffends_of_eval_eq_error answer).exists_mem
        cases offends with
        | divisionByZero divisor => exact absurd divisor (nonzero _ _ inside)
        | overflow value' outside => exact absurd (fits s inside _ value') outside
  · intro v computed outside
    exact evalState_of_none computed (int32?_eq_none outside)

/-- The smallest integer has no opposite. What is wrong there is found before the divisor above it,
which is zero. -/
theorem eval_is_exact_brink :
    let least := binary .sub (literal (-9223372036854775807)) (literal 1)
    let e := binary .div (binary .div least (literal (-1))) (binary .sub var var)
    FirstOffends 5 e.postorder .overflow ∧ e.eval 5 = .error .overflow ∧
    e.evalState 5 = .error .overflow ∧
      HasValue 5 least (-2 ^ 63) ∧ least.eval 5 = .ok Int64.minValue ∧
      least.evalState 5 = .error .overflow := by
  intro least e
  have value : HasValue 5 least (-2 ^ 63) := .sub (.literal _) (.literal _)
  have operands : ∀ t ∈ [literal (-9223372036854775807), literal 1, least, literal (-1)],
      Sound 5 t := by
    simp only [List.forall_mem_cons]
    exact ⟨⟨_, .literal _, by decide⟩, ⟨_, .literal _, by decide⟩, ⟨_, value, by decide⟩,
      ⟨_, .literal _, by decide⟩, by simp⟩
  have first : FirstOffends 5 e.postorder .overflow :=
    (FirstOffends.last operands (.overflow (.div value (.literal _) (by decide))
      (by decide))).append _
  have failed : e.eval 5 = .error .overflow := ((eval_is_exact 5 e).2.1 _).2 first
  have computed : least.eval 5 = .ok Int64.minValue := by decide +kernel
  exact ⟨first, failed, (eval_is_exact 5 e).2.2.2.2 _ failed, value, computed,
    (eval_is_exact 5 least).2.2.2.1 _ computed (by decide +kernel)⟩

end Expr

end CellularAutomaton
