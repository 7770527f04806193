import LowestTerms.Proofs.Session.Invariant

/-!
What steps do to registers. A step writes the register that it changes in place or the register that
stores its answer, never both and no other. An assigning step leaves what the operation would
compute from the old contents, or the undefined fraction if there is no such result, which only a
division by zero has. What a run leaves in a register is what the last step that wrote it has left
there.
-/

namespace LowestTerms.Session

open Fraction (undefined)

def Change.operation {α : Type} (x : α) : Change α → Operation α
  | combine which y => .binary which x y
  | addInt n => .integer .add .right x n
  | subtractInt n => .integer .subtract .right x n
  | multiplyInt n => .integer .multiply .right x n
  | setZero => .create (.constant .zero)
  | setOne => .create (.constant .one)

namespace Action

def assigned? : Action → Option String
  | assign (.register name) _ => some name
  | _ => none

def Ready (registers : Registers) (action : Action) : Prop :=
  ∀ operand ∈ action.operands, operand.missing? registers = none

def DividesByZero (registers : Registers) (name : String) (action : Action) : Prop :=
  action.Ready registers ∧ ∃ divisor : Operand,
    action = .assign (.register name) (.combine .divide divisor) ∧
      (divisor.read registers).isZero = true

end Action

theorem Answer.fraction?_eq_some_iff {answer : Answer} {x : Fraction} :
    answer.fraction? = some x ↔ answer = .result (.fraction x) := by
  constructor
  · intro found
    unfold Answer.fraction? at found
    split at found
    · cases found
      rfl
    · cases found
  · rintro rfl
    rfl

theorem Change.operation_map {α β : Type} (read : α → β) (x : α) (change : Change α) :
    (change.map read).operation (read x) = (change.operation x).map read := by
  cases change <;> rfl

theorem Change.apply_eq (x : Fraction) (change : Change Fraction) :
    change.apply x =
      ((evaluate (change.operation x)).fraction?.getD undefined,
        evaluate (change.operation x)) := by
  cases change with
  | combine which y =>
      simp only [Change.apply, Change.operation, evaluate]
      cases which.apply x y <;> rfl
  | addInt n | subtractInt n | multiplyInt n | setZero | setOne => rfl

theorem evaluate_divide_zero (x : Fraction) {y : Fraction} (isZero : y.isZero = true) :
    evaluate (.binary .divide x y) = .aborted (.unhandled .divisionByZero) := by
  simp only [evaluate, Arithmetic.apply, Fraction.divideOrAbort, Fraction.divide, isZero, if_true]
  rfl

theorem evaluate_divide_nonzero (x : Fraction) {y : Fraction} (nonzero : ¬y.isZero = true) :
    ∃ z, evaluate (.binary .divide x y) = .result (.fraction z) := by
  simp only [evaluate, Arithmetic.apply, Fraction.divideOrAbort, Fraction.divide, nonzero,
    Bool.false_eq_true, if_false]
  split_ifs <;> exact ⟨_, rfl⟩

theorem Change.result_or_divides_by_zero (x : Fraction) (change : Change Fraction) :
    (∃ z, evaluate (change.operation x) = .result (.fraction z)) ∨
      ∃ y, change = .combine .divide y ∧ y.isZero = true := by
  cases change with
  | combine which y =>
      cases which with
      | divide =>
          by_cases isZero : y.isZero = true
          · exact .inr ⟨y, rfl, isZero⟩
          · exact .inl (evaluate_divide_nonzero x isZero)
      | add | subtract | multiply => exact .inl ⟨_, rfl⟩
  | addInt n | subtractInt n | multiplyInt n | setZero | setOne => exact .inl ⟨_, rfl⟩

section

variable {registers : Registers} {action : Action}

theorem Action.ready_iff :
    action.Ready registers ↔
      action.operands.findSome? (Operand.missing? registers) = none := by
  rw [List.findSome?_eq_none_iff]
  rfl

theorem Action.run_of_ready (ready : action.Ready registers) :
    action.run registers = action.perform registers := by
  rw [run, ready_iff.mp ready]

theorem Action.run_of_not_ready (notReady : ¬action.Ready registers) :
    ∃ missing, action.run registers = (registers, .unsetRegister missing) := by
  rw [ready_iff] at notReady
  obtain ⟨missing, found⟩ := Option.ne_none_iff_exists'.mp notReady
  exact ⟨missing, by rw [run, found]⟩

/-- What the operation computes from the old contents, and nothing else, decides what is left. -/
theorem Action.run_assign {name : String} {change : Change Operand}
    (ready : (assign (.register name) change).Ready registers) :
    let answer := evaluate ((change.operation (.register name)).map (Operand.read registers))
    (assign (.register name) change).run registers =
      (registers.set name (answer.fraction?.getD undefined), answer) := by
  rw [run_of_ready ready]
  simp only [perform, Change.apply_eq, Change.operation_map]

theorem Action.run_keeps {name : String} (notAssigned : action.assigned? ≠ some name) :
    (action.run registers).1 name = registers name := by
  by_cases ready : action.Ready registers
  · cases action with
    | compute operation => rw [run_of_ready ready, perform]
    | assign operand change =>
        cases operand with
        | register target =>
            have other : name ≠ target := by
              rintro rfl
              exact notAssigned rfl
            rw [run_assign ready]
            exact if_neg other
        | quotient dividend divisor => rw [run_of_ready ready, perform]
        | undefined => rw [run_of_ready ready, perform]
  · obtain ⟨missing, unset⟩ := run_of_not_ready ready
    rw [unset]

theorem Action.exists_assign {name : String} (assigned : action.assigned? = some name) :
    ∃ change, action = assign (.register name) change := by
  unfold assigned? at assigned
  split at assigned
  · cases assigned
    exact ⟨_, rfl⟩
  · cases assigned

theorem Action.assign_result_or_divides {name : String} {change : Change Operand}
    (ready : (assign (.register name) change).Ready registers) :
    (∃ x, ((assign (.register name) change).run registers).2 = .result (.fraction x)) ∨
      (assign (.register name) change).DividesByZero registers name := by
  rw [run_assign ready, ← Change.operation_map]
  rcases Change.result_or_divides_by_zero (Operand.read registers (.register name))
    (change.map (Operand.read registers)) with result | ⟨y, divides, isZero⟩
  · exact .inl result
  · cases change with
    | combine which divisor =>
        cases divides
        exact .inr ⟨ready, divisor, rfl, isZero⟩
    | _ => cases divides

theorem Action.run_divides {name : String} (divides : action.DividesByZero registers name) :
    action.run registers =
      (registers.set name undefined, .aborted (.unhandled .divisionByZero)) := by
  obtain ⟨ready, divisor, rfl, isZero⟩ := divides
  rw [run_assign ready]
  simp only [Change.operation, Operation.map, evaluate_divide_zero _ isZero]
  rfl

end

theorem Answer.fraction?_explain (answer : Answer) :
    answer.explain.fraction? = answer.fraction? := by
  cases answer <;> rfl

namespace Step

inductive Writes (registers : Registers) (step : Step) (name : String) : Prop
  | inPlace : step.action.Ready registers → step.action.assigned? = some name →
      Writes registers step name
  | stored {x : Fraction} : step.destination? = some name →
      (step.run registers).2 = .result (.fraction x) → Writes registers step name

def Fails (registers : Registers) (step : Step) : Prop :=
  ∀ found, (step.action.run registers).2 ≠ .result found

section

variable {registers : Registers} {step : Step} {name : String}

theorem destination?_of_assigned (assigned : step.action.assigned? = some name) :
    step.destination? = none := by
  obtain ⟨change, assigns⟩ := Action.exists_assign assigned
  rw [destination?, assigns]

theorem Writes.unique {other : String} (writes : step.Writes registers name)
    (otherWrites : step.Writes registers other) : name = other := by
  cases writes with
  | inPlace _ assigned =>
      cases otherWrites with
      | inPlace _ otherAssigned => exact Option.some.inj (assigned.symm.trans otherAssigned)
      | stored destination _ =>
          rw [destination?_of_assigned assigned] at destination
          contradiction
  | stored destination _ =>
      cases otherWrites with
      | inPlace _ otherAssigned =>
          rw [destination?_of_assigned otherAssigned] at destination
          contradiction
      | stored otherDestination _ =>
          exact Option.some.inj (destination.symm.trans otherDestination)

theorem fraction?_run :
    (step.run registers).2.fraction? = (step.action.run registers).2.fraction? := by
  simp only [run]
  split
  · exact Answer.fraction?_explain _
  · rfl

theorem store_other {target : Option String} {answer : Answer}
    (notStored : ∀ x, target = some name → answer ≠ .result (.fraction x)) :
    store registers target answer name = registers name := by
  cases target with
  | none => rfl
  | some other =>
      cases found : answer.fraction? with
      | none => simp only [store, found]
      | some x =>
          have different : name ≠ other := by
            rintro rfl
            exact notStored x rfl (Answer.fraction?_eq_some_iff.mp found)
          simp only [store, found, Registers.set, different, if_false]

theorem run_stored {x : Fraction} (destination : step.destination? = some name)
    (answered : (step.run registers).2 = .result (.fraction x)) :
    (step.run registers).1 name = some x := by
  change store _ step.destination? (step.run registers).2 name = some x
  rw [destination, answered]
  exact if_pos rfl

theorem run_not_stored (notStored : ∀ x, step.destination? = some name →
    (step.run registers).2 ≠ .result (.fraction x)) :
    (step.run registers).1 name = (step.action.run registers).1 name :=
  store_other notStored

theorem run_of_no_destination (noDestination : step.destination? = none) :
    (step.run registers).1 = (step.action.run registers).1 := by
  change store _ step.destination? _ = _
  rw [noDestination]
  rfl

theorem run_keeps (unwritten : ¬step.Writes registers name) :
    (step.run registers).1 name = registers name := by
  rw [run_not_stored (fun x destination answered => unwritten (.stored destination answered))]
  by_cases ready : step.action.Ready registers
  · exact Action.run_keeps (fun assigned => unwritten (.inPlace ready assigned))
  · obtain ⟨missing, unset⟩ := Action.run_of_not_ready ready
    rw [unset]

theorem run_assigned {change : Change Operand} {x : Fraction}
    (assigns : step.action = .assign (.register name) change)
    (ready : step.action.Ready registers)
    (answered : (step.action.run registers).2 = .result (.fraction x)) :
    (step.run registers).1 name = some x := by
  have noDestination : step.destination? = none := by rw [destination?, assigns]
  rw [run_of_no_destination noDestination]
  rw [assigns] at ready answered ⊢
  rw [Action.run_assign ready] at answered ⊢
  simp only at answered
  rw [answered]
  exact if_pos rfl

theorem run_of_fails (fails : step.Fails registers) :
    (step.run registers).1 = (step.action.run registers).1 := by
  funext name
  apply run_not_stored
  intro x _ answered
  have found := Answer.fraction?_eq_some_iff.mpr answered
  rw [fraction?_run] at found
  exact fails _ (Answer.fraction?_eq_some_iff.mp found)

theorem run_divides (divides : step.action.DividesByZero registers name) :
    (step.run registers).1 = registers.set name undefined := by
  have performed := Action.run_divides divides
  have fails : step.Fails registers := by
    intro found
    rw [performed]
    exact Answer.noConfusion
  rw [run_of_fails fails, performed]

theorem run_of_fails_otherwise (fails : step.Fails registers)
    (otherwise : ∀ name, ¬step.action.DividesByZero registers name) :
    (step.run registers).1 = registers := by
  rw [run_of_fails fails]
  by_cases ready : step.action.Ready registers
  · funext name
    apply Action.run_keeps
    intro assigned
    obtain ⟨change, assigns⟩ := Action.exists_assign assigned
    rw [Fails, assigns] at fails
    rw [assigns] at ready otherwise
    rcases Action.assign_result_or_divides ready with ⟨x, answered⟩ | divides
    · exact fails _ answered
    · exact otherwise name divides
  · obtain ⟨missing, unset⟩ := Action.run_of_not_ready ready
    rw [unset]

end

structure Effects (registers : Registers) (step : Step) : Prop where
  others_kept : ∀ name, ¬step.Writes registers name →
    (step.run registers).1 name = registers name
  one_written : ∀ first second, step.Writes registers first → step.Writes registers second →
    first = second
  answer_stored : ∀ name x, step.destination? = some name →
    (step.run registers).2 = .result (.fraction x) → (step.run registers).1 name = some x
  assigned_computed : ∀ name change, step.action = .assign (.register name) change →
    step.action.Ready registers →
      (step.action.run registers).2 =
        evaluate ((change.operation (.register name)).map (Operand.read registers)) ∧
      ((∃ x, (step.action.run registers).2 = .result (.fraction x) ∧
          (step.run registers).1 name = some x) ∨
        step.action.DividesByZero registers name)
  failure_kept : step.Fails registers →
    (∀ name, ¬step.action.DividesByZero registers name) → (step.run registers).1 = registers
  division_failed : ∀ name, step.action.DividesByZero registers name →
    (step.run registers).2 = .aborted (.unhandled .divisionByZero) ∧
      (step.run registers).1 = registers.set name undefined

theorem effects (registers : Registers) (step : Step) : step.Effects registers := by
  constructor
  case others_kept => exact fun name unwritten => run_keeps unwritten
  case one_written => exact fun _ _ writes otherWrites => writes.unique otherWrites
  case answer_stored => exact fun name x destination answered => run_stored destination answered
  case assigned_computed =>
    intro name change assigns ready
    have actionReady := ready
    rw [assigns] at actionReady
    refine ⟨by rw [assigns, Action.run_assign actionReady], ?_⟩
    rcases Action.assign_result_or_divides actionReady with ⟨x, answered⟩ | divides
    · rw [← assigns] at answered
      exact .inl ⟨x, answered, run_assigned assigns ready answered⟩
    · exact .inr (assigns ▸ divides)
  case failure_kept => exact run_of_fails_otherwise
  case division_failed =>
    intro name divides
    refine ⟨?_, run_divides divides⟩
    simp only [run, Action.run_divides divides]
    split <;> rfl

inductive LeavesUndefined (registers : Registers) (step : Step) (name : String) : Prop
  | stored : step.destination? = some name →
      (step.run registers).2 = .result (.fraction undefined) → step.action.IsDefault →
        LeavesUndefined registers step name
  | copied {operand : Operand} : step.destination? = some name →
      (step.run registers).2 = .result (.fraction undefined) → step.action.HandsBack →
        operand ∈ step.action.operands → operand.read registers = undefined →
          LeavesUndefined registers step name
  | divided : step.action.DividesByZero registers name → LeavesUndefined registers step name

section

variable {registers : Registers} {step : Step} {name : String}

theorem LeavesUndefined.holds (leaves : step.LeavesUndefined registers name) :
    (step.run registers).1 name = some undefined := by
  cases leaves with
  | stored destination answered _ => exact run_stored destination answered
  | copied destination answered _ _ _ => exact run_stored destination answered
  | divided divides =>
      rw [run_divides divides]
      exact if_pos rfl

variable (valid : registers.Valid)

include valid

theorem leavesUndefined_of_stored (destination : step.destination? = some name)
    (answered : (step.run registers).2 = .result (.fraction undefined)) :
    step.LeavesUndefined registers name := by
  have shown : undefined ∈ (step.run registers).2.shown := by
    rw [answered]
    exact mem_shown_fraction.mpr rfl
  rcases (step.run_valid valid).2 undefined shown with
    canonical | ⟨handsBack, operand, member, isUndefined⟩ | ⟨default, _⟩
  · exact absurd canonical.1 (by decide)
  · exact .copied destination answered handsBack member isUndefined
  · exact .stored destination answered default

/-- What an assigning action computes is never undefined. -/
theorem not_assigned_undefined {change : Change Operand}
    (assigns : step.action = .assign (.register name) change) :
    (step.action.run registers).2 ≠ .result (.fraction undefined) := by
  intro answered
  have shown : undefined ∈ (step.action.run registers).2.shown := by
    rw [answered]
    exact mem_shown_fraction.mpr rfl
  rw [assigns] at shown
  rcases (Action.run_valid valid _).2 undefined shown with canonical | ⟨handsBack, _⟩ | ⟨default, _⟩
  · exact absurd canonical.1 (by decide)
  · exact handsBack
  · exact default

theorem Writes.leavesUndefined (writes : step.Writes registers name)
    (held : (step.run registers).1 name = some undefined) :
    step.LeavesUndefined registers name := by
  cases writes with
  | stored destination answered =>
      rw [run_stored destination answered] at held
      cases held
      exact leavesUndefined_of_stored valid destination answered
  | inPlace ready assigned =>
      obtain ⟨change, assigns⟩ := Action.exists_assign assigned
      have actionReady := ready
      rw [assigns] at actionReady
      rcases Action.assign_result_or_divides actionReady with ⟨x, answered⟩ | divides
      · rw [← assigns] at answered
        rw [run_assigned assigns ready answered] at held
        cases held
        exact absurd answered (not_assigned_undefined valid assigns)
      · rw [← assigns] at divides
        exact .divided divides

end

end Step

def Untouched (name : String) : Registers → List Step → Prop
  | _, [] => True
  | registers, step :: rest =>
      ¬step.Writes registers name ∧ Untouched name (step.run registers).1 rest

inductive LastWrite (name : String) : Registers → List Step → Registers → Step → Prop
  | here {registers : Registers} {step : Step} {rest : List Step} :
      step.Writes registers name → Untouched name (step.run registers).1 rest →
        LastWrite name registers (step :: rest) registers step
  | later {registers found : Registers} {step last : Step} {rest : List Step} :
      LastWrite name (step.run registers).1 rest found last →
        LastWrite name registers (step :: rest) found last

section

variable {name : String} {registers found : Registers} {steps : List Step} {last : Step}

theorem Untouched.kept (untouched : Untouched name registers steps) :
    (run registers steps).1 name = registers name := by
  induction steps generalizing registers with
  | nil => rfl
  | cons step rest ih =>
      obtain ⟨unwritten, later⟩ := untouched
      change (run (step.run registers).1 rest).1 name = _
      rw [ih later, step.run_keeps unwritten]

theorem LastWrite.left (lastWrite : LastWrite name registers steps found last) :
    (run registers steps).1 name = (last.run found).1 name := by
  induction lastWrite with
  | here _ untouched => exact untouched.kept
  | later _ ih => exact ih

theorem LastWrite.writes (lastWrite : LastWrite name registers steps found last) :
    last.Writes found name := by
  induction lastWrite with
  | here writes _ => exact writes
  | later _ ih => exact ih

theorem LastWrite.valid (lastWrite : LastWrite name registers steps found last)
    (valid : registers.Valid) : found.Valid := by
  induction lastWrite with
  | here _ _ => exact valid
  | later _ ih => exact ih (Step.run_valid valid _).1

variable (name registers steps)

theorem untouched_or_exists_lastWrite :
    Untouched name registers steps ∨ ∃ found last, LastWrite name registers steps found last := by
  induction steps generalizing registers with
  | nil => exact .inl trivial
  | cons step rest ih =>
      rcases ih (step.run registers).1 with untouched | ⟨found, last, lastWrite⟩
      · by_cases writes : step.Writes registers name
        · exact .inr ⟨registers, step, .here writes untouched⟩
        · exact .inl ⟨writes, untouched⟩
      · exact .inr ⟨found, last, .later lastWrite⟩

end

/-- A step changes no register but those that it writes, and a failing one only the register that it
divides by zero. A run leaves a register undefined if and only if the last step that wrote it did,
by that division or by storing or copying the undefined fraction. -/
theorem run_effects :
    (∀ registers step, Step.Effects registers step) ∧
    ∀ steps name, (run Registers.empty steps).1 name = some undefined ↔
      ∃ found last, LastWrite name Registers.empty steps found last ∧
        last.LeavesUndefined found name := by
  refine ⟨Step.effects, ?_⟩
  intro steps name
  constructor
  · intro held
    rcases untouched_or_exists_lastWrite name Registers.empty steps with
      untouched | ⟨found, last, lastWrite⟩
    · rw [untouched.kept] at held
      cases held
    · rw [lastWrite.left] at held
      have valid := lastWrite.valid Registers.empty_valid
      exact ⟨found, last, lastWrite, lastWrite.writes.leavesUndefined valid held⟩
  · rintro ⟨found, last, lastWrite, leaves⟩
    rw [lastWrite.left, leaves.holds]

theorem run_effects_of_aliased_difference_and_division :
    let start : Step := ⟨.compute (.create (.parts 1 2)), false, some "x"⟩
    let difference : Step :=
      ⟨.assign (.register "x") (.combine .subtract (.register "x")), false, some "y"⟩
    let division : Step := ⟨.assign (.register "x") (.combine .divide (.register "x")), false, none⟩
    let half := (run Registers.empty [start]).1
    (difference.run half).1 "x" = some Fraction.zero ∧ (difference.run half).1 "y" = none ∧
      (run Registers.empty [start, difference, division]).1 "x" = some undefined ∧
      ∃ found last, LastWrite "x" Registers.empty [start, difference, division] found last ∧
        last.LeavesUndefined found "x" := by
  intro start difference division half
  obtain ⟨effects, undefinedIff⟩ := run_effects
  have ready : difference.action.Ready half := by
    intro operand member
    rcases List.mem_cons.mp member with rfl | member
    · rfl
    · rw [List.mem_singleton.mp member]
      rfl
  obtain ⟨computed, outcome⟩ := (effects half difference).assigned_computed "x" _ rfl ready
  -- The step writes "x", so it does not write the register in which its answer could be stored.
  have unwritten : ¬difference.Writes half "y" := by
    intro writes
    have same := (effects half difference).one_written "x" "y" (.inPlace ready rfl) writes
    contradiction
  have divided : (run Registers.empty [start, difference, division]).1 "x" = some undefined := rfl
  refine ⟨?_, (effects half difference).others_kept "y" unwritten, divided,
    (undefinedIff _ _).mp divided⟩
  rcases outcome with ⟨x, answered, held⟩ | ⟨_, _, divides, _⟩
  · rw [computed] at answered
    cases answered
    exact held
  · cases divides

end LowestTerms.Session
