import LowestTerms.Proofs.Fraction.Undefined
import LowestTerms.Proofs.Session.Invariant

/-!
Sessions with zero in place of undefined operands. Two runs of the same steps, of which the second
starts with zero where the first has an undefined fraction, give the same answers, except where an
operand is handed back as it is or its profile is asked for. What one step keeps is that the
registers differ in this way only; the invariant makes no use of lowest terms.
-/

namespace LowestTerms.Session

open Fraction (Equal Replaced undefined)

structure Variant where
  first : Fraction
  second : Fraction
  replaced : Replaced first second

theorem Variant.replaced_map (xs : List Variant) :
    List.Forall₂ Replaced (xs.map first) (xs.map second) := by
  rw [List.forall₂_map_left_iff, List.forall₂_map_right_iff, List.forall₂_same]
  intro x _
  exact x.replaced

/-! What may differ in an answer, and for which operations. -/

/-- All is the same but for fractions, which are related, and for what `isUndefined` says. -/
inductive Result.Agrees (related : Fraction → Fraction → Prop) : Result → Result → Prop
  | fraction {x y : Fraction} : related x y → Agrees related (.fraction x) (.fraction y)
  | fractions {xs ys : List Fraction} :
      List.Forall₂ related xs ys → Agrees related (.fractions xs) (.fractions ys)
  | comparison {found : Comparison} {larger smaller : Fraction} :
      related found.larger larger → related found.smaller smaller →
        Agrees related (.comparison found)
          (.comparison { found with larger := larger, smaller := smaller })
  | profile (found : Profile) (isUndefined : Bool) :
      Agrees related (.profile found) (.profile { found with isUndefined := isUndefined })

inductive Answer.Agrees (exempt : Prop) (related : Fraction → Fraction → Prop) :
    Answer → Answer → Prop
  | same (answer : Answer) : Agrees exempt related answer answer
  | exempted {found other : Result} :
      exempt → found.Agrees related other → Agrees exempt related (.result found) (.result other)

theorem Answer.agrees_of_eq {exempt : Prop} {related : Fraction → Fraction → Prop}
    {answer other : Answer} (equal : answer = other) : answer.Agrees exempt related other :=
  equal ▸ .same answer

theorem Result.Agrees.mono {related weaker : Fraction → Fraction → Prop}
    (implies : ∀ x y, related x y → weaker x y) {found other : Result}
    (agrees : found.Agrees related other) : found.Agrees weaker other := by
  cases agrees with
  | fraction equal => exact .fraction (implies _ _ equal)
  | fractions equal => exact .fractions (equal.imp implies)
  | comparison equalLarger equalSmaller =>
      exact .comparison (implies _ _ equalLarger) (implies _ _ equalSmaller)
  | profile found isUndefined => exact .profile found isUndefined

theorem Answer.Agrees.mono {exempt allowed : Prop} (allows : exempt → allowed)
    {related weaker : Fraction → Fraction → Prop} (implies : ∀ x y, related x y → weaker x y)
    {answer other : Answer} (agrees : answer.Agrees exempt related other) :
    answer.Agrees allowed weaker other := by
  cases agrees with
  | same => exact .same answer
  | exempted isExempt agree => exact .exempted (allows isExempt) (agree.mono implies)

theorem Answer.Agrees.explain {exempt : Prop} {related : Fraction → Fraction → Prop}
    {answer other : Answer} (agrees : answer.Agrees exempt related other) :
    answer.explain.Agrees exempt related other.explain := by
  cases agrees with
  | same => exact .same answer.explain
  | exempted allowed agree => exact .exempted allowed agree

theorem Answer.Agrees.fraction? {exempt : Prop} {answer other : Answer}
    (agrees : answer.Agrees exempt Replaced other) :
    Option.Rel Replaced answer.fraction? other.fraction? := by
  have reflexive : ∀ found : Option Fraction, Option.Rel Replaced found found := by
    intro found
    cases found with
    | none => exact .none
    | some x => exact .some (.same x)
  cases agrees with
  | same => exact reflexive answer.fraction?
  | exempted _ agree =>
      cases agree with
      | fraction equal => exact .some equal
      | fractions _ => exact .none
      | comparison _ _ => exact .none
      | profile _ _ => exact .none

def Operation.TellsUndefined {α : Type} : Operation α → Prop
  | query .profile _ => True
  | operation => operation.HandsBack

theorem Arithmetic.apply_replaced (which : Arithmetic) (x y : Variant) :
    which.apply x.first y.first = which.apply x.second y.second := by
  cases which with
  | add => exact congrArg Except.ok (x.replaced.add y.replaced)
  | subtract => exact congrArg Except.ok (x.replaced.sub y.replaced)
  | multiply => exact congrArg Except.ok (x.replaced.mul y.replaced)
  | divide => exact congrArg (Except.mapError Abort.unhandled) (x.replaced.divide y.replaced)

theorem Arithmetic.applyInt_replaced (which : Arithmetic) (side : Side) (x : Variant) (n : Int) :
    which.applyInt side x.first n = which.applyInt side x.second n := by
  apply x.replaced.congr (f := fun x => which.applyInt side x n)
  cases which <;> cases side <;> rfl

theorem Unary.apply_replaced {which : Unary} (computes : which ≠ .copy) (x : Variant) :
    which.apply x.first = which.apply x.second := by
  apply x.replaced.congr
  cases which with
  | copy => exact (computes rfl).elim
  | _ => rfl

theorem Query.apply_replaced {which : Query} (hidden : which ≠ .profile) (x : Variant) :
    which.apply x.first = which.apply x.second := by
  have double := x.replaced.toDouble
  cases which with
  | profile => exact (hidden rfl).elim
  | double => simp only [Query.apply, double]
  | single => simp only [Query.apply, double]
  | _ => exact x.replaced.congr rfl

theorem Profile.ofFraction_replaced (x : Variant) :
    Profile.ofFraction x.second =
      { Profile.ofFraction x.first with isUndefined := x.second.isUndefined } := by
  obtain ⟨first, second, replaced⟩ := x
  cases replaced with
  | same => rfl
  | zero => rfl

theorem Comparison.ofFractions_replaced (x y : Variant) :
    Comparison.ofFractions x.second y.second =
      { Comparison.ofFractions x.first y.first with
        larger := x.second.larger y.second, smaller := x.second.smaller y.second } := by
  have order := x.replaced.order y.replaced
  have equal : (x.first == y.first) = (x.second == y.second) :=
    x.replaced.congr₂ (f := fun x y => x == y) y.replaced (fun _ => rfl) (fun _ => rfl)
  have sameHash : (x.first.hashKey == y.first.hashKey) = (x.second.hashKey == y.second.hashKey) :=
    equal
  simp only [Comparison.ofFractions, Fraction.partialOrder, order, equal, sameHash]

theorem evaluate_agrees (operation : Operation Variant) :
    (evaluate (operation.map Variant.first)).Agrees operation.TellsUndefined Replaced
      (evaluate (operation.map Variant.second)) := by
  cases operation with
  | unary which x =>
      by_cases copies : which = .copy
      · subst copies
        exact .exempted trivial (.fraction x.replaced)
      · apply Answer.agrees_of_eq
        simp only [Operation.map, evaluate, Unary.apply_replaced copies x]
  | binary which x y =>
      apply Answer.agrees_of_eq
      simp only [Operation.map, evaluate, Arithmetic.apply_replaced which x y]
  | checkedDivide x y =>
      apply Answer.agrees_of_eq
      simp only [Operation.map, evaluate, x.replaced.divide y.replaced]
  | checkedDivideInt x n =>
      apply Answer.agrees_of_eq
      simp only [Operation.map, evaluate, x.replaced.divide (.same (Fraction.ofInt n))]
  | integer which side x n =>
      apply Answer.agrees_of_eq
      simp only [Operation.map, evaluate, Arithmetic.applyInt_replaced which side x n]
  | multiplyDecimal side x d =>
      have factor : Replaced (Fraction.ofDecimal d) (Fraction.ofDecimal d) := .same _
      apply Answer.agrees_of_eq
      cases side with
      | left =>
          simp only [Operation.map, evaluate, Fraction.decimalMul, factor.mul x.replaced]
      | right =>
          simp only [Operation.map, evaluate, Fraction.mulDecimal, x.replaced.mul factor]
  | power x exponent =>
      exact Answer.agrees_of_eq
        (x.replaced.congr (f := fun x => evaluate (.power x exponent)) rfl)
  | sum xs =>
      apply Answer.agrees_of_eq
      simp only [Operation.map, evaluate, Replaced.sum (Variant.replaced_map xs)]
  | product xs =>
      apply Answer.agrees_of_eq
      simp only [Operation.map, evaluate, Replaced.product (Variant.replaced_map xs)]
  | clamp x least greatest =>
      have clamped := x.replaced.clamp? least.replaced greatest.replaced
      simp only [Operation.map, evaluate]
      generalize x.first.clamp? least.first greatest.first = found at clamped ⊢
      generalize x.second.clamp? least.second greatest.second = other at clamped ⊢
      cases clamped with
      | none => exact .same _
      | some equal => exact .exempted trivial (.fraction equal)
  | query which x =>
      by_cases asks : which = .profile
      · subst asks
        simp only [Operation.map, evaluate, Query.apply, Profile.ofFraction_replaced x]
        exact .exempted trivial (.profile _ _)
      · apply Answer.agrees_of_eq
        simp only [Operation.map, evaluate, Query.apply_replaced asks x]
  | compare x y =>
      simp only [Operation.map, evaluate, Comparison.ofFractions_replaced x y]
      exact .exempted trivial
        (.comparison (x.replaced.larger y.replaced) (x.replaced.smaller y.replaced))
  | compareInt x n =>
      exact Answer.agrees_of_eq
        (x.replaced.congr (f := fun x => evaluate (.compareInt x n)) rfl)
  | sort xs =>
      exact .exempted trivial (.fractions (Replaced.sort (Variant.replaced_map xs)))
  | distinct xs =>
      have replaced := Variant.replaced_map xs
      have displayed := Replaced.map_congr (Replaced.distinct replaced)
        (f := Fraction.display) rfl
      apply Answer.agrees_of_eq
      simp only [Operation.map, evaluate, Replaced.hashedCount replaced, displayed]
  | _ => exact .same _

theorem Change.apply_replaced (x : Variant) (change : Change Variant) :
    (change.map Variant.first).apply x.first = (change.map Variant.second).apply x.second := by
  cases change with
  | combine which y =>
      simp only [Change.map, Change.apply, Arithmetic.apply_replaced which x y]
  | addInt n => exact x.replaced.congr (f := fun x => Change.apply x (.addInt n)) rfl
  | subtractInt n => exact x.replaced.congr (f := fun x => Change.apply x (.subtractInt n)) rfl
  | multiplyInt n => exact x.replaced.congr (f := fun x => Change.apply x (.multiplyInt n)) rfl
  | setZero | setOne => rfl

section Map

variable {α β γ : Type}

theorem Operation.map_map (inner : α → β) (outer : β → γ) (operation : Operation α) :
    (operation.map inner).map outer = operation.map (fun x => outer (inner x)) := by
  cases operation <;> simp [Operation.map]

theorem Operation.tellsUndefined_map (read : α → β) (operation : Operation α) :
    (operation.map read).TellsUndefined ↔ operation.TellsUndefined := by
  cases operation with
  | query which x => cases which <;> rfl
  | unary which x => cases which <;> rfl
  | _ => rfl

theorem Change.map_map (inner : α → β) (outer : β → γ) (change : Change α) :
    (change.map inner).map outer = change.map (fun x => outer (inner x)) := by
  cases change <;> rfl

end Map

def Registers.Replaced (first second : Registers) : Prop :=
  ∀ name, Option.Rel Fraction.Replaced (first name) (second name)

theorem Registers.replaced_refl (registers : Registers) : registers.Replaced registers := by
  intro name
  cases registers name with
  | none => exact .none
  | some x => exact .some (.same x)

theorem replaced_getD {held other : Option Fraction} (replaced : Option.Rel Replaced held other) :
    Replaced (held.getD undefined) (other.getD undefined) := by
  cases replaced with
  | none => exact .same undefined
  | some equal => exact equal

theorem replaced_isNone {held other : Option Fraction}
    (replaced : Option.Rel Replaced held other) : held.isNone = other.isNone := by
  cases replaced with
  | none => rfl
  | some _ => rfl

def Action.TellsUndefined : Action → Prop
  | compute operation => operation.TellsUndefined
  | assign _ _ => False

section

variable {first second : Registers} (replaced : first.Replaced second)

include replaced

theorem Registers.Replaced.set {x y : Fraction} (stored : Fraction.Replaced x y) (name : String) :
    (first.set name x).Replaced (second.set name y) := by
  intro other
  simp only [Registers.set]
  split
  · exact .some stored
  · exact replaced other

theorem Operand.read_replaced (operand : Operand) :
    Fraction.Replaced (operand.read first) (operand.read second) := by
  cases operand with
  | quotient dividend divisor => exact .same _
  | undefined => exact .same _
  | register name => exact replaced_getD (replaced name)

theorem Operand.missing?_replaced (operand : Operand) :
    operand.missing? first = operand.missing? second := by
  cases operand with
  | quotient dividend divisor => rfl
  | undefined => rfl
  | register name => rw [missing?, missing?, replaced_isNone (replaced name)]

theorem Action.perform_agrees (action : Action) :
    (action.perform first).1.Replaced (action.perform second).1 ∧
      (action.perform first).2.Agrees action.TellsUndefined Fraction.Replaced
        (action.perform second).2 := by
  let both (operand : Operand) : Variant :=
    ⟨operand.read first, operand.read second, operand.read_replaced replaced⟩
  cases action with
  | compute operation =>
      refine ⟨replaced, ?_⟩
      have agrees := evaluate_agrees (operation.map both)
      rw [Operation.map_map, Operation.map_map] at agrees
      exact agrees.mono (operation.tellsUndefined_map both).mp (fun _ _ equal => equal)
  | assign operand change =>
      have applied : (change.map (Operand.read first)).apply (operand.read first) =
          (change.map (Operand.read second)).apply (operand.read second) := by
        have versions := Change.apply_replaced (both operand) (change.map both)
        rw [Change.map_map, Change.map_map] at versions
        exact versions
      simp only [Action.perform, applied]
      cases operand with
      | register name => exact ⟨replaced.set (.same _) name, .same _⟩
      | _ => exact ⟨replaced, .same _⟩

theorem Action.run_agrees (action : Action) :
    (action.run first).1.Replaced (action.run second).1 ∧
      (action.run first).2.Agrees action.TellsUndefined Fraction.Replaced
        (action.run second).2 := by
  have missing : Operand.missing? first = Operand.missing? second :=
    funext (fun operand => operand.missing?_replaced replaced)
  simp only [Action.run, missing]
  split
  · exact ⟨replaced, .same _⟩
  · exact action.perform_agrees replaced

theorem Step.store_replaced (target : Option String) {answer other : Answer} {exempt : Prop}
    (agrees : answer.Agrees exempt Fraction.Replaced other) :
    (store first target answer).Replaced (store second target other) := by
  have stored := agrees.fraction?
  cases target with
  | none => exact replaced
  | some name =>
      simp only [store]
      generalize answer.fraction? = held at stored ⊢
      generalize other.fraction? = otherHeld at stored ⊢
      cases stored with
      | none => exact replaced
      | some equal => exact replaced.set equal name

theorem Step.run_agrees (step : Step) :
    (step.run first).1.Replaced (step.run second).1 ∧
      (step.run first).2.Agrees step.action.TellsUndefined Fraction.Replaced
        (step.run second).2 := by
  obtain ⟨changed, agrees⟩ := step.action.run_agrees replaced
  have shown : (step.run first).2.Agrees step.action.TellsUndefined Fraction.Replaced
      (step.run second).2 := by
    simp only [Step.run]
    split
    · exact agrees.explain
    · exact agrees
  exact ⟨Step.store_replaced changed step.destination? shown, shown⟩

end

inductive AnswersAgree (related : Fraction → Fraction → Prop) :
    List Step → List Answer → List Answer → Prop
  | nil : AnswersAgree related [] [] []
  | cons {step : Step} {steps : List Step} {answer other : Answer} {answers others : List Answer} :
      answer.Agrees step.action.TellsUndefined related other →
        AnswersAgree related steps answers others →
          AnswersAgree related (step :: steps) (answer :: answers) (other :: others)

theorem run_agrees {first second : Registers} (replaced : first.Replaced second)
    (steps : List Step) :
    (run first steps).1.Replaced (run second steps).1 ∧
      AnswersAgree Fraction.Replaced steps (run first steps).2 (run second steps).2 := by
  induction steps generalizing first second with
  | nil => exact ⟨replaced, .nil⟩
  | cons step rest ih =>
      obtain ⟨next, agrees⟩ := step.run_agrees replaced
      obtain ⟨last, laterAgree⟩ := ih next
      exact ⟨last, .cons agrees laterAgree⟩

theorem AnswersAgree.mono {related weaker : Fraction → Fraction → Prop}
    (implies : ∀ x y, related x y → weaker x y) {steps : List Step} {answers others : List Answer}
    (agree : AnswersAgree related steps answers others) :
    AnswersAgree weaker steps answers others := by
  induction agree with
  | nil => exact .nil
  | cons agrees _ ih => exact .cons (agrees.mono id implies) ih

/-- Zero in place of undefined operands changes no answer and no assigned fraction, except that an
operand handed back is only equal and that a profile tells. The same holds of every answer of a run
that starts with zero in place of undefined fractions, in one register or in several. -/
theorem undefined_reads_as_zero :
    (∀ operation : Operation Variant,
      (evaluate (operation.map Variant.first)).Agrees operation.TellsUndefined Equal
        (evaluate (operation.map Variant.second))) ∧
    (∀ (x : Variant) (change : Change Variant),
      (change.map Variant.first).apply x.first = (change.map Variant.second).apply x.second) ∧
    (∀ first second : Registers, first.Replaced second → ∀ steps,
      AnswersAgree Equal steps (run first steps).2 (run second steps).2) ∧
    ∀ (registers : Registers) (name : String) (steps : List Step),
      AnswersAgree Equal steps (run (registers.set name undefined) steps).2
        (run (registers.set name Fraction.zero) steps).2 := by
  have equal : ∀ x y : Fraction, Replaced x y → Equal x y := fun _ _ replaced => replaced.equal
  refine ⟨?_, Change.apply_replaced, ?_, ?_⟩
  · intro operation
    exact (evaluate_agrees operation).mono id equal
  · intro first second replaced steps
    exact (run_agrees replaced steps).2.mono equal
  · intro registers name steps
    have replaced := registers.replaced_refl.set .zero name
    exact (run_agrees replaced steps).2.mono equal

theorem undefined_reads_as_zero_in_quotient_and_copy :
    let first := Registers.empty.set "x" undefined
    let second := Registers.empty.set "x" Fraction.zero
    let quotient : Step :=
      ⟨.compute (.binary .divide (.quotient 1 2) (.register "x")), false, none⟩
    let copy : Step := ⟨.compute (.unary .copy (.register "x")), false, none⟩
    first.Replaced second ∧
      AnswersAgree Equal [quotient, copy] (run first [quotient, copy]).2
        (run second [quotient, copy]).2 ∧
      (run first [quotient, copy]).2 =
        [.aborted (.unhandled .divisionByZero), .result (.fraction undefined)] ∧
      (run second [quotient, copy]).2 =
        [.aborted (.unhandled .divisionByZero), .result (.fraction Fraction.zero)] := by
  intro first second quotient copy
  have replaced : first.Replaced second := Registers.empty.replaced_refl.set .zero "x"
  exact ⟨replaced, undefined_reads_as_zero.2.2.1 first second replaced [quotient, copy], rfl, rfl⟩

end LowestTerms.Session
