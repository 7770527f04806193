import LowestTerms.Proofs.Fraction.Closure
import LowestTerms.Session.Run

/-!
What every run of a session keeps: a register holds a fraction in lowest terms or the undefined one,
and so does every answer. The undefined fraction is answered only by what makes it or by what hands
it back.
-/

namespace LowestTerms.Session

open Fraction (Canonical Valid undefined)

def Result.shown : Result → List Fraction
  | fraction x => [x]
  | quotientAndRemainder quotient remainder => [quotient, remainder]
  | comparison found => [found.larger, found.smaller]
  | fractions xs => xs
  | _ => []

def Answer.shown : Answer → List Fraction
  | result found => found.shown
  | _ => []

def Source.IsDefault (source : Source) : Prop := source = .constant .undefined

namespace Operation

variable {α : Type}

def IsDefault : Operation α → Prop
  | create source => source.IsDefault
  | createIfFinite source => source.IsDefault
  | _ => False

def HandsBack : Operation α → Prop
  | unary .copy _ => True
  | compare _ _ => True
  | clamp _ _ _ => True
  | sort _ => True
  | _ => False

end Operation

@[simp] theorem mem_shown_fraction {x y : Fraction} :
    x ∈ (Answer.result (.fraction y)).shown ↔ x = y :=
  List.mem_singleton

theorem mem_shown_ofExcept_map {computed : Except Failure Fraction} {x : Fraction}
    (answered : x ∈ (Answer.ofExcept (computed.map .fraction)).shown) :
    computed = .ok x := by
  cases computed with
  | ok found => rw [mem_shown_fraction.mp answered]
  | error failure => cases answered

theorem mem_shown_ofAbortable {computed : Except Abort Fraction} {x : Fraction}
    (answered : x ∈ (Answer.ofAbortable computed).shown) : computed = .ok x := by
  cases computed with
  | ok found => rw [mem_shown_fraction.mp answered]
  | error abort => cases answered

theorem shown_ofExcept_map {β : Type} (computed : Except Failure β) (wrap : β → Result)
    (none : ∀ found, (wrap found).shown = []) :
    (Answer.ofExcept (computed.map wrap)).shown = [] := by
  cases computed with
  | ok found => exact none found
  | error failure => rfl

theorem shown_ofInterruptible_map {β : Type} (computed : Except Interruption β)
    (wrap : β → Result) (none : ∀ found, (wrap found).shown = []) :
    (Answer.ofInterruptible (computed.map wrap)).shown = [] := by
  cases computed with
  | ok found => exact none found
  | error interruption => cases interruption <;> rfl

theorem shown_ofDocument_map {β : Type} (computed : Except DocumentError β)
    (wrap : β → Result) (none : ∀ found, (wrap found).shown = []) :
    (Answer.ofDocument (computed.map wrap)).shown = [] := by
  cases computed with
  | ok found => exact none found
  | error error => rfl

/-! What each kind of operation answers. -/

theorem Constant.canonical_value {which : Constant} (defined : which ≠ .undefined) :
    which.value.Canonical := by
  cases which with
  | pi => exact Fraction.canonical_reduce (by decide)
  | euler => exact Fraction.canonical_reduce (by decide)
  | zero => exact Fraction.canonical_zero
  | one => exact Fraction.canonical_one
  | undefined => exact (defined rfl).elim

theorem Source.canonical_fraction {source : Source} {x : Fraction}
    (made : source.fraction = .ok x) : x.Canonical ∨ source.IsDefault ∧ x = undefined := by
  cases source with
  | parts dividend divisor => exact .inl (Fraction.canonical_ofParts made)
  | partsOrZero dividend divisor =>
      cases made
      exact .inl (Fraction.canonical_ofPartsOrZero dividend divisor)
  | integer value =>
      cases made
      exact .inl (Fraction.canonical_ofInt value)
  | texts dividend divisor => exact .inl (Fraction.canonical_readParts made)
  | literal written => exact .inl (Fraction.canonical_readLiteral made)
  | text written => exact .inl (Fraction.canonical_read made)
  | decimal value =>
      cases made
      exact .inl (Fraction.canonical_ofDecimal value)
  | binary format value => exact .inl (Fraction.canonical_ofBinary made)
  | constant which =>
      cases made
      by_cases isUndefined : which = .undefined
      · subst which
        exact .inr ⟨rfl, rfl⟩
      · exact .inl (Constant.canonical_value isUndefined)

theorem Unary.canonical_apply {which : Unary} {x y : Fraction} (valid : x.Valid)
    (computed : which.apply x = .ok y) : y.Canonical ∨ which = .copy ∧ y = x := by
  cases which with
  | copy =>
      cases computed
      exact .inr ⟨rfl, rfl⟩
  | negate =>
      cases computed
      exact .inl (Fraction.canonical_neg valid)
  | absolute =>
      cases computed
      exact .inl (Fraction.canonical_abs valid)
  | invert => exact .inl (Fraction.canonical_invert valid computed)
  | increment =>
      cases computed
      exact .inl (Fraction.canonical_addInt valid 1)
  | decrement =>
      cases computed
      exact .inl (Fraction.canonical_subInt valid 1)
  | floor =>
      cases computed
      exact .inl (Fraction.canonical_ofInt _)
  | ceil =>
      cases computed
      exact .inl (Fraction.canonical_ofInt _)

theorem Arithmetic.canonical_apply {which : Arithmetic} {x y z : Fraction} (left : x.Valid)
    (right : y.Valid) (computed : which.apply x y = .ok z) : z.Canonical := by
  cases which with
  | add =>
      cases computed
      exact Fraction.canonical_add left right
  | subtract =>
      cases computed
      exact Fraction.canonical_sub left right
  | multiply =>
      cases computed
      exact Fraction.canonical_mul left right
  | divide => exact Fraction.canonical_divideOrAbort left right computed

theorem Arithmetic.canonical_applyInt {which : Arithmetic} {side : Side} {x y : Fraction} {n : Int}
    (valid : x.Valid) (computed : which.applyInt side x n = .ok y) : y.Canonical := by
  cases which with
  | add =>
      cases computed
      exact Fraction.canonical_addInt valid n
  | subtract =>
      cases side with
      | left =>
          cases computed
          exact Fraction.canonical_intSub valid n
      | right =>
          cases computed
          exact Fraction.canonical_subInt valid n
  | multiply =>
      cases computed
      exact Fraction.canonical_mulInt valid n
  | divide =>
      cases side with
      | left => exact Fraction.canonical_intDivide valid n computed
      | right => exact Fraction.canonical_divideInt valid n computed

theorem Query.canonical_apply {which : Query} {x y : Fraction} (valid : x.Valid)
    (answered : y ∈ (which.apply x).shown) : y.Canonical := by
  cases which with
  | quotientAndRemainder =>
      simp only [Query.apply, Answer.shown, Result.shown, List.mem_cons,
        List.not_mem_nil, or_false] at answered
      rcases answered with rfl | rfl
      · exact Fraction.canonical_ofInt _
      · exact Fraction.canonical_remainder valid
  | floorInt | ceilInt | decimal =>
      simp only [Query.apply] at answered
      rw [shown_ofExcept_map _ _ (fun _ => rfl)] at answered
      cases answered
  | roundedDouble digits =>
      simp only [Query.apply] at answered
      rw [shown_ofInterruptible_map _ _ (fun _ => rfl)] at answered
      cases answered
  | integer type =>
      simp only [Query.apply] at answered
      split at answered <;> cases answered
  | profile | double | single | document => cases answered

def Operation.MayShow (operation : Operation Fraction) (x : Fraction) : Prop :=
  x.Canonical ∨ (operation.HandsBack ∧ x ∈ operation.operands) ∨
    (operation.IsDefault ∧ x = undefined)

theorem evaluate_shows {operation : Operation Fraction} {x : Fraction}
    (valid : ∀ y ∈ operation.operands, y.Valid) (answered : x ∈ (evaluate operation).shown) :
    operation.MayShow x := by
  cases operation with
  | create source =>
      rcases Source.canonical_fraction (mem_shown_ofExcept_map answered) with canonical | default
      · exact .inl canonical
      · exact .inr (.inr default)
  | createIfFinite source =>
      simp only [evaluate] at answered
      split at answered
      · rename_i made
        rw [mem_shown_fraction.mp answered]
        rcases Source.canonical_fraction made with canonical | default
        · exact .inl canonical
        · exact .inr (.inr default)
      · cases answered
  | readDocument document =>
      cases found : document.toFraction with
      | ok y =>
          simp only [evaluate, found, Except.map, Answer.ofDocument, mem_shown_fraction] at answered
          exact .inl (answered ▸ Fraction.canonical_toFraction found)
      | error error =>
          simp only [evaluate, found, Except.map, Answer.ofDocument] at answered
          cases answered
  | unary which y =>
      rcases Unary.canonical_apply (valid y (by simp [Operation.operands]))
        (mem_shown_ofExcept_map answered) with canonical | ⟨rfl, rfl⟩
      · exact .inl canonical
      · exact .inr (.inl ⟨trivial, by simp [Operation.operands]⟩)
  | binary which y z =>
      exact .inl (Arithmetic.canonical_apply (valid y (by simp [Operation.operands]))
        (valid z (by simp [Operation.operands])) (mem_shown_ofAbortable answered))
  | checkedDivide y z =>
      exact .inl (Fraction.canonical_divide (valid y (by simp [Operation.operands]))
        (valid z (by simp [Operation.operands])) (mem_shown_ofExcept_map answered))
  | checkedDivideInt y n =>
      exact .inl (Fraction.canonical_divide (valid y (by simp [Operation.operands]))
        (.inl (Fraction.canonical_ofInt n)) (mem_shown_ofExcept_map answered))
  | integer which side y n =>
      exact .inl (Arithmetic.canonical_applyInt (valid y (by simp [Operation.operands]))
        (mem_shown_ofAbortable answered))
  | multiplyDecimal side y d =>
      have operand := valid y (by simp [Operation.operands])
      have factor : (Fraction.ofDecimal d).Valid := .inl (Fraction.canonical_ofDecimal d)
      cases side with
      | left =>
          rw [mem_shown_fraction.mp answered]
          exact .inl (Fraction.canonical_mul factor operand)
      | right =>
          rw [mem_shown_fraction.mp answered]
          exact .inl (Fraction.canonical_mul operand factor)
  | power y exponent =>
      exact .inl (Fraction.canonical_pow (valid y (by simp [Operation.operands]))
        (mem_shown_ofExcept_map answered))
  | sum ys =>
      rw [mem_shown_fraction.mp answered]
      exact .inl (Fraction.canonical_sum valid)
  | product ys =>
      rw [mem_shown_fraction.mp answered]
      exact .inl (Fraction.canonical_product valid)
  | clamp y least greatest =>
      simp only [evaluate] at answered
      split at answered
      · rename_i found
        rw [mem_shown_fraction.mp answered]
        exact .inr (.inl ⟨trivial, Fraction.clamp?_mem found⟩)
      · cases answered
  | query which y =>
      exact .inl (Query.canonical_apply (valid y (by simp [Operation.operands])) answered)
  | compare y z =>
      refine .inr (.inl ⟨trivial, ?_⟩)
      simp only [evaluate, Answer.shown, Result.shown, Comparison.ofFractions, List.mem_cons,
        List.not_mem_nil, or_false] at answered
      rcases answered with rfl | rfl
      · rcases y.larger_eq z with same | same <;> simp [same, Operation.operands]
      · rcases y.smaller_eq z with same | same <;> simp [same, Operation.operands]
  | sort ys => exact .inr (.inl ⟨trivial, Fraction.mem_sort.mp answered⟩)
  | literalSize _ | modeOfTag _ | modeOfName _ | writeMode _ =>
      simp only [evaluate] at answered
      rw [shown_ofExcept_map _ _ (fun _ => rfl)] at answered
      cases answered
  | round _ _ _ | roundVerbatim _ _ _ | roundAll _ _ =>
      simp only [evaluate] at answered
      rw [shown_ofInterruptible_map _ _ (fun _ => rfl)] at answered
      cases answered
  | readMode document =>
      simp only [evaluate] at answered
      rw [shown_ofDocument_map _ _ (fun _ => rfl)] at answered
      cases answered
  | compareInt _ _ | distinct _ | modes | describe _ => cases answered

section Map

variable {α β : Type} (read : α → β)

theorem Operation.operands_map (operation : Operation α) :
    (operation.map read).operands = operation.operands.map read := by
  cases operation <;> rfl

theorem Operation.handsBack_map (operation : Operation α) :
    (operation.map read).HandsBack ↔ operation.HandsBack := by
  cases operation with
  | unary which x => cases which <;> rfl
  | _ => rfl

theorem Operation.isDefault_map (operation : Operation α) :
    (operation.map read).IsDefault ↔ operation.IsDefault := by
  cases operation <;> rfl

theorem Change.operands_map (change : Change α) :
    (change.map read).operands = change.operands.map read := by
  cases change <;> rfl

end Map

def Registers.Valid (registers : Registers) : Prop :=
  ∀ name x, registers name = some x → x.Valid

theorem Registers.empty_valid : Registers.empty.Valid := by
  intro name x held
  cases held

theorem Registers.Valid.set {registers : Registers} {name : String} {x : Fraction}
    (valid : registers.Valid) (stored : x.Valid) : (registers.set name x).Valid := by
  intro other y held
  simp only [Registers.set] at held
  split at held
  · cases held
    exact stored
  · exact valid other y held

theorem Operand.read_valid {registers : Registers} (valid : registers.Valid)
    (operand : Operand) : (operand.read registers).Valid := by
  cases operand with
  | quotient dividend divisor => exact .inl (Fraction.canonical_ofPartsOrZero dividend divisor)
  | undefined => exact .inr rfl
  | register name =>
      simp only [Operand.read]
      cases held : registers name with
      | none => exact .inr rfl
      | some x => exact valid name x held

theorem Change.apply_valid {x : Fraction} {change : Change Fraction} (valid : x.Valid)
    (operands : ∀ y ∈ change.operands, y.Valid) :
    (change.apply x).1.Valid ∧ ∀ y ∈ (change.apply x).2.shown, y.Canonical := by
  have replaced : ∀ y : Fraction, y.Canonical →
      (apply.replace y).1.Valid ∧ ∀ z ∈ (apply.replace y).2.shown, z.Canonical := by
    intro y canonical
    exact ⟨.inl canonical, fun z answered => mem_shown_fraction.mp answered ▸ canonical⟩
  cases change with
  | combine which y =>
      simp only [Change.apply]
      cases computed : which.apply x y with
      | ok combined =>
          have canonical := Arithmetic.canonical_apply valid
            (operands y (by simp [Change.operands])) computed
          exact ⟨.inl canonical, fun z answered => mem_shown_fraction.mp answered ▸ canonical⟩
      | error abort => exact ⟨.inr rfl, fun z answered => nomatch answered⟩
  | addInt n => exact replaced _ (Fraction.canonical_addInt valid n)
  | subtractInt n => exact replaced _ (Fraction.canonical_subInt valid n)
  | multiplyInt n => exact replaced _ (Fraction.canonical_mulInt valid n)
  | setZero => exact replaced _ Fraction.canonical_zero
  | setOne => exact replaced _ Fraction.canonical_one

def Action.IsDefault : Action → Prop
  | compute operation => operation.IsDefault
  | assign _ _ => False

def Action.HandsBack : Action → Prop
  | compute operation => operation.HandsBack
  | assign _ _ => False

def Action.MayShow (registers : Registers) (action : Action) (x : Fraction) : Prop :=
  x.Canonical ∨
    (action.HandsBack ∧ ∃ operand ∈ action.operands, operand.read registers = x) ∨
    (action.IsDefault ∧ x = undefined)

theorem Action.perform_valid {registers : Registers} (valid : registers.Valid) (action : Action) :
    (action.perform registers).1.Valid ∧
      ∀ x ∈ (action.perform registers).2.shown, action.MayShow registers x := by
  cases action with
  | compute operation =>
      refine ⟨valid, ?_⟩
      intro x answered
      have operandsValid : ∀ y ∈ (operation.map (Operand.read registers)).operands, y.Valid := by
        simp only [Operation.operands_map, List.mem_map]
        rintro y ⟨operand, _, rfl⟩
        exact operand.read_valid valid
      have shown := evaluate_shows operandsValid answered
      simp only [Operation.MayShow, Operation.handsBack_map, Operation.isDefault_map,
        Operation.operands_map, List.mem_map] at shown
      exact shown
  | assign operand change =>
      have operandsValid : ∀ y ∈ (change.map (Operand.read registers)).operands, y.Valid := by
        simp only [Change.operands_map, List.mem_map]
        rintro y ⟨other, _, rfl⟩
        exact other.read_valid valid
      have changed := Change.apply_valid (operand.read_valid valid) operandsValid
      cases operand with
      | register name => exact ⟨valid.set changed.1, fun x answered => .inl (changed.2 x answered)⟩
      | _ => exact ⟨valid, fun x answered => .inl (changed.2 x answered)⟩

theorem Action.run_valid {registers : Registers} (valid : registers.Valid) (action : Action) :
    (action.run registers).1.Valid ∧
      ∀ x ∈ (action.run registers).2.shown, action.MayShow registers x := by
  simp only [Action.run]
  split
  · exact ⟨valid, fun x answered => nomatch answered⟩
  · exact action.perform_valid valid

theorem Action.MayShow.valid {registers : Registers} {action : Action} {x : Fraction}
    (valid : registers.Valid) (shown : action.MayShow registers x) : x.Valid := by
  rcases shown with canonical | ⟨_, operand, _, rfl⟩ | ⟨_, rfl⟩
  · exact .inl canonical
  · exact operand.read_valid valid
  · exact .inr rfl

theorem Answer.shown_explain (answer : Answer) : answer.explain.shown = answer.shown := by
  cases answer <;> rfl

theorem Answer.fraction?_mem_shown {answer : Answer} {x : Fraction}
    (found : answer.fraction? = some x) : x ∈ answer.shown := by
  unfold Answer.fraction? at found
  split at found
  · cases found
    exact mem_shown_fraction.mpr rfl
  · cases found

theorem Step.run_valid {registers : Registers} (valid : registers.Valid) (step : Step) :
    (step.run registers).1.Valid ∧
      ∀ x ∈ (step.run registers).2.shown, step.action.MayShow registers x := by
  obtain ⟨changed, shown⟩ := step.action.run_valid valid
  have explained : ∀ x ∈ (step.run registers).2.shown, step.action.MayShow registers x := by
    simp only [Step.run]
    split
    · simpa only [Answer.shown_explain] using shown
    · exact shown
  refine ⟨?_, explained⟩
  change (store _ step.destination? (step.run registers).2).Valid
  unfold store
  split
  · rename_i name x _ found
    exact changed.set ((explained x (Answer.fraction?_mem_shown found)).valid valid)
  · exact changed

theorem run_valid {registers : Registers} (valid : registers.Valid) (steps : List Step) :
    (run registers steps).1.Valid ∧
      ∀ answer ∈ (run registers steps).2, ∀ x ∈ answer.shown, x.Valid := by
  induction steps generalizing registers with
  | nil => exact ⟨valid, fun answer member => nomatch member⟩
  | cons step rest ih =>
      obtain ⟨next, shown⟩ := step.run_valid valid
      obtain ⟨last, laterShown⟩ := ih next
      refine ⟨last, ?_⟩
      intro answer member x answered
      rcases List.mem_cons.mp member with rfl | later
      · exact (shown x answered).valid valid
      · exact laterShown answer later x answered

theorem run_append (registers : Registers) (before after : List Step) :
    run registers (before ++ after) =
      ((run (run registers before).1 after).1,
        (run registers before).2 ++ (run (run registers before).1 after).2) := by
  induction before generalizing registers with
  | nil => rfl
  | cons step rest ih => simp only [List.cons_append, run, ih]

theorem run_length (registers : Registers) (steps : List Step) :
    (run registers steps).2.length = steps.length := by
  induction steps generalizing registers with
  | nil => rfl
  | cons step rest ih => simp only [run, List.length_cons, ih]

def Occurs (outcome : Registers × List Answer) (x : Fraction) : Prop :=
  (∃ name, outcome.1 name = some x) ∨ ∃ answer ∈ outcome.2, x ∈ answer.shown

/-- Whatever the steps of a session, all its fractions are in lowest terms or undefined, and an
answer is undefined only if it is an operand handed back or newly made to be undefined. -/
theorem run_stores_lowest_terms (steps : List Step) :
    (∀ x, Occurs (run Registers.empty steps) x →
      x.Valid ∧ (x.num = 0 → x = Fraction.zero ∨ x = undefined)) ∧
    ∀ before step after, steps = before ++ step :: after →
      ∃ answer, (run Registers.empty steps).2[before.length]? = some answer ∧
        (undefined ∈ answer.shown →
          step.action.IsDefault ∨
            (step.action.HandsBack ∧ ∃ operand ∈ step.action.operands,
              operand.read (run Registers.empty before).1 = undefined)) := by
  constructor
  · intro x occurs
    obtain ⟨held, shown⟩ := run_valid Registers.empty_valid steps
    have valid : x.Valid := by
      rcases occurs with ⟨name, stored⟩ | ⟨answer, member, answered⟩
      · exact held name x stored
      · exact shown answer member x answered
    exact ⟨valid, valid.zero_stored⟩
  · rintro before step after rfl
    have position : (run Registers.empty before).2.length = before.length :=
      run_length Registers.empty before
    refine ⟨(step.run (run Registers.empty before).1).2, ?_, ?_⟩
    · rw [run_append, List.getElem?_append_right (by omega), position, Nat.sub_self]
      rfl
    · intro answered
      have valid := (run_valid Registers.empty_valid before).1
      rcases (step.run_valid valid).2 undefined answered with canonical | handsBack | default
      · exact absurd canonical.1 (by decide)
      · exact .inr handsBack
      · exact .inl default.1

theorem run_stores_lowest_terms_of_copy :
    let start : Step := ⟨.compute (.create (.constant .undefined)), false, some "x"⟩
    let copy : Step := ⟨.compute (.unary .copy (.register "x")), false, none⟩
    (run Registers.empty [start, copy]).2[1]? = some (.result (.fraction undefined)) ∧
      (copy.action.IsDefault ∨ (copy.action.HandsBack ∧ ∃ operand ∈ copy.action.operands,
        operand.read (run Registers.empty [start]).1 = undefined)) := by
  intro start copy
  have copied : (run Registers.empty [start, copy]).2[1]? =
      some (.result (.fraction undefined)) := rfl
  obtain ⟨answer, answered, reason⟩ :=
    (run_stores_lowest_terms [start, copy]).2 [start] copy [] rfl
  have same : answer = .result (.fraction undefined) :=
    Option.some.inj (answered.symm.trans copied)
  exact ⟨copied, reason (by rw [same, mem_shown_fraction])⟩

end LowestTerms.Session
