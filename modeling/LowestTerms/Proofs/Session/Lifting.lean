import LowestTerms.Proofs.Fraction.Integer
import LowestTerms.Session.Evaluate

/-!
Operations of a session on a fraction and an integer, on either side and in place. Each answers, and
each change leaves, what it would with the whole fraction of the integer; that includes the
divisions that are broken off.
-/

namespace LowestTerms.Session

open Fraction (ofInt)

theorem Arithmetic.applyInt_right (which : Arithmetic) {x : Fraction} (valid : x.Valid) (n : Int) :
    which.applyInt .right x n = which.apply x (ofInt n) := by
  cases which with
  | add => exact congrArg Except.ok (Fraction.addInt_eq_add valid n)
  | subtract => exact congrArg Except.ok (Fraction.subInt_eq_sub valid n)
  | multiply => exact congrArg Except.ok (Fraction.mulInt_eq_mul valid n)
  | divide => exact Fraction.divideInt_eq_divide valid n

theorem Arithmetic.applyInt_left (which : Arithmetic) {x : Fraction} (valid : x.Valid) (n : Int) :
    which.applyInt .left x n = which.apply (ofInt n) x := by
  have whole := Fraction.valid_ofInt n
  cases which with
  | add =>
      refine congrArg Except.ok ?_
      rw [Fraction.addInt_eq_add valid, Fraction.add_eq_ofRat valid whole,
        Fraction.add_eq_ofRat whole valid, add_comm]
  | subtract => exact congrArg Except.ok (Fraction.intSub_eq_sub valid n)
  | multiply =>
      refine congrArg Except.ok ?_
      rw [Fraction.mulInt_eq_mul valid, Fraction.mul_eq_ofRat valid whole,
        Fraction.mul_eq_ofRat whole valid, mul_comm]
  | divide => exact Fraction.intDivide_eq_divide valid n

structure LiftsInteger (x : Fraction) (n : Int) : Prop where
  right : ∀ which : Arithmetic, which.applyInt .right x n = which.apply x (ofInt n)
  left : ∀ which : Arithmetic, which.applyInt .left x n = which.apply (ofInt n) x
  right_answer : ∀ which,
    evaluate (.integer which .right x n) = evaluate (.binary which x (ofInt n))
  left_answer : ∀ which, evaluate (.integer which .left x n) = evaluate (.binary which (ofInt n) x)
  checkedDivide : evaluate (.checkedDivideInt x n) = evaluate (.checkedDivide x (ofInt n))
  addAssign : Change.apply x (.addInt n) = Change.apply x (.combine .add (ofInt n))
  subtractAssign : Change.apply x (.subtractInt n) = Change.apply x (.combine .subtract (ofInt n))
  multiplyAssign : Change.apply x (.multiplyInt n) = Change.apply x (.combine .multiply (ofInt n))
  incrementBy : x.addInt n = x + ofInt n
  decrementBy : x.subInt n = x - ofInt n
  equal : x.equalsInt n = (x == ofInt n)
  equal_reversed : x.equalsInt n = (ofInt n == x)
  order : x.orderInt n = x.order (ofInt n)
  order_reversed : Fraction.intOrder n x = (ofInt n).order x
  orders_opposite : Fraction.intOrder n x = (x.orderInt n).swap

theorem integer_operations_lift {x : Fraction} (valid : x.Valid) (n : Int) : LiftsInteger x n := by
  have right := fun which : Arithmetic => which.applyInt_right valid n
  have left := fun which : Arithmetic => which.applyInt_left valid n
  constructor
  case right => exact right
  case left => exact left
  case right_answer => exact fun which => congrArg Answer.ofAbortable (right which)
  case left_answer => exact fun which => congrArg Answer.ofAbortable (left which)
  case checkedDivide => rfl
  case addAssign => exact congrArg Change.apply.replace (Fraction.addInt_eq_add valid n)
  case subtractAssign => exact congrArg Change.apply.replace (Fraction.subInt_eq_sub valid n)
  case multiplyAssign => exact congrArg Change.apply.replace (Fraction.mulInt_eq_mul valid n)
  case incrementBy => exact Fraction.addInt_eq_add valid n
  case decrementBy => exact Fraction.subInt_eq_sub valid n
  case equal => exact Fraction.equalsInt_eq_beq x n
  case equal_reversed => rw [Fraction.equalsInt_eq_beq, Fraction.beq_swap]
  case order => exact Fraction.orderInt_eq_order valid n
  case order_reversed => exact Fraction.intOrder_eq_order valid n
  case orders_opposite => rfl

theorem integer_operations_lift_least_and_zero :
    (⟨3, 4⟩ : Fraction).Valid ∧ Fraction.undefined.Valid ∧
      LiftsInteger ⟨3, 4⟩ (-2 ^ 63) ∧ LiftsInteger Fraction.undefined 0 := by
  have threeQuarters : (⟨3, 4⟩ : Fraction).Valid := Or.inl ⟨by decide, by decide⟩
  have isUndefined : Fraction.undefined.Valid := Or.inr rfl
  exact ⟨threeQuarters, isUndefined, integer_operations_lift threeQuarters _,
    integer_operations_lift isUndefined 0⟩

end LowestTerms.Session
