import Mathlib.Data.List.Forall2
import LowestTerms.Fraction.Decimal
import LowestTerms.Fraction.Order
import LowestTerms.Fraction.Text

/-!
Zero in place of an undefined fraction. A function of fractions cannot tell the two apart if it
answers the same for both, one operand at a time; all that read a fraction through its parts do, and
what returns an operand as it is does so only after it has seen that the operand is not zero. What
chooses one of its operands chooses the same one.
-/

namespace LowestTerms.Fraction

inductive Replaced : Fraction → Fraction → Prop
  | same (x : Fraction) : Replaced x x
  | zero : Replaced undefined zero

def Equal (x y : Fraction) : Prop := (x == y) = true

namespace Replaced

theorem equal {x y : Fraction} (replaced : Replaced x y) : Equal x y := by
  cases replaced with
  | same =>
      change (x.parts == x.parts) = true
      exact beq_self_eq_true x.parts
  | zero => rfl

section

variable {β : Type} {x y z w : Fraction} (first : Replaced x y) (second : Replaced z w)

include first

theorem congr {f : Fraction → β} (reads : f undefined = f Fraction.zero) : f x = f y := by
  cases first with
  | same => rfl
  | zero => exact reads

include second

theorem congr₂ {f : Fraction → Fraction → β} (left : ∀ z, f undefined z = f Fraction.zero z)
    (right : ∀ x, f x undefined = f x Fraction.zero) : f x z = f y w := by
  calc
    f x z = f y z := first.congr (f := fun x => f x z) (left z)
    _ = f y w := second.congr (right y)

theorem order : x.order z = y.order w :=
  first.congr₂ second (fun _ => rfl) (fun _ => rfl)

theorem atMost : x.atMost z = y.atMost w := by
  rw [Fraction.atMost, Fraction.atMost, first.order second]

theorem add : x + z = y + w :=
  first.congr₂ second (fun _ => rfl) (fun _ => rfl)

theorem sub : x - z = y - w :=
  first.congr₂ second (fun _ => rfl) (fun _ => rfl)

theorem mul : x * z = y * w := by
  have someZero : ∀ x y : Fraction, (x.isZero || y.isZero) = true → x * y = Fraction.zero := by
    intro x y isZero
    exact if_pos isZero
  apply first.congr₂ second (fun _ => rfl)
  intro x
  rw [someZero x undefined (Bool.or_true _), someZero x Fraction.zero (Bool.or_true _)]

theorem divide : x.divide z = y.divide w :=
  first.congr₂ second (fun _ => rfl) (fun _ => rfl)

theorem larger : Replaced (x.larger z) (y.larger w) := by
  rw [Fraction.larger, Fraction.larger, first.order second]
  split
  · exact first
  · exact second

theorem smaller : Replaced (x.smaller z) (y.smaller w) := by
  rw [Fraction.smaller, Fraction.smaller, first.order second]
  split
  · exact second
  · exact first

theorem clamp? {u v : Fraction} (third : Replaced u v) :
    Option.Rel Replaced (x.clamp? z u) (y.clamp? w v) := by
  rw [Fraction.clamp?, Fraction.clamp?, second.atMost third, first.order second,
    first.order third]
  split
  · exact .none
  · split
    · exact .some second
    · split
      · exact .some third
      · exact .some first

end

theorem toDouble {x y : Fraction} (replaced : Replaced x y) : x.toDouble = y.toDouble := by
  have whole : ∀ x : Fraction, x.denominator = 1 →
      x.toDouble = .ofInt Binary.double x.numerator := fun _ isWhole => if_pos isWhole
  apply replaced.congr
  rw [whole undefined rfl, whole Fraction.zero rfl]
  rfl

section Lists

variable {xs ys : List Fraction} (replaced : List.Forall₂ Replaced xs ys)

include replaced

theorem map_congr {β : Type} {f : Fraction → β} (reads : f undefined = f Fraction.zero) :
    xs.map f = ys.map f := by
  induction replaced with
  | nil => rfl
  | cons first _ ih => rw [List.map_cons, List.map_cons, first.congr reads, ih]

theorem foldl_congr {β : Type} {f : β → Fraction → β}
    (reads : ∀ total, f total undefined = f total Fraction.zero) (start : β) :
    xs.foldl f start = ys.foldl f start := by
  induction replaced generalizing start with
  | nil => rfl
  | cons first _ ih => rw [List.foldl_cons, List.foldl_cons, first.congr (reads start), ih]

theorem sum : Fraction.sum xs = Fraction.sum ys :=
  foldl_congr replaced (fun _ => rfl) _

theorem product : Fraction.product xs = Fraction.product ys :=
  foldl_congr replaced (fun total => (same total).mul zero) _

theorem hashedCount : Fraction.hashedCount xs = Fraction.hashedCount ys := by
  rw [Fraction.hashedCount, Fraction.hashedCount, map_congr replaced rfl]

theorem insertDistinct {x y : Fraction} (inserted : Replaced x y) :
    List.Forall₂ Replaced (Fraction.insertDistinct x xs) (Fraction.insertDistinct y ys) := by
  induction replaced with
  | nil => exact .cons inserted .nil
  | cons first rest ih =>
      rw [Fraction.insertDistinct, Fraction.insertDistinct, inserted.order first]
      split
      · exact .cons inserted (.cons first rest)
      · exact .cons first rest
      · exact .cons first ih

theorem foldl_insertDistinct {members others : List Fraction}
    (sofar : List.Forall₂ Replaced members others) :
    List.Forall₂ Replaced (xs.foldl (fun members x => Fraction.insertDistinct x members) members)
      (ys.foldl (fun members x => Fraction.insertDistinct x members) others) := by
  induction replaced generalizing members others with
  | nil => exact sofar
  | cons first _ ih => exact ih (insertDistinct sofar first)

theorem distinct : List.Forall₂ Replaced (Fraction.distinct xs) (Fraction.distinct ys) :=
  foldl_insertDistinct replaced .nil

theorem sort : List.Forall₂ Replaced (Fraction.sort xs) (Fraction.sort ys) := by
  obtain ⟨sameLength, paired⟩ := List.forall₂_iff_zip.mp replaced
  let firstAtMost (p q : Fraction × Fraction) : Bool := Fraction.atMost p.1 q.1
  have firsts : Fraction.sort xs = ((xs.zip ys).mergeSort firstAtMost).map Prod.fst := by
    have sameTest : ∀ p ∈ xs.zip ys, ∀ q ∈ xs.zip ys,
        firstAtMost p q = Fraction.atMost p.1 q.1 := fun _ _ _ _ => rfl
    rw [List.map_mergeSort sameTest, List.map_fst_zip (Nat.le_of_eq sameLength)]
    rfl
  have seconds : Fraction.sort ys = ((xs.zip ys).mergeSort firstAtMost).map Prod.snd := by
    have sameTest : ∀ p ∈ xs.zip ys, ∀ q ∈ xs.zip ys,
        firstAtMost p q = Fraction.atMost p.2 q.2 :=
      fun p isPair q isOther => (paired isPair).atMost (paired isOther)
    rw [List.map_mergeSort sameTest, List.map_snd_zip (Nat.le_of_eq sameLength.symm)]
    rfl
  rw [firsts, seconds, List.forall₂_map_left_iff, List.forall₂_map_right_iff, List.forall₂_same]
  intro p member
  exact paired (List.mem_mergeSort.mp member)

end Lists

end Replaced

end LowestTerms.Fraction
