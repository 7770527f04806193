import Mathlib.Data.Finset.Card
import Mathlib.Data.Finset.Image
import LowestTerms.Proofs.Fraction.Closure
import LowestTerms.Proofs.Fraction.Order
import LowestTerms.Proofs.Fraction.Text

/-!
Fractions in collections. Hashing and comparing see the same differences, those between rational
numbers, so they count as many distinct members as a list has values. Sorting a list moves its
members by their values alone, and undefined members stay among the zeros where they were.
-/

namespace LowestTerms.Fraction

theorem nodup_eraseDups {α : Type} [BEq α] [LawfulBEq α] : ∀ members : List α,
    members.eraseDups.Nodup
  | [] => by simp
  | first :: rest => by
      rw [List.eraseDups_cons, List.nodup_cons, List.mem_eraseDups]
      exact ⟨by simp, nodup_eraseDups (rest.filter fun other => !other == first)⟩
termination_by members => members.length
decreasing_by exact Nat.lt_succ_of_le (List.length_filter_le _ _)

theorem length_eraseDups {α : Type} [BEq α] [LawfulBEq α] [DecidableEq α] (members : List α) :
    members.eraseDups.length = members.toFinset.card := by
  rw [← List.toFinset_card_of_nodup (nodup_eraseDups members)]
  congr 1
  ext member
  rw [List.mem_toFinset, List.mem_toFinset, List.mem_eraseDups]

section

variable {xs : List Fraction} (valid : ∀ x ∈ xs, x.Valid)

include valid

theorem hashedCount_eq : hashedCount xs = (xs.map value).toFinset.card := by
  let key (number : Rat) : Int × Int := (number.num, number.den)
  have injective : Function.Injective key := by
    intro first second same
    obtain ⟨num, den⟩ := Prod.mk.inj same
    exact Rat.ext num (Int.ofNat_inj.mp den)
  have keys : xs.map hashKey = (xs.map value).map key := by
    rw [List.map_map]
    apply List.map_congr_left
    intro x member
    exact Prod.ext (valid x member).numerator_eq (valid x member).denominator_eq
  have image : ((xs.map value).map key).toFinset = (xs.map value).toFinset.image key := by
    ext pair
    rw [List.mem_toFinset, List.mem_map, Finset.mem_image]
    simp only [List.mem_toFinset]
  rw [hashedCount, length_eraseDups, keys, image, Finset.card_image_of_injective _ injective]

end

structure Enumerates (members : List Fraction) (numbers : List Rat) : Prop where
  valid : ∀ x ∈ members, x.Valid
  ascending : (members.map value).Pairwise (· < ·)
  complete (number : Rat) : number ∈ members.map value ↔ number ∈ numbers

section

variable {x : Fraction} (xValid : x.Valid)

include xValid

theorem insertDistinct_cons {y : Fraction} (yValid : y.Valid) (rest : List Fraction) :
    (x.value < y.value ∧ insertDistinct x (y :: rest) = x :: y :: rest) ∨
    (x.value = y.value ∧ insertDistinct x (y :: rest) = y :: rest) ∨
    (y.value < x.value ∧ insertDistinct x (y :: rest) = y :: insertDistinct x rest) := by
  rw [insertDistinct, order_eq_compare xValid yValid]
  rcases lt_trichotomy x.value y.value with less | same | greater
  · exact .inl ⟨less, by rw [compare_lt_iff_lt.mpr less]⟩
  · exact .inr (.inl ⟨same, by rw [compare_eq_iff_eq.mpr same]⟩)
  · exact .inr (.inr ⟨greater, by rw [compare_gt_iff_gt.mpr greater]⟩)

theorem valid_insertDistinct {members : List Fraction} (valid : ∀ y ∈ members, y.Valid) :
    ∀ y ∈ insertDistinct x members, y.Valid := by
  induction members with
  | nil => simpa [insertDistinct] using xValid
  | cons y rest ih =>
      obtain ⟨yValid, restValid⟩ := List.forall_mem_cons.mp valid
      rcases insertDistinct_cons xValid yValid rest with ⟨_, found⟩ | ⟨_, found⟩ | ⟨_, found⟩
      · rw [found]
        exact List.forall_mem_cons.mpr ⟨xValid, valid⟩
      · rw [found]
        exact valid
      · rw [found]
        exact List.forall_mem_cons.mpr ⟨yValid, ih restValid⟩

theorem values_insertDistinct {members : List Fraction} (valid : ∀ y ∈ members, y.Valid)
    (number : Rat) : number ∈ (insertDistinct x members).map value ↔
      number = x.value ∨ number ∈ members.map value := by
  induction members with
  | nil => simp [insertDistinct]
  | cons y rest ih =>
      obtain ⟨yValid, restValid⟩ := List.forall_mem_cons.mp valid
      rcases insertDistinct_cons xValid yValid rest with ⟨_, found⟩ | ⟨same, found⟩ | ⟨_, found⟩
      · rw [found, List.map_cons, List.mem_cons]
      · rw [found, same, List.map_cons, List.mem_cons, or_self_left]
      · rw [found, List.map_cons, List.map_cons, List.mem_cons, List.mem_cons, ih restValid,
          or_left_comm]

theorem ascending_insertDistinct {members : List Fraction} (valid : ∀ y ∈ members, y.Valid)
    (ascending : (members.map value).Pairwise (· < ·)) :
    ((insertDistinct x members).map value).Pairwise (· < ·) := by
  induction members with
  | nil => simp [insertDistinct]
  | cons y rest ih =>
      obtain ⟨yValid, restValid⟩ := List.forall_mem_cons.mp valid
      obtain ⟨least, restAscending⟩ := List.pairwise_cons.mp ascending
      rcases insertDistinct_cons xValid yValid rest with
        ⟨less, found⟩ | ⟨_, found⟩ | ⟨greater, found⟩
      · rw [found, List.map_cons, List.pairwise_cons]
        refine ⟨?_, ascending⟩
        intro number member
        rcases List.mem_cons.mp member with rfl | later
        · exact less
        · exact less.trans (least number later)
      · rw [found]
        exact ascending
      · rw [found, List.map_cons, List.pairwise_cons]
        refine ⟨?_, ih restValid restAscending⟩
        intro number member
        rcases (values_insertDistinct xValid restValid number).mp member with rfl | later
        · exact greater
        · exact least number later

theorem Enumerates.insertDistinct {members : List Fraction} {numbers : List Rat}
    (enumerates : Enumerates members numbers) :
    Enumerates (insertDistinct x members) (x.value :: numbers) where
  valid := valid_insertDistinct xValid enumerates.valid
  ascending := ascending_insertDistinct xValid enumerates.valid enumerates.ascending
  complete number := by
    rw [values_insertDistinct xValid enumerates.valid, enumerates.complete, List.mem_cons]

end

section

variable {xs : List Fraction} (valid : ∀ x ∈ xs, x.Valid)

include valid

theorem Enumerates.foldl {members : List Fraction} {numbers : List Rat}
    (enumerates : Enumerates members numbers) :
    Enumerates (xs.foldl (fun members x => Fraction.insertDistinct x members) members)
      ((xs.map value).reverse ++ numbers) := by
  induction xs generalizing members numbers with
  | nil => exact enumerates
  | cons x rest ih =>
      obtain ⟨xValid, restValid⟩ := List.forall_mem_cons.mp valid
      have continued := ih restValid (enumerates.insertDistinct xValid)
      rwa [List.map_cons, List.reverse_cons, List.append_assoc]

theorem enumerates_distinct : Enumerates (distinct xs) (xs.map value) := by
  have nothing : Enumerates [] [] := ⟨by simp, List.Pairwise.nil, by simp⟩
  have all := Enumerates.foldl valid nothing
  refine ⟨all.valid, all.ascending, ?_⟩
  intro number
  rw [distinct, all.complete, List.append_nil, List.mem_reverse]

end

theorem Enumerates.nodup {members : List Fraction} {numbers : List Rat}
    (enumerates : Enumerates members numbers) : (members.map value).Nodup :=
  enumerates.ascending.imp fun less => less.ne

theorem Enumerates.length_eq {members : List Fraction} {numbers : List Rat}
    (enumerates : Enumerates members numbers) : members.length = numbers.toFinset.card := by
  rw [← List.length_map value, ← List.toFinset_card_of_nodup enumerates.nodup]
  congr 1
  ext number
  rw [List.mem_toFinset, List.mem_toFinset, enumerates.complete]

theorem Enumerates.unique {members others : List Fraction} {numbers : List Rat}
    (first : Enumerates members numbers) (second : Enumerates others numbers) :
    members.map value = others.map value := by
  have sameMembers : (members.map value).Perm (others.map value) := by
    apply (List.perm_ext_iff_of_nodup first.nodup second.nodup).mpr
    intro number
    rw [first.complete, second.complete]
  exact sameMembers.eq_of_pairwise
    (fun _ _ _ _ less greater => absurd greater less.asymm) first.ascending second.ascending

theorem map_display {members : List Fraction} (valid : ∀ x ∈ members, x.Valid) :
    members.map display = (members.map value).map quotientText := by
  rw [List.map_map]
  exact List.map_congr_left (fun x member => (valid x member).display_eq)

def valueAtMost (x y : Fraction) : Bool := decide (x.value ≤ y.value)

theorem valueAtMost_trans (x y z : Fraction) (first : valueAtMost x y = true)
    (second : valueAtMost y z = true) : valueAtMost x z = true :=
  decide_eq_true (le_trans (of_decide_eq_true first) (of_decide_eq_true second))

theorem valueAtMost_total (x y : Fraction) : (valueAtMost x y || valueAtMost y x) = true := by
  simpa [valueAtMost] using le_total x.value y.value

section

variable {xs : List Fraction} (valid : ∀ x ∈ xs, x.Valid)

include valid

theorem sort_eq_mergeSort : sort xs = xs.mergeSort valueAtMost := by
  have sameTest : ∀ x ∈ xs, ∀ y ∈ xs, atMost x y = valueAtMost (id x) (id y) := by
    intro x xMember y yMember
    rw [Bool.eq_iff_iff, atMost_iff (valid x xMember) (valid y yMember)]
    exact decide_eq_true_iff.symm
  have sorted := List.map_mergeSort sameTest
  rwa [List.map_id, List.map_id] at sorted

theorem sort_ascending : ((sort xs).map value).Pairwise (· ≤ ·) := by
  rw [sort_eq_mergeSort valid, List.pairwise_map]
  exact (List.pairwise_mergeSort valueAtMost_trans valueAtMost_total xs).imp of_decide_eq_true

/-- Members of one value are in ascending order as they stand, so sorting leaves them so. -/
theorem sort_stable (number : Rat) :
    (sort xs).filter (fun x => x.value = number) = xs.filter (fun x => x.value = number) := by
  let alike (x : Fraction) : Bool := decide (x.value = number)
  change (sort xs).filter alike = xs.filter alike
  have inOrder : (xs.filter alike).Pairwise (fun x y => valueAtMost x y = true) := by
    apply List.pairwise_of_forall_mem_list
    intro x xMember y yMember
    have xValue : x.value = number := of_decide_eq_true (List.mem_filter.mp xMember).2
    have yValue : y.value = number := of_decide_eq_true (List.mem_filter.mp yMember).2
    exact decide_eq_true (xValue.trans yValue.symm).le
  have kept : (xs.filter alike).Sublist (xs.mergeSort valueAtMost) :=
    List.sublist_mergeSort valueAtMost_trans valueAtMost_total inOrder List.filter_sublist
  have within : (xs.filter alike).Sublist ((xs.mergeSort valueAtMost).filter alike) := by
    simpa using kept.filter alike
  have sameLength := ((List.mergeSort_perm xs valueAtMost).filter alike).length_eq
  rw [sort_eq_mergeSort valid]
  exact (within.eq_of_length sameLength.symm).symm

theorem sort_keeps_zeros : (sort xs).filter isZero = xs.filter isZero := by
  have zeros : ∀ {ys : List Fraction}, (∀ y ∈ ys, y.Valid) →
      ys.filter isZero = ys.filter (fun y => y.value = 0) := by
    intro ys ysValid
    apply List.filter_congr
    intro y member
    rw [Bool.eq_iff_iff, (ysValid y member).isZero_iff, decide_eq_true_iff]
  have sortedValid : ∀ x ∈ sort xs, x.Valid := fun x member => valid x (mem_sort.mp member)
  rw [zeros valid, zeros sortedValid, sort_stable valid]

end

/-- Hashing and comparing count the values of a list. Its distinct members are its values in
ascending order, whatever the order of the list, and sorting brings its members into the order of
their values, where those that are equal stay in the order in which they came, zeros and undefined
fractions among them. -/
theorem collections_see_values :
    (∀ xs : List Fraction, (∀ x ∈ xs, x.Valid) →
      hashedCount xs = (xs.map value).toFinset.card ∧
      (distinct xs).length = (xs.map value).toFinset.card ∧
      ((distinct xs).map value).Pairwise (· < ·) ∧
      (∀ number, number ∈ (distinct xs).map value ↔ number ∈ xs.map value)) ∧
    (∀ xs ys : List Fraction, (∀ x ∈ xs, x.Valid) → xs.Perm ys →
      (distinct xs).map value = (distinct ys).map value ∧
      (distinct xs).map display = (distinct ys).map display) ∧
    ∀ xs : List Fraction, (∀ x ∈ xs, x.Valid) →
      (sort xs).Perm xs ∧
      ((sort xs).map value).Pairwise (· ≤ ·) ∧
      (∀ number, (sort xs).filter (fun x => x.value = number) =
        xs.filter (fun x => x.value = number)) ∧
      (sort xs).filter isZero = xs.filter isZero := by
  refine ⟨?counts, ?permuted, ?sorted⟩
  case counts =>
    intro xs valid
    have enumerates := enumerates_distinct valid
    exact ⟨hashedCount_eq valid, enumerates.length_eq, enumerates.ascending, enumerates.complete⟩
  case permuted =>
    intro xs ys valid permuted
    have permutedValid : ∀ y ∈ ys, y.Valid := fun y member => valid y (permuted.mem_iff.mpr member)
    have first := enumerates_distinct valid
    have second := enumerates_distinct permutedValid
    have sameValues := first.unique ⟨second.valid, second.ascending, fun number => by
      rw [second.complete, (permuted.map value).mem_iff]⟩
    refine ⟨sameValues, ?_⟩
    rw [map_display first.valid, map_display second.valid, sameValues]
  case sorted =>
    intro xs valid
    exact ⟨List.mergeSort_perm xs atMost, sort_ascending valid, sort_stable valid,
      sort_keeps_zeros valid⟩

theorem collections_see_values_of_two_zeros :
    hashedCount [⟨1, 2⟩, undefined, ⟨-3, 1⟩, zero] = 3 ∧
      (distinct [⟨1, 2⟩, undefined, ⟨-3, 1⟩, zero]).length = 3 ∧
      (distinct [⟨1, 2⟩, undefined, ⟨-3, 1⟩, zero]).map display =
        (distinct [zero, ⟨-3, 1⟩, undefined, ⟨1, 2⟩]).map display ∧
      (sort [⟨1, 2⟩, undefined, ⟨-3, 1⟩, zero]).filter isZero = [undefined, zero] := by
  obtain ⟨counts, permuted, sorted⟩ := collections_see_values
  have valid : ∀ x ∈ [⟨1, 2⟩, undefined, ⟨-3, 1⟩, zero], x.Valid := by
    intro x member
    simp only [List.mem_cons, List.not_mem_nil, or_false] at member
    rcases member with rfl | rfl | rfl | rfl
    · exact .inl ⟨by decide, by decide⟩
    · exact .inr rfl
    · exact .inl ⟨by decide, by decide⟩
    · exact .inl ⟨by decide, by decide⟩
  obtain ⟨hashed, ordered, _⟩ := counts _ valid
  have three : ([⟨1, 2⟩, undefined, ⟨-3, 1⟩, zero].map value).toFinset.card = 3 := by
    decide +kernel
  refine ⟨hashed.trans three, ordered.trans three, ?_, ?_⟩
  · exact (permuted _ _ valid (List.reverse_perm _).symm).2
  · exact (sorted _ valid).2.2.2

end LowestTerms.Fraction
