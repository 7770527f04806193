import Mathlib.Data.Rat.Floor
import LowestTerms.Fraction.Whole
import LowestTerms.Proofs.Fraction.Integer

/-!
Floor and ceiling. Both are those of the value, so they bracket it, one unit apart unless it is
whole, and are each other's mirror images. Whether they fit 64 bits is decided after rounding: next
to either end of the range one of the two still fits, the other one no longer.
-/

namespace LowestTerms

theorem IntegerType.long_contains_iff (n : Int) :
    long.contains n = true ↔ -2 ^ 63 ≤ n ∧ n ≤ 2 ^ 63 - 1 := by
  simp [contains, long, least, greatest]

namespace Fraction

theorem ofInt_add (m n : Int) : ofInt m + ofInt n = ofInt (m + n) := by
  rw [add_eq_ofRat (valid_ofInt m) (valid_ofInt n), value_ofInt, value_ofInt, ofInt_eq_ofRat,
    Int.cast_add]

theorem ofInt_sub (m n : Int) : ofInt m - ofInt n = ofInt (m - n) := by
  rw [sub_eq_ofRat (valid_ofInt m) (valid_ofInt n), value_ofInt, value_ofInt, ofInt_eq_ofRat,
    Int.cast_sub]

theorem neg_ofInt (n : Int) : -ofInt n = ofInt (-n) :=
  rfl

theorem ofInt_inj {m n : Int} : ofInt m = ofInt n ↔ m = n := by
  simp [ofInt]

section

variable {x : Fraction} (valid : x.Valid)

include valid

theorem Valid.floorInteger_eq : x.floorInteger = ⌊x.value⌋ := by
  rw [floorInteger, valid.numerator_eq, valid.denominator_eq,
    Int.fdiv_eq_ediv_of_nonneg _ (Int.natCast_nonneg _), Rat.floor_def']

theorem Valid.ceilInteger_eq : x.ceilInteger = ⌈x.value⌉ := by
  have mirrored := valid.neg.floorInteger_eq
  have numerator : (-x).numerator = -x.numerator := rfl
  rw [floorInteger, numerator, valid.neg.denominator_eq, valid.value_neg, Rat.den_neg_eq_den,
    ← valid.denominator_eq, Int.floor_neg] at mirrored
  rw [ceilInteger, mirrored, neg_neg]

theorem Valid.floor_eq : x.floor = ofInt ⌊x.value⌋ := by
  rw [floor, valid.floorInteger_eq]

theorem Valid.ceil_eq : x.ceil = ofInt ⌈x.value⌉ := by
  rw [ceil, valid.ceilInteger_eq]

theorem Valid.isWhole_iff : x.isWhole = true ↔ x.value ∈ Set.range (Int.cast : Int → Rat) := by
  rw [isWhole, beq_iff_eq, valid.denominator_eq]
  constructor
  · intro unit
    exact ⟨x.value.num, Rat.coe_int_num_of_den_eq_one (by exact_mod_cast unit)⟩
  · rintro ⟨whole, same⟩
    rw [← same]
    rfl

theorem Valid.ceil_sub_floor : x.ceil - x.floor = if x.isWhole then zero else one := by
  rw [valid.ceil_eq, valid.floor_eq, ofInt_sub]
  split
  · rename_i whole
    obtain ⟨integer, same⟩ := valid.isWhole_iff.mp whole
    rw [← same, Int.ceil_intCast, Int.floor_intCast, sub_self]
    rfl
  · rename_i notWhole
    have next : ⌈x.value⌉ = ⌊x.value⌋ + 1 :=
      (Int.ceil_eq_floor_add_one_iff_notMem _).mpr (mt valid.isWhole_iff.mpr notWhole)
    rw [next, add_sub_cancel_left]
    rfl

theorem Valid.floor_ceil_between {n next : Int} (adjacent : next = n + 1)
    (above : (ofInt n).order x = .lt) (below : x.order (ofInt next) = .lt) :
    x.floor = ofInt n ∧ x.ceil = ofInt next := by
  rw [order_lt_iff (valid_ofInt _) valid, value_ofInt] at above
  rw [order_lt_iff valid (valid_ofInt _), value_ofInt] at below
  rw [valid.floor_eq, valid.ceil_eq, ofInt_inj, ofInt_inj, Int.floor_eq_iff, Int.ceil_eq_iff]
  subst adjacent
  push_cast at below ⊢
  rw [add_sub_cancel_right]
  exact ⟨⟨above.le, below⟩, above, below.le⟩

end

structure HandedOut (rounded : Fraction) (failure : Failure) (result : Except Failure Int) :
    Prop where
  ok_iff : ∀ n, result = .ok n ↔ rounded = ofInt n ∧ -2 ^ 63 ≤ n ∧ n ≤ 2 ^ 63 - 1
  error_iff : result = .error failure ↔
    ∀ n, rounded = ofInt n → ¬(-2 ^ 63 ≤ n ∧ n ≤ 2 ^ 63 - 1)

theorem handedOut_ofInt (n : Int) (failure : Failure) :
    HandedOut (ofInt n) failure
      (if IntegerType.long.contains n then .ok n else .error failure) := by
  by_cases fits : IntegerType.long.contains n
  · rw [if_pos fits]
    have inRange := (IntegerType.long_contains_iff n).mp fits
    constructor
    case ok_iff =>
      intro other
      rw [Except.ok.injEq, ofInt_inj]
      exact ⟨fun same => ⟨same, same ▸ inRange⟩, And.left⟩
    case error_iff => exact ⟨nofun, fun outside => absurd inRange (outside n rfl)⟩
  · rw [if_neg fits]
    have notInRange := mt (IntegerType.long_contains_iff n).mpr fits
    constructor
    case ok_iff =>
      intro other
      refine ⟨nofun, ?_⟩
      rintro ⟨same, inRange⟩
      exact absurd (ofInt_inj.mp same ▸ inRange) notInRange
    case error_iff =>
      refine ⟨fun _ other same => ?_, fun _ => rfl⟩
      exact ofInt_inj.mp same ▸ notInRange

structure Bracketed (x : Fraction) : Prop where
  floor_whole : x.floor.isWhole = true
  floor_atMost : x.floor.atMost x = true
  below_next_floor : x.order (x.floor + one) = .lt
  ceil_whole : x.ceil.isWhole = true
  previous_ceil_below : (x.ceil - one).order x = .lt
  atMost_ceil : x.atMost x.ceil = true
  ceil_mirrors_floor : x.ceil = -(-x).floor
  ceil_sub_floor : x.ceil - x.floor = if x.isWhole then zero else one
  floorInt_handedOut : HandedOut x.floor (.overflow .floor) x.floorInt
  ceilInt_handedOut : HandedOut x.ceil (.overflow .ceiling) x.ceilInt

theorem Valid.bracketed {x : Fraction} (valid : x.Valid) : Bracketed x := by
  constructor
  case floor_whole => rfl
  case floor_atMost =>
    rw [valid.floor_eq, atMost_iff (valid_ofInt _) valid, value_ofInt]
    exact Int.floor_le x.value
  case below_next_floor =>
    have next : x.floor + one = ofInt (⌊x.value⌋ + 1) := by
      rw [valid.floor_eq, ← ofInt_add]
      rfl
    rw [next, order_lt_iff valid (valid_ofInt _), value_ofInt, Int.cast_add, Int.cast_one]
    exact Int.lt_floor_add_one x.value
  case ceil_whole => rfl
  case previous_ceil_below =>
    have previous : x.ceil - one = ofInt (⌈x.value⌉ - 1) := by
      rw [valid.ceil_eq, ← ofInt_sub]
      rfl
    rw [previous, order_lt_iff (valid_ofInt _) valid, value_ofInt, Int.cast_sub, Int.cast_one,
      sub_lt_iff_lt_add]
    exact Int.ceil_lt_add_one x.value
  case atMost_ceil =>
    rw [valid.ceil_eq, atMost_iff valid (valid_ofInt _), value_ofInt]
    exact Int.le_ceil x.value
  case ceil_mirrors_floor =>
    rw [valid.ceil_eq, valid.neg.floor_eq, valid.value_neg, Int.floor_neg, neg_ofInt, neg_neg]
  case ceil_sub_floor => exact valid.ceil_sub_floor
  case floorInt_handedOut => exact handedOut_ofInt _ _
  case ceilInt_handedOut => exact handedOut_ofInt _ _

/-- Next to either end of the integers of 64 bits, only one of the two integers fits. -/
theorem floor_ceil_bracket {x : Fraction} (valid : x.Valid) :
    Bracketed x ∧
      ((ofInt (2 ^ 63 - 1)).order x = .lt → x.order (ofInt (2 ^ 63)) = .lt →
        x.floorInt = .ok (2 ^ 63 - 1) ∧ x.ceilInt = .error (.overflow .ceiling)) ∧
      ((ofInt (-2 ^ 63 - 1)).order x = .lt → x.order (ofInt (-2 ^ 63)) = .lt →
        x.floorInt = .error (.overflow .floor) ∧ x.ceilInt = .ok (-2 ^ 63)) := by
  have bracketed := valid.bracketed
  have ⟨floor_ok, floor_error⟩ := bracketed.floorInt_handedOut
  have ⟨ceil_ok, ceil_error⟩ := bracketed.ceilInt_handedOut
  refine ⟨bracketed, ?greatest, ?least⟩
  case greatest =>
    intro above below
    obtain ⟨floor, ceil⟩ := valid.floor_ceil_between (by norm_num) above below
    rw [floor_ok, ceil_error, floor, ceil]
    refine ⟨⟨rfl, by norm_num, le_rfl⟩, ?_⟩
    intro n same
    rw [← ofInt_inj.mp same]
    norm_num
  case least =>
    intro above below
    obtain ⟨floor, ceil⟩ := valid.floor_ceil_between (by norm_num) above below
    rw [floor_error, ceil_ok, floor, ceil]
    refine ⟨?_, rfl, le_rfl, by norm_num⟩
    intro n same
    rw [← ofInt_inj.mp same]
    norm_num

theorem floor_ceil_bracket_at_ends :
    (⟨2 ^ 64 - 1, 2⟩ : Fraction).floorInt = .ok (2 ^ 63 - 1) ∧
      (⟨2 ^ 64 - 1, 2⟩ : Fraction).ceilInt = .error (.overflow .ceiling) ∧
      (⟨-2 ^ 64 - 1, 2⟩ : Fraction).floorInt = .error (.overflow .floor) ∧
      (⟨-2 ^ 64 - 1, 2⟩ : Fraction).ceilInt = .ok (-2 ^ 63) ∧
      Bracketed ⟨-2 ^ 64 - 1, 2⟩ := by
  have belowGreatest : (⟨2 ^ 64 - 1, 2⟩ : Fraction).Valid := Or.inl ⟨by decide, by decide⟩
  have belowLeast : (⟨-2 ^ 64 - 1, 2⟩ : Fraction).Valid := Or.inl ⟨by decide, by decide⟩
  obtain ⟨_, greatest, _⟩ := floor_ceil_bracket belowGreatest
  obtain ⟨bracketed, _, least⟩ := floor_ceil_bracket belowLeast
  obtain ⟨floorFits, ceilOverflows⟩ := greatest (by decide) (by decide)
  obtain ⟨floorOverflows, ceilFits⟩ := least (by decide) (by decide)
  exact ⟨floorFits, ceilOverflows, floorOverflows, ceilFits, bracketed⟩

end Fraction

end LowestTerms
