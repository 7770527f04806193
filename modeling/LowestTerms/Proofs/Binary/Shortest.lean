import Mathlib.Algebra.Order.Floor.Semifield
import Mathlib.Data.Rat.Floor
import LowestTerms.Binary.Shortest
import LowestTerms.Proofs.Binary.Nearest

/-!
What the search for the shortest decimal finds. The numbers that are rounded to one magnitude have
no gaps, so if neither grid point around a magnitude is rounded back to it, no point of the grid is.
-/

namespace LowestTerms.Binary.Shortest

def value (shortest : Shortest) : Rat := shortest.coefficient * 10 ^ shortest.exponent

theorem powerOfTen_quotient (exponent : Int) :
    ((powerOfTen exponent).1 : Rat) / (powerOfTen exponent).2 = 10 ^ exponent := by
  have quotient := power_quotient (by decide : 0 < 10) exponent
  exact_mod_cast quotient

theorem quotient_pos (shortest : Shortest) : 0 < shortest.quotient.2 :=
  Nat.pow_pos (by decide)

theorem quotient_value (shortest : Shortest) :
    (shortest.quotient.1 : Rat) / shortest.quotient.2 = shortest.value := by
  simp only [quotient, value, Nat.cast_mul, mul_div_assoc, powerOfTen_quotient]

section

variable {format : Format} (twoBits : 2 ≤ format.precision) {index : Nat}

include twoBits

theorem readsBack_iff (shortest : Shortest) :
    readsBack format index shortest = true ↔ format.IsNearest shortest.value index := by
  rw [readsBack, beq_iff_eq, Format.nearest_eq_iff twoBits shortest.quotient_pos.ne',
    quotient_value]

theorem isNearest_between {shortest : Shortest} {smaller larger : Rat}
    (smallerNearest : format.IsNearest smaller index)
    (largerNearest : format.IsNearest larger index) (above : smaller ≤ shortest.value)
    (below : shortest.value ≤ larger) : format.IsNearest shortest.value index := by
  have nearest := Format.nearest_isNearest twoBits shortest.quotient.1 shortest.quotient_pos.ne'
  rw [quotient_value] at nearest
  rwa [← smallerNearest.of_between largerNearest nearest above below]

end

def Misses (format : Format) (index : Nat) (exponent : Int) : Prop :=
  ∀ coefficient : Nat, ¬format.IsNearest (value ⟨coefficient, exponent⟩) index

theorem value_mono {coefficient other : Nat} (atMost : coefficient ≤ other) (exponent : Int) :
    value ⟨coefficient, exponent⟩ ≤ value ⟨other, exponent⟩ := by
  have cast : (coefficient : Rat) ≤ other := by exact_mod_cast atMost
  exact mul_le_mul_of_nonneg_right cast (by positivity)

theorem mem_neighbours_iff {tie : Tie} {dividend divisor : Nat} {exponent : Int}
    {shortest : Shortest} :
    shortest ∈ neighbours tie dividend divisor exponent ↔
      shortest = ⟨⌊(dividend / divisor : Rat) / 10 ^ exponent⌋₊, exponent⟩ ∨
        shortest = ⟨⌊(dividend / divisor : Rat) / 10 ^ exponent⌋₊ + 1, exponent⟩ := by
  have below : dividend * (powerOfTen exponent).2 / (divisor * (powerOfTen exponent).1) =
      ⌊(dividend / divisor : Rat) / 10 ^ exponent⌋₊ := by
    rw [← Nat.floor_div_eq_div (K := Rat), ← powerOfTen_quotient, div_div_div_eq]
    push_cast
    rfl
  simp only [neighbours, below]
  split
  · simp
  · simp [or_comm]

theorem find?_neighbours_eq_none {tie : Tie} {format : Format} {index : Nat} {exponent : Int}
    (twoBits : 2 ≤ format.precision) (allowed : index ≤ format.infinity)
    (missed : (neighbours tie (format.magnitude index).1 (format.magnitude index).2 exponent).find?
      (readsBack format index) = none) : Misses format index exponent := by
  intro coefficient nearest
  have unit : (0 : Rat) < 10 ^ exponent := by positivity
  have magnitudeNearest := Format.isNearest_number allowed
  have quotientNonneg : 0 ≤ format.number index / 10 ^ exponent :=
    div_nonneg (format.number_nonneg index) unit.le
  have neither : ∀ point, point = ⌊format.number index / 10 ^ exponent⌋₊ ∨
      point = ⌊format.number index / 10 ^ exponent⌋₊ + 1 →
        ¬format.IsNearest (value ⟨point, exponent⟩) index := by
    intro point isNeighbour pointNearest
    apply List.find?_eq_none.mp missed ⟨point, exponent⟩ _
      ((readsBack_iff twoBits _).mpr pointNearest)
    rw [mem_neighbours_iff, format.magnitude_quotient]
    rcases isNeighbour with rfl | rfl
    · exact .inl rfl
    · exact .inr rfl
  -- From the point given to the magnitude there are no gaps, and a neighbour lies on the way.
  rcases le_or_gt coefficient ⌊format.number index / 10 ^ exponent⌋₊ with atMost | greater
  · have below := (le_div_iff₀ unit).mp (Nat.floor_le quotientNonneg)
    exact neither _ (.inl rfl)
      (isNearest_between twoBits nearest magnitudeNearest (value_mono atMost exponent) below)
  · have above := (div_lt_iff₀ unit).mp (Nat.lt_floor_add_one (format.number index / 10 ^ exponent))
    have aboveValue : format.number index ≤
        value ⟨⌊format.number index / 10 ^ exponent⌋₊ + 1, exponent⟩ := by
      rw [value]
      push_cast
      exact above.le
    exact neither _ (.inr rfl)
      (isNearest_between twoBits magnitudeNearest nearest aboveValue (value_mono greater exponent))

structure Found (format : Format) (index : Nat) (exponent : Int) (grids : Nat)
    (shortest : Shortest) : Prop where
  nearest : format.IsNearest shortest.value index
  fine : shortest.exponent ≤ exponent
  last : exponent < shortest.exponent + grids
  coarserMiss : ∀ coarser, shortest.exponent < coarser → coarser ≤ exponent →
    Misses format index coarser

section

variable {tie : Tie} {format : Format} (twoBits : 2 ≤ format.precision) {index : Nat}
  (allowed : index ≤ format.infinity)

include twoBits allowed

theorem found_of_search {exponent : Int} {grids : Nat} {shortest : Shortest}
    (found : search tie format index exponent grids = some shortest) :
    Found format index exponent grids shortest := by
  induction grids generalizing exponent with
  | zero => contradiction
  | succ grids ih =>
      simp only [search] at found
      split at found
      · rename_i first tried
        cases found
        have member := List.mem_of_find?_eq_some tried
        have onGrid : shortest.exponent = exponent := by
          rcases mem_neighbours_iff.mp member with rfl | rfl
          · rfl
          · rfl
        refine ⟨(readsBack_iff twoBits _).mp (List.find?_some tried), onGrid.le, by omega, ?_⟩
        intro coarser above atMost
        omega
      · rename_i missed
        obtain ⟨nearest, fine, last, coarserMiss⟩ := ih found
        refine ⟨nearest, by omega, by omega, ?_⟩
        intro coarser above atMost
        by_cases first : coarser = exponent
        · rw [first]
          exact find?_neighbours_eq_none twoBits allowed missed
        · exact coarserMiss coarser above (by omega)

theorem misses_of_search {exponent : Int} {grids : Nat}
    (missed : search tie format index exponent grids = none) :
    ∀ coarser, exponent - grids < coarser → coarser ≤ exponent → Misses format index coarser := by
  induction grids generalizing exponent with
  | zero =>
      intro coarser above atMost
      omega
  | succ grids ih =>
      simp only [search] at missed
      split at missed
      · contradiction
      · rename_i gridMissed
        intro coarser above atMost
        by_cases first : coarser = exponent
        · rw [first]
          exact find?_neighbours_eq_none twoBits allowed gridMissed
        · exact ih missed coarser (by omega) (by omega)

end

theorem value_exact (dividend places : Nat) :
    (exact dividend (2 ^ places)).value = dividend / (2 ^ places : Nat) := by
  have powers : 10 ^ places = 5 ^ places * 2 ^ places := Nat.mul_pow 5 2 places
  have onGrid : dividend * 10 ^ places / 2 ^ places = dividend * 5 ^ places := by
    rw [powers, ← Nat.mul_assoc, Nat.mul_div_cancel _ (Nat.two_pow_pos places)]
  have castPowers : (10 : Rat) ^ places = 5 ^ places * 2 ^ places := by exact_mod_cast powers
  simp only [exact, value, Nat.log2_two_pow, Nat.pow_eq, onGrid, zpow_neg, zpow_natCast]
  rw [castPowers]
  push_cast
  field_simp

structure IsShortest (format : Format) (index : Nat) (shortest : Shortest) : Prop where
  nearest : format.IsNearest shortest.value index
  last : -((format.magnitude index).2.log2 : Int) ≤ shortest.exponent
  coarserMiss : ∀ coarser, shortest.exponent < coarser → coarser ≤ 0 →
    Misses format index coarser

theorem ofIndex_isShortest (tie : Tie) {format : Format} (twoBits : 2 ≤ format.precision)
    {index : Nat} (allowed : index ≤ format.infinity) :
    IsShortest format index (ofIndex tie format index) := by
  simp only [ofIndex]
  split
  · rename_i shortest found
    obtain ⟨nearest, _, last, coarserMiss⟩ := found_of_search twoBits allowed found
    refine ⟨nearest, by omega, ?_⟩
    intro coarser above atMost
    exact coarserMiss coarser above (by omega)
  · rename_i missed
    have value := value_exact (format.magnitude index).1 (-(format.significand index).2).toNat
    have exactNearest := Format.isNearest_number allowed
    rw [← format.magnitude_quotient] at exactNearest
    refine ⟨?_, le_rfl, ?_⟩
    · exact value ▸ exactNearest
    · intro coarser above atMost
      refine misses_of_search twoBits allowed missed coarser ?_ (by omega)
      simp only [exact] at above
      omega

end LowestTerms.Binary.Shortest
