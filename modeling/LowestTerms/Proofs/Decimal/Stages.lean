import LowestTerms.Proofs.Decimal.Modes
import LowestTerms.Proofs.Decimal.Rounding

/-!
Rounding seen as a function of numbers. What a decimal is rounded to is the multiple of the last
digit kept that the mode prescribes for its value, whether the decimal is left as it is or its point
is moved; so decimals of one number are rounded to one number, in the order of the numbers. Digits
that are no longer there cannot be discarded again, and a mode that goes by direction reaches the
same number in one stage or in several.
-/

namespace LowestTerms.Decimal

open RoundingMode (directed)

theorem round_onGrid {library : Library} (exact : library.Exact) {d : Decimal} (valid : d.Valid)
    (digits : Nat) (mode : RoundingMode) :
    ∃ rounded, round library d digits mode = .ok rounded ∧ rounded.Valid ∧
      rounded.value = mode.onGrid digits d.value := by
  by_cases kept : d.scale ≤ digits
  · refine ⟨d, round_of_kept kept mode, valid, ?_⟩
    rw [RoundingMode.onGrid_of_whole (signed_mantissaAt kept).symm]
  · exact round_exact exact valid (not_le.mp kept) mode

/-- Rounding keeps the order of numbers and cannot tell the decimals of one number apart. -/
theorem round_monotone {library : Library} (exact : library.Exact) {a b : Decimal}
    (aValid : a.Valid) (bValid : b.Valid) (digits : Nat) (mode : RoundingMode) :
    ∃ first second, round library a digits mode = .ok first ∧
      round library b digits mode = .ok second ∧
      (a.value ≤ b.value → first.value ≤ second.value) ∧
      (a.value = b.value → first.value = second.value) := by
  obtain ⟨first, firstFound, _, firstValue⟩ := round_onGrid exact aValid digits mode
  obtain ⟨second, secondFound, _, secondValue⟩ := round_onGrid exact bValid digits mode
  refine ⟨first, second, firstFound, secondFound, ?_, ?_⟩
  · intro atMost
    rw [firstValue, secondValue]
    exact RoundingMode.onGrid_mono atMost
  · intro same
    rw [firstValue, secondValue, same]

theorem round_monotone_two_forms :
    ∃ first second, round .standard ⟨true, 120, 2⟩ 1 .halfOdd = .ok first ∧
      round .standard ⟨true, 12, 1⟩ 1 .halfOdd = .ok second ∧ first.value = second.value := by
  -- One of the two is left as it is, the other one has a zero to discard.
  have same : (⟨true, 120, 2⟩ : Decimal).value = (⟨true, 12, 1⟩ : Decimal).value := by
    decide +kernel
  obtain ⟨first, second, firstFound, secondFound, _, equal⟩ :=
    round_monotone standard_exact (a := ⟨true, 120, 2⟩) (b := ⟨true, 12, 1⟩) (by decide)
      (by decide) 1 .halfOdd
  exact ⟨first, second, firstFound, secondFound, equal same⟩

/-- What has been rounded stays as it is at the same digits or more, under every mode; and the modes
that go by direction never round twice. -/
theorem round_in_stages {library : Library} (exact : library.Exact) {d : Decimal}
    (valid : d.Valid) (digits : Nat) (mode : RoundingMode) :
    ∃ rounded, round library d digits mode = .ok rounded ∧
      (∀ (second : RoundingMode) (more : Nat), digits ≤ more →
        ∃ again, round library rounded more second = .ok again ∧ again.value = rounded.value) ∧
      (mode ∈ directed → ∀ fewer ≤ digits,
        ∃ staged direct, round library rounded fewer mode = .ok staged ∧
          round library d fewer mode = .ok direct ∧ staged.value = direct.value) := by
  obtain ⟨rounded, found, roundedValid, value⟩ := round_onGrid exact valid digits mode
  refine ⟨rounded, found, ?_, ?_⟩
  · intro second more enough
    obtain ⟨again, againFound, _, againValue⟩ := round_onGrid exact roundedValid more second
    refine ⟨again, againFound, ?_⟩
    rw [againValue, value, RoundingMode.onGrid_onGrid_of_le second d.value enough]
  · intro isDirected fewer within
    obtain ⟨staged, stagedFound, _, stagedValue⟩ := round_onGrid exact roundedValid fewer mode
    obtain ⟨direct, directFound, _, directValue⟩ := round_onGrid exact valid fewer mode
    refine ⟨staged, direct, stagedFound, directFound, ?_⟩
    rw [stagedValue, directValue, value,
      RoundingMode.onGrid_onGrid_of_directed isDirected d.value within]

theorem round_in_stages_up_to_zero :
    ∃ rounded staged direct, round .standard ⟨true, 149, 3⟩ 1 .ceiling = .ok rounded ∧
      round .standard rounded 0 .ceiling = .ok staged ∧
      round .standard ⟨true, 149, 3⟩ 0 .ceiling = .ok direct ∧ staged.value = direct.value ∧
      ∃ again, round .standard rounded 2 .halfEven = .ok again ∧
        again.value = rounded.value := by
  obtain ⟨rounded, found, repeated, stages⟩ :=
    round_in_stages standard_exact (d := ⟨true, 149, 3⟩) (by decide) 1 .ceiling
  obtain ⟨staged, direct, stagedFound, directFound, same⟩ := stages (by decide) 0 (by decide)
  exact ⟨rounded, staged, direct, found, stagedFound, directFound, same,
    repeated .halfEven 2 (by decide)⟩

end LowestTerms.Decimal
