import Mathlib.Algebra.Order.Group.Unbundled.Int
import Mathlib.Algebra.Order.Ring.Int

/-! A number is recovered from its residue when it lies near a number that is known. -/

namespace VkVideoParser.LowBits

variable {m q high low prevHigh prevLow : Int}

/-- The multiple of `m` that brings `low` nearest to `prevHigh + prevLow`. -/
def highPart (m prevHigh prevLow low : Int) : Int :=
  if low < prevLow ∧ m / 2 ≤ prevLow - low then prevHigh + m
  else if prevLow < low ∧ m / 2 < low - prevLow then prevHigh - m
  else prevHigh

lemma dvd_highPart (h : m ∣ prevHigh) : m ∣ highPart m prevHigh prevLow low := by
  unfold highPart
  split
  · exact Int.dvd_add h (Int.dvd_refl m)
  · split
    · exact Int.dvd_sub h (Int.dvd_refl m)
    · exact h

/-- The residue goes where it is at most half of `m` away, also from a `prevLow` that is out of range by less than that. -/
lemma highPart_near (hm : 2 ∣ m) (hlow : 0 ≤ low ∧ low < m) (hprev : -(m / 2) ≤ prevLow ∧ prevLow < m + m / 2) :
    prevHigh + prevLow - m / 2 < highPart m prevHigh prevLow low + low ∧
      highPart m prevHigh prevLow low + low ≤ prevHigh + prevLow + m / 2 := by
  unfold highPart
  split
  · omega
  · split <;> omega

-- two numbers of one residue that lie in a range no longer than the modulus
lemma eq_of_near {a b : Int} (hm : 2 ∣ m) (h : m ∣ a - b) (ha : q - m / 2 < a ∧ a ≤ q + m / 2)
    (hb : q - m / 2 < b ∧ b ≤ q + m / 2) : a = b := by
  have := Int.eq_zero_of_abs_lt_dvd h (abs_lt.mpr (by omega))
  omega

lemma highPart_add (hm : 2 ∣ m) (hpos : 0 < m) (hhigh : m ∣ prevHigh)
    (hprev : -(m / 2) ≤ prevLow ∧ prevLow < m + m / 2) (hlow : low = q % m)
    (hq : prevHigh + prevLow - m / 2 < q ∧ q ≤ prevHigh + prevLow + m / 2) :
    highPart m prevHigh prevLow low + low = q := by
  have hrange : 0 ≤ low ∧ low < m := hlow ▸ ⟨Int.emod_nonneg q hpos.ne', Int.emod_lt_of_pos q hpos⟩
  refine eq_of_near hm ?_ (highPart_near hm hrange hprev) hq
  have hsplit : highPart m prevHigh prevLow low + low - q = highPart m prevHigh prevLow low - m * (q / m) := by
    have := Int.emod_add_mul_ediv q m
    omega
  rw [hsplit]
  exact Int.dvd_sub (dvd_highPart hhigh) (Int.dvd_mul_right m _)

end VkVideoParser.LowBits
