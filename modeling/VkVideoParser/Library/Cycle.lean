import Mathlib.Algebra.Order.Ring.Int
import Mathlib.Data.List.Basic
import VkVideoParser.Library.Loops

/-! A list that is filled by going round another one, until it is long enough. -/

namespace VkVideoParser.Rounds

open Loops

variable {α : Type} {base t u : List α} {piece : List α → List α} {n fuel : Nat}

/-- The first `n` elements go round `base`, and a list that is shorter ends with a whole round. -/
def Cycles (base : List α) (n : Nat) (t : List α) : Prop :=
  (∀ i < n, i < t.length → t[i]? = base[i % base.length]?) ∧ (t.length < n → base.length ∣ t.length)

/-- A round, of which nothing is missing as long as the list is not long enough. -/
def Round (base : List α) (n : Nat) (t p : List α) : Prop :=
  (∀ j < p.length, t.length + j < n → p[j]? = base[j]?) ∧ (t.length + p.length < n → p.length = base.length)

lemma Cycles.round {p : List α} (h : Cycles base n t) (ht : t.length < n) (hp : Round base n t p) : Cycles base n (t ++ p) := by
  refine ⟨fun i hi hlen => ?_, fun hlen => ?_⟩
  · rcases Nat.lt_or_ge i t.length with hit | hit
    · rw [List.getElem?_append_left hit, h.1 i hi hit]
    · obtain ⟨j, rfl⟩ := Nat.exists_eq_add_of_le hit
      rw [List.length_append] at hlen
      have hj : j < p.length := by omega
      have hpj := hp.1 j hj hi
      rw [List.getElem?_append_right hit, Nat.add_sub_cancel_left, hpj]
      have hbase : j < base.length := by
        rw [List.getElem?_eq_getElem hj] at hpj
        exact (List.getElem?_eq_some_iff.mp hpj.symm).1
      obtain ⟨k, hk⟩ := h.2 ht
      rw [hk, Nat.mul_add_mod, Nat.mod_eq_of_lt hbase]
  · rw [List.length_append] at hlen ⊢
    exact Nat.dvd_add (h.2 ht) (hp.2 hlen ▸ Nat.dvd_refl _)

/-- The loop returns a list that is long enough and goes round. -/
lemma fill_cycles (hround : ∀ t : List α, t.length < n → piece t ≠ [] ∧ Round base n t (piece t)) (hfuel : n < fuel) :
    ∃ u, whileLoop (fun t : List α => decide (t.length < n)) (fun t => some (t ++ piece t)) fuel [] = some u ∧
      n ≤ u.length ∧ ∀ i < n, u[i]? = base[i % base.length]? := by
  have hstart : Cycles base n ([] : List α) := ⟨fun _ _ h => absurd h (Nat.not_lt_zero _), fun _ => Nat.dvd_zero _⟩
  have hturn : ∀ t : List α, True → decide (t.length < n) → ∃ u, some (t ++ piece t) = some u ∧ True ∧
      n - u.length < n - t.length := fun t _ ht => by
    have ht := of_decide_eq_true ht
    have := List.length_pos_iff.mpr (hround t ht).1
    refine ⟨_, rfl, trivial, ?_⟩
    rw [List.length_append]
    omega
  obtain ⟨u, hu⟩ := whileLoop_returns (fun t : List α => n - t.length) hturn trivial (s := []) (Nat.lt_of_le_of_lt (Nat.sub_le ..) hfuel)
  obtain ⟨hcycles, hend⟩ := whileLoop_keeps (fun t v ht hc hv => by
    have hlt := of_decide_eq_true hc
    exact Option.some.inj hv ▸ ht.round hlt (hround t hlt).2) hu hstart
  have hlong := not_lt.mp (of_decide_eq_false hend)
  exact ⟨u, hu, hlong, fun i hi => hcycles.1 i hi (hi.trans_le hlong)⟩

end VkVideoParser.Rounds
