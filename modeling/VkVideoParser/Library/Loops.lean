import Mathlib.Data.Nat.Basic
import Mathlib.Data.Option.Basic

/-! A loop with as many turns as there is fuel. Without a result it is not through, or a turn has failed. -/

namespace VkVideoParser.Loops

variable {σ : Type} {cond : σ → Bool} {step : σ → Option σ} {I : σ → Prop} {s t : σ} {fuel : Nat}

def whileLoop (cond : σ → Bool) (step : σ → Option σ) : Nat → σ → Option σ
  | 0, _ => none
  | fuel + 1, s => if cond s then (step s).bind (whileLoop cond step fuel) else some s

lemma whileLoop_keeps (hstep : ∀ s t, I s → cond s → step s = some t → I t) (h : whileLoop cond step fuel s = some t)
    (hs : I s) : I t ∧ cond t = false := by
  induction fuel generalizing s with
  | zero => cases h
  | succ fuel ih =>
    rw [whileLoop] at h
    split at h
    · rename_i hc
      obtain ⟨u, hu, ht⟩ := Option.bind_eq_some_iff.mp h
      exact ih ht (hstep s u hs hc hu)
    · rename_i hc
      obtain rfl := Option.some.inj h
      exact ⟨hs, Bool.eq_false_iff.mpr hc⟩

/-- A loop whose condition stays true has no result. -/
lemma whileLoop_forever (hcond : ∀ s, I s → cond s) (hstep : ∀ s t, I s → step s = some t → I t) (hs : I s) :
    whileLoop cond step fuel s = none := by
  cases h : whileLoop cond step fuel s with
  | none => rfl
  | some t =>
    obtain ⟨ht, hc⟩ := whileLoop_keeps (fun s t hs _ hst => hstep s t hs hst) h hs
    rw [hcond t ht] at hc
    cases hc

/-- A loop whose turns succeed and make a measure smaller has a result. -/
lemma whileLoop_returns (measure : σ → Nat)
    (hstep : ∀ s, I s → cond s → ∃ t, step s = some t ∧ I t ∧ measure t < measure s) (hs : I s)
    (hfuel : measure s < fuel) : ∃ t, whileLoop cond step fuel s = some t := by
  induction fuel generalizing s with
  | zero => exact absurd hfuel (Nat.not_lt_zero _)
  | succ fuel ih =>
    rw [whileLoop]
    split
    · rename_i hc
      obtain ⟨u, hu, hI, hlt⟩ := hstep s hs hc
      rw [hu]
      exact ih hI (by omega)
    · exact ⟨s, rfl⟩

end VkVideoParser.Loops
