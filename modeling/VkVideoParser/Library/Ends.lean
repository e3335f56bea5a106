import Mathlib.Order.Defs.Unbundled
import VkVideoParser.Library.Execution

/-! How a program ends from a state, by a fault or with a result. -/

namespace VkVideoParser.Execution

open Relation

variable {ε σ κ α β : Type}

/-- From `s` the program `m` returns with a result and a state of `Q`, or dies in a state of `I`. -/
def Ends (I : σ → Prop) (m : EStateM ε σ α) (s : σ) (Q : α → σ → Prop) : Prop :=
  match m s with
  | .ok a t => Q a t
  | .error _ t => I t

/-- Whenever `m` returns from `s`, it does with a result and a state of `Q`. -/
abbrev Returns (m : EStateM ε σ α) (s : σ) (Q : α → σ → Prop) : Prop := Ends (fun _ => True) m s Q

/-- Whatever happens, `m` ends in a state of `I` when it begins in one. -/
def Keeps (I : σ → Prop) (m : EStateM ε σ α) : Prop := ∀ s, I s → Ends I m s fun _ t => I t

/-- Whatever happens, the states that `m` begins and ends in are related by `R`. -/
def Respects (R : σ → σ → Prop) (m : EStateM ε σ α) : Prop := ∀ s, Ends (R s) m s fun _ t => R s t

/-- Whether the result `a` is returned, for runs that are evaluated. -/
def returned [DecidableEq α] (a : α) : EStateM.Result ε σ α → Bool
  | .ok b _ => decide (b = a)
  | .error _ _ => false

lemma exists_of_returned [DecidableEq α] {a : α} {r : EStateM.Result ε σ α} (h : returned a r) : ∃ t, r = .ok a t := by
  cases r with
  | ok b t => exact ⟨t, congrArg (EStateM.Result.ok · t) (of_decide_eq_true h)⟩
  | error e t => cases h

namespace Ends

variable {I : σ → Prop} {m m' : EStateM ε σ α} {f : α → EStateM ε σ β} {s t : σ} {Q Q' : α → σ → Prop} {R : β → σ → Prop}
  {a : α}

protected lemma imp {J : σ → Prop} (h : Ends I m s Q) (hi : ∀ t, I t → J t) (hq : ∀ a t, Q a t → Q' a t) :
    Ends J m s Q' := by
  unfold Ends at h ⊢
  cases hm : m s with
  | ok a t =>
    rw [hm] at h
    exact hq a t h
  | error e t =>
    rw [hm] at h
    exact hi t h

protected lemma mono (h : Ends I m s Q) (hq : ∀ a t, Q a t → Q' a t) : Ends I m s Q' := h.imp (fun _ ht => ht) hq

protected lemma and {J : σ → Prop} (h : Ends I m s Q) (h' : Ends J m s Q') :
    Ends (fun t => I t ∧ J t) m s fun a t => Q a t ∧ Q' a t := by
  unfold Ends at h h' ⊢
  cases hm : m s with
  | ok a t | error e t =>
    rw [hm] at h h'
    exact ⟨h, h'⟩

protected lemma bind (h : Ends I m s Q) (hf : ∀ a t, Q a t → Ends I (f a) t R) : Ends I (m >>= f) s R := by
  unfold Ends at h ⊢
  rw [run_bind]
  cases hm : m s with
  | ok a t =>
    rw [hm] at h
    exact hf a t h
  | error e t =>
    rw [hm] at h
    exact h

protected lemma pure (h : Q a s) : Ends I (pure a : EStateM ε σ α) s Q := h

protected lemma throw {e : ε} (h : I s) : Ends I (throw e : EStateM ε σ α) s Q := h

lemma throw_bind {e : ε} (h : I s) : Ends I ((throw e : EStateM ε σ α) >>= f) s R := h

lemma pure_bind (h : Ends I (f a) s R) : Ends I ((pure a : EStateM ε σ α) >>= f) s R := h

lemma get_bind {f : σ → EStateM ε σ β} (h : Ends I (f s) s R) : Ends I (get >>= f) s R := h

protected lemma modify {g : σ → σ} {Q : Unit → σ → Prop} (h : Q () (g s)) :
    Ends I (modify g : EStateM ε σ Unit) s Q := h

lemma modify_bind {g : σ → σ} {f : Unit → EStateM ε σ β} (h : Ends I (f ()) (g s) R) : Ends I (modify g >>= f) s R := h

protected lemma checked {fault : σ → Option ε} {g : σ → α × σ} (hi : I (g s).2) (h : Q (g s).1 (g s).2) :
    Ends I (checked fault g) s Q := by
  unfold Ends Execution.checked
  cases fault (g s).2 with
  | some e => exact hi
  | none => exact h

lemma checked_bind {fault : σ → Option ε} {g : σ → α × σ} (hi : I (g s).2) (h : Ends I (f (g s).1) (g s).2 R) :
    Ends I (checked fault g >>= f) s R :=
  (Ends.checked (Q := fun a t => a = (g s).1 ∧ t = (g s).2) hi ⟨rfl, rfl⟩).bind fun a t ht => by
    obtain ⟨rfl, rfl⟩ := ht
    exact h

-- a checked change, its result and its state taken apart
lemma edit {fault : σ → Option ε} {a : σ → α} {g : σ → σ} (hi : I (g s)) (h : Q (a s) (g s)) :
    Ends I (Execution.checked fault fun t => (a t, g t)) s Q := Ends.checked hi h

lemma edit_bind {fault : σ → Option ε} {a : σ → α} {g : σ → σ} (hi : I (g s)) (h : Ends I (f (a s)) (g s) R) :
    Ends I ((Execution.checked fault fun t => (a t, g t)) >>= f) s R := checked_bind hi h

lemma valueOr_bind {e : ε} {o : Option α} (hi : I s) (h : ∀ a, o = some a → Ends I (f a) s R) :
    Ends I (valueOr e o >>= f) s R := by
  cases o with
  | none => exact throw_bind hi
  | some a => exact h a rfl

lemma assertOr_bind {e : ε} {b : Bool} {f : Unit → EStateM ε σ β} (hi : I s) (h : b → Ends I (f ()) s R) :
    Ends I (assertOr e b >>= f) s R := by
  cases b with
  | false => exact throw_bind hi
  | true => exact h rfl

lemma fromExcept_bind {r : Except ε α} (hi : I s) (h : ∀ a, r = .ok a → Ends I (f a) s R) :
    Ends I (fromExcept r >>= f) s R := by
  cases r with
  | error e => exact throw_bind hi
  | ok a => exact h a rfl

protected lemma ite {c : Prop} [Decidable c] (h : c → Ends I m s Q) (h' : ¬c → Ends I m' s Q) :
    Ends I (if c then m else m') s Q := by
  by_cases hc : c
  · rw [if_pos hc]
    exact h hc
  · rw [if_neg hc]
    exact h' hc

lemma ite_bind {c : Prop} [Decidable c] (h : c → Ends I (m >>= f) s R) (h' : ¬c → Ends I (m' >>= f) s R) :
    Ends I ((if c then m else m') >>= f) s R := by
  by_cases hc : c
  · rw [if_pos hc]
    exact h hc
  · rw [if_neg hc]
    exact h' hc

protected lemma assoc {γ : Type} {g : α → EStateM ε σ β} {k : β → EStateM ε σ γ} {R : γ → σ → Prop}
    (h : Ends I (m >>= fun a => g a >>= k) s R) : Ends I ((m >>= g) >>= k) s R := by
  unfold Ends at h ⊢
  simp only [run_bind] at h ⊢
  cases hm : m s <;> simpa only [hm] using h

lemma of_eq_ok (h : Ends I m s Q) (hm : m s = .ok a t) : Q a t := by
  rw [Ends, hm] at h
  exact h

lemma returns (m : EStateM ε σ α) (s : σ) : Returns m s fun _ _ => True := by
  unfold Returns Ends
  cases m s <;> trivial

lemma final (h : Ends I m s Q) (hq : ∀ a t, Q a t → I t) : I (final (m s)) := by
  unfold Ends at h
  cases hm : m s with
  | ok a t =>
    rw [hm] at h
    exact hq a t h
  | error e t =>
    rw [hm] at h
    exact h

end Ends

lemma Moves.returns {R : κ × σ → κ × σ → Prop} {k : κ} {m : EStateM ε σ α} {s : σ} {Q : α → κ → σ → Prop}
    (h : Moves R k m s Q) : Returns m s fun a t => ∃ k', Q a k' t := by
  unfold Moves at h
  unfold Returns Ends
  cases hm : m s with
  | ok a t =>
    rw [hm] at h
    obtain ⟨k', -, hq⟩ := h
    exact ⟨k', hq⟩
  | error e t => trivial

namespace Keeps

variable {I : σ → Prop} {m m' : EStateM ε σ α} {f : α → EStateM ε σ β}

protected lemma bind (hm : Keeps I m) (hf : ∀ a, Keeps I (f a)) : Keeps I (m >>= f) := fun s hs =>
  (hm s hs).bind fun a t ht => hf a t ht

protected lemma pure (a : α) : Keeps I (pure a : EStateM ε σ α) := fun _ hs => hs

protected lemma throw (e : ε) : Keeps I (throw e : EStateM ε σ α) := fun _ hs => hs

lemma get_bind {f : σ → EStateM ε σ β} (h : ∀ s, Keeps I (f s)) : Keeps I (get >>= f) := fun s hs => h s s hs

protected lemma modify {g : σ → σ} (h : ∀ s, I s → I (g s)) : Keeps I (modify g : EStateM ε σ Unit) := h

protected lemma checked {fault : σ → Option ε} {g : σ → α × σ} (h : ∀ s, I s → I (g s).2) : Keeps I (checked fault g) :=
  fun s hs => Ends.checked (h s hs) (h s hs)

protected lemma ite {c : Prop} [Decidable c] (h : Keeps I m) (h' : Keeps I m') : Keeps I (if c then m else m') := by
  split
  · exact h
  · exact h'

lemma final (h : Keeps I m) {s : σ} (hs : I s) : I (final (m s)) := (h s hs).final fun _ _ ht => ht

end Keeps

namespace Respects

variable {R : σ → σ → Prop} [IsPreorder σ R] {m m' : EStateM ε σ α} {f : α → EStateM ε σ β}

lemma ends_from {s t : σ} (h : Respects R m) (ht : R s t) : Ends (R s) m t fun _ u => R s u :=
  (h t).imp (fun _ hu => IsTrans.trans _ _ _ ht hu) fun _ _ hu => IsTrans.trans _ _ _ ht hu

protected lemma bind (hm : Respects R m) (hf : ∀ a, Respects R (f a)) : Respects R (m >>= f) := fun s =>
  (hm s).bind fun a _ ht => (hf a).ends_from ht

omit [IsPreorder σ R] in
protected lemma ite {c : Prop} [Decidable c] (h : c → Respects R m) (h' : ¬c → Respects R m') :
    Respects R (if c then m else m') := fun s => Ends.ite (fun hc => h hc s) fun hc => h' hc s

protected lemma pure (a : α) : Respects R (pure a : EStateM ε σ α) := fun s => refl s

protected lemma throw (e : ε) : Respects R (throw e : EStateM ε σ α) := fun s => refl s

omit [IsPreorder σ R] in
lemma get_bind {f : σ → EStateM ε σ β} (h : ∀ s, Respects R (f s)) : Respects R (get >>= f) := fun s => h s s

omit [IsPreorder σ R] in
protected lemma modify {g : σ → σ} (h : ∀ s, R s (g s)) : Respects R (modify g : EStateM ε σ Unit) := h

omit [IsPreorder σ R] in
protected lemma checked {fault : σ → Option ε} {g : σ → α × σ} (h : ∀ s, R s (g s).2) : Respects R (checked fault g) :=
  fun s => Ends.checked (h s) (h s)

protected lemma valueOr (e : ε) (o : Option α) : Respects R (valueOr e o : EStateM ε σ α) := by
  cases o with
  | none => exact Respects.throw e
  | some a => exact Respects.pure a

protected lemma assertOr (e : ε) (b : Bool) : Respects R (assertOr e b : EStateM ε σ Unit) :=
  Respects.ite (fun _ => Respects.pure ()) fun _ => Respects.throw e

omit [IsPreorder σ R] in
-- what a run returns, with what it respects
lemma returns_and {s : σ} {Q : α → σ → Prop} (hr : Respects R m) (h : Returns m s Q) :
    Returns m s fun a t => Q a t ∧ R s t :=
  (h.and (hr s)).imp (fun _ _ => trivial) fun _ _ ht => ht

omit [IsPreorder σ R] in
lemma of_ok {a : α} {s t : σ} (h : Respects R m) (hm : m s = .ok a t) : R s t := (h s).of_eq_ok hm

omit [IsPreorder σ R] in
lemma final (h : Respects R m) (s : σ) : R s (final (m s)) := (h s).final fun _ _ ht => ht

end Respects

/-- From `s` the program `m` returns with a result and a state of `Q`, or dies of a fault of `F`. -/
def EndsBy (F : ε → Prop) (m : EStateM ε σ α) (s : σ) (Q : α → σ → Prop) : Prop :=
  match m s with
  | .ok a s' => Q a s'
  | .error e _ => F e

namespace EndsBy

variable {F : ε → Prop} {s : σ} {m : EStateM ε σ α} {f : α → EStateM ε σ β} {Q : α → σ → Prop} {Q' : β → σ → Prop}

protected lemma bind (hm : EndsBy F m s Q) (hf : ∀ a s', Q a s' → EndsBy F (f a) s' Q') : EndsBy F (m >>= f) s Q' := by
  unfold EndsBy at hm ⊢
  rw [run_bind]
  cases hr : m s with
  | ok a s' =>
    rw [hr] at hm
    exact hf a s' hm
  | error e s' =>
    rw [hr] at hm
    exact hm

protected lemma pure {a : α} (h : Q a s) : EndsBy F (pure a : EStateM ε σ α) s Q := h

protected lemma throw {e : ε} (h : F e) : EndsBy F (throw e : EStateM ε σ α) s Q := h

protected lemma modify {g : σ → σ} {Q : Unit → σ → Prop} (h : Q () (g s)) :
    EndsBy F (modify g : EStateM ε σ Unit) s Q := h

protected lemma mono {P' : α → σ → Prop} (h : EndsBy F m s Q) (hq : ∀ a s', Q a s' → P' a s') : EndsBy F m s P' := by
  unfold EndsBy at h ⊢
  cases hr : m s with
  | ok a s' =>
    rw [hr] at h
    exact hq a s' h
  | error e s' =>
    rw [hr] at h
    exact h

protected lemma map {g : α → β} {R : β → σ → Prop} (h : EndsBy F m s Q) (hq : ∀ a s', Q a s' → R (g a) s') :
    EndsBy F (g <$> m) s R :=
  EndsBy.bind h hq

protected lemma ite {c : Prop} [Decidable c] {m₁ m₂ : EStateM ε σ α} (h₁ : c → EndsBy F m₁ s Q)
    (h₂ : ¬c → EndsBy F m₂ s Q) : EndsBy F (if c then m₁ else m₂) s Q := by
  by_cases h : c
  · rw [if_pos h]
    exact h₁ h
  · rw [if_neg h]
    exact h₂ h

end EndsBy

end VkVideoParser.Execution
