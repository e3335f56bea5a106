import Mathlib.Logic.Relation

/-! Programs over a state that a fault may end. A run is taken apart into the moves of a relation
on the state together with a phase that only the proofs see; what every move keeps, every run keeps,
also a run that dies. -/

namespace VkVideoParser.Execution

open Relation

variable {ε σ κ α β : Type}

def final : EStateM.Result ε σ α → σ
  | .ok _ s => s
  | .error _ s => s

@[simp] lemma final_ok (a : α) (s : σ) : final (.ok a s : EStateM.Result ε σ α) = s := rfl

@[simp] lemma final_error (e : ε) (s : σ) : final (.error e s : EStateM.Result ε σ α) = s := rfl

def completed : EStateM.Result ε σ α → Bool
  | .ok _ _ => true
  | .error _ _ => false

lemma eq_ok_of_completed {r : EStateM.Result ε σ Unit} (h : completed r) : r = .ok () (final r) := by
  cases r with
  | ok a s => rfl
  | error e s => cases h

lemma run_bind (m : EStateM ε σ α) (f : α → EStateM ε σ β) (s : σ) :
    (m >>= f) s = match m s with
      | .ok a s' => f a s'
      | .error e s' => .error e s' := rfl

@[simp] lemma run_pure (a : α) (s : σ) : (pure a : EStateM ε σ α) s = .ok a s := rfl

@[simp] lemma run_get (s : σ) : (get : EStateM ε σ σ) s = .ok s s := rfl

@[simp] lemma run_modify (f : σ → σ) (s : σ) : (modify f : EStateM ε σ Unit) s = .ok () (f s) := rfl

@[simp] lemma run_throw (e : ε) (s : σ) : (throw e : EStateM ε σ α) s = .error e s := rfl

lemma bind_eq_ok {m : EStateM ε σ α} {f : α → EStateM ε σ β} {s s' : σ} {b : β}
    (h : (m >>= f) s = .ok b s') : ∃ a s₁, m s = .ok a s₁ ∧ f a s₁ = .ok b s' := by
  rw [run_bind] at h
  cases hm : m s with
  | ok a s₁ =>
    rw [hm] at h
    exact ⟨a, s₁, rfl, h⟩
  | error e s₁ =>
    rw [hm] at h
    cases h

/-- A change of the state that the program does not survive when `fault` shows in its result. -/
def checked (fault : σ → Option ε) (f : σ → α × σ) : EStateM ε σ α := fun s =>
  match fault (f s).2 with
  | some e => .error e (f s).2
  | none => .ok (f s).1 (f s).2

/-- The value of an option, or a death by `e` where there is none. -/
def valueOr (e : ε) : Option α → EStateM ε σ α
  | some a => pure a
  | none => throw e

def assertOr (e : ε) (b : Bool) : EStateM ε σ Unit := if b then pure () else throw e

def fromExcept : Except ε α → EStateM ε σ α
  | .ok a => pure a
  | .error e => throw e

/-- Run from `s` in the phase `k`, the program `m` makes only moves of `R`, and when it returns,
its result, the phase and the state it ends in satisfy `Q`. -/
def Moves (R : κ × σ → κ × σ → Prop) (k : κ) (m : EStateM ε σ α) (s : σ) (Q : α → κ → σ → Prop) : Prop :=
  match m s with
  | .ok a s' => ∃ k', ReflTransGen R (k, s) (k', s') ∧ Q a k' s'
  | .error _ s' => ∃ k', ReflTransGen R (k, s) (k', s')

namespace Moves

variable {R : κ × σ → κ × σ → Prop} {k k' : κ} {s s' : σ} {m : EStateM ε σ α} {f : α → EStateM ε σ β}
  {Q : α → κ → σ → Prop} {Q' : β → κ → σ → Prop}

-- moves made before the program
lemma prepend (h : ReflTransGen R (k, s) (k', s')) (hm : Moves R k' m s' Q) {m' : EStateM ε σ α}
    (heq : m' s = m s') : Moves R k m' s Q := by
  unfold Moves at hm ⊢
  rw [heq]
  cases hr : m s' with
  | ok a t =>
    rw [hr] at hm
    obtain ⟨l, hl, hq⟩ := hm
    exact ⟨l, h.trans hl, hq⟩
  | error e t =>
    rw [hr] at hm
    obtain ⟨l, hl⟩ := hm
    exact ⟨l, h.trans hl⟩

protected lemma bind (hm : Moves R k m s Q)
    (hf : ∀ a k' s', ReflTransGen R (k, s) (k', s') → Q a k' s' → Moves R k' (f a) s' Q') :
    Moves R k (m >>= f) s Q' := by
  unfold Moves at hm
  cases h : m s with
  | ok a s₁ =>
    rw [h] at hm
    obtain ⟨k₁, hk, hq⟩ := hm
    exact prepend hk (hf a k₁ s₁ hk hq) (by rw [run_bind, h])
  | error e s₁ =>
    rw [h] at hm
    unfold Moves
    rw [run_bind, h]
    exact hm

protected lemma pure {a : α} (h : Q a k s) : Moves R k (pure a : EStateM ε σ α) s Q :=
  ⟨k, .refl, h⟩

protected lemma throw {e : ε} : Moves R k (throw e : EStateM ε σ α) s Q := ⟨k, .refl⟩

lemma throw_bind {e : ε} : Moves R k ((throw e : EStateM ε σ α) >>= f) s Q' := ⟨k, .refl⟩

lemma get_bind {f : σ → EStateM ε σ β} (h : Moves R k (f s) s Q') : Moves R k (get >>= f) s Q' := h

lemma pure_bind {a : α} (h : Moves R k (f a) s Q') : Moves R k ((pure a : EStateM ε σ α) >>= f) s Q' := h

-- a change that is one move, to the phase the proof chooses
protected lemma modify (k' : κ) {g : σ → σ} {Q : Unit → κ → σ → Prop} (h : R (k, s) (k', g s))
    (hq : Q () k' (g s)) : Moves R k (modify g : EStateM ε σ Unit) s Q :=
  ⟨k', .single h, hq⟩

lemma modify_bind (k' : κ) {g : σ → σ} {f : Unit → EStateM ε σ β} (h : R (k, s) (k', g s))
    (hf : Moves R k' (f ()) (g s) Q') : Moves R k (modify g >>= f) s Q' :=
  prepend (.single h) hf rfl

-- two changes that are one move
lemma modify_modify (k' : κ) {g h : σ → σ} {Q : Unit → κ → σ → Prop} (hr : R (k, s) (k', h (g s)))
    (hq : Q () k' (h (g s))) : Moves R k (modify g >>= fun _ => modify h : EStateM ε σ Unit) s Q :=
  ⟨k', .single hr, hq⟩

lemma modify_modify_bind (k' : κ) {g h : σ → σ} {f : Unit → EStateM ε σ β} (hr : R (k, s) (k', h (g s)))
    (hf : Moves R k' (f ()) (h (g s)) Q') : Moves R k (modify g >>= fun _ => modify h >>= f) s Q' :=
  prepend (.single hr) hf rfl

-- a change of which the program may die
protected lemma checked (k' : κ) {fault : σ → Option ε} {g : σ → α × σ} (h : R (k, s) (k', (g s).2))
    (hq : fault (g s).2 = none → Q (g s).1 k' (g s).2) : Moves R k (checked fault g) s Q := by
  unfold Moves checked
  cases hf : fault (g s).2 with
  | some e => exact ⟨k', .single h⟩
  | none => exact ⟨k', .single h, hq hf⟩

lemma checked_bind (k' : κ) {fault : σ → Option ε} {g : σ → α × σ} (h : R (k, s) (k', (g s).2))
    (hf : fault (g s).2 = none → Moves R k' (f (g s).1) (g s).2 Q') :
    Moves R k (checked fault g >>= f) s Q' := by
  refine Moves.bind (Moves.checked (Q := fun a l t => l = k' ∧ t = (g s).2 ∧ a = (g s).1 ∧
    fault (g s).2 = none) k' h fun hn => ⟨rfl, rfl, rfl, hn⟩) ?_
  rintro a l t - ⟨rfl, rfl, rfl, hn⟩
  exact hf hn

lemma valueOr_bind {e : ε} {o : Option α} (h : ∀ a, o = some a → Moves R k (f a) s Q') :
    Moves R k (valueOr e o >>= f) s Q' := by
  cases o with
  | none => exact throw_bind
  | some a => exact h a rfl

lemma assertOr_bind {e : ε} {b : Bool} {f : Unit → EStateM ε σ β} (h : b → Moves R k (f ()) s Q') :
    Moves R k (assertOr e b >>= f) s Q' := by
  cases b with
  | false => exact throw_bind
  | true => exact h rfl

lemma fromExcept_bind {r : Except ε α} (h : ∀ a, r = .ok a → Moves R k (f a) s Q') :
    Moves R k (fromExcept r >>= f) s Q' := by
  cases r with
  | error e => exact throw_bind
  | ok a => exact h a rfl

protected lemma mono {P' : α → κ → σ → Prop} (h : Moves R k m s Q) (hq : ∀ a k' s', Q a k' s' → P' a k' s') :
    Moves R k m s P' := by
  unfold Moves at h ⊢
  cases hr : m s with
  | ok a t =>
    rw [hr] at h
    obtain ⟨l, hl, hq'⟩ := h
    exact ⟨l, hl, hq _ _ _ hq'⟩
  | error e t =>
    rw [hr] at h
    exact h

-- moves made after the program, which leave its state as it is
lemma follow {P' : α → κ → σ → Prop} (h : Moves R k m s Q)
    (hq : ∀ a k' s', ReflTransGen R (k, s) (k', s') → Q a k' s' →
      ∃ l, ReflTransGen R (k', s') (l, s') ∧ P' a l s') : Moves R k m s P' := by
  unfold Moves at h ⊢
  cases hr : m s with
  | ok a t =>
    rw [hr] at h
    obtain ⟨l, hl, hq'⟩ := h
    obtain ⟨l', hl', hp⟩ := hq _ _ _ hl hq'
    exact ⟨l', hl.trans hl', hp⟩
  | error e t =>
    rw [hr] at h
    exact h

-- a move the program does not show, before it
lemma step (h : R (k, s) (k', s)) (hm : Moves R k' m s Q) : Moves R k m s Q :=
  prepend (.single h) hm rfl

protected lemma ite {c : Prop} [Decidable c] {m₁ m₂ : EStateM ε σ α} (h₁ : c → Moves R k m₁ s Q)
    (h₂ : ¬c → Moves R k m₂ s Q) : Moves R k (if c then m₁ else m₂) s Q := by
  by_cases h : c
  · rw [if_pos h]
    exact h₁ h
  · rw [if_neg h]
    exact h₂ h

lemma assoc {γ : Type} {g : α → EStateM ε σ β} {f : β → EStateM ε σ γ} {Q : γ → κ → σ → Prop}
    (h : Moves R k (m >>= fun a => g a >>= f) s Q) : Moves R k ((m >>= g) >>= f) s Q := by
  refine prepend .refl h ?_
  simp only [run_bind]
  cases m s with
  | ok a s' => rfl
  | error e s' => rfl

lemma ite_bind {c : Prop} [Decidable c] {m₁ m₂ : EStateM ε σ α} {f : α → EStateM ε σ β}
    (h₁ : c → Moves R k (m₁ >>= f) s Q') (h₂ : ¬c → Moves R k (m₂ >>= f) s Q') :
    Moves R k ((if c then m₁ else m₂) >>= f) s Q' := by
  by_cases h : c
  · rw [if_pos h]
    exact h₁ h
  · rw [if_neg h]
    exact h₂ h

end Moves

-- what every move keeps holds wherever the moves lead
lemma kept {τ : Type} {R : τ → τ → Prop} {I : τ → Prop} (hR : ∀ x y, R x y → I x → I y) {x y : τ}
    (h : ReflTransGen R x y) (hx : I x) : I y := by
  induction h with
  | refl => exact hx
  | tail _ hstep ih => exact hR _ _ hstep ih

-- what every move keeps is there when the rest of the program begins
lemma Moves.bind_kept {R : κ × σ → κ × σ → Prop} {I : κ × σ → Prop} (hR : ∀ x y, R x y → I x → I y) {k : κ} {s : σ}
    {m : EStateM ε σ α} {f : α → EStateM ε σ β} {Q : α → κ → σ → Prop} {Q' : β → κ → σ → Prop} (hs : I (k, s))
    (hm : Moves R k m s Q) (hf : ∀ a k' s', I (k', s') → Q a k' s' → Moves R k' (f a) s' Q') :
    Moves R k (m >>= f) s Q' :=
  Moves.bind hm fun a k' s' hk hq => hf a k' s' (kept hR hk hs) hq

lemma Moves.final {R : κ × σ → κ × σ → Prop} {k : κ} {s : σ} {m : EStateM ε σ α} {Q : α → κ → σ → Prop}
    (hm : Moves R k m s Q) : ∃ k', ReflTransGen R (k, s) (k', final (m s)) := by
  unfold Moves at hm
  cases hr : m s with
  | ok a t =>
    rw [hr] at hm
    obtain ⟨l, hl, -⟩ := hm
    exact ⟨l, hl⟩
  | error e t =>
    rw [hr] at hm
    exact hm

end VkVideoParser.Execution
