import VkVideoParser.Library.Histories

/-! Systems of several threads. `step` makes the atomic step that a label names, when it can be made;
a run makes the steps of a list one after the other. -/

namespace VkVideoParser.Transitions

variable {σ ι : Type} (step : σ → ι → Option σ)

def run : List ι → σ → Option σ
  | [], s => some s
  | l :: ls, s => (step s l).bind (run ls)

-- every step of the run meets a condition on the state it starts from
def Along (good : σ → ι → Prop) : List ι → σ → Prop
  | [], _ => True
  | l :: ls, s => good s l ∧ ∀ t, step s l = some t → Along good ls t

variable {step} {good good' : σ → ι → Prop} {I : σ → Prop} {ls ls' : List ι} {s t u : σ}

@[simp] lemma run_nil : run step [] s = some s := rfl

lemma run_cons {l : ι} : run step (l :: ls) s = some u ↔ ∃ t, step s l = some t ∧ run step ls t = some u :=
  Option.bind_eq_some_iff

instance decidableAlong [∀ s l, Decidable (good s l)] : (ls : List ι) → (s : σ) → Decidable (Along step good ls s)
  | [], _ => .isTrue trivial
  | l :: ls, s =>
    match h : step s l with
    | none => decidable_of_iff (good s l) ⟨fun hg => ⟨hg, fun t ht => by rw [h] at ht; cases ht⟩, fun hg => hg.1⟩
    | some t =>
      have := decidableAlong ls t
      decidable_of_iff (good s l ∧ Along step good ls t)
        ⟨fun hg => ⟨hg.1, fun t' ht' => by rw [h] at ht'; cases ht'; exact hg.2⟩, fun hg => ⟨hg.1, hg.2 t h⟩⟩

lemma Along.append (h : Along step good (ls ++ ls') s) (hr : run step ls s = some t) : Along step good ls' t := by
  induction ls generalizing s with
  | nil =>
    cases hr
    exact h
  | cons l ls ih =>
    obtain ⟨a, ha, hr⟩ := run_cons.mp hr
    exact ih (h.2 a ha) hr

lemma Along.left (h : Along step good (ls ++ ls') s) : Along step good ls s := by
  induction ls generalizing s with
  | nil => trivial
  | cons l ls ih => exact ⟨h.1, fun t ht => ih (h.2 t ht)⟩

-- what every step that meets the condition keeps, the whole run keeps
lemma Along.keeps (h : Along step good ls s) (hr : run step ls s = some t)
    (hstep : ∀ s l t, good s l → step s l = some t → I s → I t) (hs : I s) : I t := by
  induction ls generalizing s with
  | nil =>
    cases hr
    exact hs
  | cons l ls ih =>
    obtain ⟨a, ha, hr⟩ := run_cons.mp hr
    exact ih (h.2 a ha) hr (hstep s l a h.1 ha hs)

lemma Along.and_of_mem {p : ι → Prop} (h : Along step good ls s) (hp : ∀ l ∈ ls, p l) :
    Along step (fun s l => good s l ∧ p l) ls s := by
  induction ls generalizing s with
  | nil => trivial
  | cons l ls ih =>
    refine ⟨⟨h.1, hp l List.mem_cons_self⟩, fun t ht => ih (h.2 t ht) fun l hl => hp l (List.mem_cons_of_mem _ hl)⟩

lemma along_true : Along step (fun _ _ => True) ls s := by
  induction ls generalizing s with
  | nil => trivial
  | cons l ls ih => exact ⟨trivial, fun t _ => ih⟩

lemma run_keeps (hr : run step ls s = some t) (hstep : ∀ s l t, step s l = some t → I s → I t) (hs : I s) : I t :=
  along_true.keeps hr (fun s l t _ => hstep s l t) hs

-- when a step adds to a measure what its label counts for, a run adds what its labels do
lemma run_counts {f : σ → Nat} {p : ι → Bool} (hr : run step ls s = some t)
    (hstep : ∀ s l t, step s l = some t → f t = f s + if p l then 1 else 0) : f t = f s + ls.countP p := by
  induction ls generalizing s with
  | nil =>
    cases hr
    rfl
  | cons l ls ih =>
    obtain ⟨a, ha, hr⟩ := run_cons.mp hr
    rw [ih hr, hstep s l a ha, List.countP_cons, Nat.add_assoc, Nat.add_comm (ls.countP p)]

end VkVideoParser.Transitions
