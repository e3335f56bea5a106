import Mathlib.Data.List.Infix
import Mathlib.Data.List.Count

/-! What holds of every event of a history, seen from the events before it. A history lists its
events newest first. -/

namespace VkVideoParser.Histories

variable {ε : Type} {Q Q' : List ε → ε → Prop} {e : ε} {log log' : List ε}

def Always (Q : List ε → ε → Prop) : List ε → Prop
  | [] => True
  | e :: l => Q l e ∧ Always Q l

@[simp] lemma always_nil : Always Q [] := trivial

@[simp] lemma always_cons : Always Q (e :: log) ↔ Q log e ∧ Always Q log := .rfl

instance decidableAlways [∀ l e, Decidable (Q l e)] : (log : List ε) → Decidable (Always Q log)
  | [] => .isTrue trivial
  | e :: l =>
    match (inferInstance : Decidable (Q l e)), decidableAlways l with
    | .isTrue h, .isTrue h' => .isTrue ⟨h, h'⟩
    | .isFalse h, _ => .isFalse fun h' => h h'.1
    | _, .isFalse h => .isFalse fun h' => h h'.2

lemma Always.suffix (h : Always Q log) (hl : log' <:+ log) : Always Q log' := by
  obtain ⟨l, rfl⟩ := hl
  induction l with
  | nil => exact h
  | cons e l ih => exact ih h.2

lemma always_iff : Always Q log ↔ ∀ e l, e :: l <:+ log → Q l e := by
  refine ⟨fun h e l hl => (h.suffix hl).1, fun h => ?_⟩
  induction log with
  | nil => trivial
  | cons e l ih => exact ⟨h e l List.suffix_rfl, ih fun a m hm => h a m (hm.trans (List.suffix_cons e l))⟩

lemma Always.mono (h : Always Q log) (hq : ∀ l e, Q l e → Q' l e) : Always Q' log :=
  always_iff.mpr fun e l hl => hq l e (always_iff.mp h e l hl)

lemma Always.and (h : Always Q log) (h' : Always Q' log) : Always (fun l e => Q l e ∧ Q' l e) log :=
  always_iff.mpr fun e l hl => ⟨always_iff.mp h e l hl, always_iff.mp h' e l hl⟩

section Newest

variable {α : Type} {f : ε → Option α} {a : α}

/-- What the newest event carries of those that carry something, with the events before it. -/
def newest (f : ε → Option α) : List ε → Option (α × List ε)
  | [] => none
  | e :: l =>
    match f e with
    | some a => some (a, l)
    | none => newest f l

lemma exists_of_newest (h : newest f log = some (a, log')) : ∃ e, f e = some a ∧ e :: log' <:+ log := by
  induction log with
  | nil => cases h
  | cons e l ih =>
    rw [newest] at h
    cases hf : f e with
    | some b =>
      rw [hf] at h
      cases h
      exact ⟨e, hf, List.suffix_rfl⟩
    | none =>
      rw [hf] at h
      obtain ⟨e', he', hl⟩ := ih h
      exact ⟨e', he', hl.trans (List.suffix_cons e l)⟩

lemma Always.newest (h : Always Q log) (ha : newest f log = some (a, log')) : ∃ e, f e = some a ∧ Q log' e := by
  obtain ⟨e, he, hl⟩ := exists_of_newest ha
  exact ⟨e, he, always_iff.mp h e log' hl⟩

end Newest

section Hidden

variable {shown : ε → Bool} {l : List ε}

lemma always_append (hl : ∀ e ∈ l, shown e = false) (hq : ∀ e m, shown e = false → Q m e) (h : Always Q log) :
    Always Q (l ++ log) := by
  induction l with
  | nil => exact h
  | cons e l ih => exact ⟨hq e _ (hl e List.mem_cons_self), ih fun e he => hl e (List.mem_cons_of_mem _ he)⟩

-- what is read off the shown events
lemma read_append {α : Type} {f : List ε → α} (hl : ∀ e ∈ l, shown e = false)
    (hf : ∀ e m, shown e = false → f (e :: m) = f m) : f (l ++ log) = f log := by
  induction l with
  | nil => rfl
  | cons e l ih => exact (hf e _ (hl e List.mem_cons_self)).trans (ih fun e he => hl e (List.mem_cons_of_mem _ he))

end Hidden

section Carried

variable {α : Type}

/-- An event takes up a value made of the kept one, or keeps a value made of the one taken up. -/
inductive Carry (α : Type)
  | pass
  | take (g : α → α)
  | keep (g : α → α)

/-- The values taken up and kept last. -/
def carried (f : ε → Carry α) (a : α) : List ε → α × α
  | [] => (a, a)
  | e :: l =>
    match f e with
    | .pass => carried f a l
    | .take g => (g (carried f a l).2, (carried f a l).2)
    | .keep g => ((carried f a l).1, g (carried f a l).1)

variable {f : ε → Carry α} {g : α → α} {a : α}

lemma carried_of_pass (h : f e = .pass) : carried f a (e :: log) = carried f a log := by
  rw [carried, h]

lemma carried_of_keep (h : f e = .keep g) :
    carried f a (e :: log) = ((carried f a log).1, g (carried f a log).1) := by
  rw [carried, h]

end Carried

section Numbered

variable {α : Type} {marks : ε → Bool} {f : ε → Option α} {a : α} {n : Nat}

/-- What the events of a history carry, each with the number of marked events up to its own. -/
def numbered (marks : ε → Bool) (f : ε → Option α) : List ε → List (Nat × α)
  | [] => []
  | e :: l =>
    match f e with
    | some a => ((e :: l).countP marks, a) :: numbered marks f l
    | none => numbered marks f l

lemma numbered_of_some (h : f e = some a) :
    numbered marks f (e :: log) = ((e :: log).countP marks, a) :: numbered marks f log := by
  rw [numbered, h]

lemma numbered_of_none (h : f e = none) : numbered marks f (e :: log) = numbered marks f log := by
  rw [numbered, h]

lemma le_of_mem_numbered (h : (n, a) ∈ numbered marks f log) : n ≤ log.countP marks := by
  induction log with
  | nil => cases h
  | cons e l ih =>
    have hle : l.countP marks ≤ (e :: l).countP marks := (List.sublist_cons_self e l).countP_le
    cases hf : f e with
    | none =>
      rw [numbered_of_none hf] at h
      exact (ih h).trans hle
    | some b =>
      rw [numbered_of_some hf] at h
      rcases List.mem_cons.mp h with h | h
      · cases h
        exact le_rfl
      · exact (ih h).trans hle

lemma not_mem_numbered (h : marks e) (a : α) : ((e :: log).countP marks, a) ∉ numbered marks f log := by
  intro hm
  have hle := le_of_mem_numbered hm
  rw [List.countP_cons_of_pos h] at hle
  omega

-- events that carry nothing and are not marked
lemma numbered_append {l : List ε} (hm : ∀ e ∈ l, marks e = false) (hf : ∀ e ∈ l, f e = none) :
    numbered marks f (l ++ log) = numbered marks f log ∧ (l ++ log).countP marks = log.countP marks := by
  induction l with
  | nil => exact ⟨rfl, rfl⟩
  | cons e l ih =>
    obtain ⟨hn, hc⟩ := ih (fun e he => hm e (List.mem_cons_of_mem _ he)) fun e he => hf e (List.mem_cons_of_mem _ he)
    refine ⟨?_, ?_⟩
    · rw [List.cons_append, numbered_of_none (hf e List.mem_cons_self), hn]
    · rw [List.cons_append, List.countP_cons_of_neg (by simp [hm e List.mem_cons_self]), hc]

variable {g : ε → Option α} {u : ε} {l : List ε}

lemma numbered_eq_append (hm : ∀ e ∈ l, marks e = false) (hf : ∀ e ∈ l, f e = none) (hg : ∀ e ∈ l, g e = none) :
    numbered marks f (l ++ log) = numbered marks g (l ++ log) ↔ numbered marks f log = numbered marks g log := by
  rw [(numbered_append hm hf).1, (numbered_append hm hg).1]

-- a marked event that only `f` reads
lemma numbered_eq_cons (hm : marks e) (hg : g e = none) :
    numbered marks f (e :: log) = numbered marks g (e :: log) ↔
      f e = none ∧ numbered marks f log = numbered marks g log := by
  rw [numbered_of_none hg]
  cases hf : f e with
  | none => rw [numbered_of_none hf, eq_self_iff_true, true_and]
  | some a =>
    rw [numbered_of_some hf]
    refine ⟨fun h => ?_, fun h => by cases h.1⟩
    exact absurd (h ▸ List.mem_cons_self) (not_mem_numbered (f := g) hm a)

-- a marked event that only `f` reads, with one that only `g` reads right after it
lemma numbered_eq_cons_cons (hm : marks e) (hu : marks u = false) (hfu : f u = none) (hge : g e = none)
    (hgu : g u = some a) (hfe : f e = none ∨ f e = some a) :
    numbered marks f (u :: e :: log) = numbered marks g (u :: e :: log) ↔
      f e = some a ∧ numbered marks f log = numbered marks g log := by
  have hcount : (u :: e :: log).countP marks = (e :: log).countP marks := List.countP_cons_of_neg (by simp [hu])
  rw [numbered_of_none hfu, numbered_of_some hgu, numbered_of_none hge, hcount]
  rcases hfe with hf | hf
  · rw [numbered_of_none hf]
    refine ⟨fun h => ?_, fun h => by rw [hf] at h; cases h.1⟩
    exact absurd (h ▸ List.mem_cons_self) (not_mem_numbered (f := f) hm a)
  · rw [numbered_of_some hf, List.cons_inj_right]
    exact ⟨fun h => ⟨hf, h⟩, fun h => h.2⟩

end Numbered

end VkVideoParser.Histories
