import Mathlib.Tactic

/-! Counting in lists, and sums of weights over a list of labelled holders. -/

namespace VkVideoParser.Counting

variable {α β : Type}

lemma countP_lt {f g : α → Bool} {l : List α} (h : ∀ x ∈ l, g x = true → f x = true) {a : α} (ha : a ∈ l)
    (hf : f a = true) (hg : g a = false) : l.countP g < l.countP f := by
  induction l with
  | nil => cases ha
  | cons b l ih =>
    have hle : l.countP g ≤ l.countP f := List.countP_mono_left fun x hx => h x (List.mem_cons_of_mem _ hx)
    rcases List.mem_cons.mp ha with rfl | ha
    · simp only [List.countP_cons, hf, hg, if_true]
      simpa using Nat.lt_succ_of_le hle
    · have hlt := ih (fun x hx => h x (List.mem_cons_of_mem _ hx)) ha
      have hb := h b (List.mem_cons_self ..)
      have hif : (if g b = true then 1 else 0) ≤ (if f b = true then 1 else 0) := by
        by_cases hgb : g b = true
        · simp only [hgb, hb hgb, if_true, Nat.le_refl]
        · rw [if_neg hgb]
          exact Nat.zero_le _
      simp only [List.countP_cons]
      omega

-- two counts that differ in one element
lemma countP_succ {f g : α → Bool} {l : List α} (hl : l.Nodup) {a : α} (ha : a ∈ l) (hf : f a = true) (hg : g a = false)
    (h : ∀ x ∈ l, x ≠ a → g x = f x) : l.countP g + 1 = l.countP f := by
  induction l with
  | nil => cases ha
  | cons b l ih =>
    obtain ⟨hb, hl⟩ := List.nodup_cons.mp hl
    simp only [List.countP_cons]
    rcases List.mem_cons.mp ha with rfl | ha
    · have hrest : l.countP g = l.countP f := List.countP_congr fun x hx => by
        rw [h x (List.mem_cons_of_mem _ hx) fun he => hb (he ▸ hx)]
      rw [hf, hg, hrest]
      simp
    · have hne : b ≠ a := fun he => hb (he ▸ ha)
      rw [h b List.mem_cons_self hne, ← ih hl ha fun x hx => h x (List.mem_cons_of_mem _ hx)]
      omega

-- what a sublist leaves out does not count
lemma countP_sublist {f : α → Bool} {l l' : List α} (hs : l'.Sublist l) (hl : l.Nodup) (h : ∀ a ∈ l, f a = true → a ∈ l') :
    l'.countP f = l.countP f := by
  induction hs with
  | slnil => rfl
  | @cons l' l a hs ih =>
    obtain ⟨ha, hl⟩ := List.nodup_cons.mp hl
    have hf : f a = false := by
      by_contra hf
      exact ha (hs.subset (h a List.mem_cons_self (by simpa using hf)))
    rw [List.countP_cons_of_neg (by simp [hf])]
    exact ih hl fun b hb => h b (List.mem_cons_of_mem _ hb)
  | @cons_cons l' l a hs ih =>
    obtain ⟨ha, hl⟩ := List.nodup_cons.mp hl
    rw [List.countP_cons, List.countP_cons, ih hl fun b hb hf => ?_]
    refine (List.mem_cons.mp (h b (List.mem_cons_of_mem _ hb) hf)).resolve_left ?_
    rintro rfl
    exact ha hb

lemma count_eraseIdx [DecidableEq α] {l : List α} {i : Nat} {a : α} (h : l[i]? = some a) (b : α) :
    (l.eraseIdx i).count b + (if a = b then 1 else 0) = l.count b := by
  induction l generalizing i with
  | nil => simp at h
  | cons c l ih =>
    cases i with
    | zero =>
      obtain rfl : c = a := by simpa using h
      simp [List.count_cons]
    | succ i =>
      have := ih (i := i) (by simpa using h)
      simp only [List.eraseIdx_cons_succ, List.count_cons]
      omega

def isAt [DecidableEq β] (c b : β) : Nat := if c = b then 1 else 0

@[simp] lemma isAt_self [DecidableEq β] (b : β) : isAt b b = 1 := if_pos rfl

lemma isAt_of_ne [DecidableEq β] {c b : β} (h : c ≠ b) : isAt c b = 0 := if_neg h

/-- Whether an optional place holds `b`. -/
def slot [DecidableEq β] : Option β → β → Nat
  | none, _ => 0
  | some c, b => isAt c b

@[simp] lemma slot_none [DecidableEq β] (b : β) : slot none b = 0 := rfl

@[simp] lemma slot_some [DecidableEq β] (c b : β) : slot (some c) b = isAt c b := rfl

lemma eq_some_of_slot_ne [DecidableEq β] {o : Option β} {b : β} (h : slot o b ≠ 0) : o = some b := by
  cases o with
  | none => exact absurd rfl h
  | some c =>
    by_contra hc
    exact h (isAt_of_ne fun he => hc (he ▸ rfl))

/-- The weight that the entries of `l` labelled with `b` have together. -/
def weigh [DecidableEq β] (w : α → Nat) (l : List (α × β)) (b : β) : Nat :=
  (l.map fun x => w x.1 * isAt x.2 b).sum

section Weigh

variable [DecidableEq β] {w : α → Nat} {l : List (α × β)} {a a' : α} {b c : β}

@[simp] lemma weigh_nil : weigh w ([] : List (α × β)) b = 0 := rfl

@[simp] lemma weigh_cons : weigh w ((a, c) :: l) b = w a * isAt c b + weigh w l b := rfl

lemma weigh_erase [DecidableEq α] (h : (a, c) ∈ l) (b : β) :
    w a * isAt c b + weigh w (l.erase (a, c)) b = weigh w l b := by
  induction l with
  | nil => cases h
  | cons x l ih =>
    by_cases hx : x = (a, c)
    · subst hx
      rw [List.erase_cons_head, weigh_cons]
    · have hl : (a, c) ∈ l := by simpa [Ne.symm hx] using h
      obtain ⟨a', c'⟩ := x
      rw [List.erase_cons_tail (by simpa using hx), weigh_cons, weigh_cons, ← ih hl]
      omega

lemma le_weigh [DecidableEq α] (h : (a, b) ∈ l) : w a ≤ weigh w l b := by
  have := weigh_erase (w := w) h b
  rw [isAt_self] at this
  omega

lemma weigh_mono {w' : α → Nat} (h : ∀ a, w a ≤ w' a) : weigh w l b ≤ weigh w' l b := by
  induction l with
  | nil => exact le_rfl
  | cons x l ih =>
    obtain ⟨a, c⟩ := x
    simp only [weigh_cons]
    exact Nat.add_le_add (Nat.mul_le_mul_right _ (h a)) ih

lemma exists_of_weigh_ne (h : weigh w l b ≠ 0) : ∃ a, (a, b) ∈ l ∧ w a ≠ 0 := by
  induction l with
  | nil => exact absurd rfl h
  | cons x l ih =>
    obtain ⟨a, c⟩ := x
    by_cases ha : c = b ∧ w a ≠ 0
    · exact ⟨a, by simp [ha.1], ha.2⟩
    · have hz : w a * isAt c b = 0 := by
        by_cases hc : c = b
        · have hw : w a = 0 := by
            by_contra hw
            exact ha ⟨hc, hw⟩
          rw [hw, Nat.zero_mul]
        · rw [isAt_of_ne hc, Nat.mul_zero]
      rw [weigh_cons, hz, Nat.zero_add] at h
      obtain ⟨a', ha', hw⟩ := ih h
      exact ⟨a', List.mem_cons_of_mem _ ha', hw⟩

end Weigh

end VkVideoParser.Counting
