import Mathlib.Data.List.Sort
import Mathlib.Order.OrderDual

/-! Sorting a list by a key, in which elements with one key stay in their order. -/

namespace VkVideoParser.StableSort

variable {α κ κ' : Type} [LinearOrder κ] [LinearOrder κ'] {key : α → κ} {key' : α → κ'} {l l₁ l₂ : List α} {a b : α} {c : κ}

def sortBy (key : α → κ) (l : List α) : List α := l.insertionSort fun a b => key a ≤ key b

/-- The other way round. -/
def sortDown (key : α → κ) (l : List α) : List α := sortBy (fun a => OrderDual.toDual (key a)) l

@[simp] lemma sortBy_nil : sortBy key [] = [] := rfl

lemma perm_sortBy : (sortBy key l).Perm l := List.perm_insertionSort ..

@[simp] lemma mem_sortBy : a ∈ sortBy key l ↔ a ∈ l := perm_sortBy.mem_iff

lemma pairwise_sortBy : (sortBy key l).Pairwise fun a b => key a ≤ key b :=
  have : IsTrans α fun a b => key a ≤ key b := ⟨fun _ _ _ => le_trans⟩
  have : Std.Total fun a b => key a ≤ key b := ⟨fun a b => le_total (key a) (key b)⟩
  List.pairwise_insertionSort _ l

-- the relation matters on the list only
lemma insertionSort_congr {r s : α → α → Prop} [DecidableRel r] [DecidableRel s]
    (h : ∀ a ∈ l, ∀ b ∈ l, r a b ↔ s a b) : l.insertionSort r = l.insertionSort s := by
  simpa using List.map_insertionSort r s id l h

lemma sortDown_toDual : sortDown (fun a => OrderDual.toDual (key a)) l = sortBy key l :=
  insertionSort_congr fun _ _ _ _ => Iff.rfl

lemma filter_orderedInsert (p : α → Bool) (hl : l.Pairwise fun a b => key a ≤ key b) :
    (l.orderedInsert (fun a b => key a ≤ key b) a).filter p =
      if p a then (l.filter p).orderedInsert (fun a b => key a ≤ key b) a else l.filter p := by
  induction l with
  | nil => by_cases h : p a <;> simp [h]
  | cons b l ih =>
    obtain ⟨hb, hl⟩ := List.pairwise_cons.mp hl
    rw [List.orderedInsert_cons]
    by_cases hab : key a ≤ key b
    · rw [if_pos hab, List.filter_cons]
      split
      · symm
        cases hf : (b :: l).filter p with
        | nil => rfl
        | cons d m =>
          have hd : d ∈ b :: l := (List.mem_filter.mp (hf ▸ List.mem_cons_self : d ∈ (b :: l).filter p)).1
          refine List.orderedInsert_cons_of_le _ m ?_
          rcases List.mem_cons.mp hd with rfl | hd
          · exact hab
          · exact hab.trans (hb d hd)
      · rfl
    · rw [if_neg hab, List.filter_cons, ih hl, List.filter_cons]
      by_cases hpb : p b <;> by_cases hpa : p a <;> simp [hpb, hpa, hab]

-- sorting first and choosing then is choosing first
lemma filter_sortBy (p : α → Bool) : (sortBy key l).filter p = sortBy key (l.filter p) := by
  induction l with
  | nil => rfl
  | cons a l ih =>
    have h : (sortBy key (a :: l)).filter p =
        if p a then ((sortBy key l).filter p).orderedInsert (fun a b => key a ≤ key b) a else (sortBy key l).filter p :=
      filter_orderedInsert p pairwise_sortBy
    rw [h, ih, List.filter_cons]
    split <;> rfl

lemma sortBy_of_same (h : ∀ a ∈ l, ∀ b ∈ l, key a ≤ key b) : sortBy key l = l :=
  List.Pairwise.insertionSort_eq (List.pairwise_of_forall_mem_list h)

-- a sorted list is determined by what it has for each key
lemma eq_of_sorted (h₁ : l₁.Pairwise fun a b => key a ≤ key b) (h₂ : l₂.Pairwise fun a b => key a ≤ key b)
    (h : ∀ v, l₁.filter (key · = v) = l₂.filter (key · = v)) : l₁ = l₂ := by
  induction l₁ generalizing l₂ with
  | nil =>
    cases l₂ with
    | nil => rfl
    | cons b l₂ => simpa using h (key b)
  | cons a l₁ ih =>
    cases l₂ with
    | nil => simpa using h (key a)
    | cons b l₂ =>
      obtain ⟨ha, hl₁⟩ := List.pairwise_cons.mp h₁
      obtain ⟨hb, hl₂⟩ := List.pairwise_cons.mp h₂
      have hab : a ∈ (b :: l₂).filter (key · = key a) := h (key a) ▸ by simp
      have hba : b ∈ (a :: l₁).filter (key · = key b) := (h (key b)).symm ▸ by simp
      have hkey : key a = key b := by
        refine le_antisymm ?_ ?_
        · rcases List.mem_cons.mp (List.mem_filter.mp hba).1 with he | hm
          · rw [he]
          · exact ha b hm
        · rcases List.mem_cons.mp (List.mem_filter.mp hab).1 with he | hm
          · rw [he]
          · exact hb a hm
      have hhead := h (key a)
      rw [List.filter_cons_of_pos (by simp), List.filter_cons_of_pos (by simp [hkey])] at hhead
      obtain rfl := (List.cons.inj hhead).1
      refine congrArg (a :: ·) (ih hl₁ hl₂ fun v => ?_)
      have hv := h v
      by_cases hav : key a = v
      · rw [List.filter_cons_of_pos (by simp [hav]), List.filter_cons_of_pos (by simp [hav])] at hv
        exact (List.cons.inj hv).2
      · rwa [List.filter_cons_of_neg (by simp [hav]), List.filter_cons_of_neg (by simp [hav])] at hv

-- sorting by another key before changes nothing, where that key keeps apart no more
lemma sortBy_sortBy (h : ∀ a b, key a = key b → key' a = key' b) : sortBy key (sortBy key' l) = sortBy key l := by
  refine eq_of_sorted pairwise_sortBy pairwise_sortBy fun v => ?_
  have hsame : ∀ a ∈ l.filter (key · = v), ∀ b ∈ l.filter (key · = v), key a = key b := fun a ha b hb => by
    have ha := (List.mem_filter.mp ha).2
    have hb := (List.mem_filter.mp hb).2
    exact (of_decide_eq_true ha).trans (of_decide_eq_true hb).symm
  have hfixed : sortBy key' (l.filter (key · = v)) = l.filter (key · = v) :=
    sortBy_of_same fun a ha b hb => (h a b (hsame a ha b hb)).le
  rw [filter_sortBy, filter_sortBy, filter_sortBy, hfixed]

-- a sorted list falls into two at a key
lemma takeWhile_of_sorted (h : l.Pairwise fun a b => key a ≤ key b) :
    l.takeWhile (key · ≤ c) = l.filter (key · ≤ c) ∧ l.dropWhile (key · ≤ c) = l.filter (c < key ·) := by
  induction l with
  | nil => exact ⟨rfl, rfl⟩
  | cons a l ih =>
    obtain ⟨ha, hl⟩ := List.pairwise_cons.mp h
    by_cases hc : key a ≤ c
    · obtain ⟨h₁, h₂⟩ := ih hl
      simp [hc, h₁, h₂, not_lt.mpr hc]
    · have hlt := not_le.mp hc
      have hall : ∀ b ∈ l, c < key b := fun b hb => hlt.trans_le (ha b hb)
      have hnone : l.filter (key · ≤ c) = [] :=
        List.filter_eq_nil_iff.mpr fun b hb => by simpa using hall b hb
      have hfull : l.filter (c < key ·) = l := List.filter_eq_self.mpr fun b hb => by simpa using hall b hb
      simp [hc, hlt, hnone, hfull]

/-- Sorted, cut at a key, and the part before the cut turned round: from the key outwards. -/
lemma outward_eq : sortDown key ((sortBy key l).takeWhile (key · ≤ c)) ++ (sortBy key l).dropWhile (key · ≤ c) =
    sortDown key (l.filter (key · ≤ c)) ++ sortBy key (l.filter (c < key ·)) := by
  have hs : (sortBy key l).Pairwise fun a b => key a ≤ key b := pairwise_sortBy
  obtain ⟨h₁, h₂⟩ := takeWhile_of_sorted (c := c) hs
  rw [h₁, h₂, filter_sortBy, filter_sortBy]
  exact congrArg (· ++ _) (sortBy_sortBy fun a b h => OrderDual.toDual.injective h)

end VkVideoParser.StableSort
