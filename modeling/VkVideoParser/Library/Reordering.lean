import Mathlib.Data.List.Count
import Mathlib.Data.List.Perm.Subperm
import Mathlib.Order.Lattice
import VkVideoParser.Library.Histories
import VkVideoParser.Library.Lowest

/-! Items are put in one after another and taken out in the order of their keys, the lowest of those inside as soon as
more than a limit are inside. A history lists its steps newest first. -/

namespace VkVideoParser.Reordering

open Histories

variable {κ : Type}

/-- Whether an item begins a period, and then whether something of the period before is still inside. -/
inductive Opening
  | none | clean | dirty
  deriving DecidableEq

/-- An item comes, one that is taken out some time or not, or the lowest one is taken out since more than `limit` are
inside. -/
inductive Step (κ : Type)
  | come (opening : Opening) (shown : Bool) (key : κ)
  | take (limit : Nat) (key : κ)

/-- The keys of the period, newest first. -/
def keys : List (Step κ) → List κ
  | [] => []
  | .come opening shown a :: l =>
    let old := if opening = .none then keys l else []
    if shown then a :: old else old
  | .take _ _ :: l => keys l

def taken : List (Step κ) → List (Nat × κ)
  | [] => []
  | .come opening _ _ :: l => if opening = .none then taken l else []
  | .take n a :: l => (n, a) :: taken l

def isClean : List (Step κ) → Bool
  | [] => true
  | .come .none _ _ :: l => isClean l
  | .come .clean _ _ :: _ => true
  | .come .dirty _ _ :: _ => false
  | .take _ _ :: l => isClean l

variable [LinearOrder κ] {l : List (Step κ)} {n : Nat} {a b : κ}

/-- No item comes after more than `n` items with higher keys. -/
def Reorders (n : Nat) : List κ → Prop
  | [] => True
  | a :: l => l.countP (a < ·) ≤ n ∧ Reorders n l

instance decidableReorders (n : Nat) : (l : List κ) → Decidable (Reorders n l)
  | [] => .isTrue trivial
  | a :: l =>
    have := decidableReorders n l
    inferInstanceAs (Decidable (l.countP (a < ·) ≤ n ∧ Reorders n l))

/-- What is taken out is the lowest one of more than the limit. -/
def Deep (l : List (Step κ)) : Step κ → Prop
  | .take n a => isClean l → n < (keys l).countP (a ≤ ·)
  | _ => True

/-- What was taken out is lower than what comes. -/
def Ordered (l : List (Step κ)) : Step κ → Prop
  | .come .none _ b => isClean l → b ∉ keys l → ∀ r ∈ taken l, Reorders r.1 (b :: keys l) → r.2 < b
  | _ => True

lemma deep_taken (hl : Always Deep l) (hc : isClean l) : ∀ r ∈ taken l, r.1 < (keys l).countP (r.2 ≤ ·) := by
  induction l with
  | nil => exact fun r hr => absurd hr List.not_mem_nil
  | cons e l ih =>
    cases e with
    | come opening shown a =>
      cases opening with
      | none =>
        intro r hr
        refine (ih hl.2 hc r hr).trans_le ?_
        simp only [keys, if_true]
        split
        · exact (List.sublist_cons_self a _).countP_le
        · exact le_rfl
      | clean | dirty => exact fun r hr => absurd hr List.not_mem_nil
    | take n a =>
      rintro r (_ | ⟨_, hr⟩)
      · exact hl.1 hc
      · exact ih hl.2 hc r hr

theorem ordered_of_deep (hl : Always Deep l) : Always Ordered l := by
  induction l with
  | nil => trivial
  | cons e l ih =>
    refine ⟨?_, ih hl.2⟩
    cases e with
    | take n a => trivial
    | come opening shown b =>
      cases opening with
      | clean | dirty => trivial
      | none =>
        intro hc hb r hr hn
        by_contra hle
        have hall : (keys l).countP (r.2 ≤ ·) ≤ (keys l).countP (b < ·) := by
          refine List.countP_mono_left fun a ha har => ?_
          have hba : b ≤ a := (not_lt.mp hle).trans (of_decide_eq_true har)
          exact decide_eq_true (lt_of_le_of_ne hba fun h => hb (h ▸ ha))
        exact absurd (hall.trans hn.1) (not_le.mpr (deep_taken hl.2 hc r hr))

section Inside

open Lowest

variable {α : Type} {waits waits' : α → Bool} {key key' : α → κ} {m m' : List α}

/-- The keys of those that wait. -/
def inside (waits : α → Bool) (key : α → κ) (m : List α) : List κ := (m.filter waits).map key

omit [LinearOrder κ] in
lemma inside_subperm (hm : m'.Subperm m) (h : ∀ c ∈ m', waits' c → waits c ∧ key' c = key c) :
    (inside waits' key' m').Subperm (inside waits key m) := by
  have hkey : inside waits' key' m' = (m'.filter waits').map key := List.map_congr_left fun c hc =>
    (h c (List.mem_of_mem_filter hc) (List.of_mem_filter hc)).2
  have hsub : (m'.filter waits').Sublist (m'.filter waits) := by
    have hboth : m'.filter waits' = (m'.filter waits).filter waits' := by
      rw [List.filter_filter]
      refine List.filter_congr fun c hc => ?_
      cases hw : waits' c with
      | false => rfl
      | true => rw [(h c hc hw).1]; rfl
    rw [hboth]
    exact List.filter_sublist
  obtain ⟨u, hu, hum⟩ := hsub.subperm.trans (List.Subperm.filter waits hm)
  rw [hkey]
  exact ⟨u.map key, hu.map key, hum.map key⟩

omit [LinearOrder κ] in
lemma inside_append {c : α} : inside waits key (m ++ [c]) = inside waits key m ++ if waits c then [key c] else [] := by
  unfold inside
  rw [List.filter_append, List.map_append, List.filter_singleton]
  cases waits c <;> rfl

lemma countP_inside {i : Nat} {c : α} (h : IsLowest waits key m i c) :
    (inside waits key m).countP (key c ≤ ·) = m.countP waits := by
  rw [List.countP_eq_length.mpr, inside, List.length_map, List.countP_eq_length_filter]
  intro a ha
  obtain ⟨b, hb, rfl⟩ := List.mem_map.mp ha
  exact decide_eq_true (h.le b (List.mem_of_mem_filter hb) (List.of_mem_filter hb))

/-- What waits came in this period, and all that was taken out was the lowest one of more than the limit. -/
structure Queued (waits : α → Bool) (key : α → κ) (m : List α) (l : List (Step κ)) : Prop where
  came : isClean l → (inside waits key m).Subperm (keys l)
  deep : Always Deep l

lemma Queued.fewer (h : Queued waits key m l) (hm : m'.Subperm m)
    (hw : ∀ c ∈ m', waits' c → waits c ∧ key' c = key c) : Queued waits' key' m' l :=
  ⟨fun hc => (inside_subperm hm hw).trans (h.came hc), h.deep⟩

-- what is not put in may be taken out at once
lemma Queued.come (h : Queued waits key m l) {opening : Opening} (hopen : opening = .clean → ∀ c ∈ m, waits c = false)
    (shown : Bool) (b : κ) : Queued waits key m (.come opening shown b :: l) := by
  refine ⟨fun hc => ?_, trivial, h.deep⟩
  cases opening with
  | none =>
    refine (h.came hc).trans ?_
    cases shown with
    | false => exact List.Subperm.refl _
    | true => exact (List.sublist_cons_self b _).subperm
  | clean =>
    have hnil : inside waits key m = [] := by
      rw [inside, List.filter_eq_nil_iff.mpr fun c hw => by rw [hopen rfl c hw]; exact Bool.false_ne_true]
      rfl
    rw [hnil]
    exact List.nil_subperm
  | dirty => cases hc

lemma Queued.put (h : Queued waits key m l) {opening : Opening} (hopen : opening = .clean → ∀ c ∈ m, waits c = false)
    {shown : Bool} {c : α} (hw : ∀ b ∈ m, waits' b → waits b ∧ key' b = key b) (hc : waits' c → shown) :
    Queued waits' key' (m ++ [c]) (.come opening shown (key' c) :: l) := by
  refine ⟨fun hclean => ?_, trivial, h.deep⟩
  have hold : (inside waits' key' m).Subperm (if opening = .none then keys l else []) := by
    have hsub := inside_subperm (List.Subperm.refl m) hw
    cases opening with
    | none => exact hsub.trans (h.came hclean)
    | clean =>
      have hcome := (h.come hopen false (key' c)).came hclean
      exact hsub.trans hcome
    | dirty => cases hclean
  rw [inside_append]
  cases hwc : waits' c with
  | false =>
    rw [if_neg Bool.false_ne_true, List.append_nil]
    cases shown with
    | false => exact hold
    | true => exact hold.trans (List.sublist_cons_self _ _).subperm
  | true =>
    rw [hc hwc]
    exact (List.perm_append_singleton _ _).subperm.trans ((List.subperm_cons _).mpr hold)

lemma Queued.take (h : Queued waits key m l) {i : Nat} {c : α} (hc : IsLowest waits key m i c) {n : Nat}
    (hn : n < m.countP waits) : Queued waits key m (.take n (key c) :: l) := by
  refine ⟨h.came, fun hclean => ?_, h.deep⟩
  calc n < (inside waits key m).countP (key c ≤ ·) := hn.trans_eq (countP_inside hc).symm
    _ ≤ (keys l).countP (key c ≤ ·) := (h.came hclean).countP_le _

end Inside

end VkVideoParser.Reordering
