import VkVideoParser.Library.Histories
import Mathlib.Data.List.Nodup
import Mathlib.Tactic.Common

/-! Resources that are opened, used and closed, as the history of it tells, newest first. -/

namespace VkVideoParser.Ledger

open Histories

variable {ρ : Type} [DecidableEq ρ]

inductive Entry (ρ : Type)
  | opened (r : ρ)
  | used (r : ρ)
  | closed (r : ρ)
  deriving DecidableEq, Repr

def live : List (Entry ρ) → List ρ
  | [] => []
  | .opened r :: l => r :: live l
  | .used _ :: l => live l
  | .closed r :: l => (live l).erase r

/-- Nothing is opened again, and only what is open is used or closed. -/
def Fits (l : List (Entry ρ)) : Entry ρ → Prop
  | .opened r => .opened r ∉ l
  | .used r => r ∈ live l
  | .closed r => r ∈ live l

abbrev Valid (l : List (Entry ρ)) : Prop := Always Fits l

variable {l : List (Entry ρ)} {r q : ρ}

@[simp] lemma live_nil : live ([] : List (Entry ρ)) = [] := rfl

@[simp] lemma live_opened : live (.opened r :: l) = r :: live l := rfl

@[simp] lemma live_used : live (.used r :: l) = live l := rfl

@[simp] lemma live_closed : live (.closed r :: l) = (live l).erase r := rfl

lemma opened_of_mem_live (h : r ∈ live l) : .opened r ∈ l := by
  induction l with
  | nil => cases h
  | cons e l ih =>
    cases e with
    | opened q =>
      rcases List.mem_cons.mp h with rfl | h
      · exact List.mem_cons_self
      · exact List.mem_cons_of_mem _ (ih h)
    | used q => exact List.mem_cons_of_mem _ (ih h)
    | closed q => exact List.mem_cons_of_mem _ (ih (List.mem_of_mem_erase h))

namespace Valid

-- what was opened was closed once, or it is open
lemma count_eq (h : Valid l) (r : ρ) : l.count (.closed r) + (live l).count r = l.count (.opened r) := by
  induction l with
  | nil => rfl
  | cons e l ih =>
    have ih := ih h.2
    cases e with
    | opened q => simp only [List.count_cons, live_opened, beq_iff_eq, Entry.opened.injEq, reduceCtorEq, if_false]; omega
    | used q => simpa [List.count_cons] using ih
    | closed q =>
      have hq : q ∈ live l := h.1
      by_cases hqr : q = r
      · subst hqr
        have hpos := List.count_pos_iff.mpr hq
        simp only [List.count_cons, live_closed, List.count_erase_self, beq_self_eq_true, if_true, beq_iff_eq,
          reduceCtorEq, if_false]
        omega
      · simp only [List.count_cons, live_closed, List.count_erase_of_ne (Ne.symm hqr), beq_iff_eq, Entry.closed.injEq, hqr,
          reduceCtorEq, if_false]
        exact ih

lemma count_opened_le_one (h : Valid l) (r : ρ) : l.count (.opened r) ≤ 1 := by
  induction l with
  | nil => exact Nat.zero_le _
  | cons e l ih =>
    cases e with
    | opened q =>
      by_cases hqr : q = r
      · subst hqr
        rw [List.count_cons_self, List.count_eq_zero_of_not_mem h.1]
      · rw [List.count_cons_of_ne (by simpa using hqr)]
        exact ih h.2
    | used q | closed q =>
      rw [List.count_cons_of_ne (by simp)]
      exact ih h.2

lemma not_closed (h : Valid l) (hr : r ∈ live l) : .closed r ∉ l := by
  have hle := h.count_opened_le_one r
  have heq := h.count_eq r
  have hpos := List.count_pos_iff.mpr hr
  exact List.count_eq_zero.mp (by omega)

lemma closed_once (h : Valid l) (hr : .opened r ∈ l) (hl : r ∉ live l) : l.count (.closed r) = 1 := by
  have hle := h.count_opened_le_one r
  have heq := h.count_eq r
  have hpos := List.count_pos_iff.mpr hr
  rw [List.count_eq_zero_of_not_mem hl] at heq
  omega

lemma mem_live (h : Valid l) (ho : .opened r ∈ l) (hc : .closed r ∉ l) : r ∈ live l := by
  have heq := h.count_eq r
  have hpos := List.count_pos_iff.mpr ho
  rw [List.count_eq_zero_of_not_mem hc] at heq
  exact List.count_pos_iff.mp (by omega)

lemma opened_of_closed (h : Valid l) (hr : .closed r ∈ l) : .opened r ∈ l := by
  have heq := h.count_eq r
  have hpos := List.count_pos_iff.mpr hr
  exact List.count_pos_iff.mp (by omega)

end Valid

end VkVideoParser.Ledger
