import Mathlib.Algebra.Order.Ring.Int
import Mathlib.Data.List.Perm.Basic
import Mathlib.Data.List.Basic

/-! Two lists taken from in turn. What is left of one when the other has ended comes after. -/

namespace VkVideoParser.Alternation

variable {α : Type} {xs ys l : List α} {p : α → Bool}

def alternate : List α → List α → List α
  | [], ys => ys
  | x :: xs, [] => x :: xs
  | x :: xs, y :: ys => x :: y :: alternate xs ys

@[simp] lemma alternate_nil : alternate xs [] = xs := by cases xs <;> rfl

-- a turn takes one of each, as long as there is one
lemma alternate_turn (xs ys : List α) : alternate xs ys = xs.head?.toList ++ ys.head?.toList ++ alternate xs.tail ys.tail := by
  cases xs with
  | nil => cases ys <;> rfl
  | cons x xs =>
    cases ys with
    | nil => simp [alternate]
    | cons y ys => rfl

lemma perm_alternate : (alternate xs ys).Perm (xs ++ ys) := by
  induction xs generalizing ys with
  | nil => exact .refl ys
  | cons x xs ih =>
    cases ys with
    | nil => simp [alternate]
    | cons y ys =>
      refine List.Perm.cons x ?_
      exact (List.Perm.cons y ih).trans List.perm_middle.symm

/-- The way up to the first element that is chosen, and what is left then. -/
def scan (p : α → Bool) : List α → Option α × List α
  | [] => (none, [])
  | a :: l => if p a then (some a, l) else scan p l

lemma scan_spec (p : α → Bool) (l : List α) : (scan p l).1 = (l.filter p).head? ∧ (scan p l).2.filter p = (l.filter p).tail := by
  induction l with
  | nil => exact ⟨rfl, rfl⟩
  | cons a l ih =>
    by_cases h : p a
    · simp [scan, h]
    · simpa [scan, h] using ih

lemma length_scan_le : (scan p l).2.length ≤ l.length - 1 := by
  induction l with
  | nil => exact le_rfl
  | cons a l ih =>
    rw [scan]
    split
    · exact le_rfl
    · exact ih.trans (by simp)

end VkVideoParser.Alternation
