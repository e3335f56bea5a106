import Mathlib.Data.List.Basic
import Mathlib.Order.Lattice

/-! The first one with the lowest key among those of a list that wait, with its place. -/

namespace VkVideoParser.Lowest

variable {α κ : Type} [LinearOrder κ] (waits : α → Bool) (key : α → κ)

/-- The better one of the one found so far and `a`, which stands at `i`. -/
def pick (i : Nat) (a : α) (lowest : Option (Nat × α)) : Option (Nat × α) :=
  if waits a then
    match lowest with
    | none => some (i, a)
    | some b => if key a < key b.2 then some (i, a) else lowest
  else lowest

def lowestFrom : Nat → List α → Option (Nat × α) → Option (Nat × α)
  | _, [], lowest => lowest
  | i, a :: l, lowest => lowestFrom (i + 1) l (pick waits key i a lowest)

/-- The one that waits at the place `i` has the lowest key, and is the first one that has it. -/
structure IsLowest (l : List α) (i : Nat) (a : α) : Prop where
  place : l[i]? = some a
  waiting : waits a
  le : ∀ b ∈ l, waits b → key a ≤ key b
  first : ∀ b ∈ l.take i, waits b → key a < key b

/-- What was found in a beginning of the list. -/
def Found (l : List α) : Option (Nat × α) → Prop
  | none => ∀ a ∈ l, waits a = false
  | some r => IsLowest waits key l r.1 r.2

variable {waits key} {l m : List α} {lowest : Option (Nat × α)} {i : Nat} {a b : α}

lemma IsLowest.lt_length (h : IsLowest waits key l i a) : i < l.length := (List.getElem?_eq_some_iff.mp h.place).1

lemma IsLowest.mem (h : IsLowest waits key l i a) : a ∈ l := List.mem_of_getElem? h.place

-- one more at the end, no lower than the one found
lemma IsLowest.append (h : IsLowest waits key l i a) (hb : waits b → key a ≤ key b) :
    IsLowest waits key (l ++ [b]) i a := by
  refine ⟨(List.getElem?_append_left h.lt_length).trans h.place, h.waiting, fun c hc hw => ?_, fun c hc => ?_⟩
  · rcases List.mem_append.mp hc with hc | hc
    · exact h.le c hc hw
    · obtain rfl := List.mem_singleton.mp hc
      exact hb hw
  · rw [List.take_append_of_le_length (Nat.le_of_lt h.lt_length)] at hc
    exact h.first c hc

-- one more at the end, lower than all before it
lemma isLowest_append (hw : waits b) (h : ∀ c ∈ l, waits c → key b < key c) :
    IsLowest waits key (l ++ [b]) l.length b := by
  refine ⟨List.getElem?_concat_length, hw, fun c hc hwc => ?_, fun c hc hwc => ?_⟩
  · rcases List.mem_append.mp hc with hc | hc
    · exact (h c hc hwc).le
    · obtain rfl := List.mem_singleton.mp hc
      exact le_rfl
  · rw [List.take_left] at hc
    exact h c hc hwc

lemma Found.pick (h : Found waits key l lowest) (b : α) :
    Found waits key (l ++ [b]) (Lowest.pick waits key l.length b lowest) := by
  unfold Lowest.pick
  by_cases hw : waits b
  · rw [if_pos hw]
    cases lowest with
    | none => exact isLowest_append hw fun c hc hwc => by rw [h c hc] at hwc; cases hwc
    | some r =>
      have h : IsLowest waits key l r.1 r.2 := h
      simp only
      split
      · rename_i hlt
        exact isLowest_append hw fun c hc hwc => hlt.trans_le (h.le c hc hwc)
      · rename_i hge
        exact h.append fun _ => not_lt.mp hge
  · rw [if_neg hw]
    cases lowest with
    | none =>
      intro c hc
      rcases List.mem_append.mp hc with hc | hc
      · exact h c hc
      · obtain rfl := List.mem_singleton.mp hc
        exact Bool.not_eq_true _ ▸ hw
    | some r => exact IsLowest.append h fun h => absurd h hw

lemma Found.lowestFrom (h : Found waits key l lowest) :
    Found waits key (l ++ m) (lowestFrom waits key l.length m lowest) := by
  induction m generalizing l lowest with
  | nil =>
    rw [List.append_nil]
    exact h
  | cons b m ih =>
    have := ih (h.pick b)
    rw [List.append_assoc, List.length_append] at this
    exact this

lemma found_lowestFrom (l : List α) : Found waits key l (lowestFrom waits key 0 l none) :=
  Found.lowestFrom (l := []) (show Found waits key [] none from fun _ h => absurd h List.not_mem_nil)

end VkVideoParser.Lowest
