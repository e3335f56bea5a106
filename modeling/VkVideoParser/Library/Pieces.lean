import Mathlib.Algebra.Order.Ring.Int

/-! Pieces joined into one buffer, each behind the same header, and the offsets at which they begin. -/

namespace VkVideoParser.Pieces

variable {α : Type} {header pre : List α} {l : List (List α)} {a : List α} {k i m : Nat}

def join (header : List α) : List (List α) → List α
  | [] => []
  | a :: l => header ++ a ++ join header l

def size (header : List α) (l : List (List α)) : Nat := (l.map fun a => header.length + a.length).sum

/-- Where each piece begins, the first one at `k`, and where the last one ends. -/
def offsets (header : List α) (k : Nat) : List (List α) → List Nat
  | [] => [k]
  | a :: l => k :: offsets header (k + (header.length + a.length)) l

/-- The parts of `data` between one offset and the next. -/
def cut (data : List α) : List Nat → List (List α)
  | i :: j :: is => (data.drop i).take (j - i) :: cut data (j :: is)
  | _ => []

@[simp] lemma size_nil : size header [] = 0 := rfl

@[simp] lemma size_cons : size header (a :: l) = header.length + a.length + size header l := List.sum_cons

@[simp] lemma length_join : (join header l).length = size header l := by
  induction l with
  | nil => rfl
  | cons a l ih => rw [join, List.length_append, List.length_append, ih, size_cons]

lemma join_append_singleton : join header (l ++ [a]) = join header l ++ header ++ a := by
  induction l with
  | nil => simp [join]
  | cons b l ih => simp only [List.cons_append, join, ih, List.append_assoc]

lemma size_append_singleton : size header (l ++ [a]) = size header l + (header.length + a.length) := by
  simp [size]

lemma offsets_append_singleton :
    offsets header k (l ++ [a]) = offsets header k l ++ [k + size header (l ++ [a])] := by
  induction l generalizing k with
  | nil => simp [offsets, size]
  | cons b l ih =>
    rw [List.cons_append, offsets, offsets, ih, List.cons_append, size_cons]
    simp only [List.cons.injEq, List.append_cancel_left_eq, and_true, true_and]
    omega

@[simp] lemma length_offsets : (offsets header k l).length = l.length + 1 := by
  induction l generalizing k with
  | nil => rfl
  | cons a l ih => rw [offsets, List.length_cons, ih, List.length_cons]

-- the offset of a piece is the size of the pieces before it
lemma offsets_getElem? (h : i ≤ l.length) : (offsets header k l)[i]? = some (k + size header (l.take i)) := by
  induction l generalizing i k with
  | nil =>
    obtain rfl : i = 0 := Nat.le_zero.mp h
    rfl
  | cons a l ih =>
    cases i with
    | zero => simp [offsets]
    | succ i =>
      rw [offsets, List.getElem?_cons_succ, ih (Nat.le_of_succ_le_succ h), List.take_succ_cons, size_cons]
      simp only [Option.some.injEq]
      omega

lemma offsets_getLastD : (offsets header k l).getLastD 0 = k + size header l := by
  have hlast : (offsets header k l).getLast? = some (k + size header l) := by
    rw [List.getLast?_eq_getElem?, length_offsets, Nat.add_sub_cancel, offsets_getElem? (Nat.le_refl _), List.take_length]
  rw [List.getLastD_eq_getLast?, hlast, Option.getD_some]

lemma offsets_le (h : i ∈ offsets header k l) : i ≤ k + size header l := by
  induction l generalizing k with
  | nil =>
    obtain rfl : i = k := by simpa [offsets] using h
    exact Nat.le_add_right _ _
  | cons a l ih =>
    rw [offsets, List.mem_cons] at h
    rw [size_cons]
    rcases h with rfl | h
    · exact Nat.le_add_right _ _
    · have := ih h
      omega

lemma cut_offsets (pre : List α) (h : k = pre.length) :
    cut (pre ++ join header l) (offsets header k l) = l.map fun a => header ++ a := by
  induction l generalizing pre k with
  | nil => rfl
  | cons a l ih =>
    have hnext := ih (pre ++ (header ++ a)) (k := k + (header.length + a.length)) (by simp [h])
    have hdata : pre ++ (header ++ a) ++ join header l = pre ++ join header (a :: l) := by
      simp only [join, List.append_assoc]
    have hpiece : ((pre ++ join header (a :: l)).drop k).take (k + (header.length + a.length) - k) = header ++ a := by
      rw [h, List.drop_left, Nat.add_sub_cancel_left, join, ← List.length_append, List.take_left]
    rw [hdata] at hnext
    cases l with
    | nil =>
      simp only [offsets, cut, List.map_cons, List.map_nil] at hnext ⊢
      rw [hpiece]
    | cons b l =>
      simp only [offsets, cut, List.map_cons] at hnext ⊢
      rw [hpiece, hnext]

-- cutting the buffer at the offsets gives the pieces back, each with its header
lemma cut_join : (cut (join header l) (offsets header 0 l)).map (List.drop header.length) = l := by
  have h : cut (join header l) (offsets header 0 l) = l.map fun a => header ++ a := cut_offsets [] rfl
  rw [h, List.map_map]
  conv_rhs => rw [← List.map_id l]
  refine List.map_congr_left fun a _ => ?_
  exact List.drop_left

-- the offsets and the end of the buffer
lemma offsets_take : (offsets header 0 l).take l.length ++ [size header l] = offsets header 0 l := by
  have hlast : (offsets header 0 l)[l.length]? = some (size header l) := by
    rw [offsets_getElem? (Nat.le_refl _), List.take_length, Nat.zero_add]
  have hsplit := List.take_append_drop l.length (offsets header 0 l)
  rw [List.drop_eq_getElem_cons (by simp), List.drop_eq_nil_of_le (by simp)] at hsplit
  rw [List.getElem?_eq_getElem (by simp), Option.some.injEq] at hlast
  rw [hlast] at hsplit
  exact hsplit

lemma map_mod_of_lt {l : List Nat} (h : ∀ i ∈ l, i < m) : l.map (· % m) = l := by
  conv_rhs => rw [← List.map_id l]
  exact List.map_congr_left fun i hi => Nat.mod_eq_of_lt (h i hi)

end VkVideoParser.Pieces
