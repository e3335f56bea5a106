import Mathlib.Data.List.Basic

/-! Loops that fill arrays, as the writes they make: each value with its place. -/

namespace VkVideoParser.Writes

variable {α β : Type}

/-- Every write is below the end of an array of `n` entries. -/
def Below (n : Nat) (writes : List (β × Nat)) : Prop := ∀ w ∈ writes, w.2 < n

instance (n : Nat) (writes : List (β × Nat)) : Decidable (Below n writes) := inferInstanceAs (Decidable (∀ w ∈ _, _))

/-- The loop that puts the values of the chosen elements into one array and those of the others into another, with a
counter for each. -/
def split (chosen : α → Bool) (value : α → β) : Nat → Nat → List α → List (β × Nat) × List (β × Nat)
  | _, _, [] => ([], [])
  | j, k, a :: l =>
    if chosen a then
      let writes := split chosen value (j + 1) k l
      ((value a, j) :: writes.1, writes.2)
    else
      let writes := split chosen value j (k + 1) l
      (writes.1, (value a, k) :: writes.2)

/-- The loop that lists the chosen elements and stops when its array is full. -/
def fill (chosen : α → Bool) (size : Nat) : Nat → List α → List (α × Nat)
  | _, [] => []
  | n, a :: l => if chosen a then if size ≤ n then [] else (a, n) :: fill chosen size (n + 1) l else fill chosen size n l

-- the next element that is there, with what comes after it
def next : List (Option α) → Option (α × List (Option α))
  | [] => none
  | none :: l => next l
  | some a :: l => some (a, l)

/-- The loop of `n` rounds that looks up in each the next element that is there, and writes what is found at the
place of the round. -/
def compact (find : α → Option β) : Nat → Nat → List (Option α) → List (β × Nat)
  | 0, _, _ => []
  | n + 1, i, l =>
    match next l with
    | none => compact find n (i + 1) []
    | some (a, rest) => ((find a).map fun b => (b, i)).toList ++ compact find n (i + 1) rest

/-- The array after the writes, whose places count from `base`. -/
def into (base : Nat) (writes : List (β × Nat)) (array : List β) : List β :=
  writes.foldl (fun array w => array.set (base + w.2) w.1) array

variable {chosen : α → Bool} {value : α → β} {find : α → Option β} {a : α} {l : List α} {m rest : List (Option α)}
  {n i size : Nat}

@[simp] lemma below_nil : Below n ([] : List (β × Nat)) := by
  intro w hw
  cases hw

lemma below_zipIdx {l : List β} : Below n (l.zipIdx i) ↔ l = [] ∨ i + l.length ≤ n := by
  induction l generalizing i with
  | nil => simp
  | cons b l ih =>
    have hcons : Below n ((b :: l).zipIdx i) ↔ i < n ∧ Below n (l.zipIdx (i + 1)) := List.forall_mem_cons
    rw [hcons, ih]
    simp only [reduceCtorEq, false_or, List.length_cons]
    constructor
    · rintro ⟨hi, rfl | hl⟩
      · exact hi
      · omega
    · intro h
      exact ⟨by omega, .inr (by omega)⟩

lemma below_zipIdx_zero {l : List β} : Below n l.zipIdx ↔ l.length ≤ n := by
  rw [below_zipIdx, Nat.zero_add]
  constructor
  · rintro (rfl | h)
    · exact Nat.zero_le n
    · exact h
  · exact .inr

/-- Each of the two arrays gets its values in order, from the place where its counter stands. -/
lemma split_eq (j k : Nat) (l : List α) : split chosen value j k l =
    (((l.filter chosen).map value).zipIdx j, ((l.filter fun a => !chosen a).map value).zipIdx k) := by
  induction l generalizing j k with
  | nil => rfl
  | cons a l ih =>
    rw [split]
    by_cases h : chosen a
    · rw [if_pos h, ih, List.filter_cons_of_pos h, List.filter_cons_of_neg (by simp [h])]
      rfl
    · rw [if_neg h, ih, List.filter_cons_of_neg h, List.filter_cons_of_pos (by simp [h])]
      rfl

lemma fill_eq (l : List α) : fill chosen size n l = ((l.filter chosen).take (size - n)).zipIdx n := by
  induction l generalizing n with
  | nil => simp [fill]
  | cons a l ih =>
    rw [fill]
    by_cases h : chosen a
    · rw [if_pos h, List.filter_cons_of_pos h]
      by_cases hn : size ≤ n
      · rw [if_pos hn, Nat.sub_eq_zero_of_le hn, List.take_zero, List.zipIdx_nil]
      · obtain ⟨m, hm⟩ : ∃ m, size - n = m + 1 := ⟨size - n - 1, by omega⟩
        rw [if_neg hn, ih, hm, List.take_succ_cons, List.zipIdx_cons, show size - (n + 1) = m by omega]
    · rw [if_neg h, ih, List.filter_cons_of_neg h]

lemma below_fill (l : List α) : Below size (fill chosen size 0 l) := by
  rw [fill_eq, below_zipIdx_zero]
  exact List.length_take_le _ _

lemma present_of_next_none (h : next m = none) : m.filterMap id = [] := by
  induction m with
  | nil => rfl
  | cons o m ih =>
    cases o with
    | none => exact ih h
    | some a => cases h

lemma present_of_next (h : next m = some (a, rest)) : m.filterMap id = a :: rest.filterMap id := by
  induction m with
  | nil => cases h
  | cons o m ih =>
    cases o with
    | none => exact ih h
    | some b =>
      cases h
      rfl

lemma compact_congr {find' : α → Option β} (h : ∀ a ∈ m.filterMap id, find a = find' a) :
    compact find n i m = compact find' n i m := by
  induction n generalizing i m with
  | zero => rfl
  | succ n ih =>
    rw [compact, compact]
    cases hn : next m with
    | none => exact ih (by simp)
    | some a =>
      obtain ⟨a, rest⟩ := a
      rw [present_of_next hn] at h
      change ((find a).map fun b => (b, i)).toList ++ compact find n (i + 1) rest = _
      rw [h a List.mem_cons_self, ih fun b hb => h b (List.mem_cons_of_mem _ hb)]

lemma compact_eq (m : List (Option α)) : compact find n i m =
    (((m.filterMap id).take n).zipIdx i).filterMap fun a => (find a.1).map fun b => (b, a.2) := by
  induction n generalizing i m with
  | zero => rfl
  | succ n ih =>
    rw [compact]
    cases h : next m with
    | none =>
      rw [ih, present_of_next_none h]
      simp
    | some a =>
      obtain ⟨a, rest⟩ := a
      change ((find a).map fun b => (b, i)).toList ++ compact find n (i + 1) rest = _
      rw [ih, present_of_next h, List.take_succ_cons, List.zipIdx_cons, List.filterMap_cons]
      cases find a <;> rfl

/-- When everything is found the writes are as many as the elements, or the rounds. -/
lemma compact_of_found (h : ∀ a ∈ m.filterMap id, (find a).isSome) (d : β) :
    compact find n 0 m = (((m.filterMap id).take n).map fun a => (find a).getD d).zipIdx := by
  rw [compact_eq]
  have hall : ∀ a ∈ (m.filterMap id).take n, (find a).isSome := fun a ha => h a (List.mem_of_mem_take ha)
  generalize (m.filterMap id).take n = l at hall
  generalize 0 = i
  induction l generalizing i with
  | nil => rfl
  | cons a l ih =>
    obtain ⟨b, hb⟩ := Option.isSome_iff_exists.mp (hall a List.mem_cons_self)
    have hrest := ih (fun a ha => hall a (List.mem_cons_of_mem _ ha)) (i + 1)
    rw [List.zipIdx_cons, List.filterMap_cons_some (b := (b, i)) (by rw [hb]; rfl), hrest, List.map_cons,
      List.zipIdx_cons, hb]
    rfl

lemma below_compact (h : ∀ a ∈ m.filterMap id, (find a).isSome) :
    Below size (compact find n 0 m) ↔ min n (m.filterMap id).length ≤ size := by
  by_cases hm : m.filterMap id = []
  · rw [compact_eq, hm]
    simp
  · obtain ⟨a, ha⟩ := List.exists_mem_of_ne_nil _ hm
    obtain ⟨d, -⟩ := Option.isSome_iff_exists.mp (h a ha)
    rw [compact_of_found h d, below_zipIdx_zero, List.length_map, List.length_take]

section Into

variable {base j : Nat} {array values : List β} {w : β × Nat} {writes : List (β × Nat)}

@[simp] lemma into_nil : into base [] array = array := rfl

lemma into_cons : into base (w :: writes) array = into base writes (array.set (base + w.2) w.1) := rfl

@[simp] lemma length_into : (into base writes array).length = array.length := by
  induction writes generalizing array with
  | nil => rfl
  | cons w writes ih => rw [into_cons, ih, List.length_set]

lemma take_into : (into base writes array).take n = into base writes (array.take n) := by
  induction writes generalizing array with
  | nil => rfl
  | cons w writes ih => rw [into_cons, into_cons, ih, List.take_set]

/-- Values that are written one after the other stand there, as far as the array goes. -/
lemma into_zipIdx_getElem? : (into base (values.zipIdx i) array)[j]? =
    if base + i ≤ j ∧ j < base + i + values.length ∧ j < array.length then values[j - (base + i)]? else array[j]? := by
  induction values generalizing i array with
  | nil =>
    rw [List.zipIdx_nil, into_nil, if_neg]
    rintro ⟨hle, hlt, -⟩
    exact absurd hle (Nat.not_le.mpr hlt)
  | cons b values ih =>
    rw [List.zipIdx_cons, into_cons, ih, List.length_set, List.length_cons, List.getElem?_set]
    by_cases heq : base + i = j
    · subst heq
      rw [if_neg (by omega), if_pos rfl, Nat.sub_self, List.getElem?_cons_zero]
      by_cases hlt : base + i < array.length
      · rw [if_pos hlt, if_pos ⟨Nat.le_refl _, by omega, hlt⟩]
      · rw [if_neg hlt, if_neg fun h => hlt h.2.2, List.getElem?_eq_none (Nat.le_of_not_lt hlt)]
    · rw [if_neg heq]
      by_cases hj : base + (i + 1) ≤ j
      · have hsub : j - (base + i) = j - (base + (i + 1)) + 1 := by omega
        rw [hsub, List.getElem?_cons_succ]
        refine if_congr ?_ rfl rfl
        omega
      · rw [if_neg (by omega), if_neg (by omega)]

-- an array of one value, filled from its beginning
lemma into_replicate {d : β} (h : values.length ≤ n) :
    into 0 values.zipIdx (List.replicate n d) = values ++ List.replicate (n - values.length) d := by
  refine List.ext_getElem? fun j => ?_
  rw [into_zipIdx_getElem?, Nat.zero_add, Nat.zero_add, List.length_replicate, Nat.sub_zero, List.getElem?_append]
  by_cases hj : j < values.length
  · rw [if_pos ⟨Nat.zero_le j, hj, by omega⟩, if_pos hj]
  · rw [if_neg fun hlt => hj hlt.2.1, if_neg hj, List.getElem?_replicate, List.getElem?_replicate]
    exact if_congr (by omega) rfl rfl

end Into

end VkVideoParser.Writes
