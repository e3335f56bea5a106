import Mathlib.Algebra.Order.Ring.Int
import Mathlib.Data.List.Basic

/-! The elements of a stretch of a list that are kept are moved down within the list. What stands behind them then is
left as it was. -/

namespace VkVideoParser.Compaction

variable {α ε : Type} {keep : α → Except ε Bool} {p : α → Bool} {rest : List α} {e : ε}

/-- The `n` elements from `src` on are looked at, and those to keep are written from `dst` on. -/
def compact (keep : α → Except ε Bool) : Nat → Nat → Nat → List α → Except ε (List α)
  | 0, _, _, l => .ok l
  | n + 1, src, dst, l =>
    match l[src]? with
    | none => .ok l
    | some a =>
      match keep a with
      | .error e => .error e
      | .ok false => compact keep n (src + 1) dst l
      | .ok true => compact keep n (src + 1) (dst + 1) (l.set dst a)

lemma getElem?_middle (done gap : List α) (a : α) : (done ++ gap ++ a :: rest)[done.length + gap.length]? = some a := by
  rw [List.getElem?_append_right (by simp), List.length_append, Nat.sub_self]
  rfl

-- the elements of `gap` have been looked at
lemma compact_eq (done gap tail : List α) (hkeep : ∀ a ∈ rest, keep a = .ok (p a)) :
    compact keep rest.length (done.length + gap.length) done.length (done ++ gap ++ rest ++ tail) =
      .ok (done ++ rest.filter p ++ (gap ++ rest).drop (rest.filter p).length ++ tail) := by
  induction rest generalizing done gap with
  | nil => simp [compact]
  | cons a rest ih =>
    have hrest : ∀ b ∈ rest, keep b = .ok (p b) := fun b hb => hkeep b (List.mem_cons_of_mem a hb)
    have hget : (done ++ gap ++ a :: rest ++ tail)[done.length + gap.length]? = some a := by
      rw [List.append_assoc, List.cons_append, getElem?_middle]
    rw [List.length_cons, compact, hget]
    simp only [hkeep a List.mem_cons_self]
    cases hp : p a with
    | false =>
      have h := ih done (gap ++ [a]) hrest
      simpa [hp, Nat.add_assoc] using h
    | true =>
      cases gap with
      | nil =>
        have h := ih (done ++ [a]) [] hrest
        simpa [hp] using h
      | cons g gap =>
        have h := ih (done ++ [a]) (gap ++ [a]) hrest
        simpa [hp, Nat.add_assoc, Nat.add_comm 1] using h

lemma compact_error (done gap tail : List α) (hkeep : ∀ a ∈ rest, keep a = .ok (p a) ∨ keep a = .error e)
    (he : ∃ a ∈ rest, keep a = .error e) :
    compact keep rest.length (done.length + gap.length) done.length (done ++ gap ++ rest ++ tail) = .error e := by
  induction rest generalizing done gap with
  | nil => exact absurd he.choose_spec.1 List.not_mem_nil
  | cons a rest ih =>
    have hrest : ∀ b ∈ rest, keep b = .ok (p b) ∨ keep b = .error e := fun b hb => hkeep b (List.mem_cons_of_mem a hb)
    have hget : (done ++ gap ++ a :: rest ++ tail)[done.length + gap.length]? = some a := by
      rw [List.append_assoc, List.cons_append, getElem?_middle]
    rw [List.length_cons, compact, hget]
    rcases hkeep a List.mem_cons_self with ha | ha
    · have he : ∃ b ∈ rest, keep b = .error e := by
        obtain ⟨b, hb, hbe⟩ := he
        rcases List.mem_cons.mp hb with rfl | hb
        · cases ha.symm.trans hbe
        · exact ⟨b, hb, hbe⟩
      simp only [ha]
      cases p a with
      | false =>
        have h := ih done (gap ++ [a]) hrest he
        simpa [Nat.add_assoc] using h
      | true =>
        cases gap with
        | nil =>
          have h := ih (done ++ [a]) [] hrest he
          simpa using h
        | cons g gap =>
          have h := ih (done ++ [a]) (gap ++ [a]) hrest he
          simpa [Nat.add_assoc, Nat.add_comm 1] using h
    · simp only [ha]

end VkVideoParser.Compaction
