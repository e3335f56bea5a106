import Mathlib.Algebra.Order.Ring.Int
import Mathlib.Data.List.Flatten

/-! Units that follow one another in a buffer, each behind its length. -/

namespace VkVideoParser.Framing

variable {β : Type} {find : Nat → Option (β × Nat)} {l m : List β} {i j k n w : Nat}

/-- From the offset `i` on the units `l` are found one after the other, and the last one ends at `j`. -/
inductive Found (find : Nat → Option (β × Nat)) : Nat → List β → Nat → Prop
  | nil {i : Nat} : Found find i [] i
  | cons {b : β} {i next j : Nat} {l : List β} : find i = some (b, next) → Found find next l j → Found find i (b :: l) j

def bigEndian : Nat → Nat → List UInt8
  | 0, _ => []
  | w + 1, n => bigEndian w (n / 256) ++ [UInt8.ofNat n]

def read (l : List UInt8) : Nat := l.foldl (fun n b => n * 256 + b.toNat) 0

@[simp] lemma length_bigEndian : (bigEndian w n).length = w := by
  induction w generalizing n with
  | zero => rfl
  | succ w ih => simp [bigEndian, ih]

lemma read_bigEndian (h : n < 256 ^ w) : read (bigEndian w n) = n := by
  induction w generalizing n with
  | zero => exact (Nat.lt_one_iff.mp h).symm
  | succ w ih =>
    have hdiv : n / 256 < 256 ^ w := Nat.div_lt_of_lt_mul (by rwa [Nat.pow_succ'] at h)
    have hread := ih hdiv
    unfold read at hread ⊢
    rw [bigEndian, List.foldl_append, hread]
    simp
    omega

def unit (w : Nat) (a : List UInt8) : List UInt8 := bigEndian w a.length ++ a

@[simp] lemma length_unit (a : List UInt8) : (unit w a).length = w + a.length := by simp [unit]

/-- What it finds at the offset of one of these units is the unit and its end. -/
def Splits (w : Nat) (units : List (List UInt8)) (content : List UInt8 → β)
    (find : List UInt8 → Nat → Nat → Option (β × Nat)) : Prop :=
  ∀ a ∈ units, ∀ pre post,
    find (pre ++ unit w a ++ post) pre.length w = some (content a, pre.length + w + a.length)

lemma Splits.mono {units units' : List (List UInt8)} {content : List UInt8 → β}
    {find : List UInt8 → Nat → Nat → Option (β × Nat)} (h : Splits w units content find) (hs : units' ⊆ units) :
    Splits w units' content find := fun a ha => h a (hs ha)

/-- The unit at an offset, if all of it is there. -/
def findUnit (least : Nat) (content : List UInt8 → β) (data : List UInt8) (off w : Nat) : Option (β × Nat) :=
  let size := read ((data.drop off).take w)
  if data.length < off + w ∨ data.length < off + w + size ∨ size < least then none
  else some (content ((data.drop (off + w)).take size), off + w + size)

lemma findUnit_splits {least : Nat} {units : List (List UInt8)} (content : List UInt8 → β)
    (hu : ∀ a ∈ units, least ≤ a.length ∧ a.length < 256 ^ w) : Splits w units content (findUnit least content) := by
  intro a ha pre post
  obtain ⟨hleast, hlt⟩ := hu a ha
  have hdrop : (pre ++ unit w a ++ post).drop pre.length = bigEndian w a.length ++ (a ++ post) := by
    simp [unit]
  have hsize : read (((pre ++ unit w a ++ post).drop pre.length).take w) = a.length := by
    rw [hdrop, List.take_left' length_bigEndian, read_bigEndian hlt]
  have hunit : ((pre ++ unit w a ++ post).drop (pre.length + w)).take a.length = a := by
    rw [← List.drop_drop, hdrop, List.drop_left' length_bigEndian, List.take_left]
  rw [findUnit]
  simp only [hsize, hunit]
  rw [if_neg]
  simp only [List.length_append, length_unit]
  omega

variable {content : List UInt8 → β} {splitter : List UInt8 → Nat → Nat → Option (β × Nat)} {units : List (List UInt8)}

lemma Splits.found (h : Splits w units content splitter) (pre post : List UInt8) :
    Found (fun off => splitter (pre ++ units.flatMap (unit w) ++ post) off w) pre.length (units.map content)
      (pre.length + (units.flatMap (unit w)).length) := by
  induction units generalizing pre with
  | nil => exact .nil
  | cons a units ih =>
    have htail := ih (h.mono (List.subset_cons_self a units)) (pre ++ unit w a)
    have hdata : pre ++ (a :: units).flatMap (unit w) ++ post = pre ++ unit w a ++ units.flatMap (unit w) ++ post := by
      simp
    have hlen : (pre ++ unit w a).length = pre.length + w + a.length := by simp [Nat.add_assoc]
    have hend : pre.length + ((a :: units).flatMap (unit w)).length =
        (pre ++ unit w a).length + (units.flatMap (unit w)).length := by simp [Nat.add_assoc]
    rw [hdata, hend, List.map_cons]
    refine .cons ?_ htail
    have hfirst := h a List.mem_cons_self pre (units.flatMap (unit w) ++ post)
    rwa [← List.append_assoc, ← hlen] at hfirst

end VkVideoParser.Framing
