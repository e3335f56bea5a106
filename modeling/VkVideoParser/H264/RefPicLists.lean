import VkVideoParser.H264.Runs.Inputs
import VkVideoParser.H264.Script
import VkVideoParser.Library.StableSort
import VkVideoParser.Library.Alternation
import VkVideoParser.Library.Loops

/-! The initial reference picture lists of gsth264decoder.c. -/

namespace VkVideoParser.H264

open StableSort Alternation Loops Execution Relation

def pocAscCompare (a b : Picture) : Int := int32 (a.picOrderCnt - b.picOrderCnt)

def pocDescCompare (a b : Picture) : Int := int32 (b.picOrderCnt - a.picOrderCnt)

def picNumDescCompare (a b : Picture) : Int := int32 (b.picNum - a.picNum)

def longTermPicNumAscCompare (a b : Picture) : Int := int32 (a.longTermPicNum - b.longTermPicNum)

def frameNumWrapDescCompare (a b : Picture) : Int := int32 (b.frameNumWrap - a.frameNumWrap)

def longTermFrameIdxAscCompare (a b : Picture) : Int := int32 (a.longTermFrameIdx - b.longTermFrameIdx)

/-- `ref_pic_list_p0`, `ref_pic_list_b0` and `ref_pic_list_b1`. -/
structure RefPicLists where
  p0 : List PicId := []
  b0 : List PicId := []
  b1 : List PicId := []
  deriving DecidableEq

def listsAreEqual (l₁ l₂ : List PicId) : Bool := l₁ = l₂

def swapFirst : List PicId → List PicId
  | p :: q :: l => q :: p :: l
  | l => l

-- lists that are identical differ in their first two entries afterwards
def swapIfEqual (b0 b1 : List PicId) : List PicId := if 1 < b1.length ∧ listsAreEqual b0 b1 then swapFirst b1 else b1

/-- The two scans of `init_picture_refs_fields_1`: what `ref_frame_list` holds from `i` and from `j` on. -/
structure FieldScan where
  i : List PicId
  j : List PicId
  refPicListX : List PicId

def FieldScan.more (s : FieldScan) : Bool := !s.i.isEmpty || !s.j.isEmpty

namespace Store

variable (s : Store)

-- g_array_sort and g_qsort_with_data, which are stable
def sort (compare : Picture → Picture → Int) (l : List PicId) : List PicId :=
  l.insertionSort fun p q => compare (s.pic p) (s.pic q) ≤ 0

def splitRefPicListB (compare : Picture → Picture → Int) (current : PicId) : List PicId → Nat
  | [] => 0
  | p :: l => if 0 < compare (s.pic p) (s.pic current) then 0 else splitRefPicListB compare current l + 1

-- sorted, split at the current picture, and what is before the split sorted the other way
def splitSort (first second : Picture → Picture → Int) (current : PicId) (l : List PicId) : List PicId :=
  let l := s.sort first l
  let pos := s.splitRefPicListB first current l
  s.sort second (l.take pos) ++ l.drop pos

def fieldTurn (field : PictureField) (t : FieldScan) : FieldScan :=
  let (p, i) := scan (fun p => (s.pic p).field = field) t.i
  let (q, j) := scan (fun p => (s.pic p).field ≠ field) t.j
  ⟨i, j, t.refPicListX ++ p.toList ++ q.toList⟩

-- init_picture_refs_fields_1
def initPictureRefsFields1 (fuel : Nat) (field : PictureField) (refFrameList refPicListX : List PicId) :
    Option (List PicId) :=
  let start := s.fieldTurn field ⟨refFrameList, refFrameList, refPicListX⟩
  (whileLoop FieldScan.more (fun t => some (s.fieldTurn field t)) fuel start).map FieldScan.refPicListX

def longTermPictures : List PicId := s.sort longTermPicNumAscCompare (s.dpbGetPicturesLongTermRef false)

-- construct_ref_pic_lists_p
def constructRefPicListsP : List PicId :=
  s.sort picNumDescCompare (s.dpbGetPicturesShortTermRef true false) ++ s.longTermPictures

-- construct_ref_pic_lists_b
def constructRefPicListsB (current : PicId) : List PicId × List PicId :=
  let short := s.dpbGetPicturesShortTermRef ((s.pic current).picOrderCntType != 0) false
  let b0 := s.splitSort pocAscCompare pocDescCompare current short ++ s.longTermPictures
  let b1 := s.splitSort pocDescCompare pocAscCompare current short ++ s.longTermPictures
  (b0, swapIfEqual b0 b1)

def longTermFields : List PicId := s.sort longTermFrameIdxAscCompare (s.dpbGetPicturesLongTermRef true)

-- the short-term fields and the long-term ones, one after the other
def initFields (fuel : Nat) (current : PicId) (short : List PicId) : Option (List PicId) :=
  let field := (s.pic current).field
  (s.initPictureRefsFields1 fuel field short []).bind (s.initPictureRefsFields1 fuel field s.longTermFields)

-- construct_ref_field_pic_lists_p
def constructRefFieldPicListsP (fuel : Nat) (current : PicId) : Option (List PicId) :=
  s.initFields fuel current (s.sort frameNumWrapDescCompare (s.dpbGetPicturesShortTermRef true true))

-- construct_ref_field_pic_lists_b
def constructRefFieldPicListsB (fuel : Nat) (current : PicId) : Option (List PicId × List PicId) := do
  let short := s.dpbGetPicturesShortTermRef ((s.pic current).picOrderCntType != 0) true
  let b0 ← s.initFields fuel current (s.splitSort pocAscCompare pocDescCompare current short)
  let b1 ← s.initFields fuel current (s.splitSort pocDescCompare pocAscCompare current short)
  return (b0, swapIfEqual b0 b1)

-- gst_h264_decoder_prepare_ref_pic_lists
def prepareRefPicLists (fuel : Nat) (current : PicId) : Option RefPicLists :=
  if s.dpb.picList.any fun p => (s.pic p).isRef && !(s.pic p).nonexisting then
    if (s.pic current).isFrame then
      let (b0, b1) := s.constructRefPicListsB current
      some ⟨s.constructRefPicListsP, b0, b1⟩
    else do
      let p0 ← s.constructRefFieldPicListsP fuel current
      let (b0, b1) ← s.constructRefFieldPicListsB fuel current
      return ⟨p0, b0, b1⟩
  else some {}

end Store

section Spec

variable {s : Store} {l l₁ l₂ : List PicId} {current : PicId} {fuel : Nat} {κ : Type} [LinearOrder κ] {key : PicId → κ}
  {first second : Picture → Picture → Int}

lemma int32_le_zero {a b : Int} (h₁ : a - b < 2 ^ 31) (h₂ : b - a < 2 ^ 31) : int32 (a - b) ≤ 0 ↔ a ≤ b := by
  unfold int32
  omega

/-- The differences that the comparisons make fit into 32 bits. -/
def Comparable (x y : Picture) : Prop :=
  x.picOrderCnt - y.picOrderCnt < 2 ^ 31 ∧ x.picNum - y.picNum < 2 ^ 31 ∧
    x.longTermPicNum - y.longTermPicNum < 2 ^ 31 ∧ x.frameNumWrap - y.frameNumWrap < 2 ^ 31 ∧
    x.longTermFrameIdx - y.longTermFrameIdx < 2 ^ 31

instance (x y : Picture) : Decidable (Comparable x y) := inferInstanceAs (Decidable (_ ∧ _))

lemma perm_swapFirst (l : List PicId) : (swapFirst l).Perm l := by
  match l with
  | [] => exact .refl _
  | [_] => exact .refl _
  | p :: q :: l => exact List.Perm.swap p q l

lemma perm_swapIfEqual (b0 b1 : List PicId) : (swapIfEqual b0 b1).Perm b1 := by
  unfold swapIfEqual
  split
  · exact perm_swapFirst b1
  · exact .refl b1

lemma swapFirst_ne (hn : l.Nodup) (h : 1 < l.length) : swapFirst l ≠ l := by
  match l with
  | [] => cases h
  | [_] => exact absurd h (lt_irrefl 1)
  | p :: q :: l =>
    intro he
    obtain ⟨rfl, -⟩ := List.cons.inj he
    exact (List.nodup_cons.mp hn).1 List.mem_cons_self

lemma swapIfEqual_ne {b0 b1 : List PicId} (hn : b1.Nodup) (h : 1 < b1.length) : swapIfEqual b0 b1 ≠ b0 := by
  unfold swapIfEqual listsAreEqual
  split
  · rename_i hequal
    rw [of_decide_eq_true hequal.2]
    exact swapFirst_ne hn h
  · rename_i hequal
    exact fun he => hequal ⟨h, decide_eq_true he.symm⟩

namespace Store

def AllComparable (s : Store) (l : List PicId) : Prop := ∀ p ∈ l, ∀ q ∈ l, Comparable (s.pic p) (s.pic q)

lemma AllComparable.mono (h : s.AllComparable l₂) (hs : l₁ ⊆ l₂) : s.AllComparable l₁ :=
  fun p hp q hq => h p (hs hp) q (hs hq)

-- the comparison orders the pictures of a list by a key
def Compares (s : Store) (compare : Picture → Picture → Int) (key : PicId → κ) (l : List PicId) : Prop :=
  ∀ p ∈ l, ∀ q ∈ l, compare (s.pic p) (s.pic q) ≤ 0 ↔ key p ≤ key q

lemma Compares.mono (h : s.Compares first key l₂) (hs : l₁ ⊆ l₂) : s.Compares first key l₁ := fun p hp q hq =>
  h p (hs hp) q (hs hq)

lemma Compares.sort (h : s.Compares first key l) : s.sort first l = sortBy key l := insertionSort_congr h

lemma perm_sort (compare : Picture → Picture → Int) (l : List PicId) : (s.sort compare l).Perm l :=
  List.perm_insertionSort ..

lemma perm_splitSort (current : PicId) (l : List PicId) : (s.splitSort first second current l).Perm l :=
  ((perm_sort second _).append_right _).trans ((List.take_append_drop ..).symm ▸ perm_sort first l)

lemma splitRefPicListB_spec {before : PicId → Bool} (h : ∀ p ∈ l, first (s.pic p) (s.pic current) ≤ 0 ↔ before p) :
    l.take (s.splitRefPicListB first current l) = l.takeWhile before ∧
      l.drop (s.splitRefPicListB first current l) = l.dropWhile before := by
  induction l with
  | nil => exact ⟨rfl, rfl⟩
  | cons p l ih =>
    have hp := h p List.mem_cons_self
    obtain ⟨ht, hd⟩ := ih fun q hq => h q (List.mem_cons_of_mem p hq)
    rw [splitRefPicListB]
    split
    · rename_i hc
      simp [Bool.eq_false_iff.mpr (hp.not.mp (not_le.mpr hc))]
    · rename_i hc
      simp [hp.mp (not_lt.mp hc), ht, hd]

-- the pictures up to the current one, outwards, and then those after it, outwards
lemma Compares.splitSort (h₁ : s.Compares first key (current :: l))
    (h₂ : s.Compares second (fun p => OrderDual.toDual (key p)) l) : s.splitSort first second current l =
      sortDown key (l.filter (key · ≤ key current)) ++ sortBy key (l.filter (key current < key ·)) := by
  have hsub : sortBy key l ⊆ l := perm_sortBy.subset
  have hbefore : ∀ p ∈ sortBy key l, first (s.pic p) (s.pic current) ≤ 0 ↔ decide (key p ≤ key current) := fun p hp => by
    rw [decide_eq_true_iff]
    exact h₁ p (List.mem_cons_of_mem current (hsub hp)) current List.mem_cons_self
  obtain ⟨ht, hd⟩ := splitRefPicListB_spec hbefore
  have htake : (sortBy key l).takeWhile (key · ≤ key current) ⊆ l := fun p hp => hsub (List.takeWhile_subset _ hp)
  rw [Store.splitSort, (h₁.mono (List.subset_cons_self current l)).sort, ht, hd, (h₂.mono htake).sort]
  exact outward_eq

-- a turn moves what comes next in the alternation to the end of the list
lemma fieldTurn_keeps (field : PictureField) (t : FieldScan) :
    (s.fieldTurn field t).refPicListX ++ alternate ((s.fieldTurn field t).i.filter fun p => (s.pic p).field = field)
        ((s.fieldTurn field t).j.filter fun p => (s.pic p).field ≠ field) =
      t.refPicListX ++ alternate (t.i.filter fun p => (s.pic p).field = field)
        (t.j.filter fun p => (s.pic p).field ≠ field) := by
  obtain ⟨hp, hi⟩ := scan_spec (fun p => decide ((s.pic p).field = field)) t.i
  obtain ⟨hq, hj⟩ := scan_spec (fun p => decide ((s.pic p).field ≠ field)) t.j
  rw [alternate_turn (t.i.filter _), fieldTurn]
  simp only [hp, hi, hq, hj, List.append_assoc]

lemma initPictureRefsFields1_some {field : PictureField} {out out' : List PicId}
    (h : s.initPictureRefsFields1 fuel field l out = some out') : out' = out ++
      alternate (l.filter fun p => (s.pic p).field = field) (l.filter fun p => (s.pic p).field ≠ field) := by
  obtain ⟨t, ht, rfl⟩ := Option.map_eq_some_iff.mp h
  obtain ⟨hkept, hend⟩ := whileLoop_keeps (I := fun t => t.refPicListX ++
      alternate (t.i.filter fun p => (s.pic p).field = field) (t.j.filter fun p => (s.pic p).field ≠ field) = out ++
        alternate (l.filter fun p => (s.pic p).field = field) (l.filter fun p => (s.pic p).field ≠ field))
    (fun t u ht _ hu => Option.some.inj hu ▸ (fieldTurn_keeps field t).trans ht) ht (fieldTurn_keeps field ⟨l, l, out⟩)
  rw [FieldScan.more, Bool.or_eq_false_iff, Bool.not_eq_false', Bool.not_eq_false', List.isEmpty_iff,
    List.isEmpty_iff] at hend
  rw [← hkept, hend.1, hend.2]
  exact (List.append_nil _).symm

lemma initPictureRefsFields1_returns (field : PictureField) (out : List PicId) (hfuel : 2 * l.length < fuel) :
    ∃ out', s.initPictureRefsFields1 fuel field l out = some out' := by
  have hlength : ∀ t : FieldScan, (s.fieldTurn field t).i.length ≤ t.i.length - 1 ∧
      (s.fieldTurn field t).j.length ≤ t.j.length - 1 := fun t => ⟨length_scan_le, length_scan_le⟩
  have hturn : ∀ t : FieldScan, True → t.more → ∃ u, some (s.fieldTurn field t) = some u ∧ True ∧
      u.i.length + u.j.length < t.i.length + t.j.length := fun t _ hc => by
    refine ⟨_, rfl, trivial, ?_⟩
    obtain ⟨hi, hj⟩ := hlength t
    rw [FieldScan.more, Bool.or_eq_true, Bool.not_eq_true', Bool.not_eq_true', List.isEmpty_eq_false_iff,
      List.isEmpty_eq_false_iff, ← List.length_pos_iff, ← List.length_pos_iff] at hc
    omega
  have hfirst : (s.fieldTurn field ⟨l, l, out⟩).i.length + (s.fieldTurn field ⟨l, l, out⟩).j.length < fuel := by
    obtain ⟨hi, hj⟩ := hlength ⟨l, l, out⟩
    exact (Nat.add_le_add hi hj).trans_lt (by simp only; omega)
  obtain ⟨t, ht⟩ := whileLoop_returns (fun t : FieldScan => t.i.length + t.j.length) hturn trivial hfirst
  exact ⟨t.refPicListX, Option.map_eq_some_iff.mpr ⟨t, ht, rfl⟩⟩

/-- The fields of the parity of the current one in turn with those of the other parity. -/
def alternateFields (s : Store) (current : PicId) (l : List PicId) : List PicId :=
  alternate (l.filter fun p => (s.pic p).field = (s.pic current).field)
    (l.filter fun p => (s.pic p).field ≠ (s.pic current).field)

lemma initFields_some {out : List PicId} (h : s.initFields fuel current l = some out) :
    out = s.alternateFields current l ++ s.alternateFields current s.longTermFields := by
  obtain ⟨m, hm, h⟩ := Option.bind_eq_some_iff.mp h
  rw [initPictureRefsFields1_some h, initPictureRefsFields1_some hm]
  rfl

lemma initFields_eq (hl : 2 * l.length < fuel) (hlong : 2 * s.longTermFields.length < fuel) :
    s.initFields fuel current l = some (s.alternateFields current l ++ s.alternateFields current s.longTermFields) := by
  obtain ⟨m, hm⟩ := initPictureRefsFields1_returns (s := s) (s.pic current).field [] hl
  obtain ⟨out, hout⟩ := initPictureRefsFields1_returns (s := s) (s.pic current).field m hlong
  have h : s.initFields fuel current l = some out := Option.bind_eq_some_iff.mpr ⟨m, hm, hout⟩
  rw [h, initFields_some h]

lemma AllComparable.pocAsc (h : s.AllComparable l) : s.Compares pocAscCompare (fun p => (s.pic p).picOrderCnt) l :=
  fun p hp q hq => int32_le_zero (h p hp q hq).1 (h q hq p hp).1

lemma AllComparable.pocDesc (h : s.AllComparable l) :
    s.Compares pocDescCompare (fun p => OrderDual.toDual (s.pic p).picOrderCnt) l :=
  fun p hp q hq => int32_le_zero (h q hq p hp).1 (h p hp q hq).1

lemma AllComparable.picNumDesc (h : s.AllComparable l) :
    s.Compares picNumDescCompare (fun p => OrderDual.toDual (s.pic p).picNum) l :=
  fun p hp q hq => int32_le_zero (h q hq p hp).2.1 (h p hp q hq).2.1

lemma AllComparable.longTermPicNumAsc (h : s.AllComparable l) :
    s.Compares longTermPicNumAscCompare (fun p => (s.pic p).longTermPicNum) l :=
  fun p hp q hq => int32_le_zero (h p hp q hq).2.2.1 (h q hq p hp).2.2.1

lemma AllComparable.frameNumWrapDesc (h : s.AllComparable l) :
    s.Compares frameNumWrapDescCompare (fun p => OrderDual.toDual (s.pic p).frameNumWrap) l :=
  fun p hp q hq => int32_le_zero (h q hq p hp).2.2.2.1 (h p hp q hq).2.2.2.1

lemma AllComparable.longTermFrameIdxAsc (h : s.AllComparable l) :
    s.Compares longTermFrameIdxAscCompare (fun p => (s.pic p).longTermFrameIdx) l :=
  fun p hp q hq => int32_le_zero (h p hp q hq).2.2.2.2 (h q hq p hp).2.2.2.2

/-- The pictures up to the current one in output order, the last one first, and then those after it, the first one
first. -/
def pastFirst (s : Store) (current : PicId) (l : List PicId) : List PicId :=
  sortDown (fun p => (s.pic p).picOrderCnt) (l.filter fun p => (s.pic p).picOrderCnt ≤ (s.pic current).picOrderCnt) ++
    sortBy (fun p => (s.pic p).picOrderCnt) (l.filter fun p => (s.pic current).picOrderCnt < (s.pic p).picOrderCnt)

/-- The pictures from the current one on in output order, and then those before it, the last one first. -/
def futureFirst (s : Store) (current : PicId) (l : List PicId) : List PicId :=
  sortBy (fun p => (s.pic p).picOrderCnt) (l.filter fun p => (s.pic current).picOrderCnt ≤ (s.pic p).picOrderCnt) ++
    sortDown (fun p => (s.pic p).picOrderCnt) (l.filter fun p => (s.pic p).picOrderCnt < (s.pic current).picOrderCnt)

lemma AllComparable.pastFirst (h : s.AllComparable (current :: l)) :
    s.splitSort pocAscCompare pocDescCompare current l = s.pastFirst current l :=
  h.pocAsc.splitSort (h.mono (List.subset_cons_self current l)).pocDesc

lemma AllComparable.futureFirst (h : s.AllComparable (current :: l)) :
    s.splitSort pocDescCompare pocAscCompare current l = s.futureFirst current l := by
  rw [h.pocDesc.splitSort (h.mono (List.subset_cons_self current l)).pocAsc, sortDown_toDual]
  rfl

/-- The initial lists of a frame. -/
def frameLists (s : Store) (current : PicId) : RefPicLists :=
  let short := s.dpbGetPicturesShortTermRef ((s.pic current).picOrderCntType != 0) false
  let long := sortBy (fun p => (s.pic p).longTermPicNum) (s.dpbGetPicturesLongTermRef false)
  let b0 := s.pastFirst current short ++ long
  { p0 := sortDown (fun p => (s.pic p).picNum) (s.dpbGetPicturesShortTermRef true false) ++ long
    b0 := b0
    b1 := swapIfEqual b0 (s.futureFirst current short ++ long) }

/-- The initial lists of a field. -/
def fieldLists (s : Store) (current : PicId) : RefPicLists :=
  let short := s.dpbGetPicturesShortTermRef ((s.pic current).picOrderCntType != 0) true
  let long := s.alternateFields current
    (sortBy (fun p => (s.pic p).longTermFrameIdx) (s.dpbGetPicturesLongTermRef true))
  let b0 := s.alternateFields current (s.pastFirst current short) ++ long
  { p0 := s.alternateFields current
      (sortDown (fun p => (s.pic p).frameNumWrap) (s.dpbGetPicturesShortTermRef true true)) ++ long
    b0 := b0
    b1 := swapIfEqual b0 (s.alternateFields current (s.futureFirst current short) ++ long) }

lemma shortTerm_subset (b b' : Bool) : s.dpbGetPicturesShortTermRef b b' ⊆ s.dpb.picList := List.filter_sublist.subset

lemma longTerm_subset (b : Bool) : s.dpbGetPicturesLongTermRef b ⊆ s.dpb.picList := List.filter_sublist.subset

lemma longTermFields_short : s.longTermFields.length ≤ s.dpb.picList.length :=
  (perm_sort _ _).length_eq.trans_le (List.length_filter_le ..)

-- of no more fields than there are in the DPB
lemma initFields_stored (hfuel : 2 * s.dpb.picList.length < fuel) (hl : l.length ≤ s.dpb.picList.length) :
    s.initFields fuel current l = some (s.alternateFields current l ++ s.alternateFields current s.longTermFields) := by
  have hlong := longTermFields_short (s := s)
  exact initFields_eq (by omega) (by omega)

lemma prepareRefPicLists_returns (hfuel : 2 * s.dpb.picList.length < fuel) (current : PicId) :
    ∃ r, s.prepareRefPicLists fuel current = some r := by
  have hshort : ∀ b, (s.dpbGetPicturesShortTermRef b true).length ≤ s.dpb.picList.length := fun b =>
    List.length_filter_le ..
  have hsplit : ∀ first second b, (s.splitSort first second current (s.dpbGetPicturesShortTermRef b true)).length ≤
      s.dpb.picList.length := fun first second b => (perm_splitSort current _).length_eq.trans_le (hshort b)
  unfold prepareRefPicLists
  split
  · split
    · exact ⟨_, rfl⟩
    · rw [constructRefFieldPicListsP, initFields_stored hfuel ((perm_sort _ _).length_eq.trans_le (hshort true)),
        constructRefFieldPicListsB, initFields_stored hfuel (hsplit ..), initFields_stored hfuel (hsplit ..)]
      exact ⟨_, rfl⟩
  · exact ⟨_, rfl⟩

section Lists

variable (hc : s.AllComparable (current :: s.dpb.picList))
  (href : s.dpb.picList.any fun p => (s.pic p).isRef && !(s.pic p).nonexisting)

include hc href

theorem prepareRefPicLists_frame (fuel : Nat) (hframe : (s.pic current).isFrame) :
    s.prepareRefPicLists fuel current = some (s.frameLists current) := by
  have hstored := hc.mono (List.subset_cons_self current s.dpb.picList)
  have hb := hc.mono (List.cons_subset_cons current (shortTerm_subset ((s.pic current).picOrderCntType != 0) false))
  rw [prepareRefPicLists, if_pos href, if_pos hframe, constructRefPicListsB, constructRefPicListsP, longTermPictures,
    (hstored.mono (longTerm_subset false)).longTermPicNumAsc.sort,
      (hstored.mono (shortTerm_subset true false)).picNumDesc.sort]
  simp only [hb.pastFirst, hb.futureFirst]
  rfl

theorem prepareRefPicLists_field (hfuel : 2 * s.dpb.picList.length < fuel) (hfield : (s.pic current).isFrame = false) :
    s.prepareRefPicLists fuel current = some (s.fieldLists current) := by
  have hstored := hc.mono (List.subset_cons_self current s.dpb.picList)
  have hb := hc.mono (List.cons_subset_cons current (shortTerm_subset ((s.pic current).picOrderCntType != 0) true))
  have hinit : ∀ l m, l.Perm m → m.length ≤ s.dpb.picList.length → s.initFields fuel current l =
      some (s.alternateFields current l ++ s.alternateFields current s.longTermFields) := fun l m hp hm =>
    initFields_stored hfuel (hp.length_eq.trans_le hm)
  have hshort : ∀ b, (s.dpbGetPicturesShortTermRef b true).length ≤ s.dpb.picList.length := fun b =>
    List.length_filter_le ..
  rw [prepareRefPicLists, if_pos href, if_neg (by rw [hfield]; exact Bool.false_ne_true), constructRefFieldPicListsP,
    hinit _ _ (perm_sort _ _) (hshort true), constructRefFieldPicListsB]
  simp only [hb.pastFirst, hb.futureFirst, hinit _ _ (hb.pastFirst ▸ perm_splitSort current _) (hshort _),
    hinit _ _ (hb.futureFirst ▸ perm_splitSort current _) (hshort _)]
  rw [longTermFields, (hstored.mono (longTerm_subset true)).longTermFrameIdxAsc.sort,
    (hstored.mono (shortTerm_subset true true)).frameNumWrapDesc.sort]
  rfl

end Lists

lemma perm_alternateFields : (s.alternateFields current l).Perm l := by
  refine perm_alternate.trans ?_
  have h := List.filter_append_perm (fun p => decide ((s.pic p).field = (s.pic current).field)) l
  simpa only [decide_not] using h

lemma nodup_references (hn : s.dpb.picList.Nodup) (b b' : Bool) :
    (s.dpbGetPicturesShortTermRef b b' ++ s.dpbGetPicturesLongTermRef b').Nodup := by
  refine List.nodup_append.mpr ⟨hn.filter _, hn.filter _, fun p hp q hq hpq => ?_⟩
  have hshort := (List.mem_filter.mp hp).2
  have hlong := (List.mem_filter.mp hq).2
  simp only [Bool.and_eq_true, decide_eq_true_eq] at hshort hlong
  rw [hpq, hlong.2] at hshort
  exact PictureReference.noConfusion hshort.1.2

-- the two lists of a B slice before they are compared
lemma prepareRefPicLists_b {r : RefPicLists} (h : s.prepareRefPicLists fuel current = some r) : r = {} ∨
    ∃ b b' b1, r.b0.Perm (s.dpbGetPicturesShortTermRef b b' ++ s.dpbGetPicturesLongTermRef b') ∧ b1.Perm r.b0 ∧
      r.b1 = swapIfEqual r.b0 b1 := by
  unfold prepareRefPicLists at h
  split at h
  · refine .inr ⟨(s.pic current).picOrderCntType != 0, !(s.pic current).isFrame, ?_⟩
    split at h
    · rename_i hframe
      obtain rfl := Option.some.inj h
      have hb : ∀ first second, (s.splitSort first second current (s.dpbGetPicturesShortTermRef
          ((s.pic current).picOrderCntType != 0) false) ++ s.longTermPictures).Perm
          (s.dpbGetPicturesShortTermRef ((s.pic current).picOrderCntType != 0) false ++ s.dpbGetPicturesLongTermRef
            false) :=
        fun _ _ => (perm_splitSort current _).append (perm_sort ..)
      rw [hframe]
      exact ⟨_, hb _ _, (hb _ _).trans (hb _ _).symm, rfl⟩
    · rename_i hfield
      obtain ⟨p0, -, h⟩ := Option.bind_eq_some_iff.mp h
      obtain ⟨⟨c0, c1⟩, hb, h⟩ := Option.bind_eq_some_iff.mp h
      obtain ⟨m0, h0, hb⟩ := Option.bind_eq_some_iff.mp hb
      obtain ⟨m1, h1, hb⟩ := Option.bind_eq_some_iff.mp hb
      cases hb
      cases h
      have hm : ∀ first second m, s.initFields fuel current (s.splitSort first second current
          (s.dpbGetPicturesShortTermRef ((s.pic current).picOrderCntType != 0) true)) = some m →
          m.Perm (s.dpbGetPicturesShortTermRef ((s.pic current).picOrderCntType != 0) true ++
            s.dpbGetPicturesLongTermRef true) :=
        fun first second m h => by
          rw [initFields_some h]
          exact (perm_alternateFields.trans (perm_splitSort current _)).append
            (perm_alternateFields.trans (perm_sort ..))
      rw [Bool.eq_false_iff.mpr hfield]
      exact ⟨m1, hm _ _ _ h0, (hm _ _ _ h1).trans (hm _ _ _ h0).symm, rfl⟩
  · exact .inl (Option.some.inj h).symm

end Store

/-- In every state that a run passes through the two lists of a B slice have the same pictures, each one once, and differ
when there are two of them. -/
theorem bipredLists_differ {P : Type} {env : Env P} {x : Phase × Decoder P}
    (hx : ReflTransGen (Act env) (({} : Phase), Decoder.start env) x) (hfuel : 2 * x.2.store.dpb.picList.length < fuel)
    (current : PicId) : ∃ r, x.2.store.prepareRefPicLists fuel current = some r ∧
      r.b0.Nodup ∧ r.b1.Perm r.b0 ∧ (1 < r.b1.length → r.b1 ≠ r.b0) := by
  have hn : x.2.store.dpb.picList.Nodup := (placed_start.reach hx).nodup
  obtain ⟨r, hr⟩ := Store.prepareRefPicLists_returns hfuel current
  refine ⟨r, hr, ?_⟩
  rcases Store.prepareRefPicLists_b hr with rfl | ⟨b, b', b1, h0, h1, hb⟩
  · exact ⟨List.nodup_nil, .refl _, fun h => absurd h (Nat.not_lt_zero 1)⟩
  · have h0n : r.b0.Nodup := h0.nodup_iff.mpr (Store.nodup_references hn b b')
    have hp : r.b1.Perm b1 := hb ▸ perm_swapIfEqual r.b0 b1
    refine ⟨h0n, hp.trans h1, fun hlen => ?_⟩
    rw [hb]
    exact swapIfEqual_ne (h1.nodup_iff.mpr h0n) (hp.length_eq ▸ hlen)

end Spec

section Examples

-- three short-term references, one of which comes after the current picture 4, and a long-term one
def frameStore : Store where
  pic := fun p => ([
    { ref := .shortTerm, picOrderCnt := 0, picNum := 0 },
    { ref := .shortTerm, picOrderCnt := 8, picNum := 1 },
    { ref := .shortTerm, picOrderCnt := 4, picNum := 2 },
    { ref := .longTerm, picOrderCnt := 2 },
    { picOrderCnt := 6 }] : List Picture).getD p {}
  dpb := { picList := [0, 1, 2, 3] }

theorem prepareRefPicLists_frame_four : frameStore.prepareRefPicLists 0 4 = some (frameStore.frameLists 4) ∧
    frameStore.frameLists 4 = ⟨[2, 1, 0, 3], [2, 0, 1, 3], [1, 2, 0, 3]⟩ :=
  ⟨Store.prepareRefPicLists_frame (by unfold Store.AllComparable; decide) (by decide) 0 (by decide), by decide⟩

-- the fields of two frames, and the first field of a third one
def fieldStore : Store where
  pic := fun p => ([
    { ref := .shortTerm, field := .topField, picOrderCnt := 0 },
    { ref := .shortTerm, field := .bottomField, picOrderCnt := 1, secondField := true },
    { ref := .shortTerm, field := .topField, picOrderCnt := 4, frameNumWrap := 1 },
    { ref := .shortTerm, field := .bottomField, picOrderCnt := 5, frameNumWrap := 1, secondField := true },
    { field := .bottomField, picOrderCnt := 3 }] : List Picture).getD p {}
  dpb := { picList := [0, 1, 2, 3], interlaced := true }

theorem prepareRefPicLists_field_four : fieldStore.prepareRefPicLists 9 4 = some (fieldStore.fieldLists 4) ∧
    fieldStore.fieldLists 4 = ⟨[3, 2, 1, 0], [1, 0, 3, 2], [3, 2, 1, 0]⟩ :=
  ⟨Store.prepareRefPicLists_field (by unfold Store.AllComparable; decide) (by decide) (by decide) (by decide),
    by decide⟩

-- three frames, of which the last two are references
def bipredScript : Script where
  sps := [Script.progressive]
  pps := [{}]
  slices := [{}, { frameNum := 1, picOrderCntLsb := 2 }, { frameNum := 2, picOrderCntLsb := 4 }]

def bipredInputs : List Input := Script.frames
  [[Script.spsUnit 0, Script.ppsUnit 0, Script.idrUnit 0], [Script.sliceUnit 1], [Script.sliceUnit 2]]

def bipredEnd : Decoder Tables := final (runInputs bipredScript.env bipredInputs (Decoder.start bipredScript.env))

theorem bipredLists_differ_two : bipredEnd.store.prepareRefPicLists 5 2 = some ⟨[2, 1], [2, 1], [1, 2]⟩ ∧
    ∃ r, bipredEnd.store.prepareRefPicLists 5 2 = some r ∧ r.b0.Nodup ∧ r.b1.Perm r.b0 ∧
      (1 < r.b1.length → r.b1 ≠ r.b0) := by
  have hdiffer : ∀ (env : Env Tables) s, s = final (runInputs env bipredInputs (Decoder.start env)) →
      2 * s.store.dpb.picList.length < 5 → ∃ r, s.store.prepareRefPicLists 5 2 = some r ∧ r.b0.Nodup ∧
        r.b1.Perm r.b0 ∧ (1 < r.b1.length → r.b1 ≠ r.b0) := by
    rintro env s rfl hfuel
    obtain ⟨k, hk⟩ := reach_final env bipredInputs
    exact bipredLists_differ hk hfuel 2
  exact ⟨by decide +kernel, hdiffer bipredScript.env bipredEnd rfl (by decide +kernel)⟩

end Examples

end VkVideoParser.H264
