import VkVideoParser.H264.RefPicLists
import VkVideoParser.Library.Compaction

/-! The modification of the reference picture lists by the commands of a slice header. -/

namespace VkVideoParser.H264

open Compaction

/-- `value` is `abs_diff_pic_num_minus1` or `long_term_pic_num`. -/
structure GstH264RefPicListModification where
  modificationOfPicNumsIdc : Nat := 0
  value : Nat := 0

/-- What a slice header says about one of its lists. -/
structure RefPicListHeader where
  refPicListModificationFlag : Bool := false
  refPicListModification : List GstH264RefPicListModification := []
  numRefIdxActiveMinus1 : Nat := 0

/-- The list that is modified and `ref_idx_lx`. -/
structure ListModification where
  refPicListX : List (Option PicId)
  refIdxLx : Nat := 0

-- the array is made to clear its new elements
def gArraySetSize (n : Nat) (l : List (Option PicId)) : List (Option PicId) :=
  l.take n ++ List.replicate (n - l.length) none

-- shift_right_and_insert
def shiftRightAndInsert (first last : Nat) (p : PicId) (l : List (Option PicId)) : List (Option PicId) :=
  if last < first then l else (gArraySetSize (last + 2) l).insertIdx first (some p)

-- 8-34 and 8-35, where the sum with the value is unsigned
def picNumLxNoWrap (maxPicNum pred : Int) (m : GstH264RefPicListModification) : Int :=
  if m.modificationOfPicNumsIdc = 0 then
    let n := int32 (pred - (m.value + 1))
    if n < 0 then n + maxPicNum else n
  else
    let n := int32 (pred + (m.value + 1))
    if maxPicNum ≤ n then n - maxPicNum else n

-- 8-36
def picNumLx (maxPicNum picNum noWrap : Int) : Int := if picNum < noWrap then noWrap - maxPicNum else noWrap

variable {P : Type}

namespace Decoder

variable (s : Decoder P)

-- long_term_pic_num_f
def longTermPicNumF (p : PicId) : Int :=
  if (s.pic p).ref = .longTerm then (s.pic p).longTermPicNum else 2 * (s.maxLongTermFrameIdx + 1)

-- pic_num_f
def picNumF (p : PicId) : Int := if (s.pic p).ref = .longTerm then s.maxPicNum else (s.pic p).picNum

-- an empty entry has the number -1
def keepsShort (picNumLx : Int) (p : Option PicId) : Except Fault Bool := .ok (p.elim (-1) s.picNumF ≠ picNumLx)

-- an empty entry is looked into as well
def keepsLong (longTermPicNum : Int) : Option PicId → Except Fault Bool
  | none => .error .nullPointer
  | some p => .ok (s.longTermPicNumF p % 2 ^ 32 ≠ longTermPicNum)

-- the picture goes to its place, and the one with its number is taken out behind it
def placeInList (keeps : Option PicId → Except Fault Bool) (last : Nat) (p : PicId) (t : ListModification) :
    Except Fault ListModification :=
  (compact keeps (last + 1 - t.refIdxLx) (t.refIdxLx + 1) (t.refIdxLx + 1)
    (shiftRightAndInsert t.refIdxLx last p t.refPicListX)).map fun l => ⟨l, t.refIdxLx + 1⟩

-- 8-37
def modifyShort (last : Nat) (picNumLx : Int) (t : ListModification) : Except Fault ListModification :=
  if 32 ≤ last + 1 then .error .assertion
  else
    match s.store.dpbGetShortRefByPicNum picNumLx with
    | none => .ok t
    | some p => placeInList (s.keepsShort picNumLx) last p t

-- 8-28
def modifyLong (last : Nat) (m : GstH264RefPicListModification) (t : ListModification) :
    Except Fault ListModification :=
  if 32 ≤ last + 1 then .error .assertion
  else
    match s.store.dpbGetLongRefByLongTermPicNum (int32 m.value) with
    | none => .ok t
    | some p => placeInList (s.keepsLong (m.value % 2 ^ 32)) last p t

def modifyLoop (current : PicId) (last : Nat) :
    Int → List GstH264RefPicListModification → ListModification → Except Fault ListModification
  | _, [], t => .ok t
  | pred, m :: l, t =>
    match m.modificationOfPicNumsIdc with
    | 0 | 1 =>
      let noWrap := picNumLxNoWrap s.maxPicNum pred m
      (s.modifyShort last (picNumLx s.maxPicNum (s.pic current).picNum noWrap) t).bind
        (modifyLoop current last noWrap l)
    | 2 => (s.modifyLong last m t).bind (modifyLoop current last pred l)
    | 3 => .ok t
    | _ => modifyLoop current last pred l t

-- modify_ref_pic_list
def modifyRefPicList (current : PicId) (header : RefPicListHeader) (list : List PicId) :
    Except Fault (List (Option PicId)) :=
  let size := header.numRefIdxActiveMinus1 + 1
  let l := (list.map some).take size
  if header.refPicListModificationFlag then
    (s.modifyLoop current header.numRefIdxActiveMinus1 (s.pic current).picNum header.refPicListModification ⟨l, 0⟩).map
      fun t => t.refPicListX.take size
  else .ok l

-- gst_h264_decoder_modify_ref_pic_lists, as the two lists that it leaves
def modifyRefPicLists (current : PicId) (header : GstH264SliceHdr) (l0 l1 : RefPicListHeader) (lists : RefPicLists) :
    Except Fault (List (Option PicId) × List (Option PicId)) :=
  if header.type % 5 = 0 ∨ header.type % 5 = 3 then (s.modifyRefPicList current l0 lists.p0).map fun l => (l, [])
  else if header.type % 5 = 1 then do
    let m0 ← s.modifyRefPicList current l0 lists.b0
    let m1 ← s.modifyRefPicList current l1 lists.b1
    return (m0, m1)
  else .ok ([], [])

end Decoder

section ListLemmas

variable {l done rest : List (Option PicId)} {p : PicId} {n last : Nat}

lemma length_gArraySetSize : (gArraySetSize n l).length = n := by
  rw [gArraySetSize, List.length_append, List.length_take, List.length_replicate]
  omega

lemma gArraySetSize_of_le (h : n ≤ l.length) : gArraySetSize n l = l.take n := by
  rw [gArraySetSize, Nat.sub_eq_zero_of_le h]
  exact List.append_nil _

lemma gArraySetSize_succ : ∃ e, gArraySetSize (n + 1) l = gArraySetSize n l ++ [e] := by
  rcases Nat.lt_or_ge n l.length with h | h
  · exact ⟨l[n], by rw [gArraySetSize_of_le h, gArraySetSize_of_le h.le, List.take_succ_eq_append_getElem h]⟩
  · refine ⟨none, ?_⟩
    rw [gArraySetSize, gArraySetSize, List.take_of_length_le h, List.take_of_length_le (h.trans n.le_succ),
      Nat.succ_sub h, List.replicate_succ', List.append_assoc]

lemma insertIdx_append (e : Option PicId) : (done ++ rest).insertIdx done.length e = done ++ e :: rest := by
  induction done with
  | nil => rfl
  | cons a done ih => rw [List.cons_append, List.length_cons, List.insertIdx_succ_cons, ih, List.cons_append]

/-- The pictures in `done` have been placed, and of the list `rest` is left behind them. -/
structure Arranged (n : Nat) (done rest : List (Option PicId)) (t : ListModification) : Prop where
  refIdxLx : t.refIdxLx = done.length
  list : gArraySetSize n t.refPicListX = (done ++ rest).take n
  long : n ≤ done.length + rest.length
  full : done ≠ [] → n ≤ t.refPicListX.length

variable {t : ListModification} {keeps : Option PicId → Except Fault Bool} {keep : Option PicId → Bool}
  {left right : List (Option PicId)}

-- the list before the loop of a command, while there is a place left
lemma Arranged.shifted (h : Arranged (last + 1) done (left ++ right) t) (hd : done.length + left.length = last + 1)
    (hlt : done.length < last + 1) :
    ∃ e, shiftRightAndInsert t.refIdxLx last p t.refPicListX = done ++ [some p] ++ [] ++ left ++ [e] := by
  obtain ⟨e, he⟩ := gArraySetSize_succ (l := t.refPicListX) (n := last + 1)
  refine ⟨e, ?_⟩
  have hlist := h.list
  rw [← List.append_assoc, ← hd, ← List.length_append, List.take_left, List.length_append, hd] at hlist
  rw [shiftRightAndInsert, h.refIdxLx, if_neg (by omega), he, hlist, List.append_assoc, insertIdx_append]
  simp

-- a command that takes out one entry at most
lemma length_le_filter {m : List (Option PicId)} (h : m.countP (!keep ·) ≤ 1) :
    m.length ≤ (m.filter keep).length + 1 := by
  have hsum := List.length_eq_countP_add_countP keep (l := m)
  have hneg : m.countP (fun a => decide (¬keep a = true)) = m.countP (!keep ·) :=
    List.countP_congr fun a _ => by simp
  rw [hneg, List.countP_eq_length_filter] at hsum
  omega

lemma Arranged.placed_left (h : Arranged (last + 1) done (left ++ right) t) (hd : done.length + left.length = last + 1)
    (hlt : done.length < last + 1) (hkeep : ∀ a ∈ left, keeps a = .ok (keep a))
      (hone : (left ++ right).countP (!keep ·) ≤ 1) :
    ∃ u, Decoder.placeInList keeps last p t = .ok u ∧
      Arranged (last + 1) (done ++ [some p]) ((left ++ right).filter keep) u := by
  obtain ⟨e, he⟩ := h.shifted (p := p) hd hlt
  have hcount : last + 1 - t.refIdxLx = left.length := by rw [h.refIdxLx]; omega
  have hsrc : (done ++ [some p]).length = t.refIdxLx + 1 := by rw [h.refIdxLx, List.length_append]; rfl
  have hcompact := compact_eq (done ++ [some p]) [] [e] hkeep
  rw [List.length_nil, Nat.add_zero, hsrc, ← hcount, ← he] at hcompact
  have hleft := length_le_filter (List.countP_append ▸ hone |> fun h => (Nat.le_add_right _ _).trans h)
  have hall := length_le_filter hone
  have hlong : last + 1 ≤ (done ++ [some p] ++ left.filter keep).length := by
    rw [List.length_append, List.length_append, List.length_singleton]
    omega
  have hsize : last + 1 ≤
      (done ++ [some p] ++ left.filter keep ++ ([] ++ left).drop (left.filter keep).length ++ [e]).length :=
    hlong.trans (by simp only [List.length_append]; omega)
  refine ⟨_, congrArg (Except.map _) hcompact, ⟨hsrc.symm, ?_, ?_, fun _ => hsize⟩⟩
  · rw [gArraySetSize_of_le hsize, List.append_assoc _ (List.drop ..), List.take_append_of_le_length hlong,
      List.filter_append, ← List.append_assoc _ (left.filter keep), List.take_append_of_le_length hlong]
  · have hsplit : (left ++ right).filter keep = left.filter keep ++ right.filter keep := List.filter_append ..
    rw [hsplit, ← List.length_append, ← List.append_assoc]
    exact hlong.trans (List.sublist_append_left ..).length_le

lemma Arranged.place (h : Arranged (last + 1) done rest t)
    (hkeep : ∀ a ∈ rest.take (last + 1 - done.length), keeps a = .ok (keep a)) (hone : rest.countP (!keep ·) ≤ 1) :
    ∃ u, Decoder.placeInList keeps last p t = .ok u ∧ Arranged (last + 1) (done ++ [some p]) (rest.filter keep) u := by
  have hlong := h.long
  rcases Nat.lt_or_ge done.length (last + 1) with hd | hd
  · rw [← List.take_append_drop (last + 1 - done.length) rest] at h hone ⊢
    exact h.placed_left (by rw [List.length_take]; omega) hd hkeep hone
  · -- there is no place left
    have hshift : shiftRightAndInsert t.refIdxLx last p t.refPicListX = t.refPicListX := by
      rw [shiftRightAndInsert, h.refIdxLx, if_pos (by omega)]
    have hnone : last + 1 - t.refIdxLx = 0 := by rw [h.refIdxLx]; omega
    refine ⟨⟨t.refPicListX, t.refIdxLx + 1⟩, ?_, ⟨by simp [h.refIdxLx], ?_, ?_, fun _ => h.full ?_⟩⟩
    · rw [Decoder.placeInList, hshift, hnone]
      rfl
    · rw [h.list, List.take_append_of_le_length hd, List.append_assoc, List.take_append_of_le_length hd]
    · rw [List.length_append]
      omega
    · exact List.length_pos_iff.mp (by omega)

lemma Arranged.place_error {e : Fault} (h : Arranged (last + 1) done rest t) (hd : done.length < last + 1)
    (hkeep : ∀ a ∈ rest.take (last + 1 - done.length), keeps a = .ok (keep a) ∨ keeps a = .error e)
    (he : ∃ a ∈ rest.take (last + 1 - done.length), keeps a = .error e) :
    Decoder.placeInList keeps last p t = .error e := by
  have hlong := h.long
  have hlength : done.length + (rest.take (last + 1 - done.length)).length = last + 1 := by rw [List.length_take]; omega
  rw [← List.take_append_drop (last + 1 - done.length) rest] at h
  obtain ⟨f, hf⟩ := h.shifted (p := p) hlength hd
  have hcount : last + 1 - t.refIdxLx = (rest.take (last + 1 - done.length)).length := by rw [h.refIdxLx]; omega
  have hsrc : (done ++ [some p]).length = t.refIdxLx + 1 := by rw [h.refIdxLx, List.length_append]; rfl
  have hcompact := compact_error (done ++ [some p]) [] [f] hkeep he
  rw [List.length_nil, Nat.add_zero, hsrc, ← hcount, ← hf] at hcompact
  exact congrArg (Except.map _) hcompact

end ListLemmas

/-- A picture that a command names, by its number among the short-term or the long-term ones. -/
structure Pick where
  long : Bool
  number : Int
  picture : PicId
  deriving DecidableEq

namespace Decoder

variable (s : Decoder P)

def shortPick (n : Int) : Option Pick := (s.store.dpbGetShortRefByPicNum n).map fun p => ⟨false, n, p⟩

def longPick (value : Nat) : Option Pick :=
  (s.store.dpbGetLongRefByLongTermPicNum (int32 value)).map fun p => ⟨true, value % 2 ^ 32, p⟩

/-- The pictures that the commands name, up to the end of the list. -/
def picks (current : PicId) : Int → List GstH264RefPicListModification → List Pick
  | _, [] => []
  | pred, m :: l =>
    match m.modificationOfPicNumsIdc with
    | 0 | 1 =>
      let noWrap := picNumLxNoWrap s.maxPicNum pred m
      (s.shortPick (picNumLx s.maxPicNum (s.pic current).picNum noWrap)).toList ++ picks current noWrap l
    | 2 => (s.longPick m.value).toList ++ picks current pred l
    | 3 => []
    | _ => picks current pred l

def keeps (k : Pick) : Option PicId → Except Fault Bool :=
  if k.long then s.keepsLong k.number else s.keepsShort k.number

/-- The entries that the number of a picture stands for. -/
def names (k : Pick) : Option PicId → Bool
  | none => !k.long && k.number = -1
  | some p => if k.long then s.longTermPicNumF p % 2 ^ 32 = k.number else s.picNumF p = k.number

def placeAll (last : Nat) : List Pick → ListModification → Except Fault ListModification
  | [], t => .ok t
  | k :: l, t => (placeInList (s.keeps k) last k.picture t).bind (placeAll last l)

end Decoder

section Commands

variable {s : Decoder P} {current : PicId} {last : Nat} {t : ListModification} {ks : List Pick} {k : Pick}
  {done rest : List (Option PicId)}

lemma modifyLoop_eq (hlast : last + 1 < 32) (pred : Int) (l : List GstH264RefPicListModification)
    (t : ListModification) :
    s.modifyLoop current last pred l t = s.placeAll last (s.picks current pred l) t := by
  induction l generalizing pred t with
  | nil => rfl
  | cons m l ih =>
    have hshort : ∀ n pred, (s.modifyShort last n t).bind (s.modifyLoop current last pred l) =
        s.placeAll last ((s.shortPick n).toList ++ s.picks current pred l) t := fun n pred => by
      rw [Decoder.modifyShort, if_neg (not_le.mpr hlast), Decoder.shortPick, funext (ih pred)]
      cases s.store.dpbGetShortRefByPicNum n <;> rfl
    have hlong : (s.modifyLong last m t).bind (s.modifyLoop current last pred l) =
        s.placeAll last ((s.longPick m.value).toList ++ s.picks current pred l) t := by
      rw [Decoder.modifyLong, if_neg (not_le.mpr hlast), Decoder.longPick, funext (ih pred)]
      cases s.store.dpbGetLongRefByLongTermPicNum (int32 m.value) <;> rfl
    rw [Decoder.modifyLoop, Decoder.picks]
    split
    · exact hshort ..
    · exact hshort ..
    · exact hlong
    · rfl
    · exact ih pred t

-- an empty entry among those that are left can only be skipped by its number -1
lemma keeps_eq (h : k.long = false ∨ none ∉ rest) : ∀ a ∈ rest, s.keeps k a = .ok (!s.names k a) := by
  intro a ha
  unfold Decoder.keeps Decoder.names
  cases hl : k.long with
  | false => cases a <;> simp [Decoder.keepsShort, eq_comm]
  | true =>
    cases a with
    | none => exact absurd ha (h.resolve_left (by simp [hl]))
    | some p => simp [Decoder.keepsLong]

lemma Arranged.placeAll (h : Arranged (last + 1) done rest t) (hks : (∀ k ∈ ks, k.long = false) ∨ none ∉ rest)
    (hone : ∀ k ∈ ks, rest.countP (s.names k) ≤ 1) : ∃ u, s.placeAll last ks t = .ok u ∧
      Arranged (last + 1) (done ++ ks.map (some ·.picture)) (rest.filter fun a => ks.all fun k => !s.names k a) u := by
  induction ks generalizing done rest t with
  | nil => exact ⟨t, rfl, by simpa using h⟩
  | cons k ks ih =>
    have hk : k.long = false ∨ none ∉ rest := hks.imp_left fun h => h k List.mem_cons_self
    obtain ⟨u, hu, hplaced⟩ := h.place (p := k.picture) (fun a ha => keeps_eq hk a (List.mem_of_mem_take ha))
      (by simpa using hone k List.mem_cons_self)
    obtain ⟨v, hv, hall⟩ := ih hplaced
      (hks.imp (fun h k hk => h k (List.mem_cons_of_mem _ hk)) fun h hn => h (List.mem_filter.mp hn).1)
      fun k' hk' => List.filter_sublist.countP_le.trans (hone k' (List.mem_cons_of_mem k hk'))
    refine ⟨v, ?_, ?_⟩
    · rw [Decoder.placeAll, hu]
      exact hv
    · rw [List.filter_filter, List.append_assoc] at hall
      simpa [Bool.and_comm] using hall

-- the list as it is resized first
lemma arranged_start (l : List PicId) :
    Arranged (last + 1) [] (gArraySetSize (last + 1) (l.map some)) ⟨(l.map some).take (last + 1), 0⟩ := by
  refine ⟨rfl, ?_, (Nat.zero_add _).symm ▸ length_gArraySetSize.ge, fun h => absurd rfl h⟩
  rw [List.nil_append, List.take_of_length_le length_gArraySetSize.le, gArraySetSize, gArraySetSize, List.take_take,
    Nat.min_self, List.length_take]
  congr 2
  omega

variable {header : RefPicListHeader} {list : List PicId}

/-- The commands name at most one entry each, and those for long-term pictures find no empty one. The assertion allows
no more than 31 entries. -/
structure Modifiable (s : Decoder P) (current : PicId) (header : RefPicListHeader) (list : List PicId) : Prop where
  size : header.numRefIdxActiveMinus1 + 1 < 32
  once : ∀ k ∈ s.picks current (s.pic current).picNum header.refPicListModification,
    (gArraySetSize (header.numRefIdxActiveMinus1 + 1) (list.map some)).countP (s.names k) ≤ 1
  full : (∀ k ∈ s.picks current (s.pic current).picNum header.refPicListModification, k.long = false) ∨
    header.numRefIdxActiveMinus1 < list.length

/-- The pictures that the commands pick, and then those of the list that none of them names. -/
def arrangedList (s : Decoder P) (size : Nat) (ks : List Pick) (list : List PicId) : List (Option PicId) :=
  if ks = [] then (list.map some).take size
  else (ks.map (some ·.picture) ++ (gArraySetSize size (list.map some)).filter fun a =>
    ks.all fun k => !s.names k a).take size

def modifiedList (s : Decoder P) (current : PicId) (header : RefPicListHeader) (list : List PicId) :
    List (Option PicId) :=
  if header.refPicListModificationFlag then
    arrangedList s (header.numRefIdxActiveMinus1 + 1)
      (s.picks current (s.pic current).picNum header.refPicListModification) list
  else (list.map some).take (header.numRefIdxActiveMinus1 + 1)

lemma modifyRefPicList_modified (h : header.refPicListModificationFlag → Modifiable s current header list) :
    s.modifyRefPicList current header list = .ok (modifiedList s current header list) := by
  rw [Decoder.modifyRefPicList, modifiedList]
  by_cases hflag : header.refPicListModificationFlag
  swap
  · simp only [hflag, Bool.false_eq_true, if_false]
  obtain ⟨hsize, hone, hfull⟩ := h hflag
  have hnone : header.numRefIdxActiveMinus1 < list.length →
      none ∉ gArraySetSize (header.numRefIdxActiveMinus1 + 1) (list.map some) := fun h hn => by
    rw [gArraySetSize_of_le (by simpa using h)] at hn
    simpa using List.mem_of_mem_take hn
  obtain ⟨u, hu, ha⟩ := (arranged_start list).placeAll (hfull.imp_right hnone) hone
  have hloop := (modifyLoop_eq hsize (s.pic current).picNum header.refPicListModification
    ⟨(list.map some).take (header.numRefIdxActiveMinus1 + 1), 0⟩).trans hu
  simp only [hflag, if_true, hloop]
  unfold arrangedList
  split
  · rename_i hnil
    rw [hnil] at hu
    cases hu
    rw [Except.map, List.take_take, Nat.min_self]
  · rename_i hne
    have hfull : header.numRefIdxActiveMinus1 + 1 ≤ u.refPicListX.length := ha.full (by simpa using hne)
    rw [Except.map, ← gArraySetSize_of_le hfull, ha.list, List.nil_append]

/-- The pictures that the commands name come first, in their order, and then the others in the order they had. -/
theorem modifyRefPicList_eq (hsize : header.numRefIdxActiveMinus1 + 1 < 32) (hflag : header.refPicListModificationFlag)
    (hks : s.picks current (s.pic current).picNum header.refPicListModification = ks)
    (hone : ∀ k ∈ ks, (gArraySetSize (header.numRefIdxActiveMinus1 + 1) (list.map some)).countP (s.names k) ≤ 1)
    (hfull : (∀ k ∈ ks, k.long = false) ∨ header.numRefIdxActiveMinus1 < list.length) :
    s.modifyRefPicList current header list = .ok (
      if ks = [] then (list.map some).take (header.numRefIdxActiveMinus1 + 1)
      else (ks.map (some ·.picture) ++
        (gArraySetSize (header.numRefIdxActiveMinus1 + 1) (list.map some)).filter fun a =>
          ks.all fun k => !s.names k a).take (header.numRefIdxActiveMinus1 + 1)) := by
  subst hks
  rw [modifyRefPicList_modified fun _ => ⟨hsize, hone, hfull⟩, modifiedList, if_pos hflag]
  rfl

/-- A P or SP slice has the first list, a B slice both. -/
theorem modifyRefPicLists_eq {slice : GstH264SliceHdr} {l0 l1 : RefPicListHeader} {lists : RefPicLists}
    (hp : slice.type % 5 = 0 ∨ slice.type % 5 = 3 → l0.refPicListModificationFlag → Modifiable s current l0 lists.p0)
    (hb : slice.type % 5 = 1 → (l0.refPicListModificationFlag → Modifiable s current l0 lists.b0) ∧
      (l1.refPicListModificationFlag → Modifiable s current l1 lists.b1)) :
    s.modifyRefPicLists current slice l0 l1 lists = .ok (
      if slice.type % 5 = 0 ∨ slice.type % 5 = 3 then (modifiedList s current l0 lists.p0, [])
      else if slice.type % 5 = 1 then (modifiedList s current l0 lists.b0, modifiedList s current l1 lists.b1)
      else ([], [])) := by
  unfold Decoder.modifyRefPicLists
  split
  · rename_i htype
    rw [modifyRefPicList_modified (hp htype)]
    rfl
  · split
    · rename_i htype
      rw [modifyRefPicList_modified (hb htype).1, modifyRefPicList_modified (hb htype).2]
      rfl
    · rfl

-- the number of a picture stands for it
lemma names_self (pred : Int) (l : List GstH264RefPicListModification) (hk : k ∈ s.picks current pred l) :
    s.names k (some k.picture) := by
  have hshort : ∀ n, k ∈ (s.shortPick n).toList → s.names k (some k.picture) := fun n hn => by
    obtain ⟨p, hp, rfl⟩ := Option.map_eq_some_iff.mp (Option.mem_toList.mp hn)
    have hfound := List.find?_some hp
    simp only [Bool.and_eq_true, decide_eq_true_eq] at hfound
    have href : (s.pic p).ref ≠ .longTerm := fun h => PictureReference.noConfusion (hfound.1.symm.trans h)
    simp [Decoder.names, Decoder.picNumF, href]
    exact hfound.2
  have hlong : ∀ v, k ∈ (s.longPick v).toList → s.names k (some k.picture) := fun v hv => by
    obtain ⟨p, hp, rfl⟩ := Option.map_eq_some_iff.mp (Option.mem_toList.mp hv)
    have hfound := List.find?_some hp
    simp only [Bool.and_eq_true, decide_eq_true_eq] at hfound
    have href : (s.pic p).ref = .longTerm := hfound.1
    have hnum : (s.pic p).longTermPicNum = int32 v := hfound.2
    simp only [Decoder.names, Decoder.longTermPicNumF, href, hnum, if_true, decide_eq_true_eq]
    unfold int32
    omega
  induction l generalizing pred with
  | nil => cases hk
  | cons m l ih =>
    rw [Decoder.picks] at hk
    split at hk
    · exact (List.mem_append.mp hk).elim (hshort _) (ih _)
    · exact (List.mem_append.mp hk).elim (hshort _) (ih _)
    · exact (List.mem_append.mp hk).elim (hlong _) (ih _)
    · cases hk
    · exact ih _ hk

lemma placeAll_append (ks ms : List Pick) (t : ListModification) :
    s.placeAll last (ks ++ ms) t = (s.placeAll last ks t).bind (s.placeAll last ms) := by
  induction ks generalizing t with
  | nil => rfl
  | cons k ks ih =>
    rw [List.cons_append, Decoder.placeAll, Decoder.placeAll, funext ih]
    cases Decoder.placeInList (s.keeps k) last k.picture t <;> rfl

-- the pictures that the commands name have left their places
lemma countP_left {n : Nat} (hself : ∀ k ∈ ks, s.names k (some k.picture)) (hmem : ∀ k ∈ ks, k.picture ∈ list)
    (hnodup : (ks.map (·.picture)).Nodup) (hn : list.length ≤ n) :
    ((gArraySetSize n (list.map some)).filter fun a => ks.all fun k => !s.names k a).countP Option.isSome + ks.length ≤
      list.length := by
  have hnamed : ks.length ≤ (list.filter fun p => !ks.all fun k => !s.names k (some p)).length := by
    have hsub : ks.map (·.picture) ⊆ list.filter fun p => !ks.all fun k => !s.names k (some p) := by
      intro p hp
      obtain ⟨k, hk, rfl⟩ := List.mem_map.mp hp
      refine List.mem_filter.mpr ⟨hmem k hk, ?_⟩
      rw [Bool.not_eq_true', List.all_eq_false]
      exact ⟨k, hk, by simp [hself k hk]⟩
    simpa using (hnodup.subperm hsub).length_le
  have hsum := (List.filter_append_perm (fun p => ks.all fun k => !s.names k (some p)) list).length_eq
  have hleft : ((gArraySetSize n (list.map some)).filter fun a => ks.all fun k => !s.names k a).countP Option.isSome =
      (list.filter fun p => ks.all fun k => !s.names k (some p)).length := by
    have hempty : ((List.replicate (n - (list.map some).length) (none : Option PicId)).filter fun a =>
        ks.all fun k => !s.names k a).countP Option.isSome = 0 :=
      List.countP_eq_zero.mpr fun a ha => by simp [List.eq_of_mem_replicate (List.mem_filter.mp ha).1]
    rw [gArraySetSize, List.take_of_length_le (by simpa using hn), List.filter_append, List.countP_append, hempty,
      List.filter_map, List.countP_map]
    exact List.countP_eq_length.mpr fun _ _ => rfl
  rw [List.length_append] at hsum
  omega

lemma keeps_long (hl : k.long) (a : Option PicId) :
    s.keeps k a = .ok (!s.names k a) ∨ s.keeps k a = .error .nullPointer := by
  unfold Decoder.keeps Decoder.names
  rw [if_pos hl]
  cases a with
  | none => exact .inr rfl
  | some p => simp [hl, Decoder.keepsLong]

-- fewer pictures than places are left
lemma Arranged.place_long (h : Arranged (last + 1) done rest t) (hl : k.long)
    (hfew : rest.countP Option.isSome + done.length < last + 1) :
    Decoder.placeInList (s.keeps k) last k.picture t = .error .nullPointer := by
  refine h.place_error (by omega) (fun a _ => keeps_long hl a) ⟨none, ?_, by rw [Decoder.keeps, if_pos hl]; rfl⟩
  by_contra hn
  have hall : (rest.take (last + 1 - done.length)).countP Option.isSome = (rest.take (last + 1 - done.length)).length :=
    List.countP_eq_length.mpr fun a ha => Option.isSome_iff_ne_none.mpr fun he => hn (he ▸ ha)
  have hsub : (rest.take (last + 1 - done.length)).countP Option.isSome ≤ rest.countP Option.isSome :=
    (List.take_sublist ..).countP_le
  have hlong := h.long
  rw [hall, List.length_take] at hsub
  omega

/-- Where the list is shorter than the size asked for, the command for a long-term picture follows a null pointer. -/
theorem modifyRefPicList_null (hsize : header.numRefIdxActiveMinus1 + 1 < 32)
    (hflag : header.refPicListModificationFlag)
    (hks : s.picks current (s.pic current).picNum header.refPicListModification = ks)
    (hone : ∀ k ∈ ks, (gArraySetSize (header.numRefIdxActiveMinus1 + 1) (list.map some)).countP (s.names k) ≤ 1)
    (hshort : list.length ≤ header.numRefIdxActiveMinus1) (hmem : ∀ k ∈ ks, k.picture ∈ list)
    (hnodup : (ks.map (·.picture)).Nodup) :
    s.modifyRefPicList current header list = .error .nullPointer ↔ ∃ k ∈ ks, k.long := by
  refine ⟨fun h => ?_, fun hlong => ?_⟩
  · by_contra hno
    have hall : ∀ k ∈ ks, k.long = false := fun k hk => Bool.eq_false_iff.mpr fun hl => hno ⟨k, hk, hl⟩
    have hmod : Modifiable s current header list := ⟨hsize, hks ▸ hone, .inl (hks ▸ hall)⟩
    cases h.symm.trans (modifyRefPicList_modified fun _ => hmod)
  · -- the commands before the first one for a long-term picture
    obtain ⟨k, hk⟩ := Option.isSome_iff_exists.mp (List.find?_isSome.mpr hlong)
    obtain ⟨hl, before, after, rfl, hbefore⟩ := List.find?_eq_some_iff_append.mp hk
    have hself : ∀ k ∈ before, s.names k (some k.picture) := fun k' hk' =>
      names_self (s.pic current).picNum header.refPicListModification (hks ▸ List.mem_append_left _ hk')
    obtain ⟨u, hu, ha⟩ := (arranged_start list).placeAll (.inl fun k hk => by simpa using hbefore k hk)
      fun k hk => hone k (List.mem_append_left _ hk)
    have hleft := countP_left hself (fun k hk => hmem k (List.mem_append_left _ hk))
      (hnodup.sublist ((List.sublist_append_left ..).map _)) (hshort.trans (Nat.le_succ _))
    have herror := ha.place_long (s := s) (k := k) hl (by
      rw [List.nil_append, List.length_map]
      exact hleft.trans_lt (Nat.lt_succ_of_le hshort))
    have hloop : s.modifyLoop current header.numRefIdxActiveMinus1 (s.pic current).picNum header.refPicListModification
        ⟨(list.map some).take (header.numRefIdxActiveMinus1 + 1), 0⟩ = .error .nullPointer := by
      rw [modifyLoop_eq hsize, hks, placeAll_append, hu]
      exact congrArg (Except.bind · _) herror
    rw [Decoder.modifyRefPicList]
    simp only [hflag, if_true, hloop]
    rfl

/-- A list of 32 entries, which a field may have, is not modified: the first command that reorders aborts. -/
theorem modifyRefPicList_aborts (hsize : 32 ≤ header.numRefIdxActiveMinus1 + 1)
    (hflag : header.refPicListModificationFlag) :
    s.modifyRefPicList current header list = .error .assertion ↔
      ∃ m ∈ header.refPicListModification.takeWhile (·.modificationOfPicNumsIdc ≠ 3),
        m.modificationOfPicNumsIdc < 3 := by
  have hloop : ∀ pred l t, s.modifyLoop current header.numRefIdxActiveMinus1 pred l t = .error .assertion ↔
      ∃ m ∈ l.takeWhile (·.modificationOfPicNumsIdc ≠ 3), m.modificationOfPicNumsIdc < 3 := by
    intro pred l t
    induction l generalizing pred with
    | nil => simp [Decoder.modifyLoop]
    | cons m l ih =>
      rw [Decoder.modifyLoop]
      split
      · rename_i h
        simp [Decoder.modifyShort, hsize, h, Except.bind]
      · rename_i h
        simp [Decoder.modifyShort, hsize, h, Except.bind]
      · rename_i h
        simp [Decoder.modifyLong, hsize, h, Except.bind]
      · rename_i h
        simp [h]
      · rename_i h0 h1 h2 h3
        have hnot : ¬m.modificationOfPicNumsIdc < 3 := fun h => by
          interval_cases hm : m.modificationOfPicNumsIdc
          · exact h0 rfl
          · exact h1 rfl
          · exact h2 rfl
        rw [ih, List.takeWhile_cons, if_pos (by simpa using h3)]
        simp [hnot]
  rw [← hloop (s.pic current).picNum _ ⟨(list.map some).take (header.numRefIdxActiveMinus1 + 1), 0⟩,
    Decoder.modifyRefPicList]
  simp only [hflag, if_true]
  cases s.modifyLoop current header.numRefIdxActiveMinus1 (s.pic current).picNum header.refPicListModification
    ⟨(list.map some).take (header.numRefIdxActiveMinus1 + 1), 0⟩ <;> simp [Except.map]

end Commands

section Examples

-- two short-term references, a long-term one and the current picture
def listDecoder : Decoder Unit where
  store := {
    pic := fun p => ([{ ref := .shortTerm, picNum := 3 }, { ref := .shortTerm, picNum := 2 }, { ref := .longTerm },
      { picNum := 4 }] : List Picture).getD p {}
    dpb := { picList := [0, 1, 2] } }
  parser := ()
  maxPicNum := 16

-- the picture with the number 4 - 2, and the first long-term one
def twoCommands (size : Nat) : RefPicListHeader where
  refPicListModificationFlag := true
  refPicListModification := [⟨0, 1⟩, ⟨2, 0⟩, ⟨3, 0⟩]
  numRefIdxActiveMinus1 := size - 1

theorem modifyRefPicList_eq_three :
    listDecoder.modifyRefPicList 3 (twoCommands 3) [0, 1, 2] = .ok [some 1, some 2, some 0] :=
  (modifyRefPicList_eq (by decide) rfl rfl (by decide) (by decide)).trans rfl

theorem modifyRefPicList_null_four : listDecoder.modifyRefPicList 3 (twoCommands 4) [0, 1, 2] = .error .nullPointer :=
  (modifyRefPicList_null (by decide) rfl rfl (by decide) (by decide) (by decide) (by decide)).mpr (by decide)

example : listDecoder.modifyRefPicList 3 (twoCommands 32) [0, 1, 2] = .error .assertion := rfl

end Examples

end VkVideoParser.H264
