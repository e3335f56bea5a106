import VkVideoParser.H265.Picture
import VkVideoParser.Library.Cycle

/-! The reference picture lists of gsth265decoder.c. -/

namespace VkVideoParser.H265

open Loops Rounds

/-- What a slice header says about its lists, and its PPS about the current picture. -/
structure RefPicListHeader where
  numRefIdxL0ActiveMinus1 : Nat := 0
  numRefIdxL1ActiveMinus1 : Nat := 0
  refPicListModificationFlagL0 : Bool := false
  refPicListModificationFlagL1 : Bool := false
  listEntryL0 : List Nat := []
  listEntryL1 : List Nat := []
  ppsCurrPicRefEnabledFlag : Bool := false

-- one of the inner loops: the pictures of a set, as long as the list is not long enough
def appendSet (numTmpRefs : Nat) : List (Option PicId) → List (Option PicId) → List (Option PicId)
  | [], tmpRefs => tmpRefs
  | p :: l, tmpRefs => if tmpRefs.length < numTmpRefs then appendSet numTmpRefs l (tmpRefs ++ [p]) else tmpRefs

namespace RefPicListHeader

variable (h : RefPicListHeader)

def currentEntry (current : PicId) : List (Option PicId) := if h.ppsCurrPicRefEnabledFlag then [some current] else []

-- one round of (8-8) or (8-10)
def tmpTurn (current : PicId) (first second lt : List (Option PicId)) (numTmpRefs : Nat)
    (tmpRefs : List (Option PicId)) :
    List (Option PicId) :=
  appendSet numTmpRefs lt (appendSet numTmpRefs second (appendSet numTmpRefs first tmpRefs)) ++ h.currentEntry current

def tmpRefs (fuel : Nat) (current : PicId) (first second lt : List (Option PicId)) (numTmpRefs : Nat) :
    Option (List (Option PicId)) :=
  whileLoop (fun t : List (Option PicId) => decide (t.length < numTmpRefs))
    (fun t => some (h.tmpTurn current first second lt numTmpRefs t)) fuel []

end RefPicListHeader

def listIndex (modified : Bool) (listEntry : List Nat) (i : Nat) : Nat := if modified then listEntry.getD i 0 else i

-- (8-9) and (8-11): there is no list when an entry lies behind the end of the temporary one
def listEntries (modified : Bool) (listEntry : List Nat) (activeMinus1 : Nat) (tmpRefs : List (Option PicId)) :
    Option (List (Option PicId)) :=
  (List.range (activeMinus1 + 1)).mapM fun i => tmpRefs[listIndex modified listEntry i]?

-- gst_h265_decoder_process_ref_pic_lists, for a slice of the type 0 (B), 1 (P) or 2 (I)
def processRefPicLists (fuel : Nat) (sets : RefPicSets) (numPicTotalCurr : Nat) (current : PicId) (type : Nat)
    (h : RefPicListHeader) : Option (List (Option PicId) × List (Option PicId)) :=
  if type = 2 then some ([], [])
  else if sets.stCurrBefore = [] ∧ sets.stCurrAfter = [] ∧ sets.ltCurr = [] ∧ !h.ppsCurrPicRefEnabledFlag then
    some ([], [])
  else do
    let numTmpRefs := max (h.numRefIdxL0ActiveMinus1 + 1) numPicTotalCurr
    let tmpRefs ← h.tmpRefs fuel current sets.stCurrBefore sets.stCurrAfter sets.ltCurr numTmpRefs
    let l0 ← listEntries h.refPicListModificationFlagL0 h.listEntryL0 h.numRefIdxL0ActiveMinus1 tmpRefs
    let l0 :=
      if h.ppsCurrPicRefEnabledFlag && !h.refPicListModificationFlagL0 && h.numRefIdxL0ActiveMinus1 + 1 <
        numTmpRefs then
        l0.set h.numRefIdxL0ActiveMinus1 (some current)
      else l0
    if type = 1 then some (l0, [])
    else do
      let numTmpRefs := max (h.numRefIdxL1ActiveMinus1 + 1) numPicTotalCurr
      let tmpRefs ← h.tmpRefs fuel current sets.stCurrAfter sets.stCurrBefore sets.ltCurr numTmpRefs
      let l1 ← listEntries h.refPicListModificationFlagL1 h.listEntryL1 h.numRefIdxL1ActiveMinus1 tmpRefs
      return (l0, l1)

section Rounds

variable {h : RefPicListHeader} {current : PicId} {first second lt l t : List (Option PicId)} {n fuel : Nat}

lemma appendSet_eq : appendSet n l t = t ++ l.take (n - t.length) := by
  induction l generalizing t with
  | nil => simp [appendSet]
  | cons p l ih =>
    rw [appendSet]
    split
    · rename_i hlt
      obtain ⟨m, hm⟩ : ∃ m, n - t.length = m + 1 := ⟨n - t.length - 1, by omega⟩
      have hnext : n - (t ++ [p]).length = m := by rw [List.length_append, List.length_singleton]; omega
      rw [ih, hm, hnext, List.take_succ_cons, List.append_assoc, List.singleton_append]
    · rename_i hge
      rw [Nat.sub_eq_zero_of_le (not_lt.mp hge), List.take_zero, List.append_nil]

/-- The pictures that the temporary list goes round. -/
def RefPicListHeader.base (h : RefPicListHeader) (current : PicId) (first second lt : List (Option PicId)) :
    List (Option PicId) := first ++ second ++ lt ++ h.currentEntry current

lemma appendSet_append (l m t : List (Option PicId)) : appendSet n m (appendSet n l t) = appendSet n (l ++ m) t := by
  rw [appendSet_eq, appendSet_eq, appendSet_eq, List.take_append, List.append_assoc]
  congr 3
  rw [List.length_append, List.length_take]
  omega

lemma tmpTurn_eq : h.tmpTurn current first second lt n t =
    t ++ ((first ++ second ++ lt).take (n - t.length) ++ h.currentEntry current) := by
  rw [RefPicListHeader.tmpTurn, appendSet_append, appendSet_append, ← List.append_assoc, appendSet_eq,
    List.append_assoc]

lemma round_tmpTurn (hbase : h.base current first second lt ≠ []) (ht : t.length < n) :
    (first ++ second ++ lt).take (n - t.length) ++ h.currentEntry current ≠ [] ∧
      Round (h.base current first second lt) n t
      ((first ++ second ++ lt).take (n - t.length) ++ h.currentEntry current) := by
  unfold RefPicListHeader.base at *
  generalize first ++ second ++ lt = refs at *
  refine ⟨fun he => ?_, fun j hj hlt => ?_, fun hlen => ?_⟩
  · obtain ⟨hrefs, hcurrent⟩ := List.append_eq_nil_iff.mp he
    rcases List.take_eq_nil_iff.mp hrefs with h0 | h0
    · omega
    · exact hbase (by rw [h0, hcurrent]; rfl)
  · rcases Nat.le_total refs.length (n - t.length) with hm | hm
    · rw [List.take_of_length_le hm]
    · have hjm : j < n - t.length := by omega
      rw [List.getElem?_append_left (by rw [List.length_take]; omega), List.getElem?_take_of_lt hjm,
        List.getElem?_append_left (by omega)]
  · rw [List.length_append, List.length_take] at hlen ⊢
    rw [List.length_append]
    omega

lemma tmpRefs_cycles (hbase : h.base current first second lt ≠ []) (hfuel : n < fuel) :
    ∃ u, h.tmpRefs fuel current first second lt n = some u ∧ n ≤ u.length ∧
      ∀ i < n, u[i]? = (h.base current first second lt)[i % (h.base current first second lt).length]? := by
  unfold RefPicListHeader.tmpRefs
  simp only [tmpTurn_eq]
  exact fill_cycles (fun t ht => round_tmpTurn hbase ht) hfuel

/-- The entry `i` of a list that goes round `base`. -/
def cycleEntry (base : List (Option PicId)) (i : Nat) : Option PicId := base[i % base.length]?.join

def cycleEntries (base : List (Option PicId)) (modified : Bool) (listEntry : List Nat) (activeMinus1 : Nat) :
    List (Option PicId) :=
  (List.range (activeMinus1 + 1)).map fun i => cycleEntry base (listIndex modified listEntry i)

lemma mapM_eq_some {α β : Type} {f : α → Option β} {g : α → β} {l : List α} (h : ∀ a ∈ l, f a = some (g a)) :
    l.mapM f = some (l.map g) := by
  induction l with
  | nil => rfl
  | cons a l ih =>
    rw [List.mapM_cons, h a List.mem_cons_self, ih fun b hb => h b (List.mem_cons_of_mem a hb)]
    rfl

lemma listEntries_eq {base u : List (Option PicId)} {modified : Bool} {listEntry : List Nat} {activeMinus1 : Nat}
    (hbase : base ≠ []) (hu : ∀ i < n, u[i]? = base[i % base.length]?)
    (hin : ∀ i ≤ activeMinus1, listIndex modified listEntry i < n) :
    listEntries modified listEntry activeMinus1 u = some (cycleEntries base modified listEntry activeMinus1) := by
  refine mapM_eq_some fun i hi => ?_
  have hmod := Nat.mod_lt (listIndex modified listEntry i) (List.length_pos_iff.mpr hbase)
  rw [hu _ (hin i (Nat.lt_succ_iff.mp (List.mem_range.mp hi))), cycleEntry, List.getElem?_eq_getElem hmod]
  rfl

variable {sets : RefPicSets} {numPicTotalCurr type : Nat}

/-- The first list goes round the pictures before the current one, after it and the long-term ones, and ends with the
current picture where that is a reference and did not fit. -/
def expectedL0 (h : RefPicListHeader) (sets : RefPicSets) (numPicTotalCurr : Nat) (current : PicId) :
    List (Option PicId) :=
  let l0 := cycleEntries (h.base current sets.stCurrBefore sets.stCurrAfter sets.ltCurr) h.refPicListModificationFlagL0
    h.listEntryL0 h.numRefIdxL0ActiveMinus1
  if h.ppsCurrPicRefEnabledFlag && !h.refPicListModificationFlagL0 && h.numRefIdxL0ActiveMinus1 + 1 <
    numPicTotalCurr then
    l0.set h.numRefIdxL0ActiveMinus1 (some current)
  else l0

def expectedL1 (h : RefPicListHeader) (sets : RefPicSets) (current : PicId) : List (Option PicId) :=
  cycleEntries (h.base current sets.stCurrAfter sets.stCurrBefore sets.ltCurr) h.refPicListModificationFlagL1
    h.listEntryL1 h.numRefIdxL1ActiveMinus1

-- one list: filled, and read by the index or by the entries of the slice
lemma entries_eq {modified : Bool} {listEntry : List Nat} {activeMinus1 : Nat}
    (hbase : h.base current first second lt ≠ [])
    (hfuel : max (activeMinus1 + 1) numPicTotalCurr < fuel)
    (hin : modified → ∀ i ≤ activeMinus1, listEntry.getD i 0 < max (activeMinus1 + 1) numPicTotalCurr) :
    ∃ u, h.tmpRefs fuel current first second lt (max (activeMinus1 + 1) numPicTotalCurr) = some u ∧
      listEntries modified listEntry activeMinus1 u =
        some (cycleEntries (h.base current first second lt) modified listEntry activeMinus1) := by
  obtain ⟨u, hu, -, hcycles⟩ := tmpRefs_cycles hbase hfuel
  refine ⟨u, hu, listEntries_eq hbase hcycles fun i hi => ?_⟩
  unfold listIndex
  split
  · exact hin ‹_› i hi
  · exact lt_max_of_lt_left (Nat.lt_succ_of_le hi)

theorem processRefPicLists_eq (htype : type < 2)
    (hbase : h.base current sets.stCurrBefore sets.stCurrAfter sets.ltCurr ≠ [])
    (hfuel : max (max h.numRefIdxL0ActiveMinus1 h.numRefIdxL1ActiveMinus1 + 1) numPicTotalCurr < fuel)
    (hin0 : h.refPicListModificationFlagL0 → ∀ i ≤ h.numRefIdxL0ActiveMinus1,
      h.listEntryL0.getD i 0 < max (h.numRefIdxL0ActiveMinus1 + 1) numPicTotalCurr)
    (hin1 : h.refPicListModificationFlagL1 → ∀ i ≤ h.numRefIdxL1ActiveMinus1,
      h.listEntryL1.getD i 0 < max (h.numRefIdxL1ActiveMinus1 + 1) numPicTotalCurr) :
    processRefPicLists fuel sets numPicTotalCurr current type h =
      some (expectedL0 h sets numPicTotalCurr current, if type = 1 then [] else expectedL1 h sets current) := by
  have hbase1 : h.base current sets.stCurrAfter sets.stCurrBefore sets.ltCurr ≠ [] := fun he => hbase (by
    simpa only [RefPicListHeader.base, List.append_eq_nil_iff, and_comm (a := sets.stCurrBefore = [])] using he)
  have hfuel0 : max (h.numRefIdxL0ActiveMinus1 + 1) numPicTotalCurr < fuel := by omega
  have hfuel1 : max (h.numRefIdxL1ActiveMinus1 + 1) numPicTotalCurr < fuel := by omega
  obtain ⟨u, hu, hl0⟩ := entries_eq hbase hfuel0 hin0
  obtain ⟨v, hv, hl1⟩ := entries_eq hbase1 hfuel1 hin1
  have hsome : ¬(sets.stCurrBefore = [] ∧ sets.stCurrAfter = [] ∧ sets.ltCurr = [] ∧ !h.ppsCurrPicRefEnabledFlag) := by
    rintro ⟨h₁, h₂, h₃, h₄⟩
    refine hbase ?_
    rw [Bool.not_eq_true'] at h₄
    simp [RefPicListHeader.base, RefPicListHeader.currentEntry, h₁, h₂, h₃, h₄]
  rw [processRefPicLists, if_neg htype.ne, if_neg hsome]
  simp only [hu, hv, Option.bind_eq_bind, Option.bind_some, hl0, hl1, lt_max_iff, lt_irrefl, false_or]
  split <;> rfl

end Rounds

section Examples

-- two pictures before the current one, one after it and no more
def threeRefs : RefPicSets := { stCurrBefore := [some 4, some 2], stCurrAfter := [some 6] }

-- five entries for the first list, and the order turned round for the second one
def fiveEntries : RefPicListHeader :=
  { numRefIdxL0ActiveMinus1 := 4, numRefIdxL1ActiveMinus1 := 2, refPicListModificationFlagL1 := true,
    listEntryL1 := [2, 1, 0] }

theorem processRefPicLists_eq_five : processRefPicLists 6 threeRefs 3 7 0 fiveEntries =
    some ([some 4, some 2, some 6, some 4, some 2], [some 2, some 4, some 6]) :=
  (processRefPicLists_eq (by decide) (by decide) (by decide) (by decide) (by decide)).trans (by decide)

end Examples

end VkVideoParser.H265
