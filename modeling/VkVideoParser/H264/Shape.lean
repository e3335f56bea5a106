import VkVideoParser.H264.Dpb
import VkVideoParser.Library.Counting

/-! What the reference counts do not enter: the order of output, the room in the DPB. -/

namespace VkVideoParser.H264

namespace Store

variable {s t u : Store} {p q : PicId}

/-- Two stores with the same DPB whose pictures agree but for the reference counts. -/
structure SameShape (s t : Store) : Prop where
  dpb : t.dpb = s.dpb
  next : t.next = s.next
  pic : ∀ q, ∃ n, t.pic q = { s.pic q with refcount := n }

lemma SameShape.refl (s : Store) : SameShape s s := ⟨rfl, rfl, fun _ => ⟨_, rfl⟩⟩

lemma SameShape.trans (h : SameShape s t) (h' : SameShape t u) : SameShape s u := by
  refine ⟨h'.dpb.trans h.dpb, h'.next.trans h.next, fun q => ?_⟩
  obtain ⟨n, hn⟩ := h.pic q
  obtain ⟨m, hm⟩ := h'.pic q
  exact ⟨m, by rw [hm, hn]⟩

@[simp] lemma modifyPic_pic (s : Store) (f : Picture → Picture) :
    (s.modifyPic p f).pic q = if q = p then f (s.pic p) else s.pic q := by
  by_cases h : q = p <;> simp [modifyPic, h]

@[simp] lemma modifyPic_dpb (s : Store) (f : Picture → Picture) : (s.modifyPic p f).dpb = s.dpb := rfl

@[simp] lemma modifyPic_next (s : Store) (f : Picture → Picture) : (s.modifyPic p f).next = s.next := rfl

@[simp] lemma modifyPic_log (s : Store) (f : Picture → Picture) : (s.modifyPic p f).log = s.log := rfl

@[simp] lemma emit_pic (s : Store) (e : Event) : (s.emit e).pic = s.pic := rfl

@[simp] lemma emit_dpb (s : Store) (e : Event) : (s.emit e).dpb = s.dpb := rfl

@[simp] lemma emit_next (s : Store) (e : Event) : (s.emit e).next = s.next := rfl

@[simp] lemma emit_log (s : Store) (e : Event) : (s.emit e).log = e :: s.log := rfl

@[simp] lemma die_pic (s : Store) (f : Fault) : (s.die f).pic = s.pic := rfl

@[simp] lemma die_dpb (s : Store) (f : Fault) : (s.die f).dpb = s.dpb := rfl

@[simp] lemma die_next (s : Store) (f : Fault) : (s.die f).next = s.next := rfl

@[simp] lemma die_log (s : Store) (f : Fault) : (s.die f).log = s.log := rfl

@[simp] lemma setPicList_pic (s : Store) (l : List PicId) : (s.setPicList l).pic = s.pic := rfl

@[simp] lemma setPicList_picList (s : Store) (l : List PicId) : (s.setPicList l).dpb.picList = l := rfl

@[simp] lemma setPicList_next (s : Store) (l : List PicId) : (s.setPicList l).next = s.next := rfl

@[simp] lemma setPicList_log (s : Store) (l : List PicId) : (s.setPicList l).log = s.log := rfl

lemma sameShape_modifyPic {f : Picture → Picture}
    (h : ∀ x, ∃ n, f x = { x with refcount := n }) (s : Store) : SameShape s (s.modifyPic p f) := by
  refine ⟨rfl, rfl, fun q => ?_⟩
  obtain ⟨n, hn⟩ := h (s.pic p)
  by_cases hq : q = p
  · exact ⟨n, by simp [hq, hn]⟩
  · exact ⟨_, by rw [modifyPic_pic, if_neg hq]⟩

lemma sameShape_emit (s : Store) (e : Event) : SameShape s (s.emit e) := ⟨rfl, rfl, fun _ => ⟨_, rfl⟩⟩

lemma sameShape_die (s : Store) (f : Fault) : SameShape s (s.die f) := ⟨rfl, rfl, fun _ => ⟨_, rfl⟩⟩

lemma sameShape_ref (p : PicId) (s : Store) : SameShape s (s.ref p) :=
  sameShape_modifyPic (fun _ => ⟨_, rfl⟩) s

lemma sameShape_vkPicFree (p : PicId) (s : Store) : SameShape s (s.vkPicFree p) := by
  unfold vkPicFree
  split
  · exact sameShape_emit _ _
  · exact .refl _

lemma sameShape_unref (p : PicId) (s : Store) : SameShape s (s.unref p) := by
  unfold unref
  split
  · exact sameShape_die _ _
  · exact (sameShape_modifyPic (fun _ => ⟨_, rfl⟩) s).trans (sameShape_vkPicFree _ _)
  · exact sameShape_modifyPic (fun _ => ⟨_, rfl⟩) s

lemma sameShape_touch (p : PicId) (s : Store) : SameShape s (s.touch p) := by
  unfold touch
  split
  · exact sameShape_die _ _
  · exact .refl _

lemma touch_pic (p : PicId) (s : Store) : (s.touch p).pic = s.pic := by
  unfold touch
  split <;> rfl

lemma touch_log (p : PicId) (s : Store) : (s.touch p).log = s.log := by
  unfold touch
  split <;> rfl

lemma sameShape_unrefAll (l : List PicId) (s : Store) : SameShape s (s.unrefAll l) := by
  induction l generalizing s with
  | nil => exact .refl _
  | cons p l ih => exact (sameShape_unref p s).trans (ih (s.unref p))

lemma SameShape.waits (h : SameShape s t) (q : PicId) : waitsForOutput (t.pic q) = waitsForOutput (s.pic q) := by
  obtain ⟨n, hn⟩ := h.pic q
  rw [hn]
  rfl

lemma SameShape.picOrderCnt (h : SameShape s t) (q : PicId) : (t.pic q).picOrderCnt = (s.pic q).picOrderCnt := by
  obtain ⟨n, hn⟩ := h.pic q
  rw [hn]

-- the picture chosen between the one found before and the next one
def lowerOf (pic : PicId → Picture) (i : Nat) (p : PicId) (lowest : Option (Nat × PicId)) :
    Option (Nat × PicId) :=
  if waitsForOutput (pic p) then
    match lowest with
    | none => some (i, p)
    | some (_, q) => if (pic p).picOrderCnt < (pic q).picOrderCnt then some (i, p) else lowest
  else lowest

lemma lowest_cons (f : PicId → Picture) (i : Nat) (p : PicId) (l : List PicId) (o : Option (Nat × PicId)) :
    lowestOutputNeededFrom f i (p :: l) o = lowestOutputNeededFrom f (i + 1) l (lowerOf f i p o) := rfl

lemma lowest_congr {f g : PicId → Picture} (hw : ∀ q, waitsForOutput (g q) = waitsForOutput (f q))
    (ho : ∀ q, (g q).picOrderCnt = (f q).picOrderCnt) (l : List PicId) (i : Nat) (o : Option (Nat × PicId)) :
    lowestOutputNeededFrom g i l o = lowestOutputNeededFrom f i l o := by
  induction l generalizing i o with
  | nil => rfl
  | cons p l ih =>
    rw [lowest_cons, lowest_cons, ih]
    simp only [lowerOf, hw, ho]

lemma SameShape.lowest (h : SameShape s t) :
    t.dpbGetLowestOutputNeededPicture = s.dpbGetLowestOutputNeededPicture := by
  unfold dpbGetLowestOutputNeededPicture
  rw [h.dpb]
  exact lowest_congr h.waits h.picOrderCnt _ _ _

lemma SameShape.hasEmpty (h : SameShape s t) : t.dpbHasEmptyFrameBuffer = s.dpbHasEmptyFrameBuffer := by
  unfold dpbHasEmptyFrameBuffer
  rw [h.dpb]
  have hc : ∀ q, (!(t.pic q).secondField && ((t.pic q).isFrame || (t.pic q).otherField.isSome)) =
      (!(s.pic q).secondField && ((s.pic q).isFrame || (s.pic q).otherField.isSome)) := by
    intro q
    obtain ⟨n, hn⟩ := h.pic q
    rw [hn]
    rfl
  simp only [hc]

lemma SameShape.unused (h : SameShape s t) (q : PicId) : t.unused q = s.unused q := by
  unfold Store.unused
  obtain ⟨n, hn⟩ := h.pic q
  rw [hn]
  rfl

-- the lowest picture stands where its index says, and waits
lemma lowest_mem {f : PicId → Picture} {l : List PicId} {i j : Nat} {o : Option (Nat × PicId)}
    (h : lowestOutputNeededFrom f i l o = some (j, p)) :
    o = some (j, p) ∨ ∃ m, j = i + m ∧ l[m]? = some p ∧ waitsForOutput (f p) := by
  induction l generalizing i o with
  | nil => exact .inl h
  | cons a l ih =>
    rw [lowest_cons] at h
    rcases ih h with ho | ⟨m, rfl, hm, hw⟩
    · unfold lowerOf at ho
      split at ho
      · rename_i hw
        cases o with
        | none =>
          obtain ⟨rfl, rfl⟩ : i = j ∧ a = p := by simpa using ho
          exact .inr ⟨0, rfl, rfl, hw⟩
        | some b =>
          simp only at ho
          split at ho
          · obtain ⟨rfl, rfl⟩ : i = j ∧ a = p := by simpa using ho
            exact .inr ⟨0, rfl, rfl, hw⟩
          · exact .inl ho
      · exact .inl ho
    · exact .inr ⟨m + 1, by omega, hm, hw⟩

lemma lowest_isSome {f : PicId → Picture} {l : List PicId} {i : Nat} {o : Option (Nat × PicId)}
    (h : lowestOutputNeededFrom f i l o = none) : o = none ∧ ∀ p ∈ l, waitsForOutput (f p) = false := by
  induction l generalizing i o with
  | nil => exact ⟨h, by simp⟩
  | cons a l ih =>
    rw [lowest_cons] at h
    obtain ⟨ho, hl⟩ := ih h
    unfold lowerOf at ho
    split at ho
    · cases o with
      | none => cases ho
      | some b =>
        simp only at ho
        split at ho <;> cases ho
    · rename_i hw
      refine ⟨ho, fun p hp => ?_⟩
      rcases List.mem_cons.mp hp with rfl | hp
      · simpa using hw
      · exact hl p hp

lemma lowest_none_iff : s.dpbGetLowestOutputNeededPicture = none ↔
    ∀ p ∈ s.dpb.picList, waitsForOutput (s.pic p) = false := by
  refine ⟨fun h => (lowest_isSome h).2, fun h => ?_⟩
  cases hl : s.dpbGetLowestOutputNeededPicture with
  | none => rfl
  | some r =>
    obtain ⟨i, p⟩ := r
    rcases lowest_mem hl with hl | ⟨m, -, hm, hw⟩
    · cases hl
    · rw [h p (List.mem_of_getElem? hm)] at hw
      cases hw

lemma lowest_spec {i : Nat} (h : s.dpbGetLowestOutputNeededPicture = some (i, p)) :
    s.dpb.picList[i]? = some p ∧ waitsForOutput (s.pic p) := by
  rcases lowest_mem h with h | ⟨m, rfl, hm, hw⟩
  · cases h
  · exact ⟨by simpa using hm, hw⟩

lemma bump_eq_some {drain : Bool} (h : (s.dpbBump drain).1 = some p) :
    ∃ i, s.dpbGetLowestOutputNeededPicture = some (i, p) := by
  unfold dpbBump at h
  cases hl : s.dpbGetLowestOutputNeededPicture with
  | none =>
    rw [hl] at h
    cases h
  | some a =>
    rw [hl] at h
    obtain ⟨i, q⟩ := a
    simp only [Option.some.injEq] at h
    exact ⟨i, by rw [h]⟩

lemma bump_eq_none {drain : Bool} (h : (s.dpbBump drain).1 = none) :
    s.dpbGetLowestOutputNeededPicture = none ∧ (s.dpbBump drain).2 = s := by
  unfold dpbBump at h ⊢
  cases hl : s.dpbGetLowestOutputNeededPicture with
  | none => exact ⟨rfl, rfl⟩
  | some a =>
    rw [hl] at h
    cases h

/-- What leaving the DPB does to a store: pictures lose their references and are no longer needed. -/
structure Shrinks (s t : Store) : Prop where
  next : t.next = s.next
  maxNumFrames : t.dpb.maxNumFrames = s.dpb.maxNumFrames
  interlaced : t.dpb.interlaced = s.dpb.interlaced
  picList : t.dpb.picList.Sublist s.dpb.picList
  pic : ∀ q, ∃ n b c d, t.pic q = { s.pic q with
    refcount := n, neededForOutput := b, bufferFlagInterlaced := c, bufferFlagTff := d } ∧
    (b = true → (s.pic q).neededForOutput = true)

lemma Shrinks.refl (s : Store) : Shrinks s s := ⟨rfl, rfl, rfl, .refl _, fun _ => ⟨_, _, _, _, rfl, id⟩⟩

lemma Shrinks.trans (h : Shrinks s t) (h' : Shrinks t u) : Shrinks s u := by
  refine ⟨h'.next.trans h.next, h'.maxNumFrames.trans h.maxNumFrames, h'.interlaced.trans h.interlaced,
    h'.picList.trans h.picList, fun q => ?_⟩
  obtain ⟨n, b, c, d, hq, hb⟩ := h.pic q
  obtain ⟨n', b', c', d', hq', hb'⟩ := h'.pic q
  refine ⟨n', b', c', d', by rw [hq', hq], fun hn => hb ?_⟩
  simpa [hq] using hb' hn

lemma SameShape.shrinks (h : SameShape s t) : Shrinks s t := by
  refine ⟨h.next, by rw [h.dpb], by rw [h.dpb], by rw [h.dpb], fun q => ?_⟩
  obtain ⟨n, hn⟩ := h.pic q
  exact ⟨n, _, _, _, hn, id⟩

lemma shrinks_setPicList {l : List PicId} (h : l.Sublist s.dpb.picList) : Shrinks s (s.setPicList l) :=
  ⟨rfl, rfl, rfl, h, fun _ => ⟨_, _, _, _, rfl, id⟩⟩

lemma shrinks_modifyPic {f : Picture → Picture} (h : ∀ x, ∃ n b c d, f x = { x with
    refcount := n, neededForOutput := b, bufferFlagInterlaced := c, bufferFlagTff := d } ∧
    (b = true → x.neededForOutput = true)) : Shrinks s (s.modifyPic p f) := by
  refine ⟨rfl, rfl, rfl, .refl _, fun q => ?_⟩
  by_cases hq : q = p
  · subst hq
    simpa using h (s.pic q)
  · exact ⟨_, _, _, _, by rw [modifyPic_pic, if_neg hq], id⟩

lemma shrinks_setNeeded : Shrinks s (s.setNeeded p false) :=
  shrinks_modifyPic fun _ => ⟨_, _, _, _, rfl, by simp⟩

lemma shrinks_dpbClear : Shrinks s s.dpbClear := by
  refine ((shrinks_setPicList (s := s) (l := []) (List.nil_sublist _)).trans
    (sameShape_unrefAll s.dpb.picList _).shrinks).trans ?_
  exact ⟨rfl, rfl, rfl, .refl _, fun _ => ⟨_, _, _, _, rfl, id⟩⟩

lemma shrinks_dpbDeleteUnused : Shrinks s s.dpbDeleteUnused :=
  (shrinks_setPicList List.filter_sublist).trans (sameShape_unrefAll _ _).shrinks

-- the three steps of gst_h264_dpb_bump
def bumpRef (p : PicId) (s : Store) : Store :=
  let s := ((s.ref p).setNeeded p false).addOutputNeeded (-1)
  if s.dpb.numOutputNeeded < 0 then s.die .assertion else s

def bumpRemove (drain : Bool) (i : Nat) (p : PicId) (s : Store) : Store :=
  if !(s.pic p).isRef || drain then (s.setPicList (s.dpb.picList.eraseIdx i)).unref p else s

lemma bump_some {drain : Bool} {i : Nat} (h : s.dpbGetLowestOutputNeededPicture = some (i, p)) :
    (s.dpbBump drain).2 = (((s.bumpRef p).bumpRemove drain i p).bumpOtherField p).dpbSetLastOutput p := by
  unfold dpbBump
  rw [h]
  rfl

lemma shrinks_bumpRef : Shrinks s (s.bumpRef p) := by
  have h : Shrinks s (((s.ref p).setNeeded p false).addOutputNeeded (-1)) :=
    ((sameShape_ref p s).shrinks.trans shrinks_setNeeded).trans
      ⟨rfl, rfl, rfl, .refl _, fun _ => ⟨_, _, _, _, rfl, id⟩⟩
  unfold bumpRef
  simp only
  split
  · exact h.trans (sameShape_die _ _).shrinks
  · exact h

lemma shrinks_bumpRemove {drain : Bool} {i : Nat} : Shrinks s (s.bumpRemove drain i p) := by
  unfold bumpRemove
  split
  · exact (shrinks_setPicList (List.eraseIdx_sublist _ _)).trans (sameShape_unref _ _).shrinks
  · exact .refl _

lemma shrinks_bumpOtherField : Shrinks s (s.bumpOtherField p) := by
  unfold bumpOtherField
  cases (s.pic p).otherField with
  | none => exact .refl _
  | some q =>
    have h := ((sameShape_touch q s).shrinks.trans (shrinks_setNeeded (p := q))).trans
      (shrinks_modifyPic (p := p) (f := fun x => { x with
        bufferFlagInterlaced := true
        bufferFlagTff := x.bufferFlagTff ||
          decide (x.picOrderCnt < (((s.touch q).setNeeded q false).pic q).picOrderCnt) })
        fun _ => ⟨_, _, _, _, rfl, id⟩)
    simp only
    split
    · exact (h.trans (shrinks_setPicList List.erase_sublist)).trans (sameShape_unref _ _).shrinks
    · exact h

lemma shrinks_dpbSetLastOutput : Shrinks s (s.dpbSetLastOutput p) :=
  ⟨rfl, rfl, rfl, .refl _, fun _ => ⟨_, _, _, _, rfl, id⟩⟩

lemma shrinks_dpbBump {d : Bool} : Shrinks s (s.dpbBump d).2 := by
  cases h : s.dpbGetLowestOutputNeededPicture with
  | none =>
    unfold dpbBump
    rw [h]
    exact .refl s
  | some a =>
    rw [bump_some h]
    exact ((shrinks_bumpRef.trans shrinks_bumpRemove).trans shrinks_bumpOtherField).trans
      shrinks_dpbSetLastOutput

-- the pictures that wait for a call of gst_h264_dpb_bump
def waiting (s : Store) : Nat := s.dpb.picList.countP fun p => (s.pic p).neededForOutput

lemma Shrinks.waiting_le (h : Shrinks s t) : t.waiting ≤ s.waiting := by
  refine Nat.le_trans (List.Sublist.countP_le h.picList) (List.countP_mono_left fun q _ hq => ?_)
  obtain ⟨n, b, c, d, hp, hb⟩ := h.pic q
  rw [hp] at hq
  exact hb hq

lemma bumpRef_needed : ((s.bumpRef p).pic p).neededForOutput = false := by
  unfold bumpRef
  simp only
  split <;> simp [addOutputNeeded, setNeeded]

lemma bump_waiting {drain : Bool} (h : (s.dpbBump drain).1 = some p) : (s.dpbBump drain).2.waiting < s.waiting := by
  obtain ⟨i, hi⟩ := bump_eq_some h
  obtain ⟨hm, hw⟩ := lowest_spec hi
  have hstart : (s.bumpRef p).waiting < s.waiting := by
    refine Nat.lt_of_le_of_lt (List.Sublist.countP_le shrinks_bumpRef.picList)
      (Counting.countP_lt (fun q _ hq => ?_) (List.mem_of_getElem? hm) ?_ bumpRef_needed)
    · obtain ⟨n, b, c, d, hp, hb⟩ := (shrinks_bumpRef (s := s) (p := p)).pic q
      rw [hp] at hq
      exact hb hq
    · simp only [waitsForOutput, Bool.and_eq_true] at hw
      exact hw.1
  refine Nat.lt_of_le_of_lt ?_ hstart
  rw [bump_some hi]
  exact ((shrinks_bumpRemove.trans shrinks_bumpOtherField).trans shrinks_dpbSetLastOutput).waiting_le

lemma bumpRef_picList : (s.bumpRef p).dpb.picList = s.dpb.picList := by
  unfold bumpRef
  simp only
  split <;> rfl

lemma unref_dpb : (s.unref p).dpb = s.dpb := (sameShape_unref p s).dpb

lemma bump_length (h : (s.dpbBump true).1 = some p) :
    (s.dpbBump true).2.dpb.picList.length < s.dpb.picList.length := by
  obtain ⟨i, hi⟩ := bump_eq_some h
  obtain ⟨hlt, -⟩ := List.getElem?_eq_some_iff.mp (lowest_spec hi).1
  have hremove : ((s.bumpRef p).bumpRemove true i p).dpb.picList = s.dpb.picList.eraseIdx i := by
    simp only [bumpRemove, Bool.or_true, if_true, unref_dpb, setPicList_picList, bumpRef_picList]
  refine Nat.lt_of_le_of_lt (List.Sublist.length_le ?_) (List.length_eraseIdx_of_lt hlt ▸ Nat.sub_lt (by omega) Nat.one_pos)
  rw [bump_some hi, ← hremove]
  exact (shrinks_bumpOtherField.trans shrinks_dpbSetLastOutput).picList

lemma bumpRef_pic (q : PicId) : (s.bumpRef p).pic q = ((s.ref p).setNeeded p false).pic q := by
  unfold bumpRef
  simp only
  split <;> rfl

lemma bumpRemove_sameShape {d : Bool} {i : Nat} (q : PicId) :
    ∃ n, (s.bumpRemove d i p).pic q = { s.pic q with refcount := n } := by
  unfold bumpRemove
  split
  · exact (sameShape_unref p _).pic q
  · exact ⟨_, rfl⟩

lemma bumpOtherField_needed (q : PicId) : ((s.bumpOtherField p).pic q).neededForOutput =
    if (s.pic p).otherField = some q then false else (s.pic q).neededForOutput := by
  unfold bumpOtherField
  split
  · rename_i ho
    rw [ho, if_neg (by simp)]
  · rename_i a ho
    have hmid : ∀ f : Picture → Picture, (∀ x, (f x).neededForOutput = x.neededForOutput) →
        ((((s.touch a).setNeeded a false).modifyPic p f).pic q).neededForOutput =
          if (s.pic p).otherField = some q then false else (s.pic q).neededForOutput := fun f hf => by
      have hkeep : ((((s.touch a).setNeeded a false).modifyPic p f).pic q).neededForOutput =
          (((s.touch a).setNeeded a false).pic q).neededForOutput := by
        rw [modifyPic_pic]
        split
        · rename_i hq
          rw [hf, hq]
        · rfl
      rw [hkeep, setNeeded, modifyPic_pic, touch_pic, ho]
      by_cases hq : q = a
      · simp [hq]
      · have hne : ¬(some a : Option PicId) = some q := fun h => hq (Option.some.inj h).symm
        rw [if_neg hq, if_neg hne]
    simp only
    split
    · obtain ⟨n, hn⟩ := (sameShape_unref a (setPicList _ _)).pic q
      rw [hn, setPicList_pic]
      exact hmid _ fun _ => rfl
    · exact hmid _ fun _ => rfl

-- the fields of the frame that is output are no longer needed
lemma dpbBump_needed {drain : Bool} (h : (s.dpbBump drain).1 = some p) (q : PicId) :
    ((s.dpbBump drain).2.pic q).neededForOutput =
      if q = p ∨ (s.pic p).otherField = some q then false else (s.pic q).neededForOutput := by
  obtain ⟨i, hi⟩ := bump_eq_some h
  have hlast : ∀ t : Store, (t.dpbSetLastOutput p).pic = t.pic := fun _ => rfl
  obtain ⟨n, hp⟩ := bumpRemove_sameShape (s := s.bumpRef p) (p := p) (d := drain) (i := i) p
  obtain ⟨m, hq⟩ := bumpRemove_sameShape (s := s.bumpRef p) (p := p) (d := drain) (i := i) q
  have hother : ((s.bumpRef p).pic p).otherField = (s.pic p).otherField := by
    simp [bumpRef_pic, setNeeded, ref]
  have hneeded : ((s.bumpRef p).pic q).neededForOutput = if q = p then false else (s.pic q).neededForOutput := by
    by_cases hqp : q = p <;> simp [bumpRef_pic, setNeeded, ref, hqp]
  rw [bump_some hi, hlast, bumpOtherField_needed, hp, hq, hother, hneeded]
  by_cases ho : (s.pic p).otherField = some q
  · simp [ho]
  · simp [ho]

lemma bumpOtherField_dpb : (s.bumpOtherField p).dpb.numOutputNeeded = s.dpb.numOutputNeeded ∧
    ∀ q ∈ s.dpb.picList, (s.pic p).otherField ≠ some q → q ∈ (s.bumpOtherField p).dpb.picList := by
  unfold bumpOtherField
  split
  · exact ⟨rfl, fun q hq _ => hq⟩
  · rename_i a ho
    simp only
    split
    · refine ⟨?_, fun q hq hne => ?_⟩
      · rw [unref_dpb]
        simp [setPicList, setNeeded, (sameShape_touch a s).dpb]
      · rw [unref_dpb, setPicList_picList]
        refine (List.mem_erase_of_ne fun he => hne (ho.trans (congrArg some he.symm))).mpr ?_
        simpa [setNeeded, (sameShape_touch a s).dpb] using hq
    · refine ⟨?_, fun q hq _ => ?_⟩
      · simp [setNeeded, (sameShape_touch a s).dpb]
      · simpa [setNeeded, (sameShape_touch a s).dpb] using hq

lemma bumpRemove_dpb {d : Bool} {i : Nat} (hi : s.dpb.picList[i]? = some p) :
    (s.bumpRemove d i p).dpb.numOutputNeeded = s.dpb.numOutputNeeded ∧
      ∀ q ∈ s.dpb.picList, q ≠ p → q ∈ (s.bumpRemove d i p).dpb.picList := by
  unfold bumpRemove
  split
  · refine ⟨?_, fun q hq hne => ?_⟩
    · rw [unref_dpb]
      rfl
    · rw [unref_dpb, setPicList_picList]
      have hc := Counting.count_eraseIdx hi q
      have hpos := List.count_pos_iff.mpr hq
      rw [if_neg (Ne.symm hne)] at hc
      exact List.count_pos_iff.mp (by omega)
  · exact ⟨rfl, fun q hq _ => hq⟩

-- a bump counts one frame less, and takes only its fields out
lemma dpbBump_dpb {drain : Bool} (h : (s.dpbBump drain).1 = some p) :
    (s.dpbBump drain).2.dpb.numOutputNeeded = s.dpb.numOutputNeeded - 1 ∧
      ∀ q ∈ s.dpb.picList, q ≠ p → (s.pic p).otherField ≠ some q → q ∈ (s.dpbBump drain).2.dpb.picList := by
  obtain ⟨i, hi⟩ := bump_eq_some h
  obtain ⟨hmem, -⟩ := lowest_spec hi
  have href : (s.bumpRef p).dpb.numOutputNeeded = s.dpb.numOutputNeeded - 1 := by
    unfold bumpRef
    simp only
    split <;> rfl
  obtain ⟨n, hp⟩ := bumpRemove_sameShape (s := s.bumpRef p) (p := p) (d := drain) (i := i) p
  obtain ⟨hr, hrm⟩ := bumpRemove_dpb (s := s.bumpRef p) (d := drain) (bumpRef_picList ▸ hmem)
  obtain ⟨hb, hbm⟩ := bumpOtherField_dpb (s := (s.bumpRef p).bumpRemove drain i p) (p := p)
  rw [bump_some hi]
  refine ⟨hb.trans (hr.trans href), fun q hq hne ho => hbm q (hrm q (bumpRef_picList.symm ▸ hq) hne) ?_⟩
  rw [hp]
  simpa [bumpRef_pic, setNeeded, ref] using ho

def NoneUnused (s : Store) : Prop := ∀ q ∈ s.dpb.picList, s.unused q = false

-- the exit of the bumping before a picture is stored
def Room (s : Store) : Prop :=
  s.dpbHasEmptyFrameBuffer ∨ (s.dpbGetLowestOutputNeededPicture = none ∧ NoneUnused s)

lemma NoneUnused.sameShape (hs : NoneUnused s) (h : SameShape s t) : NoneUnused t := by
  intro q hq
  rw [h.unused q]
  exact hs q (by rwa [h.dpb] at hq)

lemma Room.sameShape (hs : Room s) (h : SameShape s t) : Room t := by
  unfold Room
  rw [h.hasEmpty, h.lowest]
  exact hs.imp_right fun hn => ⟨hn.1, hn.2.sameShape h⟩

lemma Room.congr (hs : Room s) (hd : t.dpb = s.dpb) (hp : ∀ q ∈ s.dpb.picList, t.pic q = s.pic q) : Room t := by
  refine hs.imp (fun h => ?_) fun h => ⟨?_, fun q hq => ?_⟩
  · have hc : t.dpbHasEmptyFrameBuffer = s.dpbHasEmptyFrameBuffer := by
      unfold dpbHasEmptyFrameBuffer
      rw [hd, List.countP_congr fun q hq => by rw [hp q hq]]
    exact hc.trans h
  · rw [lowest_none_iff, hd]
    intro q hq
    rw [hp q hq]
    exact lowest_none_iff.mp h.1 q hq
  · rw [hd] at hq
    unfold unused
    rw [hp q hq]
    exact h.2 q hq

lemma noneUnused_dpbDeleteUnused : NoneUnused s.dpbDeleteUnused := by
  intro q hq
  have h := sameShape_unrefAll (s.dpb.picList.filter s.unused) (s.setPicList (s.dpb.picList.filter fun p => !s.unused p))
  have hm : q ∈ s.dpb.picList.filter fun p => !s.unused p := by
    simpa only [dpbDeleteUnused, h.dpb, setPicList_picList] using hq
  have hu : s.dpbDeleteUnused.unused q = s.unused q := h.unused q
  rw [hu]
  simpa using (List.mem_filter.mp hm).2

-- a picture that was given up is used when it is a reference or needed before
lemma Shrinks.unused (h : Shrinks s t) {q : PicId}
    (hn : (t.pic q).neededForOutput = (s.pic q).neededForOutput) : t.unused q = s.unused q := by
  unfold Store.unused
  rw [hn]
  obtain ⟨n, b, c, d, hq, -⟩ := h.pic q
  rw [hq]
  rfl

lemma not_mem_eraseIdx {l : List PicId} {i : Nat} (hl : l.Nodup) (h : l[i]? = some p) : p ∉ l.eraseIdx i := by
  have hc := Counting.count_eraseIdx h p
  rw [if_pos rfl, List.count_eq_one_of_mem hl (List.mem_of_getElem? h)] at hc
  exact List.count_eq_zero.mp (by omega)

lemma noneUnused_bumpRemove {i : Nat} (hl : s.dpb.picList.Nodup) (hi : s.dpb.picList[i]? = some p)
    (hs : NoneUnused s) : NoneUnused ((s.bumpRef p).bumpRemove false i p) := by
  intro q hq
  have hpic : ∀ q, ((s.bumpRef p).bumpRemove false i p).unused q = (s.bumpRef p).unused q := by
    intro q
    unfold bumpRemove
    split
    · exact (sameShape_unref p _).unused q
    · rfl
  have hne : ∀ q, q ≠ p → (s.bumpRef p).unused q = s.unused q := by
    intro q hq
    refine shrinks_bumpRef.unused ?_
    unfold bumpRef
    simp only
    split <;> simp [addOutputNeeded, setNeeded, ref, hq]
  rw [hpic]
  by_cases hp : q = p
  · subst hp
    by_cases hr : ((s.bumpRef q).pic q).isRef = true
    · simp [Store.unused, hr]
    · simp only [bumpRemove, Bool.or_false, Bool.not_eq_true', hr, unref_dpb, if_true, setPicList_picList,
        bumpRef_picList] at hq
      exact absurd hq (not_mem_eraseIdx hl hi)
  · rw [hne q hp]
    refine hs q ?_
    have := (show Shrinks (s.bumpRef p) _ from shrinks_bumpRemove).picList.mem hq
    rwa [bumpRef_picList] at this

lemma noneUnused_bumpOtherField (hl : s.dpb.picList.Nodup) (hs : NoneUnused s) :
    NoneUnused (s.bumpOtherField p) := by
  unfold bumpOtherField
  cases ho : (s.pic p).otherField with
  | none => exact hs
  | some a =>
    intro q hq
    have hd : (s.touch a).dpb = s.dpb := (sameShape_touch a s).dpb
    have hpic : ∀ q, (s.touch a).pic q = s.pic q := by
      intro q
      unfold touch
      split <;> rfl
    simp only [setNeeded, modifyPic_dpb, hd] at hq ⊢
    split at hq
    · rename_i hc
      rw [unref_dpb, setPicList_picList] at hq
      have hm := (List.Nodup.mem_erase_iff hl).mp hq
      rw [if_pos hc, (sameShape_unref a _).unused]
      have := hs q hm.2
      by_cases hp : q = p <;> simp_all [Store.unused, Picture.isRef]
    · rename_i hc
      rw [if_neg hc]
      simp only [modifyPic_dpb, hd] at hq
      have hu := hs q hq
      by_cases hp : q = p <;> by_cases ha : q = a <;> simp_all [Store.unused, Picture.isRef]

lemma noneUnused_bump (hl : s.dpb.picList.Nodup) (hs : NoneUnused s) : NoneUnused (s.dpbBump false).2 := by
  cases h : s.dpbGetLowestOutputNeededPicture with
  | none =>
    unfold dpbBump
    rw [h]
    exact hs
  | some a =>
    rw [bump_some h]
    have hr : ((s.bumpRef a.2).bumpRemove false a.1 a.2).dpb.picList.Nodup :=
      (shrinks_bumpRef.trans shrinks_bumpRemove).picList.nodup hl
    exact noneUnused_bumpOtherField hr (noneUnused_bumpRemove hl (lowest_spec h).1 hs)

/-- What storing a picture does to a store, but for the DPB's list. -/
structure Adds (p : PicId) (s t : Store) : Prop where
  next : t.next = s.next
  log : t.log = s.log
  dpb : ∃ n o r, t.dpb = { s.dpb with
    picList := s.dpb.picList ++ [p], numOutputNeeded := n, lastOutputPoc := o, lastOutputNonRef := r }
  pic : ∀ q, ∃ b o, t.pic q = { s.pic q with neededForOutput := b, otherField := o }

lemma markForOutput_spec (p : PicId) (s : Store) : (s.markForOutput p).next = s.next ∧
    (s.markForOutput p).log = s.log ∧ (∃ n, (s.markForOutput p).dpb = { s.dpb with numOutputNeeded := n }) ∧
    ∃ b, (s.markForOutput p).pic = (s.setNeeded p b).pic := by
  unfold markForOutput
  split_ifs
  · exact ⟨rfl, rfl, ⟨_, rfl⟩, _, rfl⟩
  · exact ⟨rfl, rfl, ⟨_, rfl⟩, _, rfl⟩
  · exact ⟨rfl, rfl, ⟨_, rfl⟩, _, rfl⟩

lemma linkFields_spec (p : PicId) (s : Store) : (s.linkFields p).next = s.next ∧
    (s.linkFields p).log = s.log ∧ (s.linkFields p).dpb = s.dpb ∧
    ∀ q, ∃ o, (s.linkFields p).pic q = { s.pic q with otherField := o } := by
  unfold linkFields
  split
  · refine ⟨(sameShape_touch _ _).next, touch_log _ _, (sameShape_touch _ _).dpb, fun q => ?_⟩
    rw [modifyPic_pic, touch_pic]
    split
    · rename_i hq
      exact ⟨_, by rw [hq]⟩
    · exact ⟨_, rfl⟩
  · exact ⟨rfl, rfl, rfl, fun q => ⟨_, rfl⟩⟩

lemma adds_dpbAdd (p : PicId) (s : Store) : Adds p s (s.dpbAdd p) := by
  obtain ⟨hn, hl, ⟨n, hd⟩, b, hp⟩ := markForOutput_spec p s
  obtain ⟨hn', hl', hd', hp'⟩ := linkFields_spec p (s.markForOutput p)
  have hset : Adds p s (((s.markForOutput p).linkFields p).setPicList
      (((s.markForOutput p).linkFields p).dpb.picList ++ [p])) := by
    refine ⟨hn'.trans hn, hl'.trans hl, ?_, fun q => ?_⟩
    · rw [setPicList, hd', hd]
      exact ⟨_, _, _, rfl⟩
    · obtain ⟨o, ho⟩ := hp' q
      rw [setPicList_pic, ho, hp, setNeeded, modifyPic_pic]
      split
      · rename_i hq
        exact ⟨_, _, by rw [hq]⟩
      · exact ⟨_, _, rfl⟩
  unfold dpbAdd resetLastOutput
  simp only
  split_ifs
  · obtain ⟨n, o, r, hd⟩ := hset.dpb
    exact ⟨hset.next, hset.log, ⟨n, _, _, by rw [hd]⟩, hset.pic⟩
  · exact hset

-- the field that a stored second field completes is linked to it
lemma dpbAdd_otherField (p q : PicId) (s : Store) : ((s.dpbAdd p).pic q).otherField =
    if (s.pic p).secondField ∧ (s.pic p).otherField = some q then some p else (s.pic q).otherField := by
  obtain ⟨-, -, -, b, hp⟩ := markForOutput_spec p s
  have hmark : ∀ r, ((s.markForOutput p).pic r).secondField = (s.pic r).secondField ∧
      ((s.markForOutput p).pic r).otherField = (s.pic r).otherField := by
    intro r
    rw [hp, setNeeded, modifyPic_pic]
    split
    · rename_i hr
      rw [hr]
      exact ⟨rfl, rfl⟩
    · exact ⟨rfl, rfl⟩
  have hpic : (s.dpbAdd p).pic = ((s.markForOutput p).linkFields p).pic := by
    unfold dpbAdd resetLastOutput
    simp only
    split <;> rfl
  rw [hpic, linkFields, (hmark p).1, (hmark p).2]
  split
  · rename_i a hsec hoth
    rw [modifyPic_pic, touch_pic]
    by_cases hq : q = a
    · simp [hq, hsec, hoth]
    · have hne : ¬(some a : Option PicId) = some q := fun h => hq (Option.some.inj h).symm
      simp [hq, hsec, hoth, hne, (hmark q).2]
  · rename_i hno
    have hne : ¬((s.pic p).secondField = true ∧ (s.pic p).otherField = some q) := fun h => hno q h.1 h.2
    simp [hne, (hmark q).2]

lemma dpbAdd_nonexisting (p q : PicId) (s : Store) : ((s.dpbAdd p).pic q).nonexisting = (s.pic q).nonexisting := by
  obtain ⟨n, o, hq⟩ := (adds_dpbAdd p s).pic q
  rw [hq]

lemma dpbAdd_needed (p q : PicId) (s : Store) : ((s.dpbAdd p).pic q).neededForOutput =
    if q = p then !(s.pic p).nonexisting else (s.pic q).neededForOutput := by
  have hmark : ((s.markForOutput p).pic q).neededForOutput =
      if q = p then !(s.pic p).nonexisting else (s.pic q).neededForOutput := by
    unfold markForOutput
    by_cases hq : q = p
    · split_ifs <;> simp_all [setNeeded, addOutputNeeded]
    · split_ifs <;> simp [setNeeded, addOutputNeeded, hq]
  obtain ⟨-, -, -, hlink⟩ := linkFields_spec p (s.markForOutput p)
  obtain ⟨o, ho⟩ := hlink q
  have hpic : (s.dpbAdd p).pic q = ((s.markForOutput p).linkFields p).pic q := by
    unfold dpbAdd resetLastOutput
    simp only
    split <;> rfl
  rw [hpic, ho, ← hmark]

-- a picture that is output counts, and with it its first field
lemma dpbAdd_numOutputNeeded (p : PicId) (s : Store) : (s.dpbAdd p).dpb.numOutputNeeded =
    s.dpb.numOutputNeeded + if !(s.pic p).nonexisting && countsForOutput (s.pic p) then 1 else 0 := by
  obtain ⟨-, -, hd, -⟩ := linkFields_spec p (s.markForOutput p)
  have hset : (s.dpbAdd p).dpb.numOutputNeeded = (s.markForOutput p).dpb.numOutputNeeded := by
    rw [← hd]
    unfold dpbAdd resetLastOutput
    simp only
    split <;> rfl
  rw [hset]
  unfold markForOutput
  split_ifs <;> simp_all [setNeeded, addOutputNeeded]

lemma dpbAdd_picList (p : PicId) (s : Store) : (s.dpbAdd p).dpb.picList = s.dpb.picList ++ [p] := by
  obtain ⟨n, o, r, h⟩ := (adds_dpbAdd p s).dpb
  rw [h]

lemma dpbAdd_maxNumFrames (p : PicId) (s : Store) : (s.dpbAdd p).dpb.maxNumFrames = s.dpb.maxNumFrames := by
  obtain ⟨n, o, r, h⟩ := (adds_dpbAdd p s).dpb
  rw [h]

lemma dpbAdd_interlaced (p : PicId) (s : Store) : (s.dpbAdd p).dpb.interlaced = s.dpb.interlaced := by
  obtain ⟨n, o, r, h⟩ := (adds_dpbAdd p s).dpb
  rw [h]

@[simp] lemma addPicture_pic (p : PicId) (s : Store) : (s.addPicture p).pic = (s.dpbAdd p).pic := rfl

@[simp] lemma addPicture_dpb (p : PicId) (s : Store) : (s.addPicture p).dpb = (s.dpbAdd p).dpb := rfl

@[simp] lemma addPicture_next (p : PicId) (s : Store) : (s.addPicture p).next = s.next := (adds_dpbAdd p s).next

-- the log shows what comes into the DPB
lemma addPicture_log (p : PicId) (s : Store) : ∃ info, (s.addPicture p).log = .storing info :: s.log :=
  ⟨_, congrArg (List.cons _) (adds_dpbAdd p s).log⟩

end Store

end VkVideoParser.H264
