import VkVideoParser.H264.Logs
import VkVideoParser.H264.Runs.Inputs

/-! Reference counts against the entries of the DPB, and the releases that freeing makes. -/

namespace VkVideoParser.H264

open Counting

def Event.released (p : PicId) : Event → Option VkPicIf
  | .release q v => if q = p then some v else none
  | _ => none

/-- What Release was called on for a picture. -/
def releases (log : List Event) (p : PicId) : List VkPicIf := log.filterMap (Event.released p)

namespace Store

variable {a b c : Store} {p q : PicId}

/-- The references of a picture that are not the DPB's. -/
def surplus (a : Store) (q : PicId) : Int := (a.pic q).refcount - a.dpb.picList.count q

/-- No picture has more entries in the DPB than references. -/
def Covered (a : Store) : Prop := ∀ q, 0 ≤ a.surplus q

lemma surplus_congr (hp : (b.pic q).refcount = (a.pic q).refcount) (hl : b.dpb.picList = a.dpb.picList) :
    b.surplus q = a.surplus q := by
  rw [surplus, surplus, hp, hl]

@[simp] lemma surplus_emit (a : Store) (e : Event) : (a.emit e).surplus q = a.surplus q := rfl

lemma vkPicFree_pic (p : PicId) (a : Store) : (a.vkPicFree p).pic = a.pic := by
  unfold vkPicFree
  split <;> rfl

lemma unref_refcount (h : (a.pic p).refcount ≠ 0) (q : PicId) :
    ((a.unref p).pic q).refcount + isAt p q = (a.pic q).refcount := by
  unfold unref
  split
  · rename_i h0
    exact absurd h0 h
  · rename_i h1
    rw [vkPicFree_pic, modifyPic_pic]
    by_cases hq : q = p
    · subst hq
      simp [h1]
    · simp [hq, isAt_of_ne (Ne.symm hq)]
  · rename_i n hn
    rw [modifyPic_pic]
    by_cases hq : q = p
    · subst hq
      simp [hn]
    · simp [hq, isAt_of_ne (Ne.symm hq)]

lemma surplus_unref (h : (a.pic p).refcount ≠ 0) (q : PicId) :
    (a.unref p).surplus q + isAt p q = a.surplus q := by
  have := unref_refcount h q
  rw [surplus, surplus, (sameShape_unref p a).dpb]
  omega

lemma surplus_ref (p q : PicId) (a : Store) : (a.ref p).surplus q = a.surplus q + isAt p q := by
  rw [surplus, surplus, ref, modifyPic_pic, modifyPic_dpb]
  by_cases hq : q = p
  · subst hq
    simp
    omega
  · simp [hq, isAt_of_ne (Ne.symm hq)]

lemma surplus_setPicList (a : Store) (l : List PicId) :
    (a.setPicList l).surplus q = a.surplus q + a.dpb.picList.count q - l.count q := by
  rw [surplus, surplus, setPicList_pic, setPicList_picList]
  omega

-- dropping a reference for every entry of `l`
lemma surplus_unrefAll {l : List PicId} (h : ∀ q, l.count q ≤ (a.pic q).refcount) (q : PicId) :
    (a.unrefAll l).surplus q + l.count q = a.surplus q := by
  induction l generalizing a with
  | nil => simp [unrefAll]
  | cons p l ih =>
    have hp : (a.pic p).refcount ≠ 0 := by
      have := h p
      rw [List.count_cons_self] at this
      omega
    have hl : ∀ q, l.count q ≤ ((a.unref p).pic q).refcount := by
      intro q
      have h₁ := h q
      have h₂ := unref_refcount hp q
      rw [List.count_cons] at h₁
      simp only [isAt, beq_iff_eq] at h₁ h₂
      omega
    have h₁ := ih hl
    have h₂ := surplus_unref hp q
    rw [List.count_cons]
    simp only [isAt, unrefAll, List.foldl_cons, beq_iff_eq] at h₁ h₂ ⊢
    omega

lemma Covered.count_le (h : Covered a) (q : PicId) : a.dpb.picList.count q ≤ (a.pic q).refcount := by
  have := h q
  unfold surplus at this
  omega

lemma surplus_dpbClear (h : Covered a) (q : PicId) : a.dpbClear.surplus q = a.surplus q := by
  have h₁ := surplus_unrefAll (a := a.setPicList []) (l := a.dpb.picList) h.count_le q
  have h₂ := surplus_setPicList (q := q) a []
  have h₃ : a.dpbClear.surplus q = ((a.setPicList []).unrefAll a.dpb.picList).surplus q := rfl
  rw [List.count_nil] at h₂
  omega

lemma count_filter_add (f : PicId → Bool) (l : List PicId) (q : PicId) :
    (l.filter f).count q + (l.filter fun p => !f p).count q = l.count q := by
  induction l with
  | nil => rfl
  | cons p l ih =>
    by_cases hf : f p
    · simp only [List.filter_cons, hf, if_true, Bool.not_true, Bool.false_eq_true, if_false, List.count_cons]
      omega
    · simp only [List.filter_cons, hf, Bool.false_eq_true, if_false, Bool.not_false, if_true, List.count_cons]
      omega

lemma surplus_dpbDeleteUnused (h : Covered a) (q : PicId) : a.dpbDeleteUnused.surplus q = a.surplus q := by
  have hle : ∀ q, (a.dpb.picList.filter a.unused).count q ≤ (a.pic q).refcount := fun q =>
    (List.filter_sublist.count_le q).trans (h.count_le q)
  have h₁ := surplus_unrefAll (a := a.setPicList (a.dpb.picList.filter fun p => !a.unused p)) hle q
  have h₂ := surplus_setPicList (q := q) a (a.dpb.picList.filter fun p => !a.unused p)
  have h₃ := count_filter_add a.unused a.dpb.picList q
  have h₄ : a.dpbDeleteUnused.surplus q =
    ((a.setPicList (a.dpb.picList.filter fun p => !a.unused p)).unrefAll (a.dpb.picList.filter a.unused)).surplus q := rfl
  omega

lemma touch_surplus (p q : PicId) (a : Store) : (a.touch p).surplus q = a.surplus q :=
  surplus_congr (by rw [touch_pic]) (by rw [(sameShape_touch p a).dpb])

lemma surplus_modifyPic {f : Picture → Picture} (hf : ∀ x, (f x).refcount = x.refcount) (p q : PicId) (a : Store) :
    (a.modifyPic p f).surplus q = a.surplus q := by
  refine surplus_congr ?_ rfl
  rw [modifyPic_pic]
  split
  · rename_i hq
    rw [hf, hq]
  · rfl

lemma surplus_bumpRef (p q : PicId) (a : Store) : (a.bumpRef p).surplus q = a.surplus q + isAt p q := by
  have h : ((a.ref p).setNeeded p false).surplus q = (a.ref p).surplus q :=
    surplus_modifyPic (by intro _; rfl) p q (a.ref p)
  rw [← surplus_ref, ← h]
  unfold bumpRef
  simp only
  split <;> rfl

lemma surplus_bumpRemove {drain : Bool} {i : Nat} (hi : a.dpb.picList[i]? = some p) (h : Covered a) (q : PicId) :
    (a.bumpRemove drain i p).surplus q = a.surplus q := by
  unfold bumpRemove
  split
  · have hc : (a.pic p).refcount ≠ 0 := by
      have := h.count_le p
      have := List.count_pos_iff.mpr (List.mem_of_getElem? hi)
      omega
    have h₁ := surplus_unref (a := a.setPicList (a.dpb.picList.eraseIdx i)) hc q
    have h₂ := surplus_setPicList (q := q) a (a.dpb.picList.eraseIdx i)
    have h₃ := count_eraseIdx hi q
    simp only [isAt] at h₁ h₂ h₃
    omega
  · rfl

lemma surplus_bumpOtherField (h : Covered a) (p q : PicId) : (a.bumpOtherField p).surplus q = a.surplus q := by
  unfold bumpOtherField
  split
  · rfl
  · rename_i r _
    simp only
    have hm : ∀ q, (((a.touch r).setNeeded r false).modifyPic p fun x =>
        { x with
          bufferFlagInterlaced := true
          bufferFlagTff := x.bufferFlagTff ||
            decide (x.picOrderCnt < (((a.touch r).setNeeded r false).pic r).picOrderCnt) }).surplus q =
        a.surplus q := by
      intro q
      refine (surplus_modifyPic (by intro _; rfl) p q _).trans ?_
      exact (surplus_modifyPic (by intro _; rfl) r q (a.touch r)).trans (touch_surplus r q a)
    split
    · rename_i hr
      generalize (((a.touch r).setNeeded r false).modifyPic p _) = d at hr hm ⊢
      have hd : Covered d := fun q => (h q).trans_eq (hm q).symm
      have hc : (d.pic r).refcount ≠ 0 := by
        have := hd.count_le r
        have := List.count_pos_iff.mpr hr.2
        omega
      have h₁ := surplus_unref (a := d.setPicList (d.dpb.picList.erase r)) hc q
      have h₂ := surplus_setPicList (q := q) d (d.dpb.picList.erase r)
      have h₃ := List.count_pos_iff.mpr hr.2
      rw [← hm q]
      by_cases hq : r = q
      · subst hq
        rw [List.count_erase_self] at h₂
        rw [isAt_self] at h₁
        omega
      · rw [List.count_erase_of_ne (Ne.symm hq)] at h₂
        rw [isAt_of_ne hq] at h₁
        omega
    · exact hm q

lemma surplus_dpbBump {drain : Bool} (hp : (a.dpbBump drain).1 = some p) (h : Covered a) (q : PicId) :
    (a.dpbBump drain).2.surplus q = a.surplus q + isAt p q := by
  obtain ⟨i, hi⟩ := bump_eq_some hp
  have h₁ : Covered (a.bumpRef p) := fun q => by
    have := h q
    rw [surplus_bumpRef]
    omega
  have hmem : (a.bumpRef p).dpb.picList[i]? = some p := by
    rw [bumpRef_picList]
    exact (lowest_spec hi).1
  have h₂ : Covered ((a.bumpRef p).bumpRemove drain i p) := fun q => by
    rw [surplus_bumpRemove hmem h₁]
    exact h₁ q
  rw [bump_some hi]
  calc (dpbSetLastOutput p (((a.bumpRef p).bumpRemove drain i p).bumpOtherField p)).surplus q
      = (((a.bumpRef p).bumpRemove drain i p).bumpOtherField p).surplus q := rfl
    _ = a.surplus q + isAt p q := by rw [surplus_bumpOtherField h₂, surplus_bumpRemove hmem h₁, surplus_bumpRef]

lemma surplus_addPicture (p q : PicId) (a : Store) : (a.addPicture p).surplus q + isAt p q = a.surplus q := by
  obtain ⟨n, o, hq⟩ := (adds_dpbAdd p a).pic q
  rw [surplus, surplus, addPicture_pic, addPicture_dpb, hq, dpbAdd_picList, List.count_append, List.count_singleton]
  simp only [isAt, beq_iff_eq]
  omega

/-- A picture that had a buffer and lost its last reference. -/
def freed (a : Store) (q : PicId) : Option VkPicIf :=
  if (a.pic q).refcount = 0 then (a.pic q).userData.map VkPic.pic else none

/-- Release was called once for every freed picture, and for no other. -/
def Settled (a : Store) : Prop := ∀ q, releases a.log q = (a.freed q).toList

lemma Settled.congr (h : Settled a) (hf : ∀ q, b.freed q = a.freed q)
    (hl : ∀ q, releases b.log q = releases a.log q) : Settled b := fun q => by rw [hl, hf, h q]

lemma freed_of_ne (h : (a.pic q).refcount ≠ 0) : a.freed q = none := if_neg h

lemma freed_congr (hr : (b.pic q).refcount = (a.pic q).refcount) (hu : (b.pic q).userData = (a.pic q).userData) :
    b.freed q = a.freed q := by
  rw [freed, freed, hr, hu]

lemma Settled.unref (h : Settled a) (p : PicId) : Settled (a.unref p) := by
  unfold Store.unref
  split
  · exact h
  · rename_i h1
    have hlog : releases a.log p = [] := by
      rw [h p, freed_of_ne (by omega)]
      rfl
    intro q
    unfold vkPicFree
    by_cases hq : q = p
    · subst hq
      cases hu : (a.pic q).userData with
      | none => simp [hu, hlog, freed]
      | some vkpic => simpa [hu, freed, releases, Event.released] using hlog
    · have hf : ∀ b : Store, b.pic q = a.pic q → b.freed q = a.freed q := fun b hb => freed_congr (by rw [hb]) (by rw [hb])
      split
      · rw [hf _ (by simp [hq]), ← h q]
        exact List.filterMap_cons_none (if_neg (Ne.symm hq))
      · rw [hf _ (by simp [hq]), ← h q]
        rfl
  · rename_i n hn
    refine h.congr (fun q => ?_) fun _ => rfl
    by_cases hq : q = p
    · subst hq
      rw [freed_of_ne (by simp), freed_of_ne (by omega)]
    · exact freed_congr (by simp [hq]) (by simp [hq])

lemma Settled.unrefAll (h : Settled a) (l : List PicId) : Settled (a.unrefAll l) := by
  induction l generalizing a with
  | nil => exact h
  | cons p l ih => exact ih (h.unref p)

lemma Settled.setPicList (h : Settled a) (l : List PicId) : Settled (a.setPicList l) := h

lemma Settled.dpbClear (h : Settled a) : Settled a.dpbClear := (h.setPicList []).unrefAll a.dpb.picList

lemma Settled.dpbDeleteUnused (h : Settled a) : Settled a.dpbDeleteUnused := (h.setPicList _).unrefAll _

lemma Settled.modifyPic (h : Settled a) {f : Picture → Picture} (hr : ∀ x, (f x).refcount = x.refcount)
    (hu : ∀ x, (f x).userData = x.userData) (p : PicId) : Settled (a.modifyPic p f) := by
  refine h.congr (fun q => ?_) fun _ => rfl
  rw [freed, freed, modifyPic_pic]
  split
  · rename_i hq
    rw [hr, hu, hq]
  · rfl

lemma Settled.touch (h : Settled a) (p : PicId) : Settled (a.touch p) :=
  h.congr (fun q => freed_congr (by rw [touch_pic]) (by rw [touch_pic])) fun q => by rw [touch_log]

lemma Settled.ref (h : Settled a) (hp : (a.pic p).refcount ≠ 0) : Settled (a.ref p) := by
  refine h.congr (fun q => ?_) fun _ => rfl
  by_cases hq : q = p
  · subst hq
    rw [freed_of_ne (by simp [Store.ref]), freed_of_ne hp]
  · exact freed_congr (by simp [Store.ref, hq]) (by simp [Store.ref, hq])

lemma Settled.bumpRef (h : Settled a) (hp : (a.pic p).refcount ≠ 0) : Settled (a.bumpRef p) := by
  have hs : Settled ((a.ref p).setNeeded p false) := (h.ref hp).modifyPic (by intro _; rfl) (by intro _; rfl) p
  unfold Store.bumpRef
  simp only
  split <;> exact hs

lemma Settled.bumpRemove (h : Settled a) (drain : Bool) (i : Nat) (p : PicId) : Settled (a.bumpRemove drain i p) := by
  unfold Store.bumpRemove
  split
  · exact (h.setPicList _).unref p
  · exact h

lemma Settled.bumpOtherField (h : Settled a) (p : PicId) : Settled (a.bumpOtherField p) := by
  unfold Store.bumpOtherField
  split
  · exact h
  · rename_i r _
    have hs := (((h.touch r).modifyPic (f := fun x => { x with neededForOutput := false })
      (by intro _; rfl) (by intro _; rfl) r).modifyPic (f := fun x =>
        { x with
          bufferFlagInterlaced := true
          bufferFlagTff := x.bufferFlagTff ||
            decide (x.picOrderCnt < (((a.touch r).setNeeded r false).pic r).picOrderCnt) })
      (by intro _; rfl) (by intro _; rfl) p)
    simp only
    split
    · exact (hs.setPicList _).unref r
    · exact hs

lemma Settled.dpbBump (h : Settled a) {drain : Bool} (hp : (a.dpbBump drain).1 = some p) (hc : Covered a) :
    Settled (a.dpbBump drain).2 := by
  obtain ⟨i, hi⟩ := bump_eq_some hp
  have hr : (a.pic p).refcount ≠ 0 := by
    have := hc.count_le p
    have := List.count_pos_iff.mpr (List.mem_of_getElem? (lowest_spec hi).1)
    omega
  rw [bump_some hi]
  exact ((h.bumpRef hr).bumpRemove drain i p).bumpOtherField p

lemma Settled.addPicture (h : Settled a) (p : PicId) : Settled (a.addPicture p) := by
  obtain ⟨info, hlog⟩ := addPicture_log p a
  refine h.congr (fun q => ?_) fun _ => by rw [hlog]; rfl
  obtain ⟨b, o, hq⟩ := (adds_dpbAdd p a).pic q
  exact freed_congr (by rw [addPicture_pic, hq]) (by rw [addPicture_pic, hq])

end Store

end VkVideoParser.H264
