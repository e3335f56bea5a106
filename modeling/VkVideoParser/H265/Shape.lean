import VkVideoParser.H265.RefPicSet

/-! What the operations on the pictures leave as it is: they change reference counts and marks, and
the log by releases and by what is stored. -/

namespace VkVideoParser.H265

-- what the DPB itself does
def Event.ofDpb : Event → Bool
  | .release _ _ | .storing _ => true
  | _ => false

/-- A picture whose count of references, marks and place in the output order may have changed. -/
def SameContent (x y : Picture) : Prop := ∃ n r l o c, y = { x with
  refcount := n, ref := r, longTerm := l, neededForOutput := o, picLatencyCnt := c }

lemma SameContent.refl (x : Picture) : SameContent x x := ⟨_, _, _, _, _, rfl⟩

lemma SameContent.trans {x y z : Picture} (h : SameContent x y) (h' : SameContent y z) : SameContent x z := by
  obtain ⟨_, _, _, _, _, rfl⟩ := h
  obtain ⟨_, _, _, _, _, rfl⟩ := h'
  exact ⟨_, _, _, _, _, rfl⟩

lemma SameContent.number {x y : Picture} (h : SameContent x y) :
    y.picOrderCnt = x.picOrderCnt ∧ y.systemFrameNumber = x.systemFrameNumber := by
  obtain ⟨_, _, _, _, _, rfl⟩ := h
  exact ⟨rfl, rfl⟩

lemma SameContent.userData {x y : Picture} (h : SameContent x y) : y.userData = x.userData := by
  obtain ⟨_, _, _, _, _, rfl⟩ := h
  rfl

namespace Store

variable {a b c : Store} {p : PicId}

structure Keeps (a b : Store) : Prop where
  next : b.next = a.next
  maxNumPics : b.dpb.maxNumPics = a.dpb.maxNumPics
  pic : ∀ q, SameContent (a.pic q) (b.pic q)
  log : ∃ l, b.log = l ++ a.log ∧ ∀ e ∈ l, e.ofDpb

lemma Keeps.refl (a : Store) : Keeps a a := ⟨rfl, rfl, fun _ => .refl _, [], rfl, by simp⟩

lemma Keeps.trans (h : Keeps a b) (h' : Keeps b c) : Keeps a c := by
  refine ⟨h'.next.trans h.next, h'.maxNumPics.trans h.maxNumPics, fun q => (h.pic q).trans (h'.pic q), ?_⟩
  obtain ⟨l, hl, hr⟩ := h.log
  obtain ⟨l', hl', hr'⟩ := h'.log
  refine ⟨l' ++ l, by rw [hl', hl, List.append_assoc], fun e he => ?_⟩
  rcases List.mem_append.mp he with he | he
  · exact hr' e he
  · exact hr e he

-- a change of the DPB's bookkeeping or of the fault
lemma keeps_of_eq (hn : b.next = a.next) (hm : b.dpb.maxNumPics = a.dpb.maxNumPics) (hp : b.pic = a.pic)
    (hl : b.log = a.log) : Keeps a b := ⟨hn, hm, fun q => hp ▸ .refl _, [], hl, by simp⟩

@[simp] lemma modifyPic_pic (p q : PicId) (f : Picture → Picture) (a : Store) :
    (a.modifyPic p f).pic q = if q = p then f (a.pic p) else a.pic q := by
  simp only [modifyPic, Function.update_apply]

lemma keeps_modifyPic {f : Picture → Picture} (h : ∀ x, SameContent x (f x)) (p : PicId) (a : Store) :
    Keeps a (a.modifyPic p f) := by
  refine ⟨rfl, rfl, fun q => ?_, [], rfl, by simp⟩
  rw [modifyPic_pic]
  split
  · rename_i hq
    rw [hq]
    exact h _
  · exact .refl _

lemma keeps_foldl {f : PicId → Store → Store} (h : ∀ p a, Keeps a (f p a)) (l : List PicId) (a : Store) :
    Keeps a (l.foldl (fun s p => f p s) a) := by
  induction l generalizing a with
  | nil => exact .refl a
  | cons p l ih => exact (h p a).trans (ih _)

lemma keeps_die (f : Fault) (a : Store) : Keeps a (a.die f) := keeps_of_eq rfl rfl rfl rfl

lemma keeps_setPicList (l : List PicId) (a : Store) : Keeps a (a.setPicList l) := keeps_of_eq rfl rfl rfl rfl

lemma keeps_addOutputNeeded (n : Int) (a : Store) : Keeps a (a.addOutputNeeded n) := keeps_of_eq rfl rfl rfl rfl

lemma keeps_ref (p : PicId) (a : Store) : Keeps a (a.ref p) :=
  keeps_modifyPic (fun _ => ⟨_, _, _, _, _, rfl⟩) p a

lemma keeps_vkPicFree (p : PicId) (a : Store) : Keeps a (a.vkPicFree p) := by
  cases hv : (a.pic p).userData with
  | none =>
    rw [vkPicFree, hv]
    exact .refl a
  | some vkpic =>
    rw [vkPicFree, hv]
    exact ⟨rfl, rfl, fun _ => .refl _, [_], rfl, by simp [Event.ofDpb]⟩

lemma keeps_unref (p : PicId) (a : Store) : Keeps a (a.unref p) := by
  unfold unref
  split
  · exact keeps_die _ _
  · exact (keeps_modifyPic (fun _ => ⟨_, _, _, _, _, rfl⟩) p a).trans (keeps_vkPicFree p _)
  · exact keeps_modifyPic (fun _ => ⟨_, _, _, _, _, rfl⟩) p a

lemma keeps_refAll (l : List PicId) (a : Store) : Keeps a (a.refAll l) := keeps_foldl keeps_ref l a

lemma keeps_unrefAll (l : List PicId) (a : Store) : Keeps a (a.unrefAll l) := keeps_foldl keeps_unref l a

lemma keeps_setNeeded (p : PicId) (needed : Bool) (a : Store) : Keeps a (a.setNeeded p needed) :=
  keeps_modifyPic (fun _ => ⟨_, _, _, _, _, rfl⟩) p a

lemma keeps_dpbClear (a : Store) : Keeps a a.dpbClear :=
  ((keeps_setPicList [] a).trans (keeps_unrefAll _ _)).trans (keeps_of_eq rfl rfl rfl rfl)

lemma keeps_countLatency (p : PicId) (a : Store) : Keeps a (a.modifyPic p countLatency) := by
  apply keeps_modifyPic
  intro x
  unfold countLatency
  split
  · exact ⟨_, _, _, _, _, rfl⟩
  · exact .refl x

lemma keeps_markForOutput (p : PicId) (a : Store) : Keeps a (a.markForOutput p) := by
  unfold markForOutput
  split
  · have hcount := keeps_foldl (f := fun q a => a.modifyPic q countLatency) keeps_countLatency a.dpb.picList a
    exact (hcount.trans (keeps_addOutputNeeded 1 _)).trans (keeps_setNeeded p true _)
  · exact keeps_setNeeded p false a

lemma keeps_dpbAdd (p : PicId) (a : Store) : Keeps a (a.dpbAdd p) := by
  have hmark := keeps_modifyPic (f := fun x => { x with ref := true, longTerm := false })
    (fun _ => ⟨_, _, _, _, _, rfl⟩) p (a.markForOutput p)
  exact ((keeps_markForOutput p a).trans hmark).trans (keeps_setPicList _ _)

lemma keeps_storePicture (p : PicId) (a : Store) : Keeps a (a.storePicture p) := by
  have hemit : ∀ info, Keeps a (a.emit (.storing info)) := fun info =>
    ⟨rfl, rfl, fun _ => .refl _, [_], rfl, by simp [Event.ofDpb]⟩
  exact (hemit _).trans (keeps_dpbAdd p _)

lemma keeps_dpbDeleteUnused (a : Store) : Keeps a a.dpbDeleteUnused :=
  (keeps_setPicList _ a).trans (keeps_unrefAll _ _)

lemma keeps_dpbMarkAllNonRef (a : Store) : Keeps a a.dpbMarkAllNonRef :=
  keeps_foldl (f := setRef false) (keeps_modifyPic fun _ => ⟨_, _, _, _, _, rfl⟩) _ a

def bumpCount (p : PicId) (a : Store) : Store :=
  let a := ((a.ref p).setNeeded p false).addOutputNeeded (-1)
  if a.dpb.numOutputNeeded < 0 then a.die .assertion else a

def bumpRemove (drain : Bool) (i : Nat) (p : PicId) (a : Store) : Store :=
  if !(a.pic p).ref || drain then (a.setPicList (removeIndexFast a.dpb.picList i)).unref p else a

lemma bump_some {drain : Bool} {i : Nat} (h : a.dpbGetLowestOutputNeededPicture = some (i, p)) :
    a.dpbBump drain = (some p, (a.bumpCount p).bumpRemove drain i p) := by
  unfold dpbBump
  rw [h]
  rfl

lemma keeps_bumpCount (p : PicId) (a : Store) : Keeps a (a.bumpCount p) := by
  have h := ((keeps_ref p a).trans (keeps_setNeeded p false _)).trans (keeps_addOutputNeeded (-1) _)
  unfold bumpCount
  simp only
  split
  · exact h.trans (keeps_die _ _)
  · exact h

lemma keeps_bumpRemove (drain : Bool) (i : Nat) (p : PicId) (a : Store) : Keeps a (a.bumpRemove drain i p) := by
  unfold bumpRemove
  split
  · exact (keeps_setPicList _ a).trans (keeps_unref p _)
  · exact .refl a

lemma keeps_dpbBump (drain : Bool) (a : Store) : Keeps a (a.dpbBump drain).2 := by
  cases h : a.dpbGetLowestOutputNeededPicture with
  | none =>
    unfold dpbBump
    rw [h]
    exact .refl a
  | some i =>
    rw [bump_some h]
    exact (keeps_bumpCount i.2 a).trans (keeps_bumpRemove drain i.1 i.2 _)

lemma bump_eq_none {drain : Bool} (h : (a.dpbBump drain).1 = none) :
    a.dpbGetLowestOutputNeededPicture = none ∧ (a.dpbBump drain).2 = a := by
  cases hl : a.dpbGetLowestOutputNeededPicture with
  | none =>
    unfold dpbBump
    rw [hl]
    exact ⟨rfl, rfl⟩
  | some i =>
    rw [bump_some hl] at h
    cases h

@[simp] lemma unref_dpb (p : PicId) (a : Store) : (a.unref p).dpb = a.dpb := by
  unfold unref vkPicFree
  split
  · rfl
  · split <;> rfl
  · rfl

lemma unrefAll_dpb (l : List PicId) (a : Store) : (a.unrefAll l).dpb = a.dpb := by
  induction l generalizing a with
  | nil => rfl
  | cons p l ih => exact (ih _).trans (unref_dpb p a)

lemma bumpCount_picList (p : PicId) (a : Store) : (a.bumpCount p).dpb.picList = a.dpb.picList := by
  unfold bumpCount
  simp only
  split <;> rfl

lemma dpbClear_picList (a : Store) : a.dpbClear.dpb.picList = [] := congrArg Dpb.picList (unrefAll_dpb _ _)

lemma removeIndexFast_length (l : List PicId) (i : Nat) : (removeIndexFast l i).length = l.length - 1 := by
  unfold removeIndexFast
  cases h : l.getLast? with
  | none =>
    rw [List.getLast?_eq_none_iff.mp h]
    rfl
  | some q => simp

lemma lowest_nonempty {i : Nat × PicId} (h : a.dpbGetLowestOutputNeededPicture = some i) : a.dpb.picList ≠ [] := by
  intro hnil
  rw [dpbGetLowestOutputNeededPicture, hnil] at h
  cases h

-- a bump that drains takes the picture out
lemma bump_length (h : (a.dpbBump true).1 = some p) :
    (a.dpbBump true).2.dpb.picList.length < a.dpb.picList.length := by
  cases hl : a.dpbGetLowestOutputNeededPicture with
  | none =>
    rw [dpbBump, hl] at h
    cases h
  | some i =>
    have hremove : (a.dpbBump true).2.dpb.picList = removeIndexFast a.dpb.picList i.1 := by
      rw [bump_some hl, bumpRemove, if_pos (by simp), unref_dpb, setPicList, bumpCount_picList]
    have hpos := List.length_pos_of_ne_nil (lowest_nonempty hl)
    rw [hremove, removeIndexFast_length]
    omega

lemma keeps_deriveAndMarkRps (pocs : RefPocs) (a : Store) : Keeps a (a.deriveAndMarkRps pocs).2 := by
  have hlong := keeps_foldl (f := setLongTerm) (keeps_modifyPic fun _ => ⟨_, _, _, _, _, rfl⟩)
  have hdrop := keeps_foldl (f := dropRef) (keeps_modifyPic fun _ => ⟨_, _, _, _, _, rfl⟩)
  unfold deriveAndMarkRps deriveLongTerm deriveShortTerm markUnused
  exact (((keeps_refAll _ a).trans (hlong _ _)).trans (keeps_refAll _ _)).trans (hdrop _ _)

/-- What is stored as a reference stays so. -/
def KeepsRefs (a b : Store) : Prop := ∀ q ∈ a.listedRefs, q ∈ b.listedRefs

lemma mem_listedRefs : p ∈ a.listedRefs ↔ p ∈ a.dpb.picList ∧ (a.pic p).ref := List.mem_filter

lemma KeepsRefs.trans (h : KeepsRefs a b) (h' : KeepsRefs b c) : KeepsRefs a c := fun q hq => h' q (h q hq)

lemma keepsRefs_of_eq (hl : b.dpb.picList = a.dpb.picList) (hr : ∀ q, (b.pic q).ref = (a.pic q).ref) :
    KeepsRefs a b := by
  intro q hq
  rw [mem_listedRefs] at hq ⊢
  exact ⟨hl ▸ hq.1, (hr q).trans hq.2⟩

lemma ref_modifyPic {f : Picture → Picture} (hf : ∀ x, (f x).ref = x.ref) (p q : PicId) (a : Store) :
    ((a.modifyPic p f).pic q).ref = (a.pic q).ref := by
  rw [modifyPic_pic]
  split
  · rename_i hq
    rw [hf, hq]
  · rfl

lemma vkPicFree_pic (p : PicId) (a : Store) : (a.vkPicFree p).pic = a.pic := by
  unfold vkPicFree
  split <;> rfl

lemma ref_unref (p q : PicId) (a : Store) : ((a.unref p).pic q).ref = (a.pic q).ref := by
  unfold unref
  split
  · rfl
  · rw [vkPicFree_pic]
    exact ref_modifyPic (f := fun x => { x with refcount := 0 }) (fun _ => rfl) p q a
  · rename_i n _
    exact ref_modifyPic (f := fun x => { x with refcount := n + 1 }) (fun _ => rfl) p q a

lemma ref_unrefAll (l : List PicId) (q : PicId) (a : Store) : ((a.unrefAll l).pic q).ref = (a.pic q).ref := by
  induction l generalizing a with
  | nil => rfl
  | cons p l ih => exact (ih _).trans (ref_unref p q a)

lemma keepsRefs_dpbDeleteUnused (a : Store) : KeepsRefs a a.dpbDeleteUnused := by
  intro q hq
  rw [mem_listedRefs] at hq ⊢
  have hlist : a.dpbDeleteUnused.dpb.picList = a.dpb.picList.filter fun p => !a.unused p :=
    congrArg Dpb.picList (unrefAll_dpb _ _)
  refine ⟨?_, (ref_unrefAll _ q _).trans hq.2⟩
  rw [hlist, List.mem_filter]
  exact ⟨hq.1, by simp [unused, hq.2]⟩

-- the picture found stands at the place found
lemma lowestFrom_spec {pic : PicId → Picture} {l : List PicId} {i : Nat} {lowest : Option (Nat × PicId)} {r : Nat × PicId}
    (h : lowestOutputNeededFrom pic i l lowest = some r) :
    lowest = some r ∨ ∃ j, l[j]? = some r.2 ∧ r.1 = i + j := by
  induction l generalizing i lowest with
  | nil => exact .inl h
  | cons p l ih =>
    have hcand : ∀ {o : Option (Nat × PicId)}, (o = lowest ∨ o = some (i, p)) → o = some r →
        lowest = some r ∨ ∃ j, (p :: l)[j]? = some r.2 ∧ r.1 = i + j := by
      rintro o (rfl | rfl) ho
      · exact .inl ho
      · cases ho
        exact .inr ⟨0, rfl, rfl⟩
    rcases ih h with h | ⟨j, hj, hr⟩
    · refine hcand ?_ h
      split
      · split
        · exact .inr rfl
        · split
          · exact .inr rfl
          · exact .inl rfl
      · exact .inl rfl
    · exact .inr ⟨j + 1, hj, by omega⟩

lemma lowest_spec {r : Nat × PicId} (h : a.dpbGetLowestOutputNeededPicture = some r) :
    a.dpb.picList[r.1]? = some r.2 := by
  rcases lowestFrom_spec h with h | ⟨j, hj, hr⟩
  · cases h
  · rw [hr, Nat.zero_add, hj]

-- the entry that is removed makes room for the last one
lemma mem_removeIndexFast {l : List PicId} {i : Nat} {q : PicId} (hi : l[i]? = some p) (hq : q ∈ l) (hne : q ≠ p) :
    q ∈ removeIndexFast l i := by
  obtain ⟨j, hj⟩ := List.mem_iff_getElem?.mp hq
  obtain ⟨hlt, -⟩ := List.getElem?_eq_some_iff.mp hj
  obtain ⟨hilt, -⟩ := List.getElem?_eq_some_iff.mp hi
  have hji : j ≠ i := by
    rintro rfl
    exact hne (Option.some.inj (hj.symm.trans hi))
  have hlast : l.getLast? = l[l.length - 1]? := List.getLast?_eq_getElem?
  unfold removeIndexFast
  cases hl : l.getLast? with
  | none =>
    rw [List.getLast?_eq_none_iff] at hl
    rw [hl] at hq
    cases hq
  | some x =>
    refine List.mem_iff_getElem?.mpr ?_
    by_cases hlen : j = l.length - 1
    · refine ⟨i, ?_⟩
      have hx : x = q := Option.some.inj (hl.symm.trans (hlast.trans (hlen ▸ hj)))
      rw [List.getElem?_dropLast, List.length_set, if_pos (by omega), List.getElem?_set_self hilt, hx]
    · refine ⟨j, ?_⟩
      rw [List.getElem?_dropLast, List.length_set, if_pos (by omega), List.getElem?_set_ne (Ne.symm hji), hj]

lemma bumpCount_ref (p q : PicId) (a : Store) : ((a.bumpCount p).pic q).ref = (a.pic q).ref := by
  have h : ((((a.ref p).setNeeded p false).addOutputNeeded (-1)).pic q).ref = (a.pic q).ref :=
    (ref_modifyPic (f := fun x => { x with neededForOutput := false }) (fun _ => rfl) p q (a.ref p)).trans
      (ref_modifyPic (f := fun x => { x with refcount := x.refcount + 1 }) (fun _ => rfl) p q a)
  unfold bumpCount
  simp only
  split <;> exact h

lemma keepsRefs_dpbBump (a : Store) : KeepsRefs a (a.dpbBump false).2 := by
  cases h : a.dpbGetLowestOutputNeededPicture with
  | none =>
    unfold dpbBump
    rw [h]
    exact fun _ hq => hq
  | some r =>
    rw [bump_some h]
    have hcount : KeepsRefs a (a.bumpCount r.2) :=
      keepsRefs_of_eq (bumpCount_picList r.2 a) fun q => bumpCount_ref r.2 q a
    refine hcount.trans fun q hq => ?_
    unfold bumpRemove
    split
    · rename_i hrem
      have hno : ((a.bumpCount r.2).pic r.2).ref = false := by simpa using hrem
      rw [mem_listedRefs] at hq ⊢
      have hne : q ≠ r.2 := by
        rintro rfl
        exact absurd (hno.symm.trans hq.2) (by decide)
      refine ⟨?_, (ref_unref r.2 q _).trans hq.2⟩
      rw [unref_dpb]
      refine mem_removeIndexFast ?_ hq.1 hne
      rw [bumpCount_picList]
      exact lowest_spec h
    · exact hq

lemma ref_foldl {f : PicId → Store → Store} (h : ∀ p q a, ((f p a).pic q).ref = (a.pic q).ref) (l : List PicId) (q : PicId)
    (a : Store) : ((l.foldl (fun s p => f p s) a).pic q).ref = (a.pic q).ref := by
  induction l generalizing a with
  | nil => rfl
  | cons p l ih => exact (ih _).trans (h p q a)

lemma dpb_foldl {f : PicId → Store → Store} (h : ∀ p a, (f p a).dpb = a.dpb) (l : List PicId) (a : Store) :
    (l.foldl (fun s p => f p s) a).dpb = a.dpb := by
  induction l generalizing a with
  | nil => rfl
  | cons p l ih => exact (ih _).trans (h p a)

lemma ref_refAll (l : List PicId) (q : PicId) (a : Store) : ((a.refAll l).pic q).ref = (a.pic q).ref :=
  ref_foldl (f := ref) (ref_modifyPic (f := fun x => { x with refcount := x.refcount + 1 }) fun _ => rfl) l q a

lemma refAll_dpb (l : List PicId) (a : Store) : (a.refAll l).dpb = a.dpb := dpb_foldl (f := ref) (fun _ _ => rfl) l a

-- a long-term picture of a set is a reference
lemma ref_setLongTerm {l : List PicId} (hl : ∀ p ∈ l, (a.pic p).ref) (q : PicId) :
    ((l.foldl (fun s p => s.setLongTerm p) a).pic q).ref = (a.pic q).ref := by
  induction l generalizing a with
  | nil => rfl
  | cons p l ih =>
    have hstep : ∀ q, ((a.setLongTerm p).pic q).ref = (a.pic q).ref := by
      intro q
      rw [setLongTerm, modifyPic_pic]
      split
      · rename_i hq
        rw [hq, hl p List.mem_cons_self]
      · rfl
    refine (ih fun r hr => ?_).trans (hstep q)
    rw [hstep]
    exact hl r (List.mem_cons_of_mem _ hr)

-- only the pictures that leave their sets lose their marks
lemma ref_dropRefs {l : List PicId} {q : PicId} (hq : q ∉ l) (a : Store) :
    ((l.foldl (fun s p => s.dropRef p) a).pic q).ref = (a.pic q).ref := by
  induction l generalizing a with
  | nil => rfl
  | cons p l ih =>
    rw [List.mem_cons, not_or] at hq
    refine (ih hq.2 _).trans (congrArg Picture.ref ?_)
    exact (modifyPic_pic p q _ a).trans (if_neg hq.1)

lemma mem_pictures {sets : RefPicSets} {q : PicId} : q ∈ sets.pictures ↔
    some q ∈ sets.ltCurr ∨ some q ∈ sets.ltFoll ∨ some q ∈ sets.stCurrBefore ∨ some q ∈ sets.stCurrAfter ∨
      some q ∈ sets.stFoll := by
  simp only [RefPicSets.pictures, List.mem_filterMap, List.mem_append, id_eq, exists_eq_right, or_assoc]

lemma hasEntryInRps_self {set : List (Option PicId)} (h : some p ∈ set) (a : Store) : a.hasEntryInRps p set :=
  List.any_eq_true.mpr ⟨p, List.mem_filterMap.mpr ⟨_, h, rfl⟩, by simp⟩

lemma inRefPicSets_of_mem {sets : RefPicSets} (h : p ∈ sets.pictures) (a : Store) : a.inRefPicSets sets p := by
  rw [mem_pictures] at h
  simp only [inRefPicSets, Bool.or_eq_true]
  rcases h with h | h | h | h | h
  · exact .inl (.inl (.inl (.inl (hasEntryInRps_self h a))))
  · exact .inl (.inl (.inl (.inr (hasEntryInRps_self h a))))
  · exact .inl (.inr (hasEntryInRps_self h a))
  · exact .inl (.inl (.inr (hasEntryInRps_self h a)))
  · exact .inr (hasEntryInRps_self h a)

lemma mem_listedRefs_of_find {f : PicId → Bool} (hf : ∀ q, f q → (a.pic q).ref) (h : a.dpb.picList.find? f = some p) :
    p ∈ a.listedRefs :=
  mem_listedRefs.mpr ⟨List.mem_of_find?_eq_some h, hf p (List.find?_some h)⟩

lemma listed_dpbGetLtRef {x : Int × Bool} (h : a.dpbGetLtRef x = some p) : p ∈ a.listedRefs := by
  unfold dpbGetLtRef at h
  split at h
  · exact mem_listedRefs_of_find (fun q hq => (Bool.and_eq_true _ _ ▸ hq).1) h
  · exact mem_listedRefs_of_find (fun q hq => (Bool.and_eq_true _ _ ▸ hq).1) h

lemma listed_dpbGetShortRefByPoc {poc : Int} (h : a.dpbGetShortRefByPoc poc = some p) : p ∈ a.listedRefs := by
  refine mem_listedRefs_of_find (fun q hq => ?_) h
  simp only [Bool.and_eq_true] at hq
  exact hq.1.1

lemma listedRefs_congr (hl : b.dpb.picList = a.dpb.picList) (hr : ∀ q, (b.pic q).ref = (a.pic q).ref) :
    b.listedRefs = a.listedRefs := by
  rw [listedRefs, listedRefs, hl]
  exact List.filter_congr fun q _ => hr q

lemma deriveLongTerm_listedRefs (pocs : RefPocs) (a : Store) : (a.deriveLongTerm pocs).2.listedRefs = a.listedRefs := by
  refine listedRefs_congr ?_ fun q => ?_
  · exact congrArg Dpb.picList ((dpb_foldl (f := setLongTerm) (fun _ _ => rfl) _ _).trans (refAll_dpb _ _))
  · refine (ref_setLongTerm (fun p hp => ?_) q).trans (ref_refAll _ q a)
    rw [ref_refAll]
    obtain ⟨o, ho, hid⟩ := List.mem_filterMap.mp hp
    obtain rfl : o = some p := hid
    rcases List.mem_append.mp ho with ho | ho
    · obtain ⟨x, -, hx⟩ := List.mem_map.mp ho
      exact (mem_listedRefs.mp (listed_dpbGetLtRef hx)).2
    · obtain ⟨x, -, hx⟩ := List.mem_map.mp ho
      exact (mem_listedRefs.mp (listed_dpbGetLtRef hx)).2

lemma deriveShortTerm_listedRefs (pocs : RefPocs) (sets : RefPicSets) (a : Store) :
    (a.deriveShortTerm pocs sets).2.listedRefs = a.listedRefs :=
  listedRefs_congr (congrArg Dpb.picList (refAll_dpb _ _)) fun q => ref_refAll _ q a

lemma listed_markUnused {sets : RefPicSets} (hq : p ∈ sets.pictures) (h : p ∈ a.listedRefs) :
    p ∈ (a.markUnused sets).listedRefs := by
  rw [mem_listedRefs] at h ⊢
  refine ⟨?_, (ref_dropRefs ?_ a).trans h.2⟩
  · exact (congrArg Dpb.picList (dpb_foldl (f := dropRef) (fun _ _ => rfl) _ a)).symm ▸ h.1
  · intro hmem
    have hnot := (List.mem_filter.mp hmem).2
    rw [inRefPicSets_of_mem hq a] at hnot
    cases hnot

/-- The pictures of the sets were references, and stay so. -/
lemma pictures_deriveAndMarkRps (pocs : RefPocs) (a : Store) {q : PicId} (hq : q ∈ (a.deriveAndMarkRps pocs).1.pictures) :
    q ∈ a.listedRefs ∧ q ∈ (a.deriveAndMarkRps pocs).2.listedRefs := by
  have hbefore : q ∈ a.listedRefs := by
    have hshort : ∀ {l : List Int}, some q ∈ l.map (a.deriveLongTerm pocs).2.dpbGetShortRefByPoc → q ∈ a.listedRefs := by
      intro l h
      obtain ⟨x, -, hx⟩ := List.mem_map.mp h
      exact deriveLongTerm_listedRefs pocs a ▸ listed_dpbGetShortRefByPoc hx
    have hlong : ∀ {l : List (Int × Bool)}, some q ∈ l.map a.dpbGetLtRef → q ∈ a.listedRefs := by
      intro l h
      obtain ⟨x, -, hx⟩ := List.mem_map.mp h
      exact listed_dpbGetLtRef hx
    rcases mem_pictures.mp hq with h | h | h | h | h
    · exact hlong h
    · exact hlong h
    · exact hshort h
    · exact hshort h
    · exact hshort h
  have hsame : ((a.deriveLongTerm pocs).2.deriveShortTerm pocs (a.deriveLongTerm pocs).1).2.listedRefs = a.listedRefs :=
    (deriveShortTerm_listedRefs pocs _ _).trans (deriveLongTerm_listedRefs pocs a)
  exact ⟨hbefore, listed_markUnused hq (hsame ▸ hbefore)⟩

end Store

end VkVideoParser.H265
