import VkVideoParser.H264.Runs.Output

/-! The functions of the decoder taken apart into moves: reference marking. -/

namespace VkVideoParser.H264

open Execution Relation

variable {P : Type} {env : Env P} {k k' : Phase} {s t : Decoder P}

section Stores

variable {a b c : Store} {p : PicId} {R : PicId → Prop}

lemma SameRole.refl (x : Picture) : SameRole x x := ⟨rfl, rfl, rfl, rfl, rfl, rfl, rfl, rfl, rfl, rfl, rfl, rfl⟩

lemma SameRole.trans {x y z : Picture} (h : SameRole x y) (h' : SameRole y z) : SameRole x z :=
  ⟨h'.refcount.trans h.refcount, h'.systemFrameNumber.trans h.systemFrameNumber, h'.nalRefIdc.trans h.nalRefIdc,
    h'.idr.trans h.idr, h'.decRefPicMarking.trans h.decRefPicMarking, h'.neededForOutput.trans h.neededForOutput,
    h'.nonexisting.trans h.nonexisting, h'.field.trans h.field, h'.secondField.trans h.secondField,
    h'.otherField.trans h.otherField, h'.bufferFlags.trans h.bufferFlags, h'.userData.trans h.userData⟩

lemma SameRoles.trans (h : SameRoles a b) (h' : SameRoles b c) : SameRoles a c :=
  ⟨fun q => (h.role q).trans (h'.role q), h'.next.trans h.next, h'.dpb.trans h.dpb, h'.log.trans h.log⟩

lemma sameRoles_modifyPic {f : Picture → Picture} (h : ∀ x, SameRole x (f x)) (a : Store) :
    SameRoles a (a.modifyPic p f) := by
  refine ⟨fun q => ?_, rfl, rfl, rfl⟩
  rw [Store.modifyPic_pic]
  split
  · rename_i hq
    rw [hq]
    exact h _
  · exact .refl _

lemma Marks.refl (a : Store) : Marks R a a where
  role _ := .refl _
  next := rfl
  dpb := rfl
  log := rfl
  refPic _ := id
  refPicKept _ := id
  order _ := .refl _
  memMgmt5 _ := .inl

lemma Marks.trans (h : Marks R a b) (h' : Marks R b c) : Marks R a c where
  toSameRoles := h.toSameRoles.trans h'.toSameRoles
  refPic q := h'.refPic q ∘ h.refPic q
  refPicKept q := h'.refPicKept q ∘ h.refPicKept q
  order q := (h.order q).trans (h'.order q)
  memMgmt5 q h5 := (h'.memMgmt5 q h5).elim (h.memMgmt5 q) .inr

lemma marks_modifyPic {f : Picture → Picture} (h : ∀ x, SameRole x (f x))
    (hr : ∀ x, (x.isRef → x.refPic) → (f x).isRef → (f x).refPic) (hk : ∀ x, x.refPic → (f x).refPic)
    (ho : ∀ x, KeepsOrder x (f x)) (h5 : ∀ x, (f x).memMgmt5 → x.memMgmt5 ∨ R p) :
    Marks R a (a.modifyPic p f) where
  toSameRoles := sameRoles_modifyPic h a
  refPic q := by
    rw [Store.modifyPic_pic]
    split
    · rename_i hq
      rw [hq]
      exact hr _
    · exact id
  refPicKept q := by
    rw [Store.modifyPic_pic]
    split
    · rename_i hq
      rw [hq]
      exact hk _
    · exact id
  order q := by
    rw [Store.modifyPic_pic]
    split
    · rename_i hq
      rw [hq]
      exact ho _
    · exact .refl _
  memMgmt5 q := by
    rw [Store.modifyPic_pic]
    split
    · rename_i hq
      rw [hq]
      exact h5 _
    · exact .inl

lemma Marks.mono {R' : PicId → Prop} (h : Marks R a b) (hr : ∀ q, R q → R' q) : Marks R' a b :=
  { h with memMgmt5 := fun q h5 => (h.memMgmt5 q h5).imp_right (hr q) }

lemma marks_touch (p : PicId) (a : Store) : Marks R a (a.touch p) := by
  unfold Store.touch
  split
  · exact ⟨⟨fun _ => .refl _, rfl, rfl, rfl⟩, fun _ => id, fun _ => id, fun _ => .refl _, fun _ => .inl⟩
  · exact .refl a

lemma keepsOrder_of_eq {x y : Picture} (h : y = { x with
    ref := y.ref, refPic := y.refPic, longTermFrameIdx := y.longTermFrameIdx, longTermPicNum := y.longTermPicNum
    frameNumWrap := y.frameNumWrap, picNum := y.picNum }) : KeepsOrder x y := by
  rw [h]
  exact ⟨rfl, rfl, rfl, rfl, id, fun _ => rfl, fun h => ⟨h.1, h.2, h.3⟩⟩

lemma marks_foldl {f : Store → PicId → Store} (h : ∀ a p, Marks R a (f a p)) (l : List PicId) (a : Store) :
    Marks R a (l.foldl f a) := by
  induction l generalizing a with
  | nil => exact .refl a
  | cons p l ih => exact (h a p).trans (ih _)

lemma marks_setReference (p : PicId) (reference : PictureReference) (other : Bool) (a : Store) :
    Marks R a (a.setReference p reference other) := by
  have hmark : ∀ (q : PicId) (b : Store), Marks R b (b.modifyPic q fun x =>
      { x with ref := reference, refPic := x.refPic || decide (reference ≠ .none) }) := by
    intro q b
    refine marks_modifyPic (fun x => ?_) (fun x _ h => ?_) (fun x h => ?_) (fun x => keepsOrder_of_eq rfl) (fun x => .inl)
    · exact ⟨rfl, rfl, rfl, rfl, rfl, rfl, rfl, rfl, rfl, rfl, rfl, rfl⟩
    · have hr : reference ≠ .none := by simpa [Picture.isRef] using h
      simp [hr]
    · simp [h]
  unfold Store.setReference
  simp only
  split
  · exact ((hmark p a).trans (marks_touch _ _)).trans (hmark _ _)
  · exact hmark p a

lemma marks_setLongTermFrameIdx (p : PicId) (frameIdx : Int) (a : Store) :
    Marks R a (a.setLongTermFrameIdx p frameIdx) := by
  have hmark : ∀ (q : PicId) (b : Store), Marks R b (b.modifyPic q fun x =>
      { x with longTermFrameIdx := frameIdx }) := by
    intro q b
    refine marks_modifyPic (fun x => ?_) (fun x h => h) (fun x h => h) (fun x => keepsOrder_of_eq rfl) fun x => .inl
    exact ⟨rfl, rfl, rfl, rfl, rfl, rfl, rfl, rfl, rfl, rfl, rfl, rfl⟩
  unfold Store.setLongTermFrameIdx
  simp only
  split
  · exact hmark p a
  · split
    · exact ((hmark p a).trans (marks_touch _ _)).trans (hmark _ _)
    · exact (hmark p a).trans (marks_touch _ _)

lemma marks_unmarkLongTermHolder (frameIdx : Int) (p q : PicId) (a : Store) :
    Marks R a (a.unmarkLongTermHolder frameIdx p q) := by
  unfold Store.unmarkLongTermHolder
  split
  · exact marks_setReference ..
  · split
    · exact marks_setReference ..
    · simp only
      split_ifs
      · exact (marks_touch _ _).trans (marks_setReference ..)
      · exact (marks_touch _ _).trans (marks_setReference ..)
      · exact marks_touch _ _

lemma marks_setReferenceAll (l : List PicId) (reference : PictureReference) (a : Store) :
    Marks R a (a.setReferenceAll l reference) :=
  marks_foldl (fun b p => marks_setReference p reference false b) l a

lemma sameRole_resetOrderCnt (x : Picture) :
    SameRole x (Store.resetOrderCnt { x with memMgmt5 := true, frameNum := 0 }) := by
  unfold Store.resetOrderCnt
  split <;> exact ⟨rfl, rfl, rfl, rfl, rfl, rfl, rfl, rfl, rfl, rfl, rfl, rfl⟩

lemma resetOrderCnt_memMgmt5 (x : Picture) : (Store.resetOrderCnt x).memMgmt5 = x.memMgmt5 := by
  unfold Store.resetOrderCnt
  split <;> rfl

lemma resetOrderCnt_ref (x : Picture) :
    (Store.resetOrderCnt x).isRef = x.isRef ∧ (Store.resetOrderCnt x).refPic = x.refPic := by
  unfold Store.resetOrderCnt
  split <;> exact ⟨rfl, rfl⟩

-- the counts of a frame are taken from the lower one
lemma keepsOrder_resetOrderCnt (x : Picture) :
    KeepsOrder x (Store.resetOrderCnt { x with memMgmt5 := true, frameNum := 0 }) := by
  unfold Store.resetOrderCnt
  split
  · rename_i hf
    refine ⟨rfl, rfl, rfl, rfl, fun _ => rfl, nofun, fun h => ⟨fun h => ?_, fun _ => rfl, fun _ _ => le_rfl⟩⟩
    cases hf.symm.trans h
  · rename_i hf
    refine ⟨rfl, rfl, rfl, rfl, fun _ => rfl, nofun, fun h => ⟨fun h => ?_, fun _ => rfl, fun _ h => ?_⟩⟩
    · cases hf.symm.trans h
    · exact absurd hf h
  · rename_i hf
    refine ⟨rfl, rfl, rfl, rfl, fun _ => rfl, nofun, fun h => ⟨fun _ => rfl, fun _ => rfl, fun _ _ => ?_⟩⟩
    have hmin := h.frame hf
    show 0 ≤ x.topFieldOrderCnt - x.picOrderCnt
    omega

lemma marks_mmco5 (p : PicId) (a : Store) : Marks (· = p) a (a.mmco5 p).2 := by
  refine (marks_setReferenceAll _ _ a).trans (marks_modifyPic sameRole_resetOrderCnt (fun x h => ?_)
    (fun x h => ?_) keepsOrder_resetOrderCnt fun x _ => .inr rfl)
  · rw [(resetOrderCnt_ref _).1, (resetOrderCnt_ref _).2]
    exact h
  · exact (resetOrderCnt_ref _).2.trans h

lemma mmco5_memMgmt5 (p : PicId) (a : Store) : ((a.mmco5 p).2.pic p).memMgmt5 := by
  simp [Store.mmco5, resetOrderCnt_memMgmt5]

lemma marks_mmco1 (m : GstH264RefPicMarking) (p : PicId) (a : Store) : Marks R a (a.mmco1 m p).2 := by
  unfold Store.mmco1
  split
  · exact marks_setReference ..
  · exact .refl a

lemma marks_mmco2 (m : GstH264RefPicMarking) (a : Store) : Marks R a (a.mmco2 m).2 := by
  unfold Store.mmco2
  split
  · exact marks_setReference _ .none false a
  · exact .refl a

lemma marks_mmco3 (m : GstH264RefPicMarking) (p : PicId) (a : Store) : Marks R a (a.mmco3 m p).2 := by
  unfold Store.mmco3
  split
  · exact .refl a
  · simp only
    split
    · exact ((marks_unmarkLongTermHolder ..).trans (marks_setReference ..)).trans (marks_setLongTermFrameIdx ..)
    · exact (marks_setReference ..).trans (marks_setLongTermFrameIdx ..)

lemma marks_mmco4 (m : GstH264RefPicMarking) (a : Store) : Marks R a (a.mmco4 m).2 := by
  refine marks_foldl (fun b p => ?_) _ a
  split
  · exact marks_setReference ..
  · exact .refl b

lemma marks_mmco6 (m : GstH264RefPicMarking) (p : PicId) (a : Store) : Marks R a (a.mmco6 m p).2 := by
  unfold Store.mmco6
  simp only
  split
  · exact ((marks_setReference ..).trans (marks_setReference ..)).trans (marks_setLongTermFrameIdx ..)
  · exact (marks_setReference ..).trans (marks_setLongTermFrameIdx ..)

lemma marks_performMemoryManagementControlOperation (m : GstH264RefPicMarking) (p : PicId) (a : Store) :
    Marks (· = p) a (a.performMemoryManagementControlOperation m p).2 := by
  unfold Store.performMemoryManagementControlOperation
  split
  · exact .refl a
  · exact marks_mmco1 m p a
  · exact marks_mmco2 m a
  · exact marks_mmco3 m p a
  · exact marks_mmco4 m a
  · exact marks_mmco5 p a
  · exact marks_mmco6 m p a
  · exact ⟨⟨fun _ => .refl _, rfl, rfl, rfl⟩, fun _ => id, fun _ => id, fun _ => .refl _, fun _ => .inl⟩

lemma marks_markIdr (p : PicId) (longTerm : Bool) (a : Store) : Marks R a (a.markIdr p longTerm) := by
  unfold Store.markIdr
  simp only
  split
  · refine ((marks_setReferenceAll _ _ a).trans (marks_setReference ..)).trans
      (marks_modifyPic (fun x => ?_) (fun x h => h) (fun x h => h) (fun x => keepsOrder_of_eq rfl) fun x => .inl)
    exact ⟨rfl, rfl, rfl, rfl, rfl, rfl, rfl, rfl, rfl, rfl, rfl, rfl⟩
  · exact (marks_setReferenceAll _ _ a).trans (marks_setReference ..)

lemma marks_slidingWindowLoop (n : Nat) (a : Store) : Marks R a (a.slidingWindowLoop n).2 := by
  induction n generalizing a with
  | zero => exact .refl a
  | succ n ih =>
    unfold Store.slidingWindowLoop
    split
    · exact .refl a
    · exact (marks_setReference ..).trans (ih _)

lemma marks_slidingWindowPictureMarking (sps : Option GstH264SPS) (p : PicId) (a : Store) :
    Marks R a (a.slidingWindowPictureMarking sps p).2 := by
  unfold Store.slidingWindowPictureMarking
  split
  · exact .refl a
  · split
    · exact .refl a
    · exact marks_slidingWindowLoop _ a

lemma Numbers.refl (a : Store) : Numbers a a :=
  ⟨⟨fun _ => .refl _, rfl, rfl, rfl⟩, fun _ => rfl, fun _ => rfl, fun _ => rfl, fun _ => rfl, fun _ => rfl, fun _ => .refl _⟩

lemma Numbers.trans (h : Numbers a b) (h' : Numbers b c) : Numbers a c where
  toSameRoles := h.toSameRoles.trans h'.toSameRoles
  ref q := (h'.ref q).trans (h.ref q)
  refPic q := (h'.refPic q).trans (h.refPic q)
  longTermFrameIdx q := (h'.longTermFrameIdx q).trans (h.longTermFrameIdx q)
  picOrderCnt q := (h'.picOrderCnt q).trans (h.picOrderCnt q)
  memMgmt5 q := (h'.memMgmt5 q).trans (h.memMgmt5 q)
  order q := (h.order q).trans (h'.order q)

lemma picNums_eq (maxFrameNum : Nat) (frameNum : Int) (current x : Picture) :
    ∃ l w n, picNums maxFrameNum frameNum current x = { x with longTermPicNum := l, frameNumWrap := w, picNum := n } := by
  unfold picNums
  split <;> exact ⟨_, _, _, rfl⟩

lemma numbers_picNums (maxFrameNum : Nat) (frameNum : Int) (current : Picture) (p : PicId) (a : Store) :
    Numbers a (a.modifyPic p (picNums maxFrameNum frameNum current)) := by
  have h : ∀ q, ∃ l w n, (a.modifyPic p (picNums maxFrameNum frameNum current)).pic q =
      { a.pic q with longTermPicNum := l, frameNumWrap := w, picNum := n } := by
    intro q
    rw [Store.modifyPic_pic]
    split
    · rename_i hq
      rw [hq]
      exact picNums_eq ..
    · exact ⟨_, _, _, rfl⟩
  refine ⟨⟨fun q => ?_, rfl, rfl, rfl⟩, fun q => ?_, fun q => ?_, fun q => ?_, fun q => ?_, fun q => ?_, fun q => ?_⟩ <;>
    obtain ⟨l, w, n, hq⟩ := h q <;> rw [hq]
  · exact ⟨rfl, rfl, rfl, rfl, rfl, rfl, rfl, rfl, rfl, rfl, rfl, rfl⟩
  · exact keepsOrder_of_eq rfl

lemma numbers_updatePicNums (maxFrameNum : Nat) (p : PicId) (frameNum : Int) (a : Store) :
    Numbers a (a.updatePicNums maxFrameNum p frameNum) := by
  unfold Store.updatePicNums
  generalize a.dpb.picList = l
  induction l generalizing a with
  | nil => exact .refl a
  | cons q l ih => exact (numbers_picNums maxFrameNum frameNum (a.pic p) q a).trans (ih _)

lemma picNums_field (maxFrameNum : Nat) (frameNum : Int) (current x : Picture) :
    (picNums maxFrameNum frameNum current x).field = x.field := by
  obtain ⟨_, _, _, hx⟩ := picNums_eq maxFrameNum frameNum current x
  rw [hx]

-- the numbers depend on nothing that they replace
lemma picNums_idem (maxFrameNum : Nat) (frameNum : Int) {c c' : Picture} (h : c.field = c'.field) (x : Picture) :
    picNums maxFrameNum frameNum c (picNums maxFrameNum frameNum c' x) = picNums maxFrameNum frameNum c' x := by
  cases hr : x.ref <;> simp only [picNums, hr, Picture.isFrame, h] <;> rfl

lemma updatePicNums_fixed (maxFrameNum : Nat) (frameNum : Int) (p : PicId) {c : Picture} {q : PicId} (l : List PicId)
    (hc : c.field = (a.pic p).field)
    (h : q ∈ l ∨ picNums maxFrameNum frameNum c (a.pic q) = a.pic q) :
    picNums maxFrameNum frameNum c
        ((l.foldl (fun s q => s.modifyPic q (picNums maxFrameNum frameNum (s.pic p))) a).pic q) =
      (l.foldl (fun s q => s.modifyPic q (picNums maxFrameNum frameNum (s.pic p))) a).pic q := by
  induction l generalizing a with
  | nil => exact h.resolve_left (List.not_mem_nil)
  | cons r l ih =>
    refine ih ?_ ?_
    · rw [Store.modifyPic_pic]
      split
      · rename_i hp
        rw [picNums_field, ← hp, hc]
      · exact hc
    · by_cases hq : q = r
      · right
        rw [Store.modifyPic_pic, if_pos hq]
        exact picNums_idem maxFrameNum frameNum hc _
      · refine h.imp (fun hm => (List.mem_cons.mp hm).resolve_left hq) fun hfix => ?_
        rwa [Store.modifyPic_pic, if_neg hq]

end Stores

section Rules

lemma mark_moves {α : Type} {p : PicId} {done : List GstH264RefPicMarking} {f : Store → α × Store}
    (hp : (.gap, p) ∈ k.hold ∨ (.marking, p) ∈ k.hold) (hk : k.current.between)
    (h : ∀ a, Marks (fun q => (.marking, q) ∈ k.hold) a (f a).2) (hby : MarksBy env k s p done (f s.store).2) :
    Moves (Act env) k (withStore f) s fun _ k' s' => k' = k.setDone done ∧ s' = s.mapStore fun _ => (f s.store).2 :=
  Moves.checked (k.setDone done) (.mark p hp hk (h s.store) hby) fun _ => ⟨rfl, rfl⟩

lemma updatePicNums_moves (p : PicId) (frameNum : Int) :
    Moves (Act env) k (updatePicNums p frameNum) s fun _ k' s' =>
      k' = k ∧ s'.lastField = s.lastField ∧ Numbers s.store s'.store ∧
        ∀ q ∈ s'.store.dpb.picList, picNums s'.maxFrameNum frameNum (s'.pic p) (s'.pic q) = s'.pic q := by
  have hnum := numbers_updatePicNums s.maxFrameNum p frameNum s.store
  refine Moves.get_bind (onStore_moves k (.number hnum) ⟨rfl, rfl, hnum, fun q hq => ?_⟩)
  rw [show (s.mapStore (Store.updatePicNums s.maxFrameNum p frameNum)).store.dpb.picList = s.store.dpb.picList from
    congrArg Dpb.picList hnum.dpb] at hq
  exact updatePicNums_fixed s.maxFrameNum frameNum p s.store.dpb.picList (hnum.role p).field (.inl hq)

lemma slidingWindow_moves {p : PicId} (hp : (.gap, p) ∈ k.hold ∨ (.marking, p) ∈ k.hold)
    (hk : k.current.between) (hw : (.marking, p) ∈ k.hold → (s.pic p).idr = false ∧
      (s.pic p).decRefPicMarking.adaptiveRefPicMarkingModeFlag = false) :
    Moves (Act env) k (slidingWindow env p) s fun _ k' s' =>
      k' = k ∧ LeftByWindow env s' p ∧ Marks (· = p) s.store s'.store := by
  refine Moves.get_bind ((mark_moves hp hk (fun a => marks_slidingWindowPictureMarking _ p a) (.window hw)).mono ?_)
  rintro _ k' t ⟨rfl, rfl⟩
  have hm := marks_slidingWindowPictureMarking (R := (· = p)) (s.sps env) p s.store
  exact ⟨rfl, ⟨s.store, hm.dpb.symm, hm.role, rfl⟩, hm⟩

lemma book_updateMaxLongTermFrameIdx (m : GstH264RefPicMarking) :
    Act env (k, s) (k, s.updateMaxLongTermFrameIdx m) := by
  unfold Decoder.updateMaxLongTermFrameIdx
  split <;> exact .book (by constructor <;> rfl)

lemma updateMaxLongTermFrameIdx_store (m : GstH264RefPicMarking) :
    (s.updateMaxLongTermFrameIdx m).store = s.store := by
  unfold Decoder.updateMaxLongTermFrameIdx
  split <;> rfl

lemma handleMemoryManagementLoop_moves {p : PicId} (hp : (.marking, p) ∈ k.hold) (hk : k.current.between)
    (hidr : (s.pic p).idr = false) (ha : (s.pic p).decRefPicMarking.adaptiveRefPicMarkingModeFlag)
    (l : List GstH264RefPicMarking) (hl : (s.pic p).decRefPicMarking.refPicMarking.take 10 = k.done ++ l) :
    Moves (Act env) k (handleMemoryManagementLoop p l) s fun _ k' s' => (∃ done, k' = k.setDone done) ∧
      Marks (· = p) s.store s'.store ∧ ((l.takeWhile fun m => m.memoryManagementControlOperation ≠ 0).any
        (fun m => m.memoryManagementControlOperation = 5) → (s'.pic p).memMgmt5) := by
  induction l generalizing k s with
  | nil => exact Moves.pure ⟨⟨k.done, rfl⟩, .refl _, by simp⟩
  | cons m l ih =>
    refine Moves.ite (fun h0 => Moves.pure ⟨⟨k.done, rfl⟩, .refl _, by simp [h0]⟩) fun h0 => ?_
    refine Moves.modify_bind k (book_updateMaxLongTermFrameIdx m) ?_
    have hmarks : ∀ a, Marks (fun q => (.marking, q) ∈ k.hold) a (a.performMemoryManagementControlOperation m p).2 :=
      fun a => (marks_performMemoryManagementControlOperation m p a).mono fun q hq => hq.symm ▸ hp
    have hpic : (s.updateMaxLongTermFrameIdx m).pic p = s.pic p := by
      simp only [Decoder.pic, updateMaxLongTermFrameIdx_store]
    refine Moves.bind (mark_moves (.inr hp) hk hmarks (.command m l hp (hpic ▸ hidr) (hpic ▸ ha) (hpic ▸ hl) h0)) ?_
    rintro _ k' t - ⟨rfl, rfl⟩
    have hm := marks_performMemoryManagementControlOperation m p s.store
    rw [← updateMaxLongTermFrameIdx_store m] at hm
    have hrole := (marks_performMemoryManagementControlOperation m p (s.updateMaxLongTermFrameIdx m).store).role p
    rw [show (s.updateMaxLongTermFrameIdx m).store.pic p = s.pic p from hpic] at hrole
    refine (ih (k := k.setDone (k.done ++ [m])) hp hk ?_ ?_ ?_).mono ?_
    · exact hrole.idr.trans hidr
    · exact (congrArg GstH264DecRefPicMarking.adaptiveRefPicMarkingModeFlag hrole.decRefPicMarking).trans ha
    · refine ((congrArg (fun d => d.refPicMarking.take 10) hrole.decRefPicMarking).trans hl).trans ?_
      simp [Phase.setDone]
    rintro _ k' u ⟨⟨done, rfl⟩, hu, h5⟩
    refine ⟨⟨done, rfl⟩, updateMaxLongTermFrameIdx_store (s := s) m ▸ hm.trans hu, fun h => ?_⟩
    simp only [List.takeWhile_cons, h0, ne_eq, not_false_eq_true, decide_true, if_true, List.any_cons,
      Bool.or_eq_true, decide_eq_true_eq] at h
    rcases h with h | h
    · refine (hu.order p).memMgmt5 ?_
      have := mmco5_memMgmt5 p (s.updateMaxLongTermFrameIdx m).store
      simpa only [Decoder.mapStore_store, Store.performMemoryManagementControlOperation, h] using this
    · exact h5 (by simpa using h)

lemma markIdr_moves {p : PicId} (hp : (.marking, p) ∈ k.hold) (hk : k.current.between) (hidr : (s.pic p).idr) :
    Moves (Act env) k (markIdr p (s.pic p).decRefPicMarking.longTermReferenceFlag) s fun _ k' s' =>
      k' = k ∧ LeftByIdr s' p ∧ Marks (· = p) s.store s'.store := by
  have hm := marks_markIdr (R := (· = p)) p (s.pic p).decRefPicMarking.longTermReferenceFlag s.store
  refine onStore_bind k (.mark p (.inr hp) hk (marks_markIdr p _ s.store) (.idr hp hidr)) ?_
  refine Moves.modify k (.book (by constructor <;> rfl)) ⟨rfl, ⟨s.store, hm.dpb.symm, ?_⟩, hm⟩
  exact congrArg (fun m : GstH264DecRefPicMarking => (s.store.markIdr p m.longTermReferenceFlag).pic)
    (hm.role p).decRefPicMarking.symm

lemma referencePictureMarking_moves {p : PicId} (hp : (.marking, p) ∈ k.hold) (hk : k.current.between)
    (hdone : k.done = []) :
    Moves (Act env) k (referencePictureMarking env p) s fun _ k' s' => (∃ done, k' = k.setDone done) ∧
      LeftByMarking env s' p ∧ ((s'.pic p).idr = false → resetsOrder (s'.pic p).decRefPicMarking → (s'.pic p).memMgmt5) := by
  refine Moves.get_bind (Moves.ite (fun hidr => ?_) fun hidr => Moves.ite (fun ha => ?_) fun ha => ?_)
  · refine (markIdr_moves hp hk hidr).mono ?_
    rintro _ k' t ⟨rfl, hleft, hm⟩
    have hno : (t.pic p).idr ≠ false := fun h => absurd (hidr.symm.trans ((hm.role p).idr.symm.trans h)) (by decide)
    exact ⟨⟨k'.done, rfl⟩, ⟨fun _ => hleft, fun h => absurd h hno⟩, fun h => absurd h hno⟩
  · refine Moves.get_bind ((handleMemoryManagementLoop_moves hp hk (by simpa using hidr) ha _ (by rw [hdone]; rfl)).mono ?_)
    rintro _ k' t ⟨hk', hm, h5⟩
    have hd : (t.pic p).decRefPicMarking = (s.pic p).decRefPicMarking := (hm.role p).decRefPicMarking
    refine ⟨hk', ⟨fun h => absurd ((hm.role p).idr.symm.trans h) hidr, fun _ h => ?_⟩, fun _ h => h5 ?_⟩
    · rw [hd] at h
      cases ha.symm.trans h
    rw [hd, resetsOrder, Bool.and_eq_true] at h
    exact h.2
  · refine Moves.bind (slidingWindow_moves (.inr hp) hk fun _ => ⟨by simpa using hidr, by simpa using ha⟩) ?_
    rintro _ k' t - ⟨rfl, hleft, hm⟩
    refine Moves.pure ⟨⟨k'.done, rfl⟩, ⟨fun h => absurd ((hm.role p).idr.symm.trans h) hidr, fun _ _ => hleft⟩,
      fun _ h => ?_⟩
    have hd : (t.pic p).decRefPicMarking = (s.pic p).decRefPicMarking := (hm.role p).decRefPicMarking
    rw [hd, resetsOrder, Bool.and_eq_true] at h
    exact absurd h.1 ha

lemma LeftByMarking.congr {p : PicId} (h : LeftByMarking env s p) (hp : t.store.pic = s.store.pic)
    (hd : t.store.dpb = s.store.dpb) (hs : t.sps env = s.sps env) : LeftByMarking env t p := by
  have hpic : t.pic p = s.pic p := congrFun hp p
  refine ⟨fun hidr => ?_, fun hidr ha => ?_⟩
  · obtain ⟨b, hb, hpb⟩ := h.idr (hpic ▸ hidr)
    exact ⟨b, hb.trans hd.symm, hp.trans (hpic ▸ hpb)⟩
  · obtain ⟨b, hb, hr, hpb⟩ := h.window (hpic ▸ hidr) (hpic ▸ ha)
    refine ⟨b, hb.trans hd.symm, fun q => ?_, hp.trans (hs ▸ hpb)⟩
    rw [Decoder.pic, hp]
    exact hr q

lemma markReference_moves {p : PicId} (hh : k.hold = [(.ended, p)]) (hk : k.current = .gone p) :
    Moves (Act env) k (markReference env p) s fun _ k' s' =>
      k' = k.turn .ended .marked p ∧ ((s'.pic p).isRef → LeftByMarking env s' p) := by
  have hp : (.ended, p) ∈ k.hold := hh ▸ List.mem_cons_self
  refine Moves.get_bind (Moves.ite (fun hr => ?_) fun hr => ?_)
  · refine Moves.step (.beginMarking p hp hh hr)
      (Moves.bind (referencePictureMarking_moves (by simp) ⟨p, .inr hk⟩ rfl) ?_)
    rintro - k' t - ⟨⟨done, rfl⟩, hleft, h5⟩
    refine Moves.step (@Act.endMarking _ env _ _ k.done p (by simp) h5) ?_
    refine Moves.modify_modify _ (.rememberRef p (by simp) hk) ⟨?_, fun _ => hleft.congr rfl rfl rfl⟩
    simp [Phase.turn, Phase.take, Phase.drop, Phase.setDone]
  · exact Moves.step (.skipMarking p hp (by simpa using hr)) (Moves.pure ⟨rfl, fun h => absurd h hr⟩)

end Rules

end VkVideoParser.H264
