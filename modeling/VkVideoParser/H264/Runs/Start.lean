import VkVideoParser.H264.Runs.Finish

/-! The functions of the decoder taken apart into moves: from a slice header to a started picture. -/

namespace VkVideoParser.H264

open Execution Relation

variable {P : Type} {env : Env P} {k k' : Phase} {s t : Decoder P}

section OrderCounts

/-- Two pictures that differ in their order counts only. -/
def SameButOrder (x y : Picture) : Prop :=
  ∃ a b c d e, y = { x with
    topFieldOrderCnt := a, bottomFieldOrderCnt := b, picOrderCnt := c, picOrderCntMsb := d, frameNumOffset := e }

lemma SameButOrder.trans {x y z : Picture} (h : SameButOrder x y) (h' : SameButOrder y z) : SameButOrder x z := by
  obtain ⟨_, _, _, _, _, rfl⟩ := h
  obtain ⟨_, _, _, _, _, rfl⟩ := h'
  exact ⟨_, _, _, _, _, rfl⟩

lemma sameButOrder_set (x : Picture) : SameButOrder x (setPicOrderCnt x) := by
  unfold setPicOrderCnt
  split <;> exact ⟨_, _, _, _, _, rfl⟩

lemma sameButOrder_poc0 (s : Decoder P) (sps : GstH264SPS) (x : Picture) :
    SameButOrder x (calculatePoc0 s sps x) := by
  unfold calculatePoc0
  simp only
  split <;> exact ⟨_, _, _, _, _, rfl⟩

lemma sameButOrder_poc1 (s : Decoder P) (sps : GstH264SPS) (x : Picture) :
    SameButOrder x (calculatePoc1 s sps x) := by
  unfold calculatePoc1
  simp only
  split <;> exact ⟨_, _, _, _, _, rfl⟩

lemma sameButOrder_poc2 (s : Decoder P) (x : Picture) : SameButOrder x (calculatePoc2 s x) := by
  unfold calculatePoc2
  simp only
  split <;> exact ⟨_, _, _, _, _, rfl⟩

lemma edit_of_sameButOrder {f : Picture → Picture} (h : ∀ x, SameButOrder x (f x)) : Edit f := by
  refine ⟨fun x => ?_, fun x => ?_, fun x => ?_, fun x => ?_, fun x => ?_, fun x => ?_, fun x => ?_, fun x hr => ?_,
    fun x => ?_, fun x => ?_⟩ <;> obtain ⟨_, _, _, _, _, hx⟩ := h x <;> rw [hx]
  · rfl
  · exact hr
  · exact .inl rfl

lemma orderEdit_moves {p : PicId} {f : Picture → Picture} (hp : (.gap, p) ∈ k.hold ∨ k.current.starts p)
    (h : ∀ x, SameButOrder x (f x)) :
    Moves (Act env) k (modifyPicture p f) s fun _ k' s' => k' = k ∧ s' = s.modifyPic p f := by
  have hsame : (f (s.pic p)).field = (s.pic p).field ∧ (f (s.pic p)).nonexisting = (s.pic p).nonexisting := by
    obtain ⟨_, _, _, _, _, hx⟩ := h (s.pic p)
    rw [hx]
    exact ⟨rfl, rfl⟩
  exact Moves.modify k (.edit p (.inr hp) (edit_of_sameButOrder h) (.inr hsame.1) (.inr hsame.2)) ⟨rfl, rfl⟩

-- calculate_poc changes nothing that it reads
lemma poc0_idem (s : Decoder P) (sps : GstH264SPS) (x : Picture) :
    setPicOrderCnt (calculatePoc0 s sps (setPicOrderCnt (calculatePoc0 s sps x))) = setPicOrderCnt (calculatePoc0 s sps x) := by
  cases hf : x.field <;> simp only [calculatePoc0, setPicOrderCnt, prevPicOrderCnt, hf]

lemma poc1_idem (s : Decoder P) (sps : GstH264SPS) (x : Picture) :
    setPicOrderCnt (calculatePoc1 s sps (setPicOrderCnt (calculatePoc1 s sps x))) = setPicOrderCnt (calculatePoc1 s sps x) := by
  cases hf : x.field <;> simp only [calculatePoc1, setPicOrderCnt, frameNumOffset, hf]

lemma poc2_idem (s : Decoder P) (x : Picture) :
    setPicOrderCnt (calculatePoc2 s (setPicOrderCnt (calculatePoc2 s x))) = setPicOrderCnt (calculatePoc2 s x) := by
  cases hf : x.field <;> simp only [calculatePoc2, setPicOrderCnt, frameNumOffset, hf]

lemma resetFrameNumOffset_idem (s : Decoder P) (p : PicId) (f : Picture → Picture) :
    (s.resetFrameNumOffset.modifyPic p f).resetFrameNumOffset = s.resetFrameNumOffset.modifyPic p f := by
  unfold Decoder.resetFrameNumOffset
  cases hm : s.prevHasMemmgmnt5 <;> simp [hm, Decoder.modifyPic]

lemma resetFrameNumOffset_act : Act env (k, s) (k, s.resetFrameNumOffset) := by
  have hn : ∃ n, s.resetFrameNumOffset = s.withFrameNumOffset n := by
    unfold Decoder.resetFrameNumOffset
    split
    · exact ⟨0, rfl⟩
    · exact ⟨s.prevFrameNumOffset, rfl⟩
  obtain ⟨n, hn⟩ := hn
  rw [hn]
  exact .resetFrameNumOffset hn

lemma resetFrameNumOffset_store (s : Decoder P) : s.resetFrameNumOffset.store = s.store := by
  unfold Decoder.resetFrameNumOffset
  split <;> rfl

/-- The picture is counted, and its order count was shown last. -/
def JustCounted (p : PicId) (s : Decoder P) : Prop := ∃ info l, s.store.log = .orderCount info :: l ∧ info.picture = s.pic p

-- one way to count: the counts are set and shown
lemma count_moves {p : PicId} {sps : GstH264SPS} {f : Picture → Picture} (hp : (.gap, p) ∈ k.hold ∨ k.current.starts p)
    (hk : ∃ c, k.current.starts c) (h : ∀ x, SameButOrder x (f x))
    (hc : Counted (s.modifyPic p f) sps (f (s.pic p))) :
    Moves (Act env) k (do modifyPicture p f; showOrderCount sps p; return true) s fun _ k' s' =>
      k' = k ∧ SameButOrder (s.pic p) (s'.pic p) ∧ JustCounted p s' := by
  refine Moves.bind (orderEdit_moves hp h) ?_
  rintro - k' t - ⟨rfl, rfl⟩
  have hpic : (s.modifyPic p f).pic p = f (s.pic p) := by simp [Decoder.pic]
  refine Moves.modify_bind k' (.showOrderCount sps p hp hk (hpic ▸ hc)) (Moves.pure ⟨rfl, ?_, _, _, rfl, rfl⟩)
  show SameButOrder (s.pic p) ((s.modifyPic p f).pic p)
  rw [hpic]
  exact h _

lemma calculatePoc_moves (sps : Option GstH264SPS) {p : PicId} (hp : (.gap, p) ∈ k.hold ∨ k.current.starts p)
    (hk : ∃ c, k.current.starts c) :
    Moves (Act env) k (calculatePoc sps p) s fun ok k' s' => k' = k ∧ SameButOrder (s.pic p) (s'.pic p) ∧
      (ok = true → JustCounted p s') := by
  have hrefl : SameButOrder (s.pic p) (s.pic p) := ⟨_, _, _, _, _, rfl⟩
  have hcounted : ∀ {ok : Bool} {k' : Phase} {s' : Decoder P},
      (k' = k ∧ SameButOrder (s.pic p) (s'.pic p) ∧ JustCounted p s') → k' = k ∧ SameButOrder (s.pic p) (s'.pic p) ∧
        (ok = true → JustCounted p s') := fun h => ⟨h.1, h.2.1, fun _ => h.2.2⟩
  have htype : ∀ {f : Picture → Picture}, (∀ x, SameButOrder x (f x)) →
      (f (s.pic p)).picOrderCntType = (s.pic p).picOrderCntType := fun {f} h => by
    obtain ⟨_, _, _, _, _, hx⟩ := h (s.pic p)
    rw [hx]
  have hpic : s.resetFrameNumOffset.pic p = s.pic p := congrArg (fun st : Store => st.pic p) (resetFrameNumOffset_store s)
  cases sps with
  | none => exact Moves.pure ⟨rfl, hrefl, nofun⟩
  | some sps =>
    refine Moves.get_bind ?_
    split
    · rename_i h0
      have hf : ∀ x, SameButOrder x (setPicOrderCnt (calculatePoc0 s sps x)) := fun x =>
        (sameButOrder_poc0 s sps x).trans (sameButOrder_set _)
      refine (count_moves hp hk hf ?_).mono fun _ _ _ h => hcounted h
      rw [Counted, htype hf, h0]
      exact poc0_idem s sps _
    · rename_i h1
      have hf : ∀ x, SameButOrder x (setPicOrderCnt (calculatePoc1 s.resetFrameNumOffset sps x)) := fun x =>
        (sameButOrder_poc1 _ sps x).trans (sameButOrder_set _)
      refine Moves.modify_bind k resetFrameNumOffset_act ((count_moves hp hk hf ?_).mono fun _ _ _ h => ?_)
      · rw [hpic, Counted, htype hf, h1]
        simp only [resetFrameNumOffset_idem]
        exact poc1_idem _ sps _
      · exact hcounted (hpic ▸ h)
    · rename_i h2
      have hf : ∀ x, SameButOrder x (setPicOrderCnt (calculatePoc2 s.resetFrameNumOffset x)) := fun x =>
        (sameButOrder_poc2 _ x).trans (sameButOrder_set _)
      refine Moves.modify_bind k resetFrameNumOffset_act ((count_moves hp hk hf ?_).mono fun _ _ _ h => ?_)
      · rw [hpic, Counted, htype hf, h2]
        simp only [resetFrameNumOffset_idem]
        exact poc2_idem _ _
      · exact hcounted (hpic ▸ h)
    · exact Moves.pure ⟨rfl, hrefl, nofun⟩

end OrderCounts

section Gaps

lemma edit_gapPicture (frameNum : Int) : Edit (gapPicture frameNum) :=
  ⟨fun _ => rfl, fun _ => rfl, fun _ => rfl, fun _ => rfl, fun _ => rfl, fun _ => rfl, fun _ => rfl,
    fun _ _ _ => rfl, fun _ => .inr rfl, fun _ => rfl⟩

lemma initGapPicture_moves {p : PicId} (frameNum : Int) (hp : (.gap, p) ∈ k.hold)
    (hk : ∃ c, k.current.starts c) (hf : (s.pic p).field = .frame) :
    Moves (Act env) k (initGapPicture env p frameNum) s fun _ k' s' =>
      k' = k ∧ (s'.pic p).refPic ∧ (s'.pic p).nonexisting := by
  refine Moves.modify_bind k (.edit p (.inr (.inl hp)) (edit_gapPicture frameNum) (.inr hf.symm) (.inl ⟨hp, rfl⟩))
    (Moves.get_bind ?_)
  refine (calculatePoc_moves _ (.inl hp) hk).mono ?_
  rintro _ k' t ⟨rfl, ⟨_, _, _, _, _, h⟩, -⟩
  rw [h]
  simp [Decoder.pic, gapPicture]

lemma storeGapPicture_moves {p : PicId} (hs : Sound (k, s)) (hp : (.gap, p) ∈ k.hold) (hroom : s.store.Room)
    (hn : (s.pic p).nonexisting) (hrefs : RefsShown s p) :
    Moves (Act env) k (storeGapPicture env p) s fun _ k' _ => k' = k.drop .gap p := by
  have hgap : Role.gap.stored := .inl rfl
  refine Moves.get_bind (Moves.ite (fun hi => ?_) fun hi => ?_)
  · refine splitFrame_bind hs hp (.inl rfl) hi (fun _ => hn) (fun h => by cases h) (fun t ht hd ht' hsec hsame => ?_)
      fun q t ht hd ht' hsec hoth hsame => ?_
    · refine Moves.bind (addPictureToDpb_moves hp hgap (fun _ => ht' hroom) (fun _ _ _ => .inl (ht' hroom))
        (halfStored_of_ne (by simp)) (firstHeld_of_first hsec) (fun _ hno => ?_) fun _ => hsame.trans hn) ?_
      · rw [hd] at hno
        cases hi.symm.trans hno
      · exact fun _ _ _ _ _ => Moves.throw_bind
    · exact addHalves_moves ht hp (hd ▸ hi) (.inl rfl) (ht' hroom) hsec hoth fun _ => hsame.trans hn
  · exact (addPictureToDpb_moves hp hgap (fun _ => hroom) (fun _ _ _ => .inl hroom) (halfStored_of_ne (by simp))
      (fun h => by cases h) (fun _ _ => ⟨(fun h => by cases h), hrefs⟩) fun _ => hn).mono fun _ _ _ h => h.1

lemma Store.Shrinks.refPic {a b : Store} (h : Store.Shrinks a b) (q : PicId) : (b.pic q).refPic = (a.pic q).refPic := by
  obtain ⟨_, _, _, _, hq, -⟩ := h.pic q
  rw [hq]

lemma Store.Shrinks.nonexisting {a b : Store} (h : Store.Shrinks a b) (q : PicId) :
    (b.pic q).nonexisting = (a.pic q).nonexisting := by
  obtain ⟨_, _, _, _, hq, -⟩ := h.pic q
  rw [hq]

lemma insertGapPicture_moves (frameNum : Int) (hs : Sound (k, s)) (hk : ∃ c, k.current.starts c) :
    Moves (Act env) k (insertGapPicture env frameNum) s fun _ k' _ => k' = k := by
  have ht := (show Act env _ _ from .new .gap (.inr rfl)).sound hs
  have hbetween : (k.take .gap s.store.next).current.between := by
    obtain ⟨c, hc⟩ := hk
    exact ⟨c, .inl hc⟩
  refine withStore_bind (k.take .gap s.store.next) (.new .gap (.inr rfl)) ?_
  have hleak : ∀ {t : Decoder P} {ret : GstFlowReturn}, Moves (Act env) (k.take .gap s.store.next)
      (pure ret : DecoderM P GstFlowReturn) t fun _ k' _ => k' = k := fun {t ret} =>
    Moves.step (.leak s.store.next (by simp)) (Moves.pure Phase.drop_take)
  have hframe : ((s.mapStore fun st => st.pictureNew.2).pic s.store.next).field = .frame := by
    simp [Decoder.pic, Store.pictureNew]
  refine bind_sound ht (initGapPicture_moves (p := s.store.next) frameNum (by simp) hk hframe) ?_
  rintro ok k' t ht ⟨rfl, hr, hn⟩
  refine Moves.ite (fun _ => hleak) fun _ => bind_sound ht (updatePicNums_moves s.store.next frameNum) ?_
  rintro - k' u hu ⟨rfl, -, hnum, -⟩
  have hmarking : (.marking, s.store.next) ∈ (k.take .gap s.store.next).hold → (u.pic s.store.next).idr = false ∧
      (u.pic s.store.next).decRefPicMarking.adaptiveRefPicMarkingModeFlag = false := fun hm => by
    cases hu.placed.hold_hold (r := .gap) rfl rfl (by simp) hm
  refine bind_sound hu (slidingWindow_moves (p := s.store.next) (.inl (by simp)) hbetween hmarking) ?_
  rintro ok' k' v hv ⟨rfl, hleft, hmarks⟩
  refine Moves.ite (fun _ => hleak) fun _ => ?_
  have hnv : (v.pic s.store.next).nonexisting :=
    (hmarks.role _).nonexisting.trans ((hnum.role _).nonexisting.trans hn)
  have hrefs : RefsShown (v.emit (.removing (v.dpbInfo s.store.next))) s.store.next := fun hr =>
    .inr ⟨v.dpbInfo s.store.next, List.mem_cons_self, hr, (refs_dpbInfo v _).ge⟩
  have hv := (show Act env _ _ from .showRemoving s.store.next (by simp) hnv hleft).sound hv
  refine Moves.modify_bind _ (.showRemoving s.store.next (by simp) hnv hleft) ?_
  have hw := (show Act env _ _ from .deleteUnused).sound hv
  replace hrefs := hrefs.shrinks (t := (v.emit (.removing (v.dpbInfo s.store.next))).mapStore Store.dpbDeleteUnused)
    Store.shrinks_dpbDeleteUnused (Store.onlyReleases_dpbDeleteUnused _).log_subset
  refine onStore_bind _ .deleteUnused (bind_logged hw (bumpDpb_moves hw) ?_)
  rintro ret k' x hx hlx ⟨rfl, hshrinks, hroom⟩
  refine Moves.ite (fun _ => hleak) fun _ => ?_
  have hrx : (x.pic s.store.next).refPic := by
    refine (hshrinks.refPic _).trans ((Store.shrinks_dpbDeleteUnused.refPic _).trans ?_)
    exact hmarks.refPicKept _ ((hnum.refPic _).trans hr)
  have hnx : (x.pic s.store.next).nonexisting :=
    (hshrinks.nonexisting _).trans ((Store.shrinks_dpbDeleteUnused.nonexisting _).trans hnv)
  refine Moves.bind (storeGapPicture_moves (p := s.store.next) hx (by simp)
    (hroom Store.noneUnused_dpbDeleteUnused _ rfl hrx) hnx (hrefs.shrinks hshrinks hlx)) ?_
  rintro - k' y - rfl
  exact Moves.pure Phase.drop_take

lemma frameNumGapLoop_moves (frameNum : Int) (fuel : Nat) (n : Int) (hs : Sound (k, s))
    (hk : ∃ c, k.current.starts c) :
    Moves (Act env) k (frameNumGapLoop env frameNum fuel n) s fun _ k' _ => k' = k := by
  induction fuel generalizing s n with
  | zero => exact Moves.pure rfl
  | succ fuel ih =>
    refine Moves.ite (fun _ => Moves.pure rfl) fun _ => ?_
    refine bind_sound hs (insertGapPicture_moves n hs hk) ?_
    rintro ret k' t ht rfl
    exact Moves.ite (fun _ => Moves.pure rfl) fun _ => Moves.get_bind (ih _ ht)

lemma handleFrameNumGap_moves (frameNum : Int) (hs : Sound (k, s)) (hk : ∃ c, k.current.starts c) :
    Moves (Act env) k (handleFrameNumGap env frameNum) s fun _ k' _ => k' = k := by
  refine Moves.get_bind ?_
  cases s.sps env with
  | none => exact Moves.pure rfl
  | some sps =>
    refine Moves.ite (fun _ => Moves.pure rfl) fun _ => Moves.ite (fun _ => Moves.throw) fun _ => ?_
    refine Moves.ite (fun _ => Moves.pure rfl) fun _ => Moves.ite (fun _ => Moves.pure rfl) fun _ => ?_
    exact Moves.ite (fun _ => Moves.pure rfl) fun _ => frameNumGapLoop_moves _ _ _ hs hk

end Gaps

section Pictures

lemma edit_fillFromSlice (sps : GstH264SPS) (slice : GstH264Slice) : Edit (fillFromSlice sps slice) := by
  refine ⟨fun _ => rfl, fun _ => rfl, fun _ => rfl, fun _ => rfl, fun _ => rfl, fun _ => rfl, fun _ => rfl, fun x hr h => ?_,
    fun x => ?_, fun _ => rfl⟩
  · by_cases hidc : slice.nalu.refIdc ≠ 0
    · simp [fillFromSlice, hidc]
    · simp only [fillFromSlice, hidc, if_false, Picture.isRef] at h ⊢
      exact hr h
  · by_cases hidc : slice.nalu.refIdc ≠ 0
    · exact .inr (if_pos hidc)
    · exact .inl (if_neg hidc)

lemma fromSlice_fill (sps : GstH264SPS) (slice : GstH264Slice) (x : Picture) :
    FromSlice slice (fillFromSlice sps slice x) :=
  ⟨rfl, fun h => by simp [fillFromSlice, h, Picture.isRef], rfl, rfl⟩

lemma FromSlice.sameButOrder {slice : GstH264Slice} {x y : Picture} (h : FromSlice slice x)
    (hxy : SameButOrder x y) : FromSlice slice y := by
  obtain ⟨_, _, _, _, _, rfl⟩ := hxy
  exact ⟨h.idr, h.isRef, h.field, h.decRefPicMarking⟩

lemma initCurrentPicture_moves {p : PicId} {slice : GstH264Slice} (hs : Sound (k, s))
    (hk : k.current = .starting p slice) :
    Moves (Act env) k (initCurrentPicture env p) s fun ok k' _ =>
      (ok = true → k' = k.setCurrent (.filled p slice)) ∧ (ok = false → k' = k) := by
  have hslice : s.currentSlice = slice := hs.slice p slice hk
  have hstarts : k.current.starts p := ⟨slice, hk⟩
  refine Moves.get_bind
    (Moves.assertOr_bind fun _ => Moves.modify_bind k (.edit p (.inr (.inr hstarts)) ?_ (.inl hstarts) (.inr rfl)) ?_)
  · exact edit_fillFromSlice _ _
  have htold : FromSlice slice ((s.modifyPic p (fillFromSlice (s.activation env s.currentSlice.header.pps).sps
      s.currentSlice)).pic p) := by
    rw [hslice, Decoder.pic, Decoder.modifyPic_store, Store.modifyPic_pic, if_pos rfl]
    exact fromSlice_fill ..
  refine (calculatePoc_moves _ (.inr hstarts) ⟨p, hstarts⟩).follow ?_
  rintro ok k' t - ⟨rfl, ht, hc⟩
  cases ok with
  | false => exact ⟨k', .refl, by simp, fun _ => rfl⟩
  | true => exact ⟨_, .single (.fill p slice hk (htold.sameButOrder ht) (hc rfl)), fun _ => rfl, by simp⟩

/-- Before an IDR picture starts the DPB is empty. -/
lemma flushBeforeIdr_moves {p : PicId} {slice : GstH264Slice} (hs : Sound (k, s))
    (hk : k.current = .filled p slice) :
    Moves (Act env) k (flushBeforeIdr env p) s fun _ k' s' => (k' = k ∨ k' = k.setCurrent (.clearing p slice)) ∧
      (slice.nalu.idrPicFlag → DpbEmpty s') := by
  have hslice : FromSlice slice (s.pic p) := hs.told p slice (.inl hk)
  refine Moves.get_bind (Moves.ite (fun hidr => Moves.ite (fun _ => ?_) fun hno => ?_) fun hidr => ?_)
  · exact drainInternal_moves.mono fun _ _ _ h => ⟨.inl h.1, fun _ => h.2⟩
  · refine Moves.step (.clear p slice hk (hslice.idr ▸ hidr) ?_) (Moves.bind (clearDpb_moves rfl) ?_)
    · rw [← hslice.decRefPicMarking]
      simpa using hno
    · rintro - k' t - ⟨rfl, ht⟩
      exact Moves.pure ⟨.inr rfl, fun _ => ht⟩
  · exact Moves.pure ⟨.inl rfl, fun h => absurd (hslice.idr.trans h) hidr⟩

lemma touchOthers_eq (l : List PicId) (st : Store) :
    ∃ f, st.touchOthers l = { st with fault := f } := by
  induction l generalizing st with
  | nil => exact ⟨_, rfl⟩
  | cons p l ih =>
    obtain ⟨f, hf⟩ := ih (st.touchOther p)
    refine ⟨f, hf.trans ?_⟩
    unfold Store.touchOther Store.touch
    split
    · split <;> rfl
    · rfl

lemma book_touchOthers (l : List PicId) : Act env (k, s) (k, s.mapStore (Store.touchOthers l)) := by
  obtain ⟨f, hf⟩ := touchOthers_eq l s.store
  rw [Decoder.mapStore, hf]
  exact .book (by constructor <;> rfl)

lemma vkStartPicture_moves {p : PicId} {slice : GstH264Slice}
    (hk : k.current.filledBy p slice) (hidr : slice.nalu.idrPicFlag → DpbEmpty s) (hnum : Numbered s p slice) :
    Moves (Act env) k (vkStartPicture env p slice) s fun ret k' _ =>
      ret = .ok ∧ k' = k.setCurrent (.decoding p) := by
  refine Moves.get_bind (Moves.valueOr_bind fun vkpic hv => onStore_bind k (book_touchOthers _) ?_)
  obtain ⟨f, hf⟩ := touchOthers_eq s.store.listedRefs s.store
  refine Moves.modify_bind _ (.start p slice vkpic hk ?_ (fun h => ?_) ?_) (Moves.pure ⟨rfl, rfl⟩)
  · simpa [Decoder.pic, hf] using hv
  · have := hidr h
    unfold DpbEmpty at this ⊢
    simpa [hf] using this
  · unfold Numbered at hnum ⊢
    simpa [Decoder.pic, Decoder.mapStore, hf] using hnum

lemma book_startFrameNum (sps : GstH264SPS) (idr : Bool) : Act env (k, s) (k, s.startFrameNum sps idr) :=
  .book (by constructor <;> rfl)

lemma startCurrentPicture_moves {p : PicId} {slice : GstH264Slice} (hs : Sound (k, s))
    (hk : k.current = .starting p slice) :
    Moves (Act env) k (startCurrentPicture env) s fun ret k' _ =>
      (ret = .ok → k' = k.setCurrent (.decoding p)) ∧ (ret ≠ .ok → ∃ c, c.owned p ∧ k' = k.setCurrent c) := by
  have hlink : s.currentPicture = some p := by
    rw [show s.currentPicture = k.current.pic from hs.linked, hk]
    rfl
  have hslice : s.currentSlice = slice := hs.slice p slice hk
  have hstarts : k.current.starts p := ⟨slice, hk⟩
  refine Moves.get_bind ?_
  rw [hlink]
  refine Moves.pure_bind (Moves.valueOr_bind fun sps _ => ?_)
  have hs' : Sound (k, s.startFrameNum sps s.currentSlice.nalu.idrPicFlag) :=
    (show Act env _ _ from book_startFrameNum sps _).sound hs
  refine Moves.modify_bind k (book_startFrameNum _ _) ?_
  refine bind_sound hs' (handleFrameNumGap_moves _ hs' ⟨p, hstarts⟩) ?_
  rintro ret k' t ht rfl
  have hfail : ∀ {c : Current} {t : Decoder P} {ret : GstFlowReturn}, c.owned p → ret ≠ .ok →
      Moves (Act env) (k'.setCurrent c) (pure ret : DecoderM P GstFlowReturn) t fun ret k'' _ =>
        (ret = .ok → k'' = k'.setCurrent (.decoding p)) ∧
          (ret ≠ .ok → ∃ c, c.owned p ∧ k'' = k'.setCurrent c) :=
    fun hc hne => Moves.pure ⟨fun h => absurd h hne, fun _ => ⟨_, hc, rfl⟩⟩
  have hself : k' = k'.setCurrent k'.current := rfl
  refine Moves.ite (fun hne => hself ▸ hfail (.inl hstarts) hne) fun _ => ?_
  refine bind_sound ht (initCurrentPicture_moves ht hk) ?_
  rintro ok k'' u hu ⟨htrue, hfalse⟩
  cases ok with
  | false =>
    rw [hfalse rfl]
    exact hself ▸ hfail (.inl hstarts) (by simp)
  | true =>
    obtain rfl := htrue rfl
    refine bind_sound hu (flushBeforeIdr_moves hu rfl) ?_
    rintro ret k'' v hv ⟨hk'', hidr⟩
    have hfilled : k''.current.filledBy p slice ∧ k''.setCurrent (.decoding p) = k'.setCurrent (.decoding p) ∧
        ∃ c, c.owned p ∧ k'' = k'.setCurrent c := by
      rcases hk'' with rfl | rfl
      · exact ⟨.inl rfl, rfl, _, .inr (.inl ⟨slice, .inl rfl⟩), rfl⟩
      · exact ⟨.inr rfl, rfl, _, .inr (.inl ⟨slice, .inr rfl⟩), rfl⟩
    obtain ⟨hf, hd, c, hc, rfl⟩ := hfilled
    refine Moves.ite (fun hne => hfail hc hne) fun _ => ?_
    refine Moves.bind (updatePicNums_moves p _) ?_
    rintro - k'' w - ⟨rfl, hl, hnum, hset⟩
    rw [hslice]
    refine (vkStartPicture_moves hf (fun h => ?_) (hslice ▸ hset)).mono ?_
    · exact ⟨(congrArg Dpb.picList hnum.dpb).trans (hidr h).1, hl.trans (hidr h).2⟩
    · rintro ret k'' x ⟨rfl, rfl⟩
      exact ⟨fun _ => hd, fun h => absurd rfl h⟩

lemma assertFields_bind {β : Type} {f : Unit → DecoderM P β} {Q : β → Phase → Decoder P → Prop}
    (h : s.store.dpb.interlaced ∨ s.lastField = none → Moves (Act env) k (f ()) s Q) :
    Moves (Act env) k (assertFields >>= f) s Q := by
  cases hi : s.store.dpb.interlaced with
  | true =>
    refine Moves.prepend .refl (h (.inl hi)) ?_
    simp [assertFields, run_bind, hi]
  | false =>
    have hassert : Moves (Act env) k (assertNoLastField >>= f) s Q :=
      assertNoLastField_bind (.inl hi) fun hl => h (.inr hl)
    refine Moves.prepend .refl hassert ?_
    simp [assertFields, run_bind, hi]

lemma prevField_eq_none (h : prevField s = none) (hi : s.store.dpb.interlaced ∨ s.lastField = none) :
    s.lastField = none := by
  rcases hi with hi | hi
  · unfold prevField at h
    rw [if_pos hi] at h
    split at h
    · cases h
    · assumption
  · exact hi

/-- What is known of the fields when the picture for a slice is made. -/
structure FirstField (s : Decoder P) (firstField : Option PicId) (k k' : Phase) (s' : Decoder P) : Prop where
  currentSlice : s'.currentSlice = s.currentSlice
  frame : firstField = none → k' = k ∧ (sliceField s.currentSlice.header = .frame → s'.lastField = none)
  pair : ∀ f, firstField = some f → k' = k.take .first f ∧ BeginsPair s' f

lemma findFirstFieldPicture_moves :
    Moves (Act env) k (findFirstFieldPicture s.currentSlice.header) s fun r k' s' =>
      FirstField s r.2 k k' s' := by
  refine Moves.get_bind (assertFields_bind fun hi => ?_)
  cases hq : prevField s with
  | none => exact Moves.pure ⟨rfl, fun _ => ⟨rfl, fun _ => prevField_eq_none hq hi⟩, by simp⟩
  | some q =>
    refine Moves.ite (fun hpair => ?_) fun _ => ?_
    · obtain ⟨⟨hfield, -⟩, hne⟩ : (s.currentSlice.header.fieldPicFlag = true ∧ _) ∧
          sliceField s.currentSlice.header ≠ (s.pic q).field := by simpa using hpair
      refine onStore_bind _ (.borrow q hq) (Moves.pure ⟨rfl, by simp, ?_⟩)
      rintro f ⟨⟩
      refine ⟨rfl, BeginsPair.congr ⟨hq, hfield, hne⟩ rfl rfl rfl (fun a => ?_) fun a => ?_⟩
      all_goals
        simp only [Decoder.pic, Decoder.mapStore_store, Store.ref, Store.modifyPic_pic]
        split <;> simp_all
    · refine Moves.bind clearLastField_moves ?_
      rintro - k' t - ⟨rfl, -, hl, hc⟩
      exact Moves.pure ⟨hc, fun _ => ⟨rfl, fun _ => hl⟩, by simp⟩

/-- The outcome of making the picture for a slice: held by its maker, or none. -/
def Made (k : Phase) (picture : Option PicId) (k' : Phase) : Prop :=
  (picture = none → k' = k) ∧ ∀ p, picture = some p → k' = k.take .fresh p

/-- The picture may become the current one. -/
structure Adoptable (s : Decoder P) (p : PicId) : Prop where
  frame : sliceField s.currentSlice.header = .frame → s.lastField = none
  pair : (s.pic p).secondField → ∃ q, (s.pic p).otherField = some q ∧ BeginsPair s q

lemma Adoptable.congr {p : PicId} (h : Adoptable s p) (hd : t.store.dpb = s.store.dpb)
    (hl : t.lastField = s.lastField) (hc : t.currentSlice = s.currentSlice)
    (hs : (t.pic p).secondField = (s.pic p).secondField) (hf : ∀ q, (t.pic q).field = (s.pic q).field)
    (ho : ∀ q, (t.pic q).otherField = (s.pic q).otherField) : Adoptable t p := by
  refine ⟨fun hframe => ?_, fun hsec => ?_⟩
  · rw [hl]
    exact h.frame (hc ▸ hframe)
  · obtain ⟨q, hq, hb⟩ := h.pair (hs ▸ hsec)
    exact ⟨q, (ho p).trans hq, hb.congr hd hl hc hf ho⟩

lemma newCurrentPicture_moves {s₀ : Decoder P} (firstField : Option PicId) (hk : k.current = .none)
    {k₁ : Phase} (hs : Sound (k₁, s)) (hfirst : FirstField s₀ firstField k k₁ s) :
    Moves (Act env) k₁ (newCurrentPicture env firstField) s fun r k' s' =>
      (r.1 ≠ .ok → r.2 = none) ∧ Made k r.2 k' ∧ ∀ p, r.2 = some p → Adoptable s' p := by
  cases firstField with
  | some f =>
    obtain ⟨rfl, hpair⟩ := hfirst.pair f rfl
    refine newFieldPicture_bind hs hpair (fun t ha => ?_) fun t ha hsec hoth => ?_
    · refine onStore_bind _ (.unref (r := .first) f (by simp) (by simp [Role.dropped]) (by simp))
        (Moves.pure ⟨by simp, ⟨fun _ => ?_, by simp⟩, by simp⟩)
      exact Phase.drop_take
    · have hadopt : Adoptable t s.store.next := by
        have hb := hpair.apart ha hs.placed
        exact ⟨fun h => absurd h hb.not_frame, fun _ => ⟨f, hoth, hb⟩⟩
      refine onStore_bind _ (.unref (r := .first) f (by simp) (by simp [Role.dropped]) (by simp))
        (Moves.pure ⟨by simp, ⟨by simp, ?_⟩, ?_⟩)
      · rintro p ⟨⟩
        rw [Phase.drop_take_comm (by simp), Phase.drop_take]
      · rintro p ⟨⟩
        have hshape := Store.sameShape_unref f t.store
        have hsame : ∀ a, ∃ n, ((t.mapStore (Store.unref f)).pic a) = { t.pic a with refcount := n } := hshape.pic
        refine hadopt.congr hshape.dpb rfl rfl ?_ (fun a => ?_) fun a => ?_
        · obtain ⟨n, hn⟩ := hsame s.store.next
          rw [hn]
        · obtain ⟨n, hn⟩ := hsame a
          rw [hn]
        · obtain ⟨n, hn⟩ := hsame a
          rw [hn]
  | none =>
    obtain ⟨rfl, hframe⟩ := hfirst.frame rfl
    refine withStore_bind (k₁.take .fresh s.store.next) (.new .fresh (.inl rfl)) ?_
    refine Moves.bind (vkAllocPicture_moves (by simp [Store.pictureNew]) (by simp [Store.pictureNew, Decoder.pic])) ?_
    rintro ret k' t - ⟨rfl, rfl⟩
    have hsec := (allocPicture_secondField s.store.next s.store.next :
      (((s.mapStore fun st => st.pictureNew.2).allocPicture env _).pic _).secondField = _).trans unlinked_new.secondField
    refine Moves.ite (fun _ => ?_) fun h => Moves.pure ⟨fun h' => absurd h' h, ⟨by simp, ?_⟩, ?_⟩
    · refine Moves.modify_bind _ (.forgetCurrent (.inl hk)) ?_
      refine onStore_bind _ (.unref (r := .fresh) s.store.next (by simp [Phase.setCurrent])
        (by simp [Role.dropped]) fun _ => hsec) (Moves.pure ⟨fun _ => rfl, ⟨fun _ => ?_, by simp⟩, by simp⟩)
      rw [show (k₁.take .fresh s.store.next).setCurrent .none = k₁.take .fresh s.store.next from
        Phase.setCurrent_of_eq hk]
      exact Phase.drop_take
    · rintro p ⟨⟩
      rfl
    · rintro p ⟨⟩
      have ha : Apart s ((s.mapStore fun st => st.pictureNew.2).allocPicture env s.store.next) := apart_new.alloc
      refine ⟨fun h => ha.lastField.trans (hframe ?_), fun h => ?_⟩
      · rw [← hfirst.currentSlice, ← ha.currentSlice]
        exact h
      exact absurd (hsec.symm.trans h) (by simp)

lemma edit_setSystemFrameNumber (n : Nat) : Edit (setSystemFrameNumber n) :=
  ⟨fun _ => rfl, fun _ => rfl, fun _ => rfl, fun _ => rfl, fun _ => rfl, fun _ => rfl, fun _ => rfl, fun _ h => h,
    fun _ => .inl rfl, fun _ => rfl⟩

/-- The flow of a function that works on the current picture, and what it leaves of it. -/
def Leaves (k : Phase) (ret : GstFlowReturn) (k' : Phase) : Prop :=
  ∃ c, k' = k.setCurrent c ∧ (ret = .ok → c = .none ∨ ∃ p, c = .decoding p) ∧ (c = .none ∨ ∃ p, c.owned p)

lemma Leaves.self {ret : GstFlowReturn} (h : k.current = .none ∨ ∃ p, k.current = .decoding p) : Leaves k ret k :=
  ⟨k.current, rfl, fun _ => h, h.imp_right fun ⟨p, hp⟩ => ⟨p, .inr (.inr hp)⟩⟩

lemma adoptPicture_moves {picture : Option PicId} {frame : VideoCodecFrame} (hs : Sound (k', s))
    (hk : k.current = .none) (hh : k.hold = []) (hmade : Made k picture k')
    (hadopt : ∀ p, picture = some p → Adoptable s p) :
    Moves (Act env) k' (adoptPicture env frame picture) s fun ret k'' _ => Leaves k ret k'' := by
  refine Moves.valueOr_bind fun p hp => ?_
  obtain rfl := hmade.2 p hp
  have hfresh : (Role.fresh, p) ∈ (k.take .fresh p).hold := List.mem_cons_self ..
  have hone : (k.take .fresh p).hold = [(.fresh, p)] := congrArg (List.cons _) hh
  have ht := (show Act env _ _ from
    .edit p (.inl hfresh) (edit_setSystemFrameNumber frame.systemFrameNumber) (.inr rfl) (.inr rfl)).sound hs
  refine Moves.modify_bind _ (.edit p (.inl hfresh) (edit_setSystemFrameNumber _) (.inr rfl) (.inr rfl)) ?_
  have ha : Adoptable (s.modifyPic p (setSystemFrameNumber frame.systemFrameNumber)) p := by
    refine (hadopt p hp).congr rfl rfl rfl ?_ (fun a => ?_) fun a => ?_
    all_goals
      simp only [Decoder.pic, Decoder.modifyPic_store, Store.modifyPic_pic]
      split <;> simp_all [setSystemFrameNumber]
  refine Moves.modify_bind _ (.adopt p hfresh hk ha.frame ha.pair hone) ?_
  refine (startCurrentPicture_moves ((show Act env _ _ from .adopt p hfresh hk ha.frame ha.pair hone).sound ht) rfl).mono ?_
  rintro ret k'' t ⟨hok, herr⟩
  rw [Phase.drop_take] at hok herr
  by_cases hret : ret = .ok
  · exact ⟨_, hok hret, fun _ => .inr ⟨p, rfl⟩, .inr ⟨p, .inr (.inr rfl)⟩⟩
  · obtain ⟨c, hc, rfl⟩ := herr hret
    exact ⟨c, rfl, fun h => absurd h hret, .inr ⟨p, hc⟩⟩

lemma beginPicture_moves (hs : Sound (k, s)) (hk : k.current = .none) (hh : k.hold = []) :
    Moves (Act env) k (beginPicture env) s fun ret k' _ => Leaves k ret k' := by
  refine Moves.get_bind (Moves.assertOr_bind fun _ => Moves.valueOr_bind fun frame _ => ?_)
  refine bind_sound hs findFirstFieldPicture_moves ?_
  rintro ⟨b, firstField⟩ k₁ t ht hfirst
  refine bind_sound ht (newCurrentPicture_moves firstField hk ht hfirst) ?_
  rintro ⟨ret, picture⟩ k₂ u hu ⟨herr, hmade, hadopt⟩
  refine Moves.ite (fun hne => ?_) fun _ => adoptPicture_moves hu hk hh hmade hadopt
  rw [hmade.1 (herr hne)]
  exact Moves.pure (.self (.inl hk))

lemma decodeSlice_moves (hs : Sound (k, s)) (hk : k.current = .none ∨ ∃ p, k.current = .decoding p) :
    Moves (Act env) k (decodeSlice env) s fun ret k' _ => Leaves k ret k' := by
  have hlink : s.currentPicture = k.current.pic := hs.linked
  refine Moves.get_bind ?_
  rcases hk with hk | ⟨p, hk⟩
  · rw [hlink, hk]
    exact Moves.pure (.self (.inl hk))
  · rw [hlink, hk]
    refine Moves.modify_bind k (.book (by constructor <;> rfl)) (Moves.get_bind (Moves.valueOr_bind fun vkpic hv => ?_))
    exact Moves.modify_bind k (.slice p s.currentSlice vkpic hk hv) (Moves.pure (.self (.inr ⟨p, hk⟩)))

lemma Leaves.trans {k k₁ k₂ : Phase} {ret ret' : GstFlowReturn} (h : Leaves k ret k₁) (h' : Leaves k₁ ret' k₂) :
    Leaves k ret' k₂ := by
  obtain ⟨c, rfl, -, -⟩ := h
  obtain ⟨c', rfl, hok, hc⟩ := h'
  exact ⟨c', rfl, hok, hc⟩

lemma Leaves.current {ret : GstFlowReturn} (h : Leaves k ret k') (hret : ret = .ok) :
    k'.current = .none ∨ ∃ p, k'.current = .decoding p := by
  obtain ⟨c, rfl, hok, -⟩ := h
  exact hok hret

lemma Leaves.hold {ret : GstFlowReturn} (h : Leaves k ret k') : k'.hold = k.hold := by
  obtain ⟨c, rfl, -⟩ := h
  rfl

lemma book_activate (slot : Nat) : Act env (k, s) (k, s.activate env slot) := .book (by constructor <;> rfl)

lemma finishFirstField_moves (hs : Sound (k, s)) (hk : k.current = .none ∨ ∃ p, k.current = .decoding p)
    (hh : k.hold = []) :
    Moves (Act env) k (finishFirstField env) s fun _ k' _ => Leaves k .ok k' := by
  refine Moves.get_bind (Moves.ite (fun _ => ?_) fun _ => Moves.pure (.self hk))
  refine Moves.bind (finishCurrentPicture_moves hs hk hh) ?_
  rintro ret k' t - ⟨rfl, -⟩
  exact Moves.pure ⟨.none, rfl, fun _ => .inl rfl, .inl rfl⟩

lemma beginIfNone_moves (hs : Sound (k, s)) (hk : k.current = .none ∨ ∃ p, k.current = .decoding p)
    (hh : k.hold = []) :
    Moves (Act env) k (beginIfNone env) s fun ret k' _ => Leaves k ret k' := by
  have hlink : s.currentPicture = k.current.pic := hs.linked
  refine Moves.get_bind (Moves.ite (fun h => ?_) fun _ => Moves.pure (.self hk))
  refine beginPicture_moves hs (hk.resolve_right ?_) hh
  rintro ⟨p, hp⟩
  rw [hlink, hp] at h
  cases h

lemma parseSlice_moves (nalu : GstH264NalUnit) (hs : Sound (k, s))
    (hk : k.current = .none ∨ ∃ p, k.current = .decoding p) (hh : k.hold = []) :
    Moves (Act env) k (parseSlice env nalu) s fun ret k' _ => Leaves k ret k' := by
  refine Moves.get_bind ?_
  split
  · exact Moves.modify_bind k (.setSlice _ hk) (Moves.pure (.self hk))
  · rename_i header _
    have ht := (show Act env _ _ from .setSlice { header, nalu } hk).sound hs
    refine Moves.modify_bind k (.setSlice _ hk) (Moves.get_bind (Moves.ite (fun _ => Moves.pure (.self hk)) fun _ => ?_))
    have hu := (show Act env _ _ from book_activate header.pps).sound ht
    refine Moves.modify_bind k (book_activate _) (bind_sound hu (finishFirstField_moves hu hk hh) ?_)
    rintro - k₁ v hv h₁
    refine bind_sound hv (beginIfNone_moves hv (h₁.current rfl) (h₁.hold.trans hh)) ?_
    rintro ret k₂ w hw h₂
    refine Moves.ite (fun _ => Moves.pure (h₁.trans h₂)) fun hret => ?_
    have hret : ret = .ok := by simpa using hret
    exact (decodeSlice_moves hw (h₂.current hret)).mono fun _ _ _ h₃ => (h₁.trans h₂).trans h₃

end Pictures

end VkVideoParser.H264
