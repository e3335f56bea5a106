import VkVideoParser.H264.Runs.Marking

/-! The functions of the decoder taken apart into moves: a picture that was decoded. -/

namespace VkVideoParser.H264

open Execution Relation

variable {P : Type} {env : Env P} {k k' : Phase} {s t : Decoder P}

-- what the moves before rely on, the moves after rely on
lemma bind_sound {α β : Type} {m : DecoderM P α} {f : α → DecoderM P β} {Q : α → Phase → Decoder P → Prop}
    {Q' : β → Phase → Decoder P → Prop} (hs : Sound (k, s)) (hm : Moves (Act env) k m s Q)
    (hf : ∀ a k' s', Sound (k', s') → Q a k' s' → Moves (Act env) k' (f a) s' Q') :
    Moves (Act env) k (m >>= f) s Q' :=
  Moves.bind hm fun a k' s' hr hq => hf a k' s' (hs.reach hr) hq

lemma bind_logged {α β : Type} {m : DecoderM P α} {f : α → DecoderM P β} {Q : α → Phase → Decoder P → Prop}
    {Q' : β → Phase → Decoder P → Prop} (hs : Sound (k, s)) (hm : Moves (Act env) k m s Q)
    (hf : ∀ a k' s', Sound (k', s') → s.store.log ⊆ s'.store.log → Q a k' s' → Moves (Act env) k' (f a) s' Q') :
    Moves (Act env) k (m >>= f) s Q' :=
  Moves.bind hm fun a k' s' hr hq => hf a k' s' (hs.reach hr) (log_suffix_of_reach hr).subset hq

lemma Phase.setCurrent_of_eq {c : Current} (h : k.current = c) : k.setCurrent c = k := by
  rw [Phase.setCurrent, ← h]

lemma quiet_touch (q : PicId) (s : Decoder P) : Quiet s (s.mapStore (Store.touch q)) :=
  ⟨Store.sameShape_touch _ _, rfl⟩

lemma book_touch (q : PicId) : Act env (k, s) (k, s.mapStore (Store.touch q)) := by
  refine .book ?_
  have h := Store.sameShape_touch q s.store
  constructor
  case pic => exact Store.touch_pic q s.store
  case next => exact h.next
  case picList => exact congrArg Dpb.picList h.dpb
  case maxNumFrames => exact congrArg Dpb.maxNumFrames h.dpb
  case interlaced => exact congrArg Dpb.interlaced h.dpb
  case numOutputNeeded => exact congrArg Dpb.numOutputNeeded h.dpb
  case log => exact Store.touch_log q s.store
  all_goals rfl

lemma touchFirstField_eq (p : PicId) (st : Store) :
    st.touchFirstField p = st ∨ ∃ q, st.touchFirstField p = st.touch q := by
  unfold Store.touchFirstField
  split
  · exact .inr ⟨_, rfl⟩
  · exact .inl rfl

lemma book_touchFirstField (p : PicId) : Act env (k, s) (k, s.mapStore (Store.touchFirstField p)) := by
  rcases touchFirstField_eq p s.store with h | ⟨q, h⟩
  · rw [Decoder.mapStore_of_eq h]
    exact book_refl
  · rw [Decoder.mapStore, h]
    exact book_touch q

lemma touchFirstField_log (p : PicId) (st : Store) : (st.touchFirstField p).log = st.log := by
  rcases touchFirstField_eq p st with h | ⟨q, h⟩
  · rw [h]
  · rw [h, Store.touch_log]

lemma sameShape_touchFirstField (p : PicId) (st : Store) : Store.SameShape st (st.touchFirstField p) := by
  unfold Store.touchFirstField
  split
  · exact Store.sameShape_touch _ _
  · exact .refl st

lemma releaseSecondFrame_moves {p : PicId} (hp : (.marked, p) ∈ k.hold) :
    Moves (Act env) k (releaseSecondFrame p) s fun _ k' s' => k' = k ∧ Quiet s s' := by
  refine Moves.get_bind ?_
  simp only
  split
  · rename_i q hsec hoth
    refine onStore_bind k (book_touch q) (Moves.ite (fun hne => Moves.valueOr_bind fun frame hf => ?_) fun _ => ?_)
    · refine Moves.modify k (.removeFrame ?_) ⟨rfl, (quiet_touch q s).trans (quiet_removeFrame _ _ _)⟩
      rw [getFrame_number hf]
      have hpic : (s.mapStore (Store.touch q)).pic = s.pic := Store.touch_pic q s.store
      have := FrameLeaves.second (k := k) (s := s.mapStore (Store.touch q)) (q := q) hp
        (by rw [hpic]; exact hsec) (by rw [hpic]; exact hoth) (by rw [hpic]; exact hne)
      rwa [hpic] at this
    · exact Moves.pure ⟨rfl, quiet_touch q s⟩
  · exact Moves.pure ⟨rfl, .refl s⟩

lemma noneUnused_of_empty {st : Store} (h : st.dpb.picList = []) : st.NoneUnused := by
  intro q hq
  rw [h] at hq
  cases hq

lemma drainMemMgmt5_moves {p : PicId} {ret : GstFlowReturn} (hp : (.marked, p) ∈ k.hold)
    (hn : s.store.NoneUnused) :
    Moves (Act env) k (drainMemMgmt5 env p ret) s fun _ k' s' =>
      k' = k.turn .marked .settled p ∧ s'.store.NoneUnused ∧ (s' = s ∨ DpbEmpty s') := by
  refine Moves.get_bind (Moves.ite (fun h5 => ?_) fun h5 => ?_)
  · refine Moves.bind drainInternal_moves ?_
    rintro drainRet k' t - ⟨rfl, he⟩
    exact Moves.step (.settle p hp (.inr he)) (Moves.pure ⟨rfl, noneUnused_of_empty he.1, .inr he⟩)
  · exact Moves.step (.settle p hp (.inl (by simpa using h5))) (Moves.pure ⟨rfl, hn, .inl rfl⟩)

lemma touch_alive {q : PicId} {st : Store} (h : (st.touch q).fault = none) : (st.pic q).refcount ≠ 0 := by
  intro h0
  rw [Store.touch, if_pos h0, Store.die] at h
  cases hf : st.fault <;> simp [hf] at h

-- a first field that was looked at has not been destroyed
lemma touchFirstField_alive {p q : PicId} {st : Store} (h : (st.touchFirstField p).fault = none)
    (hs : (st.pic p).secondField) (ho : (st.pic p).otherField = some q) : ((st.touchFirstField p).pic q).refcount ≠ 0 := by
  have hpic : (st.touchFirstField p).pic = st.pic := by
    unfold Store.touchFirstField
    split
    · exact Store.touch_pic _ _
    · rfl
  rw [hpic]
  simp only [Store.touchFirstField, hs, ho] at h
  exact touch_alive h

lemma placePicture_moves {p : PicId} {ret : GstFlowReturn} (hs : Sound (k, s)) (hh : k.hold = [(.settled, p)])
    (hroom : (s.pic p).refPic → s.store.Room) (hrefs : RefsShown s p) (hk : k.current = .gone p) :
    Moves (Act env) k (placePicture env p ret) s fun _ k' _ => k' = (k.drop .settled p).take .keep p := by
  have hp : (Role.settled, p) ∈ k.hold := hh ▸ List.mem_cons_self
  have hp' : (Role.settled, p) ∈ (k.take .keep p).hold := List.mem_cons_of_mem _ hp
  have hs' := (show Act env _ _ from .showPlacing p hp).sound hs
  have hshown : ShownPlacing (s.emit (.placing (s.dpbInfo p))) p (s.dpbInfo p) :=
    ⟨List.mem_cons_self .., rfl, rfl, rfl, rfl, rfl, rfl⟩
  replace hrefs : RefsShown (s.emit (.placing (s.dpbInfo p))) p :=
    hrefs.shrinks (Store.sameShape_emit _ _).shrinks (List.subset_cons_self _ _)
  replace hroom : ((s.emit (.placing (s.dpbInfo p))).pic p).refPic → (s.emit (.placing (s.dpbInfo p))).store.Room :=
    hroom
  refine Moves.modify_bind k (.showPlacing p hp) ?_
  generalize s.dpbInfo p = info at hs' hshown hroom hrefs ⊢
  generalize s.emit (.placing info) = u at hs' hshown hroom hrefs ⊢
  have hdec : young (k, u) p := .inr ⟨.settled, by simp [Role.decoded], hp⟩
  have hshape := (Store.sameShape_ref p u.store).trans (sameShape_touchFirstField p _)
  refine bind_sound hs' (onStore_moves (k.take .keep p) (Q := fun _ k' s' => k' = k.take .keep p ∧
    s' = u.mapStore (Store.ref p)) (.keep p hp) ⟨rfl, rfl⟩) ?_
  rintro - k' t ht ⟨rfl, rfl⟩
  refine bind_sound ht (onStore_checked (k.take .keep p) (Q := fun _ k' s' => k' = k.take .keep p ∧
    s' = (u.mapStore (Store.ref p)).mapStore (Store.touchFirstField p) ∧
    ((u.store.ref p).touchFirstField p).fault = none) (book_touchFirstField p) fun hf => ⟨rfl, rfl, hf⟩) ?_
  rintro - k' t ht ⟨rfl, rfl, hfault⟩
  have href : ((((u.mapStore (Store.ref p)).mapStore (Store.touchFirstField p)).pic p).isRef) →
      ((u.store.ref p).touchFirstField p).Room := fun hr => by
    have hd : Changes False False _ _ := hshape.changes p
    refine (hroom (hs'.refPic p hdec ?_)).sameShape hshape
    exact Picture.isRef_congr (hd.ref.resolve_right id).1 ▸ hr
  have hlog : ((u.store.ref p).touchFirstField p).log = u.store.log := touchFirstField_log p _
  replace hshown := hshown.sameShape (t := (u.mapStore (Store.ref p)).mapStore (Store.touchFirstField p)) hshape hlog
  replace hrefs := hrefs.shrinks (t := (u.mapStore (Store.ref p)).mapStore (Store.touchFirstField p)) hshape.shrinks
    fun _ h => hlog.symm ▸ h
  refine Moves.get_bind (Moves.ite (fun hg => ?_) fun hg => ?_)
  · simp only [goesToDpb, Bool.or_eq_true, Bool.and_eq_true] at hg
    refine Moves.bind (storePicture_moves ht hp' (fun ho => ?_) (fun q _ ho => ?_) (fun _ hsec q ho => ⟨?_, hk, ?_⟩)
      hshown fun _ => ⟨fun _ hr hsec => ?_, hrefs⟩) ?_
    · rcases hg with (⟨-, hg⟩ | hg) | hg
      · rw [ho] at hg
        cases hg
      · exact href hg
      · exact .inl hg
    · rcases hg with (⟨-, hg⟩ | hg) | hg
      · cases hr : Picture.isRef (((u.mapStore (Store.ref p)).mapStore (Store.touchFirstField p)).pic p) with
        | true => exact .inl (href hr)
        | false =>
          rw [ho] at hg
          exact .inr ⟨rfl, rfl, hg⟩
      · exact .inl (href hg)
      · exact .inl (.inl hg)
    · have hpic := (sameShape_touchFirstField p (u.store.ref p)).sameField p
      exact touchFirstField_alive hfault (hpic.secondField ▸ hsec) (hpic.otherField ▸ ho)
    · simp [hh]
    · rcases hg with (⟨hg, -⟩ | hg) | hg
      · cases hsec.symm.trans hg
      · cases hr.symm.trans hg
      · exact hg
    · rintro - k' u - rfl
      exact Moves.pure (Phase.drop_take_comm (by simp))
  · refine (outputPictureDirectly_moves ht.placed hp' (Bool.eq_false_of_not_eq_true hg) hk hshown).mono ?_
    rintro _ k' u rfl
    exact Phase.drop_take_comm (by simp)

lemma refs_dpbInfo (s : Decoder P) (p : PicId) : (s.dpbInfo p).refs = s.store.refs := by
  rw [DpbInfo.refs, Decoder.dpbInfo, List.countP_map]
  rfl

lemma liveBump_moves {mode : BumpMode} {ret : GstFlowReturn} (hs : Sound (k, s)) :
    Moves (Act env) k (liveBump env mode ret) s fun _ k' _ => k' = k :=
  Moves.get_bind (Moves.ite (fun _ => (bumpDpb_moves hs).mono fun _ _ _ h => h.1) fun _ => Moves.pure rfl)

lemma finishPicture_moves {p : PicId} {ret : GstFlowReturn} (hs : Sound (k, s)) (hh : k.hold = [(.ended, p)])
    (hk : k.current = .gone p) :
    Moves (Act env) k (finishPicture env p ret) s fun _ k' _ => k' = k.drop .ended p := by
  refine Moves.get_bind (bind_sound hs (markReference_moves hh hk) ?_)
  rintro - k' t ht ⟨rfl, hleft⟩
  have hgone : (k.turn .ended .marked p).current = .gone p := hk
  have ht' := (show Act env _ _ from .rememberPicture p (by simp) hgone hleft).sound ht
  have hrefs : RefsShown ((rememberPicture (t.pic p) t).emit (.removing (t.dpbInfo p))) p := fun hr =>
    .inr ⟨t.dpbInfo p, List.mem_cons_self, hr, (refs_dpbInfo t p).ge⟩
  refine Moves.modify_modify_bind _ (.rememberPicture p (by simp) hgone hleft) ?_
  change Moves _ _ _ ((rememberPicture (t.pic p) t).emit (.removing (t.dpbInfo p))) _
  generalize (rememberPicture (t.pic p) t).emit (.removing (t.dpbInfo p)) = u at ht' hrefs ⊢
  have hu := (show Act env _ _ from .deleteUnused).sound ht'
  replace hrefs := hrefs.shrinks (t := u.mapStore Store.dpbDeleteUnused) Store.shrinks_dpbDeleteUnused
    (Store.onlyReleases_dpbDeleteUnused _).log_subset
  refine onStore_bind _ .deleteUnused ?_
  refine bind_logged hu (releaseSecondFrame_moves (p := p) (by simp)) ?_
  rintro - k' v hv hlv ⟨rfl, hq⟩
  refine bind_sound hv (drainMemMgmt5_moves (p := p) (by simp) (Store.noneUnused_dpbDeleteUnused.sameShape hq.shape)) ?_
  rintro ret' k' w hw ⟨rfl, hn, hdrained⟩
  replace hrefs : RefsShown w p := by
    rcases hdrained with rfl | he
    · exact hrefs.shrinks hq.shape.shrinks hlv
    · exact refsShown_of_empty he.1
  refine bind_logged hw (bumpDpb_moves hw) ?_
  rintro ret' k' x hx hlx ⟨rfl, hshrinks, hroom⟩
  refine bind_sound hx (placePicture_moves hx (by simp [hh]) (hroom hn p rfl) (hrefs.shrinks hshrinks hlx) hk) ?_
  rintro ret' k' y hy rfl
  have hz := (show Act env _ _ from .unref (r := .keep) p (by simp) (by simp [Role.dropped]) (by simp)).sound hy
  refine onStore_bind _ (.unref (r := .keep) p (by simp) (by simp [Role.dropped]) (by simp)) ?_
  refine (liveBump_moves hz).mono ?_
  rintro _ k' z rfl
  rw [Phase.drop_take, Phase.drop_turn, Phase.drop_turn]

lemma vkEndPicture_moves {p : PicId} (hk : k.current = .decoding p) :
    Moves (Act env) k (vkEndPicture env p) s fun ret k' _ =>
      (ret = .ok ∧ k' = (k.take .ended p).setCurrent (.gone p)) ∨ (ret ≠ .ok ∧ k' = k.setCurrent (.lost p)) := by
  refine Moves.get_bind (Moves.valueOr_bind fun vkpic hv => ?_)
  cases hok : s.decodeReply env vkpic with
  | true =>
    exact Moves.modify_bind _ (.endPicture p vkpic hk hv hok) (Moves.pure (.inl ⟨if_pos rfl, rfl⟩))
  | false =>
    exact Moves.modify_bind _ (.losePicture p vkpic hk hv hok) (Moves.pure (.inr ⟨by simp, rfl⟩))

lemma edit_nonexisting : Edit fun x => { x with nonexisting := true } :=
  ⟨fun _ => rfl, fun _ => rfl, fun _ => rfl, fun _ => rfl, fun _ => rfl, fun _ => rfl, fun _ => rfl, fun _ h => h,
    fun _ => .inl rfl, fun _ => rfl⟩

lemma finishCurrentPicture_moves {ret : GstFlowReturn} (hs : Sound (k, s))
    (hk : k.current = .none ∨ ∃ p, k.current = .decoding p) (hh : k.hold = []) :
    Moves (Act env) k (finishCurrentPicture env ret) s fun _ k' s' =>
      k' = k.setCurrent .none ∧ s'.currentPicture = none := by
  refine Moves.get_bind ?_
  have hlink : s.currentPicture = k.current.pic := hs.linked
  rcases hk with hk | ⟨p, hk⟩
  · have hnone : s.currentPicture = none := by rw [hlink, hk]; rfl
    rw [hnone]
    exact Moves.pure ⟨(Phase.setCurrent_of_eq hk).symm, hnone⟩
  · have hsome : s.currentPicture = some p := by rw [hlink, hk]; rfl
    rw [hsome]
    refine bind_sound hs (vkEndPicture_moves hk) ?_
    rintro flow k' t ht (⟨rfl, rfl⟩ | ⟨hne, rfl⟩)
    · refine Moves.bind (Moves.ite (fun h => absurd rfl h) fun _ => finishPicture_moves ht ?_ rfl) ?_
      · exact congrArg (List.cons _) hh
      · rintro flow k' u - rfl
        refine Moves.modify_bind _ (.forgetCurrent (.inr ⟨p, .inl rfl⟩)) (Moves.pure ⟨?_, rfl⟩)
        simp [Phase.drop, Phase.setCurrent, Phase.take]
    · refine Moves.bind (Q := fun _ k' _ => k' = k.setCurrent (.lost p)) (Moves.ite (fun _ => ?_) fun h => absurd hne h) ?_
      · refine Moves.modify_bind _ (.editLost p rfl edit_nonexisting fun _ => rfl)
          (Moves.get_bind (Moves.valueOr_bind fun frame _ => ?_))
        exact Moves.modify_bind _ (.removeFrame (.dropped _)) (Moves.pure rfl)
      · rintro flow k' u - rfl
        exact Moves.modify_bind _ (.forgetCurrent (.inr ⟨p, .inr rfl⟩)) (Moves.pure ⟨rfl, rfl⟩)

end VkVideoParser.H264
