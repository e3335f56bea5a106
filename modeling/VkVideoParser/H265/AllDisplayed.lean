import VkVideoParser.H265.Still

/-! Every decoded picture that is to be output is displayed, unless it is discarded. -/

namespace VkVideoParser.H265

open Execution Ledger

variable {P : Type} {env : Env P} {s t : Decoder P} {p q : PicId} {l coming hand : List PicId} {n fuel : Nat}
  {ret : GstFlowReturn}

/-- The picture was taken out of the DPB by clear_dpb and its frame released, or the decoder was flushed after the
picture was decoded. -/
def Discarded (s : Decoder P) (p : PicId) : Prop :=
  .releaseFrame (s.pic p).systemFrameNumber (.clearDpb p) ∈ s.store.log ∨ ∃ l l',
    s.store.log = l ++ .flush :: l' ∧ .opened p ∈ entries l'

/-- The picture is to be displayed, and it was not yet. -/
structure Owed (s : Decoder P) (p : PicId) : Prop where
  decoded : .opened p ∈ entries s.store.log
  outputFlag : (s.pic p).outputFlag
  displayed : .closed p ∉ entries s.store.log
  discarded : ¬Discarded s p

lemma entries_append (l l' : List Event) : entries (l ++ l') = entries l ++ entries l' := List.filterMap_append

lemma closed_of_displayed {es : List Event} (h : p ∈ displayed es) : .closed p ∈ entries es := by
  obtain ⟨e, he, hp⟩ := List.mem_filterMap.mp h
  refine List.mem_filterMap.mpr ⟨e, he, ?_⟩
  cases e with
  | displayPicture =>
    cases hp
    rfl
  | _ => cases hp

lemma Fixed.opened (h : Fixed l s t) (ho : .opened p ∈ entries t.store.log) : .opened p ∈ entries s.store.log := by
  obtain ⟨es, hes, hd⟩ := h.log
  rw [hes, entries_append] at ho
  refine (List.mem_append.mp ho).resolve_left fun ho => ?_
  obtain ⟨e, he, hp⟩ := List.mem_filterMap.mp ho
  have := hd e he
  cases e with
  | decodePicture => cases this
  | _ => cases hp

lemma Fixed.discarded (h : Fixed l s t) (hp : Discarded s p) : Discarded t p := by
  obtain ⟨es, hes, -⟩ := h.log
  refine hp.imp (fun hp => ?_) ?_
  · rw [h.number, hes]
    exact List.mem_append_right es hp
  · rintro ⟨m, m', hlog, hm⟩
    exact ⟨es ++ m, m', by rw [hes, hlog, List.append_assoc], hm⟩

-- the pictures outside of `l` that are owed were so before
lemma Fixed.owed (h : Fixed l s t) (hl : ∀ p ∈ l, .opened p ∉ entries s.store.log) (ho : Owed t p) : Owed s p := by
  obtain ⟨es, hes, -⟩ := h.log
  have hopen := h.opened ho.decoded
  refine ⟨hopen, (h.outputFlag p fun hp => hl p hp hopen) ▸ ho.outputFlag, fun hc => ho.displayed ?_, fun hd =>
    ho.discarded (h.discarded hd)⟩
  rw [hes, entries_append]
  exact List.mem_append_right _ hc

/-- What is still to be displayed waits in the DPB or is at hand. All that waits has frames of its own, which came
before the frame `n`. -/
structure Accounts (n : Nat) (coming hand : List PicId) (s : Decoder P) : Prop where
  stocked : s.store.Stocked coming
  made : ∀ p, .opened p ∈ entries s.store.log → p < s.store.next
  below : ∀ q ∈ hand ++ s.store.waiting, (s.pic q).systemFrameNumber < n
  found : ∀ q ∈ hand ++ s.store.waiting, (s.getFrame (s.pic q).systemFrameNumber).isSome
  apart : ((hand ++ s.store.waiting).map fun q => (s.pic q).systemFrameNumber).Nodup
  owed : ∀ p, Owed s p → p ∈ hand ++ s.store.waiting

lemma Accounts.next {coming' hand' : List PicId} (h : Accounts n coming hand s) (hf : Fixed l s t)
    (hl : ∀ p ∈ l, .opened p ∉ entries s.store.log) (hs : t.store.Stocked coming') (hn : s.store.next ≤ t.store.next)
    (hsub : (hand' ++ t.store.waiting).Subperm (hand ++ s.store.waiting))
    (hframe : ∀ q ∈ hand' ++ t.store.waiting, t.getFrame (s.pic q).systemFrameNumber =
      s.getFrame (s.pic q).systemFrameNumber)
    (howed : ∀ p ∈ hand ++ s.store.waiting, Owed t p → p ∈ hand' ++ t.store.waiting) : Accounts n coming' hand' t where
  stocked := hs
  made p hp := (h.made p (hf.opened hp)).trans_le hn
  below q hq := hf.number q ▸ h.below q (hsub.subset hq)
  found q hq := by
    rw [hf.number, hframe q hq]
    exact h.found q (hsub.subset hq)
  apart := by
    have heq : (fun q => (t.pic q).systemFrameNumber) = fun q => (s.pic q).systemFrameNumber := funext hf.number
    rw [heq]
    obtain ⟨m, hm, hsublist⟩ := hsub
    exact ((hm.map _).nodup_iff).mp (h.apart.sublist (hsublist.map _))
  owed p hp := howed p (h.owed p (hf.owed hl hp)) hp

lemma Accounts.mono {m : Nat} (h : Accounts n coming hand s) (hm : n ≤ m) : Accounts m coming hand s :=
  { h with below := fun q hq => (h.below q hq).trans_le hm }

lemma Accounts.still (h : Accounts n coming hand s) (ht : Still l s t) (hl : l ⊆ coming)
    (hnew : ∀ p ∈ l, .opened p ∉ entries s.store.log) : Accounts n coming hand t := by
  have hwait : t.store.waiting = s.store.waiting := by
    rw [Store.waiting, Store.waiting, ht.picList]
    refine List.filter_congr fun q hq => ht.waits q fun hm => ?_
    exact List.disjoint_of_nodup_append h.stocked.apart (hl hm) hq
  have hstock : t.store.Stocked coming := by
    refine ⟨ht.picList ▸ h.stocked.apart, ht.picList ▸ ht.next ▸ h.stocked.made, ?_⟩
    rw [ht.numOutputNeeded, h.stocked.count, List.countP_eq_length_filter, List.countP_eq_length_filter]
    exact congrArg (fun m : List PicId => (m.length : Int)) hwait.symm
  refine h.next ht.toFixed hnew hstock ht.next.ge (hwait ▸ .refl _) (fun q _ => ?_) fun p hp _ => hwait ▸ hp
  exact congrArg (List.find? _) ht.frames

/-- The pictures go on being accounted for, and the frame `n` is left as it is. -/
structure Goes (n : Nat) (coming : List PicId) (s t : Decoder P) : Prop where
  accounts : Accounts n coming [] t
  fixed : Fixed [] s t
  frame : t.getFrame n = s.getFrame n

lemma Goes.trans {u : Decoder P} (h : Goes n coming s t) (h' : Goes n coming t u) : Goes n coming s u :=
  ⟨h'.accounts, h.fixed.trans h'.fixed, h'.frame.trans h.frame⟩

lemma Goes.refl (h : Accounts n coming [] s) : Goes n coming s s := ⟨h, .refl [] s, rfl⟩

lemma Accounts.goes (h : Accounts n coming [] s) (ht : Still [] s t) : Goes n coming s t :=
  ⟨h.still ht (List.nil_subset _) (by simp), ht.toFixed, congrArg (List.find? _) ht.frames⟩

section Output

lemma fixed_removeFrame {e : Event} (he : e.decodes = false) (m : Nat) (s : Decoder P) :
    Fixed l s (s.removeFrame m e) :=
  ⟨rfl, rfl, rfl, fun _ => rfl, fun _ _ => rfl, [e], rfl, by simpa using he⟩

lemma fixed_doOutputPicture (p : PicId) (ret : GstFlowReturn) : Respects (Fixed l) (doOutputPicture env p ret) := by
  have hunref : ∀ s : Decoder P, Fixed l s (s.mapStore (Store.unref p)) := fun s => fixed_keeps (Store.keeps_unref p _)
  have hlast : ∀ poc (s : Decoder P), Still l s (s.setLastOutputPoc poc) := fun _ _ => still_book rfl rfl rfl rfl rfl
  refine Respects.get_bind fun s => Respects.bind (Respects.modify fun t => (hlast _ t).toFixed) fun _ => ?_
  split
  · exact Respects.bind (respects_onStore hunref) fun _ => Respects.pure _
  · refine Respects.bind (Respects.get_bind fun u => (Respects.valueOr _ _).bind fun vkpic => ?_) fun _ =>
      Respects.pure _
    refine Respects.bind (Respects.modify fun v => (still_emit rfl v).toFixed) fun _ =>
      Respects.bind (respects_onStore hunref) fun _ => ?_
    refine Respects.ite (fun _ => Respects.get_bind fun w => ?_) fun _ => Respects.pure _
    exact Respects.bind (Respects.modify fun v => fixed_removeFrame rfl _ v) fun _ => Respects.pure _

/-- The picture at hand is done with. -/
structure Passes (n : Nat) (coming : List PicId) (s t : Decoder P) : Prop extends Goes n coming s t where
  waiting : t.store.waiting = s.store.waiting

lemma Accounts.without {m : Nat} (h : Accounts n coming [p] s) (hf : Fixed [] s t)
    (hs : Store.SameNeeds s.store t.store) (hn : t.store.next = s.store.next) (hm : (s.pic p).systemFrameNumber = m)
    (hframe : ∀ i, i ≠ m → t.getFrame i = s.getFrame i)
    (hp : ¬Owed t p) : Passes n coming s t := by
  have hwait := waiting_sameNeeds hs
  have hnodup := h.apart
  rw [List.singleton_append, List.map_cons, List.nodup_cons] at hnodup
  refine ⟨⟨h.next hf (by simp) (h.stocked.sameNeeds hs hn) hn.ge ?_ (fun q hq => ?_) fun q hq ho => ?_, hf, ?_⟩, hwait⟩
  · rw [hwait]
    exact (List.sublist_cons_self p _).subperm
  · rw [List.nil_append, hwait] at hq
    exact hframe _ fun heq => hnodup.1 (List.mem_map.mpr ⟨q, hq, heq.trans hm.symm⟩)
  · rcases List.mem_cons.mp hq with rfl | hq
    · exact absurd ho hp
    · exact hwait ▸ hq
  · exact hframe n (hm ▸ (h.below p List.mem_cons_self).ne')

lemma doOutputPicture_passes (h : Accounts n coming [p] s) :
    Returns (doOutputPicture env p ret) s fun _ t => Passes n coming s t := by
  refine (Respects.returns_and (R := Fixed []) (fixed_doOutputPicture p ret) (doOutputPicture_returns p ret s)).mono ?_
  rintro - t ⟨hout, hf⟩
  refine h.without hf hout.needs hout.next rfl hout.getFrame fun ho => ho.displayed ?_
  obtain ⟨es, hes, hd⟩ := hout.log
  rw [hes, entries_append]
  refine List.mem_append_left _ (closed_of_displayed ?_)
  rw [hd, Decoder.toDisplay, if_pos (h.found p List.mem_cons_self)]
  exact List.mem_singleton_self p

lemma waiting_bumped {drain : Bool} {i : Nat} {a b : Store} (h : Store.Bumped drain i p a b)
    (hn : a.dpb.picList.Nodup) :
    (p :: b.waiting).Perm a.waiting := by
  refine (waiting_bump h).perm_of_length_le ?_
  have hcount := h.count hn
  rw [List.countP_eq_length_filter, List.countP_eq_length_filter] at hcount
  exact hcount.ge

-- the picture that is taken out to be output is at hand
lemma Accounts.bump {drain : Bool} (h : Accounts n coming [] s) (hp : (s.store.dpbBump drain).1 = some p) :
    Accounts n coming [p] (s.mapStore fun st => (st.dpbBump drain).2) ∧
      (p :: (s.store.dpbBump drain).2.waiting).Perm s.store.waiting := by
  obtain ⟨i, hb⟩ := Store.bumped_of_some hp
  have hk := Store.keeps_dpbBump drain s.store
  have hperm := waiting_bumped hb h.stocked.nodup
  refine ⟨h.next (fixed_keeps (l := []) hk) (by simp) (h.stocked.bumped hb hk.next) hk.next.ge hperm.subperm
    (fun _ _ => rfl)
    fun q hq _ => hperm.symm.subset hq, hperm⟩

-- nothing waits when there is nothing to take out
lemma waiting_eq_nil {a : Store} {drain : Bool} (h : (a.dpbBump drain).1 = none) : a.waiting = [] :=
  List.filter_eq_nil_iff.mpr fun q hq => by
    rw [Store.none_waits (Store.bump_eq_none h).1 q hq]
    exact Bool.false_ne_true

lemma Accounts.turn {drain : Bool} {u : Decoder P} (h : Accounts n coming [] s)
    (hp : (s.store.dpbBump drain).1 = some p)
    (hu : Passes n coming (s.mapStore fun st => (st.dpbBump drain).2) u) :
    Goes n coming s u ∧ u.store.waiting.length < s.store.waiting.length := by
  refine ⟨⟨hu.accounts, (fixed_keeps (Store.keeps_dpbBump drain s.store)).trans hu.fixed, hu.frame⟩, ?_⟩
  rw [hu.waiting, ← (h.bump hp).2.length_eq]
  exact Nat.lt_succ_self _

lemma Accounts.unbumped {drain : Bool} (h : Accounts n coming [] s) (hp : (s.store.dpbBump drain).1 = none) :
    Goes n coming s (s.mapStore fun st => (st.dpbBump drain).2) ∧
      (s.mapStore fun st => (st.dpbBump drain).2).store.waiting = [] := by
  rw [mapStore_of_eq (Store.bump_eq_none hp).2]
  exact ⟨.refl h, waiting_eq_nil hp⟩

lemma bumpAll_goes {drain : Bool} (h : Accounts n coming [] s) (hfuel : s.store.waiting.length < fuel) :
    Returns (bumpAll env drain fuel ret) s fun _ t => Goes n coming s t ∧ t.store.waiting = [] := by
  induction fuel generalizing s ret with
  | zero => exact absurd hfuel (Nat.not_lt_zero _)
  | succ fuel ih =>
    refine Ends.edit_bind trivial ?_
    cases hp : (s.store.dpbBump drain).1 with
    | none => exact Ends.pure (h.unbumped hp)
    | some p =>
      refine Ends.bind (doOutputPicture_passes (h.bump hp).1) fun ret' t ht => ?_
      obtain ⟨hgoes, hlt⟩ := h.turn hp ht
      exact (ih hgoes.accounts (by omega)).mono fun _ _ hu => ⟨hgoes.trans hu.1, hu.2⟩

lemma releasePicture_passes (h : Accounts n coming [p] s) :
    Returns (releasePicture p) s fun _ t => Passes n coming s t := by
  refine Ends.get_bind ?_
  have hfound := h.found p List.mem_cons_self
  cases hf : s.getFrame (s.pic p).systemFrameNumber with
  | none =>
    rw [hf] at hfound
    cases hfound
  | some frame =>
    have hnumber := getFrame_number hf
    refine Ends.modify_bind (Ends.edit trivial ?_)
    have hunref := fixed_keeps (l := []) (Store.keeps_unref p
      (s.removeFrame frame.systemFrameNumber (.releaseFrame frame.systemFrameNumber (.clearDpb p))).store)
    have hdiscarded : Discarded
        (s.removeFrame frame.systemFrameNumber (.releaseFrame frame.systemFrameNumber (.clearDpb p))) p :=
      .inl (hnumber ▸ List.mem_cons_self)
    have hneeds : Store.SameNeeds s.store
        (s.removeFrame frame.systemFrameNumber (.releaseFrame frame.systemFrameNumber (.clearDpb p))).store :=
          ⟨rfl, rfl, rfl⟩
    exact h.without ((fixed_removeFrame rfl _ s).trans hunref) (hneeds.trans (Store.sameNeeds_unref p _))
      (Store.keeps_unref p _).next hnumber.symm
        (fun m hm => getFrame_removeFrame hm (.releaseFrame frame.systemFrameNumber (.clearDpb p)) s)
      fun ho => ho.discarded (hunref.discarded hdiscarded)

lemma releaseAll_goes (h : Accounts n coming [] s) (hfuel : s.store.waiting.length < fuel) :
    Returns (releaseAll fuel) s fun _ t => Goes n coming s t ∧ t.store.waiting = [] := by
  induction fuel generalizing s with
  | zero => exact absurd hfuel (Nat.not_lt_zero _)
  | succ fuel ih =>
    refine Ends.edit_bind trivial ?_
    cases hp : (s.store.dpbBump true).1 with
    | none => exact Ends.pure (h.unbumped hp)
    | some p =>
      refine Ends.bind (releasePicture_passes (h.bump hp).1) fun _ t ht => ?_
      obtain ⟨hgoes, hlt⟩ := h.turn hp ht
      exact (ih hgoes.accounts (by omega)).mono fun _ _ hu => ⟨hgoes.trans hu.1, hu.2⟩

lemma waiting_length (a : Store) : a.waiting.length < a.dpb.picList.length + 1 :=
  Nat.lt_succ_of_le (List.length_filter_le _ _)

lemma waiting_dpbClear (a : Store) : a.dpbClear.waiting = [] := by
  rw [Store.waiting, Store.dpbClear_picList, List.filter_nil]

lemma emptyDpb_goes (h : Accounts n coming [] s) (hw : s.store.waiting = []) :
    Returns emptyDpb s fun _ t => Goes n coming s t ∧ t.store.waiting = [] := by
  have hk := Store.keeps_dpbClear s.store
  have hclear : Goes n coming s (s.mapStore Store.dpbClear) := by
    refine ⟨h.next (fixed_keeps (l := []) hk) (by simp) h.stocked.dpbClear hk.next.ge ?_ (fun _ _ => rfl) ?_,
      fixed_keeps hk, rfl⟩
    · rw [Decoder.mapStore, waiting_dpbClear]
      exact List.nil_subperm
    · rw [hw]
      exact fun q hq => absurd hq List.not_mem_nil
  have hlast : Still [] (s.mapStore Store.dpbClear) ((s.mapStore Store.dpbClear).setLastOutputPoc int32Min) :=
    still_book rfl rfl rfl rfl rfl
  exact Ends.edit_bind trivial (Ends.modify ⟨hclear.trans (hclear.accounts.goes hlast), waiting_dpbClear s.store⟩)

lemma clearDpb_goes (h : Accounts n coming [] s) :
    Returns (clearDpb false) s fun _ t => Goes n coming s t ∧ t.store.waiting = [] := by
  refine Ends.ite (fun h => absurd h Bool.false_ne_true) fun _ => Ends.get_bind ?_
  refine Ends.bind (releaseAll_goes h (waiting_length _)) fun _ t ⟨ht, hw⟩ => ?_
  exact (emptyDpb_goes ht.accounts hw).mono fun _ _ hu => ⟨ht.trans hu.1, hu.2⟩

lemma drainInternal_goes (h : Accounts n coming [] s) :
    Returns (drainInternal env) s fun _ t => Goes n coming s t ∧ t.store.waiting = [] := by
  refine Ends.get_bind (Ends.bind (bumpAll_goes h (waiting_length _)) fun _ t ⟨ht, hw⟩ => ?_)
  refine Ends.bind (emptyDpb_goes ht.accounts hw) fun _ u hu => Ends.pure ⟨ht.trans hu.1, hu.2⟩

lemma bumpWhile_goes {site : BumpSite} {maxNumReorderPics maxDecPicBuffering : Nat} (h : Accounts n coming [] s) :
    Returns (bumpWhile env site maxNumReorderPics maxDecPicBuffering fuel ret) s fun _ t => Goes n coming s t := by
  induction fuel generalizing s ret with
  | zero => exact Ends.pure (.refl h)
  | succ fuel ih =>
    refine Ends.get_bind (Ends.modify_bind ?_)
    have hshow := h.goes (still_emit (e := .bumping (s.bumpInfo env site maxNumReorderPics maxDecPicBuffering)) rfl s)
    refine Ends.fromExcept_bind trivial fun bumps _ => Ends.ite (fun _ => Ends.edit_bind trivial ?_) fun _ =>
      Ends.pure hshow
    cases hp :
        ((s.emit (.bumping (s.bumpInfo env site maxNumReorderPics maxDecPicBuffering))).store.dpbBump false).1 with
    | none => exact Ends.pure (hshow.trans (hshow.accounts.unbumped hp).1)
    | some p =>
      refine Ends.bind (doOutputPicture_passes (hshow.accounts.bump hp).1) fun ret' t ht => ?_
      have hgoes := (hshow.accounts.turn hp ht).1
      exact (ih hgoes.accounts).mono fun _ _ hu => (hshow.trans hgoes).trans hu

lemma Accounts.deleteUnused (h : Accounts n coming hand s) :
    Accounts n coming hand (s.mapStore Store.dpbDeleteUnused) := by
  have hk := Store.keeps_dpbDeleteUnused s.store
  have hwait := waiting_deleteUnused s.store
  refine h.next (fixed_keeps (l := []) hk) (by simp) h.stocked.dpbDeleteUnused hk.next.ge ?_ (fun _ _ => rfl) fun p hp
    _ => ?_
  · exact (List.Perm.of_eq (congrArg (hand ++ ·) hwait)).subperm
  · exact hwait.symm ▸ hp

lemma deleteUnused_goes (h : Accounts n coming [] s) : Goes n coming s (s.mapStore Store.dpbDeleteUnused) :=
  ⟨h.deleteUnused, fixed_keeps (Store.keeps_dpbDeleteUnused s.store), rfl⟩

lemma leaveSequence_goes (h : Accounts n coming [] s) : Returns (leaveSequence env) s fun _ t => Goes n coming s t := by
  refine Ends.get_bind (Ends.ite (fun _ => ?_) fun _ => (drainInternal_goes h).mono fun _ _ ht => ht.1)
  exact Ends.bind (clearDpb_goes h) fun _ t ht => Ends.pure ht.1

lemma processSps_goes (sps : GstH265SPS) (h : Accounts n coming [] s) :
    Returns (processSps env sps) s fun _ t => Goes n coming s t := by
  have hchange : Returns (changeSequence env sps) s fun _ t => Goes n coming s t := by
    refine Ends.bind (leaveSequence_goes h) fun _ t ht => Ends.ite (fun _ => Ends.pure ht) fun _ => ?_
    refine Ends.bind ((still_newSequence sps _ t).imp (fun _ _ => trivial) fun _ _ hu =>
      ht.trans (ht.accounts.goes hu)) ?_
    intro _ u hu
    exact Ends.ite (fun _ => Ends.pure hu) fun _ =>
      Ends.modify_bind (Ends.pure (hu.trans (hu.accounts.goes (still_configure sps u))))
  refine Ends.bind (Q := fun _ t => Goes n coming s t) ?_ fun _ t ht => Ends.ite (fun _ => Ends.pure ht) fun _ => ?_
  · exact Ends.get_bind (Ends.ite (fun _ => Ends.pure (.refl h)) fun _ => hchange)
  · exact Ends.modify_bind (Ends.pure (ht.trans (ht.accounts.goes ((still_setLatency sps t).trans (still_emit rfl _)))))

lemma dpbInit_goes {sps : GstH265SPS} {slice : GstH265Slice} (h : Accounts n coming [] s) :
    Returns (dpbInit env sps slice p) s fun _ t => Goes n coming s t := by
  have hdelete := deleteUnused_goes h
  refine Ends.ite (fun _ => Ends.get_bind (Ends.ite (fun _ => ?_) fun _ => ?_)) fun _ => ?_
  · exact Ends.bind (clearDpb_goes h) fun _ t ht => Ends.pure ht.1
  · refine Ends.edit_bind trivial
      (Ends.get_bind (Ends.bind (bumpAll_goes hdelete.accounts (waiting_length _)) fun _ t ht => ?_))
    have hgoes := hdelete.trans ht.1
    refine Ends.bind (Q := fun _ u => Goes n coming s u) ?_ fun _ u hu => Ends.pure hu
    refine Ends.get_bind (Ends.ite (fun _ => Ends.modify ?_) fun _ => Ends.pure hgoes)
    exact hgoes.trans (hgoes.accounts.goes (still_book rfl rfl rfl rfl rfl))
  · exact Ends.edit_bind trivial (Ends.get_bind ((bumpWhile_goes hdelete.accounts).mono fun _ _ ht => hdelete.trans ht))

end Output

/-- While the frame `n` is decoded: the current picture, if there is one, is that of the frame. -/
structure Decoding (n : Nat) (s : Decoder P) : Prop where
  accounts : Accounts n s.currentPicture.toList [] s
  frame : (s.getFrame n).isSome
  systemFrameNumber : s.systemFrameNumber = n + 1
  currentFrame : ∀ f, s.currentFrame = some f → f.systemFrameNumber = n
  number : ∀ p, s.currentPicture = some p → (s.pic p).systemFrameNumber = n
  undecoded : ∀ p ∈ s.currentPicture.toList, .opened p ∉ entries s.store.log

section Pictures

lemma Decoding.goes (h : Decoding n s) (ht : Goes n s.currentPicture.toList s t) : Decoding n t := by
  have hcurrent := ht.fixed.currentPicture
  refine ⟨hcurrent ▸ ht.accounts, ht.frame ▸ h.frame, ht.fixed.systemFrameNumber.trans h.systemFrameNumber,
    ht.fixed.currentFrame ▸ h.currentFrame, fun p hp => (ht.fixed.number p).trans (h.number p (hcurrent ▸ hp)),
      fun p hp ho => ?_⟩
  exact h.undecoded p (hcurrent ▸ hp) (ht.fixed.opened ho)

lemma Decoding.still (h : Decoding n s) (ht : Still s.currentPicture.toList s t) : Decoding n t := by
  have hcurrent := ht.currentPicture
  have haccounts := h.accounts.still ht (List.Subset.refl _) h.undecoded
  refine ⟨hcurrent ▸ haccounts, ?_, ht.systemFrameNumber.trans h.systemFrameNumber, ht.currentFrame ▸ h.currentFrame,
    fun p hp => (ht.number p).trans (h.number p (hcurrent ▸ hp)), fun p hp ho =>
      h.undecoded p (hcurrent ▸ hp) (ht.opened ho)⟩
  rw [Decoder.getFrame, ht.frames]
  exact h.frame

-- a function that does not touch more than the current picture
lemma Decoding.respects {α : Type} {m : DecoderM P α} (h : Decoding n s)
    (hm : Respects (Still s.currentPicture.toList) m) :
    Returns m s fun _ t => Decoding n t ∧ t.currentPicture = s.currentPicture :=
  (hm s).imp (fun _ _ => trivial) fun _ _ ht => ⟨h.still ht, ht.currentPicture⟩

-- the account is one of the store and the frames
lemma Accounts.setCurrentPicture (h : Accounts n coming hand s) (o : Option PicId) :
    Accounts n coming hand (s.setCurrentPicture o) :=
  ⟨h.stocked, h.made, h.below, h.found, h.apart, fun p hp => h.owed p ⟨hp.1, hp.2, hp.3, hp.4⟩⟩

lemma Accounts.drop (h : Accounts n coming hand s) : Accounts n [] hand s :=
  { h with stocked := h.stocked.subperm (List.sublist_append_right _ _).subperm le_rfl h.stocked.count }

lemma Decoding.setCurrentPicture (h : Decoding n s) : Decoding n (s.setCurrentPicture none) :=
  ⟨(h.accounts.setCurrentPicture none).drop, h.frame, h.systemFrameNumber, h.currentFrame, fun _ hp => (nomatch hp),
    fun _ hp => (nomatch hp)⟩

lemma clearCurrentPicture_decoding (h : Decoding n s) :
    Returns clearCurrentPicture s fun _ t => Decoding n t ∧ t.currentPicture = none := by
  refine Ends.get_bind ?_
  split
  · rename_i p hp
    exact Ends.edit trivial
      ⟨(h.still (still_keeps (Store.keeps_unref p _) (Store.sameNeeds_unref p _))).setCurrentPicture, rfl⟩
  · rename_i hp
    exact Ends.pure ⟨h, hp⟩

lemma startCurrentPicture_decoding (h : Decoding n s) :
    Returns (startCurrentPicture env) s fun _ t => Decoding n t := by
  refine Ends.get_bind (Ends.valueOr_bind trivial fun p hp => Ends.valueOr_bind trivial fun sps _ => ?_)
  have hmem : p ∈ s.currentPicture.toList := by simp [hp]
  refine Ends.bind (h.respects (still_initCurrentPicture sps s.currentSlice hmem)) fun _ t ⟨ht, hc⟩ => Ends.get_bind ?_
  refine Ends.ite (fun _ => Ends.bind (clearCurrentPicture_decoding ht) fun _ u hu => Ends.pure hu.1) fun _ => ?_
  refine Ends.bind (ht.respects (still_prepareRps sps s.currentSlice p)) fun _ u ⟨hu, hcu⟩ => ?_
  refine Ends.bind (dpbInit_goes hu.accounts) fun ret v hv => ?_
  have hmem' : p ∈ v.currentPicture.toList := by rwa [hv.fixed.currentPicture, hcu, hc]
  refine Ends.ite (fun _ => Ends.pure (hu.goes hv)) fun _ => ?_
  exact ((hu.goes hv).respects (still_vkStartPicture hmem' s.currentSlice)).mono fun _ _ ht => ht.1

def setNumber (n : Nat) (p : PicId) (s : Decoder P) : Decoder P :=
  (s.modifyPic p (setSystemFrameNumber n)).setCurrentPicture (some p)

-- a new picture is the current one
lemma Decoding.begin (h : Decoding n s) (hc : s.currentPicture = none) :
    Decoding n (setNumber n s.store.next (s.mapStore fun st => st.pictureNew.2)) := by
  have haccounts : Accounts n [] [] s := by
    have := h.accounts
    rwa [hc] at this
  have hold : ∀ q ∈ s.store.dpb.picList, q ≠ s.store.next := fun q hq => (haccounts.stocked.made q hq).ne
  generalize ht : setNumber n s.store.next (s.mapStore fun st => st.pictureNew.2) = t
  have hpic : ∀ q, q ≠ s.store.next → t.pic q = s.pic q := fun q hq => by
    rw [← ht]
    exact (Function.update_of_ne hq _ _).trans (Function.update_of_ne hq _ _)
  have hlog : t.store.log = s.store.log := by rw [← ht]; rfl
  have hnext : t.store.next = s.store.next + 1 := by rw [← ht]; rfl
  have hlist : t.store.dpb = s.store.dpb := by rw [← ht]; rfl
  have hcurrent : t.currentPicture = some s.store.next := by rw [← ht]; rfl
  have hframe : ∀ m, t.getFrame m = s.getFrame m := fun m => by rw [← ht]; rfl
  have hself : (t.pic s.store.next).systemFrameNumber = n := by
    simp [← ht, setNumber, Decoder.modifyPic, Decoder.setCurrentPicture, Decoder.pic, setSystemFrameNumber]
  have hwait : t.store.waiting = s.store.waiting := by
    rw [Store.waiting, Store.waiting, hlist]
    exact List.filter_congr fun q hq => congrArg Picture.neededForOutput (hpic q (hold q hq))
  have hnumber : ∀ q ∈ s.store.waiting, (t.pic q).systemFrameNumber = (s.pic q).systemFrameNumber := fun q hq =>
    congrArg Picture.systemFrameNumber (hpic q (hold q (List.mem_of_mem_filter hq)))
  have howed : ∀ p, Owed t p → Owed s p := fun p hp => by
    have hdecoded := hlog ▸ hp.decoded
    have hne := (haccounts.made p hdecoded).ne
    refine ⟨hdecoded, hpic p hne ▸ hp.outputFlag, hlog ▸ hp.displayed, fun hd => hp.discarded ?_⟩
    rwa [Discarded, hpic p hne, hlog]
  have hstock : t.store.Stocked [s.store.next] := by
    refine ⟨?_, ?_, ?_⟩
    · rw [hlist]
      exact List.nodup_cons.mpr ⟨fun hq => hold _ hq rfl, haccounts.stocked.nodup⟩
    · rw [hlist, hnext]
      rintro q (_ | ⟨_, hq⟩)
      · exact Nat.lt_succ_self _
      · exact Nat.lt_succ_of_lt (haccounts.stocked.made q hq)
    · rw [hlist, haccounts.stocked.count]
      exact congrArg _ (List.countP_congr fun q hq =>
        iff_of_eq (congrArg (fun x : Picture => x.neededForOutput = true) (hpic q (hold q hq)).symm))
  refine ⟨hcurrent ▸ ⟨hstock, fun p hp => ?_, fun q hq => ?_, fun q hq => ?_, ?_, fun p hp =>
    hwait ▸ haccounts.owed p (howed p hp)⟩,
    hframe n ▸ h.frame, ?_, ?_, fun p hp => ?_, fun p hp => ?_⟩
  · exact (haccounts.made p (hlog ▸ hp)).trans (hnext ▸ Nat.lt_succ_self _)
  · rw [List.nil_append, hwait] at hq
    exact hnumber q hq ▸ haccounts.below q hq
  · rw [List.nil_append, hwait] at hq
    rw [hnumber q hq, hframe]
    exact haccounts.found q hq
  · rw [List.nil_append, hwait, List.map_congr_left hnumber]
    exact haccounts.apart
  · rw [← ht]
    exact h.systemFrameNumber
  · rw [← ht]
    exact h.currentFrame
  · obtain rfl : s.store.next = p := Option.some.inj (hcurrent.symm.trans hp)
    exact hself
  · rw [hcurrent] at hp
    obtain rfl := List.mem_singleton.mp hp
    exact fun ho => (haccounts.made _ (hlog ▸ ho)).ne rfl

lemma beginPicture_decoding (h : Decoding n s) (hc : s.currentPicture = none) :
    Returns (beginPicture env) s fun _ t => Decoding n t := by
  refine Ends.get_bind (Ends.assertOr_bind trivial fun _ => ?_)
  refine Ends.valueOr_bind trivial fun frame hframe => Ends.edit_bind trivial (Ends.modify_bind (Ends.modify_bind ?_))
  have hbegin := h.begin hc
  rw [← h.currentFrame frame hframe] at hbegin
  refine Ends.bind (hbegin.respects (still_vkNewPicture List.mem_cons_self)) fun ret t ⟨ht, _⟩ => ?_
  refine Ends.ite (fun _ => ?_) fun _ => startCurrentPicture_decoding (h.currentFrame frame hframe ▸ ht)
  refine Ends.bind (clearCurrentPicture_decoding ht) fun _ u hu => Ends.pure (h.currentFrame frame hframe ▸ hu.1)

lemma processSlice_decoding (slice : GstH265Slice) (h : Decoding n s) :
    Returns (processSlice env slice) s fun _ t => Decoding n t := by
  have hset : Still s.currentPicture.toList s (s.setSlice slice) := by
    unfold Decoder.setSlice
    split <;> exact still_book rfl rfl rfl rfl rfl
  have hslice := h.still hset
  refine Ends.modify_bind (Ends.get_bind (Ends.ite (fun _ => Ends.pure hslice) fun _ => Ends.modify_bind ?_))
  have hactive : Decoding n ((s.setSlice slice).activate env slice.header.pps) :=
      hslice.still (still_book rfl rfl rfl rfl rfl)
  refine Ends.bind (Q := fun _ t => Decoding n t) ?_ fun ret t ht => Ends.ite (fun _ => Ends.pure ht) fun _ => ?_
  · refine Ends.get_bind (Ends.ite (fun hc => ?_) fun _ => Ends.pure hactive)
    exact beginPicture_decoding hactive (Option.isNone_iff_eq_none.mp hc)
  · refine Ends.get_bind (Ends.ite (fun _ => Ends.pure ht) fun _ => ?_)
    refine (still_decodeSlice fun p hp => ?_).imp (fun _ _ => trivial) fun _ _ hu => ht.still hu
    rw [hp]
    exact List.mem_singleton_self p

lemma decodeNalus_decoding (nalus : List GstH265DecoderNalUnit) (h : Decoding n s) :
    Returns (decodeNalus env nalus) s fun _ t => Decoding n t := by
  induction nalus generalizing s with
  | nil => exact Ends.pure h
  | cons nalu nalus ih =>
    refine Ends.bind (Q := fun _ t => Decoding n t) ?_ fun ret t ht => Ends.ite (fun _ => Ends.pure ht) fun _ => ih ht
    cases nalu with
    | sps sps => exact (processSps_goes sps h.accounts).mono fun _ _ ht => h.goes ht
    | slice slice => exact processSlice_decoding slice h

end Pictures

/-- Between two inputs there is no current picture. -/
structure Resting (s : Decoder P) : Prop where
  accounts : Accounts s.systemFrameNumber [] [] s
  currentPicture : s.currentPicture = none

section Finish

-- the picture that is decoded is at hand, if it is to be output
lemma Accounts.decode {e : Event} (h : Accounts n [p] [] s) (he : e.entry = some (.opened p))
    (hp : (s.pic p).systemFrameNumber = n)
    (hf : (s.getFrame n).isSome) : Accounts (n + 1) [p] [p] (s.emit e) := by
  have hentries : entries (s.emit e).store.log = .opened p :: entries s.store.log := by
    rw [entries, Decoder.emit, Store.emit, List.filterMap_cons, he]
    rfl
  refine ⟨h.stocked, fun q hq => ?_, fun q hq => ?_, fun q hq => ?_, ?_, fun q hq => ?_⟩
  · rw [hentries] at hq
    rcases List.mem_cons.mp hq with hq | hq
    · cases hq
      exact h.stocked.made p List.mem_cons_self
    · exact h.made q hq
  · rcases List.mem_cons.mp hq with rfl | hq
    · exact hp.trans_lt (Nat.lt_succ_self n)
    · exact (h.below q hq).trans (Nat.lt_succ_self n)
  · rcases List.mem_cons.mp hq with rfl | hq
    · exact hp.symm ▸ hf
    · exact h.found q hq
  · refine List.nodup_cons.mpr ⟨fun hm => ?_, h.apart⟩
    obtain ⟨q, hq, heq⟩ := List.mem_map.mp hm
    exact (h.below q hq).ne (heq.trans hp)
  · by_cases hqp : q = p
    · exact hqp ▸ List.mem_cons_self
    · refine List.mem_cons_of_mem p (h.owed q ⟨?_, hq.outputFlag, fun hc => hq.displayed ?_, fun hd => hq.discarded ?_⟩)
      · exact (List.mem_cons.mp (hentries ▸ hq.decoded)).resolve_left fun he => hqp (Entry.opened.inj he)
      · exact hentries ▸ List.mem_cons_of_mem _ hc
      · refine hd.imp (List.mem_cons_of_mem e) ?_
        rintro ⟨m, m', hlog, hm⟩
        exact ⟨e :: m, m', congrArg (e :: ·) hlog, hm⟩

lemma Accounts.store (h : Accounts n [p] (if (s.pic p).outputFlag then [p] else []) s) :
    Accounts n [] [] (s.mapStore (Store.storePicture p)) := by
  have hk := Store.keeps_storePicture p s.store
  have hperm : (s.store.storePicture p).waiting.Perm ((if (s.pic p).outputFlag then [p] else []) ++ s.store.waiting) :=
    (waiting_storePicture h.stocked.notMem).symm ▸ List.perm_append_comm
  exact h.next (fixed_keeps (l := []) hk) (by simp) h.stocked.storePicture hk.next.ge hperm.subperm (fun _ _ => rfl)
    fun q hq _ => hperm.symm.subset hq

lemma releaseUndisplayed_accounts (h : Accounts n [p] [p] s) : Returns (releaseUndisplayed p) s fun _ t =>
    Accounts n [p] (if (t.pic p).outputFlag then [p] else []) t ∧ t.systemFrameNumber = s.systemFrameNumber := by
  refine Ends.get_bind (Ends.ite (fun ho => Ends.valueOr_bind trivial fun frame hframe => Ends.modify ?_) fun ho =>
    Ends.pure ⟨?_, rfl⟩)
  · have ho : (s.pic p).outputFlag = false := by simpa using ho
    have hpass := h.without
        (fixed_removeFrame (e := .releaseFrame frame.systemFrameNumber (.finishPicture p)) rfl frame.systemFrameNumber
          s)
      ⟨rfl, rfl, rfl⟩ rfl (getFrame_number hframe).symm (fun m hm => getFrame_removeFrame hm _ s)
      fun howed => Bool.false_ne_true (ho.symm.trans howed.outputFlag)
    refine ⟨?_, rfl⟩
    have hflag : ((s.removeFrame frame.systemFrameNumber
        (.releaseFrame frame.systemFrameNumber (.finishPicture p))).pic p).outputFlag =
        false := ho
    rw [hflag]
    exact hpass.accounts
  · have ho : (s.pic p).outputFlag = true := by simpa using ho
    rwa [ho]

lemma finishPicture_accounts {sps : GstH265SPS} (h : Accounts n [p] [p] s) :
    Returns (finishPicture env sps p ret) s fun _ t =>
    Accounts n [] [] t ∧ t.systemFrameNumber = s.systemFrameNumber := by
  refine Ends.edit_bind trivial (Ends.bind (releaseUndisplayed_accounts h.deleteUnused) fun _ t ⟨ht, hn⟩ => ?_)
  refine Ends.edit_bind trivial (Ends.get_bind ((bumpWhile_goes ht.store).mono fun _ u hu => ?_))
  exact ⟨hu.accounts, hu.fixed.systemFrameNumber.trans hn⟩

lemma finishCurrentPicture_resting (h : Decoding n s) (hp : s.currentPicture = some p) :
    Returns (finishCurrentPicture env ret) s fun _ t => Resting t := by
  refine Ends.get_bind ?_
  simp only [hp]
  have hmem : p ∈ s.currentPicture.toList := by simp [hp]
  have hend : Returns (vkEndPicture env p) s fun _ t => Accounts (n + 1) [p] [p] t ∧ t.systemFrameNumber = n + 1 := by
    refine Ends.get_bind (Ends.valueOr_bind trivial fun vkpic _ =>
      Ends.modify_bind (Ends.pure ⟨?_, h.systemFrameNumber⟩))
    have hset := h.accounts.still (still_setVkPic hmem (stealBitstream vkpic) s) (List.Subset.refl _) h.undecoded
    rw [hp] at hset
    refine hset.decode rfl ?_ h.frame
    exact ((still_setVkPic hmem (stealBitstream vkpic) s).number p).trans (h.number p hp)
  refine Ends.bind hend fun _ t ⟨ht, hn⟩ => Ends.valueOr_bind trivial fun sps _ => ?_
  refine Ends.bind (finishPicture_accounts ht) fun _ u ⟨hu, hnu⟩ => Ends.modify_bind (Ends.pure ⟨?_, rfl⟩)
  rw [show (u.setCurrentPicture none).systemFrameNumber = n + 1 from hnu.trans hn]
  exact hu.setCurrentPicture none

lemma clearCurrentPicture_resting (h : Accounts s.systemFrameNumber s.currentPicture.toList [] s) :
    Returns clearCurrentPicture s fun _ t => Resting t := by
  refine Ends.get_bind ?_
  split
  · rename_i p hp
    have hunref := h.goes (still_keeps (Store.keeps_unref p s.store) (Store.sameNeeds_unref p s.store))
    exact Ends.edit trivial ⟨(hunref.accounts.setCurrentPicture none).drop, rfl⟩
  · rename_i hp
    rw [hp] at h
    exact Ends.pure ⟨h, hp⟩

-- the frame that is decoded leaves, and all that waits keeps its own
lemma Accounts.removeFrame {e : Event} {m : Nat} (h : Accounts n coming [] s) (he : e.decodes = false) (hm : n ≤ m) :
    Accounts n coming [] (s.removeFrame m e) :=
  h.next (fixed_removeFrame (l := []) he m s) (by simp) h.stocked le_rfl (.refl _)
    (fun q hq => getFrame_removeFrame ((h.below q hq).trans_le hm).ne e s) fun _ hq _ => hq

lemma returns_videoDecoderError_bind {β : Type} {f : GstFlowReturn → DecoderM P β} {R : β → Decoder P → Prop}
    (h : ∀ ret, Returns (f ret) s R) : Returns (videoDecoderError env ret >>= f) s R := by
  unfold videoDecoderError
  split
  · exact h _
  · exact h _

lemma returns_videoDecoderError {Q : Decoder P → Prop} (h : Q s) :
    Returns (videoDecoderError env ret) s fun _ t => Q t := by
  unfold videoDecoderError
  split
  · exact h
  · exact h

lemma endFrame_resting {frame : VideoCodecFrame} (h : Decoding n s) (hframe : frame.systemFrameNumber = n) :
    Returns (endFrame env frame ret) s fun _ t => Resting t := by
  have hremove : ∀ e : Event, e.decodes = false →
      Accounts s.systemFrameNumber s.currentPicture.toList [] (s.removeFrame frame.systemFrameNumber e) := fun e he =>
    (h.accounts.removeFrame he hframe.ge).mono (h.systemFrameNumber ▸ Nat.le_succ n)
  refine Ends.ite (fun _ => returns_videoDecoderError_bind fun _ => Ends.modify_bind ?_) fun _ =>
    Ends.get_bind (Ends.ite (fun hc => ?_) fun hc => ?_)
  · exact Ends.bind (clearCurrentPicture_resting (hremove _ rfl)) fun _ _ ht => Ends.pure ht
  · obtain ⟨p, hp⟩ := Option.isSome_iff_exists.mp hc
    exact Ends.bind (finishCurrentPicture_resting h hp) fun ret t ht => returns_videoDecoderError ht
  · have hnone : s.currentPicture = none := by simpa using hc
    have hrest := hremove (.releaseFrame frame.systemFrameNumber .handleFrame) rfl
    rw [hnone] at hrest
    exact Ends.modify_bind (returns_videoDecoderError ⟨hrest, hnone⟩)

end Finish

section Inputs

lemma Resting.goes (h : Resting s) (ht : Goes s.systemFrameNumber [] s t) : Resting t :=
  ⟨ht.fixed.systemFrameNumber ▸ ht.accounts, ht.fixed.currentPicture.trans h.currentPicture⟩

lemma Resting.still (h : Resting s) (ht : Still [] s t) : Resting t := h.goes (h.accounts.goes ht)

lemma processSps_resting (sps : GstH265SPS) (h : Resting s) : Returns (processSps env sps) s fun _ t => Resting t :=
  (processSps_goes sps h.accounts).mono fun _ _ ht => h.goes ht

lemma parseCodecDataNalu_resting (nalu : GstH265NalUnit) (h : Resting s) :
    Returns (parseCodecDataNalu env nalu) s fun _ t => Resting t := by
  unfold parseCodecDataNalu
  split
  · refine Ends.get_bind (Ends.modify_bind ?_)
    have hparsed := h.still (still_parsed (e := .parserParseVps .codecData (env.parser.parseVps s.parser nalu).1
      (env.parser.parseVps s.parser nalu).2.1) rfl (env.parser.parseVps s.parser nalu).2.2 s)
    exact Ends.ite (fun _ => Ends.pure hparsed) fun _ =>
      Ends.modify_bind (Ends.pure (hparsed.still (still_updateVps _ _)))
  · refine Ends.get_bind (Ends.modify_bind ?_)
    have hparsed := h.still (still_parsed (e := .parserParseSps .codecData (env.parser.parseSps s.parser nalu).1) rfl
      (env.parser.parseSps s.parser nalu).2 s)
    split
    · exact Ends.pure hparsed
    · exact Ends.modify_bind (processSps_resting _ (hparsed.still (still_updateSps _ _)))
  · refine Ends.get_bind (Ends.modify_bind (Ends.pure ?_))
    exact h.still (still_parsed (e := .parserParsePps .codecData _ _) rfl _ s)
  · exact Ends.pure h

lemma parseCodecData_resting (data : List UInt8) (h : Resting s) :
    Returns (parseCodecData env data) s fun _ t => Resting t := by
  have hnalus : ∀ m off s, Resting s → Returns (parseCodecDataNalus env data m off) s fun _ t => Resting t := by
    intro m
    induction m with
    | zero => exact fun _ _ h => Ends.pure h
    | succ m ih =>
      intro off s h
      unfold parseCodecDataNalus
      split
      · exact Ends.pure h
      · exact Ends.bind (parseCodecDataNalu_resting _ h) fun _ _ ht => Ends.ite (fun _ => Ends.pure ht) fun _ =>
          ih _ _ ht
  have harrays : ∀ m off s, Resting s → Returns (parseCodecDataArrays env data m off) s fun _ t => Resting t := by
    intro m
    induction m with
    | zero => exact fun _ _ h => Ends.pure h
    | succ m ih =>
      intro off s h
      refine Ends.ite (fun _ => Ends.pure h) fun _ => Ends.bind (hnalus _ _ _ h) fun _ _ ht => ?_
      exact Ends.ite (fun _ => Ends.pure ht) fun _ => ih _ _ ht
  refine Ends.ite (fun _ => Ends.pure h) fun _ => Ends.ite (fun _ => Ends.pure h) fun _ => Ends.modify_bind ?_
  exact harrays _ _ _ (h.still (still_book rfl rfl rfl rfl rfl))

lemma setFormat_resting (input : InputState) (codecData : Option (List UInt8)) (h : Resting s) :
    Returns (setFormat env input codecData) s fun _ t => Resting t := by
  have hinput : Resting { s with inputState := some input } := h.still (still_book rfl rfl rfl rfl rfl)
  refine Ends.modify_bind ?_
  cases codecData with
  | none => exact Ends.pure hinput
  | some data => exact Ends.bind (parseCodecData_resting data hinput) fun _ _ ht => Ends.pure ht

-- the frame that comes in is decoded from now on
lemma Resting.take (h : Resting s) (duration : Nat) : Decoding s.systemFrameNumber
    ((s.takeFrame duration).resetFrameState.setCurrentFrame
    (some { systemFrameNumber := s.systemFrameNumber, duration })) := by
  have hfound : ∀ m, (s.getFrame m).isSome → ((s.takeFrame duration).getFrame m).isSome := fun m hm => by
    rw [Decoder.getFrame, Decoder.takeFrame, List.find?_append, Option.isSome_or]
    exact Bool.or_eq_true_iff.mpr (.inl hm)
  refine ⟨?_, ?_, rfl, fun f hf => ?_, fun p hp => ?_, fun p hp => ?_⟩
  · rw [show ((s.takeFrame duration).resetFrameState.setCurrentFrame _).currentPicture = none from h.currentPicture]
    exact ⟨h.accounts.stocked, h.accounts.made, h.accounts.below, fun q hq => hfound _ (h.accounts.found q hq),
      h.accounts.apart,
      fun p hp => h.accounts.owed p ⟨hp.1, hp.2, hp.3, hp.4⟩⟩
  · show (List.find? _ (s.frames ++ [_])).isSome
    rw [List.find?_append, Option.isSome_or]
    simp
  · cases hf
    rfl
  · exact absurd (h.currentPicture.symm.trans hp) (by simp)
  · rw [show ((s.takeFrame duration).resetFrameState.setCurrentFrame _).currentPicture = none from h.currentPicture]
      at hp
    exact absurd hp List.not_mem_nil

lemma Decoding.reset (h : Decoding n s) : Decoding n s.resetFrameState :=
  ⟨⟨h.accounts.stocked, h.accounts.made, h.accounts.below, h.accounts.found, h.accounts.apart,
    fun p hp => h.accounts.owed p ⟨hp.1, hp.2, hp.3, hp.4⟩⟩, h.frame, h.systemFrameNumber, fun _ hf => (nomatch hf),
      h.number, h.undecoded⟩

lemma handleFrame_resting (nalus : List GstH265NalUnit) (duration : Nat) (h : Resting s) :
    Returns (step env (.handleFrame nalus duration)) s fun _ t => Resting t := by
  have htake : Returns (takeFrame duration) s fun frame t =>
      t = s.takeFrame duration ∧ frame = { systemFrameNumber := s.systemFrameNumber, duration } :=
    Ends.get_bind (Ends.modify_bind (Ends.pure ⟨rfl, rfl⟩))
  refine Ends.bind htake ?_
  rintro - - ⟨rfl, rfl⟩
  refine Ends.bind (Q := fun _ t => Resting t) (Ends.modify_bind ?_) fun _ _ ht => Ends.pure ht
  have htaken := h.take duration
  refine Ends.bind (htaken.respects (still_parseNalus nalus)) fun _ t ht => Ends.get_bind ?_
  refine Ends.bind (decodeNalus_decoding t.nalu ht.1) fun ret u hu => Ends.modify_bind ?_
  exact endFrame_resting hu.reset rfl

lemma flush_resting (h : Resting s) : Returns flush s fun _ t => Resting t := by
  have hk := Store.keeps_dpbClear (s.emit .flush).store
  have hemit : Fixed [] s (s.emit .flush) := (still_emit rfl s).toFixed
  have hclear : Fixed [] (s.emit .flush) ((s.emit .flush).mapStore Store.dpbClear) := fixed_keeps hk
  have hnone : ∀ p, ¬Owed ((s.emit .flush).mapStore Store.dpbClear) p := fun p hp =>
    hp.discarded (hclear.discarded (.inr ⟨[], s.store.log, rfl, hemit.opened (hclear.opened hp.decoded)⟩))
  refine Ends.modify_bind (Ends.bind (Q := fun _ t => t =
    ((s.emit .flush).mapStore Store.dpbClear).setLastOutputPoc int32Min) ?_ ?_)
  · exact Ends.ite (fun _ => Ends.edit_bind trivial (Ends.modify rfl)) fun h => absurd rfl h
  · rintro - - rfl
    have hwait := waiting_dpbClear (s.emit .flush).store
    have hvacuous : ∀ {Q : PicId → Prop}, ∀ q ∈ [] ++ (s.emit .flush).store.dpbClear.waiting, Q q := by
      intro Q q hq
      rw [hwait] at hq
      exact absurd hq List.not_mem_nil
    refine Ends.modify ⟨⟨Store.Stocked.dpbClear (a := (s.emit .flush).store) h.accounts.stocked, fun p hp => ?_,
      hvacuous, hvacuous, ?_,
      fun p hp => absurd ⟨hp.1, hp.2, hp.3, hp.4⟩ (hnone p)⟩, h.currentPicture⟩
    · exact hk.next.symm ▸ h.accounts.made p (hemit.opened (hclear.opened hp))
    · show (([] ++ (s.emit .flush).store.dpbClear.waiting).map _).Nodup
      rw [hwait]
      exact List.nodup_nil

lemma step_resting (input : Input) (h : Resting s) : Returns (step env input) s fun _ t =>
    Resting t ∧ (input = .drain → t.store.waiting = []) := by
  cases input with
  | setFormat input codecData => exact (setFormat_resting input codecData h).mono fun _ _ ht => ⟨ht, nofun⟩
  | handleFrame nalus duration => exact (handleFrame_resting nalus duration h).mono fun _ _ ht => ⟨ht, nofun⟩
  | flush => exact (flush_resting h).mono fun _ _ ht => ⟨ht, nofun⟩
  | drain => exact Ends.bind (drainInternal_goes h.accounts) fun _ t ht => Ends.pure ⟨h.goes ht.1, fun _ => ht.2⟩

lemma runInputs_resting (inputs : List Input) (h : Resting s) : Returns (runInputs env (inputs ++ [.drain])) s fun _ t =>
    Resting t ∧ t.store.waiting = [] := by
  induction inputs generalizing s with
  | nil => exact Ends.bind (step_resting .drain h) fun _ _ ht => Ends.pure ⟨ht.1, ht.2 rfl⟩
  | cons input inputs ih => exact Ends.bind (step_resting input h) fun _ _ ht => ih ht.1

lemma resting_start : Resting (Decoder.start env) :=
  ⟨⟨⟨List.nodup_nil, fun _ hq => absurd hq List.not_mem_nil, rfl⟩, fun _ hp => absurd hp List.not_mem_nil,
    fun _ hq => absurd hq List.not_mem_nil, fun _ hq => absurd hq List.not_mem_nil, List.nodup_nil,
    fun _ hp => absurd hp.decoded List.not_mem_nil⟩, rfl⟩

end Inputs

/-- At the end of a run that ends with a drain, whatever was in it and whatever the client and the parser replied, each
picture that was decoded and is to be output was displayed once, unless it was discarded. -/
theorem pictures_allDisplayed (env : Env P) (inputs : List Input) (t : Decoder P)
    (h : runInputs env (inputs ++ [.drain]) (Decoder.start env) = .ok () t) (p : PicId)
    (hp : .opened p ∈ entries t.store.log) (ho : (t.pic p).outputFlag) :
    (entries t.store.log).count (.closed p) = 1 ∨ Discarded t p := by
  obtain ⟨hrest, hwait⟩ := (runInputs_resting inputs resting_start).of_eq_ok h
  obtain ⟨k, hreach⟩ := reach_final env (inputs ++ [.drain])
  rw [h, final_ok] at hreach
  have hvalid : Valid (entries t.store.log) := (displaysOnce_reach hreach).valid
  by_cases hc : .closed p ∈ entries t.store.log
  · refine .inl (le_antisymm ?_ (List.count_pos_iff.mpr hc))
    have hcount := hvalid.count_eq p
    have hone := hvalid.count_opened_le_one p
    omega
  · refine .inr (by_contra fun hd => ?_)
    have hmem := hrest.accounts.owed p ⟨hp, ho, hc, hd⟩
    rw [hwait] at hmem
    exact List.not_mem_nil hmem

def drainedEnd : Decoder Tables := final
    (runInputs waitingScript.env (waitingInputs ++ [.drain]) (Decoder.start waitingScript.env))

theorem pictures_allDisplayed_three :
    ((entries drainedEnd.store.log).count (.closed 0) = 1 ∨ Discarded drainedEnd 0) ∧
    ((entries drainedEnd.store.log).count (.closed 1) = 1 ∨ Discarded drainedEnd 1) ∧
    ((entries drainedEnd.store.log).count (.closed 2) = 1 ∨ Discarded drainedEnd 2) ∧
    ∀ p < 3, (entries drainedEnd.store.log).count (.closed p) = 1 := by
  have hdisplayed := fun p hp ho => pictures_allDisplayed waitingScript.env waitingInputs drainedEnd
    (eq_ok_of_completed (by decide +kernel)) p hp ho
  exact ⟨hdisplayed 0 (by decide +kernel) (by decide +kernel), hdisplayed 1 (by decide +kernel) (by decide +kernel),
    hdisplayed 2 (by decide +kernel) (by decide +kernel), by decide +kernel⟩

end VkVideoParser.H265
