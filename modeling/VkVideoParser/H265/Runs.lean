import VkVideoParser.H265.Moves

/-! The functions of the decoder taken apart into moves. -/

namespace VkVideoParser.H265

open Execution Relation

variable {P : Type} {env : Env P} {k k' : Phase} {s t : Decoder P}

section Rules

variable {α β : Type} {Q : β → Phase → Decoder P → Prop}

lemma withStore_bind (k' : Phase) {g : Store → α × Store} {f : α → DecoderM P β}
    (h : Act env (k, s) (k', s.mapStore fun st => (g st).2))
    (hf : Moves (Act env) k' (f (g s.store).1) (s.mapStore fun st => (g st).2) Q) :
    Moves (Act env) k (withStore g >>= f) s Q :=
  Moves.checked_bind k' h fun _ => hf

lemma modifyChecked_bind (k' : Phase) {g : Decoder P → Decoder P} {f : Unit → DecoderM P β}
    (h : Act env (k, s) (k', g s)) (hf : Moves (Act env) k' (f ()) (g s) Q) :
    Moves (Act env) k (modifyChecked g >>= f) s Q :=
  Moves.checked_bind k' h fun _ => hf

lemma modifyChecked_moves (k' : Phase) {g : Decoder P → Decoder P} {Q : Unit → Phase → Decoder P → Prop}
    (h : Act env (k, s) (k', g s)) (hq : Q () k' (g s)) : Moves (Act env) k (modifyChecked g) s Q :=
  Moves.checked k' h fun _ => hq

lemma onStore_bind (k' : Phase) {g : Store → Store} {f : Unit → DecoderM P β}
    (h : Act env (k, s) (k', s.mapStore g)) (hf : Moves (Act env) k' (f ()) (s.mapStore g) Q) :
    Moves (Act env) k (onStore g >>= f) s Q :=
  modifyChecked_bind k' h hf

lemma onStore_moves (k' : Phase) {g : Store → Store} {Q : Unit → Phase → Decoder P → Prop}
    (h : Act env (k, s) (k', s.mapStore g)) (hq : Q () k' (s.mapStore g)) :
    Moves (Act env) k (onStore g) s Q :=
  modifyChecked_moves k' h hq

lemma bind_linked {m : DecoderM P α} {f : α → DecoderM P β} {Q : α → Phase → Decoder P → Prop}
    {Q' : β → Phase → Decoder P → Prop} (hs : Linked (k, s)) (hm : Moves (Act env) k m s Q)
    (hf : ∀ a k' s', Linked (k', s') → Q a k' s' → Moves (Act env) k' (f a) s' Q') :
    Moves (Act env) k (m >>= f) s Q' :=
  Moves.bind_kept (I := Linked) (fun _ _ h => h.linked) hs hm hf

lemma book_refl : Act env (k, s) (k, s) := .book (by constructor <;> rfl)

end Rules

/-- What leaves the sets, and of every picture all but its marks. -/
structure Calm (s t : Decoder P) : Prop where
  pic : ∀ q, SameContent (s.pic q) (t.pic q)
  refPicSets : t.refPicSets = s.refPicSets
  fieldSeqFlag : t.fieldSeqFlag = s.fieldSeqFlag
  active : t.activeSps = s.activeSps ∧ t.parser = s.parser

/-- An output leaves the DPB and the references, too. -/
structure Outputs (s t : Decoder P) : Prop extends Calm s t where
  dpb : t.store.dpb = s.store.dpb
  ref : ∀ q, (t.pic q).ref = (s.pic q).ref

lemma Calm.refl (s : Decoder P) : Calm s s := ⟨fun _ => .refl _, rfl, rfl, rfl, rfl⟩

lemma Calm.trans {u : Decoder P} (h : Calm s t) (h' : Calm t u) : Calm s u :=
  ⟨fun q => (h.pic q).trans (h'.pic q), h'.refPicSets.trans h.refPicSets, h'.fieldSeqFlag.trans h.fieldSeqFlag,
    h'.active.1.trans h.active.1, h'.active.2.trans h.active.2⟩

lemma sps_of_active (h : t.activeSps = s.activeSps ∧ t.parser = s.parser) : t.sps env = s.sps env := by
  rw [Decoder.sps, Decoder.sps, h.1, h.2]

lemma Calm.limitsOf {site : BumpSite} {a b : Nat} (h : Calm s t) (hs : LimitsOf env s site a b) :
    LimitsOf env t site a b := by
  rw [LimitsOf, sps_of_active h.active]
  exact hs

lemma Outputs.trans {u : Decoder P} (h : Outputs s t) (h' : Outputs t u) : Outputs s u :=
  ⟨h.toCalm.trans h'.toCalm, h'.dpb.trans h.dpb, fun q => (h'.ref q).trans (h.ref q)⟩

lemma Outputs.keepsRefs (h : Outputs s t) : Store.KeepsRefs s.store t.store :=
  Store.keepsRefs_of_eq (congrArg Dpb.picList h.dpb) h.ref

lemma calm_keeps {f : Store → Store} (h : Store.Keeps s.store (f s.store)) : Calm s (s.mapStore f) :=
  ⟨h.pic, rfl, rfl, rfl, rfl⟩

lemma outputs_of_eq (hp : t.store.pic = s.store.pic) (hd : t.store.dpb = s.store.dpb) (hr : t.refPicSets = s.refPicSets)
    (hf : t.fieldSeqFlag = s.fieldSeqFlag) (ha : t.activeSps = s.activeSps) (hparser : t.parser = s.parser) :
    Outputs s t := by
  have hpic : ∀ q, t.pic q = s.pic q := fun q => congrFun hp q
  exact ⟨⟨fun q => hpic q ▸ .refl _, hr, hf, ha, hparser⟩, hd, fun q => by rw [hpic]⟩

lemma outputs_unref (p : PicId) (s : Decoder P) : Outputs s (s.mapStore (Store.unref p)) :=
  ⟨calm_keeps (Store.keeps_unref p _), Store.unref_dpb p _, fun q => Store.ref_unref p q _⟩

section Output

lemma getFrame_number {n : Nat} {frame : VideoCodecFrame} (h : s.getFrame n = some frame) :
    frame.systemFrameNumber = n := by
  simpa using List.find?_some h

lemma unref_systemFrameNumber (p q : PicId) (s : Decoder P) :
    ((s.mapStore (Store.unref p)).pic q).systemFrameNumber = (s.pic q).systemFrameNumber := by
  obtain ⟨_, _, _, _, _, hq⟩ := (Store.keeps_unref p s.store).pic q
  exact (congrArg Picture.systemFrameNumber hq :)

lemma vkOutputPicture_moves {p : PicId} {frame : VideoCodecFrame} (hp : (.output, p) ∈ k.hold)
    (hf : s.getFrame (s.pic p).systemFrameNumber = some frame) :
    Moves (Act env) k (vkOutputPicture env frame p) s fun _ k' s' => k' = k.drop .output p ∧ Outputs s s' := by
  refine Moves.get_bind (Moves.valueOr_bind fun vkpic hv => ?_)
  refine Moves.modify_bind _ (.display p vkpic frame hp hv hf) ?_
  refine onStore_bind _ (.unref (r := .loose) p (by simp [Phase.turn, Phase.take]) (.inr rfl)) ?_
  have hout : Outputs s ((s.displayPicture env p vkpic frame).mapStore (Store.unref p)) :=
    (outputs_of_eq rfl rfl rfl rfl rfl rfl : Outputs s (s.displayPicture env p vkpic frame)).trans (outputs_unref p _)
  refine Moves.ite (fun _ => ?_) fun _ => ?_
  · refine Moves.get_bind (Moves.modify_bind _ ?_ (Moves.pure ⟨Phase.shown_dropped, hout.trans ?_⟩))
    swap
    · exact outputs_of_eq rfl rfl rfl rfl rfl rfl
    rw [(getFrame_number hf).trans (unref_systemFrameNumber p p (s.displayPicture env p vkpic frame)).symm]
    exact .finishFrame p _ (by simp [Phase.turn, Phase.take, Phase.drop])
  · refine Moves.step (.forgetShown p ?_) (Moves.pure ⟨Phase.shown_dropped, hout⟩)
    simp [Phase.turn, Phase.take, Phase.drop]

lemma book_setLastOutputPoc (n : Int) : Act env (k, s) (k, s.setLastOutputPoc n) :=
  .book (by constructor <;> rfl)

lemma doOutputPicture_moves {p : PicId} {ret : GstFlowReturn} (hp : (.output, p) ∈ k.hold) :
    Moves (Act env) k (doOutputPicture env p ret) s fun _ k' s' => k' = k.drop .output p ∧ Outputs s s' := by
  have hset : Outputs s (s.setLastOutputPoc (s.pic p).picOrderCnt) := outputs_of_eq rfl rfl rfl rfl rfl rfl
  refine Moves.get_bind (Moves.modify_bind _ (book_setLastOutputPoc _) ?_)
  cases hf : s.getFrame (s.pic p).systemFrameNumber with
  | none => exact onStore_bind _ (.unref p hp (.inl rfl)) (Moves.pure ⟨rfl, hset.trans (outputs_unref p _)⟩)
  | some frame =>
    refine Moves.bind (vkOutputPicture_moves (s := s.setLastOutputPoc (s.pic p).picOrderCnt) hp hf) ?_
    rintro flow k' s' - ⟨rfl, h⟩
    exact Moves.pure ⟨rfl, hset.trans h⟩

lemma mapStore_of_eq {f : Store → Store} (h : f s.store = s.store) : s.mapStore f = s := by
  rw [Decoder.mapStore, h]

lemma bump_bind {β : Type} {drain : Bool} {f : Option PicId → DecoderM P β} {Q : β → Phase → Decoder P → Prop}
    (hn : s.store.dpbGetLowestOutputNeededPicture = none → Moves (Act env) k (f none) s Q)
    (hs : ∀ p, (s.store.dpbBump drain).1 = some p →
      Moves (Act env) (k.take .output p) (f (some p)) (s.mapStore fun st => (st.dpbBump drain).2) Q) :
    Moves (Act env) k (withStore (Store.dpbBump drain) >>= f) s Q := by
  cases hb : (s.store.dpbBump drain).1 with
  | none =>
    obtain ⟨hl, he⟩ := Store.bump_eq_none hb
    have hsame : s.mapStore (fun st => (st.dpbBump drain).2) = s := mapStore_of_eq he
    refine withStore_bind k ?_ ?_
    · rw [hsame]
      exact book_refl
    · rw [hsame, hb]
      exact hn hl
  | some p =>
    refine withStore_bind (k.take .output p) (.bump drain p hb) ?_
    rw [hb]
    exact hs p hb

lemma bumpAll_moves (drain : Bool) (fuel : Nat) (ret : GstFlowReturn) :
    Moves (Act env) k (bumpAll env drain fuel ret) s fun _ k' s' => k' = k ∧ Calm s s' ∧
      (drain = false → Store.KeepsRefs s.store s'.store) ∧
      (drain → s.store.dpb.picList.length < fuel → s'.store.dpbGetLowestOutputNeededPicture = none) := by
  induction fuel generalizing k s ret with
  | zero => exact Moves.pure ⟨rfl, .refl s, fun _ _ hq => hq, fun _ h => absurd h (Nat.not_lt_zero _)⟩
  | succ fuel ih =>
    refine bump_bind (fun hl => Moves.pure ⟨rfl, .refl s, fun _ _ hq => hq, fun _ _ => hl⟩) fun p hb => ?_
    refine Moves.bind (doOutputPicture_moves (p := p) (by simp [Phase.take])) ?_
    rintro ret' k' t - ⟨rfl, hout⟩
    rw [Phase.drop_take]
    refine (ih ret').mono ?_
    rintro _ k' u ⟨rfl, hcalm, hrefs, hl⟩
    refine ⟨rfl, ((calm_keeps (Store.keeps_dpbBump drain _)).trans hout.toCalm).trans hcalm, ?_, fun hdrain hlt => hl hdrain ?_⟩
    · rintro rfl
      exact ((Store.keepsRefs_dpbBump s.store).trans hout.keepsRefs).trans (hrefs rfl)
    · subst hdrain
      have hless := Store.bump_length hb
      rw [hout.dpb]
      exact Nat.lt_of_lt_of_le hless (Nat.lt_succ_iff.mp hlt)

lemma emptyDpb_moves (h : s.store.dpbGetLowestOutputNeededPicture = none ∨ k.flushing) :
    Moves (Act env) k emptyDpb s fun _ k' s' => k' = k ∧ Calm s s' ∧ s'.store.dpb.picList = [] := by
  have hclear : Calm s (s.mapStore Store.dpbClear) := calm_keeps (Store.keeps_dpbClear _)
  refine onStore_bind k (.dpbClear h) ?_
  refine Moves.modify k (book_setLastOutputPoc _) ⟨rfl, hclear.trans ⟨fun _ => .refl _, rfl, rfl, rfl, rfl⟩, ?_⟩
  exact Store.dpbClear_picList _

lemma drainInternal_moves :
    Moves (Act env) k (drainInternal env) s fun _ k' s' => k' = k ∧ s'.store.dpb.picList = [] := by
  refine Moves.get_bind (Moves.bind (bumpAll_moves true _ _) ?_)
  rintro ret k' t - ⟨rfl, -, -, hl⟩
  refine Moves.bind (emptyDpb_moves (.inl (hl rfl (Nat.lt_succ_self _)))) ?_
  rintro - k' u - ⟨rfl, -, h⟩
  exact Moves.pure ⟨rfl, h⟩

lemma releasePicture_moves {p : PicId} (hp : (.output, p) ∈ k.hold) :
    Moves (Act env) k (releasePicture p) s fun _ k' s' => k' = k.drop .output p ∧ Outputs s s' := by
  refine Moves.get_bind ?_
  cases hf : s.getFrame (s.pic p).systemFrameNumber with
  | none => exact onStore_moves _ (.unref p hp (.inl rfl)) ⟨rfl, outputs_unref p s⟩
  | some frame =>
    have hrel : Outputs s
        (s.removeFrame frame.systemFrameNumber (.releaseFrame frame.systemFrameNumber (.clearDpb p))) :=
      outputs_of_eq rfl rfl rfl rfl rfl rfl
    refine Moves.modify_bind k (.removeFrame ?_) (onStore_moves _ (.unref p hp (.inl rfl)) ⟨rfl, hrel.trans (outputs_unref p _)⟩)
    rw [getFrame_number hf]
    exact .cleared hp

lemma releaseAll_moves (fuel : Nat) :
    Moves (Act env) k (releaseAll fuel) s fun _ k' s' => k' = k ∧ Calm s s' ∧
      (s.store.dpb.picList.length < fuel → s'.store.dpbGetLowestOutputNeededPicture = none) := by
  induction fuel generalizing s with
  | zero => exact Moves.pure ⟨rfl, .refl s, fun h => absurd h (Nat.not_lt_zero _)⟩
  | succ fuel ih =>
    refine bump_bind (fun hl => Moves.pure ⟨rfl, .refl s, fun _ => hl⟩) fun p hb => ?_
    refine Moves.bind (releasePicture_moves (p := p) (by simp [Phase.take])) ?_
    rintro - k' t - ⟨rfl, hout⟩
    rw [Phase.drop_take]
    refine ih.mono ?_
    rintro _ k' u ⟨rfl, hcalm, hl⟩
    refine ⟨rfl, ((calm_keeps (Store.keeps_dpbBump true _)).trans hout.toCalm).trans hcalm, fun hlt => hl ?_⟩
    have hless := Store.bump_length hb
    rw [hout.dpb]
    exact Nat.lt_of_lt_of_le hless (Nat.lt_succ_iff.mp hlt)

lemma clearDpb_moves {flush : Bool} (h : flush → k.flushing) :
    Moves (Act env) k (clearDpb flush) s fun _ k' s' => k' = k ∧ Calm s s' ∧ s'.store.dpb.picList = [] := by
  refine Moves.ite (fun hf => emptyDpb_moves (.inr (h hf))) fun _ => Moves.get_bind (Moves.bind (releaseAll_moves _) ?_)
  rintro - k' t - ⟨rfl, hcalm, hl⟩
  refine (emptyDpb_moves (.inl (hl (Nat.lt_succ_self _)))).mono ?_
  rintro - k' u ⟨rfl, hempty, hnil⟩
  exact ⟨rfl, hcalm.trans hempty, hnil⟩

lemma bumpWhile_moves {site : BumpSite} {maxNumReorderPics maxDecPicBuffering : Nat} (fuel : Nat) (ret : GstFlowReturn)
    (hs : LimitsOf env s site maxNumReorderPics maxDecPicBuffering) :
    Moves (Act env) k (bumpWhile env site maxNumReorderPics maxDecPicBuffering fuel ret) s fun _ k' s' =>
      k' = k ∧ Calm s s' ∧ Store.KeepsRefs s.store s'.store := by
  induction fuel generalizing s ret with
  | zero => exact Moves.pure ⟨rfl, .refl s, fun _ hq => hq⟩
  | succ fuel ih =>
    have hemit : Outputs s (s.emit (.bumping (s.bumpInfo env site maxNumReorderPics maxDecPicBuffering))) :=
      outputs_of_eq rfl rfl rfl rfl rfl rfl
    have hnone : k = k ∧ Calm s _ ∧ Store.KeepsRefs s.store _ := ⟨rfl, hemit.toCalm, hemit.keepsRefs⟩
    refine Moves.get_bind (Moves.modify_bind k (.showBumping _ _ _ hs) (Moves.fromExcept_bind fun b _ => ?_))
    refine Moves.ite (fun _ => bump_bind (fun _ => Moves.pure hnone) fun p hb => ?_) fun _ => Moves.pure hnone
    refine Moves.bind (doOutputPicture_moves (p := p) (by simp [Phase.take])) ?_
    rintro ret' k' t - ⟨rfl, hout⟩
    rw [Phase.drop_take]
    have hbump := (hemit.toCalm.trans (calm_keeps (Store.keeps_dpbBump false _))).trans hout.toCalm
    refine (ih ret' (hbump.limitsOf hs)).mono ?_
    rintro _ k' u ⟨rfl, hcalm, hrefs⟩
    refine ⟨rfl, hbump.trans hcalm, ?_⟩
    exact ((hemit.keepsRefs.trans (Store.keepsRefs_dpbBump _)).trans hout.keepsRefs).trans hrefs

end Output

section ParameterSets

lemma leaveSequence_moves :
    Moves (Act env) k (leaveSequence env) s fun _ k' s' => k' = k ∧ s'.store.dpb.picList = [] := by
  refine Moves.get_bind (Moves.ite (fun _ => Moves.bind (clearDpb_moves (by simp)) ?_) fun _ => drainInternal_moves)
  rintro - k' t - ⟨rfl, -, h⟩
  exact Moves.pure ⟨rfl, h⟩

lemma newSequence_moves (sps : GstH265SPS) (hs : s.store.dpb.picList = []) :
    Moves (Act env) k (newSequence env sps (maxDpbSizeOf sps)) s fun ret k' _ =>
      ret = .ok ∧ k' = k.setBegun (some sps) :=
  Moves.get_bind (Moves.valueOr_bind fun input _ => Moves.modify_bind _ (.beginSequence sps input hs)
    (Moves.pure ⟨rfl, rfl⟩))

lemma sameSequence_configure (sps : GstH265SPS) (s : Decoder P) : sameSequence (s.configure sps) sps := by
  simp [sameSequence, Decoder.configure]

lemma changeSequence_moves (sps : GstH265SPS) :
    Moves (Act env) k (changeSequence env sps) s fun ret k' s' =>
      (ret = .ok → k' = k.setBegun (some sps) ∧ sameSequence s' sps) ∧ (ret ≠ .ok → k' = k) := by
  refine Moves.bind leaveSequence_moves ?_
  rintro ret k₁ t - ⟨rfl, ht⟩
  refine Moves.ite (fun hne => Moves.pure ⟨fun h => absurd h hne, fun _ => rfl⟩) fun _ => ?_
  refine Moves.bind (newSequence_moves sps ht) ?_
  rintro _ k₂ u - ⟨rfl, rfl⟩
  refine Moves.ite (fun hne => absurd rfl hne) fun _ => ?_
  refine Moves.modify_bind _ (.configure sps rfl) (Moves.pure ⟨fun _ => ⟨rfl, ?_⟩, fun hne => absurd rfl hne⟩)
  exact sameSequence_configure sps u

lemma changeSequenceIfNew_moves (sps : GstH265SPS) :
    Moves (Act env) k (changeSequenceIfNew env sps) s fun ret k' s' =>
      (ret = .ok → (k' = k ∨ k' = k.setBegun (some sps)) ∧ sameSequence s' sps) ∧ (ret ≠ .ok → k' = k) := by
  refine Moves.get_bind (Moves.ite (fun h => Moves.pure ⟨fun _ => ⟨.inl rfl, h⟩, fun _ => rfl⟩) fun _ => ?_)
  exact (changeSequence_moves sps).mono fun _ _ _ h => ⟨fun hok => ⟨.inr (h.1 hok).1, (h.1 hok).2⟩, h.2⟩

lemma setLatency_eq (sps : GstH265SPS) (s : Decoder P) : ∃ n, s.setLatency sps = s.withLatency n := by
  unfold Decoder.setLatency
  split
  · exact ⟨_, rfl⟩
  · exact ⟨s.spsMaxLatencyPictures, rfl⟩

lemma processSps_moves (sps : GstH265SPS) (hb : k.begun = none) :
    Moves (Act env) k (processSps env sps) s fun _ k' _ => k' = k := by
  refine Moves.bind (changeSequenceIfNew_moves sps) ?_
  rintro ret k₁ t - ⟨hok, herr⟩
  refine Moves.ite (fun hne => Moves.pure (herr hne)) fun hret => ?_
  obtain ⟨hk, hsame⟩ := hok (by simpa using hret)
  have hbegun : k₁.begun = none ∨ k₁.begun = some sps := by
    rcases hk with rfl | rfl
    · exact .inl hb
    · exact .inr rfl
  have hback : k₁.setBegun none = k := by
    rcases hk with rfl | rfl
    · exact Phase.setBegun_of_eq hb
    · exact Phase.setBegun_of_eq hb
  obtain ⟨n, hn⟩ := setLatency_eq sps t
  have hend : Act env (k₁, t) (k₁.setBegun none, (t.setLatency sps).emit (.processSps sps)) := by
    rw [hn]
    exact .processSps sps hbegun hsame hn
  exact Moves.modify_bind _ hend (Moves.pure hback)

lemma parseVps_moves (nalu : GstH265NalUnit) (hk : k.current = .none) :
    Moves (Act env) k (parseVps env nalu) s fun _ k' s' => k' = k ∧ s'.nalu = s.nalu := by
  have hact : Act env (k, s) (k, _) :=
    .updateVps .inBand (env.parser.parseVps s.parser nalu).2.1 nalu (env.parser.parseVps s.parser nalu).2.2 hk rfl
      (by simp)
  exact Moves.prepend (.single hact) (m := pure _) (Moves.pure ⟨rfl, rfl⟩) rfl

lemma parsePps_moves (nalu : GstH265NalUnit) (hk : k.current = .none) :
    Moves (Act env) k (parsePps env nalu) s fun _ k' s' => k' = k ∧ s'.nalu = s.nalu := by
  have hact : Act env (k, s) (k, _) :=
    .updatePps (env.parser.parsePps s.parser nalu).2.1 nalu (env.parser.parsePps s.parser nalu).2.2 hk rfl
  exact Moves.prepend (.single hact) (m := pure _) (Moves.pure ⟨rfl, rfl⟩) rfl

lemma book_queue (nalu : GstH265DecoderNalUnit) : Act env (k, s) (k, s.queue nalu) := .book (by constructor <;> rfl)

lemma parseSps_moves (nalu : GstH265NalUnit) (hk : k.current = .none) :
    Moves (Act env) k (parseSps env nalu) s fun _ k' s' => k' = k ∧
      (s'.nalu = s.nalu ∨ ∃ sps, s'.nalu = s.nalu ++ [.sps sps]) := by
  refine Moves.get_bind ?_
  rcases hparse : env.parser.parseSps s.parser nalu with ⟨result, parser⟩
  cases result with
  | none => exact Moves.modify_bind k (.parsed parser (.sps .inBand)) (Moves.pure ⟨rfl, .inl rfl⟩)
  | some sps =>
    have hact : Act env (k, s) (k, _) := .updateSps .inBand sps nalu parser hk hparse
    refine Moves.prepend ((ReflTransGen.single hact).tail (book_queue _)) (m := pure true) (Moves.pure ⟨rfl, ?_⟩) rfl
    exact .inr ⟨sps, rfl⟩

lemma parseCodecDataNalu_moves (nalu : GstH265NalUnit) (hb : k.begun = none) (hk : k.current = .none) :
    Moves (Act env) k (parseCodecDataNalu env nalu) s fun _ k' _ => k' = k := by
  unfold parseCodecDataNalu
  split
  · refine Moves.get_bind ?_
    rcases hparse : env.parser.parseVps s.parser nalu with ⟨ok, vps, parser⟩
    cases ok with
    | false => exact Moves.modify_bind k (.parsed parser (.vps vps)) (Moves.pure rfl)
    | true =>
      have hact : Act env (k, s) (k, _) := .updateVps .codecData vps nalu parser hk hparse fun _ => rfl
      exact Moves.prepend (.single hact) (m := pure .ok) (Moves.pure rfl) rfl
  · refine Moves.get_bind ?_
    rcases hparse : env.parser.parseSps s.parser nalu with ⟨result, parser⟩
    cases result with
    | none => exact Moves.modify_bind k (.parsed parser (.sps .codecData)) (Moves.pure rfl)
    | some sps =>
      have hact : Act env (k, s) (k, _) := .updateSps .codecData sps nalu parser hk hparse
      exact Moves.prepend (.single hact) (processSps_moves sps hb) rfl
  · refine Moves.get_bind ?_
    obtain ⟨ok, pps, parser⟩ := env.parser.parsePps s.parser nalu
    exact Moves.modify_bind k (.parsed parser (.pps ok pps)) (Moves.pure rfl)
  · exact Moves.pure rfl

lemma parseCodecDataNalus_moves (data : List UInt8) (n off : Nat) (hb : k.begun = none) (hk : k.current = .none) :
    Moves (Act env) k (parseCodecDataNalus env data n off) s fun _ k' _ => k' = k := by
  induction n generalizing s off with
  | zero => exact Moves.pure rfl
  | succ n ih =>
    unfold parseCodecDataNalus
    split
    · exact Moves.pure rfl
    · rename_i nalu next _
      refine Moves.bind (parseCodecDataNalu_moves nalu hb hk) ?_
      rintro ret k₁ t - rfl
      exact Moves.ite (fun _ => Moves.pure rfl) fun _ => ih next

lemma parseCodecDataArrays_moves (data : List UInt8) (n off : Nat) (hb : k.begun = none) (hk : k.current = .none) :
    Moves (Act env) k (parseCodecDataArrays env data n off) s fun _ k' _ => k' = k := by
  induction n generalizing s off with
  | zero => exact Moves.pure rfl
  | succ n ih =>
    refine Moves.ite (fun _ => Moves.pure rfl) fun _ => Moves.bind (parseCodecDataNalus_moves data _ _ hb hk) ?_
    rintro ⟨ret, next⟩ k₁ t - rfl
    exact Moves.ite (fun _ => Moves.pure rfl) fun _ => ih next

lemma parseCodecData_moves (data : List UInt8) (hb : k.begun = none) (hk : k.current = .none) :
    Moves (Act env) k (parseCodecData env data) s fun _ k' _ => k' = k := by
  refine Moves.ite (fun _ => Moves.pure rfl) fun _ => Moves.ite (fun _ => Moves.pure rfl) fun _ => ?_
  exact Moves.modify_bind k (.book (by constructor <;> rfl)) (parseCodecDataArrays_moves data _ _ hb hk)

end ParameterSets

section Parsing

lemma setPicStructs_eq (l : List GstH265SEIPicStructType) (s : Decoder P) :
    ∃ picStruct, l.foldl (fun s picStruct => s.setPicStruct picStruct) s = s.setPicStruct picStruct := by
  induction l generalizing s with
  | nil => exact ⟨s.curPicStruct, rfl⟩
  | cons x l ih =>
    obtain ⟨y, hy⟩ := ih (s.setPicStruct x)
    exact ⟨y, hy⟩

lemma book_setPicStructs (l : List GstH265SEIPicStructType) :
    Act env (k, s) (k, l.foldl (fun s picStruct => s.setPicStruct picStruct) s) := by
  obtain ⟨picStruct, h⟩ := setPicStructs_eq l s
  rw [h]
  exact .book (by constructor <;> rfl)

/-- The slices that wait to be decoded clear the DPB at random access only. -/
def QueueSound (s : Decoder P) : Prop := ∀ slice, GstH265DecoderNalUnit.slice slice ∈ s.nalu → slice.ClearsRight

lemma QueueSound.of_eq (hs : QueueSound s) (h : t.nalu = s.nalu) : QueueSound t := by
  rw [QueueSound, h]
  exact hs

lemma clearsRight_sliceOf (s : Decoder P) (header : GstH265SliceHdr) (nalu : GstH265NalUnit) :
    (sliceOf s header nalu).ClearsRight := by
  intro h
  simp only [sliceOf, Bool.and_eq_true] at h
  exact h.1

lemma parseSlice_moves (nalu : GstH265NalUnit) (hq : QueueSound s) :
    Moves (Act env) k (parseSlice env nalu) s fun _ k' s' => k' = k ∧ QueueSound s' := by
  refine Moves.get_bind ?_
  split
  · exact Moves.modify_bind k (.book (by constructor <;> rfl)) (Moves.pure ⟨rfl, hq⟩)
  · refine Moves.modify_bind k (.book (by constructor <;> rfl)) (Moves.pure ⟨rfl, fun slice hm => ?_⟩)
    rcases List.mem_append.mp hm with hm | hm
    · exact hq slice hm
    · cases List.mem_singleton.mp hm
      exact clearsRight_sliceOf s _ nalu

lemma queueSound_setPicStructs (l : List GstH265SEIPicStructType) (hq : QueueSound s) :
    QueueSound (l.foldl (fun s picStruct => s.setPicStruct picStruct) s) := by
  obtain ⟨picStruct, h⟩ := setPicStructs_eq l s
  rw [h]
  exact hq

lemma parseNalu_moves (nalu : GstH265NalUnit) (hk : k.current = .none) (hq : QueueSound s) :
    Moves (Act env) k (parseNalu env nalu) s fun _ k' s' => k' = k ∧ QueueSound s' := by
  unfold parseNalu
  split
  · exact (parseVps_moves nalu hk).mono fun _ _ _ h => ⟨h.1, hq.of_eq h.2⟩
  · refine (parseSps_moves nalu hk).mono ?_
    rintro _ k' t ⟨rfl, h | ⟨sps, h⟩⟩
    · exact ⟨rfl, hq.of_eq h⟩
    · refine ⟨rfl, fun slice hm => hq slice ?_⟩
      simpa [h] using hm
  · exact (parsePps_moves nalu hk).mono fun _ _ _ h => ⟨h.1, hq.of_eq h.2⟩
  · exact Moves.modify_bind k (book_setPicStructs _) (Moves.pure ⟨rfl, queueSound_setPicStructs _ hq⟩)
  · exact Moves.modify_bind k (book_setPicStructs _) (Moves.pure ⟨rfl, queueSound_setPicStructs _ hq⟩)
  · exact Moves.modify_bind k (.book (by constructor <;> rfl)) (Moves.pure ⟨rfl, hq⟩)
  · exact Moves.modify_bind k (.book (by constructor <;> rfl)) (Moves.pure ⟨rfl, hq⟩)
  · exact Moves.pure ⟨rfl, hq⟩
  · exact Moves.modify_bind k (.unhandledNALU nalu.data) (Moves.pure ⟨rfl, hq⟩)
  · exact parseSlice_moves nalu hq

lemma parseNalus_moves (nalus : List GstH265NalUnit) (hk : k.current = .none) (hq : QueueSound s) :
    Moves (Act env) k (parseNalus env nalus) s fun _ k' s' => k' = k ∧ QueueSound s' := by
  induction nalus generalizing s with
  | nil => exact Moves.pure ⟨rfl, hq⟩
  | cons nalu nalus ih =>
    refine Moves.bind (parseNalu_moves nalu hk hq) ?_
    rintro ok k₁ t - ⟨rfl, ht⟩
    exact Moves.ite (fun _ => ih ht) fun _ => Moves.pure ⟨rfl, ht⟩

end Parsing

section Start

variable {p : PicId}

lemma modifyPicture_bind {β : Type} {f : Picture → Picture} {g : Unit → DecoderM P β} {Q : β → Phase → Decoder P → Prop}
    (hk : k.current = .made p ∨ k.current = .starting p) (hf : Edit f)
    (hg : Moves (Act env) k (g ()) (s.modifyPic p f) Q) : Moves (Act env) k (modifyPicture p f >>= g) s Q :=
  Moves.modify_bind k (.edit p hk hf) hg

lemma edit_fillFromSlice (b : Bool) (slice : GstH265Slice) : Edit (fillFromSlice b slice) := by
  constructor <;> intro x <;> rfl

lemma edit_setPoc (poc lsb : Int) : Edit (setPoc poc lsb) := by
  constructor <;> intro x <;> rfl

lemma edit_setSystemFrameNumber (n : Nat) : Edit (setSystemFrameNumber n) := by
  constructor <;> intro x <;> rfl

lemma edit_setBufferFlags (fieldSeqFlag : Bool) (picStruct : GstH265SEIPicStructType) :
    Edit fun x => setBufferFlags fieldSeqFlag { x with picStruct } := by
  constructor <;> intro x <;> simp only [setBufferFlags] <;> split <;> first | rfl | (split <;> rfl)

lemma modifyPic_keeps {α : Type} {g : Picture → α} {f : Picture → Picture} (h : ∀ x, g (f x) = g x) (p q : PicId)
    (s : Decoder P) : g ((s.modifyPic p f).pic q) = g (s.pic q) := by
  rw [Decoder.pic, Decoder.modifyPic, Store.modifyPic_pic]
  split
  · rename_i hq
    rw [h, hq]
    rfl
  · rfl

/-- The flags of the pictures and those of the slice do not change with the order count. -/
structure SameFlags (s t : Decoder P) : Prop where
  bufferFlags : ∀ q, (t.pic q).bufferFlags = (s.pic q).bufferFlags
  noRaslOutputFlag : ∀ q, (t.pic q).noRaslOutputFlag = (s.pic q).noRaslOutputFlag
  fieldSeqFlag : t.fieldSeqFlag = s.fieldSeqFlag
  active : t.activeSps = s.activeSps ∧ t.parser = s.parser

lemma sameFlags_setPoc (poc lsb : Int) (p : PicId) (s : Decoder P) : SameFlags s (s.modifyPic p (setPoc poc lsb)) :=
  ⟨fun q => modifyPic_keeps (g := Picture.bufferFlags) (f := setPoc poc lsb) (fun _ => rfl) p q s,
    fun q => modifyPic_keeps (g := Picture.noRaslOutputFlag) (f := setPoc poc lsb) (fun _ => rfl) p q s, rfl, rfl, rfl⟩

lemma modifyPic_self (f : Picture → Picture) (p : PicId) (s : Decoder P) : (s.modifyPic p f).pic p = f (s.pic p) :=
  (Store.modifyPic_pic p p f s.store).trans (if_pos rfl)

lemma calculatePoc_moves (sps : GstH265SPS) (slice : GstH265Slice) (hk : k.current = .starting p) :
    Moves (Act env) k (calculatePoc sps slice p) s fun _ k' s' => k' = k ∧ SameFlags s s' := by
  have hnote : ∀ {poc lsb : Int} {m : DecoderM P Unit} (msb : Int),
      let t := s.modifyPic p (setPoc poc lsb)
      let info : OrderInfo := { sps, slice, picture := t.pic p }
      Counted t info msb → m t = .ok () ((t.emit (.orderCount info)).noteOrder info msb) →
      Moves (Act env) k m t fun _ k' s' => k' = k ∧ SameFlags s s' := by
    intro poc lsb m msb t info h hm
    have hpoc := sameFlags_setPoc poc lsb p s
    refine Moves.prepend (.single (.showOrderCount info msb h)) (m := pure ()) (Moves.pure ⟨rfl, ?_⟩) hm
    exact ⟨hpoc.bufferFlags, hpoc.noRaslOutputFlag, hpoc.fieldSeqFlag, hpoc.active⟩
  refine Moves.get_bind (Moves.ite (fun hidr => ?_) fun hidr => ?_)
  · refine modifyPicture_bind (.inr hk) (edit_setPoc 0 0) (hnote _ ⟨rfl, ?_⟩ ?_)
    · simp [modifyPic_self, setPoc, hidr]
    · by_cases hkeep : keepsPoc slice.nalu
      · simp [run_bind, showOrderCount, hkeep, hidr, Decoder.noteOrder]
        rfl
      · simp [run_bind, showOrderCount, hkeep, hidr, Decoder.noteOrder]
        rfl
  · generalize hmsb : (if slice.nalu.type.isIrap && (s.pic p).noRaslOutputFlag then 0 else _ : Int) = msb
    refine modifyPicture_bind (.inr hk) (edit_setPoc _ _) (hnote msb ⟨?_, ?_⟩ ?_)
    · rw [← hmsb, modifyPic_self]
      rfl
    · rw [if_neg hidr, modifyPic_self]
      rfl
    · by_cases hkeep : keepsPoc slice.nalu
      · simp [run_bind, showOrderCount, hkeep, hidr, Decoder.noteOrder]
        rfl
      · simp [run_bind, showOrderCount, hkeep, hidr, Decoder.noteOrder]
        rfl

def Picture.Unflagged (x : Picture) : Prop := x.bufferFlags = (false, false, false)

-- the flags that the timing sets are all there are
lemma bufferFlags_setBufferFlags {x : Picture} (hx : x.Unflagged) (b : Bool) (picStruct : GstH265SEIPicStructType) :
    (setBufferFlags b { x with picStruct }).bufferFlags = (setBufferFlags b { picStruct }).bufferFlags := by
  simp only [Picture.Unflagged, Picture.bufferFlags, Prod.mk.injEq] at hx
  cases picStruct <;> cases b <;> simp [setBufferFlags, Picture.bufferFlags, hx]

lemma setBufferFlags_picStruct (b : Bool) (x : Picture) : (setBufferFlags b x).picStruct = x.picStruct := by
  unfold setBufferFlags
  split <;> first | rfl | (split <;> rfl)

lemma setBufferFlags_noRaslOutputFlag (b : Bool) (x : Picture) :
    (setBufferFlags b x).noRaslOutputFlag = x.noRaslOutputFlag := by
  unfold setBufferFlags
  split <;> first | rfl | (split <;> rfl)

lemma initCurrentPicture_moves (sps : GstH265SPS) (slice : GstH265Slice) (hk : k.current = .starting p)
    (hp : (s.pic p).Unflagged) :
    Moves (Act env) k (initCurrentPicture sps slice p) s fun _ k' s' => k' = k ∧ Flagged s' (s'.pic p) ∧
      (s'.pic p).noRaslOutputFlag = slice.noRaslOutputFlag ∧ s'.activeSps = s.activeSps ∧ s'.parser = s.parser := by
  refine Moves.modify_bind k (.book (by constructor <;> rfl)) (Moves.get_bind ?_)
  refine modifyPicture_bind (.inr hk) (edit_fillFromSlice _ slice) (Moves.bind (calculatePoc_moves sps slice hk) ?_)
  rintro - k₁ t - ⟨rfl, ht⟩
  have hunset : (t.pic p).Unflagged :=
    ((ht.bufferFlags p).trans (modifyPic_keeps (g := Picture.bufferFlags) (f := fillFromSlice _ slice)
      (fun _ => rfl) p p _)).trans hp
  have hfield : t.fieldSeqFlag = s.fieldSeqFlag := ht.fieldSeqFlag
  refine Moves.modify k₁ (.edit p (.inr hk) (edit_setBufferFlags _ _)) ⟨rfl, ?_, ?_, ht.active⟩
  · rw [Flagged, modifyPic_self, setBufferFlags_picStruct]
    refine (bufferFlags_setBufferFlags hunset _ _).trans ?_
    change (setBufferFlags s.fieldSeqFlag _).bufferFlags = (setBufferFlags t.fieldSeqFlag _).bufferFlags
    rw [hfield]
  · rw [modifyPic_self, setBufferFlags_noRaslOutputFlag]
    refine (ht.noRaslOutputFlag p).trans ?_
    rw [modifyPic_self]
    rfl

lemma SameContent.bufferFlags {x y : Picture} (h : SameContent x y) : y.bufferFlags = x.bufferFlags := by
  obtain ⟨_, _, _, _, _, rfl⟩ := h
  rfl

lemma SameContent.picStruct {x y : Picture} (h : SameContent x y) : y.picStruct = x.picStruct := by
  obtain ⟨_, _, _, _, _, rfl⟩ := h
  rfl

lemma Flagged.same (hp : Flagged s (s.pic p)) (h : SameContent (s.pic p) (t.pic p)) (hf : t.fieldSeqFlag = s.fieldSeqFlag) :
    Flagged t (t.pic p) := by
  rw [Flagged, h.bufferFlags, h.picStruct, hf]
  exact hp

lemma Calm.flagged (h : Calm s t) (hp : Flagged s (s.pic p)) : Flagged t (t.pic p) := hp.same (h.pic p) h.fieldSeqFlag

lemma SetsListed.keeps (hs : SetsListed s) (h : Calm s t) (hr : Store.KeepsRefs s.store t.store) : SetsListed t := by
  intro q hq
  rw [h.refPicSets] at hq
  exact hr q (hs q hq)

lemma setsListed_nil (h : s.refPicSets.pictures = []) : SetsListed s := by
  intro q hq
  rw [h] at hq
  cases hq

lemma deriveAndMarkRps_moves (pocs : RefPocs) (hk : k.current = .starting p) :
    Moves (Act env) k (deriveAndMarkRps pocs) s fun _ k' s' => k' = k ∧ SetsListed s' ∧
      (∀ q, SameContent (s.pic q) (s'.pic q)) ∧ s'.fieldSeqFlag = s.fieldSeqFlag ∧
      (s'.activeSps = s.activeSps ∧ s'.parser = s.parser) ∧
      (s.store.listedRefs = [] → s'.refPicSets.pictures = []) := by
  refine modifyChecked_bind k (.clearSets p hk) (modifyChecked_moves k (.deriveSets p pocs hk rfl) ?_)
  have hclear := Store.keeps_unrefAll s.refPicSets.pictures s.store
  have hlisted : s.clearSets.store.listedRefs = s.store.listedRefs :=
    Store.listedRefs_congr (congrArg Dpb.picList (Store.unrefAll_dpb _ _)) fun q => Store.ref_unrefAll _ q _
  refine ⟨rfl, fun q hq => (Store.pictures_deriveAndMarkRps pocs _ hq).2, fun q => ?_, rfl, ⟨rfl, rfl⟩, fun hnil => ?_⟩
  · exact (hclear.pic q).trans ((Store.keeps_deriveAndMarkRps pocs s.clearSets.store).pic q)
  · refine List.eq_nil_iff_forall_not_mem.mpr fun q hq => ?_
    have hmem := (Store.pictures_deriveAndMarkRps pocs _ hq).1
    rw [hlisted, hnil] at hmem
    cases hmem

lemma listedRefs_dpbMarkAllNonRef (a : Store) : a.dpbMarkAllNonRef.listedRefs = [] := by
  have hset : ∀ (l : List PicId) (b : Store) (q : PicId), ((l.foldl (fun s p => s.setRef false p) b).pic q).ref =
      ((b.pic q).ref && !decide (q ∈ l)) := by
    intro l
    induction l with
    | nil => simp
    | cons p l ih =>
      intro b q
      rw [List.foldl_cons, ih, Store.setRef, Store.modifyPic_pic]
      by_cases hq : q = p
      · simp [hq]
      · simp [hq]
  have hlist : a.dpbMarkAllNonRef.dpb.picList = a.dpb.picList :=
    congrArg Dpb.picList (Store.dpb_foldl (f := Store.setRef false) (fun _ _ => rfl) _ a)
  refine List.filter_eq_nil_iff.mpr fun q hq => ?_
  rw [hlist] at hq
  rw [show (a.dpbMarkAllNonRef.pic q).ref = _ from hset a.dpb.picList a q]
  simp [hq]

lemma prepareRps_moves (sps : GstH265SPS) (slice : GstH265Slice) (hk : k.current = .starting p)
    (hp : Flagged s (s.pic p)) :
    Moves (Act env) k (prepareRps sps slice p) s fun _ k' s' => k' = k ∧ SetsListed s' ∧ Flagged s' (s'.pic p) ∧
      (s'.activeSps = s.activeSps ∧ s'.parser = s.parser) ∧
      (slice.nalu.type.isIrap → (s.pic p).noRaslOutputFlag → s'.refPicSets.pictures = []) := by
  have hderive : ∀ t : Decoder P, SameContent (s.pic p) (t.pic p) → t.fieldSeqFlag = s.fieldSeqFlag →
      (t.activeSps = s.activeSps ∧ t.parser = s.parser) →
      (slice.nalu.type.isIrap → (s.pic p).noRaslOutputFlag → t.store.listedRefs = []) →
      Moves (Act env) k (deriveRps sps slice (s.pic p).picOrderCnt) t
        fun _ k' s' => k' = k ∧ SetsListed s' ∧ Flagged s' (s'.pic p) ∧
          (s'.activeSps = s.activeSps ∧ s'.parser = s.parser) ∧ (slice.nalu.type.isIrap → (s.pic p).noRaslOutputFlag → s'.refPicSets.pictures = []) := by
    intro t hsame hfield hactive hnil
    have hrps : ∀ pocs, Moves (Act env) k (deriveAndMarkRps pocs) t fun _ k' s' => k' = k ∧ SetsListed s' ∧
        Flagged s' (s'.pic p) ∧ (s'.activeSps = s.activeSps ∧ s'.parser = s.parser) ∧ (slice.nalu.type.isIrap → (s.pic p).noRaslOutputFlag → s'.refPicSets.pictures = []) := by
      intro pocs
      refine (deriveAndMarkRps_moves pocs hk).mono ?_
      rintro - k' u ⟨rfl, hlisted, hpic, hseq, ha, hempty⟩
      exact ⟨rfl, hlisted, hp.same (hsame.trans (hpic p)) (hseq.trans hfield),
        ⟨ha.1.trans hactive.1, ha.2.trans hactive.2⟩, fun hi hn => hempty (hnil hi hn)⟩
    refine Moves.ite (fun _ => hrps _) fun _ => ?_
    split
    · exact Moves.throw
    · exact hrps _
  refine Moves.get_bind (Moves.ite (fun _ => ?_) fun hno => Moves.pure_bind (hderive s (.refl _) rfl ⟨rfl, rfl⟩ fun hi hn => ?_))
  · refine onStore_bind k (.markAllNonRef p hk) (hderive _ ((Store.keeps_dpbMarkAllNonRef s.store).pic p) rfl ⟨rfl, rfl⟩ ?_)
    exact fun _ _ => listedRefs_dpbMarkAllNonRef s.store
  · exact absurd (by rw [hi, hn]; rfl) hno

lemma resetLastOutput_moves : Moves (Act env) k resetLastOutput s fun _ k' s' => k' = k ∧ Outputs s s' := by
  have hsame : ∀ n, Outputs s (s.setLastOutputPoc n) := fun n => outputs_of_eq rfl rfl rfl rfl rfl rfl
  refine Moves.get_bind (Moves.ite (fun _ => Moves.modify k (book_setLastOutputPoc _) ⟨rfl, hsame _⟩) fun _ => ?_)
  exact Moves.pure ⟨rfl, outputs_of_eq rfl rfl rfl rfl rfl rfl⟩

lemma dpbInit_moves (sps : GstH265SPS) (slice : GstH265Slice) (p : PicId) (hs : SetsListed s) (hsps : s.sps env = some sps)
    (hclear : slice.clearDpb → s.refPicSets.pictures = []) :
    Moves (Act env) k (dpbInit env sps slice p) s fun _ k' s' => k' = k ∧ Calm s s' ∧ SetsListed s' := by
  have hdelete : Calm s (s.mapStore Store.dpbDeleteUnused) := calm_keeps (Store.keeps_dpbDeleteUnused _)
  have hkept := Store.keepsRefs_dpbDeleteUnused s.store
  refine Moves.ite (fun hc => Moves.get_bind (Moves.ite (fun _ => ?_) fun _ => ?_)) fun _ => ?_
  · refine Moves.bind (clearDpb_moves (by simp)) ?_
    rintro - k₁ t - ⟨rfl, hcalm, -⟩
    refine Moves.pure ⟨rfl, hcalm, setsListed_nil ?_⟩
    rw [hcalm.refPicSets, hclear hc]
  · refine onStore_bind k .deleteUnused (Moves.get_bind (Moves.bind (bumpAll_moves false _ _) ?_))
    rintro ret k₁ t - ⟨rfl, hcalm, hrefs, -⟩
    refine Moves.bind resetLastOutput_moves ?_
    rintro - k₂ u - ⟨rfl, hout⟩
    have hall := (hdelete.trans hcalm).trans hout.toCalm
    exact Moves.pure ⟨rfl, hall, hs.keeps hall ((hkept.trans (hrefs rfl)).trans hout.keepsRefs)⟩
  · refine onStore_bind k .deleteUnused (Moves.get_bind ((bumpWhile_moves _ _ ?_).mono ?_))
    · exact ⟨sps, hsps, rfl, rfl⟩
    rintro ret k₁ t ⟨rfl, hcalm, hrefs⟩
    exact ⟨rfl, hdelete.trans hcalm, hs.keeps (hdelete.trans hcalm) (hkept.trans hrefs)⟩

/-- What has become of the current picture when its start returns: it is started, or the start failed, or it
was dropped. -/
def Begins (k : Phase) (ret : GstFlowReturn) (k' : Phase) : Prop :=
  ∃ c, k' = k.setCurrent c ∧
    (c = .none ∨ (∃ p, c = .decoding p) ∨ (ret ≠ .ok ∧ ∃ p, c = .starting p ∨ c = .failed p))

lemma clearCurrentPicture_moves (hs : Linked (k, s))
    (hk : k.current = .none ∨ ∃ p, k.current = .starting p ∨ k.current = .decoding p ∨ k.current = .failed p) :
    Moves (Act env) k clearCurrentPicture s fun _ k' _ => k' = k.setCurrent .none := by
  have hlink : s.currentPicture = k.current.pic := hs
  refine Moves.get_bind ?_
  rcases hk with hk | ⟨p, hk⟩
  · rw [hlink, hk]
    exact Moves.pure (Phase.setCurrent_of_eq hk).symm
  · have hpic : k.current.pic = some p := by
      rcases hk with h | h | h <;> rw [h] <;> rfl
    rw [hlink, hpic]
    exact modifyChecked_moves _ (.unrefCurrent p hk) rfl

lemma vkStartPicture_moves (slice : GstH265Slice) (hk : k.current = .starting p) (hp : Flagged s (s.pic p))
    (hs : SetsListed s) :
    Moves (Act env) k (vkStartPicture env p slice) s fun ret k' _ => Begins k ret k' := by
  refine Moves.get_bind (Moves.valueOr_bind fun vkpic hv => Moves.valueOr_bind fun vps hvps => ?_)
  have hstart : ∀ c, (c = .decoding p ∧ Listable s) ∨ c = .failed p →
      Act env (k, s) (k.setCurrent c, s.startPicture env p slice vps vkpic) :=
    fun c hc => .start p slice vps vkpic hk hv hvps hp hs hc
  by_cases hall : (s.store.listedRefs.take 16).all fun q => (s.pic q).userData.isSome
  · by_cases hfew : tooManyRefs s.store
    · refine Moves.modify_bind _ (hstart _ (.inr rfl)) (Moves.ite (fun _ => Moves.pure ?_) fun h => absurd hall h)
      rw [if_pos hfew]
      exact ⟨.failed p, rfl, .inr (.inr ⟨by decide, p, .inr rfl⟩)⟩
    · have hlen : s.store.listedRefs.length ≤ 16 := by simpa [tooManyRefs] using hfew
      have hready : Listable s := by
        refine ⟨fun q hq => ?_, by simpa using hfew⟩
        rw [List.take_of_length_le hlen] at hall
        exact List.all_eq_true.mp hall q hq
      refine Moves.modify_bind _ (hstart _ (.inl ⟨rfl, hready⟩)) (Moves.ite (fun _ => Moves.pure ?_) fun _ => Moves.throw)
      exact ⟨.decoding p, rfl, .inr (.inl ⟨p, rfl⟩)⟩
  · exact Moves.modify_bind _ (hstart _ (.inr rfl)) (Moves.ite (fun h => absurd h hall) fun _ => Moves.throw)

lemma startCurrentPicture_moves (hs : Linked (k, s)) (hk : k.current = .starting p) (hp : (s.pic p).Unflagged)
    (hslice : s.currentSlice.ClearsRight) :
    Moves (Act env) k (startCurrentPicture env) s fun ret k' _ => Begins k ret k' := by
  have hcur : s.currentPicture = some p := (show _ = _ from hs).trans (by rw [hk]; rfl)
  refine Moves.get_bind ?_
  rw [hcur]
  refine Moves.pure_bind
    (Moves.valueOr_bind fun sps hsps => bind_linked hs (initCurrentPicture_moves sps s.currentSlice hk hp) ?_)
  rintro - k₁ t ht ⟨rfl, hflags, hrasl, hactive⟩
  refine Moves.get_bind (Moves.ite (fun _ => Moves.bind (clearCurrentPicture_moves ht (.inr ⟨p, .inl hk⟩)) ?_) fun _ => ?_)
  · rintro - k₂ u - rfl
    exact Moves.pure ⟨.none, rfl, .inl rfl⟩
  · refine Moves.bind (prepareRps_moves sps s.currentSlice hk hflags) ?_
    rintro - k₂ u - ⟨rfl, hlisted, hflags, hactive', hnil⟩
    refine Moves.bind (dpbInit_moves sps s.currentSlice p hlisted ?_ fun hc => ?_) ?_
    · exact (sps_of_active hactive').trans ((sps_of_active hactive).trans hsps)
    · obtain ⟨hirap, hno⟩ := hslice hc
      exact hnil hirap (hrasl.trans hno)
    · rintro ret k₃ v - ⟨rfl, hcalm, hlisted⟩
      refine Moves.ite (fun hne => Moves.pure ?_) fun _ => vkStartPicture_moves _ hk (hcalm.flagged hflags) hlisted
      exact ⟨.starting p, (Phase.setCurrent_of_eq hk).symm, .inr (.inr ⟨hne, p, .inl rfl⟩)⟩

lemma userData_edit {f : Picture → Picture} (hf : Edit f) (p q : PicId) (s : Decoder P) :
    ((s.modifyPic p f).pic q).userData = (s.pic q).userData := by
  rw [Decoder.pic, Decoder.modifyPic, Store.modifyPic_pic]
  split
  · rename_i hq
    rw [hf.userData, hq]
    rfl
  · rfl

lemma vkNewPicture_moves (hk : k.current = .starting p) (hv : (s.pic p).userData = none) :
    Moves (Act env) k (vkNewPicture env p) s fun _ k' s' => k' = k ∧ s'.currentSlice = s.currentSlice ∧
      (s'.pic p).bufferFlags = (s.pic p).bufferFlags := by
  refine Moves.get_bind (Moves.modify_bind k (.alloc p hk hv) (Moves.pure ⟨rfl, ?_⟩))
  unfold Decoder.allocPicture
  simp only
  split
  · exact ⟨rfl, rfl⟩
  · rename_i pic _
    exact ⟨rfl, modifyPic_keeps (g := Picture.bufferFlags) (f := fun x => { x with userData := some { pic } })
      (fun _ => rfl) p p _⟩

lemma beginPicture_moves (hk : k.current = .none) (hslice : s.currentSlice.ClearsRight) :
    Moves (Act env) k (beginPicture env) s fun ret k' _ => Begins k ret k' := by
  refine Moves.get_bind (Moves.assertOr_bind fun _ => Moves.valueOr_bind fun frame _ => ?_)
  refine withStore_bind _ (.new hk) (modifyPicture_bind (.inl rfl) (edit_setSystemFrameNumber frame.systemFrameNumber) ?_)
  refine Moves.modify_bind _ (.adopt s.store.next rfl) ?_
  have hv : ((((s.mapStore fun st => st.pictureNew.2).modifyPic s.store.next (setSystemFrameNumber
      frame.systemFrameNumber)).setCurrentPicture (some s.store.next)).pic s.store.next).userData = none :=
    (userData_edit (edit_setSystemFrameNumber _) s.store.next s.store.next _).trans
      (by simp [Decoder.pic, Decoder.mapStore, Store.pictureNew])
  have hp : ((((s.mapStore fun st => st.pictureNew.2).modifyPic s.store.next (setSystemFrameNumber
      frame.systemFrameNumber)).setCurrentPicture (some s.store.next)).pic s.store.next).Unflagged :=
    (modifyPic_keeps (g := Picture.bufferFlags) (f := setSystemFrameNumber _) (fun _ => rfl) s.store.next _ _).trans
      (by simp [Decoder.pic, Decoder.mapStore, Store.pictureNew, Picture.bufferFlags])
  refine bind_linked (show Linked (_, _) from rfl) (vkNewPicture_moves rfl hv) ?_
  rintro ret k₁ t ht ⟨rfl, hsame, hflags⟩
  refine Moves.ite (fun _ => Moves.bind (clearCurrentPicture_moves ht (.inr ⟨_, .inl rfl⟩)) ?_) fun _ => ?_
  · rintro - k₁ t - rfl
    exact Moves.pure ⟨.none, rfl, .inl rfl⟩
  · refine startCurrentPicture_moves ht rfl (hflags.trans hp) ?_
    rw [hsame]
    exact hslice

end Start

section Frames

lemma Begins.self {ret : GstFlowReturn} (hk : k.current = .none ∨ ∃ p, k.current = .decoding p) : Begins k ret k := by
  refine ⟨k.current, rfl, ?_⟩
  rcases hk with hk | hk
  · exact .inl hk
  · exact .inr (.inl hk)

lemma Begins.ready (h : Begins k .ok k') : k'.current = .none ∨ ∃ p, k'.current = .decoding p := by
  obtain ⟨c, rfl, hc | hc | ⟨hne, -⟩⟩ := h
  · exact .inl hc
  · exact .inr hc
  · exact absurd rfl hne

lemma Begins.trans {k'' : Phase} {ret ret' : GstFlowReturn} (h : Begins k ret k') (h' : Begins k' ret' k'') :
    Begins k ret' k'' := by
  obtain ⟨c, rfl, -⟩ := h
  obtain ⟨c', rfl, hc'⟩ := h'
  exact ⟨c', rfl, hc'⟩

lemma beginIfNone_moves (hs : Linked (k, s)) (hk : k.current = .none ∨ ∃ p, k.current = .decoding p)
    (hslice : s.currentSlice.ClearsRight) :
    Moves (Act env) k (beginIfNone env) s fun ret k' _ => Begins k ret k' := by
  have hlink : s.currentPicture = k.current.pic := hs
  refine Moves.get_bind (Moves.ite (fun hnone => beginPicture_moves ?_ hslice) fun _ => Moves.pure (.self hk))
  rcases hk with hk | ⟨p, hk⟩
  · exact hk
  · rw [hlink, hk] at hnone
    cases hnone

lemma book_setSlice (slice : GstH265Slice) : Act env (k, s) (k, s.setSlice slice) := by
  unfold Decoder.setSlice
  split
  · exact .book (by constructor <;> rfl)
  · exact .book (by constructor <;> rfl)

lemma decodeSlice_moves (hs : Linked (k, s)) (hk : k.current = .none ∨ ∃ p, k.current = .decoding p) :
    Moves (Act env) k (decodeSlice env) s fun _ k' _ => k' = k := by
  have hlink : s.currentPicture = k.current.pic := hs
  refine Moves.get_bind ?_
  rcases hk with hk | ⟨p, hk⟩
  · rw [hlink, hk]
    exact Moves.pure rfl
  · rw [hlink, hk]
    exact Moves.get_bind (Moves.valueOr_bind fun vkpic hv => Moves.modify_bind k (.slice p _ vkpic hk hv)
      (Moves.pure rfl))

lemma setSlice_clearsRight {slice : GstH265Slice} (h : slice.ClearsRight) (s : Decoder P) :
    (s.setSlice slice).currentSlice.ClearsRight := by
  unfold Decoder.setSlice
  split <;> exact h

lemma processSlice_moves (slice : GstH265Slice) (hs : Linked (k, s))
    (hk : k.current = .none ∨ ∃ p, k.current = .decoding p) (hslice : slice.ClearsRight) :
    Moves (Act env) k (processSlice env slice) s fun ret k' _ => Begins k ret k' := by
  have hset := (show Act env _ _ from book_setSlice slice).linked hs
  refine Moves.modify_bind k (book_setSlice slice) (Moves.get_bind (Moves.ite (fun _ => Moves.pure (.self hk)) fun _ => ?_))
  have hact : Act env (k, s.setSlice slice) (k, (s.setSlice slice).activate env slice.header.pps) :=
    .book (by constructor <;> rfl)
  refine Moves.modify_bind k hact (bind_linked (hact.linked hset) (beginIfNone_moves (hact.linked hset) hk ?_) ?_)
  · exact setSlice_clearsRight hslice s
  rintro ret k₁ t ht h₁
  refine Moves.ite (fun _ => Moves.pure h₁) fun hret => Moves.get_bind (Moves.ite (fun _ => Moves.pure ?_) fun _ => ?_)
  · obtain rfl : ret = .ok := by simpa using hret
    exact h₁
  · obtain rfl : ret = .ok := by simpa using hret
    refine (decodeSlice_moves ht h₁.ready).mono ?_
    rintro ret' k₂ u rfl
    exact h₁.trans (.self h₁.ready)

lemma decodeNalu_moves (nalu : GstH265DecoderNalUnit) (hs : Linked (k, s)) (hb : k.begun = none)
    (hk : k.current = .none ∨ ∃ p, k.current = .decoding p) (hslice : ∀ slice, nalu = .slice slice → slice.ClearsRight) :
    Moves (Act env) k (decodeNalu env nalu) s fun ret k' _ => Begins k ret k' := by
  cases nalu with
  | sps sps =>
    refine (processSps_moves sps hb).mono ?_
    rintro ret k₁ t rfl
    exact .self hk
  | slice slice => exact processSlice_moves slice hs hk (hslice slice rfl)

lemma decodeNalus_moves (nalus : List GstH265DecoderNalUnit) (hs : Linked (k, s)) (hb : k.begun = none)
    (hk : k.current = .none ∨ ∃ p, k.current = .decoding p)
    (hslices : ∀ slice, GstH265DecoderNalUnit.slice slice ∈ nalus → slice.ClearsRight) :
    Moves (Act env) k (decodeNalus env nalus) s fun ret k' _ => Begins k ret k' := by
  induction nalus generalizing k s with
  | nil => exact Moves.pure (.self hk)
  | cons nalu nalus ih =>
    have hslice : ∀ slice, nalu = .slice slice → slice.ClearsRight := fun slice h => hslices slice (h ▸ List.mem_cons_self)
    refine bind_linked hs (decodeNalu_moves nalu hs hb hk hslice) ?_
    rintro ret k₁ t ht h₁
    refine Moves.ite (fun _ => Moves.pure h₁) fun hret => ?_
    obtain rfl : ret = .ok := by simpa using hret
    obtain ⟨c, rfl, -⟩ := id h₁
    have hrest := fun slice h => hslices slice (List.mem_cons_of_mem _ h)
    exact (ih ht hb h₁.ready hrest).mono fun _ _ _ h₂ => h₁.trans h₂

lemma releaseUndisplayed_moves {p : PicId} (hp : (.ended, p) ∈ k.hold) :
    Moves (Act env) k (releaseUndisplayed p) s fun _ k' s' => k' = k ∧ s'.sps env = s.sps env := by
  refine Moves.get_bind (Moves.ite (fun ho => Moves.valueOr_bind fun frame hf => ?_) fun _ => Moves.pure ⟨rfl, rfl⟩)
  refine Moves.modify k (.removeFrame ?_) ⟨rfl, rfl⟩
  rw [getFrame_number hf]
  exact .undisplayed hp (by simpa using ho)

lemma finishPicture_moves {p : PicId} (sps : GstH265SPS) (ret : GstFlowReturn) (hp : (.ended, p) ∈ k.hold)
    (hsps : s.sps env = some sps) :
    Moves (Act env) k (finishPicture env sps p ret) s fun _ k' _ => k' = k.drop .ended p := by
  refine onStore_bind k .deleteUnused (Moves.bind (releaseUndisplayed_moves hp) ?_)
  rintro - k₁ t - ⟨rfl, ht⟩
  refine onStore_bind _ (.add p hp) (Moves.get_bind ((bumpWhile_moves _ _ ?_).mono fun _ _ _ h => h.1))
  exact ⟨sps, ht.trans hsps, rfl, rfl⟩

lemma finishCurrentPicture_moves (ret : GstFlowReturn) (hs : Linked (k, s))
    (hk : k.current = .none ∨ ∃ p, k.current = .decoding p) :
    Moves (Act env) k (finishCurrentPicture env ret) s fun _ k' _ => k' = k.setCurrent .none := by
  have hlink : s.currentPicture = k.current.pic := hs
  refine Moves.get_bind ?_
  rcases hk with hk | ⟨p, hk⟩
  · rw [hlink, hk]
    exact Moves.pure (Phase.setCurrent_of_eq hk).symm
  · rw [hlink, hk]
    refine Moves.assoc (Moves.get_bind (Moves.assoc (Moves.valueOr_bind fun vkpic hv => ?_)))
    refine Moves.assoc (Moves.modify_bind _ (.endPicture p vkpic hk hv) (Moves.pure_bind ?_))
    refine Moves.valueOr_bind fun sps hsps =>
      Moves.bind (finishPicture_moves sps _ (by simp [Phase.setCurrent, Phase.take]) hsps) ?_
    rintro flow k₁ t - rfl
    refine Moves.modify_bind _ (.forgetCurrent p rfl) (Moves.pure ?_)
    simp [Phase.setCurrent, Phase.take, Phase.drop]

lemma videoDecoderError_moves (ret : GstFlowReturn) :
    Moves (Act env) k (videoDecoderError env ret) s fun _ k' s' => k' = k ∧ s' = s :=
  Moves.ite (fun _ => Moves.get_bind (Moves.pure ⟨rfl, rfl⟩)) fun _ => Moves.pure ⟨rfl, rfl⟩

lemma endFrame_moves (frame : VideoCodecFrame) (ret : GstFlowReturn) (h : Begins k ret k') (hs : Linked (k', s))
    (hk : k.current = .none) :
    Moves (Act env) k' (endFrame env frame ret) s fun _ k'' _ => k'' = k := by
  have hback : ∀ {k'' : Phase}, k'' = k'.setCurrent .none → k'' = k := by
    obtain ⟨c, rfl, -⟩ := h
    exact fun h => h.trans (Phase.setCurrent_of_eq hk)
  refine Moves.ite (fun _ => ?_) fun hret => Moves.get_bind (Moves.ite (fun _ => ?_) fun hnone => ?_)
  · refine bind_linked hs (videoDecoderError_moves ret) ?_
    rintro ret' k₁ t ht ⟨rfl, rfl⟩
    have hdrop : Act env (k₁, t) (k₁, _) := .removeFrame (.dropped frame.systemFrameNumber)
    refine Moves.modify_bind _ hdrop (Moves.bind (clearCurrentPicture_moves (hdrop.linked ht) ?_) ?_)
    · obtain ⟨c, rfl, hc | ⟨p, hc⟩ | ⟨-, p, hc | hc⟩⟩ := h
      · exact .inl hc
      · exact .inr ⟨p, .inr (.inl hc)⟩
      · exact .inr ⟨p, .inl hc⟩
      · exact .inr ⟨p, .inr (.inr hc)⟩
    · rintro - k₂ u - h₂
      exact Moves.pure (hback h₂)
  · obtain rfl : ret = .ok := by simpa using hret
    refine Moves.bind (finishCurrentPicture_moves .ok hs h.ready) ?_
    rintro ret' k₁ t - h₁
    refine (videoDecoderError_moves ret').mono ?_
    rintro _ k₂ u ⟨rfl, -⟩
    exact hback h₁
  · obtain rfl : ret = .ok := by simpa using hret
    have hcur : k'.current = .none := by
      have hlink : s.currentPicture = k'.current.pic := hs
      rcases h.ready with hc | ⟨p, hc⟩
      · exact hc
      · rw [hlink, hc] at hnone
        cases hnone rfl
    refine Moves.modify_bind _ (.removeFrame (.empty _ hcur)) ((videoDecoderError_moves .ok).mono ?_)
    rintro _ k₂ u ⟨rfl, -⟩
    exact hback (Phase.setCurrent_of_eq hcur).symm

lemma book_resetFrameState : Act env (k, s) (k, s.resetFrameState) := .book (by constructor <;> rfl)

lemma handleFrame_moves (frame : VideoCodecFrame) (nalus : List GstH265NalUnit) (hs : Linked (k, s))
    (hb : k.begun = none) (hk : k.current = .none) :
    Moves (Act env) k (handleFrame env frame nalus) s fun _ k' _ => k' = k := by
  have hreset : Act env (k, s) (k, s.resetFrameState.setCurrentFrame (some frame)) := .book (by constructor <;> rfl)
  refine Moves.modify_bind k hreset (bind_linked (hreset.linked hs) (parseNalus_moves nalus hk (fun _ hm => by cases hm)) ?_)
  rintro - k₁ t ht ⟨rfl, hq⟩
  refine Moves.get_bind (bind_linked ht (decodeNalus_moves t.nalu ht hb (.inl hk) hq) ?_)
  rintro ret k₂ u hu h₂
  have hforget : Act env (k₂, u) (k₂, u.resetFrameState) := book_resetFrameState
  exact Moves.modify_bind k₂ hforget (endFrame_moves frame ret h₂ (hforget.linked hu) hk)

end Frames

section Inputs

/-- Between two inputs nothing is under way. -/
def Phase.idle : Phase := {}

lemma linked_start : Linked (Phase.idle, Decoder.start env) := rfl

lemma setFormat_moves (input : InputState) (codecData : Option (List UInt8)) (hb : k.begun = none) (hk : k.current = .none) :
    Moves (Act env) k (setFormat env input codecData) s fun _ k' _ => k' = k := by
  refine Moves.modify_bind k (.book (by constructor <;> rfl)) ?_
  split
  · exact Moves.pure rfl
  · refine Moves.bind (parseCodecData_moves _ hb hk) ?_
    rintro _ k₁ t - rfl
    exact Moves.pure rfl

lemma flush_moves (hk : k.flushing = false) : Moves (Act env) k flush s fun _ k' _ => k' = k := by
  refine Moves.modify_bind _ .flush (Moves.bind (clearDpb_moves fun _ => rfl) ?_)
  rintro - k₁ t - ⟨rfl, -⟩
  refine Moves.modify _ (.clearFrames rfl) ?_
  rw [Phase.setFlushing, Phase.setFlushing, ← hk]

lemma takeFrame_moves (duration : Nat) : Moves (Act env) k (takeFrame duration) s fun _ k' _ => k' = k :=
  Moves.get_bind (Moves.modify_bind k (.takeFrame duration) (Moves.pure rfl))

lemma step_moves (input : Input) (hs : Linked (Phase.idle, s)) :
    Moves (Act env) .idle (step env input) s fun _ k' _ => k' = .idle := by
  cases input with
  | setFormat input codecData => exact setFormat_moves _ _ rfl rfl
  | handleFrame nalus duration =>
    refine bind_linked hs (takeFrame_moves duration) ?_
    rintro frame k₁ t ht rfl
    refine Moves.bind (handleFrame_moves frame nalus ht rfl rfl) ?_
    rintro _ k₂ u - rfl
    exact Moves.pure rfl
  | flush => exact flush_moves rfl
  | drain =>
    refine Moves.bind drainInternal_moves ?_
    rintro _ k₁ t - ⟨rfl, -⟩
    exact Moves.pure rfl

lemma runInputs_moves (inputs : List Input) (hs : Linked (Phase.idle, s)) :
    Moves (Act env) .idle (runInputs env inputs) s fun _ k' _ => k' = .idle := by
  induction inputs generalizing s with
  | nil => exact Moves.pure rfl
  | cons input inputs ih =>
    refine bind_linked hs (step_moves input hs) ?_
    rintro _ k₁ t ht rfl
    exact ih ht

-- the states that a run passes through or dies in
lemma reach_final (env : Env P) (inputs : List Input) :
    ∃ k, ReflTransGen (Act env) (Phase.idle, Decoder.start env) (k, final (runInputs env inputs (Decoder.start env))) :=
  (runInputs_moves inputs linked_start).final

end Inputs

end VkVideoParser.H265
