import VkVideoParser.H264.Runs.Start

/-! The functions of the decoder taken apart into moves: parameter sets, NAL units and whole inputs. -/

namespace VkVideoParser.H264

open Execution Relation

variable {P : Type} {env : Env P} {k k' : Phase} {s t : Decoder P}

section ParameterSets

lemma sameSequence_configure (sps : GstH264SPS) (s : Decoder P) :
    sameSequence (s.configure sps (maxDpbSizeOf sps)) sps := by
  simp [sameSequence, Decoder.configure]

lemma newSequence_moves (sps : GstH264SPS) (hs : DpbEmpty s) :
    Moves (Act env) k (newSequence env sps (maxDpbSizeOf sps)) s fun ret k' s' =>
      ret = .ok ∧ k' = k.setBegun (some sps) ∧ DpbEmpty s' :=
  Moves.get_bind (Moves.valueOr_bind fun input _ =>
    Moves.modify_bind _ (.beginSequence sps input hs) (Moves.pure ⟨rfl, rfl, hs⟩))

lemma changeSequence_moves (sps : GstH264SPS) :
    Moves (Act env) k (changeSequence env sps) s fun ret k' s' =>
      (ret = .ok → k' = k.setBegun (some sps) ∧ sameSequence s' sps) ∧ (ret ≠ .ok → k' = k) := by
  refine Moves.bind drainInternal_moves ?_
  rintro ret k₁ t - ⟨rfl, ht⟩
  refine Moves.ite (fun hne => Moves.pure ⟨fun h => absurd h hne, fun _ => rfl⟩) fun _ => ?_
  refine Moves.bind (newSequence_moves sps ht) ?_
  rintro _ k₂ u - ⟨rfl, rfl, hu⟩
  refine Moves.ite (fun hne => absurd rfl hne) fun _ => ?_
  refine Moves.modify_bind _ (.configure sps hu rfl) (Moves.pure ⟨fun _ => ⟨rfl, ?_⟩, fun hne => absurd rfl hne⟩)
  exact sameSequence_configure sps u

lemma changeSequenceIfNew_moves (sps : GstH264SPS) :
    Moves (Act env) k (changeSequenceIfNew env sps) s fun ret k' s' =>
      (ret = .ok → (k' = k ∨ k' = k.setBegun (some sps)) ∧ sameSequence s' sps) ∧ (ret ≠ .ok → k' = k) := by
  refine Moves.get_bind (Moves.ite (fun h => Moves.pure ⟨fun _ => ⟨.inl rfl, h⟩, fun _ => rfl⟩) fun _ => ?_)
  exact (changeSequence_moves sps).mono fun _ _ _ h => ⟨fun hok => ⟨.inr (h.1 hok).1, (h.1 hok).2⟩, h.2⟩

lemma setMaxNumReorderFrames_eq (n : Nat) (st : Store) :
    st.setMaxNumReorderFrames n = st ∨
      st.setMaxNumReorderFrames n = { st with dpb := { st.dpb with maxNumReorderFrames := n } } := by
  unfold Store.setMaxNumReorderFrames
  split
  · exact .inr rfl
  · exact .inl rfl

lemma book_setMaxNumReorderFrames (n : Nat) : Act env (k, s) (k, s.mapStore (Store.setMaxNumReorderFrames n)) := by
  rcases setMaxNumReorderFrames_eq n s.store with h | h
  · rw [Decoder.mapStore_of_eq h]
    exact book_refl
  · rw [Decoder.mapStore, h]
    exact .book (by constructor <;> rfl)

lemma sameSequence_setMaxNumReorderFrames (n : Nat) (sps : GstH264SPS) :
    sameSequence (s.mapStore (Store.setMaxNumReorderFrames n)) sps = sameSequence s sps := by
  rcases setMaxNumReorderFrames_eq n s.store with h | h
  · rw [Decoder.mapStore_of_eq h]
  · rw [Decoder.mapStore, h]
    rfl

lemma updateMaxNumReorderFrames_moves (sps : GstH264SPS) (h : sameSequence s sps) :
    Moves (Act env) k (updateMaxNumReorderFrames env sps) s fun _ k' s' => k' = k ∧ sameSequence s' sps := by
  have hset : ∀ n, Moves (Act env) k (do onStore (Store.setMaxNumReorderFrames n); return true) s fun _ k' s' =>
      k' = k ∧ sameSequence s' sps := fun n =>
    onStore_bind k (book_setMaxNumReorderFrames n) (Moves.pure ⟨rfl, (sameSequence_setMaxNumReorderFrames n sps).trans h⟩)
  refine Moves.get_bind (Moves.ite (fun _ => Moves.ite (fun _ => ?_) fun _ => hset _) fun _ => hset _)
  exact Moves.pure ⟨rfl, h⟩

lemma Phase.setBegun_of_eq {b : Option GstH264SPS} (h : k.begun = b) : k.setBegun b = k := by
  rw [Phase.setBegun, ← h]

lemma setBegun_none {sps : GstH264SPS} (hb : k.begun = none) (h : k' = k ∨ k' = k.setBegun (some sps)) :
    k'.setBegun none = k := by
  rcases h with rfl | rfl
  · exact Phase.setBegun_of_eq hb
  · exact Phase.setBegun_of_eq hb

lemma begun_or {sps : GstH264SPS} (hb : k.begun = none) (h : k' = k ∨ k' = k.setBegun (some sps)) :
    k'.begun = none ∨ k'.begun = some sps := by
  rcases h with rfl | rfl
  · exact .inl hb
  · exact .inr rfl

/-- When process_sps succeeds, a sequence that it began is still to be given to the parser. -/
lemma processSps_moves (sps : GstH264SPS) (hb : k.begun = none) :
    Moves (Act env) k (processSps env sps) s fun ret k' s' =>
      (ret = .ok → (k' = k ∨ k' = k.setBegun (some sps)) ∧ sameSequence s' sps ∧ sizeInMbs sps ≠ 0) ∧
        (ret ≠ .ok → k' = k) := by
  refine Moves.ite (fun _ => Moves.pure ⟨by simp, fun _ => rfl⟩) fun _ => Moves.ite (fun _ => Moves.throw) fun hsize => ?_
  refine Moves.bind (changeSequenceIfNew_moves sps) ?_
  rintro ret k₁ t - ⟨hok, herr⟩
  refine Moves.ite (fun hne => Moves.pure ⟨fun h => absurd h hne, herr⟩) fun hret => ?_
  obtain ⟨hk, hsame⟩ := hok (by simpa using hret)
  refine Moves.bind (updateMaxNumReorderFrames_moves sps hsame) ?_
  rintro ok k₂ u - ⟨rfl, hu⟩
  refine Moves.ite (fun _ => ?_) fun _ => Moves.pure ⟨fun _ => ⟨hk, hu, hsize⟩, fun h => absurd rfl h⟩
  refine Moves.step (.rejectSps sps (begun_or hb hk) hu) (Moves.pure ⟨by simp, fun _ => ?_⟩)
  exact setBegun_none hb hk

lemma parseSps_moves (nalu : GstH264NalUnit) (hb : k.begun = none) :
    Moves (Act env) k (parseSps env nalu) s fun _ k' _ => k' = k := by
  unfold parseSps
  cases env.parser.parseSps nalu with
  | none => exact Moves.modify_bind k .parserParseSps (Moves.pure rfl)
  | some sps =>
    have hact : Act env (k, s) (k, (s.emit (.parserParseSps (some sps))).updateSps env sps) := .updateSps sps
    refine Moves.prepend (.single hact) (Moves.bind (processSps_moves sps hb) ?_) rfl
    rintro ret k₁ t - ⟨hok, herr⟩
    refine Moves.ite (fun hne => Moves.pure (herr hne)) fun hret => Moves.get_bind ?_
    obtain ⟨hk, hsame, hsize⟩ := hok (by simpa using hret)
    split
    · refine Moves.modify_bind _ (.parserUpdateSps sps false (begun_or hb hk) hsame hsize) (Moves.pure ?_)
      exact setBegun_none hb hk
    · rename_i parser _
      have h₁ : Act env (k₁, t) _ := .parserUpdateSps sps true (begun_or hb hk) hsame hsize
      have h₂ : Act env (k₁.setBegun none, t.emit (.parserUpdateSps sps true)) _ := .setParser parser
      refine Moves.prepend ((ReflTransGen.single h₁).tail h₂) (m := pure .ok) (Moves.pure ?_) rfl
      exact setBegun_none hb hk

lemma parsePps_moves (nalu : GstH264NalUnit) :
    Moves (Act env) k (parsePps env nalu) s fun _ k' _ => k' = k := by
  refine Moves.get_bind ?_
  simp only
  cases env.parser.parsePps s.parser nalu with
  | none => exact Moves.modify_bind k .parserParsePps (Moves.pure rfl)
  | some pps =>
    have hact : Act env (k, s) (k, (s.emit (.parserParsePps (some pps))).updatePps env pps) := .updatePps pps
    refine Moves.prepend (.single hact) (Moves.ite (fun _ => Moves.pure rfl) fun _ => Moves.get_bind ?_) rfl
    split
    · exact Moves.pure rfl
    · exact Moves.modify_bind k (.setParser _) (Moves.pure rfl)

lemma parseCodecDataSets_moves {parse : GstH264NalUnit → DecoderM P GstFlowReturn} (data : List UInt8)
    (hparse : ∀ (s : Decoder P) nalu, Moves (Act env) k (parse nalu) s fun _ k' _ => k' = k) (n off : Nat) :
    Moves (Act env) k (parseCodecDataSets env parse data n off) s fun _ k' _ => k' = k := by
  induction n generalizing s off with
  | zero => exact Moves.pure rfl
  | succ n ih =>
    unfold parseCodecDataSets
    split
    · exact Moves.pure rfl
    · rename_i nalu next _
      refine Moves.bind (hparse s nalu) ?_
      rintro ret k₁ t - rfl
      exact Moves.ite (fun _ => Moves.pure rfl) fun _ => ih next

lemma parseCodecData_moves (data : List UInt8) (hb : k.begun = none) :
    Moves (Act env) k (parseCodecData env data) s fun _ k' _ => k' = k := by
  refine Moves.ite (fun _ => Moves.pure rfl) fun _ => Moves.ite (fun _ => Moves.pure rfl) fun _ => ?_
  refine Moves.modify_bind k (.book (by constructor <;> rfl)) ?_
  refine Moves.bind (parseCodecDataSets_moves data (fun _ nalu => parseSps_moves nalu hb) _ _) ?_
  rintro ⟨ret, off⟩ k₁ t - rfl
  refine Moves.ite (fun _ => Moves.pure rfl) fun _ => Moves.ite (fun _ => Moves.pure rfl) fun _ => ?_
  refine Moves.bind (parseCodecDataSets_moves data (fun _ nalu => parsePps_moves nalu) _ _) ?_
  rintro ⟨ret, off⟩ k₂ u - rfl
  exact Moves.pure rfl

end ParameterSets

section Frames

lemma decodeNal_moves (nalu : GstH264NalUnit) (hs : Sound (k, s)) (hb : k.begun = none)
    (hk : k.current = .none ∨ ∃ p, k.current = .decoding p) (hh : k.hold = []) :
    Moves (Act env) k (decodeNal env nalu) s fun ret k' _ => Leaves k ret k' := by
  have hself : ∀ ret k', k' = k → Leaves k ret k' := by
    rintro ret _ rfl
    exact .self hk
  unfold decodeNal
  split
  · exact Moves.pure (.self hk)
  · exact (parseSps_moves nalu hb).mono fun _ _ _ h => hself _ _ h
  · exact (parsePps_moves nalu).mono fun _ _ _ h => hself _ _ h
  iterate 6 exact parseSlice_moves nalu hs hk hh
  · exact Moves.pure (.self hk)
  · exact Moves.modify_bind k (.unhandledNALU nalu.data) (Moves.pure (.self hk))

lemma decodeNals_moves (nalus : List GstH264NalUnit) (hs : Sound (k, s)) (hb : k.begun = none)
    (hk : k.current = .none ∨ ∃ p, k.current = .decoding p) (hh : k.hold = []) :
    Moves (Act env) k (decodeNals env nalus) s fun ret k' _ => Leaves k ret k' := by
  induction nalus generalizing k s with
  | nil => exact Moves.pure (.self hk)
  | cons nalu nalus ih =>
    refine bind_sound hs (decodeNal_moves nalu hs hb hk hh) ?_
    rintro ret k₁ t ht h₁
    refine Moves.ite (fun _ => Moves.pure h₁) fun hret => ?_
    obtain ⟨c, rfl, hok, hc⟩ := id h₁
    refine (ih ht hb (hok (by simpa using hret)) hh).mono fun _ _ _ h₂ => h₁.trans h₂

lemma clearCurrentPicture_moves (hs : Sound (k, s)) (hk : k.current = .none ∨ ∃ p, k.current.owned p) :
    Moves (Act env) k clearCurrentPicture s fun _ k' _ => k' = k.setCurrent .none := by
  have hlink : s.currentPicture = k.current.pic := hs.linked
  refine Moves.get_bind ?_
  rcases hk with hk | ⟨p, hk⟩
  · rw [hlink, hk]
    exact Moves.pure (Phase.setCurrent_of_eq hk).symm
  · have hpic : k.current.pic = some p := by
      rcases hk with ⟨slice, h⟩ | ⟨slice, h | h⟩ | h <;> rw [h] <;> rfl
    rw [hlink, hpic]
    exact modifyChecked_moves _ (.unrefCurrent p hk) rfl

lemma videoDecoderError_moves (ret : GstFlowReturn) :
    Moves (Act env) k (videoDecoderError env ret) s fun _ k' s' => k' = k ∧ s' = s :=
  Moves.ite (fun _ => Moves.get_bind (Moves.pure ⟨rfl, rfl⟩)) fun _ => Moves.pure ⟨rfl, rfl⟩

lemma book_setCurrentFrame (frame : Option VideoCodecFrame) : Act env (k, s) (k, s.setCurrentFrame frame) :=
  .book (by constructor <;> rfl)

lemma handleFrame_moves (frame : VideoCodecFrame) (nalus : List GstH264NalUnit) (hs : Sound (k, s))
    (hb : k.begun = none) (hk : k.current = .none) (hh : k.hold = []) :
    Moves (Act env) k (handleFrame env frame nalus) s fun _ k' _ => k' = k := by
  have ht := (show Act env _ _ from book_setCurrentFrame (some frame)).sound hs
  refine Moves.modify_bind k (book_setCurrentFrame _) (bind_sound ht (decodeNals_moves nalus ht hb (.inl hk) hh) ?_)
  rintro ret k₁ u hu ⟨c, rfl, hok, hc⟩
  have hback : ∀ {k' : Phase}, k' = (k.setCurrent c).setCurrent .none → k' = k := fun h =>
    h.trans (Phase.setCurrent_of_eq hk)
  refine Moves.ite (fun _ => ?_) fun hret => ?_
  · refine bind_sound hu (videoDecoderError_moves ret) ?_
    rintro _ k₂ v hv ⟨rfl, rfl⟩
    have hw := (show Act env _ _ from .removeFrame (.dropped frame.systemFrameNumber)).sound hv
    refine Moves.modify_bind _ (.removeFrame (.dropped _)) (Moves.bind (clearCurrentPicture_moves hw hc) ?_)
    rintro - k₃ w - h
    exact Moves.modify_bind _ (book_setCurrentFrame _) (Moves.pure (hback h))
  · refine Moves.bind (finishCurrentPicture_moves hu (hok (by simpa using hret)) hh) ?_
    rintro ret' k₂ v - ⟨h, -⟩
    refine Moves.modify_bind _ (book_setCurrentFrame _) ((videoDecoderError_moves ret').mono ?_)
    rintro _ k₃ w ⟨rfl, -⟩
    exact hback h

lemma setFormat_moves (input : InputState) (isLive : Bool) (codecData : Option (List UInt8)) (hb : k.begun = none) :
    Moves (Act env) k (setFormat env input isLive codecData) s fun _ k' _ => k' = k := by
  refine Moves.modify_bind k (.book (by constructor <;> rfl)) ?_
  split
  · exact Moves.pure rfl
  · refine Moves.bind (parseCodecData_moves _ hb) ?_
    rintro _ k₁ t - rfl
    exact Moves.pure rfl

lemma flush_moves (hk : k.flushing = false) :
    Moves (Act env) k flush s fun _ k' _ => k' = k := by
  refine Moves.modify_bind _ .flush (Moves.bind (Moves.ite (fun _ => emptyDpb_moves (.inr rfl)) fun h => absurd rfl h) ?_)
  rintro - k₁ t - ⟨rfl, -⟩
  refine Moves.modify _ (.clearFrames rfl) ?_
  rw [Phase.setFlushing, Phase.setFlushing, ← hk]

/-- Between two inputs nothing is under way. -/
def Phase.idle : Phase := {}

lemma takeFrame_moves (duration : Nat) :
    Moves (Act env) k (takeFrame duration) s fun _ k' _ => k' = k :=
  Moves.get_bind (Moves.modify_bind k (.takeFrame duration) (Moves.pure rfl))

lemma step_moves (input : Input) (hs : Sound (Phase.idle, s)) :
    Moves (Act env) .idle (step env input) s fun _ k' _ => k' = .idle := by
  cases input with
  | setFormat input isLive codecData => exact setFormat_moves _ _ _ rfl
  | handleFrame nalus duration =>
    refine bind_sound hs (takeFrame_moves duration) ?_
    rintro frame k₁ t ht rfl
    refine Moves.bind (handleFrame_moves frame nalus ht rfl rfl rfl) ?_
    rintro _ k₂ u - rfl
    exact Moves.pure rfl
  | flush => exact flush_moves rfl
  | drain =>
    refine Moves.bind drainInternal_moves ?_
    rintro _ k₁ t - ⟨rfl, -⟩
    exact Moves.pure rfl

lemma runInputs_moves (inputs : List Input) (hs : Sound (Phase.idle, s)) :
    Moves (Act env) .idle (runInputs env inputs) s fun _ k' _ => k' = .idle := by
  induction inputs generalizing s with
  | nil => exact Moves.pure rfl
  | cons input inputs ih =>
    refine bind_sound hs (step_moves input hs) ?_
    rintro _ k₁ t ht rfl
    exact ih ht

-- the states that a run passes through or dies in
lemma reach_final (env : Env P) (inputs : List Input) :
    ∃ k, ReflTransGen (Act env) (Phase.idle, Decoder.start env) (k, final (runInputs env inputs (Decoder.start env))) :=
  (runInputs_moves inputs sound_start).final

lemma reach_done {inputs : List Input} {t : Decoder P} (h : runInputs env inputs (Decoder.start env) = .ok () t) :
    ReflTransGen (Act env) (Phase.idle, Decoder.start env) (.idle, t) := by
  have hm : Moves (Act env) .idle (runInputs env inputs) (Decoder.start env) _ := runInputs_moves inputs sound_start
  unfold Moves at hm
  rw [h] at hm
  obtain ⟨k, hk, rfl⟩ := hm
  exact hk

end Frames

end VkVideoParser.H264
