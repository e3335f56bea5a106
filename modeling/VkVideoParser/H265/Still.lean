import VkVideoParser.H265.DisplayedOnce

/-! What a function of the decoder leaves as it is while a frame is decoded. -/

namespace VkVideoParser.H265

open Execution

variable {P : Type} {env : Env P} {s t u : Decoder P} {p q : PicId} {l : List PicId}

def Event.decodes : Event → Bool
  | .decodePicture .. => true
  | _ => false

/-- Nothing is decoded, and the pictures outside of `l` go on being output or not. -/
structure Fixed (l : List PicId) (s t : Decoder P) : Prop where
  systemFrameNumber : t.systemFrameNumber = s.systemFrameNumber
  currentFrame : t.currentFrame = s.currentFrame
  currentPicture : t.currentPicture = s.currentPicture
  number : ∀ q, (t.pic q).systemFrameNumber = (s.pic q).systemFrameNumber
  outputFlag : ∀ q ∉ l, (t.pic q).outputFlag = (s.pic q).outputFlag
  log : ∃ es, t.store.log = es ++ s.store.log ∧ ∀ e ∈ es, e.decodes = false

/-- Besides, the frames and the DPB are the same, and the same of those pictures wait. -/
structure Still (l : List PicId) (s t : Decoder P) : Prop extends Fixed l s t where
  frames : t.frames = s.frames
  next : t.store.next = s.store.next
  picList : t.store.dpb.picList = s.store.dpb.picList
  numOutputNeeded : t.store.dpb.numOutputNeeded = s.store.dpb.numOutputNeeded
  waits : ∀ q ∉ l, t.store.waits q = s.store.waits q

lemma Fixed.refl (l : List PicId) (s : Decoder P) : Fixed l s s :=
  ⟨rfl, rfl, rfl, fun _ => rfl, fun _ _ => rfl, [], rfl, by simp⟩

lemma Fixed.trans (h : Fixed l s t) (h' : Fixed l t u) : Fixed l s u := by
  refine ⟨h'.systemFrameNumber.trans h.systemFrameNumber, h'.currentFrame.trans h.currentFrame,
    h'.currentPicture.trans h.currentPicture, fun q => (h'.number q).trans (h.number q),
    fun q hq => (h'.outputFlag q hq).trans (h.outputFlag q hq), ?_⟩
  obtain ⟨es, hes, hd⟩ := h.log
  obtain ⟨es', hes', hd'⟩ := h'.log
  refine ⟨es' ++ es, by rw [hes', hes, List.append_assoc], fun e he => ?_⟩
  rcases List.mem_append.mp he with he | he
  · exact hd' e he
  · exact hd e he

lemma Still.refl (l : List PicId) (s : Decoder P) : Still l s s := ⟨.refl l s, rfl, rfl, rfl, rfl, fun _ _ => rfl⟩

lemma Still.trans (h : Still l s t) (h' : Still l t u) : Still l s u :=
  ⟨h.toFixed.trans h'.toFixed, h'.frames.trans h.frames, h'.next.trans h.next, h'.picList.trans h.picList,
    h'.numOutputNeeded.trans h.numOutputNeeded, fun q hq => (h'.waits q hq).trans (h.waits q hq)⟩

instance : IsPreorder (Decoder P) (Fixed l) where
  refl := .refl l
  trans _ _ _ := .trans

instance : IsPreorder (Decoder P) (Still l) where
  refl := .refl l
  trans _ _ _ := .trans

section Rules

lemma fixed_keeps {f : Store → Store} (h : Store.Keeps s.store (f s.store)) : Fixed l s (s.mapStore f) := by
  have hpic : ∀ q, ((s.mapStore f).pic q).systemFrameNumber = (s.pic q).systemFrameNumber ∧
      ((s.mapStore f).pic q).outputFlag = (s.pic q).outputFlag := fun q => by
    obtain ⟨_, _, _, _, _, hq⟩ := h.pic q
    have hq : (s.mapStore f).pic q = _ := hq
    rw [hq]
    exact ⟨rfl, rfl⟩
  obtain ⟨es, hes, hd⟩ := h.log
  refine ⟨rfl, rfl, rfl, fun q => (hpic q).1, fun q _ => (hpic q).2, es, hes, fun e he => ?_⟩
  have := hd e he
  cases e with
  | decodePicture => cases this
  | _ => rfl

lemma still_keeps {f : Store → Store} (h : Store.Keeps s.store (f s.store)) (hn : Store.SameNeeds s.store (f s.store)) :
    Still l s (s.mapStore f) :=
  ⟨fixed_keeps h, rfl, h.next, congrArg Dpb.picList hn.dpb, congrArg Dpb.numOutputNeeded hn.dpb,
    fun q _ => congrFun hn.waits q⟩

lemma still_emit {e : Event} (he : e.decodes = false) (s : Decoder P) : Still l s (s.emit e) :=
  ⟨⟨rfl, rfl, rfl, fun _ => rfl, fun _ _ => rfl, [e], rfl, by simpa using he⟩, rfl, rfl, rfl, rfl, fun _ _ => rfl⟩

-- a change outside of the store
lemma still_book (hs : t.store = s.store) (hf : t.frames = s.frames) (hn : t.systemFrameNumber = s.systemFrameNumber)
    (hc : t.currentFrame = s.currentFrame) (hp : t.currentPicture = s.currentPicture) : Still l s t := by
  refine ⟨⟨hn, hc, hp, fun q => ?_, fun q _ => ?_, [], ?_, by simp⟩, hf, ?_, ?_, ?_, fun q _ => ?_⟩
  all_goals simp only [Decoder.pic, hs, List.nil_append]

-- a change of a picture that is neither stored nor decoded
lemma still_modifyPic {f : Picture → Picture} (hf : ∀ x, (f x).systemFrameNumber = x.systemFrameNumber) (hp : p ∈ l)
    (s : Decoder P) : Still l s (s.modifyPic p f) := by
  have hne : ∀ q ∉ l, (s.modifyPic p f).pic q = s.pic q := fun q hq =>
    Function.update_of_ne (fun hqp : q = p => hq (hqp ▸ hp)) _ _
  refine ⟨⟨rfl, rfl, rfl, fun q => ?_, fun q hq => by rw [hne q hq], [], rfl, by simp⟩, rfl, rfl, rfl,
    rfl, fun q hq => ?_⟩
  · by_cases hq : q = p
    · subst hq
      exact (congrArg Picture.systemFrameNumber (Function.update_self ..)).trans (hf _)
    · exact congrArg Picture.systemFrameNumber (Function.update_of_ne hq _ _)
  · exact congrArg Picture.neededForOutput (hne q hq)

variable {R : Decoder P → Decoder P → Prop} {α β : Type}

lemma respects_modifyChecked {g : Decoder P → Decoder P} (h : ∀ s, R s (g s)) : Respects R (modifyChecked g) :=
  Respects.checked h

lemma respects_onStore {g : Store → Store} (h : ∀ s : Decoder P, R s (s.mapStore g)) : Respects R (onStore g) :=
  respects_modifyChecked h

lemma respects_withStore {g : Store → α × Store} (h : ∀ s : Decoder P, R s (s.mapStore fun st => (g st).2)) :
    Respects R (withStore g) :=
  Respects.checked h

end Rules

section Parsing

lemma still_updateVps (vps : GstH265VPS) (s : Decoder P) : Still l s (s.updateVps env vps) :=
  (still_emit (e := .updateVps ..) rfl s).trans (still_book rfl rfl rfl rfl rfl)

lemma still_updateSps (sps : GstH265SPS) (s : Decoder P) : Still l s (s.updateSps env sps) :=
  (still_emit (e := .updateSps ..) rfl s).trans (still_book rfl rfl rfl rfl rfl)

lemma still_updatePps (pps : GstH265PPS) (s : Decoder P) : Still l s (s.updatePps env pps) :=
  (still_emit (e := .updatePps ..) rfl s).trans (still_book rfl rfl rfl rfl rfl)

-- what the parser says is logged, and its tables change
lemma still_parsed {e : Event} (he : e.decodes = false) (parser : P) (s : Decoder P) :
    Still l s ((s.emit e).setParser parser) :=
  (still_emit he s).trans (still_book rfl rfl rfl rfl rfl)

lemma still_setPicStructs (l : List PicId) (m : List GstH265SEIPicStructType) (s : Decoder P) :
    Still l s (m.foldl (fun s picStruct => s.setPicStruct picStruct) s) := by
  induction m generalizing s with
  | nil => exact .refl l s
  | cons picStruct m ih =>
    have hset : Still l s (s.setPicStruct picStruct) := still_book rfl rfl rfl rfl rfl
    exact hset.trans (ih _)

lemma still_parseSlice (nalu : GstH265NalUnit) : Respects (Still l) (parseSlice env nalu) := by
  refine Respects.get_bind fun s => ?_
  split
  · exact Respects.bind (Respects.modify fun s => still_book rfl rfl rfl rfl rfl) fun _ => Respects.pure _
  · exact Respects.bind (Respects.modify fun s => still_book rfl rfl rfl rfl rfl) fun _ => Respects.pure _

lemma still_parseSps (nalu : GstH265NalUnit) : Respects (Still l) (parseSps env nalu) := by
  refine Respects.get_bind fun s => Respects.bind (Respects.modify fun s => still_parsed rfl _ s) fun _ => ?_
  split
  · exact Respects.pure _
  · refine Respects.bind (Respects.modify fun s => still_updateSps _ s) fun _ => ?_
    exact Respects.bind (Respects.modify fun s => still_book rfl rfl rfl rfl rfl) fun _ => Respects.pure _

lemma still_parseNalu (nalu : GstH265NalUnit) : Respects (Still l) (parseNalu env nalu) := by
  have hbook : ∀ f : Decoder P → Decoder P, (∀ s, Still l s (f s)) →
      Respects (Still l) (do modify f; return true : DecoderM P Bool) := fun f hf =>
    Respects.bind (Respects.modify hf) fun _ => Respects.pure _
  unfold parseNalu
  split
  · refine Respects.get_bind fun s => Respects.bind (Respects.modify fun s => still_parsed rfl _ s) fun _ => ?_
    exact Respects.bind (Respects.modify fun s => still_updateVps _ s) fun _ => Respects.pure _
  · exact still_parseSps nalu
  · refine Respects.get_bind fun s => Respects.bind (Respects.modify fun s => still_parsed rfl _ s) fun _ => ?_
    exact Respects.bind (Respects.modify fun s => still_updatePps _ s) fun _ => Respects.pure _
  · exact hbook _ fun s => still_setPicStructs l _ s
  · exact hbook _ fun s => still_setPicStructs l _ s
  · exact hbook _ fun s => still_book rfl rfl rfl rfl rfl
  · exact hbook _ fun s => still_book rfl rfl rfl rfl rfl
  · exact Respects.pure _
  · exact hbook _ fun s => still_emit rfl s
  · exact still_parseSlice nalu

lemma still_parseNalus (nalus : List GstH265NalUnit) : Respects (Still l) (parseNalus env nalus) := by
  induction nalus with
  | nil => exact Respects.pure _
  | cons nalu nalus ih =>
    refine Respects.bind (still_parseNalu nalu) fun ok => ?_
    exact Respects.ite (fun _ => ih) fun _ => Respects.pure _

end Parsing

section Pictures

lemma still_newSequence (sps : GstH265SPS) (maxDpbSize : Nat) :
    Respects (Still l) (newSequence env sps maxDpbSize) := by
  refine Respects.get_bind fun s => (Respects.valueOr _ _).bind fun input => ?_
  refine Respects.bind (Respects.modify fun s => ?_) fun _ => Respects.pure _
  exact (still_emit (e := .beginSequence _ _) rfl s).trans (still_book rfl rfl rfl rfl rfl)

lemma still_configure (sps : GstH265SPS) (s : Decoder P) : Still l s (s.configure sps) :=
  ⟨⟨rfl, rfl, rfl, fun _ => rfl, fun _ _ => rfl, [], rfl, by simp⟩, rfl, rfl, rfl, rfl, fun _ _ => rfl⟩

lemma still_setLatency (sps : GstH265SPS) (s : Decoder P) : Still l s (s.setLatency sps) := by
  unfold Decoder.setLatency
  split
  · exact still_book rfl rfl rfl rfl rfl
  · exact .refl l s

lemma still_setVkPic (hp : p ∈ l) (vkpic : VkPic) (s : Decoder P) : Still l s (setVkPic p vkpic s) :=
  still_modifyPic (f := fun x => { x with userData := some vkpic }) (fun _ => rfl) hp s

lemma still_allocPicture (hp : p ∈ l) (s : Decoder P) : Still l s (s.allocPicture env p) := by
  unfold Decoder.allocPicture
  simp only
  split
  · exact still_emit rfl s
  · exact (still_emit rfl s).trans (still_setVkPic hp _ _)

lemma still_vkNewPicture (hp : p ∈ l) : Respects (Still l) (vkNewPicture env p) :=
  Respects.get_bind fun _ => Respects.bind (Respects.modify fun s => still_allocPicture hp s) fun _ => Respects.pure _

lemma still_calculatePoc (sps : GstH265SPS) (slice : GstH265Slice) (hp : p ∈ l) :
    Respects (Still l) (calculatePoc sps slice p : DecoderM P Unit) := by
  have hpoc : ∀ poc lsb, Respects (Still l) (modifyPicture p (setPoc poc lsb) : DecoderM P Unit) := fun poc lsb =>
    Respects.modify fun s => still_modifyPic (f := setPoc poc lsb) (fun _ => rfl) hp s
  have hstate : ∀ msb lsb, Respects (Still l) (modify (Decoder.setPocState msb lsb) : DecoderM P Unit) := fun msb lsb =>
    Respects.modify fun s => still_book rfl rfl rfl rfl rfl
  have hkeep : ∀ lsb msb, Respects (Still l) (modify (Decoder.keepPoc lsb msb) : DecoderM P Unit) := fun lsb msb =>
    Respects.modify fun s => still_book rfl rfl rfl rfl rfl
  have hshow : Respects (Still l) (showOrderCount sps slice p : DecoderM P Unit) :=
    Respects.modify fun s => still_emit rfl s
  refine Respects.get_bind fun s => ?_
  simp only
  refine Respects.ite (fun _ => ?_) fun _ => ?_
  · refine Respects.bind (hpoc _ _) fun _ => Respects.bind (hstate _ _) fun _ => Respects.bind (hkeep _ _) fun _ => ?_
    exact Respects.bind hshow fun _ => Respects.ite (fun _ => hkeep _ _) fun _ => Respects.pure _
  · refine Respects.bind (hpoc _ _) fun _ => Respects.bind (hstate _ _) fun _ => ?_
    exact Respects.bind hshow fun _ => Respects.ite (fun _ => hkeep _ _) fun _ => Respects.pure _

lemma setBufferFlags_number (b : Bool) (x : Picture) :
    (setBufferFlags b x).systemFrameNumber = x.systemFrameNumber := by
  unfold setBufferFlags
  split <;> try split
  all_goals rfl

lemma still_initCurrentPicture (sps : GstH265SPS) (slice : GstH265Slice) (hp : p ∈ l) :
    Respects (Still l) (initCurrentPicture sps slice p : DecoderM P Unit) := by
  refine Respects.bind (Respects.modify fun s => still_book rfl rfl rfl rfl rfl) fun _ => Respects.get_bind fun s => ?_
  have hfill : ∀ t : Decoder P, Still l t (t.modifyPic p (fillFromSlice s.associatedIrapNoRaslOutputFlag slice)) :=
    still_modifyPic (fun _ => rfl) hp
  have hflags : ∀ t : Decoder P, Still l t (t.modifyPic p fun x =>
      setBufferFlags s.fieldSeqFlag { x with picStruct := s.curPicStruct }) :=
    still_modifyPic (fun _ => setBufferFlags_number _ _) hp
  refine Respects.bind (Respects.modify hfill) fun _ => ?_
  exact Respects.bind (still_calculatePoc sps slice hp) fun _ => Respects.modify hflags

lemma still_deriveAndMarkRps (pocs : RefPocs) : Respects (Still l) (deriveAndMarkRps pocs : DecoderM P Unit) := by
  refine Respects.bind (respects_modifyChecked fun s => ?_) fun _ => respects_modifyChecked fun s => ?_
  · exact (still_keeps (Store.keeps_unrefAll _ _) (Store.sameNeeds_unrefAll _ _)).trans (still_book rfl rfl rfl rfl rfl)
  · exact (still_keeps (f := fun st => (st.deriveAndMarkRps pocs).2) (Store.keeps_deriveAndMarkRps pocs _)
      (Store.sameNeeds_deriveAndMarkRps pocs _)).trans (still_book rfl rfl rfl rfl rfl)

lemma still_prepareRps (sps : GstH265SPS) (slice : GstH265Slice) (p : PicId) :
    Respects (Still l) (prepareRps sps slice p : DecoderM P Unit) := by
  have hderive : ∀ pocs, Respects (Still l) (deriveAndMarkRps pocs : DecoderM P Unit) := still_deriveAndMarkRps
  have hrest : ∀ poc, Respects (Still l) (deriveRps sps slice poc : DecoderM P Unit) := fun poc => by
    unfold deriveRps
    refine Respects.ite (fun _ => hderive _) fun _ => ?_
    split
    · exact Respects.throw _
    · exact hderive _
  refine Respects.get_bind fun s => Respects.ite (fun _ => ?_) fun _ => hrest _
  refine Respects.bind (respects_onStore fun s => ?_) fun _ => hrest _
  exact still_keeps (Store.keeps_dpbMarkAllNonRef _) (Store.sameNeeds_dpbMarkAllNonRef _)

lemma still_vkStartPicture (hp : p ∈ l) (slice : GstH265Slice) : Respects (Still l) (vkStartPicture env p slice) := by
  refine Respects.get_bind fun s => (Respects.valueOr _ _).bind fun vkpic => (Respects.valueOr _ _).bind fun vps => ?_
  refine Respects.bind (Respects.modify fun s => ?_) fun _ => ?_
  · exact ((still_setVkPic hp _ s).trans (still_emit (e := .startPicture _ _) rfl _)).trans
      (still_book rfl rfl rfl rfl rfl)
  · exact Respects.ite (fun _ => Respects.pure _) fun _ => Respects.throw _

lemma still_decodeSlice (h : ∀ p, s.currentPicture = some p → p ∈ l) :
    Ends (Still l s) (decodeSlice env) s fun _ t => Still l s t := by
  refine Ends.get_bind ?_
  split
  · exact Ends.pure (.refl l s)
  · rename_i p hp
    have hslice : Respects (Still l) (vkDecodeSlice env p s.currentSlice) :=
      Respects.get_bind fun t => (Respects.valueOr _ _).bind fun vkpic =>
        Respects.bind (Respects.modify fun u => (still_setVkPic (h p hp) _ u).trans (still_emit rfl _)) fun _ =>
          Respects.pure _
    exact hslice s

end Pictures

end VkVideoParser.H265
