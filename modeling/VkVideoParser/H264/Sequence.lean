import VkVideoParser.Sequences
import VkVideoParser.H264.Sets

/-! The sequence begun last, and the SPS that a picture activates. -/

namespace VkVideoParser.H264

open Execution Relation Histories SequenceEvent

variable {P : Type} {env : Env P} {k : Phase} {s : Decoder P} {x y : Phase × Decoder P} {log : List Event}

def Event.sequenceEvent : Event → Option (SequenceEvent GstH264SPS)
  | .beginSequence info sps => some (.begun info sps)
  | .parserUpdateSps sps _ => some (.stored sps)
  | _ => none

-- what process_sps compares, and what it does not
def dimensions (sps : GstH264SPS) : Nat × Nat × Bool := (sps.width, sps.height, sps.frameMbsOnlyFlag)

def sampleFormat (sps : GstH264SPS) : Nat × Nat × Nat :=
  (sps.chromaFormatIdc, sps.bitDepthLumaMinus8, sps.bitDepthChromaMinus8)

/-- BeginSequence described the SPS. -/
structure Describes (info : SequenceInfo) (sps : GstH264SPS) : Prop where
  codedWidth : info.nCodedWidth = sps.width
  codedHeight : info.nCodedHeight = sps.height
  progSeq : info.bProgSeq = sps.frameMbsOnlyFlag
  chromaFormat : info.nChromaFormat = sps.chromaFormatIdc
  bitDepthLuma : info.uBitDepthLumaMinus8 = sps.bitDepthLumaMinus8
  bitDepthChroma : info.uBitDepthChromaMinus8 = sps.bitDepthChromaMinus8

instance (info : SequenceInfo) (sps : GstH264SPS) : Decidable (Describes info sps) :=
  decidable_of_iff (info.nCodedWidth = sps.width ∧ info.nCodedHeight = sps.height ∧
      info.bProgSeq = sps.frameMbsOnlyFlag ∧ info.nChromaFormat = sps.chromaFormatIdc ∧
      info.uBitDepthLumaMinus8 = sps.bitDepthLumaMinus8 ∧ info.uBitDepthChromaMinus8 = sps.bitDepthChromaMinus8)
    ⟨fun ⟨h₁, h₂, h₃, h₄, h₅, h₆⟩ => ⟨h₁, h₂, h₃, h₄, h₅, h₆⟩, fun h => ⟨h.1, h.2, h.3, h.4, h.5, h.6⟩⟩

lemma Describes.congr {info : SequenceInfo} {sps sps' : GstH264SPS} (h : Describes info sps)
    (hd : dimensions sps = dimensions sps') (hf : sampleFormat sps = sampleFormat sps') : Describes info sps' := by
  simp only [dimensions, sampleFormat, Prod.mk.injEq] at hd hf
  exact ⟨h.1.trans hd.1, h.2.trans hd.2.1, h.3.trans hd.2.2, h.4.trans hf.1, h.5.trans hf.2.1, h.6.trans hf.2.2⟩

/-- The decoder is set up for the SPS that was begun or stored last. -/
structure InStep (x : Phase × Decoder P) : Prop where
  begun : ∀ sps, x.1.begun = some sps → latestSps Event.sequenceEvent (calls x.2.store.log) = some sps
  idle : x.1.begun = none →
    (latestSps Event.sequenceEvent (calls x.2.store.log) = none ∧ x.2.width = 0) ∨
      ∃ sps, latestSps Event.sequenceEvent (calls x.2.store.log) = some sps ∧
        dimensions sps = (x.2.width, x.2.height, !x.2.store.dpb.interlaced)
  stored : StoredLike Event.sequenceEvent dimensions (calls x.2.store.log)
  described : ∀ info sps, Event.beginSequence info sps ∈ calls x.2.store.log → Describes info sps

lemma dimensions_of_sameSequence {sps : GstH264SPS} (h : sameSequence s sps) :
    dimensions sps = (s.width, s.height, !s.store.dpb.interlaced) := by
  simp only [sameSequence, Bool.and_eq_true, decide_eq_true_eq] at h
  simp [dimensions, h]

lemma InStep.silent (hx : InStep x) (h : Silent x y) : InStep y := by
  refine ⟨?_, ?_, ?_, ?_⟩
  · rw [h.begun, h.calls]
    exact hx.begun
  · rw [h.begun, h.calls, h.width, h.height, h.interlaced]
    exact hx.idle
  · rw [h.calls]
    exact hx.stored
  · rw [h.calls]
    exact hx.described

-- one more call, which is about no sequence
lemma InStep.tell (hx : InStep x) {e : Event} (hl : calls y.2.store.log = e :: calls x.2.store.log)
    (he : e.sequenceEvent = none) (hb : y.1.begun = x.1.begun)
    (hr : (y.2.width, y.2.height, y.2.store.dpb.interlaced) = (x.2.width, x.2.height, x.2.store.dpb.interlaced)) :
    InStep y := by
  simp only [Prod.mk.injEq] at hr
  refine ⟨?_, ?_, ?_, ?_⟩
  · rw [hb, hl, latestSps_cons_none he]
    exact hx.begun
  · rw [hb, hl, latestSps_cons_none he, hr.1, hr.2.1, hr.2.2]
    exact hx.idle
  · rw [hl]
    refine ⟨fun sps hs => ?_, hx.stored⟩
    rw [he] at hs
    cases hs
  · intro info sps hm
    rw [hl] at hm
    rcases List.mem_cons.mp hm with rfl | hm
    · cases he
    · exact hx.described info sps hm

lemma InStep.store (hx : InStep (k, s)) {sps : GstH264SPS} (ok : Bool) (hk : k.begun = none ∨ k.begun = some sps)
    (hs : sameSequence s sps) (hsize : sizeInMbs sps ≠ 0) :
    InStep (k.setBegun none, s.emit (.parserUpdateSps sps ok)) := by
  have hd := dimensions_of_sameSequence hs
  refine ⟨?_, fun _ => .inr ⟨sps, rfl, hd⟩, ⟨?_, hx.stored⟩, ?_⟩
  · intro sps' h
    cases h
  · rintro sps' ⟨⟩
    change (latestSps Event.sequenceEvent (calls s.store.log)).map dimensions = some (dimensions sps)
    rcases hk with hk | hk
    · rcases hx.idle hk with ⟨-, hw⟩ | ⟨prev, hp, hpd⟩
      · refine absurd ?_ hsize
        have : sps.width = s.width := congrArg Prod.fst hd
        simp [sizeInMbs, this, show s.width = 0 from hw]
      · exact hp ▸ congrArg some (hpd.trans hd.symm)
    · exact hx.begun sps hk ▸ rfl
  · intro info sps' hm
    rcases List.mem_cons.mp hm with he | hm
    · cases he
    · exact hx.described info sps' hm

lemma InStep.begin (hx : InStep (k, s)) (sps : GstH264SPS) (input : InputState) :
    InStep (k.setBegun (some sps), s.beginSequence env sps (sequenceInfo env sps (maxDpbSizeOf sps) input)) := by
  refine ⟨?_, ?_, ⟨?_, hx.stored⟩, ?_⟩
  · rintro sps' ⟨⟩
    rfl
  · intro h
    cases h
  · rintro sps' ⟨⟩
  · intro info sps' hm
    rcases List.mem_cons.mp hm with he | hm
    · cases he
      exact ⟨rfl, rfl, rfl, rfl, rfl, rfl⟩
    · exact hx.described info sps' hm

lemma InStep.speaks (hx : InStep x) (h : Speaks env x y) : InStep y := by
  cases h with
  | updateSps | updatePps | start | slice => exact hx.tell rfl rfl rfl rfl
  | parserUpdateSps sps ok hk hs hsize => exact hx.store ok hk hs hsize
  | beginSequence sps input => exact hx.begin sps input
  | configure sps hk =>
    refine ⟨hx.begun, fun h => ?_, hx.stored, hx.described⟩
    cases hk.symm.trans h
  | rejectSps sps hk hs =>
    refine ⟨?_, fun _ => ?_, hx.stored, hx.described⟩
    · intro sps' h
      cases h
    · rcases hk with hk | hk
      · exact hx.idle hk
      · exact .inr ⟨sps, hx.begun sps hk, dimensions_of_sameSequence hs⟩
  | alloc p hm hv =>
    rename_i k s
    cases hr : env.allocPictureBuffer s.store.log with
    | none =>
      rw [allocPicture_none p hr]
      exact hx.tell rfl rfl rfl rfl
    | some pic =>
      rw [allocPicture_some p hr]
      exact hx.tell rfl rfl rfl rfl
  | endPicture p vkpic hk hv hk' hb => exact hx.tell rfl rfl hb rfl
  | display p vkpic frame hv hk hb => exact hx.tell rfl rfl hb rfl

lemma inStep_start : InStep (Phase.idle, Decoder.start env) := by
  refine ⟨?_, fun _ => .inl ⟨rfl, rfl⟩, trivial, ?_⟩
  · intro sps h
    cases h
  · intro info sps h
    cases h

lemma inStep_reach (h : ReflTransGen (Act env) (Phase.idle, Decoder.start env) x) : InStep x :=
  kept (fun _ _ h hx => h.speaks.elim hx.silent hx.speaks) h inStep_start

/-- The sequence begun last describes what the slices of the picture activate. -/
def SequenceAgrees (log : List Event) (p : PicId) : Prop :=
  Agrees Event.sequenceEvent Describes ((activations log p).map Activation.sps) log

instance (log : List Event) (p : PicId) : Decidable (SequenceAgrees log p) :=
  inferInstanceAs (Decidable (Agrees ..))

/-- The slices activate what the SPS processed last says, and no SPS changed the sample format alone since the
sequence was begun. -/
def SequenceFollows (log : List Event) (p : PicId) : Prop :=
  Follows Event.sequenceEvent dimensions sampleFormat ((activations log p).map Activation.sps) log

instance (log : List Event) (p : PicId) : Decidable (SequenceFollows log p) :=
  inferInstanceAs (Decidable (Follows ..))

def Event.decodedPicture : Event → Option PicId
  | .decodePicture p .. => some p
  | _ => none

/-- A picture that follows its sequence is decoded in a sequence that describes it. -/
def SequenceFits (log : List Event) (e : Event) : Prop :=
  ∀ p ∈ e.decodedPicture, SequenceFollows log p → SequenceAgrees log p

lemma begun_of_sequenceEvent {e : Event} {info : SequenceInfo} {sps : GstH264SPS}
    (h : e.sequenceEvent = some (.begun info sps)) : e = .beginSequence info sps := by
  cases e <;> cases h
  rfl

lemma InStep.agrees (hx : InStep x) (hl : log <:+ calls x.2.store.log) {p : PicId} (h : SequenceFollows log p) :
    SequenceAgrees log p := by
  refine h.agrees (hx.stored.suffix hl) (fun e he info sps hb => ?_) fun _ _ _ => Describes.congr
  exact hx.described info sps (begun_of_sequenceEvent hb ▸ hl.subset he)

lemma always_sequenceFits (env : Env P) (inputs : List Input) : Always SequenceFits (clientCalls env inputs) := by
  obtain ⟨k, hk⟩ := reach_final env inputs
  exact always_iff.mpr fun e l hl p _ => (inStep_reach hk).agrees ((List.suffix_cons ..).trans hl)

end VkVideoParser.H264
