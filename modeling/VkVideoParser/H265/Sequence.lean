import VkVideoParser.Sequences
import VkVideoParser.Library.Histories
import VkVideoParser.H265.Runs
import VkVideoParser.H265.Script

/-! The sequence begun last, and the SPS that a picture activates. -/

namespace VkVideoParser.H265

open Execution Relation Histories SequenceEvent

variable {P : Type} {env : Env P} {k : Phase} {s : Decoder P} {x y : Phase × Decoder P} {log : List Event}
  {p : PicId}

def activationOf (p : PicId) : Event → Option Activation
  | .startPicture q info => if q = p then some info.active else none
  | .decodeSlice q _ active => if q = p then some active else none
  | _ => none

/-- The sets that the slices of a picture activate. -/
def activations (log : List Event) (p : PicId) : List Activation := log.filterMap (activationOf p)

def Event.sequenceEvent : Event → Option (SequenceEvent GstH265SPS)
  | .beginSequence info sps => some (.begun info sps)
  | .processSps sps => some (.stored sps)
  | _ => none

-- of what process_sps compares, the part that BeginSequence says, and what it does not compare
def dimensions (sps : GstH265SPS) : Nat × Nat := (sps.width, sps.height)

def sampleFormat (sps : GstH265SPS) : Nat × Nat × Nat :=
  (sps.chromaFormatIdc, sps.bitDepthLumaMinus8, sps.bitDepthChromaMinus8)

/-- BeginSequence described the SPS. -/
structure Describes (info : SequenceInfo) (sps : GstH265SPS) : Prop where
  codedWidth : info.nCodedWidth = sps.width
  codedHeight : info.nCodedHeight = sps.height
  chromaFormat : info.nChromaFormat = sps.chromaFormatIdc
  bitDepthLuma : info.uBitDepthLumaMinus8 = sps.bitDepthLumaMinus8
  bitDepthChroma : info.uBitDepthChromaMinus8 = sps.bitDepthChromaMinus8

instance (info : SequenceInfo) (sps : GstH265SPS) : Decidable (Describes info sps) :=
  decidable_of_iff (info.nCodedWidth = sps.width ∧ info.nCodedHeight = sps.height ∧
      info.nChromaFormat = sps.chromaFormatIdc ∧ info.uBitDepthLumaMinus8 = sps.bitDepthLumaMinus8 ∧
      info.uBitDepthChromaMinus8 = sps.bitDepthChromaMinus8)
    ⟨fun ⟨h₁, h₂, h₃, h₄, h₅⟩ => ⟨h₁, h₂, h₃, h₄, h₅⟩, fun h => ⟨h.1, h.2, h.3, h.4, h.5⟩⟩

lemma Describes.congr {info : SequenceInfo} {sps sps' : GstH265SPS} (h : Describes info sps)
    (hd : dimensions sps = dimensions sps') (hf : sampleFormat sps = sampleFormat sps') : Describes info sps' := by
  simp only [dimensions, sampleFormat, Prod.mk.injEq] at hd hf
  exact ⟨h.1.trans hd.1, h.2.trans hd.2, h.3.trans hf.1, h.4.trans hf.2.1, h.5.trans hf.2.2⟩

/-- The decoder is set up for the SPS that was begun or processed last. -/
structure InStep (x : Phase × Decoder P) : Prop where
  begun : ∀ sps, x.1.begun = some sps → latestSps Event.sequenceEvent x.2.store.log = some sps
  idle : x.1.begun = none →
    (latestSps Event.sequenceEvent x.2.store.log = none ∧ x.2.store.dpb.maxNumPics = 0) ∨
      ∃ sps, latestSps Event.sequenceEvent x.2.store.log = some sps ∧ dimensions sps = (x.2.width, x.2.height)
  stored : StoredLike Event.sequenceEvent dimensions x.2.store.log
  described : ∀ info sps, Event.beginSequence info sps ∈ x.2.store.log → Describes info sps

/-- A move that begins no sequence and processes no SPS. -/
structure Inert (x y : Phase × Decoder P) : Prop where
  log : ∃ l, y.2.store.log = l ++ x.2.store.log ∧ ∀ e ∈ l, e.sequenceEvent = none
  begun : y.1.begun = x.1.begun
  width : y.2.width = x.2.width
  height : y.2.height = x.2.height
  maxNumPics : y.2.store.dpb.maxNumPics = x.2.store.dpb.maxNumPics

lemma latestSps_append {l : List Event} (h : ∀ e ∈ l, e.sequenceEvent = none) :
    latestSps Event.sequenceEvent (l ++ log) = latestSps Event.sequenceEvent log := by
  induction l with
  | nil => rfl
  | cons e l ih =>
    rw [List.cons_append, latestSps_cons_none (h e List.mem_cons_self)]
    exact ih fun e he => h e (List.mem_cons_of_mem _ he)

lemma storedLike_append {l : List Event} (h : ∀ e ∈ l, e.sequenceEvent = none)
    (hlog : StoredLike Event.sequenceEvent dimensions log) : StoredLike Event.sequenceEvent dimensions (l ++ log) := by
  induction l with
  | nil => exact hlog
  | cons e l ih =>
    refine ⟨fun sps hs => ?_, ih fun e he => h e (List.mem_cons_of_mem _ he)⟩
    rw [h e List.mem_cons_self] at hs
    cases hs

lemma InStep.inert (hx : InStep x) (h : Inert x y) : InStep y := by
  obtain ⟨l, hl, hs⟩ := h.log
  refine ⟨?_, ?_, ?_, ?_⟩
  · rw [h.begun, hl, latestSps_append hs]
    exact hx.begun
  · rw [h.begun, hl, latestSps_append hs, h.width, h.height, h.maxNumPics]
    exact hx.idle
  · rw [hl]
    exact storedLike_append hs hx.stored
  · intro info sps hm
    rw [hl] at hm
    rcases List.mem_append.mp hm with hm | hm
    · cases hs _ hm
    · exact hx.described info sps hm

lemma inert_keeps {c : Current} {h : List (Role × PicId)} {t : Decoder P} (hk : Store.Keeps s.store t.store)
    (hw : t.width = s.width) (hh : t.height = s.height) :
    Inert (k, s) ({ k with current := c, hold := h }, t) := by
  obtain ⟨l, hl, hr⟩ := hk.log
  refine ⟨⟨l, hl, fun e he => ?_⟩, rfl, hw, hh, hk.maxNumPics⟩
  have := hr e he
  cases e <;> first | rfl | cases this

lemma maxDpbSizeOf_pos (sps : GstH265SPS) : maxDpbSizeOf sps ≠ 0 := by
  simp only [maxDpbSizeOf]
  split_ifs <;> simp

lemma dimensions_of_sameSequence {sps : GstH265SPS} (h : sameSequence s sps) :
    dimensions sps = (s.width, s.height) ∧ s.store.dpb.maxNumPics ≠ 0 := by
  simp only [sameSequence, Bool.and_eq_true, decide_eq_true_eq] at h
  obtain ⟨⟨⟨⟨⟨⟨hw, hh⟩, hn⟩, -⟩, -⟩, -⟩, -⟩ := h
  exact ⟨by rw [dimensions, hw, hh], hn ▸ maxDpbSizeOf_pos sps⟩

lemma InStep.processSps (hx : InStep (k, s)) {sps : GstH265SPS} {n : Nat} (hk : k.begun = none ∨ k.begun = some sps)
    (hs : sameSequence s sps) : InStep (k.setBegun none, (s.withLatency n).emit (.processSps sps)) := by
  obtain ⟨hd, hn⟩ := dimensions_of_sameSequence hs
  refine ⟨?_, fun _ => .inr ⟨sps, rfl, hd⟩, ⟨?_, hx.stored⟩, ?_⟩
  · intro sps' h
    cases h
  · rintro sps' ⟨⟩
    rcases hk with hk | hk
    · rcases hx.idle hk with ⟨-, hz⟩ | ⟨prev, hp, hpd⟩
      · exact absurd hz hn
      · exact hp ▸ congrArg some (hpd.trans hd.symm)
    · exact hx.begun sps hk ▸ rfl
  · intro info sps' hm
    rcases List.mem_cons.mp hm with he | hm
    · cases he
    · exact hx.described info sps' hm

lemma InStep.begin (hx : InStep (k, s)) (sps : GstH265SPS) (input : InputState) :
    InStep (k.setBegun (some sps), s.beginSequence env sps
      (sequenceInfo env sps (s.vpsOf env sps) (maxDpbSizeOf sps) input)) := by
  refine ⟨?_, ?_, ⟨?_, hx.stored⟩, ?_⟩
  · rintro sps' ⟨⟩
    rfl
  · intro h
    cases h
  · rintro sps' ⟨⟩
  · intro info sps' hm
    rcases List.mem_cons.mp hm with he | hm
    · cases he
      exact ⟨rfl, rfl, rfl, rfl, rfl⟩
    · exact hx.described info sps' hm

lemma Act.inStep (h : Act env x y) (hx : InStep x) : InStep y := by
  have hone : ∀ {e : Event}, e.sequenceEvent = none → ∃ l, e :: x.2.store.log = l ++ x.2.store.log ∧
      ∀ e ∈ l, e.sequenceEvent = none := fun {e} he => ⟨[e], rfl, by simpa using he⟩
  cases h with
  | beginSequence sps input hs => exact hx.begin sps input
  | processSps sps hk hs => exact hx.processSps hk hs
  | configure sps hk =>
    refine ⟨hx.begun, fun h => ?_, hx.stored, hx.described⟩
    cases hk.symm.trans h
  | book h =>
    exact hx.inert ⟨⟨[], h.log, by simp⟩, rfl, h.width, h.height, congrArg Dpb.maxNumPics h.dpb⟩
  | parsed parser h => cases h <;> exact hx.inert ⟨hone rfl, rfl, rfl, rfl, rfl⟩
  | updateVps | updateSps | updatePps =>
    exact hx.inert ⟨⟨[_, _], rfl, by simp [Event.sequenceEvent]⟩, rfl, rfl, rfl, rfl⟩
  | removeFrame h => cases h <;> exact hx.inert ⟨hone rfl, rfl, rfl, rfl, rfl⟩
  | alloc p hk hv =>
    apply hx.inert
    unfold Decoder.allocPicture
    simp only
    split <;> exact ⟨hone rfl, rfl, rfl, rfl, rfl⟩
  | unref p | unrefCurrent p => exact hx.inert (inert_keeps (Store.keeps_unref p _) rfl rfl)
  | clearSets => exact hx.inert (inert_keeps (Store.keeps_unrefAll _ _) rfl rfl)
  | deriveSets p pocs => exact hx.inert (inert_keeps (Store.keeps_deriveAndMarkRps pocs _) rfl rfl)
  | markAllNonRef => exact hx.inert (inert_keeps (Store.keeps_dpbMarkAllNonRef _) rfl rfl)
  | deleteUnused => exact hx.inert (inert_keeps (Store.keeps_dpbDeleteUnused _) rfl rfl)
  | add p => exact hx.inert (inert_keeps (Store.keeps_storePicture p _) rfl rfl)
  | bump drain => exact hx.inert (inert_keeps (Store.keeps_dpbBump drain _) rfl rfl)
  | dpbClear => exact hx.inert (inert_keeps (Store.keeps_dpbClear _) rfl rfl)
  | unhandledNALU | showOrderCount | showBumping | flush | finishFrame | start | slice | endPicture | display =>
    exact hx.inert ⟨hone rfl, rfl, rfl, rfl, rfl⟩
  | _ => exact hx.inert ⟨⟨[], rfl, by simp⟩, rfl, rfl, rfl, rfl⟩

lemma inStep_start : InStep (Phase.idle, Decoder.start env) := by
  refine ⟨?_, fun _ => .inl ⟨rfl, rfl⟩, trivial, ?_⟩
  · intro sps h
    cases h
  · intro info sps h
    cases h

/-- The sequence begun last describes what the slices of the picture activate. -/
def SequenceAgrees (log : List Event) (p : PicId) : Prop :=
  Agrees Event.sequenceEvent Describes ((activations log p).map Activation.sps) log

instance (log : List Event) (p : PicId) : Decidable (SequenceAgrees log p) :=
  inferInstanceAs (Decidable (Agrees ..))

/-- The slices activate what the SPS processed last says, and no SPS changed the sample format alone since the
sequence was begun. -/
def SequenceFollows (log : List Event) (p : PicId) : Prop :=
  Follows Event.sequenceEvent dimensions sampleFormat ((activations log p).map Activation.sps) log

instance (log : List Event) (p : PicId) : Decidable (SequenceFollows log p) :=
  inferInstanceAs (Decidable (Follows ..))

def Event.decodedPicture : Event → Option PicId
  | .decodePicture p .. => some p
  | _ => none

/-- A picture that follows its sequence is decoded in a sequence that describes it. -/
def SequenceFits (log : List Event) (e : Event) : Prop :=
  ∀ p ∈ e.decodedPicture, SequenceFollows log p → SequenceAgrees log p

lemma begun_of_sequenceEvent {e : Event} {info : SequenceInfo} {sps : GstH265SPS}
    (h : e.sequenceEvent = some (.begun info sps)) : e = .beginSequence info sps := by
  cases e <;> cases h
  rfl

lemma InStep.agrees (hx : InStep x) (hl : log <:+ x.2.store.log) {p : PicId} (h : SequenceFollows log p) :
    SequenceAgrees log p := by
  refine h.agrees (hx.stored.suffix hl) (fun e he info sps hb => ?_) fun _ _ _ => Describes.congr
  exact hx.described info sps (begun_of_sequenceEvent hb ▸ hl.subset he)

lemma always_sequenceFits (env : Env P) (inputs : List Input) :
    Always SequenceFits (final (runInputs env inputs (Decoder.start env))).store.log := by
  obtain ⟨k, hk⟩ := reach_final env inputs
  have hx : InStep _ := kept (fun _ _ h => h.inStep) hk inStep_start
  exact always_iff.mpr fun e l hl p _ => hx.agrees ((List.suffix_cons ..).trans hl)

end VkVideoParser.H265
