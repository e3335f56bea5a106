import VkVideoParser.H264.Script
import VkVideoParser.H264.Sequence
import VkVideoParser.H264.Started
import VkVideoParser.H265.RefPicSetIndices
import VkVideoParser.H265.ScalingLists

/-! What DecodePicture is told twice: the fields of the picture data that the parameter sets have too, and the size of
the picture, which BeginSequence announced. -/

namespace VkVideoParser

open Execution Histories SequenceEvent

/-- The blocks of 16 samples that cover a width or height. -/
def blocksOf (coded : Nat) : Nat := (coded + 15) / 16

namespace H264

variable {P : Type} {env : Env P} {s : Decoder P} {log : List Event} {slice : GstH264Slice} {v : VkPic} {d : DecodeCall}

-- the number that an enumerator stands for
def StdVideoH264WeightedBipredIdc.coded : StdVideoH264WeightedBipredIdc → Option Nat
  | .default => some 0
  | .explicit => some 1
  | .implicit => some 2
  | .invalid => none

def StdVideoH264ChromaFormatIdc.coded : StdVideoH264ChromaFormatIdc → Option Nat
  | .monochrome => some 0
  | .c420 => some 1
  | .c422 => some 2
  | .c444 => some 3
  | .invalid => none

/-- The quantities that are told in two places. -/
structure Redundant where
  picParameterSetId : Nat
  seqParameterSetId : Nat
  ppsSeqParameterSetId : Nat
  numRefIdxL0ActiveMinus1 : Nat
  numRefIdxL1ActiveMinus1 : Nat
  weightedPredFlag : Bool
  weightedBipredIdc : Option Nat
  picInitQpMinus26 : Int
  picInitQsMinus26 : Int
  redundantPicCntPresentFlag : Bool
  deblockingFilterControlPresentFlag : Bool
  transform8x8ModeFlag : Bool
  constrainedIntraPredFlag : Bool
  entropyCodingModeFlag : Bool
  picOrderPresentFlag : Bool
  chromaQpIndexOffset : Int
  secondChromaQpIndexOffset : Int
  chromaFormat : Option Nat
  deriving DecidableEq

def PictureData.redundant (data : PictureData) : Redundant where
  picParameterSetId := data.h264.picParameterSetId
  seqParameterSetId := data.h264.seqParameterSetId
  ppsSeqParameterSetId := data.h264.seqParameterSetId
  numRefIdxL0ActiveMinus1 := data.h264.numRefIdxL0ActiveMinus1
  numRefIdxL1ActiveMinus1 := data.h264.numRefIdxL1ActiveMinus1
  weightedPredFlag := data.h264.weightedPredFlag
  weightedBipredIdc := some data.h264.weightedBipredIdc
  picInitQpMinus26 := data.h264.picInitQpMinus26
  picInitQsMinus26 := data.h264.picInitQsMinus26
  redundantPicCntPresentFlag := data.h264.redundantPicCntPresentFlag
  deblockingFilterControlPresentFlag := data.h264.deblockingFilterControlPresentFlag
  transform8x8ModeFlag := data.h264.transform8x8ModeFlag
  constrainedIntraPredFlag := data.h264.constrainedIntraPredFlag
  entropyCodingModeFlag := data.h264.entropyCodingModeFlag
  picOrderPresentFlag := data.h264.picOrderPresentFlag
  chromaQpIndexOffset := data.h264.chromaQpIndexOffset
  secondChromaQpIndexOffset := data.h264.secondChromaQpIndexOffset
  chromaFormat := some data.chromaFormat

def redundantOf (sps : StdVideoH264SequenceParameterSet) (pps : StdVideoH264PictureParameterSet) : Redundant where
  picParameterSetId := pps.picParameterSetId
  seqParameterSetId := sps.seqParameterSetId
  ppsSeqParameterSetId := pps.seqParameterSetId
  numRefIdxL0ActiveMinus1 := pps.numRefIdxL0DefaultActiveMinus1
  numRefIdxL1ActiveMinus1 := pps.numRefIdxL1DefaultActiveMinus1
  weightedPredFlag := pps.flags.weightedPredFlag
  weightedBipredIdc := pps.weightedBipredIdc.coded
  picInitQpMinus26 := pps.picInitQpMinus26
  picInitQsMinus26 := pps.picInitQsMinus26
  redundantPicCntPresentFlag := pps.flags.redundantPicCntPresentFlag
  deblockingFilterControlPresentFlag := pps.flags.deblockingFilterControlPresentFlag
  transform8x8ModeFlag := pps.flags.transform8x8ModeFlag
  constrainedIntraPredFlag := pps.flags.constrainedIntraPredFlag
  entropyCodingModeFlag := pps.flags.entropyCodingModeFlag
  picOrderPresentFlag := pps.flags.bottomFieldPicOrderInFramePresentFlag
  chromaQpIndexOffset := pps.chromaQpIndexOffset
  secondChromaQpIndexOffset := pps.secondChromaQpIndexOffset
  chromaFormat := sps.chromaFormatIdc.coded

/-- The size in blocks is that of the sequence begun last. -/
def SizeAnnounced (log : List Event) (width height : Nat) : Prop :=
  ∀ b ∈ lastSequence Event.sequenceEvent log, width = blocksOf b.1.nCodedWidth ∧ height = blocksOf b.1.nCodedHeight

instance (log : List Event) (width height : Nat) : Decidable (SizeAnnounced log width height) :=
  inferInstanceAs (Decidable (∀ b ∈ lastSequence Event.sequenceEvent log, _))

/-- Both places agree. -/
def FieldsAgree (log : List Event) (d : DecodeCall) : Prop :=
  d.data.redundant = redundantOf d.sps.sps d.pps.pps ∧ SizeAnnounced log d.data.picWidthInMbs d.data.frameHeightInMbs

instance (log : List Event) (d : DecodeCall) : Decidable (FieldsAgree log d) := inferInstanceAs (Decidable (_ ∧ _))

/-- The sets have nothing in the fields of which one place is written from another source, and the whole blocks of the
SPS cover the sequence announced. -/
structure Plain (log : List Event) (active : Activation) : Prop where
  qs : active.pps.picInitQpMinus26 = active.pps.picInitQsMinus26
  picOrder : active.pps.picOrderPresentFlag = false
  bipred : active.pps.weightedBipredIdc ≤ 2
  chroma : active.sps.chromaFormatIdc ≤ 3
  size : SizeAnnounced log (active.sps.width / 16) (active.sps.height / 16)

lemma coded_weightedBipredIdc (n : Nat) : some n = (getH264WeightedBipredIdc n).coded ↔ n ≤ 2 := by
  match n with
  | 0 | 1 | 2 => simp [getH264WeightedBipredIdc, StdVideoH264WeightedBipredIdc.coded]
  | n + 3 => simp [getH264WeightedBipredIdc, StdVideoH264WeightedBipredIdc.coded]

lemma coded_chromaFormat (n : Nat) : some n = (getH264ChromaFormat n).coded ↔ n ≤ 3 := by
  match n with
  | 0 | 1 | 2 | 3 => simp [getH264ChromaFormat, StdVideoH264ChromaFormatIdc.coded]
  | n + 4 => simp [getH264ChromaFormat, StdVideoH264ChromaFormatIdc.coded]

lemma Shown.fieldsAgree (h : Shown env log d s slice v) (hown : d.data.h264.pStdSps = .own) :
    FieldsAgree log d ↔ Plain log (s.activation env slice.header.pps) := by
  have hsource : s.paramSource env = .own :=
    (congrArg (fun data : PictureData => data.h264.pStdSps) h.data).symm.trans hown
  generalize hact : s.activation env slice.header.pps = active
  have hdata : d.data.settled.redundant = (startVkPic env s d.picture slice v).data.settled.redundant := by rw [h.data]
  have hsize : d.data.picWidthInMbs = active.sps.width / 16 ∧ d.data.frameHeightInMbs = active.sps.height / 16 :=
    hact ▸ ⟨congrArg PictureData.picWidthInMbs h.data, congrArg PictureData.frameHeightInMbs h.data⟩
  have hvkp : (startVkPic env s d.picture slice v).vkp = fillPps active.pps active.sps (fillSps active.sps v.vkp) := by
    simp only [startVkPic, hsource, hact]
  have hsets : d.sps.sps = fillStdSps active.sps ∧ d.pps.pps = fillStdPps active.pps active.sps := by
    rw [h.sps hsource, h.pps hsource, hvkp]
    exact ⟨rfl, rfl⟩
  have hredundant : d.data.redundant = redundantOf d.sps.sps d.pps.pps ↔
      some active.pps.weightedBipredIdc = (getH264WeightedBipredIdc active.pps.weightedBipredIdc).coded ∧
        active.pps.picInitQpMinus26 = active.pps.picInitQsMinus26 ∧ active.pps.picOrderPresentFlag = false ∧
        some active.sps.chromaFormatIdc = (getH264ChromaFormat active.sps.chromaFormatIdc).coded := by
    rw [show d.data.redundant = _ from hdata, hsets.1, hsets.2]
    simp only [PictureData.redundant, PictureData.settled, startVkPic, pictureData, h264PictureData, hact, redundantOf, fillStdSps, fillStdPps,
      Redundant.mk.injEq, true_and]
  rw [FieldsAgree, hredundant, coded_weightedBipredIdc, coded_chromaFormat, hsize.1, hsize.2]
  constructor
  · rintro ⟨⟨hb, hq, hp, hc⟩, hs⟩
    exact ⟨hq, hp, hb, hc, hs⟩
  · intro hplain
    exact ⟨⟨hplain.bipred, hplain.qs, hplain.picOrder, hplain.chroma⟩, hplain.size⟩

lemma always_fieldsAgree (env : Env P) (inputs : List Input) :
    Always (fun l e => ∀ d ∈ e.decodeCall, d.data.h264.pStdSps = .own →
        ∀ info ∈ (starts l d.picture).head?, (FieldsAgree l d ↔ Plain l info.active)) (clientCalls env inputs) := by
  refine always_shown env inputs fun l d s slice v _ h hown info hi => ?_
  cases h.start.symm.trans hi
  exact h.fieldsAgree hown

end H264

namespace H265

variable {P : Type} {env : Env P} {s : Decoder P} {log : List Event} {slice : GstH265Slice} {vps : GstH265VPS} {v : VkPic}
  {d : DecodeCall}

/-- The quantities that are told in two places. The ids are numbers of eight bits. -/
structure Redundant where
  picParameterSetId : Nat
  seqParameterSetId : Nat
  ppsSeqParameterSetId : Nat
  vpsVideoParameterSetId : Nat
  bitDepthLumaMinus8 : Nat
  bitDepthChromaMinus8 : Nat
  chromaFormat : Nat
  deriving DecidableEq

def PictureData.redundant (data : PictureData) : Redundant where
  picParameterSetId := data.hevc.picParameterSetId
  seqParameterSetId := data.hevc.seqParameterSetId
  ppsSeqParameterSetId := data.hevc.seqParameterSetId
  vpsVideoParameterSetId := data.hevc.vpsVideoParameterSetId
  bitDepthLumaMinus8 := data.hevc.bitDepthLumaMinus8
  bitDepthChromaMinus8 := data.hevc.bitDepthChromaMinus8
  chromaFormat := data.chromaFormat

def redundantOf (sps : StdVideoH265SequenceParameterSet) (pps : StdVideoH265PictureParameterSet) : Redundant where
  picParameterSetId := pps.ppsPicParameterSetId
  seqParameterSetId := sps.spsSeqParameterSetId % 2 ^ 8
  ppsSeqParameterSetId := pps.ppsSeqParameterSetId
  vpsVideoParameterSetId := sps.spsVideoParameterSetId % 2 ^ 8
  bitDepthLumaMinus8 := sps.bitDepthLumaMinus8
  bitDepthChromaMinus8 := sps.bitDepthChromaMinus8
  chromaFormat := sps.chromaFormatIdc

/-- The size in blocks is that of the sequence begun last. -/
def SizeAnnounced (log : List Event) (width height : Nat) : Prop :=
  ∀ b ∈ lastSequence Event.sequenceEvent log, width = blocksOf b.1.nCodedWidth ∧ height = blocksOf b.1.nCodedHeight

/-- Both places agree. -/
def FieldsAgree (log : List Event) (d : DecodeCall) : Prop :=
  d.data.redundant = redundantOf d.sps.sps d.pps.pps ∧ SizeAnnounced log d.data.picWidthInMbs d.data.frameHeightInMbs

-- the bit depths that are told of the picture are those of its palette
def paletteLuma (pps : GstH265PPS) : Nat :=
  if pps.ppsSccExtensionFlag then pps.ppsSccExtensionParams.lumaBitDepthEntryMinus8 else 0

def paletteChroma (pps : GstH265PPS) : Nat :=
  if pps.ppsSccExtensionFlag then pps.ppsSccExtensionParams.chromaBitDepthEntryMinus8 % 2 ^ 8 else 0

/-- The index of the picture of RefPicSetLtCurr that comes after `i` others which are there. Its place is past the end
of the array from the ninth picture on: the eleventh and the twelfth are written over the bit depths. -/
def StartInfo.longTermIndex (info : StartInfo) (i : Nat) : Option Nat :=
  ((info.refPicSets.ltCurr.filterMap id).take info.listed.length)[i]?.map fun q =>
    refPicIndex (info.listed.map fun a => a.2.picOrderCnt) (info.content q).picOrderCnt

/-- The bit depths of the palette, or what overwrites them, are those of the SPS, which the PPS names, and the whole
blocks of the SPS cover the sequence announced. -/
structure Plain (log : List Event) (info : StartInfo) : Prop where
  spsId : info.active.sps.id % 2 ^ 8 = info.active.pps.spsId % 2 ^ 8
  luma : (info.longTermIndex 10).getD (paletteLuma info.active.pps) = info.active.sps.bitDepthLumaMinus8
  chroma : (info.longTermIndex 11).getD (paletteChroma info.active.pps) = info.active.sps.bitDepthChromaMinus8
  size : SizeAnnounced log (info.active.sps.width / 16) (info.active.sps.height / 16)

lemma longTermIndex_startInfo {p : PicId} (hs : SetsListed s) (i : Nat) :
    (s.startInfo env p slice).longTermIndex i = (s.setIndices s.refPicSets.ltCurr)[i]? := by
  have hpocs : ((s.startInfo env p slice).listed.map fun a => a.2.picOrderCnt) = s.listedPocs := by
    rw [listed_startInfo, List.map_map]
    rfl
  have hlen : (s.startInfo env p slice).listed.length = s.listedPocs.length := by
    rw [← hpocs, List.length_map]
  rw [StartInfo.longTermIndex, hpocs, hlen, Decoder.setIndices, ← List.getElem?_map]
  refine congrArg (fun l : List Nat => l[i]?) (List.map_congr_left fun q hq => ?_)
  have hmem : q ∈ s.refPicSets.pictures :=
    mem_pictures_of_current (List.mem_cons_of_mem _ (List.mem_cons_of_mem _ List.mem_cons_self))
      (List.mem_of_mem_take hq)
  rw [content_startInfo (hs q hmem)]

-- the loops over the other sets do not come as far as the bit depths
lemma behind_getElem? (hl : Listable s) (hs : SetsListed s) {behind : List Nat} {j : Nat} (hj : 24 ≤ j)
    (hlt : j < 24 + behind.length) : (refPicSetBytes s s.listedPocs behind)[j]? =
      some (((s.setIndices s.refPicSets.ltCurr)[j - 16]?).getD (behind.getD (j - 24) 0)) := by
  have hset : ∀ set ∈ s.refPicSets.current, refPicSetWrites s s.listedPocs set = (s.setIndices set).zipIdx :=
    fun set hm => refPicSetWrites_eq fun q hq => hs q (mem_pictures_of_current hm hq)
  have hfew : s.store.listedRefs.length ≤ 16 := by simpa [tooManyRefs] using hl.few
  have hlen : ∀ set, (s.setIndices set).length ≤ 16 := fun set => by
    rw [Decoder.setIndices, List.length_map]
    exact (List.length_take_le _ _).trans (by rwa [Decoder.listedPocs, List.length_map])
  have hb := hlen s.refPicSets.stCurrBefore
  have ha := hlen s.refPicSets.stCurrAfter
  have hbehind : (List.replicate 24 0 ++ behind)[j]? = some (behind.getD (j - 24) 0) := by
    rw [List.getElem?_append_right (by simpa using hj), List.length_replicate, List.getD_eq_getElem?_getD,
      List.getElem?_eq_getElem (by omega), Option.getD_some]
  rw [refPicSetBytes, hset _ List.mem_cons_self, hset _ (List.mem_cons_of_mem _ List.mem_cons_self),
    hset _ (List.mem_cons_of_mem _ (List.mem_cons_of_mem _ List.mem_cons_self))]
  simp only [Writes.into_zipIdx_getElem?, Writes.length_into, List.length_append, List.length_replicate, hbehind,
    Nat.add_zero, Nat.zero_add, Nat.sub_zero]
  rw [if_neg (by omega : ¬(0 ≤ j ∧ _)), if_neg (by omega : ¬(8 ≤ j ∧ _))]
  by_cases hwritten : j < 16 + (s.setIndices s.refPicSets.ltCurr).length
  · rw [if_pos ⟨by omega, hwritten, hlt⟩, List.getElem?_eq_getElem (by omega), Option.getD_some]
  · rw [if_neg fun h => hwritten h.2.1, List.getElem?_eq_none (by omega), Option.getD_none]

lemma bitDepths (hl : Listable s) (hs : SetsListed s) {p : PicId} {x : Picture} {active : Activation}
    {source : ParamSource} :
    (hevcPictureData s x slice active vps source).bitDepthLumaMinus8 =
        ((s.startInfo env p slice).longTermIndex 10).getD (paletteLuma active.pps) ∧
      (hevcPictureData s x slice active vps source).bitDepthChromaMinus8 =
        ((s.startInfo env p slice).longTermIndex 11).getD (paletteChroma active.pps) := by
  have hpocs : ((s.store.listedRefs.take 16).map fun q => (s.pic q).picOrderCnt) = s.listedPocs := by
    rw [take_listedRefs hl]
    rfl
  have hlen : (fieldsBehind active vps).length = 4 := rfl
  simp only [hevcPictureData, hl.few, Bool.false_eq_true, if_false, hpocs, List.getD_eq_getElem?_getD]
  rw [behind_getElem? hl hs (by omega) (by omega), behind_getElem? hl hs (by omega) (by omega),
    longTermIndex_startInfo hs, longTermIndex_startInfo hs]
  exact ⟨rfl, rfl⟩

lemma Shown.fieldsAgree (h : Shown env log d s slice vps v) (hown : d.data.hevc.pStdSps = .own) :
    FieldsAgree log d ↔ Plain log (s.startInfo env d.picture slice) := by
  have hsource : s.paramSource env = .own :=
    (congrArg (fun data : PictureData => data.hevc.pStdSps) h.data).symm.trans hown
  have hvps : (s.activation env slice.header.pps).vps = some vps := h.vpsOf
  have hshown : startVkpShown env s d.picture slice vps v = _ := startVkpShown_own hsource
  have hdata : d.data.settled.redundant = (startVkPic env s d.picture slice vps v).data.settled.redundant := by rw [h.data]
  have hwidth : d.data.settled.picWidthInMbs = (s.activation env slice.header.pps).sps.width / 16 := by rw [h.data]; rfl
  have hheight : d.data.settled.frameHeightInMbs = (s.activation env slice.header.pps).sps.height / 16 := by
    rw [h.data]
    rfl
  have hdepths : ∀ x active source, (hevcPictureData s x slice active vps source).bitDepthLumaMinus8 =
      ((s.startInfo env d.picture slice).longTermIndex 10).getD (paletteLuma active.pps) ∧ _ :=
    fun _ _ _ => bitDepths h.listable h.setsListed
  generalize hact : s.activation env slice.header.pps = active at hvps hshown hwidth hheight
  have hsets : redundantOf d.sps.sps d.pps.pps = redundantOf (fillStdSps active.sps active.vps) (fillStdPps active.pps) := by
    rw [h.sps, h.pps, hshown]
    unfold overrideLists
    split <;> rfl
  have hid : vpsIdOf active.sps active.vps = vps.id := by rw [hvps]; rfl
  have hredundant : d.data.redundant = redundantOf d.sps.sps d.pps.pps ↔
      active.sps.id % 2 ^ 8 = active.pps.spsId % 2 ^ 8 ∧
        ((s.startInfo env d.picture slice).longTermIndex 10).getD (paletteLuma active.pps) =
          active.sps.bitDepthLumaMinus8 ∧
        ((s.startInfo env d.picture slice).longTermIndex 11).getD (paletteChroma active.pps) =
          active.sps.bitDepthChromaMinus8 := by
    rw [show d.data.redundant = _ from hdata, hsets]
    simp only [PictureData.redundant, PictureData.settled, startVkPic, pictureData, (hdepths _ _ _).1,
      (hdepths _ _ _).2]
    simp only [hevcPictureData, hact, redundantOf, fillStdSps, fillStdPps, Redundant.mk.injEq, true_and, ← hid, vpsIdOf,
      and_true]
  rw [FieldsAgree, hredundant, show d.data.picWidthInMbs = _ from hwidth, show d.data.frameHeightInMbs = _ from hheight,
    ← hact]
  constructor
  · rintro ⟨⟨hi, hl, hc⟩, hs⟩
    exact ⟨hi, hl, hc, hs⟩
  · intro hplain
    exact ⟨⟨hplain.spsId, hplain.luma, hplain.chroma⟩, hplain.size⟩

lemma always_fieldsAgree (env : Env P) (inputs : List Input) :
    Always (fun l e => ∀ d ∈ e.decodeCall, d.data.hevc.pStdSps = .own →
        ∀ a ∈ startOf d.picture l, (FieldsAgree l d ↔ Plain l a.1))
      (final (runInputs env inputs (Decoder.start env))).store.log := by
  refine always_shown env inputs fun l d s slice vps v _ h hown a ha => ?_
  cases h.start.symm.trans ha
  exact h.fieldsAgree hown

end H265

/-- In every run, wherever DecodePicture is given the picture's own copies of its sets, what is told twice agrees
exactly when the active sets are plain. -/
theorem fields_agree {P P' : Type} (env : H264.Env P) (env' : H265.Env P') (inputs : List H264.Input)
    (inputs' : List H265.Input) :
    Always (fun l e => ∀ d ∈ e.decodeCall, d.data.h264.pStdSps = .own →
        ∀ info ∈ (H264.starts l d.picture).head?, (H264.FieldsAgree l d ↔ H264.Plain l info.active))
        (H264.clientCalls env inputs) ∧
      Always (fun l e => ∀ d ∈ e.decodeCall, d.data.hevc.pStdSps = .own →
        ∀ a ∈ H265.startOf d.picture l, (H265.FieldsAgree l d ↔ H265.Plain l a.1))
        (final (H265.runInputs env' inputs' (H265.Decoder.start env'))).store.log :=
  ⟨H264.always_fieldsAgree env inputs, H265.always_fieldsAgree env' inputs'⟩

section Examples

-- a PPS with another initial QP for SP and SI slices
def switchingScript : H264.Script where
  sps := [H264.Script.progressive]
  pps := [{ picInitQsMinus26 := 1 }]
  slices := [{}]

def switchingCalls : List H264.Event :=
  H264.clientCalls switchingScript.env
    (H264.Script.frames [[H264.Script.spsUnit 0, H264.Script.ppsUnit 0, H264.Script.idrUnit 0]])

theorem fields_differ :
    ¬Always (fun l e => ∀ d ∈ e.decodeCall, d.data.h264.pStdSps = .own → H264.FieldsAgree l d) switchingCalls := by
  decide +kernel

end Examples

end VkVideoParser
