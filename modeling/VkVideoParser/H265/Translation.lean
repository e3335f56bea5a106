import VkVideoParser.H265.Announcements

/-! What the Std structures carry of the syntax elements of a VPS, an SPS and a PPS. -/

namespace VkVideoParser.H265

open Execution Histories

section Expected

variable (vps : GstH265VPS) (sps : GstH265SPS) (pps : GstH265PPS)

-- the enumerators of the header; of any other number there is none
def profileIdcOf (profileIdc : Nat) : Option Nat := if profileIdc ∈ [1, 2, 3, 4, 9] then some profileIdc else none

def levelIdcOf : Nat → Option Nat
  | 30 => some 0
  | 60 => some 1
  | 63 => some 2
  | 90 => some 3
  | 93 => some 4
  | 120 => some 5
  | 123 => some 6
  | 150 => some 7
  | 153 => some 8
  | 156 => some 9
  | 180 => some 10
  | 183 => some 11
  | 186 => some 12
  | _ => none

/-- The profile-tier-level `dst` carries that of `src`. -/
structure CarriesProfile (src : GstH265ProfileTierLevel) (dst : StdVideoH265ProfileTierLevel) : Prop where
  tier : dst.flags.generalTierFlag = src.tierFlag
  progressive : dst.flags.generalProgressiveSourceFlag = src.progressiveSourceFlag
  interlaced : dst.flags.generalInterlacedSourceFlag = src.interlacedSourceFlag
  nonPacked : dst.flags.generalNonPackedConstraintFlag = src.nonPackedConstraintFlag
  frameOnly : dst.flags.generalFrameOnlyConstraintFlag = src.frameOnlyConstraintFlag
  profile : ∀ k ∈ profileIdcOf src.profileIdc, dst.generalProfileIdc.code = k
  level : ∀ k ∈ levelIdcOf src.levelIdc, dst.generalLevelIdc = k

def carriedPicBufMgr : StdVideoH265DecPicBufMgr where
  maxLatencyIncreasePlus1 := (List.range 7).map (vps.maxLatencyIncreasePlus1.getD · 0)
  maxDecPicBufferingMinus1 := vps.maxDecPicBufferingMinus1.take 7
  maxNumReorderPics := vps.maxNumReorderPics.take 7

-- but for the pointers to the HRD and to the profile-tier-level
def carriedVps : StdVideoH265VideoParameterSet where
  flags.vpsTemporalIdNestingFlag := vps.temporalIdNestingFlag
  flags.vpsSubLayerOrderingInfoPresentFlag := vps.subLayerOrderingInfoPresentFlag
  flags.vpsTimingInfoPresentFlag := vps.timingInfoPresentFlag
  flags.vpsPocProportionalToTimingFlag := vps.pocProportionalToTimingFlag
  vpsVideoParameterSetId := vps.id
  vpsMaxSubLayersMinus1 := vps.maxSubLayersMinus1
  vpsNumUnitsInTick := vps.numUnitsInTick
  vpsTimeScale := vps.timeScale
  vpsNumTicksPocDiffOneMinus1 := vps.numTicksPocDiffOneMinus1
  pDecPicBufMgr := true

def carriedSpsFlags : StdVideoH265SpsFlags where
  spsTemporalIdNestingFlag := sps.temporalIdNestingFlag
  separateColourPlaneFlag := sps.separateColourPlaneFlag
  conformanceWindowFlag := sps.conformanceWindowFlag
  spsSubLayerOrderingInfoPresentFlag := sps.subLayerOrderingInfoPresentFlag
  scalingListEnabledFlag := sps.scalingListEnabledFlag
  spsScalingListDataPresentFlag := sps.scalingListDataPresentFlag
  ampEnabledFlag := sps.ampEnabledFlag
  sampleAdaptiveOffsetEnabledFlag := sps.sampleAdaptiveOffsetEnabledFlag
  pcmEnabledFlag := sps.pcmEnabledFlag
  pcmLoopFilterDisabledFlag := sps.pcmLoopFilterDisabledFlag
  longTermRefPicsPresentFlag := sps.longTermRefPicsPresentFlag
  spsTemporalMvpEnabledFlag := sps.temporalMvpEnabledFlag
  strongIntraSmoothingEnabledFlag := sps.strongIntraSmoothingEnabledFlag
  vuiParametersPresentFlag := sps.vuiParametersPresentFlag
  spsExtensionPresentFlag := sps.spsExtensionFlag
  spsRangeExtensionFlag := sps.spsRangeExtensionFlag
  transformSkipRotationEnabledFlag := sps.spsExtensionParams.transformSkipRotationEnabledFlag
  transformSkipContextEnabledFlag := sps.spsExtensionParams.transformSkipContextEnabledFlag
  implicitRdpcmEnabledFlag := sps.spsExtensionParams.implicitRdpcmEnabledFlag
  explicitRdpcmEnabledFlag := sps.spsExtensionParams.explicitRdpcmEnabledFlag
  extendedPrecisionProcessingFlag := sps.spsExtensionParams.extendedPrecisionProcessingFlag
  intraSmoothingDisabledFlag := sps.spsExtensionParams.intraSmoothingDisabledFlag
  highPrecisionOffsetsEnabledFlag := sps.spsExtensionParams.highPrecisionOffsetsEnabledFlag
  persistentRiceAdaptationEnabledFlag := sps.spsExtensionParams.persistentRiceAdaptationEnabledFlag
  cabacBypassAlignmentEnabledFlag := sps.spsExtensionParams.cabacBypassAlignmentEnabledFlag
  spsSccExtensionFlag := sps.spsSccExtensionFlag
  spsCurrPicRefEnabledFlag := sps.spsSccExtensionParams.spsCurrPicRefEnabledFlag
  paletteModeEnabledFlag := sps.spsSccExtensionParams.paletteModeEnabledFlag
  spsPalettePredictorInitializersPresentFlag := sps.spsSccExtensionParams.spsPalettePredictorInitializersPresentFlag
  intraBoundaryFilteringDisabledFlag := sps.spsSccExtensionParams.intraBoundaryFilteringDisabledFlag

def carriedSps : StdVideoH265SequenceParameterSet where
  flags := carriedSpsFlags sps
  chromaFormatIdc := sps.chromaFormatIdc
  picWidthInLumaSamples := sps.picWidthInLumaSamples
  picHeightInLumaSamples := sps.picHeightInLumaSamples
  spsVideoParameterSetId := sps.vpsId
  spsMaxSubLayersMinus1 := sps.maxSubLayersMinus1
  spsSeqParameterSetId := sps.id
  bitDepthLumaMinus8 := sps.bitDepthLumaMinus8
  bitDepthChromaMinus8 := sps.bitDepthChromaMinus8
  log2MaxPicOrderCntLsbMinus4 := sps.log2MaxPicOrderCntLsbMinus4
  log2MinLumaCodingBlockSizeMinus3 := sps.log2MinLumaCodingBlockSizeMinus3
  log2DiffMaxMinLumaCodingBlockSize := sps.log2DiffMaxMinLumaCodingBlockSize
  log2MinLumaTransformBlockSizeMinus2 := sps.log2MinTransformBlockSizeMinus2
  log2DiffMaxMinLumaTransformBlockSize := sps.log2DiffMaxMinTransformBlockSize
  maxTransformHierarchyDepthInter := sps.maxTransformHierarchyDepthInter
  maxTransformHierarchyDepthIntra := sps.maxTransformHierarchyDepthIntra
  numShortTermRefPicSets := sps.numShortTermRefPicSets
  numLongTermRefPicsSps := sps.numLongTermRefPicsSps
  pcmSampleBitDepthLumaMinus1 := sps.pcmSampleBitDepthLumaMinus1
  pcmSampleBitDepthChromaMinus1 := sps.pcmSampleBitDepthChromaMinus1
  log2MinPcmLumaCodingBlockSizeMinus3 := sps.log2MinPcmLumaCodingBlockSizeMinus3
  log2DiffMaxMinPcmLumaCodingBlockSize := sps.log2DiffMaxMinPcmLumaCodingBlockSize
  paletteMaxSize := sps.spsSccExtensionParams.paletteMaxSize
  deltaPaletteMaxPredictorSize := sps.spsSccExtensionParams.deltaPaletteMaxPredictorSize
  motionVectorResolutionControlIdc := sps.spsSccExtensionParams.motionVectorResolutionControlIdc
  spsNumPalettePredictorInitializersMinus1 := sps.spsSccExtensionParams.spsNumPalettePredictorInitializerMinus1
  confWinLeftOffset := sps.confWinLeftOffset
  confWinRightOffset := sps.confWinRightOffset
  confWinTopOffset := sps.confWinTopOffset
  confWinBottomOffset := sps.confWinBottomOffset
  pProfileTierLevel := true
  pDecPicBufMgr := true
  pScalingLists := sps.scalingListEnabledFlag
  pSequenceParameterSetVui := true

def carriedPpsFlags : StdVideoH265PpsFlags where
  dependentSliceSegmentsEnabledFlag := pps.dependentSliceSegmentsEnabledFlag
  outputFlagPresentFlag := pps.outputFlagPresentFlag
  signDataHidingEnabledFlag := pps.signDataHidingEnabledFlag
  cabacInitPresentFlag := pps.cabacInitPresentFlag
  constrainedIntraPredFlag := pps.constrainedIntraPredFlag
  transformSkipEnabledFlag := pps.transformSkipEnabledFlag
  cuQpDeltaEnabledFlag := pps.cuQpDeltaEnabledFlag
  ppsSliceChromaQpOffsetsPresentFlag := pps.sliceChromaQpOffsetsPresentFlag
  weightedPredFlag := pps.weightedPredFlag
  weightedBipredFlag := pps.weightedBipredFlag
  transquantBypassEnabledFlag := pps.transquantBypassEnabledFlag
  tilesEnabledFlag := pps.tilesEnabledFlag
  entropyCodingSyncEnabledFlag := pps.entropyCodingSyncEnabledFlag
  uniformSpacingFlag := pps.uniformSpacingFlag
  loopFilterAcrossTilesEnabledFlag := pps.loopFilterAcrossTilesEnabledFlag
  ppsLoopFilterAcrossSlicesEnabledFlag := pps.loopFilterAcrossSlicesEnabledFlag
  deblockingFilterControlPresentFlag := pps.deblockingFilterControlPresentFlag
  deblockingFilterOverrideEnabledFlag := pps.deblockingFilterOverrideEnabledFlag
  ppsDeblockingFilterDisabledFlag := pps.deblockingFilterDisabledFlag
  ppsScalingListDataPresentFlag := pps.scalingListDataPresentFlag
  listsModificationPresentFlag := pps.listsModificationPresentFlag
  sliceSegmentHeaderExtensionPresentFlag := pps.sliceSegmentHeaderExtensionPresentFlag
  ppsExtensionPresentFlag := pps.ppsExtensionFlag
  crossComponentPredictionEnabledFlag := pps.ppsExtensionParams.crossComponentPredictionEnabledFlag
  chromaQpOffsetListEnabledFlag := pps.ppsExtensionParams.chromaQpOffsetListEnabledFlag
  ppsCurrPicRefEnabledFlag := pps.ppsSccExtensionParams.ppsCurrPicRefEnabledFlag
  residualAdaptiveColourTransformEnabledFlag := pps.ppsSccExtensionParams.residualAdaptiveColourTransformEnabledFlag
  ppsSliceActQpOffsetsPresentFlag := pps.ppsSccExtensionParams.ppsSliceActQpOffsetsPresentFlag
  ppsPalettePredictorInitializersPresentFlag := pps.ppsSccExtensionParams.ppsPalettePredictorInitializersPresentFlag
  monochromePaletteFlag := pps.ppsSccExtensionParams.monochromePaletteFlag
  ppsRangeExtensionFlag := pps.ppsRangeExtensionFlag

def carriedPps : StdVideoH265PictureParameterSet where
  flags := carriedPpsFlags pps
  ppsPicParameterSetId := pps.id
  ppsSeqParameterSetId := pps.spsId
  numExtraSliceHeaderBits := pps.numExtraSliceHeaderBits
  numRefIdxL0DefaultActiveMinus1 := pps.numRefIdxL0DefaultActiveMinus1
  numRefIdxL1DefaultActiveMinus1 := pps.numRefIdxL1DefaultActiveMinus1
  initQpMinus26 := pps.initQpMinus26
  diffCuQpDeltaDepth := pps.diffCuQpDeltaDepth
  ppsCbQpOffset := pps.cbQpOffset
  ppsCrQpOffset := pps.crQpOffset
  ppsBetaOffsetDiv2 := pps.betaOffsetDiv2
  ppsTcOffsetDiv2 := pps.tcOffsetDiv2
  log2ParallelMergeLevelMinus2 := pps.log2ParallelMergeLevelMinus2
  log2MaxTransformSkipBlockSizeMinus2 := pps.ppsExtensionParams.log2MaxTransformSkipBlockSizeMinus2
  diffCuChromaQpOffsetDepth := pps.ppsExtensionParams.diffCuChromaQpOffsetDepth
  chromaQpOffsetListLenMinus1 := pps.ppsExtensionParams.chromaQpOffsetListLenMinus1
  cbQpOffsetList := (List.range 6).map (pps.ppsExtensionParams.cbQpOffsetList.getD · 0)
  crQpOffsetList := (List.range 6).map (pps.ppsExtensionParams.crQpOffsetList.getD · 0)
  log2SaoOffsetScaleLuma := pps.ppsExtensionParams.log2SaoOffsetScaleLuma
  log2SaoOffsetScaleChroma := pps.ppsExtensionParams.log2SaoOffsetScaleChroma
  ppsActYQpOffsetPlus5 := pps.ppsSccExtensionParams.ppsActYQpOffsetPlus5
  ppsActCbQpOffsetPlus5 := pps.ppsSccExtensionParams.ppsActCbQpOffsetPlus5
  ppsActCrQpOffsetPlus3 := pps.ppsSccExtensionParams.ppsActCrQpOffsetPlus3
  ppsNumPalettePredictorInitializers := pps.ppsSccExtensionParams.ppsNumPalettePredictorInitializer
  lumaBitDepthEntryMinus8 := pps.ppsSccExtensionParams.lumaBitDepthEntryMinus8
  chromaBitDepthEntryMinus8 := pps.ppsSccExtensionParams.chromaBitDepthEntryMinus8
  numTileColumnsMinus1 := pps.numTileColumnsMinus1
  numTileRowsMinus1 := pps.numTileRowsMinus1
  columnWidthMinus1 := (List.range 19).map (pps.columnWidthMinus1.getD · 0)
  rowHeightMinus1 := (List.range 21).map (pps.rowHeightMinus1.getD · 0)
  pScalingLists := pps.scalingListDataPresentFlag

end Expected

section Copies

/-- Of the `n` numbers only the first is not 0, and it has 16 bits. -/
def OnlyFirst (n : Nat) (src : List Nat) : Prop := src.getD 0 0 < 2 ^ 16 ∧ ∀ i < n, 0 < i → src.getD i 0 = 0

variable {n : Nat} {src : List Nat}

lemma memcpyHalves_eq_iff (hn : 0 < n) :
    memcpyHalves n src = (List.range n).map (src.getD · 0) ↔ OnlyFirst n src := by
  have hcopy : memcpyHalves n src = (List.range n).map (src.getD · 0) ↔ ∀ i < n,
      (if i % 2 = 0 then src.getD (i / 2) 0 % 2 ^ 16 else src.getD (i / 2) 0 / 2 ^ 16) = src.getD i 0 := by
    simp only [memcpyHalves, List.map_inj_left, List.mem_range]
  rw [hcopy]
  constructor
  · intro h
    have hfirst : src.getD 0 0 < 2 ^ 16 := by
      have hzero := h 0 hn
      rw [if_pos rfl] at hzero
      rw [← hzero]
      exact Nat.mod_lt _ (by decide)
    refine ⟨hfirst, fun i => ?_⟩
    -- each number after the first is half of one that comes before it
    induction i using Nat.strongRecOn with
    | ind i ih =>
      intro hi hpos
      rw [← h i hi]
      rcases Nat.eq_zero_or_pos (i / 2) with hhalf | hhalf
      · have hone : i = 1 := by omega
        subst hone
        exact Nat.div_eq_of_lt hfirst
      · rw [ih (i / 2) (by omega) (by omega) hhalf]
        simp
  · rintro ⟨hfirst, hrest⟩ i hi
    rcases Nat.eq_zero_or_pos i with hzero | hpos
    · subst hzero
      exact Nat.mod_eq_of_lt hfirst
    · rw [hrest i hi hpos]
      rcases Nat.eq_zero_or_pos (i / 2) with hhalf | hhalf
      · rw [if_neg (by omega), hhalf]
        exact Nat.div_eq_of_lt hfirst
      · rw [hrest (i / 2) (by omega) hhalf]
        simp

lemma replicate_eq_iff {src : List Int} {n : Nat} :
    List.replicate n 0 = (List.range n).map (src.getD · 0) ↔ ∀ i < n, src.getD i 0 = 0 := by
  rw [eq_comm, List.eq_replicate_iff]
  simp

lemma int8_eq_iff (k : Int) : int8 k = k ↔ -2 ^ 7 ≤ k ∧ k < 2 ^ 7 := by
  unfold int8
  omega

end Copies

section Conditions

variable (vps : GstH265VPS) (sps : GstH265SPS) (pps : GstH265PPS)

/-- Latencies are coded for the two lowest sub-layers only, the second one in 24 bits. -/
def LatenciesFit : Prop :=
  vps.maxLatencyIncreasePlus1.getD 1 0 < 2 ^ 24 ∧ ∀ i < 7, 1 < i → vps.maxLatencyIncreasePlus1.getD i 0 = 0

/-- `v` is the VPS that the SPS points to. -/
structure SpsFits (v : Option GstH265VPS) : Prop where
  vpsId : ∀ vps ∈ v, vps.id = sps.vpsId
  rotation : sps.spsExtensionFlag →
    sps.spsExtensionParams.transformSkipRotationEnabledFlag = sps.spsExtensionParams.transformSkipContextEnabledFlag
  unextended : sps.spsExtensionFlag = false → sps.spsExtensionParams = {}
  palette : sps.spsSccExtensionFlag = false →
    sps.spsSccExtensionParams.paletteMaxSize = 0 ∧ sps.spsSccExtensionParams.deltaPaletteMaxPredictorSize = 0 ∧
      sps.spsSccExtensionParams.motionVectorResolutionControlIdc = 0 ∧
      sps.spsSccExtensionParams.spsNumPalettePredictorInitializerMinus1 = 0

/-- The header has no enumerator of the level, and the profile is not that of screen content. -/
structure ProfileFits (src : GstH265ProfileTierLevel) : Prop where
  profile : src.profileIdc ≠ 9
  level : levelIdcOf src.levelIdc = none

structure PpsFits : Prop where
  id : pps.id < 2 ^ 8
  spsId : pps.spsId < 2 ^ 8
  transformSkip : pps.ppsExtensionParams.log2MaxTransformSkipBlockSizeMinus2 < 2 ^ 8
  chromaEntry : pps.ppsSccExtensionParams.chromaBitDepthEntryMinus8 < 2 ^ 8
  actY : -2 ^ 7 ≤ pps.ppsSccExtensionParams.ppsActYQpOffsetPlus5 ∧ pps.ppsSccExtensionParams.ppsActYQpOffsetPlus5 < 2 ^ 7
  actCb : -2 ^ 7 ≤ pps.ppsSccExtensionParams.ppsActCbQpOffsetPlus5 ∧ pps.ppsSccExtensionParams.ppsActCbQpOffsetPlus5 < 2 ^ 7
  actCr : -2 ^ 7 ≤ pps.ppsSccExtensionParams.ppsActCrQpOffsetPlus3 ∧ pps.ppsSccExtensionParams.ppsActCrQpOffsetPlus3 < 2 ^ 7
  cbOffsets : ∀ i < 6, pps.ppsExtensionParams.cbQpOffsetList.getD i 0 = 0
  crOffsets : ∀ i < 6, pps.ppsExtensionParams.crQpOffsetList.getD i 0 = 0
  columns : OnlyFirst 19 pps.columnWidthMinus1
  rows : OnlyFirst 21 pps.rowHeightMinus1

end Conditions

section Carried

variable {vps : GstH265VPS} {sps : GstH265SPS} {pps : GstH265PPS} {v : Option GstH265VPS}

lemma fillPicBufMgr_eq_iff : fillPicBufMgr vps = carriedPicBufMgr vps ↔ LatenciesFit vps := by
  have hrange : List.range 7 = [0, 1, 2, 3, 4, 5, 6] := rfl
  have hrest : (∀ i < 7, 1 < i → vps.maxLatencyIncreasePlus1.getD i 0 = 0) ↔
      vps.maxLatencyIncreasePlus1.getD 2 0 = 0 ∧ vps.maxLatencyIncreasePlus1.getD 3 0 = 0 ∧
      vps.maxLatencyIncreasePlus1.getD 4 0 = 0 ∧ vps.maxLatencyIncreasePlus1.getD 5 0 = 0 ∧
      vps.maxLatencyIncreasePlus1.getD 6 0 = 0 := by
    constructor
    · exact fun h => ⟨h 2 (by omega) (by omega), h 3 (by omega) (by omega), h 4 (by omega) (by omega),
        h 5 (by omega) (by omega), h 6 (by omega) (by omega)⟩
    · rintro ⟨h2, h3, h4, h5, h6⟩ i hi hpos
      obtain rfl | rfl | rfl | rfl | rfl : i = 2 ∨ i = 3 ∨ i = 4 ∨ i = 5 ∨ i = 6 := by omega
      all_goals assumption
  have hsecond : vps.maxLatencyIncreasePlus1.getD 1 0 % 2 ^ 24 = vps.maxLatencyIncreasePlus1.getD 1 0 ↔
      vps.maxLatencyIncreasePlus1.getD 1 0 < 2 ^ 24 := Nat.mod_eq_iff_lt (by decide)
  simp only [fillPicBufMgr, carriedPicBufMgr, LatenciesFit, hrest, ← hsecond, hrange, StdVideoH265DecPicBufMgr.mk.injEq,
    and_true, List.map_cons, List.map_nil, List.replicate, List.cons_append, List.nil_append, List.cons.injEq, true_and,
    eq_comm (a := (0 : Nat))]

lemma fillSpsFlags_eq_iff : fillSpsFlags sps = carriedSpsFlags sps ↔
    (sps.spsExtensionFlag → sps.spsExtensionParams.transformSkipRotationEnabledFlag =
      sps.spsExtensionParams.transformSkipContextEnabledFlag) ∧
    (sps.spsExtensionFlag = false → sps.spsExtensionParams = {}) := by
  simp only [fillSpsFlags, carriedSpsFlags, StdVideoH265SpsFlags.mk.injEq, true_and, and_true]
  cases sps.spsExtensionFlag with
  | true => simp [eq_comm]
  | false =>
    rw [GstH265SPSExtensionParams.mk.injEq]
    simp

lemma fillStdSps_eq_iff : fillStdSps sps v = carriedSps sps ↔ SpsFits sps v := by
  have hid : (v.map GstH265VPS.id).getD sps.vpsId = sps.vpsId ↔ ∀ vps ∈ v, vps.id = sps.vpsId := by
    cases v <;> simp
  simp only [fillStdSps, carriedSps, StdVideoH265SequenceParameterSet.mk.injEq, fillSpsFlags_eq_iff, hid, true_and,
    and_true]
  constructor
  · rintro ⟨⟨hrotation, hnone⟩, hvps, hpalette⟩
    refine ⟨hvps, hrotation, hnone, fun hscc => ?_⟩
    simpa [hscc, eq_comm] using hpalette
  · rintro ⟨hvps, hrotation, hnone, hpalette⟩
    refine ⟨⟨hrotation, hnone⟩, hvps, ?_⟩
    cases hscc : sps.spsSccExtensionFlag with
    | true => simp
    | false => simpa [eq_comm] using hpalette hscc

lemma profileIdc_iff (k : Nat) : (∀ c ∈ profileIdcOf k, (getProfileIdc k).code = c) ↔ k ≠ 9 := by
  by_cases hk : k ∈ [1, 2, 3, 4, 9]
  · simp only [profileIdcOf, if_pos hk, Option.mem_def, Option.some.injEq, forall_eq']
    simp only [List.mem_cons, List.not_mem_nil, or_false] at hk
    rcases hk with rfl | rfl | rfl | rfl | rfl <;> decide
  · have hne : k ≠ 9 := by
      rintro rfl
      exact hk (by decide)
    simp [profileIdcOf, hk, hne]

-- the code of a level is never the number of its enumerator
lemma levelIdc_iff (k : Nat) : (∀ c ∈ levelIdcOf k, k = c) ↔ levelIdcOf k = none := by
  unfold levelIdcOf
  split <;> simp

lemma carriesProfile_iff {src : GstH265ProfileTierLevel} :
    CarriesProfile src (fillProfileTierLevel src) ↔ ProfileFits src :=
  ⟨fun h => ⟨(profileIdc_iff _).1 h.profile, (levelIdc_iff _).1 h.level⟩,
    fun h => ⟨rfl, rfl, rfl, rfl, rfl, (profileIdc_iff _).2 h.profile, (levelIdc_iff _).2 h.level⟩⟩

lemma fillStdPps_eq_iff : fillStdPps pps = carriedPps pps ↔ PpsFits pps := by
  have hbyte : ∀ k : Nat, k % 2 ^ 8 = k ↔ k < 2 ^ 8 := fun k => Nat.mod_eq_iff_lt (by decide)
  have hflags : fillPpsFlags pps = carriedPpsFlags pps := rfl
  simp only [fillStdPps, carriedPps, StdVideoH265PictureParameterSet.mk.injEq, hflags, hbyte, int8_eq_iff, replicate_eq_iff,
    memcpyHalves_eq_iff (show 0 < 19 by decide), memcpyHalves_eq_iff (show 0 < 21 by decide), true_and, and_true]
  constructor
  · rintro ⟨hid, hsps, hskip, hcb, hcr, hy, hactCb, hactCr, hentry, hcolumns, hrows⟩
    exact ⟨hid, hsps, hskip, hentry, hy, hactCb, hactCr, hcb, hcr, hcolumns, hrows⟩
  · rintro ⟨hid, hsps, hskip, hentry, hy, hactCb, hactCr, hcb, hcr, hcolumns, hrows⟩
    exact ⟨hid, hsps, hskip, hcb, hcr, hy, hactCb, hactCr, hentry, hcolumns, hrows⟩

end Carried

section Consumer

variable (vps : GstH265VPS) (sps : GstH265SPS) (v : Option GstH265VPS) (pps : GstH265PPS) (vkp : VkH265Picture)

/-- What the consumer reads of a VPS is that of the set, but for the latencies and two pointers. -/
structure VpsShown (std : StdVps) : Prop where
  fields : std.vps = carriedVps vps
  buffering : std.picBufMgr = some (carriedPicBufMgr vps) ↔ LatenciesFit vps
  hrd : std.vps.pHrdParameters = false
  profile : std.vps.pProfileTierLevel = false

structure SpsShown (std : StdSps) : Prop where
  fields : std.sps = carriedSps sps ↔ SpsFits sps v
  profile : (∃ p, std.profileTierLevel = some p ∧ CarriesProfile sps.profileTierLevel p) ↔
    ProfileFits sps.profileTierLevel

lemma vpsShown_stdVpsOf : VpsShown vps (stdVpsOf vps) where
  fields := rfl
  buffering := by
    rw [← fillPicBufMgr_eq_iff]
    exact Option.some_inj
  hrd := rfl
  profile := rfl

lemma spsShown_fillSps : SpsShown sps v (fillSps sps v vkp).stdSps where
  fields := fillStdSps_eq_iff
  profile := by
    have hprofile : (fillSps sps v vkp).stdSps.profileTierLevel = some (fillProfileTierLevel sps.profileTierLevel) := rfl
    rw [hprofile, ← carriesProfile_iff]
    simp

/-- Whatever `vkp` held before, what each of the three translations leaves in it carries the elements of its set
exactly when they fit. -/
theorem elements_carried : VpsShown vps (fillVps vps vkp).stdVps ∧ SpsShown sps v (fillSps sps v vkp).stdSps ∧
    ((fillPps pps vkp).stdPps.pps = carriedPps pps ↔ PpsFits pps) :=
  ⟨vpsShown_stdVpsOf vps, spsShown_fillSps sps v vkp, fillStdPps_eq_iff⟩

-- 960 x 544 luma samples in coding blocks of 64
def rotatedSps : GstH265SPS where
  temporalIdNestingFlag := true
  profileTierLevel := { profileIdc := 4, levelIdc := 93 }
  chromaFormatIdc := 1
  picWidthInLumaSamples := 960
  picHeightInLumaSamples := 544
  maxDecPicBufferingMinus1 := [4]
  log2DiffMaxMinLumaCodingBlockSize := 3
  log2DiffMaxMinTransformBlockSize := 3
  width := 960
  height := 544
  spsExtensionFlag := true
  spsRangeExtensionFlag := true
  spsExtensionParams := { transformSkipRotationEnabledFlag := true }

def layeredVps : GstH265VPS where
  maxSubLayersMinus1 := 2
  maxDecPicBufferingMinus1 := [4, 4, 4]
  subLayerOrderingInfoPresentFlag := true
  maxLatencyIncreasePlus1 := [5, 5, 5, 0, 0, 0, 0]

def tiledPps : GstH265PPS where
  tilesEnabledFlag := true
  numTileColumnsMinus1 := 2
  columnWidthMinus1 := [3, 4, 5]
  rowHeightMinus1 := [8]
  ppsExtensionFlag := true
  ppsRangeExtensionFlag := true
  ppsExtensionParams := { chromaQpOffsetListEnabledFlag := true, cbQpOffsetList := [1], crQpOffsetList := [1] }

theorem elements_lost :
    (fillVps layeredVps {}).stdVps.picBufMgr ≠ some (carriedPicBufMgr layeredVps) ∧
    (fillSps rotatedSps none {}).stdSps.sps ≠ carriedSps rotatedSps ∧
    (∀ p ∈ (fillSps rotatedSps none {}).stdSps.profileTierLevel, ¬CarriesProfile rotatedSps.profileTierLevel p) ∧
    (fillPps tiledPps {}).stdPps.pps ≠ carriedPps tiledPps := by
  refine ⟨by decide, by decide, ?_, by decide⟩
  rintro _ ⟨⟩ h
  exact absurd (h.level 4 rfl) (by decide)

variable {P : Type}

/-- So does every announcement of every run. -/
theorem announcements_carried (env : Env P) (inputs : List Input) :
    Always (fun _ e => (∀ x ∈ e.shownVps, VpsShown x.1 x.2) ∧ (∀ x ∈ e.shownSps, SpsShown x.1 x.2.1 x.2.2) ∧
        ∀ x ∈ e.shownPps, (x.2.pps = carriedPps x.1 ↔ PpsFits x.1))
      (final (runInputs env inputs (Decoder.start env))).store.log := by
  refine (always_showsSet env inputs).mono fun l e h => ⟨fun x hx => ?_, fun x hx => ?_, fun x hx => ?_⟩
  · rw [h.vps x hx]
    exact vpsShown_stdVpsOf x.1
  · rw [h.sps x hx]
    exact spsShown_fillSps x.1 x.2.1 _
  · rw [h.pps x hx]
    exact fillStdPps_eq_iff

end Consumer

end VkVideoParser.H265
