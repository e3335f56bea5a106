import VkVideoParser.Client

/-! The parameter sets of the GStreamer H.265 parser, the Std structures of the video headers and
their translation by the element, built against GStreamer 1.21.1 or later. Of the pointers that the
element leaves null only the two of the VPS are kept. -/

namespace VkVideoParser.H265

structure GstH265ProfileTierLevel where
  profileIdc : Nat := 0
  tierFlag : Bool := false
  levelIdc : Nat := 0
  progressiveSourceFlag : Bool := false
  interlacedSourceFlag : Bool := false
  nonPackedConstraintFlag : Bool := false
  frameOnlyConstraintFlag : Bool := false
  deriving DecidableEq

structure GstH265HRDParams where
  nalHrdParametersPresentFlag : Bool := false
  vclHrdParametersPresentFlag : Bool := false
  subPicHrdParamsPresentFlag : Bool := false
  tickDivisorMinus2 : Nat := 0
  duCpbRemovalDelayIncrementLengthMinus1 : Nat := 0
  subPicCpbParamsInPicTimingSeiFlag : Bool := false
  dpbOutputDelayDuLengthMinus1 : Nat := 0
  bitRateScale : Nat := 0
  cpbSizeScale : Nat := 0
  cpbSizeDuScale : Nat := 0
  initialCpbRemovalDelayLengthMinus1 : Nat := 0
  auCpbRemovalDelayLengthMinus1 : Nat := 0
  dpbOutputDelayLengthMinus1 : Nat := 0
  fixedPicRateGeneralFlag : List Bool := []
  fixedPicRateWithinCvsFlag : List Bool := []
  lowDelayHrdFlag : List Bool := []
  deriving DecidableEq

structure GstH265VPS where
  id : Nat := 0
  maxSubLayersMinus1 : Nat := 0
  temporalIdNestingFlag : Bool := false
  profileTierLevel : GstH265ProfileTierLevel := {}
  subLayerOrderingInfoPresentFlag : Bool := false
  maxDecPicBufferingMinus1 : List Nat := []
  maxNumReorderPics : List Nat := []
  maxLatencyIncreasePlus1 : List Nat := []
  timingInfoPresentFlag : Bool := false
  numUnitsInTick : Nat := 0
  timeScale : Nat := 0
  pocProportionalToTimingFlag : Bool := false
  numTicksPocDiffOneMinus1 : Nat := 0
  hrdParams : GstH265HRDParams := {}
  deriving DecidableEq

structure GstH265VUIParams where
  aspectRatioInfoPresentFlag : Bool := false
  aspectRatioIdc : Nat := 0
  sarWidth : Nat := 0
  sarHeight : Nat := 0
  overscanInfoPresentFlag : Bool := false
  overscanAppropriateFlag : Bool := false
  videoSignalTypePresentFlag : Bool := false
  videoFormat : Nat := 0
  videoFullRangeFlag : Bool := false
  colourDescriptionPresentFlag : Bool := false
  colourPrimaries : Nat := 0
  transferCharacteristics : Nat := 0
  matrixCoefficients : Nat := 0
  chromaLocInfoPresentFlag : Bool := false
  chromaSampleLocTypeTopField : Nat := 0
  chromaSampleLocTypeBottomField : Nat := 0
  neutralChromaIndicationFlag : Bool := false
  fieldSeqFlag : Bool := false
  frameFieldInfoPresentFlag : Bool := false
  defaultDisplayWindowFlag : Bool := false
  defDispWinLeftOffset : Nat := 0
  defDispWinRightOffset : Nat := 0
  defDispWinTopOffset : Nat := 0
  defDispWinBottomOffset : Nat := 0
  timingInfoPresentFlag : Bool := false
  numUnitsInTick : Nat := 0
  timeScale : Nat := 0
  pocProportionalToTimingFlag : Bool := false
  numTicksPocDiffOneMinus1 : Nat := 0
  hrdParametersPresentFlag : Bool := false
  hrdParams : GstH265HRDParams := {}
  bitstreamRestrictionFlag : Bool := false
  tilesFixedStructureFlag : Bool := false
  motionVectorsOverPicBoundariesFlag : Bool := false
  restrictedRefPicListsFlag : Bool := false
  minSpatialSegmentationIdc : Nat := 0
  maxBytesPerPicDenom : Nat := 0
  maxBitsPerMinCuDenom : Nat := 0
  log2MaxMvLengthHorizontal : Nat := 0
  log2MaxMvLengthVertical : Nat := 0
  deriving DecidableEq

structure GstH265ScalingList where
  scalingListDcCoefMinus8For16x16 : List Int := []
  scalingListDcCoefMinus8For32x32 : List Int := []
  scalingLists4x4 : List (List Nat) := []
  scalingLists8x8 : List (List Nat) := []
  scalingLists16x16 : List (List Nat) := []
  scalingLists32x32 : List (List Nat) := []
  deriving DecidableEq

/-- One entry of `DeltaPocS0`, `UsedByCurrPicS0` or of their likes for the pictures that follow. -/
structure StRefPic where
  deltaPoc : Int
  usedByCurrPic : Bool
  deriving DecidableEq

structure GstH265ShortTermRefPicSet where
  negativePics : List StRefPic := []
  positivePics : List StRefPic := []
  numDeltaPocsOfRefRpsIdx : Nat := 0
  deriving DecidableEq

structure GstH265SPSExtensionParams where
  transformSkipRotationEnabledFlag : Bool := false
  transformSkipContextEnabledFlag : Bool := false
  implicitRdpcmEnabledFlag : Bool := false
  explicitRdpcmEnabledFlag : Bool := false
  extendedPrecisionProcessingFlag : Bool := false
  intraSmoothingDisabledFlag : Bool := false
  highPrecisionOffsetsEnabledFlag : Bool := false
  persistentRiceAdaptationEnabledFlag : Bool := false
  cabacBypassAlignmentEnabledFlag : Bool := false
  deriving DecidableEq

structure GstH265SPSSccExtensionParams where
  spsCurrPicRefEnabledFlag : Bool := false
  paletteModeEnabledFlag : Bool := false
  paletteMaxSize : Nat := 0
  deltaPaletteMaxPredictorSize : Nat := 0
  spsPalettePredictorInitializersPresentFlag : Bool := false
  spsNumPalettePredictorInitializerMinus1 : Nat := 0
  motionVectorResolutionControlIdc : Nat := 0
  intraBoundaryFilteringDisabledFlag : Bool := false
  deriving DecidableEq

/-- `vps` is the parser's slot of the VPS that the SPS points to, if the parser had one. -/
structure GstH265SPS where
  id : Nat := 0
  vpsId : Nat := 0
  vps : Option Nat := none
  maxSubLayersMinus1 : Nat := 0
  temporalIdNestingFlag : Bool := false
  profileTierLevel : GstH265ProfileTierLevel := {}
  chromaFormatIdc : Nat := 0
  separateColourPlaneFlag : Bool := false
  picWidthInLumaSamples : Nat := 0
  picHeightInLumaSamples : Nat := 0
  conformanceWindowFlag : Bool := false
  confWinLeftOffset : Nat := 0
  confWinRightOffset : Nat := 0
  confWinTopOffset : Nat := 0
  confWinBottomOffset : Nat := 0
  bitDepthLumaMinus8 : Nat := 0
  bitDepthChromaMinus8 : Nat := 0
  log2MaxPicOrderCntLsbMinus4 : Nat := 0
  subLayerOrderingInfoPresentFlag : Bool := false
  maxDecPicBufferingMinus1 : List Nat := []
  maxNumReorderPics : List Nat := []
  maxLatencyIncreasePlus1 : List Nat := []
  log2MinLumaCodingBlockSizeMinus3 : Nat := 0
  log2DiffMaxMinLumaCodingBlockSize : Nat := 0
  log2MinTransformBlockSizeMinus2 : Nat := 0
  log2DiffMaxMinTransformBlockSize : Nat := 0
  maxTransformHierarchyDepthInter : Nat := 0
  maxTransformHierarchyDepthIntra : Nat := 0
  scalingListEnabledFlag : Bool := false
  scalingListDataPresentFlag : Bool := false
  scalingList : GstH265ScalingList := {}
  ampEnabledFlag : Bool := false
  sampleAdaptiveOffsetEnabledFlag : Bool := false
  pcmEnabledFlag : Bool := false
  pcmSampleBitDepthLumaMinus1 : Nat := 0
  pcmSampleBitDepthChromaMinus1 : Nat := 0
  log2MinPcmLumaCodingBlockSizeMinus3 : Nat := 0
  log2DiffMaxMinPcmLumaCodingBlockSize : Nat := 0
  pcmLoopFilterDisabledFlag : Bool := false
  numShortTermRefPicSets : Nat := 0
  shortTermRefPicSet : List GstH265ShortTermRefPicSet := []
  longTermRefPicsPresentFlag : Bool := false
  numLongTermRefPicsSps : Nat := 0
  ltRefPicPocLsbSps : List Int := []
  usedByCurrPicLtSpsFlag : List Bool := []
  temporalMvpEnabledFlag : Bool := false
  strongIntraSmoothingEnabledFlag : Bool := false
  vuiParametersPresentFlag : Bool := false
  vuiParams : GstH265VUIParams := {}
  spsExtensionFlag : Bool := false
  spsRangeExtensionFlag : Bool := false
  spsSccExtensionFlag : Bool := false
  spsExtensionParams : GstH265SPSExtensionParams := {}
  spsSccExtensionParams : GstH265SPSSccExtensionParams := {}
  -- calculated values
  width : Nat := 0
  height : Nat := 0
  cropRectWidth : Nat := 0
  cropRectHeight : Nat := 0
  cropRectX : Nat := 0
  cropRectY : Nat := 0
  deriving DecidableEq

structure GstH265PPSExtensionParams where
  log2MaxTransformSkipBlockSizeMinus2 : Nat := 0
  crossComponentPredictionEnabledFlag : Bool := false
  chromaQpOffsetListEnabledFlag : Bool := false
  diffCuChromaQpOffsetDepth : Nat := 0
  chromaQpOffsetListLenMinus1 : Nat := 0
  cbQpOffsetList : List Int := []
  crQpOffsetList : List Int := []
  log2SaoOffsetScaleLuma : Nat := 0
  log2SaoOffsetScaleChroma : Nat := 0
  deriving DecidableEq

structure GstH265PPSSccExtensionParams where
  ppsCurrPicRefEnabledFlag : Bool := false
  residualAdaptiveColourTransformEnabledFlag : Bool := false
  ppsSliceActQpOffsetsPresentFlag : Bool := false
  ppsActYQpOffsetPlus5 : Int := 0
  ppsActCbQpOffsetPlus5 : Int := 0
  ppsActCrQpOffsetPlus3 : Int := 0
  ppsPalettePredictorInitializersPresentFlag : Bool := false
  ppsNumPalettePredictorInitializer : Nat := 0
  monochromePaletteFlag : Bool := false
  lumaBitDepthEntryMinus8 : Nat := 0
  chromaBitDepthEntryMinus8 : Nat := 0
  deriving DecidableEq

/-- `sps` is the parser's slot of the SPS that the PPS points to. -/
structure GstH265PPS where
  id : Nat := 0
  spsId : Nat := 0
  sps : Nat := 0
  dependentSliceSegmentsEnabledFlag : Bool := false
  outputFlagPresentFlag : Bool := false
  numExtraSliceHeaderBits : Nat := 0
  signDataHidingEnabledFlag : Bool := false
  cabacInitPresentFlag : Bool := false
  numRefIdxL0DefaultActiveMinus1 : Nat := 0
  numRefIdxL1DefaultActiveMinus1 : Nat := 0
  initQpMinus26 : Int := 0
  constrainedIntraPredFlag : Bool := false
  transformSkipEnabledFlag : Bool := false
  cuQpDeltaEnabledFlag : Bool := false
  diffCuQpDeltaDepth : Nat := 0
  cbQpOffset : Int := 0
  crQpOffset : Int := 0
  sliceChromaQpOffsetsPresentFlag : Bool := false
  weightedPredFlag : Bool := false
  weightedBipredFlag : Bool := false
  transquantBypassEnabledFlag : Bool := false
  tilesEnabledFlag : Bool := false
  entropyCodingSyncEnabledFlag : Bool := false
  numTileColumnsMinus1 : Nat := 0
  numTileRowsMinus1 : Nat := 0
  uniformSpacingFlag : Bool := false
  columnWidthMinus1 : List Nat := []
  rowHeightMinus1 : List Nat := []
  loopFilterAcrossTilesEnabledFlag : Bool := false
  loopFilterAcrossSlicesEnabledFlag : Bool := false
  deblockingFilterControlPresentFlag : Bool := false
  deblockingFilterOverrideEnabledFlag : Bool := false
  deblockingFilterDisabledFlag : Bool := false
  betaOffsetDiv2 : Int := 0
  tcOffsetDiv2 : Int := 0
  scalingListDataPresentFlag : Bool := false
  scalingList : GstH265ScalingList := {}
  listsModificationPresentFlag : Bool := false
  log2ParallelMergeLevelMinus2 : Nat := 0
  sliceSegmentHeaderExtensionPresentFlag : Bool := false
  ppsExtensionFlag : Bool := false
  ppsRangeExtensionFlag : Bool := false
  ppsSccExtensionFlag : Bool := false
  ppsExtensionParams : GstH265PPSExtensionParams := {}
  ppsSccExtensionParams : GstH265PPSSccExtensionParams := {}
  deriving DecidableEq

inductive StdVideoH265ProfileIdc
  | main | main10 | mainStillPicture | formatRangeExtensions | invalid
  deriving DecidableEq, Repr

def getProfileIdc : Nat → StdVideoH265ProfileIdc
  | 1 => .main
  | 2 => .main10
  | 3 => .mainStillPicture
  | 4 => .formatRangeExtensions
  | _ => .invalid

-- the number behind the enumeration
def StdVideoH265ProfileIdc.code : StdVideoH265ProfileIdc → Nat
  | main => 1
  | main10 => 2
  | mainStillPicture => 3
  | formatRangeExtensions => 4
  | invalid => 0x7FFFFFFF

structure StdVideoH265DecPicBufMgr where
  maxLatencyIncreasePlus1 : List Nat := []
  maxDecPicBufferingMinus1 : List Nat := []
  maxNumReorderPics : List Nat := []
  deriving DecidableEq

structure StdVideoH265HrdFlags where
  nalHrdParametersPresentFlag : Bool := false
  vclHrdParametersPresentFlag : Bool := false
  subPicHrdParamsPresentFlag : Bool := false
  subPicCpbParamsInPicTimingSeiFlag : Bool := false
  fixedPicRateGeneralFlag : Bool := false
  fixedPicRateWithinCvsFlag : Bool := false
  lowDelayHrdFlag : Bool := false
  deriving DecidableEq

structure StdVideoH265HrdParameters where
  flags : StdVideoH265HrdFlags := {}
  tickDivisorMinus2 : Nat := 0
  duCpbRemovalDelayIncrementLengthMinus1 : Nat := 0
  dpbOutputDelayDuLengthMinus1 : Nat := 0
  bitRateScale : Nat := 0
  cpbSizeScale : Nat := 0
  cpbSizeDuScale : Nat := 0
  initialCpbRemovalDelayLengthMinus1 : Nat := 0
  auCpbRemovalDelayLengthMinus1 : Nat := 0
  dpbOutputDelayLengthMinus1 : Nat := 0
  deriving DecidableEq

structure StdVideoH265VpsFlags where
  vpsTemporalIdNestingFlag : Bool := false
  vpsSubLayerOrderingInfoPresentFlag : Bool := false
  vpsTimingInfoPresentFlag : Bool := false
  vpsPocProportionalToTimingFlag : Bool := false
  deriving DecidableEq

structure StdVideoH265ProfileTierLevelFlags where
  generalTierFlag : Bool := false
  generalProgressiveSourceFlag : Bool := false
  generalInterlacedSourceFlag : Bool := false
  generalNonPackedConstraintFlag : Bool := false
  generalFrameOnlyConstraintFlag : Bool := false
  deriving DecidableEq

/-- An enumeration that is cast from a number keeps the number. -/
structure StdVideoH265ProfileTierLevel where
  flags : StdVideoH265ProfileTierLevelFlags := {}
  generalProfileIdc : StdVideoH265ProfileIdc := .invalid
  generalLevelIdc : Nat := 0
  deriving DecidableEq

/-- A pointer into the same `VkH265Picture` is the Boolean that it is not null. -/
structure StdVideoH265VideoParameterSet where
  flags : StdVideoH265VpsFlags := {}
  vpsVideoParameterSetId : Nat := 0
  vpsMaxSubLayersMinus1 : Nat := 0
  vpsNumUnitsInTick : Nat := 0
  vpsTimeScale : Nat := 0
  vpsNumTicksPocDiffOneMinus1 : Nat := 0
  pDecPicBufMgr : Bool := false
  pHrdParameters : Bool := false
  pProfileTierLevel : Bool := false
  deriving DecidableEq

structure StdVideoH265ScalingLists where
  scalingList4x4 : List (List Nat) := []
  scalingList8x8 : List (List Nat) := []
  scalingList16x16 : List (List Nat) := []
  scalingList32x32 : List (List Nat) := []
  scalingListDCCoef16x16 : List Nat := []
  scalingListDCCoef32x32 : List Nat := []
  deriving DecidableEq

structure StdVideoH265SpsVuiFlags where
  aspectRatioInfoPresentFlag : Bool := false
  overscanInfoPresentFlag : Bool := false
  overscanAppropriateFlag : Bool := false
  videoSignalTypePresentFlag : Bool := false
  videoFullRangeFlag : Bool := false
  colourDescriptionPresentFlag : Bool := false
  chromaLocInfoPresentFlag : Bool := false
  neutralChromaIndicationFlag : Bool := false
  fieldSeqFlag : Bool := false
  frameFieldInfoPresentFlag : Bool := false
  defaultDisplayWindowFlag : Bool := false
  vuiTimingInfoPresentFlag : Bool := false
  vuiPocProportionalToTimingFlag : Bool := false
  vuiHrdParametersPresentFlag : Bool := false
  bitstreamRestrictionFlag : Bool := false
  tilesFixedStructureFlag : Bool := false
  motionVectorsOverPicBoundariesFlag : Bool := false
  restrictedRefPicListsFlag : Bool := false
  deriving DecidableEq

structure StdVideoH265SequenceParameterSetVui where
  flags : StdVideoH265SpsVuiFlags := {}
  aspectRatioIdc : Nat := 0
  sarWidth : Nat := 0
  sarHeight : Nat := 0
  videoFormat : Nat := 0
  colourPrimaries : Nat := 0
  transferCharacteristics : Nat := 0
  matrixCoeffs : Nat := 0
  chromaSampleLocTypeTopField : Nat := 0
  chromaSampleLocTypeBottomField : Nat := 0
  defDispWinLeftOffset : Nat := 0
  defDispWinRightOffset : Nat := 0
  defDispWinTopOffset : Nat := 0
  defDispWinBottomOffset : Nat := 0
  vuiNumUnitsInTick : Nat := 0
  vuiTimeScale : Nat := 0
  vuiNumTicksPocDiffOneMinus1 : Nat := 0
  minSpatialSegmentationIdc : Nat := 0
  maxBytesPerPicDenom : Nat := 0
  maxBitsPerMinCuDenom : Nat := 0
  log2MaxMvLengthHorizontal : Nat := 0
  log2MaxMvLengthVertical : Nat := 0
  pHrdParameters : Bool := false
  deriving DecidableEq

structure StdVideoH265SpsFlags where
  spsTemporalIdNestingFlag : Bool := false
  separateColourPlaneFlag : Bool := false
  conformanceWindowFlag : Bool := false
  spsSubLayerOrderingInfoPresentFlag : Bool := false
  scalingListEnabledFlag : Bool := false
  spsScalingListDataPresentFlag : Bool := false
  ampEnabledFlag : Bool := false
  sampleAdaptiveOffsetEnabledFlag : Bool := false
  pcmEnabledFlag : Bool := false
  pcmLoopFilterDisabledFlag : Bool := false
  longTermRefPicsPresentFlag : Bool := false
  spsTemporalMvpEnabledFlag : Bool := false
  strongIntraSmoothingEnabledFlag : Bool := false
  vuiParametersPresentFlag : Bool := false
  spsExtensionPresentFlag : Bool := false
  spsRangeExtensionFlag : Bool := false
  transformSkipRotationEnabledFlag : Bool := false
  transformSkipContextEnabledFlag : Bool := false
  implicitRdpcmEnabledFlag : Bool := false
  explicitRdpcmEnabledFlag : Bool := false
  extendedPrecisionProcessingFlag : Bool := false
  intraSmoothingDisabledFlag : Bool := false
  highPrecisionOffsetsEnabledFlag : Bool := false
  persistentRiceAdaptationEnabledFlag : Bool := false
  cabacBypassAlignmentEnabledFlag : Bool := false
  spsSccExtensionFlag : Bool := false
  spsCurrPicRefEnabledFlag : Bool := false
  paletteModeEnabledFlag : Bool := false
  spsPalettePredictorInitializersPresentFlag : Bool := false
  intraBoundaryFilteringDisabledFlag : Bool := false
  deriving DecidableEq

structure StdVideoH265SequenceParameterSet where
  flags : StdVideoH265SpsFlags := {}
  chromaFormatIdc : Nat := 0
  picWidthInLumaSamples : Nat := 0
  picHeightInLumaSamples : Nat := 0
  spsVideoParameterSetId : Nat := 0
  spsMaxSubLayersMinus1 : Nat := 0
  spsSeqParameterSetId : Nat := 0
  bitDepthLumaMinus8 : Nat := 0
  bitDepthChromaMinus8 : Nat := 0
  log2MaxPicOrderCntLsbMinus4 : Nat := 0
  log2MinLumaCodingBlockSizeMinus3 : Nat := 0
  log2DiffMaxMinLumaCodingBlockSize : Nat := 0
  log2MinLumaTransformBlockSizeMinus2 : Nat := 0
  log2DiffMaxMinLumaTransformBlockSize : Nat := 0
  maxTransformHierarchyDepthInter : Nat := 0
  maxTransformHierarchyDepthIntra : Nat := 0
  numShortTermRefPicSets : Nat := 0
  numLongTermRefPicsSps : Nat := 0
  pcmSampleBitDepthLumaMinus1 : Nat := 0
  pcmSampleBitDepthChromaMinus1 : Nat := 0
  log2MinPcmLumaCodingBlockSizeMinus3 : Nat := 0
  log2DiffMaxMinPcmLumaCodingBlockSize : Nat := 0
  paletteMaxSize : Nat := 0
  deltaPaletteMaxPredictorSize : Nat := 0
  motionVectorResolutionControlIdc : Nat := 0
  spsNumPalettePredictorInitializersMinus1 : Nat := 0
  confWinLeftOffset : Nat := 0
  confWinRightOffset : Nat := 0
  confWinTopOffset : Nat := 0
  confWinBottomOffset : Nat := 0
  pProfileTierLevel : Bool := false
  pDecPicBufMgr : Bool := false
  pScalingLists : Bool := false
  pSequenceParameterSetVui : Bool := false
  deriving DecidableEq

structure StdVideoH265PpsFlags where
  dependentSliceSegmentsEnabledFlag : Bool := false
  outputFlagPresentFlag : Bool := false
  signDataHidingEnabledFlag : Bool := false
  cabacInitPresentFlag : Bool := false
  constrainedIntraPredFlag : Bool := false
  transformSkipEnabledFlag : Bool := false
  cuQpDeltaEnabledFlag : Bool := false
  ppsSliceChromaQpOffsetsPresentFlag : Bool := false
  weightedPredFlag : Bool := false
  weightedBipredFlag : Bool := false
  transquantBypassEnabledFlag : Bool := false
  tilesEnabledFlag : Bool := false
  entropyCodingSyncEnabledFlag : Bool := false
  uniformSpacingFlag : Bool := false
  loopFilterAcrossTilesEnabledFlag : Bool := false
  ppsLoopFilterAcrossSlicesEnabledFlag : Bool := false
  deblockingFilterControlPresentFlag : Bool := false
  deblockingFilterOverrideEnabledFlag : Bool := false
  ppsDeblockingFilterDisabledFlag : Bool := false
  ppsScalingListDataPresentFlag : Bool := false
  listsModificationPresentFlag : Bool := false
  sliceSegmentHeaderExtensionPresentFlag : Bool := false
  ppsExtensionPresentFlag : Bool := false
  crossComponentPredictionEnabledFlag : Bool := false
  chromaQpOffsetListEnabledFlag : Bool := false
  ppsCurrPicRefEnabledFlag : Bool := false
  residualAdaptiveColourTransformEnabledFlag : Bool := false
  ppsSliceActQpOffsetsPresentFlag : Bool := false
  ppsPalettePredictorInitializersPresentFlag : Bool := false
  monochromePaletteFlag : Bool := false
  ppsRangeExtensionFlag : Bool := false
  deriving DecidableEq

structure StdVideoH265PictureParameterSet where
  flags : StdVideoH265PpsFlags := {}
  ppsPicParameterSetId : Nat := 0
  ppsSeqParameterSetId : Nat := 0
  numExtraSliceHeaderBits : Nat := 0
  numRefIdxL0DefaultActiveMinus1 : Nat := 0
  numRefIdxL1DefaultActiveMinus1 : Nat := 0
  initQpMinus26 : Int := 0
  diffCuQpDeltaDepth : Nat := 0
  ppsCbQpOffset : Int := 0
  ppsCrQpOffset : Int := 0
  ppsBetaOffsetDiv2 : Int := 0
  ppsTcOffsetDiv2 : Int := 0
  log2ParallelMergeLevelMinus2 : Nat := 0
  log2MaxTransformSkipBlockSizeMinus2 : Nat := 0
  diffCuChromaQpOffsetDepth : Nat := 0
  chromaQpOffsetListLenMinus1 : Nat := 0
  cbQpOffsetList : List Int := []
  crQpOffsetList : List Int := []
  log2SaoOffsetScaleLuma : Nat := 0
  log2SaoOffsetScaleChroma : Nat := 0
  ppsActYQpOffsetPlus5 : Int := 0
  ppsActCbQpOffsetPlus5 : Int := 0
  ppsActCrQpOffsetPlus3 : Int := 0
  ppsNumPalettePredictorInitializers : Nat := 0
  lumaBitDepthEntryMinus8 : Nat := 0
  chromaBitDepthEntryMinus8 : Nat := 0
  numTileColumnsMinus1 : Nat := 0
  numTileRowsMinus1 : Nat := 0
  columnWidthMinus1 : List Nat := []
  rowHeightMinus1 : List Nat := []
  pScalingLists : Bool := false
  deriving DecidableEq

structure VkH265Picture where
  hrd : StdVideoH265HrdParameters := {}
  vui : StdVideoH265SequenceParameterSetVui := {}
  profileTierLevel : StdVideoH265ProfileTierLevel := {}
  sps : StdVideoH265SequenceParameterSet := {}
  pps : StdVideoH265PictureParameterSet := {}
  vps : StdVideoH265VideoParameterSet := {}
  picBufMgr : StdVideoH265DecPicBufMgr := {}
  scalingListsSps : StdVideoH265ScalingLists := {}
  scalingListsPps : StdVideoH265ScalingLists := {}

def uint8 (n : Int) : Nat := (n % 2 ^ 8).toNat

def fillScalingList (src : GstH265ScalingList) : StdVideoH265ScalingLists where
  scalingList4x4 := src.scalingLists4x4
  scalingList8x8 := src.scalingLists8x8
  scalingList16x16 := src.scalingLists16x16
  scalingList32x32 := src.scalingLists32x32
  scalingListDCCoef16x16 := (src.scalingListDcCoefMinus8For16x16.take 6).map fun n => uint8 (n + 8)
  scalingListDCCoef32x32 := (src.scalingListDcCoefMinus8For32x32.take 2).map fun n => uint8 (n + 8)

def fillHrd (hrd : GstH265HRDParams) : StdVideoH265HrdParameters where
  flags :=
    { nalHrdParametersPresentFlag := hrd.nalHrdParametersPresentFlag
      vclHrdParametersPresentFlag := hrd.vclHrdParametersPresentFlag
      subPicHrdParamsPresentFlag := hrd.subPicHrdParamsPresentFlag
      subPicCpbParamsInPicTimingSeiFlag := hrd.subPicCpbParamsInPicTimingSeiFlag
      fixedPicRateGeneralFlag := hrd.fixedPicRateGeneralFlag.getD 0 false
      fixedPicRateWithinCvsFlag := hrd.fixedPicRateWithinCvsFlag.getD 0 false
      lowDelayHrdFlag := hrd.lowDelayHrdFlag.getD 0 false }
  tickDivisorMinus2 := hrd.tickDivisorMinus2
  duCpbRemovalDelayIncrementLengthMinus1 := hrd.duCpbRemovalDelayIncrementLengthMinus1
  dpbOutputDelayDuLengthMinus1 := hrd.dpbOutputDelayDuLengthMinus1
  bitRateScale := hrd.bitRateScale
  cpbSizeScale := hrd.cpbSizeScale
  cpbSizeDuScale := hrd.cpbSizeDuScale
  initialCpbRemovalDelayLengthMinus1 := hrd.initialCpbRemovalDelayLengthMinus1
  auCpbRemovalDelayLengthMinus1 := hrd.auCpbRemovalDelayLengthMinus1
  dpbOutputDelayLengthMinus1 := hrd.dpbOutputDelayLengthMinus1

def fillVui (vui : GstH265VUIParams) : StdVideoH265SequenceParameterSetVui where
  flags :=
    { aspectRatioInfoPresentFlag := vui.aspectRatioInfoPresentFlag
      overscanInfoPresentFlag := vui.overscanInfoPresentFlag
      overscanAppropriateFlag := vui.overscanAppropriateFlag
      videoSignalTypePresentFlag := vui.videoSignalTypePresentFlag
      videoFullRangeFlag := vui.videoFullRangeFlag
      colourDescriptionPresentFlag := vui.colourDescriptionPresentFlag
      chromaLocInfoPresentFlag := vui.chromaLocInfoPresentFlag
      neutralChromaIndicationFlag := vui.neutralChromaIndicationFlag
      fieldSeqFlag := vui.fieldSeqFlag
      frameFieldInfoPresentFlag := vui.frameFieldInfoPresentFlag
      defaultDisplayWindowFlag := vui.defaultDisplayWindowFlag
      vuiTimingInfoPresentFlag := vui.timingInfoPresentFlag
      vuiPocProportionalToTimingFlag := vui.pocProportionalToTimingFlag
      vuiHrdParametersPresentFlag := vui.hrdParametersPresentFlag
      bitstreamRestrictionFlag := vui.bitstreamRestrictionFlag
      tilesFixedStructureFlag := vui.tilesFixedStructureFlag
      motionVectorsOverPicBoundariesFlag := vui.motionVectorsOverPicBoundariesFlag
      restrictedRefPicListsFlag := vui.restrictedRefPicListsFlag }
  aspectRatioIdc := vui.aspectRatioIdc
  sarWidth := vui.sarWidth
  sarHeight := vui.sarHeight
  videoFormat := vui.videoFormat
  colourPrimaries := vui.colourPrimaries
  transferCharacteristics := vui.transferCharacteristics
  matrixCoeffs := vui.matrixCoefficients
  chromaSampleLocTypeTopField := vui.chromaSampleLocTypeTopField
  chromaSampleLocTypeBottomField := vui.chromaSampleLocTypeBottomField
  defDispWinLeftOffset := vui.defDispWinLeftOffset % 2 ^ 16
  defDispWinRightOffset := vui.defDispWinRightOffset % 2 ^ 16
  defDispWinTopOffset := vui.defDispWinTopOffset % 2 ^ 16
  defDispWinBottomOffset := vui.defDispWinBottomOffset % 2 ^ 16
  vuiNumUnitsInTick := vui.numUnitsInTick
  vuiTimeScale := vui.timeScale
  vuiNumTicksPocDiffOneMinus1 := vui.numTicksPocDiffOneMinus1
  minSpatialSegmentationIdc := vui.minSpatialSegmentationIdc
  maxBytesPerPicDenom := vui.maxBytesPerPicDenom
  maxBitsPerMinCuDenom := vui.maxBitsPerMinCuDenom
  log2MaxMvLengthHorizontal := vui.log2MaxMvLengthHorizontal
  log2MaxMvLengthVertical := vui.log2MaxMvLengthVertical
  pHrdParameters := true

def fillProfileTierLevel (ptl : GstH265ProfileTierLevel) : StdVideoH265ProfileTierLevel where
  flags :=
    { generalTierFlag := ptl.tierFlag
      generalProgressiveSourceFlag := ptl.progressiveSourceFlag
      generalInterlacedSourceFlag := ptl.interlacedSourceFlag
      generalNonPackedConstraintFlag := ptl.nonPackedConstraintFlag
      generalFrameOnlyConstraintFlag := ptl.frameOnlyConstraintFlag }
  generalProfileIdc := getProfileIdc ptl.profileIdc
  generalLevelIdc := ptl.levelIdc

-- the rotation flag is that of the context in the source
def fillSpsFlags (sps : GstH265SPS) : StdVideoH265SpsFlags where
  spsTemporalIdNestingFlag := sps.temporalIdNestingFlag
  separateColourPlaneFlag := sps.separateColourPlaneFlag
  conformanceWindowFlag := sps.conformanceWindowFlag
  spsSubLayerOrderingInfoPresentFlag := sps.subLayerOrderingInfoPresentFlag
  scalingListEnabledFlag := sps.scalingListEnabledFlag
  spsScalingListDataPresentFlag := sps.scalingListDataPresentFlag
  ampEnabledFlag := sps.ampEnabledFlag
  sampleAdaptiveOffsetEnabledFlag := sps.sampleAdaptiveOffsetEnabledFlag
  pcmEnabledFlag := sps.pcmEnabledFlag
  pcmLoopFilterDisabledFlag := sps.pcmLoopFilterDisabledFlag
  longTermRefPicsPresentFlag := sps.longTermRefPicsPresentFlag
  spsTemporalMvpEnabledFlag := sps.temporalMvpEnabledFlag
  strongIntraSmoothingEnabledFlag := sps.strongIntraSmoothingEnabledFlag
  vuiParametersPresentFlag := sps.vuiParametersPresentFlag
  spsExtensionPresentFlag := sps.spsExtensionFlag
  spsRangeExtensionFlag := sps.spsRangeExtensionFlag
  transformSkipRotationEnabledFlag := sps.spsExtensionFlag && sps.spsExtensionParams.transformSkipContextEnabledFlag
  transformSkipContextEnabledFlag := sps.spsExtensionFlag && sps.spsExtensionParams.transformSkipContextEnabledFlag
  implicitRdpcmEnabledFlag := sps.spsExtensionFlag && sps.spsExtensionParams.implicitRdpcmEnabledFlag
  explicitRdpcmEnabledFlag := sps.spsExtensionFlag && sps.spsExtensionParams.explicitRdpcmEnabledFlag
  extendedPrecisionProcessingFlag := sps.spsExtensionFlag && sps.spsExtensionParams.extendedPrecisionProcessingFlag
  intraSmoothingDisabledFlag := sps.spsExtensionFlag && sps.spsExtensionParams.intraSmoothingDisabledFlag
  highPrecisionOffsetsEnabledFlag := sps.spsExtensionFlag && sps.spsExtensionParams.highPrecisionOffsetsEnabledFlag
  persistentRiceAdaptationEnabledFlag :=
    sps.spsExtensionFlag && sps.spsExtensionParams.persistentRiceAdaptationEnabledFlag
  cabacBypassAlignmentEnabledFlag := sps.spsExtensionFlag && sps.spsExtensionParams.cabacBypassAlignmentEnabledFlag
  spsSccExtensionFlag := sps.spsSccExtensionFlag
  spsCurrPicRefEnabledFlag := sps.spsSccExtensionParams.spsCurrPicRefEnabledFlag
  paletteModeEnabledFlag := sps.spsSccExtensionParams.paletteModeEnabledFlag
  spsPalettePredictorInitializersPresentFlag := sps.spsSccExtensionParams.spsPalettePredictorInitializersPresentFlag
  intraBoundaryFilteringDisabledFlag := sps.spsSccExtensionParams.intraBoundaryFilteringDisabledFlag

-- `vps` is what `sps->vps` points to
def fillStdSps (sps : GstH265SPS) (vps : Option GstH265VPS) : StdVideoH265SequenceParameterSet where
  flags := fillSpsFlags sps
  chromaFormatIdc := sps.chromaFormatIdc
  picWidthInLumaSamples := sps.picWidthInLumaSamples
  picHeightInLumaSamples := sps.picHeightInLumaSamples
  spsVideoParameterSetId := (vps.map GstH265VPS.id).getD sps.vpsId
  spsMaxSubLayersMinus1 := sps.maxSubLayersMinus1
  spsSeqParameterSetId := sps.id
  bitDepthLumaMinus8 := sps.bitDepthLumaMinus8
  bitDepthChromaMinus8 := sps.bitDepthChromaMinus8
  log2MaxPicOrderCntLsbMinus4 := sps.log2MaxPicOrderCntLsbMinus4
  log2MinLumaCodingBlockSizeMinus3 := sps.log2MinLumaCodingBlockSizeMinus3
  log2DiffMaxMinLumaCodingBlockSize := sps.log2DiffMaxMinLumaCodingBlockSize
  log2MinLumaTransformBlockSizeMinus2 := sps.log2MinTransformBlockSizeMinus2
  log2DiffMaxMinLumaTransformBlockSize := sps.log2DiffMaxMinTransformBlockSize
  maxTransformHierarchyDepthInter := sps.maxTransformHierarchyDepthInter
  maxTransformHierarchyDepthIntra := sps.maxTransformHierarchyDepthIntra
  numShortTermRefPicSets := sps.numShortTermRefPicSets
  numLongTermRefPicsSps := sps.numLongTermRefPicsSps
  pcmSampleBitDepthLumaMinus1 := sps.pcmSampleBitDepthLumaMinus1
  pcmSampleBitDepthChromaMinus1 := sps.pcmSampleBitDepthChromaMinus1
  log2MinPcmLumaCodingBlockSizeMinus3 := sps.log2MinPcmLumaCodingBlockSizeMinus3
  log2DiffMaxMinPcmLumaCodingBlockSize := sps.log2DiffMaxMinPcmLumaCodingBlockSize
  paletteMaxSize := if sps.spsSccExtensionFlag then sps.spsSccExtensionParams.paletteMaxSize else 0
  deltaPaletteMaxPredictorSize :=
    if sps.spsSccExtensionFlag then sps.spsSccExtensionParams.deltaPaletteMaxPredictorSize else 0
  motionVectorResolutionControlIdc :=
    if sps.spsSccExtensionFlag then sps.spsSccExtensionParams.motionVectorResolutionControlIdc else 0
  spsNumPalettePredictorInitializersMinus1 :=
    if sps.spsSccExtensionFlag then sps.spsSccExtensionParams.spsNumPalettePredictorInitializerMinus1 else 0
  confWinLeftOffset := sps.confWinLeftOffset
  confWinRightOffset := sps.confWinRightOffset
  confWinTopOffset := sps.confWinTopOffset
  confWinBottomOffset := sps.confWinBottomOffset
  pProfileTierLevel := true
  pDecPicBufMgr := true
  pScalingLists := sps.scalingListEnabledFlag
  pSequenceParameterSetVui := true

-- what a flag leaves out keeps the value it had in `vkp`
def fillSps (sps : GstH265SPS) (vps : Option GstH265VPS) (vkp : VkH265Picture) : VkH265Picture :=
  { vkp with
    hrd :=
      if sps.vuiParametersPresentFlag && sps.vuiParams.hrdParametersPresentFlag then fillHrd sps.vuiParams.hrdParams
      else vkp.hrd
    vui := if sps.vuiParametersPresentFlag then fillVui sps.vuiParams else vkp.vui
    profileTierLevel := fillProfileTierLevel sps.profileTierLevel
    scalingListsSps := fillScalingList sps.scalingList
    sps := fillStdSps sps vps }

def fillPpsFlags (pps : GstH265PPS) : StdVideoH265PpsFlags where
  dependentSliceSegmentsEnabledFlag := pps.dependentSliceSegmentsEnabledFlag
  outputFlagPresentFlag := pps.outputFlagPresentFlag
  signDataHidingEnabledFlag := pps.signDataHidingEnabledFlag
  cabacInitPresentFlag := pps.cabacInitPresentFlag
  constrainedIntraPredFlag := pps.constrainedIntraPredFlag
  transformSkipEnabledFlag := pps.transformSkipEnabledFlag
  cuQpDeltaEnabledFlag := pps.cuQpDeltaEnabledFlag
  ppsSliceChromaQpOffsetsPresentFlag := pps.sliceChromaQpOffsetsPresentFlag
  weightedPredFlag := pps.weightedPredFlag
  weightedBipredFlag := pps.weightedBipredFlag
  transquantBypassEnabledFlag := pps.transquantBypassEnabledFlag
  tilesEnabledFlag := pps.tilesEnabledFlag
  entropyCodingSyncEnabledFlag := pps.entropyCodingSyncEnabledFlag
  uniformSpacingFlag := pps.uniformSpacingFlag
  loopFilterAcrossTilesEnabledFlag := pps.loopFilterAcrossTilesEnabledFlag
  ppsLoopFilterAcrossSlicesEnabledFlag := pps.loopFilterAcrossSlicesEnabledFlag
  deblockingFilterControlPresentFlag := pps.deblockingFilterControlPresentFlag
  deblockingFilterOverrideEnabledFlag := pps.deblockingFilterOverrideEnabledFlag
  ppsDeblockingFilterDisabledFlag := pps.deblockingFilterDisabledFlag
  ppsScalingListDataPresentFlag := pps.scalingListDataPresentFlag
  listsModificationPresentFlag := pps.listsModificationPresentFlag
  sliceSegmentHeaderExtensionPresentFlag := pps.sliceSegmentHeaderExtensionPresentFlag
  ppsExtensionPresentFlag := pps.ppsExtensionFlag
  crossComponentPredictionEnabledFlag := pps.ppsExtensionParams.crossComponentPredictionEnabledFlag
  chromaQpOffsetListEnabledFlag := pps.ppsExtensionParams.chromaQpOffsetListEnabledFlag
  ppsCurrPicRefEnabledFlag := pps.ppsSccExtensionParams.ppsCurrPicRefEnabledFlag
  residualAdaptiveColourTransformEnabledFlag := pps.ppsSccExtensionParams.residualAdaptiveColourTransformEnabledFlag
  ppsSliceActQpOffsetsPresentFlag := pps.ppsSccExtensionParams.ppsSliceActQpOffsetsPresentFlag
  ppsPalettePredictorInitializersPresentFlag := pps.ppsSccExtensionParams.ppsPalettePredictorInitializersPresentFlag
  monochromePaletteFlag := pps.ppsSccExtensionParams.monochromePaletteFlag
  ppsRangeExtensionFlag := pps.ppsRangeExtensionFlag

-- memcpy from an array of 32-bit numbers to one of `n` 16-bit numbers: two of these for each number
def memcpyHalves (n : Nat) (src : List Nat) : List Nat :=
  (List.range n).map fun i =>
    if i % 2 = 0 then src.getD (i / 2) 0 % 2 ^ 16 else src.getD (i / 2) 0 / 2 ^ 16

-- the copies of the two offset lists are commented out in the source, so these are zero
def fillStdPps (pps : GstH265PPS) : StdVideoH265PictureParameterSet where
  flags := fillPpsFlags pps
  ppsPicParameterSetId := pps.id % 2 ^ 8
  ppsSeqParameterSetId := pps.spsId % 2 ^ 8
  numExtraSliceHeaderBits := pps.numExtraSliceHeaderBits
  numRefIdxL0DefaultActiveMinus1 := pps.numRefIdxL0DefaultActiveMinus1
  numRefIdxL1DefaultActiveMinus1 := pps.numRefIdxL1DefaultActiveMinus1
  initQpMinus26 := pps.initQpMinus26
  diffCuQpDeltaDepth := pps.diffCuQpDeltaDepth
  ppsCbQpOffset := pps.cbQpOffset
  ppsCrQpOffset := pps.crQpOffset
  ppsBetaOffsetDiv2 := pps.betaOffsetDiv2
  ppsTcOffsetDiv2 := pps.tcOffsetDiv2
  log2ParallelMergeLevelMinus2 := pps.log2ParallelMergeLevelMinus2
  log2MaxTransformSkipBlockSizeMinus2 := pps.ppsExtensionParams.log2MaxTransformSkipBlockSizeMinus2 % 2 ^ 8
  diffCuChromaQpOffsetDepth := pps.ppsExtensionParams.diffCuChromaQpOffsetDepth
  chromaQpOffsetListLenMinus1 := pps.ppsExtensionParams.chromaQpOffsetListLenMinus1
  cbQpOffsetList := List.replicate 6 0
  crQpOffsetList := List.replicate 6 0
  log2SaoOffsetScaleLuma := pps.ppsExtensionParams.log2SaoOffsetScaleLuma
  log2SaoOffsetScaleChroma := pps.ppsExtensionParams.log2SaoOffsetScaleChroma
  ppsActYQpOffsetPlus5 := int8 pps.ppsSccExtensionParams.ppsActYQpOffsetPlus5
  ppsActCbQpOffsetPlus5 := int8 pps.ppsSccExtensionParams.ppsActCbQpOffsetPlus5
  ppsActCrQpOffsetPlus3 := int8 pps.ppsSccExtensionParams.ppsActCrQpOffsetPlus3
  ppsNumPalettePredictorInitializers := pps.ppsSccExtensionParams.ppsNumPalettePredictorInitializer
  lumaBitDepthEntryMinus8 := pps.ppsSccExtensionParams.lumaBitDepthEntryMinus8
  chromaBitDepthEntryMinus8 := pps.ppsSccExtensionParams.chromaBitDepthEntryMinus8 % 2 ^ 8
  numTileColumnsMinus1 := pps.numTileColumnsMinus1
  numTileRowsMinus1 := pps.numTileRowsMinus1
  columnWidthMinus1 := memcpyHalves 19 pps.columnWidthMinus1
  rowHeightMinus1 := memcpyHalves 21 pps.rowHeightMinus1
  pScalingLists := pps.scalingListDataPresentFlag

def fillPps (pps : GstH265PPS) (vkp : VkH265Picture) : VkH265Picture :=
  { vkp with
    scalingListsPps := fillScalingList pps.scalingList
    pps := fillStdPps pps }

def fillStdVps (vps : GstH265VPS) : StdVideoH265VideoParameterSet where
  flags :=
    { vpsTemporalIdNestingFlag := vps.temporalIdNestingFlag
      vpsSubLayerOrderingInfoPresentFlag := vps.subLayerOrderingInfoPresentFlag
      vpsTimingInfoPresentFlag := vps.timingInfoPresentFlag
      vpsPocProportionalToTimingFlag := vps.pocProportionalToTimingFlag }
  vpsVideoParameterSetId := vps.id
  vpsMaxSubLayersMinus1 := vps.maxSubLayersMinus1
  vpsNumUnitsInTick := vps.numUnitsInTick
  vpsTimeScale := vps.timeScale
  vpsNumTicksPocDiffOneMinus1 := vps.numTicksPocDiffOneMinus1
  pDecPicBufMgr := true

-- every memcpy is of seven bytes, which are not two of the 32-bit numbers; nothing else writes the
-- rest, so it is zero
def fillPicBufMgr (vps : GstH265VPS) : StdVideoH265DecPicBufMgr where
  maxLatencyIncreasePlus1 :=
    [vps.maxLatencyIncreasePlus1.getD 0 0, vps.maxLatencyIncreasePlus1.getD 1 0 % 2 ^ 24] ++ List.replicate 5 0
  maxDecPicBufferingMinus1 := vps.maxDecPicBufferingMinus1.take 7
  maxNumReorderPics := vps.maxNumReorderPics.take 7

def fillVps (vps : GstH265VPS) (vkp : VkH265Picture) : VkH265Picture :=
  { vkp with
    vps := fillStdVps vps
    picBufMgr := fillPicBufMgr vps }

/-- All that a consumer reads through `pStdVps`: the structure and what its pointers reach. -/
structure StdVps where
  vps : StdVideoH265VideoParameterSet
  picBufMgr : Option StdVideoH265DecPicBufMgr
  deriving DecidableEq

structure StdSps where
  sps : StdVideoH265SequenceParameterSet
  profileTierLevel : Option StdVideoH265ProfileTierLevel
  picBufMgr : Option StdVideoH265DecPicBufMgr
  scalingLists : Option StdVideoH265ScalingLists
  vui : Option (StdVideoH265SequenceParameterSetVui × Option StdVideoH265HrdParameters)
  deriving DecidableEq

structure StdPps where
  pps : StdVideoH265PictureParameterSet
  scalingLists : Option StdVideoH265ScalingLists
  deriving DecidableEq

def VkH265Picture.stdVps (vkp : VkH265Picture) : StdVps where
  vps := vkp.vps
  picBufMgr := pointee vkp.vps.pDecPicBufMgr vkp.picBufMgr

def VkH265Picture.stdSps (vkp : VkH265Picture) : StdSps where
  sps := vkp.sps
  profileTierLevel := pointee vkp.sps.pProfileTierLevel vkp.profileTierLevel
  picBufMgr := pointee vkp.sps.pDecPicBufMgr vkp.picBufMgr
  scalingLists := pointee vkp.sps.pScalingLists vkp.scalingListsSps
  vui := pointee vkp.sps.pSequenceParameterSetVui (vkp.vui, pointee vkp.vui.pHrdParameters vkp.hrd)

def VkH265Picture.stdPps (vkp : VkH265Picture) : StdPps where
  pps := vkp.pps
  scalingLists := pointee vkp.pps.pScalingLists vkp.scalingListsPps

def stdVpsOf (vps : GstH265VPS) : StdVps := (fillVps vps {}).stdVps

def stdPpsOf (pps : GstH265PPS) : StdPps := (fillPps pps {}).stdPps

-- the id that an SPS shows of its VPS
def vpsIdOf (sps : GstH265SPS) (vps : Option GstH265VPS) : Nat := (vps.map GstH265VPS.id).getD sps.vpsId

/-- What an SPS shows that `fill_sps` did not write for it: the buffering, and the VUI and the HRD that it
does not carry. -/
structure Leftover where
  picBufMgr : StdVideoH265DecPicBufMgr
  vui : Option StdVideoH265SequenceParameterSetVui
  hrd : Option StdVideoH265HrdParameters
  deriving DecidableEq

def leftover (sps : GstH265SPS) (vkp : VkH265Picture) : Leftover where
  picBufMgr := vkp.picBufMgr
  vui := pointee (!sps.vuiParametersPresentFlag) vkp.vui
  hrd :=
    if sps.vuiParametersPresentFlag then pointee (!sps.vuiParams.hrdParametersPresentFlag) vkp.hrd
    else pointee vkp.vui.pHrdParameters vkp.hrd

/-- The structures of the slot that no set writes on every announcement. -/
def VkH265Picture.kept (vkp : VkH265Picture) :
    StdVideoH265DecPicBufMgr × StdVideoH265SequenceParameterSetVui × StdVideoH265HrdParameters :=
  (vkp.picBufMgr, vkp.vui, vkp.hrd)

section Contents

variable (vps : GstH265VPS) (v w : Option GstH265VPS) (sps : GstH265SPS) (pps : GstH265PPS) (vkp vkp' : VkH265Picture)

-- what a consumer reads of a VPS or PPS does not depend on what `vkp` held before
lemma stdVps_fillVps : (fillVps vps vkp).stdVps = stdVpsOf vps := rfl

lemma stdPps_fillPps : (fillPps pps vkp).stdPps = stdPpsOf pps := rfl

lemma kept_fillVps : (fillVps vps vkp).kept = (fillPicBufMgr vps, vkp.kept.2) := rfl

lemma kept_fillPps : (fillPps pps vkp).kept = vkp.kept := rfl

variable {v w sps vkp vkp'}

lemma stdSps_congr (h : vkp.kept = vkp'.kept) : (fillSps sps v vkp).stdSps = (fillSps sps v vkp').stdSps := by
  simp only [VkH265Picture.kept, Prod.mk.injEq] at h
  simp only [VkH265Picture.stdSps, fillSps, h.1, h.2.1, h.2.2]

lemma leftover_congr (h : vkp.kept = vkp'.kept) : leftover sps vkp = leftover sps vkp' := by
  simp only [VkH265Picture.kept, Prod.mk.injEq] at h
  simp only [leftover, h.1, h.2.1, h.2.2]

lemma fillStdSps_inj : fillStdSps sps v = fillStdSps sps w ↔ vpsIdOf sps v = vpsIdOf sps w := by
  refine ⟨fun h => congrArg StdVideoH265SequenceParameterSet.spsVideoParameterSetId h, fun h => ?_⟩
  have hset : ∀ u, fillStdSps sps u = { fillStdSps sps none with spsVideoParameterSetId := vpsIdOf sps u } :=
    fun u => rfl
  rw [hset v, hset w, h]

/-- The same SPS shows the same if and only if what it leaves out was the same before. -/
lemma stdSps_eq_iff : (fillSps sps v vkp).stdSps = (fillSps sps w vkp').stdSps ↔
    vpsIdOf sps v = vpsIdOf sps w ∧ leftover sps vkp = leftover sps vkp' := by
  rw [← fillStdSps_inj]
  simp only [VkH265Picture.stdSps, fillSps, leftover, StdSps.mk.injEq, Leftover.mk.injEq]
  have hpointers : ∀ u, (fillStdSps sps u).pProfileTierLevel = true ∧ (fillStdSps sps u).pDecPicBufMgr = true ∧
      (fillStdSps sps u).pScalingLists = sps.scalingListEnabledFlag ∧
      (fillStdSps sps u).pSequenceParameterSetVui = true := fun u => ⟨rfl, rfl, rfl, rfl⟩
  have hhrd : (fillVui sps.vuiParams).pHrdParameters = true := rfl
  simp only [(hpointers v).1, (hpointers v).2.1, (hpointers v).2.2.1, (hpointers v).2.2.2, (hpointers w).1,
    (hpointers w).2.1, (hpointers w).2.2.1, (hpointers w).2.2.2, true_and]
  cases hv : sps.vuiParametersPresentFlag with
  | true =>
    cases hh : sps.vuiParams.hrdParametersPresentFlag with
    | true => simp [pointee]
    | false => simp [pointee, hhrd]
  | false => simp [pointee]

end Contents

end VkVideoParser.H265
