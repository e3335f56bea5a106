import VkVideoParser.Client

/-! The parameter sets of the GStreamer H.264 parser, the Std structures of the video headers and
their translation by the element. -/

namespace VkVideoParser.H264

structure GstH264HRDParams where
  cpbCntMinus1 : Nat := 0
  bitRateScale : Nat := 0
  cpbSizeScale : Nat := 0
  bitRateValueMinus1 : List Nat := []
  cpbSizeValueMinus1 : List Nat := []
  initialCpbRemovalDelayLengthMinus1 : Nat := 0
  cpbRemovalDelayLengthMinus1 : Nat := 0
  dpbOutputDelayLengthMinus1 : Nat := 0
  timeOffsetLength : Nat := 0
  deriving DecidableEq

structure GstH264VUIParams where
  aspectRatioInfoPresentFlag : Bool := false
  aspectRatioIdc : Nat := 0
  sarWidth : Nat := 0
  sarHeight : Nat := 0
  overscanInfoPresentFlag : Bool := false
  overscanAppropriateFlag : Bool := false
  videoSignalTypePresentFlag : Bool := false
  videoFormat : Nat := 0
  videoFullRangeFlag : Bool := false
  colourDescriptionPresentFlag : Bool := false
  colourPrimaries : Nat := 0
  transferCharacteristics : Nat := 0
  matrixCoefficients : Nat := 0
  chromaLocInfoPresentFlag : Bool := false
  chromaSampleLocTypeTopField : Nat := 0
  chromaSampleLocTypeBottomField : Nat := 0
  timingInfoPresentFlag : Bool := false
  numUnitsInTick : Nat := 0
  timeScale : Nat := 0
  fixedFrameRateFlag : Bool := false
  nalHrdParametersPresentFlag : Bool := false
  nalHrdParameters : GstH264HRDParams := {}
  vclHrdParametersPresentFlag : Bool := false
  vclHrdParameters : GstH264HRDParams := {}
  bitstreamRestrictionFlag : Bool := false
  numReorderFrames : Nat := 0
  maxDecFrameBuffering : Nat := 0
  deriving DecidableEq

structure GstH264SPS where
  id : Nat := 0
  profileIdc : Nat := 0
  constraintSet0Flag : Bool := false
  constraintSet1Flag : Bool := false
  constraintSet2Flag : Bool := false
  constraintSet3Flag : Bool := false
  constraintSet4Flag : Bool := false
  constraintSet5Flag : Bool := false
  levelIdc : Nat := 0
  chromaFormatIdc : Nat := 0
  separateColourPlaneFlag : Bool := false
  bitDepthLumaMinus8 : Nat := 0
  bitDepthChromaMinus8 : Nat := 0
  qpprimeYZeroTransformBypassFlag : Bool := false
  scalingMatrixPresentFlag : Bool := false
  scalingLists4x4 : List (List Nat) := []
  scalingLists8x8 : List (List Nat) := []
  log2MaxFrameNumMinus4 : Nat := 0
  picOrderCntType : Nat := 0
  log2MaxPicOrderCntLsbMinus4 : Nat := 0
  deltaPicOrderAlwaysZeroFlag : Bool := false
  offsetForNonRefPic : Int := 0
  offsetForTopToBottomField : Int := 0
  numRefFramesInPicOrderCntCycle : Nat := 0
  offsetForRefFrame : List Int := []
  numRefFrames : Nat := 0
  gapsInFrameNumValueAllowedFlag : Bool := false
  picWidthInMbsMinus1 : Nat := 0
  picHeightInMapUnitsMinus1 : Nat := 0
  frameMbsOnlyFlag : Bool := true
  mbAdaptiveFrameFieldFlag : Bool := false
  direct8x8InferenceFlag : Bool := false
  frameCroppingFlag : Bool := false
  frameCropLeftOffset : Nat := 0
  frameCropRightOffset : Nat := 0
  frameCropTopOffset : Nat := 0
  frameCropBottomOffset : Nat := 0
  vuiParametersPresentFlag : Bool := false
  vuiParameters : GstH264VUIParams := {}
  -- calculated values
  maxFrameNum : Nat := 16
  width : Nat := 0
  height : Nat := 0
  cropRectWidth : Nat := 0
  cropRectHeight : Nat := 0
  deriving DecidableEq

/-- `sequence` is the parser's slot of the SPS that the PPS points to. -/
structure GstH264PPS where
  id : Nat := 0
  sequence : Nat := 0
  entropyCodingModeFlag : Bool := false
  picOrderPresentFlag : Bool := false
  numSliceGroupsMinus1 : Nat := 0
  sliceGroupMapType : Nat := 0
  runLengthMinus1 : List Nat := List.replicate 8 0
  topLeft : List Nat := List.replicate 8 0
  bottomRight : List Nat := List.replicate 8 0
  sliceGroupChangeRateMinus1 : Nat := 0
  picSizeInMapUnitsMinus1 : Nat := 0
  sliceGroupId : List Nat := []
  numRefIdxL0ActiveMinus1 : Nat := 0
  numRefIdxL1ActiveMinus1 : Nat := 0
  weightedPredFlag : Bool := false
  weightedBipredIdc : Nat := 0
  picInitQpMinus26 : Int := 0
  picInitQsMinus26 : Int := 0
  chromaQpIndexOffset : Int := 0
  deblockingFilterControlPresentFlag : Bool := false
  constrainedIntraPredFlag : Bool := false
  redundantPicCntPresentFlag : Bool := false
  transform8x8ModeFlag : Bool := false
  picScalingMatrixPresentFlag : Bool := false
  scalingLists4x4 : List (List Nat) := []
  scalingLists8x8 : List (List Nat) := []
  secondChromaQpIndexOffset : Nat := 0
  deriving DecidableEq

inductive StdVideoH264ProfileIdc
  | baseline | main | high | high444Predictive | invalid
  deriving DecidableEq, Repr

inductive StdVideoH264LevelIdc
  | l1_0 | l1_1 | l1_2 | l1_3 | l2_0 | l2_1 | l2_2 | l3_0 | l3_1 | l3_2
  | l4_0 | l4_1 | l4_2 | l5_0 | l5_1 | l5_2 | l6_0 | l6_1 | l6_2 | invalid
  deriving DecidableEq, Repr

inductive StdVideoH264ChromaFormatIdc
  | monochrome | c420 | c422 | c444 | invalid
  deriving DecidableEq, Repr

inductive StdVideoH264PocType
  | type0 | type1 | type2 | invalid
  deriving DecidableEq, Repr

inductive StdVideoH264AspectRatioIdc
  | unspecified | square | r12_11 | r10_11 | r16_11 | r40_33 | r24_11 | r20_11 | r32_11 | r80_33
  | r18_11 | r15_11 | r64_33 | r160_99 | r4_3 | r3_2 | r2_1 | extendedSar | invalid
  deriving DecidableEq, Repr

inductive StdVideoH264WeightedBipredIdc
  | default | explicit | implicit | invalid
  deriving DecidableEq, Repr

def getH264Profile : Nat → StdVideoH264ProfileIdc
  | 66 => .baseline
  | 77 => .main
  | 100 => .high
  | 244 => .high444Predictive
  | _ => .invalid

def getH264LevelIdc : Nat → StdVideoH264LevelIdc
  | 10 => .l1_0
  | 11 => .l1_1
  | 12 => .l1_2
  | 13 => .l1_3
  | 20 => .l2_0
  | 21 => .l2_1
  | 22 => .l2_2
  | 30 => .l3_0
  | 31 => .l3_1
  | 32 => .l3_2
  | 40 => .l4_0
  | 41 => .l4_1
  | 42 => .l4_2
  | 50 => .l5_0
  | 51 => .l5_1
  | 52 => .l5_2
  | 60 => .l6_0
  | 61 => .l6_1
  | 62 => .l6_2
  | _ => .invalid

def getH264ChromaFormat : Nat → StdVideoH264ChromaFormatIdc
  | 0 => .monochrome
  | 1 => .c420
  | 2 => .c422
  | 3 => .c444
  | _ => .invalid

def getH264PocType : Nat → StdVideoH264PocType
  | 0 => .type0
  | 1 => .type1
  | 2 => .type2
  | _ => .invalid

def getH264AspectRatioIdc : Nat → StdVideoH264AspectRatioIdc
  | 0 => .unspecified
  | 1 => .square
  | 2 => .r12_11
  | 3 => .r10_11
  | 4 => .r16_11
  | 5 => .r40_33
  | 6 => .r24_11
  | 7 => .r20_11
  | 8 => .r32_11
  | 9 => .r80_33
  | 10 => .r18_11
  | 11 => .r15_11
  | 12 => .r64_33
  | 13 => .r160_99
  | 14 => .r4_3
  | 15 => .r3_2
  | 16 => .r2_1
  | 255 => .extendedSar
  | _ => .invalid

def getH264WeightedBipredIdc : Nat → StdVideoH264WeightedBipredIdc
  | 0 => .default
  | 1 => .explicit
  | 2 => .implicit
  | _ => .invalid

structure StdVideoH264HrdParameters where
  cpbCntMinus1 : Nat := 0
  bitRateScale : Nat := 0
  cpbSizeScale : Nat := 0
  bitRateValueMinus1 : List Nat := []
  cpbSizeValueMinus1 : List Nat := []
  initialCpbRemovalDelayLengthMinus1 : Nat := 0
  cpbRemovalDelayLengthMinus1 : Nat := 0
  dpbOutputDelayLengthMinus1 : Nat := 0
  timeOffsetLength : Nat := 0
  deriving DecidableEq

structure StdVideoH264SpsVuiFlags where
  aspectRatioInfoPresentFlag : Bool := false
  overscanInfoPresentFlag : Bool := false
  overscanAppropriateFlag : Bool := false
  videoSignalTypePresentFlag : Bool := false
  videoFullRangeFlag : Bool := false
  colorDescriptionPresentFlag : Bool := false
  chromaLocInfoPresentFlag : Bool := false
  timingInfoPresentFlag : Bool := false
  fixedFrameRateFlag : Bool := false
  bitstreamRestrictionFlag : Bool := false
  nalHrdParametersPresentFlag : Bool := false
  vclHrdParametersPresentFlag : Bool := false
  deriving DecidableEq

/-- A pointer into the same `VkH264Picture` is the Boolean that it is not null. -/
structure StdVideoH264SequenceParameterSetVui where
  flags : StdVideoH264SpsVuiFlags := {}
  aspectRatioIdc : StdVideoH264AspectRatioIdc := .unspecified
  sarWidth : Nat := 0
  sarHeight : Nat := 0
  videoFormat : Nat := 0
  colourPrimaries : Nat := 0
  transferCharacteristics : Nat := 0
  matrixCoefficients : Nat := 0
  numUnitsInTick : Nat := 0
  timeScale : Nat := 0
  maxNumReorderFrames : Nat := 0
  maxDecFrameBuffering : Nat := 0
  chromaSampleLocTypeTopField : Nat := 0
  chromaSampleLocTypeBottomField : Nat := 0
  pHrdParameters : Bool := false
  deriving DecidableEq

structure StdVideoH264SpsFlags where
  constraintSet0Flag : Bool := false
  constraintSet1Flag : Bool := false
  constraintSet2Flag : Bool := false
  constraintSet3Flag : Bool := false
  constraintSet4Flag : Bool := false
  constraintSet5Flag : Bool := false
  direct8x8InferenceFlag : Bool := false
  mbAdaptiveFrameFieldFlag : Bool := false
  frameMbsOnlyFlag : Bool := false
  deltaPicOrderAlwaysZeroFlag : Bool := false
  separateColourPlaneFlag : Bool := false
  gapsInFrameNumValueAllowedFlag : Bool := false
  qpprimeYZeroTransformBypassFlag : Bool := false
  frameCroppingFlag : Bool := false
  seqScalingMatrixPresentFlag : Bool := false
  vuiParametersPresentFlag : Bool := false
  deriving DecidableEq

structure StdVideoH264ScalingLists where
  scalingListPresentMask : Nat := 0
  useDefaultScalingMatrixMask : Nat := 0
  scalingList4x4 : List (List Nat) := []
  scalingList8x8 : List (List Nat) := []
  deriving DecidableEq

structure StdVideoH264SequenceParameterSet where
  flags : StdVideoH264SpsFlags := {}
  profileIdc : StdVideoH264ProfileIdc := .invalid
  levelIdc : StdVideoH264LevelIdc := .l1_0
  chromaFormatIdc : StdVideoH264ChromaFormatIdc := .monochrome
  seqParameterSetId : Nat := 0
  bitDepthLumaMinus8 : Nat := 0
  bitDepthChromaMinus8 : Nat := 0
  log2MaxFrameNumMinus4 : Nat := 0
  picOrderCntType : StdVideoH264PocType := .type0
  offsetForNonRefPic : Int := 0
  offsetForTopToBottomField : Int := 0
  log2MaxPicOrderCntLsbMinus4 : Nat := 0
  numRefFramesInPicOrderCntCycle : Nat := 0
  maxNumRefFrames : Nat := 0
  picWidthInMbsMinus1 : Nat := 0
  picHeightInMapUnitsMinus1 : Nat := 0
  frameCropLeftOffset : Nat := 0
  frameCropRightOffset : Nat := 0
  frameCropTopOffset : Nat := 0
  frameCropBottomOffset : Nat := 0
  pOffsetForRefFrame : Bool := false
  pScalingLists : Bool := false
  pSequenceParameterSetVui : Bool := false
  deriving DecidableEq

structure StdVideoH264PpsFlags where
  transform8x8ModeFlag : Bool := false
  redundantPicCntPresentFlag : Bool := false
  constrainedIntraPredFlag : Bool := false
  deblockingFilterControlPresentFlag : Bool := false
  weightedPredFlag : Bool := false
  bottomFieldPicOrderInFramePresentFlag : Bool := false
  entropyCodingModeFlag : Bool := false
  picScalingMatrixPresentFlag : Bool := false
  deriving DecidableEq

structure StdVideoH264PictureParameterSet where
  flags : StdVideoH264PpsFlags := {}
  seqParameterSetId : Nat := 0
  picParameterSetId : Nat := 0
  numRefIdxL0DefaultActiveMinus1 : Nat := 0
  numRefIdxL1DefaultActiveMinus1 : Nat := 0
  weightedBipredIdc : StdVideoH264WeightedBipredIdc := .default
  picInitQpMinus26 : Int := 0
  picInitQsMinus26 : Int := 0
  chromaQpIndexOffset : Int := 0
  secondChromaQpIndexOffset : Int := 0
  pScalingLists : Bool := false
  deriving DecidableEq

structure VkH264Picture where
  hrd : StdVideoH264HrdParameters := {}
  vui : StdVideoH264SequenceParameterSetVui := {}
  sps : StdVideoH264SequenceParameterSet := {}
  pps : StdVideoH264PictureParameterSet := {}
  scalingListsSps : StdVideoH264ScalingLists := {}
  scalingListsPps : StdVideoH264ScalingLists := {}
  offsetForRefFrame : List Int := []

def GstH264VUIParams.hrd (vui : GstH264VUIParams) : Option GstH264HRDParams :=
  if vui.nalHrdParametersPresentFlag then some vui.nalHrdParameters
  else if vui.vclHrdParametersPresentFlag then some vui.vclHrdParameters
  else none

def fillHrd (hrd : GstH264HRDParams) : StdVideoH264HrdParameters where
  cpbCntMinus1 := hrd.cpbCntMinus1
  bitRateScale := hrd.bitRateScale
  cpbSizeScale := hrd.cpbSizeScale
  bitRateValueMinus1 := hrd.bitRateValueMinus1
  cpbSizeValueMinus1 := hrd.cpbSizeValueMinus1
  initialCpbRemovalDelayLengthMinus1 := hrd.initialCpbRemovalDelayLengthMinus1
  cpbRemovalDelayLengthMinus1 := hrd.cpbRemovalDelayLengthMinus1
  dpbOutputDelayLengthMinus1 := hrd.dpbOutputDelayLengthMinus1
  timeOffsetLength := hrd.timeOffsetLength

def fillVui (vui : GstH264VUIParams) : StdVideoH264SequenceParameterSetVui where
  flags :=
    { aspectRatioInfoPresentFlag := vui.aspectRatioInfoPresentFlag
      overscanInfoPresentFlag := vui.overscanInfoPresentFlag
      overscanAppropriateFlag := vui.overscanAppropriateFlag
      videoSignalTypePresentFlag := vui.videoSignalTypePresentFlag
      videoFullRangeFlag := vui.videoFullRangeFlag
      colorDescriptionPresentFlag := vui.colourDescriptionPresentFlag
      chromaLocInfoPresentFlag := vui.chromaLocInfoPresentFlag
      timingInfoPresentFlag := vui.timingInfoPresentFlag
      fixedFrameRateFlag := vui.fixedFrameRateFlag
      bitstreamRestrictionFlag := vui.bitstreamRestrictionFlag
      nalHrdParametersPresentFlag := vui.nalHrdParametersPresentFlag
      vclHrdParametersPresentFlag := vui.vclHrdParametersPresentFlag }
  aspectRatioIdc := getH264AspectRatioIdc vui.aspectRatioIdc
  sarWidth := vui.sarWidth
  sarHeight := vui.sarHeight
  videoFormat := vui.videoFormat
  colourPrimaries := vui.colourPrimaries
  transferCharacteristics := vui.transferCharacteristics
  matrixCoefficients := vui.matrixCoefficients
  numUnitsInTick := vui.numUnitsInTick
  timeScale := vui.timeScale
  maxNumReorderFrames := vui.numReorderFrames % 2 ^ 8
  maxDecFrameBuffering := vui.maxDecFrameBuffering % 2 ^ 8
  chromaSampleLocTypeTopField := vui.chromaSampleLocTypeTopField
  chromaSampleLocTypeBottomField := vui.chromaSampleLocTypeBottomField
  pHrdParameters := vui.hrd.isSome

def fillStdSps (sps : GstH264SPS) : StdVideoH264SequenceParameterSet where
  flags :=
    { constraintSet0Flag := sps.constraintSet0Flag
      constraintSet1Flag := sps.constraintSet1Flag
      constraintSet2Flag := sps.constraintSet2Flag
      constraintSet3Flag := sps.constraintSet3Flag
      constraintSet4Flag := sps.constraintSet4Flag
      constraintSet5Flag := sps.constraintSet5Flag
      direct8x8InferenceFlag := sps.direct8x8InferenceFlag
      mbAdaptiveFrameFieldFlag := sps.mbAdaptiveFrameFieldFlag
      frameMbsOnlyFlag := sps.frameMbsOnlyFlag
      deltaPicOrderAlwaysZeroFlag := sps.deltaPicOrderAlwaysZeroFlag
      separateColourPlaneFlag := sps.separateColourPlaneFlag
      gapsInFrameNumValueAllowedFlag := sps.gapsInFrameNumValueAllowedFlag
      qpprimeYZeroTransformBypassFlag := sps.qpprimeYZeroTransformBypassFlag
      frameCroppingFlag := sps.frameCroppingFlag
      seqScalingMatrixPresentFlag := sps.scalingMatrixPresentFlag
      vuiParametersPresentFlag := sps.vuiParametersPresentFlag }
  profileIdc := getH264Profile sps.profileIdc
  levelIdc := getH264LevelIdc sps.levelIdc
  chromaFormatIdc := getH264ChromaFormat sps.chromaFormatIdc
  seqParameterSetId := sps.id % 2 ^ 8
  bitDepthLumaMinus8 := sps.bitDepthLumaMinus8
  bitDepthChromaMinus8 := sps.bitDepthChromaMinus8
  log2MaxFrameNumMinus4 := sps.log2MaxFrameNumMinus4
  picOrderCntType := getH264PocType sps.picOrderCntType
  offsetForNonRefPic := sps.offsetForNonRefPic
  offsetForTopToBottomField := sps.offsetForTopToBottomField
  log2MaxPicOrderCntLsbMinus4 := sps.log2MaxPicOrderCntLsbMinus4
  numRefFramesInPicOrderCntCycle := sps.numRefFramesInPicOrderCntCycle
  maxNumRefFrames := sps.numRefFrames % 2 ^ 8
  picWidthInMbsMinus1 := sps.picWidthInMbsMinus1
  picHeightInMapUnitsMinus1 := sps.picHeightInMapUnitsMinus1
  frameCropLeftOffset := sps.frameCropLeftOffset
  frameCropRightOffset := sps.frameCropRightOffset
  frameCropTopOffset := sps.frameCropTopOffset
  frameCropBottomOffset := sps.frameCropBottomOffset
  pOffsetForRefFrame := decide (0 < sps.numRefFramesInPicOrderCntCycle)
  pScalingLists := sps.scalingMatrixPresentFlag
  pSequenceParameterSetVui := sps.vuiParametersPresentFlag

-- `offsetForRefFrame` is an array in the source; the entries after the coded ones are zero
def GstH264SPS.offsets (sps : GstH264SPS) (n : Nat) : List Int :=
  (List.range n).map fun i => sps.offsetForRefFrame.getD i 0

-- what a flag leaves out keeps the value it had in `vkp`
def fillSps (sps : GstH264SPS) (vkp : VkH264Picture) : VkH264Picture where
  hrd :=
    match sps.vuiParameters.hrd with
    | some hrd => fillHrd hrd
    | none => vkp.hrd
  vui := fillVui sps.vuiParameters
  sps := fillStdSps sps
  pps := vkp.pps
  scalingListsSps :=
    if sps.scalingMatrixPresentFlag then
      { scalingListPresentMask := 1
        useDefaultScalingMatrixMask := 0
        scalingList4x4 := sps.scalingLists4x4
        scalingList8x8 := sps.scalingLists8x8 }
    else vkp.scalingListsSps
  scalingListsPps := vkp.scalingListsPps
  offsetForRefFrame :=
    sps.offsets sps.numRefFramesInPicOrderCntCycle ++ vkp.offsetForRefFrame.drop sps.numRefFramesInPicOrderCntCycle

def fillStdPps (pps : GstH264PPS) (sps : GstH264SPS) : StdVideoH264PictureParameterSet where
  flags :=
    { transform8x8ModeFlag := pps.transform8x8ModeFlag
      redundantPicCntPresentFlag := pps.redundantPicCntPresentFlag
      constrainedIntraPredFlag := pps.constrainedIntraPredFlag
      deblockingFilterControlPresentFlag := pps.deblockingFilterControlPresentFlag
      weightedPredFlag := pps.weightedPredFlag
      bottomFieldPicOrderInFramePresentFlag := false
      entropyCodingModeFlag := pps.entropyCodingModeFlag
      picScalingMatrixPresentFlag := pps.picScalingMatrixPresentFlag }
  seqParameterSetId := sps.id % 2 ^ 8
  picParameterSetId := pps.id % 2 ^ 8
  numRefIdxL0DefaultActiveMinus1 := pps.numRefIdxL0ActiveMinus1
  numRefIdxL1DefaultActiveMinus1 := pps.numRefIdxL1ActiveMinus1
  weightedBipredIdc := getH264WeightedBipredIdc pps.weightedBipredIdc
  picInitQpMinus26 := pps.picInitQpMinus26
  picInitQsMinus26 := pps.picInitQsMinus26
  chromaQpIndexOffset := pps.chromaQpIndexOffset
  secondChromaQpIndexOffset := int8 pps.secondChromaQpIndexOffset
  pScalingLists := pps.picScalingMatrixPresentFlag

-- `sps` is what `pps->sequence` points to
def fillPps (pps : GstH264PPS) (sps : GstH264SPS) (vkp : VkH264Picture) : VkH264Picture :=
  { vkp with
    scalingListsPps :=
      if pps.picScalingMatrixPresentFlag then
        { scalingListPresentMask := 1
          useDefaultScalingMatrixMask := 0
          scalingList4x4 := pps.scalingLists4x4
          scalingList8x8 := pps.scalingLists8x8 }
      else vkp.scalingListsPps
    pps := fillStdPps pps sps }

/-- All that a consumer reads through `pStdSps`: the structure and what its pointers reach. -/
structure StdSps where
  sps : StdVideoH264SequenceParameterSet
  offsetForRefFrame : Option (List Int)
  scalingLists : Option StdVideoH264ScalingLists
  vui : Option (StdVideoH264SequenceParameterSetVui × Option StdVideoH264HrdParameters)
  deriving DecidableEq

structure StdPps where
  pps : StdVideoH264PictureParameterSet
  scalingLists : Option StdVideoH264ScalingLists
  deriving DecidableEq

def VkH264Picture.stdSps (vkp : VkH264Picture) : StdSps where
  sps := vkp.sps
  offsetForRefFrame := pointee vkp.sps.pOffsetForRefFrame
    (vkp.offsetForRefFrame.take vkp.sps.numRefFramesInPicOrderCntCycle)
  scalingLists := pointee vkp.sps.pScalingLists vkp.scalingListsSps
  vui := pointee vkp.sps.pSequenceParameterSetVui
    (vkp.vui, pointee vkp.vui.pHrdParameters vkp.hrd)

def VkH264Picture.stdPps (vkp : VkH264Picture) : StdPps where
  pps := vkp.pps
  scalingLists := pointee vkp.pps.pScalingLists vkp.scalingListsPps

def stdSpsOf (sps : GstH264SPS) : StdSps := (fillSps sps {}).stdSps

def stdPpsOf (pps : GstH264PPS) (sps : GstH264SPS) : StdPps := (fillPps pps sps {}).stdPps

section Contents

variable (sps : GstH264SPS) (pps : GstH264PPS) (vkp : VkH264Picture)

lemma pointee_hrd : pointee (fillVui sps.vuiParameters).pHrdParameters (fillSps sps vkp).hrd =
    sps.vuiParameters.hrd.map fillHrd := by
  simp only [fillVui, fillSps]
  cases sps.vuiParameters.hrd <;> rfl

lemma take_offsets (n : Nat) (l : List Int) : (sps.offsets n ++ l).take n = sps.offsets n :=
  List.take_left' (by simp [GstH264SPS.offsets])

-- what a consumer reads does not depend on what `vkp` held before
lemma stdSps_fillSps : (fillSps sps vkp).stdSps = stdSpsOf sps := by
  have h : ∀ vkp, (fillSps sps vkp).stdSps =
      { sps := fillStdSps sps
        offsetForRefFrame := pointee (fillStdSps sps).pOffsetForRefFrame (sps.offsets sps.numRefFramesInPicOrderCntCycle)
        scalingLists := pointee sps.scalingMatrixPresentFlag
          { scalingListPresentMask := 1
            useDefaultScalingMatrixMask := 0
            scalingList4x4 := sps.scalingLists4x4
            scalingList8x8 := sps.scalingLists8x8 }
        vui := pointee sps.vuiParametersPresentFlag (fillVui sps.vuiParameters, sps.vuiParameters.hrd.map fillHrd) } := by
    intro vkp
    rw [← pointee_hrd sps vkp, ← take_offsets sps _ (vkp.offsetForRefFrame.drop sps.numRefFramesInPicOrderCntCycle),
      ← pointee_ite sps.scalingMatrixPresentFlag _ vkp.scalingListsSps]
    rfl
  rw [stdSpsOf, h, h]

lemma stdPps_fillPps : (fillPps pps sps vkp).stdPps = stdPpsOf pps sps := by
  have h : ∀ vkp, (fillPps pps sps vkp).stdPps =
      { pps := fillStdPps pps sps
        scalingLists := pointee pps.picScalingMatrixPresentFlag
          { scalingListPresentMask := 1
            useDefaultScalingMatrixMask := 0
            scalingList4x4 := pps.scalingLists4x4
            scalingList8x8 := pps.scalingLists8x8 } } := by
    intro vkp
    rw [← pointee_ite pps.picScalingMatrixPresentFlag _ vkp.scalingListsPps]
    rfl
  rw [stdPpsOf, h, h]

lemma stdPps_fillSps : (fillSps sps vkp).stdPps = vkp.stdPps := rfl

lemma stdSps_fillPps : (fillPps pps sps vkp).stdSps = vkp.stdSps := rfl

end Contents

end VkVideoParser.H264
