import VkVideoParser.H264.State

/-! The element vkh264parse: gstvkh264dec.cpp. -/

namespace VkVideoParser.H264

variable {P : Type} (env : Env P)

def sequenceInfo (sps : GstH264SPS) (maxDpbSize : Nat) (input : InputState) : SequenceInfo :=
  let vui := sps.vuiParameters
  let displayWidth := if sps.frameCroppingFlag then sps.cropRectWidth else sps.width
  let displayHeight := if sps.frameCroppingFlag then sps.cropRectHeight else sps.height
  let dar := (env.calculateDisplayRatio displayWidth displayHeight input.parN input.parD).getD (0, 0)
  let present := sps.vuiParametersPresentFlag
  { eCodec := .h264
    isSVC := input.scalable
    frameRate := packFramerate input.fpsN input.fpsD * 1000 % 2 ^ 32
    bProgSeq := sps.frameMbsOnlyFlag
    nDisplayWidth := displayWidth
    nDisplayHeight := displayHeight
    nCodedWidth := sps.width
    nCodedHeight := sps.height
    nChromaFormat := sps.chromaFormatIdc
    uBitDepthLumaMinus8 := sps.bitDepthLumaMinus8
    uBitDepthChromaMinus8 := sps.bitDepthChromaMinus8
    uVideoFullRange := present && vui.videoFullRangeFlag
    lBitrate := if present then (vui.hrd.map (·.bitRateScale)).getD 0 else 0
    lDARWidth := dar.1
    lDARHeight := dar.2
    lVideoFormat := if present then vui.videoFormat else 0
    lColorPrimaries := if present then vui.colourPrimaries else 0
    lTransferCharacteristics := if present then vui.transferCharacteristics else 0
    lMatrixCoefficients := if present then vui.matrixCoefficients else 0
    nMinNumDecodeSurfaces := maxDpbSize + 1
    codecProfile := sps.profileIdc }

def Decoder.beginSequence (sps : GstH264SPS) (info : SequenceInfo) (s : Decoder P) : Decoder P :=
  { s.emit (.beginSequence info sps) with maxDpbSize := env.beginSequence s.store.log info }

-- gst_vk_h264_dec_new_sequence
def newSequence (sps : GstH264SPS) (maxDpbSize : Nat) : DecoderM P GstFlowReturn := do
  let input ← deref (← get).inputState
  modify (Decoder.beginSequence env sps (sequenceInfo env sps maxDpbSize input))
  return .ok

def setVkPic (p : PicId) (vkpic : VkPic) (s : Decoder P) : Decoder P :=
  s.modifyPic p fun x => { x with userData := some vkpic }

def appendSlice (slice : GstH264Slice) (vkpic : VkPic) : VkPic :=
  { vkpic with
    data := { vkpic.data with nNumSlices := (vkpic.data.nNumSlices + 1) % 2 ^ 32 }
    bitstream := vkpic.bitstream ++ [0, 0, 1] ++ slice.nalu.data
    sliceOffsets := vkpic.sliceOffsets ++
      [(vkpic.sliceOffsets.getLastD 0 + slice.nalu.data.length + 3) % 2 ^ 32] }

def Decoder.decodeSlice (p : PicId) (slice : GstH264Slice) (vkpic : VkPic) (s : Decoder P) : Decoder P :=
  (setVkPic p (appendSlice slice vkpic) s).emit
    (.decodeSlice p slice (s.activation env slice.header.pps))

-- gst_vk_h264_dec_decode_slice
def vkDecodeSlice (p : PicId) (slice : GstH264Slice) : DecoderM P GstFlowReturn := do
  let vkpic ← deref ((← get).pic p).userData
  modify (Decoder.decodeSlice env p slice vkpic)
  return .ok

def Decoder.allocInfo (s : Decoder P) : AllocInfo where
  stored := s.store.dpb.picList.map s.pic
  maxNumFrames := s.store.dpb.maxNumFrames
  interlaced := s.store.dpb.interlaced

def Decoder.allocPicture (p : PicId) (s : Decoder P) : Decoder P :=
  let reply := env.allocPictureBuffer s.store.log
  let s' := s.emit (.allocPictureBuffer p reply s.allocInfo)
  match reply with
  | none => s'
  | some pic => setVkPic p { pic } s'

-- the body shared by gst_vk_h264_dec_new_picture and gst_vk_h264_dec_new_field_picture
def vkAllocPicture (p : PicId) : DecoderM P GstFlowReturn := do
  let s ← get
  modify (Decoder.allocPicture env p)
  return if (env.allocPictureBuffer s.store.log).isSome then .ok else .error

-- gst_vk_h264_dec_new_picture
def vkNewPicture (p : PicId) : DecoderM P GstFlowReturn := vkAllocPicture env p

-- gst_vk_h264_dec_new_field_picture
def vkNewFieldPicture (secondField : PicId) : DecoderM P GstFlowReturn := vkAllocPicture env secondField

def timestamp (x : Picture) (frame : VideoCodecFrame) : Nat :=
  x.systemFrameNumber * frame.duration % 2 ^ 64 / 100

def Decoder.displayReply (p : PicId) (vkpic : VkPic) (frame : VideoCodecFrame) (s : Decoder P) : Bool :=
  env.displayPicture s.store.log vkpic.pic (timestamp (s.pic p) frame)

def Decoder.displayPicture (p : PicId) (vkpic : VkPic) (frame : VideoCodecFrame) (s : Decoder P) : Decoder P :=
  s.emit (.displayPicture p vkpic.pic frame (timestamp (s.pic p) frame) (s.displayReply env p vkpic frame))

-- gst_vk_h264_dec_output_picture
def vkOutputPicture (frame : VideoCodecFrame) (p : PicId) : DecoderM P GstFlowReturn := do
  let s ← get
  let vkpic ← deref (s.pic p).userData
  modify (Decoder.displayPicture env p vkpic frame)
  onStore (Store.unref p)
  if s.displayReply env p vkpic frame then finishFrame env frame else return .error

-- what a pointer to a parameter set shows at the time of a call
def Decoder.stdSps (s : Decoder P) (vkpic : VkPic) : StdSps :=
  match vkpic.data.h264.pStdSps with
  | .own => vkpic.vkp.stdSps
  | .shared => s.vkp.stdSps

def Decoder.stdPps (s : Decoder P) (vkpic : VkPic) : StdPps :=
  match vkpic.data.h264.pStdPps with
  | .own => vkpic.vkp.stdPps
  | .shared => s.vkp.stdPps

-- the steals of gst_vk_h264_dec_end_picture
def stealBitstream (vkpic : VkPic) : VkPic :=
  { vkpic with
    data := { vkpic.data with
      pBitstreamData := vkpic.bitstream
      nBitstreamDataLen := vkpic.bitstream.length % 2 ^ 32
      pSliceDataOffsets := vkpic.sliceOffsets }
    bitstream := []
    sliceOffsets := [] }

def Decoder.decodeReply (vkpic : VkPic) (s : Decoder P) : Bool :=
  env.decodePicture s.store.log (stealBitstream vkpic).data

def Decoder.endPicture (p : PicId) (vkpic : VkPic) (s : Decoder P) : Decoder P :=
  (setVkPic p (stealBitstream vkpic) s).emit
    (.decodePicture p (stealBitstream vkpic).data (s.stdSps vkpic) (s.stdPps vkpic) (s.decodeReply env vkpic))

-- gst_vk_h264_dec_end_picture
def vkEndPicture (p : PicId) : DecoderM P GstFlowReturn := do
  let s ← get
  let vkpic ← deref (s.pic p).userData
  modify (Decoder.endPicture env p vkpic)
  return if s.decodeReply env vkpic then .ok else .error

-- fill_dbp_entry; `other` is the picture behind the link
def fillDbpEntry (x : Picture) (other : Option Picture) : DpbEntry :=
  match x.userData with
  | none => {}
  | some vkpic =>
    let entry : DpbEntry :=
      { pPicBuf := vkpic.pic
        frameIdx := if x.ref = .longTerm then x.longTermPicNum else x.picNum
        isLongTerm := x.ref = .longTerm
        notExisting := x.nonexisting }
    match x.field, other with
    | .frame, _ =>
      { entry with
        usedForReference := 3
        fieldOrderCnt0 := x.topFieldOrderCnt
        fieldOrderCnt1 := x.bottomFieldOrderCnt }
    | .bottomField, some y =>
      { entry with
        usedForReference := 3
        fieldOrderCnt0 := y.topFieldOrderCnt
        fieldOrderCnt1 := x.bottomFieldOrderCnt }
    | .bottomField, none => { entry with usedForReference := 2, fieldOrderCnt1 := x.bottomFieldOrderCnt }
    | .topField, some y =>
      { entry with
        usedForReference := 3
        fieldOrderCnt0 := x.topFieldOrderCnt
        fieldOrderCnt1 := y.bottomFieldOrderCnt }
    | .topField, none => { entry with usedForReference := 2, fieldOrderCnt0 := x.topFieldOrderCnt }

def Store.otherPic (s : Store) (p : PicId) : Option Picture := (s.pic p).otherField.map s.pic

def Store.dpbEntry (s : Store) (p : PicId) : DpbEntry := fillDbpEntry (s.pic p) (s.otherPic p)

-- the reference frames of gst_vk_h264_dec_start_picture: the second loop goes on with the index of
-- the first one, over a list that starts anew
def Store.listedRefs (s : Store) : List PicId :=
  let short := (s.dpbGetPicturesShortTermRef false false).take (16 + 1)
  short ++ ((s.dpbGetPicturesLongTermRef false).drop short.length).take (16 + 1 - short.length)

def Store.dpbEntries (s : Store) : List DpbEntry :=
  s.listedRefs.map s.dpbEntry ++ List.replicate (16 + 1 - s.listedRefs.length) ({} : DpbEntry)

-- the other field that fill_dbp_entry looks at
def Store.touchOther (p : PicId) (s : Store) : Store :=
  match (s.pic p).userData.isSome && !(s.pic p).isFrame, (s.pic p).otherField with
  | true, some q => s.touch q
  | _, _ => s

def Store.touchOthers (l : List PicId) (s : Store) : Store := l.foldl (fun s p => s.touchOther p) s

def isISlice (header : GstH264SliceHdr) : Bool := header.type % 5 = 2

def isSiSlice (header : GstH264SliceHdr) : Bool := header.type % 5 = 4

def h264PictureData (x : Picture) (slice : GstH264Slice) (active : Activation) (source : ParamSource)
    (spsclient ppsclient : Option ClientObject) (dpb : List DpbEntry) : H264PictureData where
  pStdSps := source
  pSpsClientObject := spsclient
  pStdPps := source
  pPpsClientObject := ppsclient
  picParameterSetId := active.pps.id % 2 ^ 8
  seqParameterSetId := active.sps.id % 2 ^ 8
  numRefIdxL0ActiveMinus1 := active.pps.numRefIdxL0ActiveMinus1
  numRefIdxL1ActiveMinus1 := active.pps.numRefIdxL1ActiveMinus1
  weightedPredFlag := active.pps.weightedPredFlag
  weightedBipredIdc := active.pps.weightedBipredIdc
  picInitQpMinus26 := active.pps.picInitQpMinus26
  redundantPicCntPresentFlag := active.pps.redundantPicCntPresentFlag
  deblockingFilterControlPresentFlag := active.pps.deblockingFilterControlPresentFlag
  transform8x8ModeFlag := active.pps.transform8x8ModeFlag
  mbaffFrameFlag := active.sps.mbAdaptiveFrameFieldFlag && !slice.header.fieldPicFlag
  constrainedIntraPredFlag := active.pps.constrainedIntraPredFlag
  entropyCodingModeFlag := active.pps.entropyCodingModeFlag
  picOrderPresentFlag := active.pps.picOrderPresentFlag
  chromaQpIndexOffset := active.pps.chromaQpIndexOffset
  secondChromaQpIndexOffset := int8 active.pps.secondChromaQpIndexOffset
  frameNum := x.frameNum
  currFieldOrderCnt0 := x.topFieldOrderCnt
  currFieldOrderCnt1 := x.bottomFieldOrderCnt
  fmoAsoEnable := 0 < active.pps.numSliceGroupsMinus1
  numSliceGroupsMinus1 := active.pps.numSliceGroupsMinus1 % 2 ^ 8
  sliceGroupMapType := active.pps.sliceGroupMapType
  picInitQsMinus26 := active.pps.picInitQpMinus26
  sliceGroupChangeRateMinus1 := active.pps.sliceGroupChangeRateMinus1
  dpb := dpb

def pictureData (x : Picture) (vkpic : VkPic) (slice : GstH264Slice) (active : Activation)
    (h264 : H264PictureData) : PictureData where
  picWidthInMbs := active.sps.width / 16
  frameHeightInMbs := active.sps.height / 16
  pCurrPic := vkpic.pic
  fieldPicFlag := slice.header.fieldPicFlag
  bottomFieldFlag := slice.header.bottomFieldFlag
  secondField := x.secondField
  progressiveFrame := !x.bufferFlagInterlaced
  topFieldFirst := x.bufferFlagTff
  refPicFlag := x.refPic
  intraPicFlag := isISlice slice.header || isSiSlice slice.header
  chromaFormat := active.sps.chromaFormatIdc
  pictureOrderCount := x.picOrderCnt
  h264 := h264

-- `spsUpdateCount` is tested twice in the source, `ppsUpdateCount` not at all
def Decoder.paramSource (s : Decoder P) : ParamSource :=
  if !env.oobPicParams || (s.spsUpdateCount = 0 && s.spsUpdateCount = 0) then .own else .shared

def startVkPic (s : Decoder P) (p : PicId) (slice : GstH264Slice) (vkpic : VkPic) : VkPic :=
  let active := s.activation env slice.header.pps
  let source := s.paramSource env
  { vkpic with
    vkp :=
      match source with
      | .own => fillPps active.pps active.sps (fillSps active.sps vkpic.vkp)
      | .shared => vkpic.vkp
    data := pictureData (s.pic p) vkpic slice active
      (h264PictureData (s.pic p) slice active source s.spsclient s.ppsclient s.store.dpbEntries) }

def Decoder.startInfo (s : Decoder P) (p : PicId) (slice : GstH264Slice) : StartInfo where
  slice := slice
  active := s.activation env slice.header.pps
  secondField := (s.pic p).secondField
  otherField := (s.pic p).otherField
  systemFrameNumber := (s.pic p).systemFrameNumber
  lastField := s.lastField
  maxFrameNum := s.maxFrameNum
  stored := s.store.dpb.picList.map fun q => (q, s.pic q, s.store.otherPic q)
  dpb := s.store.dpbEntries

def Decoder.startPicture (p : PicId) (slice : GstH264Slice) (vkpic : VkPic) (s : Decoder P) : Decoder P :=
  (setVkPic p (startVkPic env s p slice vkpic) s).emit (.startPicture p (s.startInfo env p slice))

-- gst_vk_h264_dec_start_picture
def vkStartPicture (p : PicId) (slice : GstH264Slice) : DecoderM P GstFlowReturn := do
  let s ← get
  let vkpic ← deref (s.pic p).userData
  onStore (Store.touchOthers s.store.listedRefs)
  modify (Decoder.startPicture env p slice vkpic)
  return .ok

def Decoder.updateSps (sps : GstH264SPS) (s : Decoder P) : Decoder P :=
  let vkp := fillSps sps s.vkp
  let (ok, client) := env.updateSps s.store.log vkp.stdSps s.spsUpdateCount
  { s.emit (.updateSps sps vkp.stdSps s.spsUpdateCount ok client s.width s.height
      s.store.dpb.maxNumFrames s.store.dpb.interlaced) with
    vkp := vkp
    spsclient := client
    spsUpdateCount := (s.spsUpdateCount + 1) % 2 ^ 32 }

-- gst_vk_h264_dec_update_picture_parameters with an SPS
def vkUpdateSps (sps : GstH264SPS) : DecoderM P Unit := modify (Decoder.updateSps env sps)

def Decoder.updatePps (pps : GstH264PPS) (s : Decoder P) : Decoder P :=
  let sps := env.parser.sps s.parser pps.sequence
  let vkp := fillPps pps sps s.vkp
  let (ok, client) := env.updatePps s.store.log vkp.stdPps s.ppsUpdateCount
  { s.emit (.updatePps { pps, sps } vkp.stdPps s.ppsUpdateCount ok client) with
    vkp := vkp
    ppsclient := client
    ppsUpdateCount := (s.ppsUpdateCount + 1) % 2 ^ 32 }

-- gst_vk_h264_dec_update_picture_parameters with a PPS
def vkUpdatePps (pps : GstH264PPS) : DecoderM P Unit := modify (Decoder.updatePps env pps)

end VkVideoParser.H264
