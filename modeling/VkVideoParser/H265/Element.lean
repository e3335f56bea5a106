import VkVideoParser.Library.Writes
import VkVideoParser.H265.State

/-! The element vkh265parse: gstvkh265dec.cpp. -/

namespace VkVideoParser.H265

variable {P : Type} (env : Env P)

-- `max_dpb_size` and the VPS that the SPS points to
def sequenceInfo (sps : GstH265SPS) (vps : Option GstH265VPS) (maxDpbSize : Nat) (input : InputState) :
    SequenceInfo :=
  let vui := sps.vuiParams
  let displayWidth := if sps.conformanceWindowFlag then sps.cropRectWidth else sps.width
  let displayHeight := if sps.conformanceWindowFlag then sps.cropRectHeight else sps.height
  let dar := (env.calculateDisplayRatio displayWidth displayHeight input.parN input.parD).getD (0, 0)
  let present := sps.vuiParametersPresentFlag
  { eCodec := .h265
    isSVC := input.scalable
    frameRate := packFramerate input.fpsN input.fpsD
    bProgSeq := !(present && vui.fieldSeqFlag)
    nDisplayWidth := displayWidth
    nDisplayHeight := displayHeight
    nCodedWidth := sps.width
    nCodedHeight := sps.height
    nChromaFormat := sps.chromaFormatIdc
    uBitDepthLumaMinus8 := sps.bitDepthLumaMinus8
    uBitDepthChromaMinus8 := sps.bitDepthChromaMinus8
    uVideoFullRange := present && vui.videoFullRangeFlag
    lBitrate :=
      if present then vui.hrdParams.bitRateScale else (vps.map fun vps => vps.hrdParams.bitRateScale).getD 0
    lDARWidth := dar.1
    lDARHeight := dar.2
    lVideoFormat := if present then vui.videoFormat else 0
    lColorPrimaries := if present then vui.colourPrimaries else 0
    lTransferCharacteristics := if present then vui.transferCharacteristics else 0
    lMatrixCoefficients := if present then vui.matrixCoefficients else 0
    nMinNumDecodeSurfaces := min (maxDpbSize + 1) 8
    codecProfile := (getProfileIdc sps.profileTierLevel.profileIdc).code }

def Decoder.beginSequence (sps : GstH265SPS) (info : SequenceInfo) (s : Decoder P) : Decoder P :=
  { s.emit (.beginSequence info sps) with maxDpbSize := env.beginSequence s.store.log info }

-- gst_vk_h265_dec_new_sequence
def newSequence (sps : GstH265SPS) (maxDpbSize : Nat) : DecoderM P GstFlowReturn := do
  let s ← get
  let input ← deref s.inputState
  modify (Decoder.beginSequence env sps (sequenceInfo env sps (s.vpsOf env sps) maxDpbSize input))
  return .ok

def setVkPic (p : PicId) (vkpic : VkPic) (s : Decoder P) : Decoder P :=
  s.modifyPic p fun x => { x with userData := some vkpic }

def appendSlice (slice : GstH265Slice) (vkpic : VkPic) : VkPic :=
  { vkpic with
    data := { vkpic.data with nNumSlices := (vkpic.data.nNumSlices + 1) % 2 ^ 32 }
    bitstream := vkpic.bitstream ++ [0, 0, 1] ++ slice.nalu.data
    sliceOffsets := vkpic.sliceOffsets ++
      [(vkpic.sliceOffsets.getLastD 0 + slice.nalu.data.length + 3) % 2 ^ 32] }

def Decoder.decodeSlice (p : PicId) (slice : GstH265Slice) (vkpic : VkPic) (s : Decoder P) : Decoder P :=
  (setVkPic p (appendSlice slice vkpic) s).emit (.decodeSlice p slice (s.activation env slice.header.pps))

-- gst_vk_h265_dec_decode_slice
def vkDecodeSlice (p : PicId) (slice : GstH265Slice) : DecoderM P GstFlowReturn := do
  let vkpic ← deref ((← get).pic p).userData
  modify (Decoder.decodeSlice env p slice vkpic)
  return .ok

def Decoder.allocPicture (p : PicId) (s : Decoder P) : Decoder P :=
  let reply := env.allocPictureBuffer s.store.log
  let s' := s.emit (.allocPictureBuffer p reply)
  match reply with
  | none => s'
  | some pic => setVkPic p { pic } s'

-- gst_vk_h265_dec_new_picture
def vkNewPicture (p : PicId) : DecoderM P GstFlowReturn := do
  let s ← get
  modify (Decoder.allocPicture env p)
  return if (env.allocPictureBuffer s.store.log).isSome then .ok else .error

def timestamp (x : Picture) (frame : VideoCodecFrame) : Nat :=
  x.systemFrameNumber * frame.duration % 2 ^ 64 / 100

def Decoder.displayReply (p : PicId) (vkpic : VkPic) (frame : VideoCodecFrame) (s : Decoder P) : Bool :=
  env.displayPicture s.store.log vkpic.pic (timestamp (s.pic p) frame)

def Decoder.displayPicture (p : PicId) (vkpic : VkPic) (frame : VideoCodecFrame) (s : Decoder P) : Decoder P :=
  s.emit (.displayPicture p vkpic.pic frame (timestamp (s.pic p) frame) (s.displayReply env p vkpic frame))

-- gst_vk_h265_dec_output_picture
def vkOutputPicture (frame : VideoCodecFrame) (p : PicId) : DecoderM P GstFlowReturn := do
  let s ← get
  let vkpic ← deref (s.pic p).userData
  modify (Decoder.displayPicture env p vkpic frame)
  onStore (Store.unref p)
  if s.displayReply env p vkpic frame then finishFrame env frame else return .error

-- what a pointer to a parameter set shows at the time of a call
def Decoder.shown (s : Decoder P) (vkpic : VkPic) : ParamSource → VkH265Picture
  | .own => vkpic.vkp
  | .shared => s.vkp

-- the steals of gst_vk_h265_dec_end_picture, which says reference of every picture
def stealBitstream (vkpic : VkPic) : VkPic :=
  { vkpic with
    data := { vkpic.data with
      pBitstreamData := vkpic.bitstream
      nBitstreamDataLen := vkpic.bitstream.length % 2 ^ 32
      pSliceDataOffsets := vkpic.sliceOffsets
      refPicFlag := true }
    bitstream := []
    sliceOffsets := [] }

def Decoder.decodeReply (vkpic : VkPic) (s : Decoder P) : Bool :=
  env.decodePicture s.store.log (stealBitstream vkpic).data

def Decoder.endPicture (p : PicId) (vkpic : VkPic) (s : Decoder P) : Decoder P :=
  (setVkPic p (stealBitstream vkpic) s).emit
    (.decodePicture p (stealBitstream vkpic).data (s.shown vkpic vkpic.data.hevc.pStdVps).stdVps
      (s.shown vkpic vkpic.data.hevc.pStdSps).stdSps (s.shown vkpic vkpic.data.hevc.pStdPps).stdPps
      (s.decodeReply env vkpic))

-- gst_vk_h265_dec_end_picture
def vkEndPicture (p : PicId) : DecoderM P GstFlowReturn := do
  let s ← get
  let vkpic ← deref (s.pic p).userData
  modify (Decoder.endPicture env p vkpic)
  return if s.decodeReply env vkpic then .ok else .error

-- an array of the source, with what was written into it
def padTo {α : Type} (n : Nat) (a : α) (l : List α) : List α := l ++ List.replicate (n - l.length) a

-- one of the loops over a reference picture set, as it writes: the missing pictures of the set are passed over, and
-- the index of one is that of its order count among those of the references
def refPicSetWrites (s : Decoder P) (pocs : List Int) (set : List (Option PicId)) : List (Nat × Nat) :=
  Writes.compact (fun q => pocs.findIdx? fun poc => poc = (s.pic q).picOrderCnt) pocs.length 0 set

-- The bytes from RefPicSetStCurrBefore on: three arrays of eight, and the fields behind them. What a loop writes past
-- the end of its array goes into the next one, and from the last one into these fields.
def refPicSetBytes (s : Decoder P) (pocs : List Int) (behind : List Nat) : List Nat :=
  Writes.into 16 (refPicSetWrites s pocs s.refPicSets.ltCurr)
    (Writes.into 8 (refPicSetWrites s pocs s.refPicSets.stCurrAfter)
      (Writes.into 0 (refPicSetWrites s pocs s.refPicSets.stCurrBefore) (List.replicate 24 0 ++ behind)))

-- ProfileLevel, ColorPrimaries and the bit depths, as they are initialised
def fieldsBehind (active : Activation) (vps : GstH265VPS) : List Nat :=
  [vps.profileTierLevel.profileIdc,
    if active.sps.vuiParametersPresentFlag then active.sps.vuiParams.colourPrimaries else 0,
    if active.pps.ppsSccExtensionFlag then active.pps.ppsSccExtensionParams.lumaBitDepthEntryMinus8 else 0,
    if active.pps.ppsSccExtensionFlag then active.pps.ppsSccExtensionParams.chromaBitDepthEntryMinus8 % 2 ^ 8 else 0]

-- the pictures that start_picture lists
def Store.listedRefs (s : Store) : List PicId := s.dpb.picList.filter fun p => (s.pic p).ref

-- with more than sixteen of them the sets are not looked at any more
def tooManyRefs (s : Store) : Bool := decide (16 < s.listedRefs.length)

def hevcPictureData (s : Decoder P) (x : Picture) (slice : GstH265Slice) (active : Activation) (vps : GstH265VPS)
    (source : ParamSource) : HevcPictureData :=
  let refs := s.store.listedRefs.take 16
  let pocs := refs.map fun p => (s.pic p).picOrderCnt
  let behind := fieldsBehind active vps
  let bytes := if tooManyRefs s.store then List.replicate 24 0 ++ behind else refPicSetBytes s pocs behind
  { pStdVps := source
    pVpsClientObject := s.vpsclient
    pStdSps := source
    pSpsClientObject := s.spsclient
    pStdPps := source
    pPpsClientObject := s.ppsclient
    picParameterSetId := active.pps.id % 2 ^ 8
    seqParameterSetId := active.sps.id % 2 ^ 8
    vpsVideoParameterSetId := vps.id % 2 ^ 8
    irapPicFlag := slice.nalu.type.isIrap
    idrPicFlag := slice.nalu.type.isIdr
    numBitsForShortTermRPSInSlice := slice.header.shortTermRefPicSetSize
    numDeltaPocsOfRefRpsIdx := slice.header.shortTermRefPicSets.numDeltaPocsOfRefRpsIdx
    numPocTotalCurr := slice.header.numPocTotalCurr
    numPocStCurrBefore := s.refPicSets.stCurrBefore.length
    numPocStCurrAfter := s.refPicSets.stCurrAfter.length
    numPocLtCurr := s.refPicSets.ltCurr.length
    currPicOrderCntVal := x.picOrderCnt
    refPics := padTo 16 none (refs.map fun p => (s.pic p).userData.map VkPic.pic)
    picOrderCntVal := padTo 16 0 pocs
    isLongTerm := padTo 16 false (refs.map fun p => (s.pic p).longTerm)
    refPicSetStCurrBefore := bytes.take 8
    refPicSetStCurrAfter := (bytes.drop 8).take 8
    refPicSetLtCurr := (bytes.drop 16).take 8
    profileLevel := bytes.getD 24 0
    colorPrimaries := bytes.getD 25 0
    bitDepthLumaMinus8 := bytes.getD 26 0
    bitDepthChromaMinus8 := bytes.getD 27 0 }

-- GST_VIDEO_BUFFER_FLAG_BOTTOM_FIELD is the flag of a single field
def pictureData (x : Picture) (vkpic : VkPic) (active : Activation) (hevc : HevcPictureData) : PictureData where
  picWidthInMbs := active.sps.width / 16
  frameHeightInMbs := active.sps.height / 16
  pCurrPic := vkpic.pic
  fieldPicFlag := active.sps.vuiParametersPresentFlag && active.sps.vuiParams.fieldSeqFlag
  bottomFieldFlag := x.bufferFlagOnefield
  progressiveFrame := !x.bufferFlagInterlaced
  topFieldFirst := x.bufferFlagTff
  refPicFlag := x.ref
  intraPicFlag := x.intraPicFlag
  chromaFormat := active.sps.chromaFormatIdc
  pictureOrderCount := x.picOrderCnt
  hevc := hevc

-- `spsUpdateCount` is tested twice in the source, `ppsUpdateCount` not at all
def Decoder.paramSource (s : Decoder P) : ParamSource :=
  if !env.oobPicParams || (s.spsUpdateCount = 0 && s.spsUpdateCount = 0) then .own else .shared

-- the lists of the PPS, when it carries some or the SPS none, stand in for those of the SPS
def overridesLists (active : Activation) : Bool :=
  active.pps.scalingListDataPresentFlag ||
    (active.sps.scalingListEnabledFlag && !active.sps.scalingListDataPresentFlag)

def overrideLists (active : Activation) (vkp : VkH265Picture) : VkH265Picture :=
  if overridesLists active then
    { vkp with
      scalingListsSps := fillScalingList active.pps.scalingList
      sps := { vkp.sps with pScalingLists := true } }
  else vkp

def startVkPic (s : Decoder P) (p : PicId) (slice : GstH265Slice) (vps : GstH265VPS) (vkpic : VkPic) : VkPic :=
  let active := s.activation env slice.header.pps
  let source := s.paramSource env
  { vkpic with
    vkp :=
      match source with
      | .own => overrideLists active (fillPps active.pps (fillSps active.sps active.vps vkpic.vkp))
      | .shared => vkpic.vkp
    data := pictureData (s.pic p) vkpic active
      (hevcPictureData s (s.pic p) slice active vps source) }

def Decoder.startInfo (s : Decoder P) (p : PicId) (slice : GstH265Slice) : StartInfo where
  slice := slice
  active := s.activation env slice.header.pps
  picture := s.pic p
  stored := s.store.dpb.picList.map fun q => (q, s.pic q)
  refPicSets := s.refPicSets
  fieldSeqFlag := s.fieldSeqFlag

def Decoder.startVkp (s : Decoder P) (slice : GstH265Slice) : VkH265Picture :=
  match s.paramSource env with
  | .own => s.vkp
  | .shared => overrideLists (s.activation env slice.header.pps) s.vkp

def Decoder.startPicture (p : PicId) (slice : GstH265Slice) (vps : GstH265VPS) (vkpic : VkPic) (s : Decoder P) :
    Decoder P :=
  { (setVkPic p (startVkPic env s p slice vps vkpic) s).emit (.startPicture p (s.startInfo env p slice)) with
    vkp := s.startVkp env slice }

-- gst_vk_h265_dec_start_picture
def vkStartPicture (p : PicId) (slice : GstH265Slice) : DecoderM P GstFlowReturn := do
  let s ← get
  let vkpic ← deref (s.pic p).userData
  let vps ← deref (s.activation env slice.header.pps).vps
  modify (Decoder.startPicture env p slice vps vkpic)
  -- the pictures listed are looked at for their buffers
  if (s.store.listedRefs.take 16).all fun q => (s.pic q).userData.isSome then
    return if tooManyRefs s.store then .error else .ok
  else throw .nullPointer

def Decoder.updateVps (vps : GstH265VPS) (s : Decoder P) : Decoder P :=
  let vkp := fillVps vps s.vkp
  let (ok, client) := env.updateVps s.store.log vkp.stdVps s.ppsUpdateCount
  { s.emit (.updateVps vps vkp.stdVps s.ppsUpdateCount ok client) with
    vkp := vkp
    vpsclient := client
    ppsUpdateCount := (s.ppsUpdateCount + 1) % 2 ^ 32 }

-- gst_vk_h265_dec_update_picture_parameters with a VPS, which counts with the PPSs
def vkUpdateVps (vps : GstH265VPS) : DecoderM P Unit := modify (Decoder.updateVps env vps)

def Decoder.updateSps (sps : GstH265SPS) (s : Decoder P) : Decoder P :=
  let vkp := fillSps sps (s.vpsOf env sps) s.vkp
  let (ok, client) := env.updateSps s.store.log vkp.stdSps s.spsUpdateCount
  { s.emit (.updateSps sps (s.vpsOf env sps) vkp.stdSps s.spsUpdateCount ok client) with
    vkp := vkp
    spsclient := client
    spsUpdateCount := (s.spsUpdateCount + 1) % 2 ^ 32 }

-- gst_vk_h265_dec_update_picture_parameters with an SPS
def vkUpdateSps (sps : GstH265SPS) : DecoderM P Unit := modify (Decoder.updateSps env sps)

def Decoder.updatePps (pps : GstH265PPS) (s : Decoder P) : Decoder P :=
  let vkp := fillPps pps s.vkp
  let (ok, client) := env.updatePps s.store.log vkp.stdPps s.ppsUpdateCount
  { s.emit (.updatePps pps vkp.stdPps s.ppsUpdateCount ok client) with
    vkp := vkp
    ppsclient := client
    ppsUpdateCount := (s.ppsUpdateCount + 1) % 2 ^ 32 }

-- gst_vk_h265_dec_update_picture_parameters with a PPS
def vkUpdatePps (pps : GstH265PPS) : DecoderM P Unit := modify (Decoder.updatePps env pps)

end VkVideoParser.H265
