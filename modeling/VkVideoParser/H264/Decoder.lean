import VkVideoParser.H264.Marking
import VkVideoParser.H264.OrderCount

/-! The pictures of gsth264decoder.c from their first slice to the DPB, and the NAL units. -/

namespace VkVideoParser.H264

variable {P : Type} (env : Env P)

-- get_bump_level
def getBumpLevel (s : Decoder P) : BumpMode :=
  match env.compliance with
  | .strict => .normalLatency
  | .normal => .lowLatency
  | .flexible => .veryLowLatency
  | .auto =>
    if s.isLive then if s.profileIdc = 66 then .veryLowLatency else .lowLatency else .normalLatency

def rememberRef (x : Picture) (s : Decoder P) : Decoder P :=
  { s with
    prevRefHasMemmgmnt5 := x.memMgmt5
    prevRefTopFieldOrderCnt := x.topFieldOrderCnt
    prevRefPicOrderCntMsb := x.picOrderCntMsb
    prevRefPicOrderCntLsb := x.picOrderCntLsb
    prevRefField := x.field
    prevRefFrameNum := x.frameNum }

def rememberPicture (x : Picture) (s : Decoder P) : Decoder P :=
  { s with
    prevFrameNum := x.frameNum
    prevHasMemmgmnt5 := x.memMgmt5
    prevFrameNumOffset := x.frameNumOffset }

-- the codec frame of a second field that came with a frame of its own
def releaseSecondFrame (p : PicId) : DecoderM P Unit := do
  let s ← get
  let x := s.pic p
  match x.secondField, x.otherField with
  | true, some q => do
    onStore (Store.touch q)
    if x.systemFrameNumber ≠ (s.pic q).systemFrameNumber then do
      let frame ← deref (s.getFrame x.systemFrameNumber)
      releaseFrame frame
    else pure ()
  | _, _ => pure ()

-- the look at the other field of a second field
def Store.touchFirstField (p : PicId) (s : Store) : Store :=
  match (s.pic p).secondField, (s.pic p).otherField with
  | true, some q => s.touch q
  | _, _ => s

-- C.4.5.1, C.4.5.2: whether the picture goes to the DPB
def goesToDpb (s : Store) (x : Picture) : Bool :=
  (x.secondField && x.otherField.any fun q => (s.pic q).isRef) || x.isRef || s.dpbHasEmptyFrameBuffer

def storePicture (p : PicId) : DecoderM P Unit := do
  let s ← get
  if s.store.dpb.interlaced && (s.pic p).isFrame then do
    let other ← splitFrame env p
    addPictureToDpb p
    match other with
    | none => pure () -- keep decoding anyway
    | some q => addPictureToDpb q
  else addPictureToDpb p

-- what the proofs see of a reference picture that was marked
def showReference (p : PicId) : DecoderM P Unit := modify fun s => s.emit (.reference (s.pic p))

def markReference (p : PicId) : DecoderM P Unit := do
  if ((← get).pic p).isRef then do
    referencePictureMarking env p
    modify fun s => rememberRef (s.pic p) s
    showReference p
  else pure ()

def drainMemMgmt5 (p : PicId) (ret : GstFlowReturn) : DecoderM P GstFlowReturn := do
  if ((← get).pic p).memMgmt5 then do
    let drainRet ← drainInternal env
    return ret.update drainRet
  else return ret

def Decoder.dpbInfo (s : Decoder P) (p : PicId) : DpbInfo where
  picture := s.pic p
  other := s.store.otherPic p
  stored := s.store.dpb.picList.map fun q => (q, s.pic q, s.store.otherPic q)
  interlaced := s.store.dpb.interlaced
  full := !s.store.dpbHasEmptyFrameBuffer

-- what the proofs see when pictures may leave the DPB, and when one comes to it
def showRemoving (p : PicId) : DecoderM P Unit := modify fun s => s.emit (.removing (s.dpbInfo p))

def showPlacing (p : PicId) : DecoderM P Unit := modify fun s => s.emit (.placing (s.dpbInfo p))

-- the reference taken here is for a picture that is output directly and destroyed
def placePicture (p : PicId) (ret : GstFlowReturn) : DecoderM P GstFlowReturn := do
  showPlacing p
  onStore (Store.ref p)
  onStore (Store.touchFirstField p)
  let s ← get
  if goesToDpb s.store (s.pic p) then do
    storePicture env p
    return ret
  else outputPictureDirectly env p ret

def liveBump (bumpLevel : BumpMode) (ret : GstFlowReturn) : DecoderM P GstFlowReturn := do
  if (← get).isLive && env.compliance ≠ .strict then bumpDpb env bumpLevel none ret else return ret

-- gst_h264_decoder_finish_picture
def finishPicture (p : PicId) (ret : GstFlowReturn) : DecoderM P GstFlowReturn := do
  let bumpLevel := getBumpLevel env (← get)
  markReference env p
  modify fun s => rememberPicture (s.pic p) s
  showRemoving p
  onStore Store.dpbDeleteUnused
  releaseSecondFrame p
  let ret ← drainMemMgmt5 env p ret
  let ret ← bumpDpb env bumpLevel (some p) ret
  let ret ← placePicture env p ret
  onStore (Store.unref p)
  liveBump env bumpLevel ret

-- a picture that was not decoded is given up; finish_picture takes ownership of the others
def finishEndedPicture (p : PicId) (flowRet : GstFlowReturn) : DecoderM P GstFlowReturn := do
  if flowRet ≠ .ok then do
    modifyPicture p fun x => { x with nonexisting := true }
    let frame ← deref (← get).currentFrame
    dropFrame frame
    return flowRet
  else finishPicture env p flowRet

-- gst_h264_decoder_finish_current_picture
def finishCurrentPicture (ret : GstFlowReturn) : DecoderM P GstFlowReturn := do
  match (← get).currentPicture with
  | none => return ret
  | some p => do
    let flowRet ← vkEndPicture env p
    let flowRet ← finishEndedPicture env p flowRet
    modify (Decoder.setCurrentPicture none)
    return ret.update flowRet

def gapPicture (frameNum : Int) (x : Picture) : Picture :=
  { x with
    nonexisting := true
    nalRefIdc := 1
    frameNum := frameNum
    picNum := frameNum
    ref := .shortTerm
    refPic := true
    field := .frame
    decRefPicMarking := { x.decRefPicMarking with
      adaptiveRefPicMarkingModeFlag := false, longTermReferenceFlag := false } }

-- gst_h264_decoder_init_gap_picture
def initGapPicture (p : PicId) (frameNum : Int) : DecoderM P Bool := do
  modifyPicture p (gapPicture frameNum)
  calculatePoc ((← get).sps env) p

def storeGapPicture (p : PicId) : DecoderM P Unit := do
  if (← get).store.dpb.interlaced then do
    let other ← splitFrame env p
    addPictureToDpb p
    let q ← deref other
    addPictureToDpb q
  else addPictureToDpb p

def insertGapPicture (frameNum : Int) : DecoderM P GstFlowReturn := do
  let p ← withStore Store.pictureNew
  if !(← initGapPicture env p frameNum) then return .error
  else do
    updatePicNums p frameNum
    if !(← slidingWindow env p) then return .error
    else do
      showRemoving p
      onStore Store.dpbDeleteUnused
      let ret ← bumpDpb env .normalLatency (some p) .ok
      if ret ≠ .ok then return ret
      else do
        storeGapPicture env p
        return .ok

-- the numbers modulo max_frame_num are soon through: that many turns are enough
def frameNumGapLoop (frameNum : Int) : Nat → Int → DecoderM P GstFlowReturn
  | 0, _ => return .ok
  | fuel + 1, unusedShortTermFrameNum => do
    if unusedShortTermFrameNum = frameNum then return .ok
    else do
      let ret ← insertGapPicture env unusedShortTermFrameNum
      if ret ≠ .ok then return ret
      else frameNumGapLoop frameNum fuel ((unusedShortTermFrameNum + 1).tmod (← get).maxFrameNum)

-- gst_h264_decoder_handle_frame_num_gap
def handleFrameNumGap (frameNum : Int) : DecoderM P GstFlowReturn := do
  let s ← get
  match s.sps env with
  | none => return .error
  | some sps => do
    if s.prevRefFrameNum = frameNum then return .ok
    else if s.maxFrameNum = 0 then throw .divisionByZero
    else if (s.prevRefFrameNum + 1).tmod s.maxFrameNum = frameNum then return .ok
    else if s.store.dpbGetSize = 0 then return .ok
    else if !sps.gapsInFrameNumValueAllowedFlag then return .ok
    else frameNumGapLoop env frameNum s.maxFrameNum ((s.prevRefFrameNum + 1).tmod s.maxFrameNum)

def sliceField (header : GstH264SliceHdr) : PictureField :=
  if header.fieldPicFlag then if header.bottomFieldFlag then .bottomField else .topField else .frame

def fillFromSlice (sps : GstH264SPS) (slice : GstH264Slice) (x : Picture) : Picture :=
  let header := slice.header
  { x with
    idr := slice.nalu.idrPicFlag
    decRefPicMarking := header.decRefPicMarking
    fieldPicFlag := header.fieldPicFlag
    idrPicId := if slice.nalu.idrPicFlag then header.idrPicId else x.idrPicId
    field := sliceField header
    nalRefIdc := slice.nalu.refIdc
    ref := if slice.nalu.refIdc ≠ 0 then .shortTerm else x.ref
    refPic := if slice.nalu.refIdc ≠ 0 then true else x.refPic
    frameNum := header.frameNum
    picNum := if header.fieldPicFlag then 2 * header.frameNum + 1 else header.frameNum
    picOrderCntType := sps.picOrderCntType
    picOrderCntLsb := if sps.picOrderCntType = 0 then header.picOrderCntLsb else x.picOrderCntLsb
    deltaPicOrderCntBottom :=
      if sps.picOrderCntType = 0 then header.deltaPicOrderCntBottom else x.deltaPicOrderCntBottom
    deltaPicOrderCnt0 := if sps.picOrderCntType = 1 then header.deltaPicOrderCnt0 else x.deltaPicOrderCnt0
    deltaPicOrderCnt1 := if sps.picOrderCntType = 1 then header.deltaPicOrderCnt1 else x.deltaPicOrderCnt1 }

-- gst_h264_decoder_init_current_picture, with gst_h264_decoder_fill_picture_from_slice
def initCurrentPicture (p : PicId) : DecoderM P Bool := do
  let s ← get
  let slice := s.currentSlice
  let sps := (s.activation env slice.header.pps).sps
  gAssert (sps.picOrderCntType ≤ 2)
  modifyPicture p (fillFromSlice sps slice)
  calculatePoc (s.sps env) p

-- the DPB before an IDR picture
def flushBeforeIdr (p : PicId) : DecoderM P GstFlowReturn := do
  let x := (← get).pic p
  if x.idr then
    if !x.decRefPicMarking.noOutputOfPriorPicsFlag then drainInternal env
    else do
      clearDpb false
      return .ok
  else return .ok

def Decoder.startFrameNum (sps : GstH264SPS) (idr : Bool) (s : Decoder P) : Decoder P :=
  { s with maxFrameNum := sps.maxFrameNum, prevRefFrameNum := if idr then 0 else s.prevRefFrameNum }

-- gst_h264_decoder_start_current_picture
def startCurrentPicture : DecoderM P GstFlowReturn := do
  let s ← get
  let p ← deref s.currentPicture
  let sps ← deref (s.sps env)
  let slice := s.currentSlice
  let frameNum := slice.header.frameNum
  modify (Decoder.startFrameNum sps slice.nalu.idrPicFlag)
  let ret ← handleFrameNumGap env frameNum
  if ret ≠ .ok then return ret
  else if !(← initCurrentPicture env p) then return .error
  else do
    let ret ← flushBeforeIdr env p
    if ret ≠ .ok then return ret
    else do
      updatePicNums p frameNum
      vkStartPicture env p slice

-- the field a second field may complete: the cached one, or the last one of the DPB
def prevField (s : Decoder P) : Option PicId :=
  if s.store.dpb.interlaced then
    match s.lastField with
    | some p => some p
    | none =>
      match s.store.dpb.picList.getLast? with
      | some p => if !(s.pic p).isFrame && (s.pic p).otherField.isNone then some p else none
      | none => none
  else none

-- only a DPB of fields has a cached one
def assertFields : DecoderM P Unit := do
  if (← get).store.dpb.interlaced then pure () else assertNoLastField

-- gst_h264_decoder_find_first_field_picture: the field found comes with a reference
def findFirstFieldPicture (header : GstH264SliceHdr) : DecoderM P (Bool × Option PicId) := do
  let s ← get
  assertFields
  match prevField s with
  | none => return (true, none)
  | some q => do
    if header.fieldPicFlag && (s.pic q).frameNum = header.frameNum && sliceField header ≠ (s.pic q).field then do
      onStore (Store.ref q)
      return (true, some q)
    else do
      -- a field in the DPB stays there, for want of a field to fill the gap with
      clearLastField
      return (false, none)

-- the picture for a slice that starts one; the flow is that of the subclass
def newCurrentPicture (firstField : Option PicId) : DecoderM P (GstFlowReturn × Option PicId) := do
  match firstField with
  | some f => do
    let picture ← newFieldPicture env f
    onStore (Store.unref f)
    return (.ok, picture)
  | none => do
    let p ← withStore Store.pictureNew
    let ret ← vkNewPicture env p
    if ret ≠ .ok then do
      modify (Decoder.setCurrentPicture none)
      onStore (Store.unref p)
      return (ret, none)
    else return (ret, some p)

def setSystemFrameNumber (n : Nat) (x : Picture) : Picture := { x with systemFrameNumber := n }

-- a second field that got no buffer was only logged
def adoptPicture (frame : VideoCodecFrame) (picture : Option PicId) : DecoderM P GstFlowReturn := do
  let p ← deref picture
  modifyPicture p (setSystemFrameNumber frame.systemFrameNumber)
  modify (Decoder.setCurrentPicture (some p))
  startCurrentPicture env

-- the part of gst_h264_decoder_parse_slice that begins a picture
def beginPicture : DecoderM P GstFlowReturn := do
  let s ← get
  gAssert s.currentFrame.isSome
  let frame ← deref s.currentFrame
  let (_, firstField) ← findFirstFieldPicture s.currentSlice.header
  let (ret, picture) ← newCurrentPicture env firstField
  if ret ≠ .ok then return ret else adoptPicture env frame picture

-- gst_h264_decoder_decode_slice
def decodeSlice : DecoderM P GstFlowReturn := do
  let s ← get
  match s.currentPicture with
  | none => return .error
  | some p => do
    modify fun s => { s with maxPicNum := s.currentSlice.header.maxPicNum }
    vkDecodeSlice env p s.currentSlice

-- a first field is finished by a slice of another field
def startsNewField (s : Decoder P) : Bool :=
  s.store.dpb.interlaced &&
    match s.currentPicture with
    | some p =>
      !(s.pic p).isFrame && !(s.pic p).secondField &&
        decide (sliceField s.currentSlice.header ≠ (s.pic p).field)
    | none => false

-- the flow of the field finished here is not looked at again
def finishFirstField : DecoderM P Unit := do
  if startsNewField (← get) then do
    let _ ← finishCurrentPicture env .ok
  else pure ()

def beginIfNone : DecoderM P GstFlowReturn := do
  if (← get).currentPicture.isNone then beginPicture env else return .ok

def Decoder.setSlice (slice : GstH264Slice) (s : Decoder P) : Decoder P := { s with currentSlice := slice }

def Decoder.activate (slot : Nat) (s : Decoder P) : Decoder P :=
  { s with activePps := some slot, activeSps := some (env.parser.pps s.parser slot).sequence }

-- gst_h264_decoder_parse_slice
def parseSlice (nalu : GstH264NalUnit) : DecoderM P GstFlowReturn := do
  match env.parser.parseSliceHdr (← get).parser nalu with
  | none => do
    modify (Decoder.setSlice {})
    return .error
  | some header => do
    modify (Decoder.setSlice { header, nalu })
    if (← get).currentPicture.isNone && header.firstMbInSlice ≠ 0 then return .error
    else do
      modify (Decoder.activate env header.pps)
      finishFirstField env
      let ret ← beginIfNone env
      if ret ≠ .ok then return ret else decodeSlice env

def levelLimitsMap : List (Nat × Nat) :=
  [(10, 396), (9, 396), (11, 900), (12, 2376), (13, 2376), (20, 2376), (21, 4752), (22, 8100),
    (30, 8100), (31, 18000), (32, 20480), (40, 32768), (41, 32768), (42, 34816), (50, 110400),
    (51, 184320), (52, 184320), (60, 696320), (61, 696320), (62, 696320)]

-- h264_level_to_max_dpb_mbs
def h264LevelToMaxDpbMbs (level : Nat) : Nat := (levelLimitsMap.lookup level).getD 0

-- level 1b is level 11 with constraint_set3_flag in the baseline and main profiles
def levelOf (sps : GstH264SPS) : Nat :=
  if sps.levelIdc = 11 ∧ (sps.profileIdc = 66 ∨ sps.profileIdc = 77) ∧ sps.constraintSet3Flag then 9
  else sps.levelIdc

def maxDpbMbs (sps : GstH264SPS) : Nat := h264LevelToMaxDpbMbs (levelOf sps)

def sizeInMbs (sps : GstH264SPS) : Nat := sps.width / 16 * (sps.height / 16)

def maxDpbSizeOf (sps : GstH264SPS) : Nat :=
  let maxDpbFrames :=
    if sps.vuiParametersPresentFlag && sps.vuiParameters.bitstreamRestrictionFlag then
      max 1 sps.vuiParameters.maxDecFrameBuffering
    else min (maxDpbMbs sps / sizeInMbs sps) 16
  min (max maxDpbFrames sps.numRefFrames) 16

-- gst_h264_decoder_update_max_num_reorder_frames
def inferredReorderFrames (sps : GstH264SPS) (maxNumFrames : Nat) : Nat :=
  if env.compliance = .strict then maxNumFrames
  else if sps.profileIdc = 66 ∨ sps.profileIdc = 83 then 0
  else if sps.constraintSet3Flag ∧ sps.profileIdc ∈ [44, 86, 100, 110, 122, 244] then 0
  else maxNumFrames

def updateMaxNumReorderFrames (sps : GstH264SPS) : DecoderM P Bool := do
  let maxNumFrames := (← get).store.dpb.maxNumFrames
  if sps.vuiParametersPresentFlag && sps.vuiParameters.bitstreamRestrictionFlag then
    if maxNumFrames < sps.vuiParameters.numReorderFrames then return false
    else do
      onStore (Store.setMaxNumReorderFrames sps.vuiParameters.numReorderFrames)
      return true
  else do
    onStore (Store.setMaxNumReorderFrames (inferredReorderFrames env sps maxNumFrames))
    return true

def Decoder.configure (sps : GstH264SPS) (maxDpbSize : Nat) (s : Decoder P) : Decoder P :=
  { s with
    profileIdc := sps.profileIdc
    width := sps.width
    height := sps.height
    store := { s.store with dpb := { s.store.dpb with
      maxNumFrames := maxDpbSize, interlaced := !sps.frameMbsOnlyFlag } } }

def sameSequence (s : Decoder P) (sps : GstH264SPS) : Bool :=
  s.width = sps.width && s.height = sps.height && s.store.dpb.maxNumFrames = maxDpbSizeOf sps &&
    s.store.dpb.interlaced = !sps.frameMbsOnlyFlag

def changeSequence (sps : GstH264SPS) : DecoderM P GstFlowReturn := do
  let ret ← drainInternal env
  if ret ≠ .ok then return ret
  else do
    let ret ← newSequence env sps (maxDpbSizeOf sps)
    if ret ≠ .ok then return ret
    else do
      modify (Decoder.configure sps (maxDpbSizeOf sps))
      return .ok

def changeSequenceIfNew (sps : GstH264SPS) : DecoderM P GstFlowReturn := do
  if sameSequence (← get) sps then return .ok else changeSequence env sps

-- gst_h264_decoder_process_sps
def processSps (sps : GstH264SPS) : DecoderM P GstFlowReturn := do
  if maxDpbMbs sps = 0 then return .error
  else if sizeInMbs sps = 0 then throw .divisionByZero
  else do
    let ret ← changeSequenceIfNew env sps
    if ret ≠ .ok then return ret
    else if !(← updateMaxNumReorderFrames env sps) then return .error
    else return .ok

def Decoder.setParser (parser : P) (s : Decoder P) : Decoder P := { s with parser := parser }

-- gst_h264_decoder_parse_sps
def parseSps (nalu : GstH264NalUnit) : DecoderM P GstFlowReturn := do
  emit (.parserParseSps (env.parser.parseSps nalu))
  match env.parser.parseSps nalu with
  | none => return .error
  | some sps => do
    vkUpdateSps env sps
    let ret ← processSps env sps
    if ret ≠ .ok then return ret
    else
      match env.parser.updateSps (← get).parser sps with
      | none => do
        emit (.parserUpdateSps sps false)
        return .error
      | some parser => do
        modify fun s => (s.emit (.parserUpdateSps sps true)).setParser parser
        return .ok

-- gst_h264_decoder_parse_pps
def parsePps (nalu : GstH264NalUnit) : DecoderM P GstFlowReturn := do
  let result := env.parser.parsePps (← get).parser nalu
  emit (.parserParsePps result)
  match result with
  | none => return .error
  | some pps => do
    vkUpdatePps env pps
    if 0 < pps.numSliceGroupsMinus1 then return .error
    else
      match env.parser.updatePps (← get).parser pps with
      | none => return .error
      | some parser => do
        modify (Decoder.setParser parser)
        return .ok

-- the two loops of gst_h264_decoder_parse_codec_data: `n` sets from `off` on, and where they end
def parseCodecDataSets (parse : GstH264NalUnit → DecoderM P GstFlowReturn) (data : List UInt8) :
    Nat → Nat → DecoderM P (GstFlowReturn × Nat)
  | 0, off => return (.ok, off)
  | n + 1, off =>
    match env.parser.identifyNaluAvc data off 2 with
    | none => return (.error, off)
    | some (nalu, next) => do
      let ret ← parse nalu
      if ret ≠ .ok then return (ret, off) else parseCodecDataSets parse data n next

-- gst_h264_decoder_parse_codec_data
def parseCodecData (data : List UInt8) : DecoderM P GstFlowReturn := do
  if data.length < 7 then return .error
  else if data.getD 0 0 ≠ 1 then return .error
  else do
    modify fun s => { s with nalLengthSize := (data.getD 4 0).toNat % 4 + 1 }
    let (ret, off) ← parseCodecDataSets env (parseSps env) data ((data.getD 5 0).toNat % 32) 6
    if ret ≠ .ok then return ret
    else if data.length ≤ off then return .error
    else do
      let (ret, _) ← parseCodecDataSets env (parsePps env) data (data.getD off 0).toNat (off + 1)
      return ret

-- gst_h264_decoder_decode_nal
def decodeNal (nalu : GstH264NalUnit) : DecoderM P GstFlowReturn :=
  match nalu.type with
  | .sei => return .ok
  | .sps => parseSps env nalu
  | .pps => parsePps env nalu
  | .slice | .sliceDpa | .sliceDpb | .sliceDpc | .sliceIdr | .sliceExt => parseSlice env nalu
  | .auDelimiter => return .ok
  | .other => do
    emit (.unhandledNALU nalu.data)
    return .ok

def decodeNals : List GstH264NalUnit → DecoderM P GstFlowReturn
  | [] => return .ok
  | nalu :: nalus => do
    let ret ← decodeNal env nalu
    if ret ≠ .ok then return ret else decodeNals nalus

-- GST_VIDEO_DECODER_ERROR, which the base class may tolerate
def videoDecoderError (ret : GstFlowReturn) : DecoderM P GstFlowReturn := do
  if ret = .error then return env.videoDecoderError (← get).store.log else return ret

-- gst_h264_decoder_handle_frame, on the NAL units found in the buffer
def handleFrame (frame : VideoCodecFrame) (nalus : List GstH264NalUnit) : DecoderM P GstFlowReturn := do
  modify (Decoder.setCurrentFrame (some frame))
  let decodeRet ← decodeNals env nalus
  if decodeRet ≠ .ok then do
    let decodeRet ← videoDecoderError env decodeRet
    dropFrame frame
    clearCurrentPicture
    modify (Decoder.setCurrentFrame none)
    return decodeRet
  else do
    let decodeRet ← finishCurrentPicture env .ok
    modify (Decoder.setCurrentFrame none)
    videoDecoderError env decodeRet

def Decoder.setInput (input : InputState) (isLive : Bool) (s : Decoder P) : Decoder P :=
  { s with inputState := some input, isLive := isLive }

-- gst_h264_decoder_set_format; a failure of the codec data is only logged
def setFormat (input : InputState) (isLive : Bool) (codecData : Option (List UInt8)) : DecoderM P Unit := do
  modify (Decoder.setInput input isLive)
  match codecData with
  | none => pure ()
  | some data => do
    let _ ← parseCodecData env data

def Decoder.forgetSequence (s : Decoder P) : Decoder P :=
  { s with
    inputState := none, profileIdc := 0, width := 0, height := 0, nalLengthSize := 4
    spsclient := none, ppsclient := none }

-- gst_h264_decoder_reset, as the element is stopped, and its dispose
def stop : DecoderM P Unit := do
  onStore Store.dpbClear
  clearLastField
  modify Decoder.forgetSequence

/-- What the base class asks of the decoder: a new format, a frame with its NAL units and its
duration, a flush, a drain at the end of a segment or of the stream. -/
inductive Input
  | setFormat (input : InputState) (isLive : Bool) (codecData : Option (List UInt8))
  | handleFrame (nalus : List GstH264NalUnit) (duration : Nat)
  | flush
  | drain

def Decoder.takeFrame (duration : Nat) (s : Decoder P) : Decoder P :=
  { s with
    frames := s.frames ++ [{ systemFrameNumber := s.systemFrameNumber, duration }]
    systemFrameNumber := s.systemFrameNumber + 1 }

def takeFrame (duration : Nat) : DecoderM P VideoCodecFrame := do
  let s ← get
  modify (Decoder.takeFrame duration)
  return { systemFrameNumber := s.systemFrameNumber, duration }

-- the base class lets go of its frames
def flush : DecoderM P Unit := do
  emit .flush
  clearDpb true
  modify fun s => { s with frames := [] }

def step : Input → DecoderM P Unit
  | .setFormat input isLive codecData => setFormat env input isLive codecData
  | .handleFrame nalus duration => do
    let frame ← takeFrame duration
    let _ ← handleFrame env frame nalus
  | .flush => flush
  | .drain => do
    let _ ← drainInternal env

def runInputs : List Input → DecoderM P Unit
  | [] => pure ()
  | input :: inputs => do
    step env input
    runInputs inputs

def Decoder.start : Decoder P := { parser := env.parser.init }

end VkVideoParser.H264
