import VkVideoParser.H265.RefPicSet

/-! The pictures of gsth265decoder.c from their first slice to their output, and the NAL units. -/

namespace VkVideoParser.H265

variable {P : Type} (env : Env P)

def Decoder.setLastOutputPoc (poc : Int) (s : Decoder P) : Decoder P := { s with lastOutputPoc := poc }

-- gst_h265_decoder_do_output_picture: no output is delayed, so the queue passes every picture on
def doOutputPicture (p : PicId) (ret : GstFlowReturn) : DecoderM P GstFlowReturn := do
  let s ← get
  modify (Decoder.setLastOutputPoc (s.pic p).picOrderCnt)
  match s.getFrame (s.pic p).systemFrameNumber with
  | none => do
    onStore (Store.unref p)
    return ret.update .error
  | some frame => do
    let flowRet ← vkOutputPicture env frame p
    return ret.update flowRet

-- the pictures waiting are as many as the DPB has at most: that many turns are enough
def bumpAll (drain : Bool) : Nat → GstFlowReturn → DecoderM P GstFlowReturn
  | 0, ret => return ret
  | fuel + 1, ret => do
    match ← withStore (Store.dpbBump drain) with
    | none => return ret
    | some p => do
      let ret ← doOutputPicture env p ret
      bumpAll drain fuel ret

-- the picture is released with its frame, which the base class would hold
def releasePicture (p : PicId) : DecoderM P Unit := do
  let s ← get
  match s.getFrame (s.pic p).systemFrameNumber with
  | some frame => do
    releaseFrame (.clearDpb p) frame
    onStore (Store.unref p)
  | none => onStore (Store.unref p)

def releaseAll : Nat → DecoderM P Unit
  | 0 => pure ()
  | fuel + 1 => do
    match ← withStore (Store.dpbBump true) with
    | none => pure ()
    | some p => do
      releasePicture p
      releaseAll fuel

def emptyDpb : DecoderM P Unit := do
  onStore Store.dpbClear
  modify (Decoder.setLastOutputPoc int32Min)

-- gst_h265_decoder_clear_dpb
def clearDpb (flush : Bool) : DecoderM P Unit := do
  if flush then emptyDpb
  else do
    releaseAll ((← get).store.dpb.picList.length + 1)
    emptyDpb

-- gst_h265_decoder_drain_internal
def drainInternal : DecoderM P GstFlowReturn := do
  let ret ← bumpAll env true ((← get).store.dpb.picList.length + 1) .ok
  emptyDpb
  return ret

-- A.4.1
def maxDpbSizeOf (sps : GstH265SPS) : Nat :=
  let maxLumaPS := 35651584
  let size := sps.width * sps.height
  let maxDpbSize :=
    if size ≤ maxLumaPS / 4 then 6 * 4
    else if size ≤ maxLumaPS / 2 then 6 * 2
    else if size ≤ 3 * maxLumaPS / 4 then 6 * 4 / 3
    else 6
  min maxDpbSize 16

def cropRectOf (sps : GstH265SPS) : CropRect where
  conformanceWindowFlag := sps.conformanceWindowFlag
  width := sps.cropRectWidth
  height := sps.cropRectHeight
  x := sps.cropRectX
  y := sps.cropRectY

def fieldSeqFlagOf (sps : GstH265SPS) : Bool := sps.vuiParametersPresentFlag && sps.vuiParams.fieldSeqFlag

def sameSequence (s : Decoder P) (sps : GstH265SPS) : Bool :=
  s.width = sps.width && s.height = sps.height && s.store.dpb.maxNumPics = maxDpbSizeOf sps &&
    s.fieldSeqFlag = fieldSeqFlagOf sps &&
    s.progressiveSourceFlag = sps.profileTierLevel.progressiveSourceFlag &&
    s.interlacedSourceFlag = sps.profileTierLevel.interlacedSourceFlag && s.cropRect = cropRectOf sps

def Decoder.configure (sps : GstH265SPS) (s : Decoder P) : Decoder P :=
  { s with
    width := sps.width
    height := sps.height
    cropRect := cropRectOf sps
    fieldSeqFlag := fieldSeqFlagOf sps
    progressiveSourceFlag := sps.profileTierLevel.progressiveSourceFlag
    interlacedSourceFlag := sps.profileTierLevel.interlacedSourceFlag
    store := { s.store with dpb := { s.store.dpb with maxNumPics := maxDpbSizeOf sps } } }

-- what becomes of the pictures of the sequence before
def leaveSequence : DecoderM P GstFlowReturn := do
  if (← get).noOutputOfPriorPicsFlag then do
    clearDpb false
    return .ok
  else drainInternal env

def changeSequence (sps : GstH265SPS) : DecoderM P GstFlowReturn := do
  let ret ← leaveSequence env
  if ret ≠ .ok then return ret
  else do
    let ret ← newSequence env sps (maxDpbSizeOf sps)
    if ret ≠ .ok then return ret
    else do
      modify (Decoder.configure sps)
      return .ok

def changeSequenceIfNew (sps : GstH265SPS) : DecoderM P GstFlowReturn := do
  if sameSequence (← get) sps then return .ok else changeSequence env sps

-- a limit for each sub-layer, of which the highest one counts
def highest (sps : GstH265SPS) (limits : List Nat) : Nat := limits.getD sps.maxSubLayersMinus1 0

-- an SPS without a limit leaves that of the SPS before
def Decoder.setLatency (sps : GstH265SPS) (s : Decoder P) : Decoder P :=
  if highest sps sps.maxLatencyIncreasePlus1 ≠ 0 then
    { s with
      spsMaxLatencyPictures :=
        (highest sps sps.maxNumReorderPics + highest sps sps.maxLatencyIncreasePlus1 + (2 ^ 32 - 1)) % 2 ^ 32 }
  else s

-- gst_h265_decoder_process_sps
def processSps (sps : GstH265SPS) : DecoderM P GstFlowReturn := do
  let ret ← changeSequenceIfNew env sps
  if ret ≠ .ok then return ret
  else do
    modify fun s => (s.setLatency sps).emit (.processSps sps)
    return .ok

def Decoder.setParser (parser : P) (s : Decoder P) : Decoder P := { s with parser := parser }

def Decoder.queue (nalu : GstH265DecoderNalUnit) (s : Decoder P) : Decoder P := { s with nalu := s.nalu ++ [nalu] }

-- the VPS is announced even when the parser failed
def parseVps (nalu : GstH265NalUnit) : DecoderM P Bool := do
  let (ok, vps, parser) := env.parser.parseVps (← get).parser nalu
  modify fun s => (s.emit (.parserParseVps .inBand ok vps)).setParser parser
  vkUpdateVps env vps
  return ok

def parseSps (nalu : GstH265NalUnit) : DecoderM P Bool := do
  let (result, parser) := env.parser.parseSps (← get).parser nalu
  modify fun s => (s.emit (.parserParseSps .inBand result)).setParser parser
  match result with
  | none => return false
  | some sps => do
    vkUpdateSps env sps
    modify (Decoder.queue (.sps sps))
    return true

-- the PPS is announced even when the parser failed
def parsePps (nalu : GstH265NalUnit) : DecoderM P Bool := do
  let (ok, pps, parser) := env.parser.parsePps (← get).parser nalu
  modify fun s => (s.emit (.parserParsePps .inBand ok pps)).setParser parser
  vkUpdatePps env pps
  return ok

def Decoder.setPicStruct (picStruct : GstH265SEIPicStructType) (s : Decoder P) : Decoder P :=
  { s with curPicStruct := picStruct }

-- gst_h265_decoder_parse_sei, on the picture timings; its errors are passed over
def parseSei (nalu : GstH265NalUnit) : DecoderM P Bool := do
  modify fun s => (env.parser.parseSei s.parser nalu).foldl (fun s picStruct => s.setPicStruct picStruct) s
  return true

-- the flags that gst_h265_decoder_parse_slice derives from where the slice stands
def sliceOf (s : Decoder P) (header : GstH265SliceHdr) (nalu : GstH265NalUnit) : GstH265Slice :=
  let noRaslOutputFlag :=
    nalu.type.isIdr || nalu.type.isBla || (nalu.type.isCra && s.newBitstream) || s.prevNalIsEos
  let clearDpb := nalu.type.isIrap && noRaslOutputFlag && !s.newBitstream
  { header
    nalu
    rapPicFlag := nalu.type.isIrap
    noRaslOutputFlag
    noOutputOfPriorPicsFlag := clearDpb && (nalu.type.isCra || header.noOutputOfPriorPicsFlag)
    clearDpb
    intraPicFlag := nalu.type.isIrap }

def Decoder.queueSlice (slice : GstH265Slice) (s : Decoder P) : Decoder P :=
  { s.queue (.slice slice) with
    noOutputOfPriorPicsFlag := slice.noOutputOfPriorPicsFlag || s.noOutputOfPriorPicsFlag }

def Decoder.passSlice (s : Decoder P) : Decoder P := { s with newBitstream := false, prevNalIsEos := false }

-- gst_h265_decoder_parse_slice
def parseSlice (nalu : GstH265NalUnit) : DecoderM P Bool := do
  match env.parser.parseSliceHdr (← get).parser nalu with
  | none => do
    modify Decoder.passSlice
    return false
  | some header => do
    modify fun s => (s.queueSlice (sliceOf s header nalu)).passSlice
    return true

-- gst_h265_decoder_parse_nalu
def parseNalu (nalu : GstH265NalUnit) : DecoderM P Bool :=
  match nalu.type with
  | .vps => parseVps env nalu
  | .sps => parseSps env nalu
  | .pps => parsePps env nalu
  | .prefixSei | .suffixSei => parseSei env nalu
  | .eob => do
    modify fun s => { s with newBitstream := true }
    return true
  | .eos => do
    modify fun s => { s with prevNalIsEos := true }
    return true
  | .aud => return true
  | .other => do
    emit (.unhandledNALU nalu.data)
    return true
  | _ => parseSlice env nalu

-- the first NAL unit that fails ends the parsing of its frame
def parseNalus : List GstH265NalUnit → DecoderM P Unit
  | [] => pure ()
  | nalu :: nalus => do
    if ← parseNalu env nalu then parseNalus nalus else pure ()

-- GST_VIDEO_BUFFER_FLAG_TOP_FIELD and GST_VIDEO_BUFFER_FLAG_BOTTOM_FIELD both say that it is one field
def setBufferFlags (fieldSeqFlag : Bool) (x : Picture) : Picture :=
  match x.picStruct with
  | .topField | .topPairedPreviousBottom | .topPairedNextBottom =>
    if fieldSeqFlag then { x with bufferFlagTff := true, bufferFlagOnefield := true } else x
  | .bottomField | .bottomPairedPreviousTop | .bottomPairedNextTop =>
    if fieldSeqFlag then { x with bufferFlagOnefield := true } else x
  | .topBottom => if fieldSeqFlag then x else { x with bufferFlagInterlaced := true, bufferFlagTff := true }
  | .bottomTop => if fieldSeqFlag then x else { x with bufferFlagInterlaced := true }
  | .frame | .other => x

-- a RASL picture of an IRAP picture without its leading pictures is not output
def fillFromSlice (irapNoRaslOutputFlag : Bool) (slice : GstH265Slice) (x : Picture) : Picture :=
  { x with
    rapPicFlag := slice.rapPicFlag
    noRaslOutputFlag := slice.noRaslOutputFlag
    intraPicFlag := slice.intraPicFlag
    noOutputOfPriorPicsFlag := slice.noOutputOfPriorPicsFlag
    outputFlag := if slice.nalu.type.isRasl && irapNoRaslOutputFlag then false else slice.header.picOutputFlag }

def Decoder.associateIrap (slice : GstH265Slice) (s : Decoder P) : Decoder P :=
  { s with
    associatedIrapNoRaslOutputFlag :=
      if slice.intraPicFlag then slice.noRaslOutputFlag else s.associatedIrapNoRaslOutputFlag }

-- gst_h265_decoder_init_current_picture, with gst_h265_decoder_fill_picture_from_slice
def initCurrentPicture (sps : GstH265SPS) (slice : GstH265Slice) (p : PicId) : DecoderM P Unit := do
  modify (Decoder.associateIrap slice)
  let s ← get
  modifyPicture p (fillFromSlice s.associatedIrapNoRaslOutputFlag slice)
  calculatePoc sps slice p
  modifyPicture p fun x => setBufferFlags s.fieldSeqFlag { x with picStruct := s.curPicStruct }

def Decoder.bumpInfo (s : Decoder P) (site : BumpSite) (maxNumReorderPics maxDecPicBuffering : Nat) : BumpInfo where
  site
  sps := s.sps env
  maxNumReorderPics
  maxLatencyIncrease := s.spsMaxLatencyPictures
  maxDecPicBuffering
  lowest := s.store.dpbGetLowestOutputNeededPicture.map fun r => s.pic r.2
  forReorder := s.store.bumpsForReorder maxNumReorderPics

-- what the proofs see of the decision to bump
def showBumping (site : BumpSite) (maxNumReorderPics maxDecPicBuffering : Nat) : DecoderM P Unit := modify fun s =>
  s.emit (.bumping (s.bumpInfo env site maxNumReorderPics maxDecPicBuffering))

-- the loop over needs_bump: it ends when nothing is waiting
def bumpWhile (site : BumpSite) (maxNumReorderPics maxDecPicBuffering : Nat) :
    Nat → GstFlowReturn → DecoderM P GstFlowReturn
  | 0, ret => return ret
  | fuel + 1, ret => do
    let s ← get
    showBumping env site maxNumReorderPics maxDecPicBuffering
    if ← liftExcept (s.store.dpbNeedsBump maxNumReorderPics s.spsMaxLatencyPictures maxDecPicBuffering) then
      match ← withStore (Store.dpbBump false) with
      | none => return ret
      | some p => do
        let ret ← doOutputPicture env p ret
        bumpWhile site maxNumReorderPics maxDecPicBuffering fuel ret
    else return ret

def resetLastOutput : DecoderM P Unit := do
  if (← get).store.dpbGetSize = 0 then modify (Decoder.setLastOutputPoc int32Min) else pure ()

-- C.5.2.2: gst_h265_decoder_dpb_init
def dpbInit (sps : GstH265SPS) (slice : GstH265Slice) (p : PicId) : DecoderM P GstFlowReturn := do
  if slice.clearDpb then
    if ((← get).pic p).noOutputOfPriorPicsFlag then do
      clearDpb false
      return .ok
    else do
      onStore Store.dpbDeleteUnused
      let ret ← bumpAll env false ((← get).store.dpb.picList.length + 1) .ok
      resetLastOutput
      return ret
  else do
    onStore Store.dpbDeleteUnused
    bumpWhile env .dpbInit (highest sps sps.maxNumReorderPics) (highest sps sps.maxDecPicBufferingMinus1 + 1)
      ((← get).store.dpb.picList.length + 1) .ok

-- gst_h265_decoder_start_current_picture
def startCurrentPicture : DecoderM P GstFlowReturn := do
  let s ← get
  let p ← deref s.currentPicture
  let sps ← deref (s.sps env)
  let slice := s.currentSlice
  initCurrentPicture sps slice p
  if slice.nalu.type.isRasl && (← get).associatedIrapNoRaslOutputFlag then do
    clearCurrentPicture
    return .ok
  else do
    prepareRps sps slice p
    let ret ← dpbInit env sps slice p
    if ret ≠ .ok then return ret else vkStartPicture env p slice

-- gst_h265_decoder_decode_slice
def decodeSlice : DecoderM P GstFlowReturn := do
  let s ← get
  match s.currentPicture with
  | none => return .error
  | some p => vkDecodeSlice env p s.currentSlice

def setSystemFrameNumber (n : Nat) (x : Picture) : Picture := { x with systemFrameNumber := n }

-- the picture for a slice that begins one
def beginPicture : DecoderM P GstFlowReturn := do
  let s ← get
  gAssert s.currentFrame.isSome
  let frame ← deref s.currentFrame
  let p ← withStore Store.pictureNew
  modifyPicture p (setSystemFrameNumber frame.systemFrameNumber)
  modify (Decoder.setCurrentPicture (some p))
  let ret ← vkNewPicture env p
  if ret ≠ .ok then do
    clearCurrentPicture
    return ret
  else startCurrentPicture env

def beginIfNone : DecoderM P GstFlowReturn := do
  if (← get).currentPicture.isNone then beginPicture env else return .ok

-- a dependent slice takes its header from the independent one before it
def Decoder.setSlice (slice : GstH265Slice) (s : Decoder P) : Decoder P :=
  if slice.header.dependentSliceSegmentFlag then
    { s with currentSlice := { slice with header := slice.header.dependOn s.prevIndependentSlice } }
  else { s with currentSlice := slice, prevIndependentSlice := slice.header }

def Decoder.activate (slot : Nat) (s : Decoder P) : Decoder P :=
  { s with activePps := some slot, activeSps := some (env.parser.pps s.parser slot).sps }

-- gst_h265_decoder_process_slice
def processSlice (slice : GstH265Slice) : DecoderM P GstFlowReturn := do
  modify (Decoder.setSlice slice)
  if (← get).currentPicture.isSome && slice.header.firstSliceSegmentInPicFlag then return .error
  else do
    modify (Decoder.activate env slice.header.pps)
    let ret ← beginIfNone env
    if ret ≠ .ok then return ret
    -- the picture may have been dropped
    else if (← get).currentPicture.isNone then return .ok
    else decodeSlice env

-- gst_h265_decoder_decode_nalu
def decodeNalu : GstH265DecoderNalUnit → DecoderM P GstFlowReturn
  | .sps sps => processSps env sps
  | .slice slice => processSlice env slice

def decodeNalus : List GstH265DecoderNalUnit → DecoderM P GstFlowReturn
  | [] => return .ok
  | nalu :: nalus => do
    let ret ← decodeNalu env nalu
    if ret ≠ .ok then return ret else decodeNalus nalus

-- the frame of a picture that is only decoded
def releaseUndisplayed (p : PicId) : DecoderM P Unit := do
  let s ← get
  if !(s.pic p).outputFlag then do
    let frame ← deref (s.getFrame (s.pic p).systemFrameNumber)
    releaseFrame (.finishPicture p) frame
  else pure ()

-- gst_h265_decoder_finish_picture
def finishPicture (sps : GstH265SPS) (p : PicId) (ret : GstFlowReturn) : DecoderM P GstFlowReturn := do
  onStore Store.dpbDeleteUnused
  releaseUndisplayed p
  onStore (Store.storePicture p)
  bumpWhile env .finishPicture (highest sps sps.maxNumReorderPics) 0 ((← get).store.dpb.picList.length + 1) ret

-- gst_h265_decoder_finish_current_picture: the picture is finished also when its decoding failed
def finishCurrentPicture (ret : GstFlowReturn) : DecoderM P GstFlowReturn := do
  let s ← get
  match s.currentPicture with
  | none => return ret
  | some p => do
    let flowRet ← vkEndPicture env p
    let ret := ret.update flowRet
    let sps ← deref (s.sps env)
    let flowRet ← finishPicture env sps p flowRet
    modify (Decoder.setCurrentPicture none)
    return ret.update flowRet

-- gst_h265_decoder_reset_frame_state
def Decoder.resetFrameState (s : Decoder P) : Decoder P :=
  { s with curPicStruct := .frame, noOutputOfPriorPicsFlag := false, currentFrame := none, nalu := [] }

-- what is left to do for a frame whose NAL units are decoded
def endFrame (frame : VideoCodecFrame) (decodeRet : GstFlowReturn) : DecoderM P GstFlowReturn := do
  if decodeRet ≠ .ok then do
    let decodeRet ← videoDecoderError env decodeRet
    dropFrame frame
    clearCurrentPicture
    return decodeRet
  else if (← get).currentPicture.isSome then do
    let decodeRet ← finishCurrentPicture env decodeRet
    videoDecoderError env decodeRet
  else do
    releaseFrame .handleFrame frame
    videoDecoderError env decodeRet

-- gst_h265_decoder_handle_frame, on the NAL units found in the buffer
def handleFrame (frame : VideoCodecFrame) (nalus : List GstH265NalUnit) : DecoderM P GstFlowReturn := do
  modify fun s => s.resetFrameState.setCurrentFrame (some frame)
  parseNalus env nalus
  let decodeRet ← decodeNalus env (← get).nalu
  modify Decoder.resetFrameState
  endFrame env frame decodeRet

-- one NAL unit of the codec data; a PPS is not announced
def parseCodecDataNalu (nalu : GstH265NalUnit) : DecoderM P GstFlowReturn := do
  match nalu.type with
  | .vps => do
    let (ok, vps, parser) := env.parser.parseVps (← get).parser nalu
    modify fun s => (s.emit (.parserParseVps .codecData ok vps)).setParser parser
    if !ok then return .error
    else do
      vkUpdateVps env vps
      return .ok
  | .sps => do
    let (result, parser) := env.parser.parseSps (← get).parser nalu
    modify fun s => (s.emit (.parserParseSps .codecData result)).setParser parser
    match result with
    | none => return .error
    | some sps => do
      vkUpdateSps env sps
      processSps env sps
  | .pps => do
    let (ok, pps, parser) := env.parser.parsePps (← get).parser nalu
    modify fun s => (s.emit (.parserParsePps .codecData ok pps)).setParser parser
    return if ok then .ok else .error
  | _ => return .ok

-- `n` NAL units of an array from `off` on, and where they end
def parseCodecDataNalus (data : List UInt8) : Nat → Nat → DecoderM P (GstFlowReturn × Nat)
  | 0, off => return (.ok, off)
  | n + 1, off =>
    match env.parser.identifyNaluHevc data off 2 with
    | none => return (.error, off)
    | some (nalu, next) => do
      let ret ← parseCodecDataNalu env nalu
      if ret ≠ .ok then return (ret, off) else parseCodecDataNalus data n next

def parseCodecDataArrays (data : List UInt8) : Nat → Nat → DecoderM P GstFlowReturn
  | 0, _ => return .ok
  | n + 1, off => do
    if data.length ≤ off + 3 then return .error
    else do
      let count := (data.getD (off + 1) 0).toNat * 2 ^ 8 + (data.getD (off + 2) 0).toNat
      let (ret, off) ← parseCodecDataNalus env data count (off + 3)
      if ret ≠ .ok then return ret else parseCodecDataArrays data n off

-- gst_h265_decoder_parse_codec_data
def parseCodecData (data : List UInt8) : DecoderM P GstFlowReturn := do
  if data.length < 23 then return .error
  else if data.getD 0 0 ≠ 0 ∧ data.getD 0 0 ≠ 1 then return .error
  else do
    modify fun s => { s with nalLengthSize := (data.getD 21 0).toNat % 4 + 1 }
    parseCodecDataArrays env data (data.getD 22 0).toNat 23

-- gst_h265_decoder_set_format, on the codec data at hand; a failure of it is only logged
def setFormat (input : InputState) (codecData : Option (List UInt8)) : DecoderM P Unit := do
  modify fun s => { s with inputState := some input }
  match codecData with
  | none => pure ()
  | some data => do
    let _ ← parseCodecData env data

def Decoder.forgetInput (s : Decoder P) : Decoder P :=
  { s with inputState := none, spsclient := none, ppsclient := none, vpsclient := none }

-- gst_h265_decoder_stop and the dispose of the element
def stop : DecoderM P Unit := do
  onStore Store.dpbClear
  modifyChecked Decoder.clearSets
  modify Decoder.forgetInput

/-- What the base class asks of the decoder: a new format, a frame with its NAL units and its
duration, a flush, a drain at the end of a segment or of the stream. -/
inductive Input
  | setFormat (input : InputState) (codecData : Option (List UInt8))
  | handleFrame (nalus : List GstH265NalUnit) (duration : Nat)
  | flush
  | drain

def Decoder.takeFrame (duration : Nat) (s : Decoder P) : Decoder P :=
  { s with
    frames := s.frames ++ [{ systemFrameNumber := s.systemFrameNumber, duration }]
    systemFrameNumber := s.systemFrameNumber + 1 }

def takeFrame (duration : Nat) : DecoderM P VideoCodecFrame := do
  let s ← get
  modify (Decoder.takeFrame duration)
  return { systemFrameNumber := s.systemFrameNumber, duration }

-- the base class lets go of its frames
def flush : DecoderM P Unit := do
  emit .flush
  clearDpb true
  modify fun s => { s with frames := [] }

def step : Input → DecoderM P Unit
  | .setFormat input codecData => setFormat env input codecData
  | .handleFrame nalus duration => do
    let frame ← takeFrame duration
    let _ ← handleFrame env frame nalus
  | .flush => flush
  | .drain => do
    let _ ← drainInternal env

def runInputs : List Input → DecoderM P Unit
  | [] => pure ()
  | input :: inputs => do
    step env input
    runInputs inputs

def Decoder.start : Decoder P := { parser := env.parser.init }

end VkVideoParser.H265
