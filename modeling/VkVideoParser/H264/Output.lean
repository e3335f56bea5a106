import VkVideoParser.H264.Element

/-! Output and storage of gsth264decoder.c. The element asks for no output delay and no reference
lists, so the output queue is empty between two calls and the lists are left out. -/

namespace VkVideoParser.H264

variable {P : Type} (env : Env P)

def Decoder.setLastOutputPoc (poc : Int) (s : Decoder P) : Decoder P := { s with lastOutputPoc := poc }

-- gst_h264_decoder_do_output_picture, with the output queue it fills and empties
def doOutputPicture (p : PicId) (ret : GstFlowReturn) : DecoderM P GstFlowReturn := do
  let s ← get
  modify (Decoder.setLastOutputPoc (s.pic p).picOrderCnt)
  match s.getFrame (s.pic p).systemFrameNumber with
  | none => do
    onStore (Store.unref p)
    return ret.update .error
  | some frame => do
    let flowRet ← vkOutputPicture env frame p
    return ret.update flowRet

-- every turn takes a picture out of the DPB, so its size plus one is enough fuel
def drainLoop : Nat → GstFlowReturn → DecoderM P GstFlowReturn
  | 0, ret => return ret
  | fuel + 1, ret => do
    match ← withStore (Store.dpbBump true) with
    | none => return ret
    | some p => do
      let ret ← doOutputPicture env p ret
      drainLoop fuel ret

-- what draining and clearing end with
def emptyDpb : DecoderM P Unit := do
  clearLastField
  onStore Store.dpbClear
  modify (Decoder.setLastOutputPoc int32Min)

-- gst_h264_decoder_drain_internal
def drainInternal : DecoderM P GstFlowReturn := do
  let ret ← drainLoop env ((← get).store.dpbGetSize + 1) .ok
  emptyDpb
  return ret

def releaseFrameOf (p : PicId) : DecoderM P Unit := do
  let s ← get
  match s.getFrame (s.pic p).systemFrameNumber with
  | some frame => releaseFrame frame
  | none => pure ()

def clearDpbLoop : Nat → DecoderM P Unit
  | 0 => pure ()
  | fuel + 1 => do
    match ← withStore (Store.dpbBump true) with
    | none => pure ()
    | some p => do
      releaseFrameOf p
      onStore (Store.unref p)
      clearDpbLoop fuel

-- gst_h264_decoder_clear_dpb
def clearDpb (flush : Bool) : DecoderM P Unit := do
  if flush then emptyDpb
  else do
    clearDpbLoop ((← get).store.dpbGetSize + 1)
    emptyDpb

def Decoder.bumpInfo (s : Decoder P) (bumpLevel : BumpMode) (currentPicture : Option PicId) : BumpInfo where
  current := currentPicture.map s.pic
  lowest := s.store.dpbGetLowestOutputNeededPicture.map fun r => s.pic r.2
  maxNumReorderFrames := s.store.dpb.maxNumReorderFrames
  forReorder := s.store.bumpsForReorder bumpLevel

-- what the proofs see of the decision to bump
def showBumping (bumpLevel : BumpMode) (currentPicture : Option PicId) : DecoderM P Unit := modify fun s =>
  s.emit (.bumping (s.bumpInfo bumpLevel currentPicture))

-- every turn settles one of the pictures that need output
def bumpDpbLoop (bumpLevel : BumpMode) (currentPicture : Option PicId) :
    Nat → GstFlowReturn → DecoderM P GstFlowReturn
  | 0, ret => return ret
  | fuel + 1, ret => do
    let s ← get
    showBumping bumpLevel currentPicture
    match s.store.dpbNeedsBump (currentPicture.map s.pic) bumpLevel with
    | .error e => throw e
    | .ok false => return ret
    | .ok true =>
      match ← withStore (Store.dpbBump false) with
      | none => return ret
      | some p => do
        let ret ← doOutputPicture env p ret
        bumpDpbLoop bumpLevel currentPicture fuel ret

-- _bump_dpb
def bumpDpb (bumpLevel : BumpMode) (currentPicture : Option PicId) (ret : GstFlowReturn) :
    DecoderM P GstFlowReturn := do
  bumpDpbLoop env bumpLevel currentPicture ((← get).store.dpbGetSize + 1) ret

def linkSecondField (firstField : PicId) (x : Picture) : Picture :=
  { x with otherField := some firstField, secondField := true }

-- a non-existing picture is not shown to the subclass
def showNewField (p q : PicId) : DecoderM P GstFlowReturn := do
  if ((← get).pic p).nonexisting then return .ok else vkNewFieldPicture env q

-- gst_h264_decoder_new_field_picture
def newFieldPicture (p : PicId) : DecoderM P (Option PicId) := do
  let q ← withStore Store.pictureNew
  let ret ← showNewField env p q
  if ret ≠ .ok then do
    onStore (Store.unref q)
    return none
  else do
    modifyPicture q (linkSecondField p)
    return some q

def splitFirst (x : Picture) : Picture :=
  if x.topFieldOrderCnt < x.bottomFieldOrderCnt then
    { x with field := .topField, picOrderCnt := x.topFieldOrderCnt }
  else { x with field := .bottomField, picOrderCnt := x.bottomFieldOrderCnt }

-- what the other field takes over from the frame `x`
def splitOther (x y : Picture) : Picture :=
  { y with
    field := if x.topFieldOrderCnt < x.bottomFieldOrderCnt then .bottomField else .topField
    picOrderCnt :=
      if x.topFieldOrderCnt < x.bottomFieldOrderCnt then x.bottomFieldOrderCnt else x.topFieldOrderCnt
    topFieldOrderCnt := x.topFieldOrderCnt
    bottomFieldOrderCnt := x.bottomFieldOrderCnt
    frameNum := x.frameNum
    ref := x.ref
    nonexisting := x.nonexisting
    systemFrameNumber := x.systemFrameNumber
    fieldPicFlag := x.fieldPicFlag }

-- gst_h264_decoder_split_frame
def splitFrame (p : PicId) : DecoderM P (Option PicId) := do
  gAssert ((← get).pic p).isFrame
  match ← newFieldPicture env p with
  | none => return none
  | some q => do
    let x := (← get).pic p
    modifyPicture p splitFirst
    modifyPicture q (splitOther x)
    return some q

def linkField (p : PicId) (x : Picture) : Picture := { x with otherField := some p }

-- output_picture_directly
def outputPictureDirectly (p : PicId) (ret : GstFlowReturn) : DecoderM P GstFlowReturn := do
  let s ← get
  let x := s.pic p
  if x.isFrame then do
    assertNoLastField
    onStore (Store.dpbSetLastOutput p)
    let flowRet ← doOutputPicture env p .ok
    return ret.update flowRet
  else
    match s.lastField with
    | none =>
      if x.secondField then do
        -- the second field without the first one
        onStore (Store.unref p)
        return ret.update .error
      else do
        modify (Decoder.setLastField (some p))
        return ret
    | some q =>
      if !x.secondField || x.otherField ≠ some q then do
        clearLastField
        onStore (Store.unref p)
        return ret.update .error
      else do
        modify (Decoder.setLastField none)
        modifyPicture q (linkField p)
        onStore (Store.dpbSetLastOutput q)
        let flowRet ← doOutputPicture env q .ok
        onStore (Store.unref p)
        return ret.update flowRet

-- add_picture_to_dpb
def addPictureToDpb (p : PicId) : DecoderM P Unit := do
  let s ← get
  if !s.store.dpb.interlaced then do
    assertNoLastField
    onStore (Store.addPicture p)
  else
    match s.lastField with
    | some q =>
      if (s.pic p).otherField = some q then do
        modifyChecked fun s => (s.mapStore (Store.addPicture q)).setLastField none
        onStore (Store.addPicture p)
      else onStore (Store.addPicture p)
    | none => onStore (Store.addPicture p)

end VkVideoParser.H264
