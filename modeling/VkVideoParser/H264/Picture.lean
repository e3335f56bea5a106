import VkVideoParser.H264.ParameterSets
import Mathlib.Logic.Function.Basic

/-! Slices, pictures and the calls of the client. A picture is known by its identity; the store
keeps the contents and the reference count of every picture made so far, the DPB and the log of
calls, newest first. -/

namespace VkVideoParser.H264

inductive GstH264NalUnitType
  | slice | sliceDpa | sliceDpb | sliceDpc | sliceIdr | sei | sps | pps | auDelimiter | sliceExt | other
  deriving DecidableEq, Repr

structure GstH264NalUnit where
  refIdc : Nat := 0
  type : GstH264NalUnitType := .other
  idrPicFlag : Bool := false
  data : List UInt8 := []

structure GstH264RefPicMarking where
  memoryManagementControlOperation : Nat := 0
  differenceOfPicNumsMinus1 : Int := 0
  longTermPicNum : Int := 0
  longTermFrameIdx : Int := 0
  maxLongTermFrameIdxPlus1 : Int := 0

/-- `refPicMarking` is an array of ten in the source; the entries after the coded ones are zero. -/
structure GstH264DecRefPicMarking where
  noOutputOfPriorPicsFlag : Bool := false
  longTermReferenceFlag : Bool := false
  adaptiveRefPicMarkingModeFlag : Bool := false
  refPicMarking : List GstH264RefPicMarking := []

/-- `pps` is the parser's slot of the PPS that the header points to. -/
structure GstH264SliceHdr where
  firstMbInSlice : Nat := 0
  type : Nat := 0
  pps : Nat := 0
  frameNum : Int := 0
  fieldPicFlag : Bool := false
  bottomFieldFlag : Bool := false
  idrPicId : Nat := 0
  picOrderCntLsb : Int := 0
  deltaPicOrderCntBottom : Int := 0
  deltaPicOrderCnt0 : Int := 0
  deltaPicOrderCnt1 : Int := 0
  decRefPicMarking : GstH264DecRefPicMarking := {}
  maxPicNum : Int := 0

structure GstH264Slice where
  header : GstH264SliceHdr := {}
  nalu : GstH264NalUnit := {}

inductive PictureField
  | frame | topField | bottomField
  deriving DecidableEq, Repr

inductive PictureReference
  | none | shortTerm | longTerm
  deriving DecidableEq, Repr

structure DpbEntry where
  pPicBuf : Option VkPicIf := none
  frameIdx : Int := 0
  isLongTerm : Bool := false
  notExisting : Bool := false
  usedForReference : Nat := 0
  fieldOrderCnt0 : Int := 0
  fieldOrderCnt1 : Int := 0
  deriving DecidableEq, Repr

structure H264PictureData where
  pStdSps : ParamSource := .own
  pSpsClientObject : Option ClientObject := none
  pStdPps : ParamSource := .own
  pPpsClientObject : Option ClientObject := none
  picParameterSetId : Nat := 0
  seqParameterSetId : Nat := 0
  numRefIdxL0ActiveMinus1 : Nat := 0
  numRefIdxL1ActiveMinus1 : Nat := 0
  weightedPredFlag : Bool := false
  weightedBipredIdc : Nat := 0
  picInitQpMinus26 : Int := 0
  redundantPicCntPresentFlag : Bool := false
  deblockingFilterControlPresentFlag : Bool := false
  transform8x8ModeFlag : Bool := false
  mbaffFrameFlag : Bool := false
  constrainedIntraPredFlag : Bool := false
  entropyCodingModeFlag : Bool := false
  picOrderPresentFlag : Bool := false
  chromaQpIndexOffset : Int := 0
  secondChromaQpIndexOffset : Int := 0
  frameNum : Int := 0
  currFieldOrderCnt0 : Int := 0
  currFieldOrderCnt1 : Int := 0
  fmoAsoEnable : Bool := false
  numSliceGroupsMinus1 : Nat := 0
  sliceGroupMapType : Nat := 0
  picInitQsMinus26 : Int := 0
  sliceGroupChangeRateMinus1 : Nat := 0
  dpb : List DpbEntry := []

structure PictureData where
  picWidthInMbs : Nat := 0
  frameHeightInMbs : Nat := 0
  pCurrPic : Option VkPicIf := none
  fieldPicFlag : Bool := false
  bottomFieldFlag : Bool := false
  secondField : Bool := false
  progressiveFrame : Bool := false
  topFieldFirst : Bool := false
  repeatFirstField : Nat := 0
  refPicFlag : Bool := false
  intraPicFlag : Bool := false
  chromaFormat : Nat := 0
  pictureOrderCount : Int := 0
  nBitstreamDataLen : Nat := 0
  pBitstreamData : List UInt8 := []
  nNumSlices : Nat := 0
  pSliceDataOffsets : List Nat := []
  h264 : H264PictureData := {}
  currentDpbId : Int := 0

/-- The user data of a picture that was given a buffer. -/
structure VkPic where
  pic : VkPicIf
  data : PictureData := {}
  bitstream : List UInt8 := []
  vkp : VkH264Picture := {}
  sliceOffsets : List Nat := [0]

structure Picture where
  refcount : Nat := 0
  systemFrameNumber : Nat := 0
  picOrderCntType : Nat := 0
  topFieldOrderCnt : Int := int32Max
  bottomFieldOrderCnt : Int := int32Max
  picOrderCnt : Int := 0
  picOrderCntMsb : Int := 0
  picOrderCntLsb : Int := 0
  deltaPicOrderCntBottom : Int := 0
  deltaPicOrderCnt0 : Int := 0
  deltaPicOrderCnt1 : Int := 0
  picNum : Int := 0
  longTermPicNum : Int := 0
  frameNum : Int := 0
  frameNumOffset : Int := 0
  frameNumWrap : Int := 0
  longTermFrameIdx : Int := 0
  nalRefIdc : Nat := 0
  idr : Bool := false
  idrPicId : Nat := 0
  fieldPicFlag : Bool := false
  ref : PictureReference := .none
  refPic : Bool := false
  neededForOutput : Bool := false
  memMgmt5 : Bool := false
  nonexisting : Bool := false
  field : PictureField := .frame
  decRefPicMarking : GstH264DecRefPicMarking := {}
  secondField : Bool := false
  otherField : Option PicId := none
  bufferFlagInterlaced : Bool := false
  bufferFlagTff : Bool := false
  userData : Option VkPic := none

def Picture.isRef (x : Picture) : Bool := x.ref ≠ .none

lemma Picture.isRef_congr {x y : Picture} (h : x.ref = y.ref) : x.isRef = y.isRef := by
  simp only [Picture.isRef, h]

def Picture.isFrame (x : Picture) : Bool := x.field = .frame

def Picture.bufferFlags (x : Picture) : Bool × Bool := (x.bufferFlagInterlaced, x.bufferFlagTff)

/-- A parameter set as a slice activates it: the PPS and the SPS it points to. -/
structure Activation where
  pps : GstH264PPS
  sps : GstH264SPS
  deriving DecidableEq

/-- The call of `start_picture`: the slice with the sets it activates, the picture's place in its
frame, the cached field, the number that frame numbers wrap at, the pictures stored in the DPB with the
field each is linked to, and the entries of `dpb[]` written. -/
structure StartInfo where
  slice : GstH264Slice
  active : Activation
  secondField : Bool
  otherField : Option PicId
  systemFrameNumber : Nat
  lastField : Option PicId
  maxFrameNum : Nat
  stored : List (PicId × Picture × Option Picture)
  dpb : List DpbEntry

/-- The pictures held when a buffer is asked for. -/
structure AllocInfo where
  stored : List Picture
  maxNumFrames : Nat
  interlaced : Bool

/-- The pictures when some of them may leave the DPB, or one comes to be stored: the one that is
finished, or a missing one, with the field it is linked to, and those stored. -/
structure DpbInfo where
  picture : Picture
  other : Option Picture
  stored : List (PicId × Picture × Option Picture)
  interlaced : Bool
  full : Bool

/-- A picture once its order counts are calculated, by which SPS and with which number that frame numbers
wrap at. -/
structure OrderInfo where
  sps : GstH264SPS
  maxFrameNum : Nat
  picture : Picture

/-- A look at the DPB for a bump, with the picture at hand and the lowest one that waits. -/
structure BumpInfo where
  current : Option Picture
  lowest : Option Picture
  maxNumReorderFrames : Nat
  forReorder : Bool

/-- A picture that comes into the DPB, with those stored and the frames that the DPB has room for. -/
structure StoreInfo where
  picture : Picture
  stored : List (PicId × Picture)
  maxNumFrames : Nat
  interlaced : Bool

/-- The calls, the parser's results, the message of an assertion that fails, and what the proofs see
of the order counts, of the DPB and of a reference picture that is finished. -/
inductive Event
  | beginSequence (info : SequenceInfo) (sps : GstH264SPS)
  | updateSps (sps : GstH264SPS) (set : StdSps) (count : Nat) (ok : Bool)
      (client : Option ClientObject) (width height maxNumFrames : Nat) (interlaced : Bool)
  | updatePps (active : Activation) (set : StdPps) (count : Nat) (ok : Bool)
      (client : Option ClientObject)
  | parserParseSps (result : Option GstH264SPS)
  | parserParsePps (result : Option GstH264PPS)
  | parserUpdateSps (sps : GstH264SPS) (ok : Bool)
  | allocPictureBuffer (p : PicId) (pic : Option VkPicIf) (info : AllocInfo)
  | startPicture (p : PicId) (info : StartInfo)
  | decodeSlice (p : PicId) (slice : GstH264Slice) (active : Activation)
  | decodePicture (p : PicId) (data : PictureData) (sps : StdSps) (pps : StdPps) (ok : Bool)
  | displayPicture (p : PicId) (pic : VkPicIf) (frame : VideoCodecFrame) (timestamp : Nat) (ok : Bool)
  | release (p : PicId) (pic : VkPicIf)
  | unhandledNALU (data : List UInt8)
  | finishFrame (systemFrameNumber : Nat) (flow : GstFlowReturn)
  | releaseFrame (systemFrameNumber : Nat)
  | dropFrame (systemFrameNumber : Nat)
  | flush
  | lastFieldNotNull
  | removing (info : DpbInfo)
  | placing (info : DpbInfo)
  | storing (info : StoreInfo)
  | orderCount (info : OrderInfo)
  | bumping (info : BumpInfo)
  | reference (x : Picture)

structure Dpb where
  picList : List PicId := []
  maxNumFrames : Nat := 0
  numOutputNeeded : Int := 0
  maxNumReorderFrames : Nat := 0
  lastOutputPoc : Int := int32Min
  lastOutputNonRef : Bool := false
  interlaced : Bool := false

/-- `fault` is set by an access to a freed picture or a failed assertion; the caller dies of it. -/
structure Store where
  pic : PicId → Picture := fun _ => {}
  next : PicId := 0
  dpb : Dpb := {}
  log : List Event := []
  fault : Option Fault := none

namespace Store

def emit (e : Event) (s : Store) : Store := { s with log := e :: s.log }

def die (f : Fault) (s : Store) : Store := { s with fault := s.fault <|> some f }

def modifyPic (p : PicId) (f : Picture → Picture) (s : Store) : Store :=
  { s with pic := Function.update s.pic p (f (s.pic p)) }

-- gst_h264_picture_new
def pictureNew (s : Store) : PicId × Store :=
  (s.next, { s with pic := Function.update s.pic s.next { refcount := 1 }, next := s.next + 1 })

-- gst_h264_picture_ref
def ref (p : PicId) (s : Store) : Store :=
  s.modifyPic p fun x => { x with refcount := x.refcount + 1 }

-- vk_pic_free, the notify of the user data
def vkPicFree (p : PicId) (s : Store) : Store :=
  match (s.pic p).userData with
  | some vkpic => s.emit (.release p vkpic.pic)
  | none => s

-- gst_h264_picture_unref: the last reference frees the picture
def unref (p : PicId) (s : Store) : Store :=
  match (s.pic p).refcount with
  | 0 => s.die .useAfterFree
  | 1 => (s.modifyPic p fun x => { x with refcount := 0 }).vkPicFree p
  | n + 2 => s.modifyPic p fun x => { x with refcount := n + 1 }

-- following a link to a picture that was freed
def touch (p : PicId) (s : Store) : Store :=
  if (s.pic p).refcount = 0 then s.die .useAfterFree else s

def setPicList (l : List PicId) (s : Store) : Store := { s with dpb := { s.dpb with picList := l } }

end Store

end VkVideoParser.H264
