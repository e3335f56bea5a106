import VkVideoParser.H265.ParameterSets
import Mathlib.Logic.Function.Basic

/-! Slices, pictures and the calls of the client. A picture is known by its identity; the store
keeps the contents and the reference count of every picture made so far, the DPB and the log of
calls, newest first. -/

namespace VkVideoParser.H265

/-- The types that the decoder tells apart. -/
inductive GstH265NalUnitType
  | trailN | trailR | tsaN | tsaR | stsaN | stsaR | radlN | radlR | raslN | raslR
  | blaWLp | blaWRadl | blaNLp | idrWRadl | idrNLp | craNut
  | vps | sps | pps | aud | eos | eob | prefixSei | suffixSei | other
  deriving DecidableEq, Repr

namespace GstH265NalUnitType

def isIdr : GstH265NalUnitType → Bool
  | idrWRadl | idrNLp => true
  | _ => false

def isBla : GstH265NalUnitType → Bool
  | blaWLp | blaWRadl | blaNLp => true
  | _ => false

def isCra : GstH265NalUnitType → Bool
  | craNut => true
  | _ => false

def isIrap (t : GstH265NalUnitType) : Bool := t.isBla || t.isIdr || t.isCra

def isRasl : GstH265NalUnitType → Bool
  | raslN | raslR => true
  | _ => false

def isRadl : GstH265NalUnitType → Bool
  | radlN | radlR => true
  | _ => false

-- nal_is_ref
def isRef : GstH265NalUnitType → Bool
  | trailN | tsaN | stsaN | radlN | raslN => false
  | _ => true

end GstH265NalUnitType

structure GstH265NalUnit where
  type : GstH265NalUnitType := .other
  temporalIdPlus1 : Nat := 1
  data : List UInt8 := []

/-- `pps` is the parser's slot of the PPS that the header points to. -/
structure GstH265SliceHdr where
  firstSliceSegmentInPicFlag : Bool := false
  noOutputOfPriorPicsFlag : Bool := false
  pps : Nat := 0
  dependentSliceSegmentFlag : Bool := false
  type : Nat := 0
  picOutputFlag : Bool := true
  picOrderCntLsb : Int := 0
  shortTermRefPicSetSpsFlag : Bool := false
  shortTermRefPicSets : GstH265ShortTermRefPicSet := {}
  shortTermRefPicSetIdx : Nat := 0
  numLongTermSps : Nat := 0
  numLongTermPics : Nat := 0
  ltIdxSps : List Nat := []
  pocLsbLt : List Int := []
  usedByCurrPicLtFlag : List Bool := []
  deltaPocMsbPresentFlag : List Bool := []
  deltaPocMsbCycleLt : List Int := []
  numPocTotalCurr : Nat := 0
  shortTermRefPicSetSize : Nat := 0

-- the fields from `type` on, up to the entry points, that a dependent slice takes over
def GstH265SliceHdr.dependOn (header indep : GstH265SliceHdr) : GstH265SliceHdr :=
  { indep with
    firstSliceSegmentInPicFlag := header.firstSliceSegmentInPicFlag
    noOutputOfPriorPicsFlag := header.noOutputOfPriorPicsFlag
    pps := header.pps
    dependentSliceSegmentFlag := header.dependentSliceSegmentFlag
    numPocTotalCurr := header.numPocTotalCurr
    shortTermRefPicSetSize := header.shortTermRefPicSetSize }

structure GstH265Slice where
  header : GstH265SliceHdr := {}
  nalu : GstH265NalUnit := {}
  rapPicFlag : Bool := false
  noRaslOutputFlag : Bool := false
  noOutputOfPriorPicsFlag : Bool := false
  clearDpb : Bool := false
  intraPicFlag : Bool := false

inductive GstH265SEIPicStructType
  | frame | topField | bottomField | topBottom | bottomTop | topPairedPreviousBottom
  | bottomPairedPreviousTop | topPairedNextBottom | bottomPairedNextTop | other
  deriving DecidableEq, Repr

structure HevcPictureData where
  pStdVps : ParamSource := .own
  pVpsClientObject : Option ClientObject := none
  pStdSps : ParamSource := .own
  pSpsClientObject : Option ClientObject := none
  pStdPps : ParamSource := .own
  pPpsClientObject : Option ClientObject := none
  picParameterSetId : Nat := 0
  seqParameterSetId : Nat := 0
  vpsVideoParameterSetId : Nat := 0
  irapPicFlag : Bool := false
  idrPicFlag : Bool := false
  numBitsForShortTermRPSInSlice : Nat := 0
  numDeltaPocsOfRefRpsIdx : Nat := 0
  numPocTotalCurr : Nat := 0
  numPocStCurrBefore : Nat := 0
  numPocStCurrAfter : Nat := 0
  numPocLtCurr : Nat := 0
  currPicOrderCntVal : Int := 0
  refPics : List (Option VkPicIf) := []
  picOrderCntVal : List Int := []
  isLongTerm : List Bool := []
  refPicSetStCurrBefore : List Nat := []
  refPicSetStCurrAfter : List Nat := []
  refPicSetLtCurr : List Nat := []
  profileLevel : Nat := 0
  colorPrimaries : Nat := 0
  bitDepthLumaMinus8 : Nat := 0
  bitDepthChromaMinus8 : Nat := 0

structure PictureData where
  picWidthInMbs : Nat := 0
  frameHeightInMbs : Nat := 0
  pCurrPic : Option VkPicIf := none
  fieldPicFlag : Bool := false
  bottomFieldFlag : Bool := false
  progressiveFrame : Bool := false
  topFieldFirst : Bool := false
  repeatFirstField : Nat := 0
  refPicFlag : Bool := false
  intraPicFlag : Bool := false
  chromaFormat : Nat := 0
  pictureOrderCount : Int := 0
  nBitstreamDataLen : Nat := 0
  pBitstreamData : List UInt8 := []
  nNumSlices : Nat := 0
  pSliceDataOffsets : List Nat := []
  hevc : HevcPictureData := {}
  currentDpbId : Int := 0

/-- The user data of a picture that was given a buffer. -/
structure VkPic where
  pic : VkPicIf
  data : PictureData := {}
  bitstream : List UInt8 := []
  vkp : VkH265Picture := {}
  sliceOffsets : List Nat := [0]

structure Picture where
  refcount : Nat := 0
  systemFrameNumber : Nat := 0
  picOrderCnt : Int := 0
  picOrderCntLsb : Int := 0
  picLatencyCnt : Nat := 0
  outputFlag : Bool := false
  noRaslOutputFlag : Bool := false
  noOutputOfPriorPicsFlag : Bool := false
  rapPicFlag : Bool := false
  intraPicFlag : Bool := false
  ref : Bool := false
  longTerm : Bool := false
  neededForOutput : Bool := false
  picStruct : GstH265SEIPicStructType := .frame
  bufferFlagInterlaced : Bool := false
  bufferFlagTff : Bool := false
  bufferFlagOnefield : Bool := false
  userData : Option VkPic := none

/-- The parameter sets as a slice activates them: the PPS, the SPS it points to and the VPS that this
points to. -/
structure Activation where
  pps : GstH265PPS
  sps : GstH265SPS
  vps : Option GstH265VPS
  deriving DecidableEq

/-- The reference picture sets; a picture of a set may be missing. -/
structure RefPicSets where
  stCurrBefore : List (Option PicId) := []
  stCurrAfter : List (Option PicId) := []
  stFoll : List (Option PicId) := []
  ltCurr : List (Option PicId) := []
  ltFoll : List (Option PicId) := []
  deriving DecidableEq, Repr

def RefPicSets.pictures (sets : RefPicSets) : List PicId :=
  (sets.ltCurr ++ sets.ltFoll ++ sets.stCurrBefore ++ sets.stCurrAfter ++ sets.stFoll).filterMap id

/-- The call of `start_picture`: the slice with the sets it activates, the picture, the pictures stored in
the DPB, the reference picture sets and whether the sequence has fields for pictures. -/
structure StartInfo where
  slice : GstH265Slice
  active : Activation
  picture : Picture
  stored : List (PicId × Picture)
  refPicSets : RefPicSets
  fieldSeqFlag : Bool

/-- A picture once its order count is calculated, from which slice and by which SPS. -/
structure OrderInfo where
  sps : GstH265SPS
  slice : GstH265Slice
  picture : Picture

/-- Where needs_bump is asked. -/
inductive BumpSite
  | dpbInit | finishPicture
  deriving DecidableEq, Repr

/-- A look at the DPB for a bump: the active SPS, the limits, the lowest picture that waits. -/
structure BumpInfo where
  site : BumpSite
  sps : Option GstH265SPS
  maxNumReorderPics : Nat
  maxLatencyIncrease : Nat
  maxDecPicBuffering : Nat
  lowest : Option Picture
  forReorder : Bool

/-- A picture that comes to the DPB, with the ones that are there. -/
structure StoreInfo where
  picture : Picture
  stored : List Picture

/-- Where a parameter set was found. -/
inductive Carrier
  | inBand | codecData
  deriving DecidableEq, Repr

/-- Where gst_video_decoder_release_frame is called: for a picture that no_output_of_prior_pics_flag takes out of the
DPB, for one that is not to be output, and for a frame without a picture. -/
inductive ReleaseSite
  | clearDpb (p : PicId)
  | finishPicture (p : PicId)
  | handleFrame
  deriving DecidableEq, Repr

/-- The calls, the parser's results, the end of process_sps, and what the proofs see of the order counts
and of the DPB. -/
inductive Event
  | beginSequence (info : SequenceInfo) (sps : GstH265SPS)
  | processSps (sps : GstH265SPS)
  | parserParseVps (carrier : Carrier) (ok : Bool) (vps : GstH265VPS)
  | parserParseSps (carrier : Carrier) (sps : Option GstH265SPS)
  | parserParsePps (carrier : Carrier) (ok : Bool) (pps : GstH265PPS)
  | updateVps (vps : GstH265VPS) (set : StdVps) (count : Nat) (ok : Bool) (client : Option ClientObject)
  | updateSps (sps : GstH265SPS) (vps : Option GstH265VPS) (set : StdSps) (count : Nat) (ok : Bool)
      (client : Option ClientObject)
  | updatePps (pps : GstH265PPS) (set : StdPps) (count : Nat) (ok : Bool) (client : Option ClientObject)
  | allocPictureBuffer (p : PicId) (pic : Option VkPicIf)
  | startPicture (p : PicId) (info : StartInfo)
  | decodeSlice (p : PicId) (slice : GstH265Slice) (active : Activation)
  | decodePicture (p : PicId) (data : PictureData) (vps : StdVps) (sps : StdSps) (pps : StdPps) (ok : Bool)
  | displayPicture (p : PicId) (pic : VkPicIf) (frame : VideoCodecFrame) (timestamp : Nat) (ok : Bool)
  | release (p : PicId) (pic : VkPicIf)
  | unhandledNALU (data : List UInt8)
  | orderCount (info : OrderInfo)
  | bumping (info : BumpInfo)
  | storing (info : StoreInfo)
  | finishFrame (systemFrameNumber : Nat) (flow : GstFlowReturn)
  | releaseFrame (systemFrameNumber : Nat) (site : ReleaseSite)
  | dropFrame (systemFrameNumber : Nat)
  | flush

structure Dpb where
  picList : List PicId := []
  maxNumPics : Nat := 0
  numOutputNeeded : Int := 0

/-- `fault` is set by an access to a freed picture or to a missing VPS, or by a failed assertion; the
caller dies of it. -/
structure Store where
  pic : PicId → Picture := fun _ => {}
  next : PicId := 0
  dpb : Dpb := {}
  log : List Event := []
  fault : Option Fault := none

namespace Store

def emit (e : Event) (s : Store) : Store := { s with log := e :: s.log }

def die (f : Fault) (s : Store) : Store := { s with fault := s.fault <|> some f }

def modifyPic (p : PicId) (f : Picture → Picture) (s : Store) : Store :=
  { s with pic := Function.update s.pic p (f (s.pic p)) }

-- gst_h265_picture_new
def pictureNew (s : Store) : PicId × Store :=
  (s.next, { s with pic := Function.update s.pic s.next { refcount := 1 }, next := s.next + 1 })

-- gst_h265_picture_ref
def ref (p : PicId) (s : Store) : Store :=
  s.modifyPic p fun x => { x with refcount := x.refcount + 1 }

-- vk_pic_free, the notify of the user data
def vkPicFree (p : PicId) (s : Store) : Store :=
  match (s.pic p).userData with
  | some vkpic => s.emit (.release p vkpic.pic)
  | none => s

-- gst_h265_picture_unref: the last reference frees the picture
def unref (p : PicId) (s : Store) : Store :=
  match (s.pic p).refcount with
  | 0 => s.die .useAfterFree
  | 1 => (s.modifyPic p fun x => { x with refcount := 0 }).vkPicFree p
  | n + 2 => s.modifyPic p fun x => { x with refcount := n + 1 }

def refAll (l : List PicId) (s : Store) : Store := l.foldl (fun s p => s.ref p) s

def unrefAll (l : List PicId) (s : Store) : Store := l.foldl (fun s p => s.unref p) s

def setPicList (l : List PicId) (s : Store) : Store := { s with dpb := { s.dpb with picList := l } }

end Store

end VkVideoParser.H265
