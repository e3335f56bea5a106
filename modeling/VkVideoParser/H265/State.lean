import VkVideoParser.Library.Execution
import VkVideoParser.H265.Dpb

/-! The state of an H.265 element, with its base classes, and what lies outside of it. -/

namespace VkVideoParser.H265

open Execution

/-- The NAL parser of GStreamer. A slot is the place of a parameter set in its tables. The parser of a VPS or
PPS says whether it succeeded and leaves a structure in either case. -/
structure GstH265Parser (P : Type) where
  init : P
  parseVps : P → GstH265NalUnit → Bool × GstH265VPS × P
  parseSps : P → GstH265NalUnit → Option GstH265SPS × P
  parsePps : P → GstH265NalUnit → Bool × GstH265PPS × P
  parseSliceHdr : P → GstH265NalUnit → Option GstH265SliceHdr
  parseSei : P → GstH265NalUnit → List GstH265SEIPicStructType
  identifyNaluHevc : List UInt8 → Nat → Nat → Option (GstH265NalUnit × Nat)
  vps : P → Nat → GstH265VPS
  sps : P → Nat → GstH265SPS
  pps : P → Nat → GstH265PPS

/-- The properties of the element, the parser, the client and the base class. A reply may depend
on all that was called before. -/
structure Env (P : Type) where
  parser : GstH265Parser P
  oobPicParams : Bool := false
  beginSequence : List Event → SequenceInfo → Int
  updateVps : List Event → StdVps → Nat → Bool × Option ClientObject
  updateSps : List Event → StdSps → Nat → Bool × Option ClientObject
  updatePps : List Event → StdPps → Nat → Bool × Option ClientObject
  allocPictureBuffer : List Event → Option VkPicIf
  decodePicture : List Event → PictureData → Bool
  displayPicture : List Event → VkPicIf → Nat → Bool
  finishFrame : List Event → Nat → GstFlowReturn
  videoDecoderError : List Event → GstFlowReturn
  calculateDisplayRatio : Nat → Nat → Nat → Nat → Option (Nat × Nat)

/-- A NAL unit that waits to be decoded until all of its frame are parsed. -/
inductive GstH265DecoderNalUnit
  | sps (sps : GstH265SPS)
  | slice (slice : GstH265Slice)

structure CropRect where
  conformanceWindowFlag : Bool := false
  width : Nat := 0
  height : Nat := 0
  x : Nat := 0
  y : Nat := 0
  deriving DecidableEq

structure Decoder (P : Type) where
  store : Store := {}
  -- GstVideoDecoder: the frames handed in and not yet finished, dropped or released
  inputState : Option InputState := none
  frames : List VideoCodecFrame := []
  systemFrameNumber : Nat := 0
  -- GstH265Decoder
  refPicSets : RefPicSets := {}
  -- GstH265DecoderPrivate
  width : Nat := 0
  height : Nat := 0
  cropRect : CropRect := {}
  nalLengthSize : Nat := 0
  parser : P
  fieldSeqFlag : Bool := false
  progressiveSourceFlag : Bool := false
  interlacedSourceFlag : Bool := false
  curPicStruct : GstH265SEIPicStructType := .frame
  noOutputOfPriorPicsFlag : Bool := false
  activeSps : Option Nat := none
  activePps : Option Nat := none
  spsMaxLatencyPictures : Nat := 0
  currentPicture : Option PicId := none
  currentFrame : Option VideoCodecFrame := none
  currentSlice : GstH265Slice := {}
  prevIndependentSlice : GstH265SliceHdr := {}
  pocMsb : Int := 0
  pocLsb : Int := 0
  prevTid0PicPocLsb : Int := 0
  prevTid0PicPocMsb : Int := 0
  lastOutputPoc : Int := int32Min
  associatedIrapNoRaslOutputFlag : Bool := false
  newBitstream : Bool := true
  prevNalIsEos : Bool := false
  nalu : List GstH265DecoderNalUnit := []
  -- GstVkH265Dec
  maxDpbSize : Int := 0
  vkp : VkH265Picture := {}
  spsclient : Option ClientObject := none
  ppsclient : Option ClientObject := none
  vpsclient : Option ClientObject := none
  spsUpdateCount : Nat := 0
  ppsUpdateCount : Nat := 0

abbrev DecoderM (P : Type) := EStateM Fault (Decoder P)

variable {P : Type}

def Decoder.pic (s : Decoder P) (p : PicId) : Picture := s.store.pic p

def Decoder.modifyPic (p : PicId) (f : Picture → Picture) (s : Decoder P) : Decoder P :=
  { s with store := s.store.modifyPic p f }

def modifyPicture (p : PicId) (f : Picture → Picture) : DecoderM P Unit := modify (Decoder.modifyPic p f)

def Decoder.emit (e : Event) (s : Decoder P) : Decoder P := { s with store := s.store.emit e }

def emit (e : Event) : DecoderM P Unit := modify (Decoder.emit e)

def Decoder.mapStore (f : Store → Store) (s : Decoder P) : Decoder P := { s with store := f s.store }

-- a change that the process does not survive when it set `fault`
abbrev withChecked {α : Type} (f : Decoder P → α × Decoder P) : DecoderM P α :=
  checked (fun s => s.store.fault) f

abbrev withStore {α : Type} (f : Store → α × Store) : DecoderM P α :=
  withChecked fun s => ((f s.store).1, s.mapStore fun st => (f st).2)

abbrev modifyChecked (f : Decoder P → Decoder P) : DecoderM P Unit := withChecked fun s => ((), f s)

abbrev onStore (f : Store → Store) : DecoderM P Unit := modifyChecked (Decoder.mapStore f)

-- an access through a pointer that may be null
def deref {α : Type} (o : Option α) : DecoderM P α := valueOr .nullPointer o

def gAssert (b : Bool) : DecoderM P Unit := assertOr .assertion b

def liftExcept {α : Type} (r : Except Fault α) : DecoderM P α := fromExcept r

def Decoder.setCurrentPicture (p : Option PicId) (s : Decoder P) : Decoder P :=
  { s with currentPicture := p }

def Decoder.setCurrentFrame (frame : Option VideoCodecFrame) (s : Decoder P) : Decoder P :=
  { s with currentFrame := frame }

-- gst_clear_h265_picture on current_picture
def clearCurrentPicture : DecoderM P Unit := do
  match (← get).currentPicture with
  | some p => modifyChecked fun s => (s.mapStore (Store.unref p)).setCurrentPicture none
  | none => pure ()

def Decoder.getFrame (s : Decoder P) (n : Nat) : Option VideoCodecFrame :=
  s.frames.find? fun f => f.systemFrameNumber = n

-- a frame leaves the base class with the call `e`
def Decoder.removeFrame (n : Nat) (e : Event) (s : Decoder P) : Decoder P :=
  { s.emit e with frames := s.frames.filter fun f => f.systemFrameNumber ≠ n }

-- gst_video_decoder_release_frame
def releaseFrame (site : ReleaseSite) (frame : VideoCodecFrame) : DecoderM P Unit :=
  modify (Decoder.removeFrame frame.systemFrameNumber (.releaseFrame frame.systemFrameNumber site))

-- gst_video_decoder_drop_frame
def dropFrame (frame : VideoCodecFrame) : DecoderM P Unit :=
  modify (Decoder.removeFrame frame.systemFrameNumber (.dropFrame frame.systemFrameNumber))

variable (env : Env P)

-- gst_video_decoder_finish_frame
def finishFrame (frame : VideoCodecFrame) : DecoderM P GstFlowReturn := do
  let flow := env.finishFrame (← get).store.log frame.systemFrameNumber
  modify (Decoder.removeFrame frame.systemFrameNumber (.finishFrame frame.systemFrameNumber flow))
  return flow

-- GST_VIDEO_DECODER_ERROR, which the base class may tolerate
def videoDecoderError (ret : GstFlowReturn) : DecoderM P GstFlowReturn := do
  if ret = .error then return env.videoDecoderError (← get).store.log else return ret

-- the VPS that an SPS points to
def Decoder.vpsOf (s : Decoder P) (sps : GstH265SPS) : Option GstH265VPS := sps.vps.map (env.parser.vps s.parser)

def Decoder.activation (s : Decoder P) (slot : Nat) : Activation where
  pps := env.parser.pps s.parser slot
  sps := env.parser.sps s.parser (env.parser.pps s.parser slot).sps
  vps := s.vpsOf env (env.parser.sps s.parser (env.parser.pps s.parser slot).sps)

-- the SPS that `active_sps` points to
def Decoder.sps (s : Decoder P) : Option GstH265SPS := s.activeSps.map (env.parser.sps s.parser)

end VkVideoParser.H265
