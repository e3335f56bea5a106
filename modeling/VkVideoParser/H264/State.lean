import VkVideoParser.Library.Execution
import VkVideoParser.H264.Dpb

/-! The state of an H.264 element, with its base classes, and what lies outside of it. -/

namespace VkVideoParser.H264

open Execution

/-- The NAL parser of GStreamer. A slot is the place of a parameter set in its tables. -/
structure GstH264NalParser (P : Type) where
  init : P
  parseSps : GstH264NalUnit → Option GstH264SPS
  updateSps : P → GstH264SPS → Option P
  parsePps : P → GstH264NalUnit → Option GstH264PPS
  updatePps : P → GstH264PPS → Option P
  parseSliceHdr : P → GstH264NalUnit → Option GstH264SliceHdr
  identifyNaluAvc : List UInt8 → Nat → Nat → Option (GstH264NalUnit × Nat)
  sps : P → Nat → GstH264SPS
  pps : P → Nat → GstH264PPS

inductive Compliance
  | auto | strict | normal | flexible
  deriving DecidableEq, Repr

/-- The properties of the element, the parser, the client and the base class. A reply may depend
on all that was called before. -/
structure Env (P : Type) where
  parser : GstH264NalParser P
  oobPicParams : Bool := false
  compliance : Compliance := .flexible
  beginSequence : List Event → SequenceInfo → Int
  updateSps : List Event → StdSps → Nat → Bool × Option ClientObject
  updatePps : List Event → StdPps → Nat → Bool × Option ClientObject
  allocPictureBuffer : List Event → Option VkPicIf
  decodePicture : List Event → PictureData → Bool
  displayPicture : List Event → VkPicIf → Nat → Bool
  finishFrame : List Event → Nat → GstFlowReturn
  videoDecoderError : List Event → GstFlowReturn
  calculateDisplayRatio : Nat → Nat → Nat → Nat → Option (Nat × Nat)

structure Decoder (P : Type) where
  store : Store := {}
  -- GstVideoDecoder: the frames handed in and not yet finished, dropped or released
  inputState : Option InputState := none
  frames : List VideoCodecFrame := []
  systemFrameNumber : Nat := 0
  -- GstH264DecoderPrivate
  width : Nat := 0
  height : Nat := 0
  profileIdc : Nat := 0
  nalLengthSize : Nat := 4
  parser : P
  lastField : Option PicId := none
  isLive : Bool := false
  activeSps : Option Nat := none
  activePps : Option Nat := none
  currentPicture : Option PicId := none
  currentFrame : Option VideoCodecFrame := none
  currentSlice : GstH264Slice := {}
  maxFrameNum : Nat := 0
  maxPicNum : Int := 0
  maxLongTermFrameIdx : Int := 0
  prevFrameNum : Int := 0
  prevRefFrameNum : Int := 0
  prevFrameNumOffset : Int := 0
  prevHasMemmgmnt5 : Bool := false
  prevRefHasMemmgmnt5 : Bool := false
  prevRefTopFieldOrderCnt : Int := 0
  prevRefPicOrderCntMsb : Int := 0
  prevRefPicOrderCntLsb : Int := 0
  prevRefField : PictureField := .frame
  lastOutputPoc : Int := int32Min
  -- GstVkH264Dec
  maxDpbSize : Int := 0
  vkp : VkH264Picture := {}
  spsclient : Option ClientObject := none
  ppsclient : Option ClientObject := none
  spsUpdateCount : Nat := 0
  ppsUpdateCount : Nat := 0

abbrev DecoderM (P : Type) := EStateM Fault (Decoder P)

variable {P : Type}

def Decoder.pic (s : Decoder P) (p : PicId) : Picture := s.store.pic p

def Decoder.modifyPic (p : PicId) (f : Picture → Picture) (s : Decoder P) : Decoder P :=
  { s with store := s.store.modifyPic p f }

def modifyPicture (p : PicId) (f : Picture → Picture) : DecoderM P Unit := modify (Decoder.modifyPic p f)

def Decoder.emit (e : Event) (s : Decoder P) : Decoder P := { s with store := s.store.emit e }

def emit (e : Event) : DecoderM P Unit := modify (Decoder.emit e)

def Decoder.mapStore (f : Store → Store) (s : Decoder P) : Decoder P := { s with store := f s.store }

-- a change that the process does not survive when it set `fault`
abbrev withChecked {α : Type} (f : Decoder P → α × Decoder P) : DecoderM P α :=
  checked (fun s => s.store.fault) f

abbrev withStore {α : Type} (f : Store → α × Store) : DecoderM P α :=
  withChecked fun s => ((f s.store).1, s.mapStore fun st => (f st).2)

abbrev modifyChecked (f : Decoder P → Decoder P) : DecoderM P Unit := withChecked fun s => ((), f s)

abbrev onStore (f : Store → Store) : DecoderM P Unit := modifyChecked (Decoder.mapStore f)

-- an access through a pointer that may be null
def deref {α : Type} (o : Option α) : DecoderM P α := valueOr .nullPointer o

def gAssert (b : Bool) : DecoderM P Unit := assertOr .assertion b

-- g_assert (priv->last_field == NULL)
def assertNoLastField : DecoderM P Unit := do
  if (← get).lastField.isNone then pure ()
  else do
    emit .lastFieldNotNull
    throw .assertion

def Decoder.setLastField (p : Option PicId) (s : Decoder P) : Decoder P := { s with lastField := p }

def Decoder.setCurrentPicture (p : Option PicId) (s : Decoder P) : Decoder P :=
  { s with currentPicture := p }

def Decoder.setCurrentFrame (frame : Option VideoCodecFrame) (s : Decoder P) : Decoder P :=
  { s with currentFrame := frame }

-- gst_clear_h264_picture on last_field
def clearLastField : DecoderM P Unit := do
  match (← get).lastField with
  | some p => modifyChecked fun s => (s.mapStore (Store.unref p)).setLastField none
  | none => pure ()

-- gst_clear_h264_picture on current_picture
def clearCurrentPicture : DecoderM P Unit := do
  match (← get).currentPicture with
  | some p => modifyChecked fun s => (s.mapStore (Store.unref p)).setCurrentPicture none
  | none => pure ()

def Decoder.getFrame (s : Decoder P) (n : Nat) : Option VideoCodecFrame :=
  s.frames.find? fun f => f.systemFrameNumber = n

-- a frame leaves the base class with the call `e`
def Decoder.removeFrame (n : Nat) (e : Event) (s : Decoder P) : Decoder P :=
  { s.emit e with frames := s.frames.filter fun f => f.systemFrameNumber ≠ n }

-- gst_video_decoder_release_frame
def releaseFrame (frame : VideoCodecFrame) : DecoderM P Unit :=
  modify (Decoder.removeFrame frame.systemFrameNumber (.releaseFrame frame.systemFrameNumber))

-- gst_video_decoder_drop_frame
def dropFrame (frame : VideoCodecFrame) : DecoderM P Unit :=
  modify (Decoder.removeFrame frame.systemFrameNumber (.dropFrame frame.systemFrameNumber))

namespace Decoder

variable (s : Decoder P)

@[simp] lemma emit_store (e : Event) : (s.emit e).store = s.store.emit e := rfl

@[simp] lemma emit_lastField (e : Event) : (s.emit e).lastField = s.lastField := rfl

@[simp] lemma emit_currentPicture (e : Event) :
    (s.emit e).currentPicture = s.currentPicture := rfl

@[simp] lemma modifyPic_store (p : PicId) (f : Picture → Picture) : (s.modifyPic p f).store = s.store.modifyPic p f := rfl

@[simp] lemma modifyPic_lastField (p : PicId) (f : Picture → Picture) : (s.modifyPic p f).lastField = s.lastField := rfl

@[simp] lemma modifyPic_currentPicture (p : PicId) (f : Picture → Picture) :
    (s.modifyPic p f).currentPicture = s.currentPicture := rfl

@[simp] lemma mapStore_store (f : Store → Store) : (s.mapStore f).store = f s.store := rfl

@[simp] lemma mapStore_lastField (f : Store → Store) : (s.mapStore f).lastField = s.lastField := rfl

@[simp] lemma mapStore_currentPicture (f : Store → Store) :
    (s.mapStore f).currentPicture = s.currentPicture := rfl

@[simp] lemma removeFrame_store (n : Nat) (e : Event) : (s.removeFrame n e).store = s.store.emit e := rfl

@[simp] lemma removeFrame_lastField (n : Nat) (e : Event) : (s.removeFrame n e).lastField = s.lastField := rfl

@[simp] lemma removeFrame_currentPicture (n : Nat) (e : Event) :
    (s.removeFrame n e).currentPicture = s.currentPicture := rfl

@[simp] lemma setLastField_store (p : Option PicId) : (s.setLastField p).store = s.store := rfl

@[simp] lemma setLastField_lastField (p : Option PicId) : (s.setLastField p).lastField = p := rfl

@[simp] lemma setLastField_currentPicture (p : Option PicId) :
    (s.setLastField p).currentPicture = s.currentPicture := rfl

@[simp] lemma setCurrentPicture_store (p : Option PicId) : (s.setCurrentPicture p).store = s.store := rfl

@[simp] lemma setCurrentPicture_lastField (p : Option PicId) : (s.setCurrentPicture p).lastField = s.lastField := rfl

@[simp] lemma setCurrentPicture_currentPicture (p : Option PicId) :
    (s.setCurrentPicture p).currentPicture = p := rfl

lemma mapStore_of_eq {s : Decoder P} {f : Store → Store} (h : f s.store = s.store) : s.mapStore f = s := by
  rw [mapStore, h]

end Decoder

variable (env : Env P)

-- gst_video_decoder_finish_frame
def finishFrame (frame : VideoCodecFrame) : DecoderM P GstFlowReturn := do
  let flow := env.finishFrame (← get).store.log frame.systemFrameNumber
  modify (Decoder.removeFrame frame.systemFrameNumber (.finishFrame frame.systemFrameNumber flow))
  return flow

def Decoder.activation (s : Decoder P) (slot : Nat) : Activation where
  pps := env.parser.pps s.parser slot
  sps := env.parser.sps s.parser (env.parser.pps s.parser slot).sequence

-- the SPS that `active_sps` points to
def Decoder.sps (s : Decoder P) : Option GstH264SPS := s.activeSps.map (env.parser.sps s.parser)

end VkVideoParser.H264
