import VkVideoParser.H265.Decoder
import VkVideoParser.H265.Shape

/-! What the decoder can do in one move. A phase says what has become of the current picture, which pictures
the running functions hold and which sequence has been begun; it is no part of the program. -/

namespace VkVideoParser.H265

/-- Why a local variable holds a picture. An `ended` one is to be stored, `output` is on its way out, of
`loose` the reference is to be dropped. `shown` holds no reference: the frame of that picture is to finish. -/
inductive Role
  | ended | output | loose | shown
  deriving DecidableEq, Repr

/-- The current picture: `made` before the decoder points to it, `failed` when it could not be started, `gone`
when finish_picture owns it. -/
inductive Current
  | none
  | made (p : PicId)
  | starting (p : PicId)
  | decoding (p : PicId)
  | failed (p : PicId)
  | gone (p : PicId)
  deriving DecidableEq, Repr

def Current.pic : Current → Option PicId
  | .none | .made _ => Option.none
  | .starting p | .decoding p | .failed p | .gone p => some p

structure Phase where
  current : Current := .none
  hold : List (Role × PicId) := []
  begun : Option GstH265SPS := none
  flushing : Bool := false

namespace Phase

def take (r : Role) (p : PicId) (k : Phase) : Phase := { k with hold := (r, p) :: k.hold }

def drop (r : Role) (p : PicId) (k : Phase) : Phase := { k with hold := k.hold.erase (r, p) }

def turn (r r' : Role) (p : PicId) (k : Phase) : Phase := (k.drop r p).take r' p

def setCurrent (c : Current) (k : Phase) : Phase := { k with current := c }

def setBegun (sps : Option GstH265SPS) (k : Phase) : Phase := { k with begun := sps }

def setFlushing (b : Bool) (k : Phase) : Phase := { k with flushing := b }

variable {k : Phase} {r r' : Role} {p q : PicId}

@[simp] lemma drop_take : (k.take r p).drop r p = k := by
  simp only [take, drop, List.erase_cons_head]

@[simp] lemma turn_take : (k.take r p).turn r r' p = k.take r' p := by
  simp only [turn, drop_take]

@[simp] lemma drop_turn : (k.turn r r' p).drop r' p = k.drop r p := by
  rw [turn, drop_take]

lemma drop_take_comm (h : (r, p) ≠ (r', q)) : (k.take r p).drop r' q = (k.drop r' q).take r p := by
  simp only [take, drop, List.erase_cons_tail (by simpa using h : ¬((r, p) == (r', q)) = true)]

-- a picture that is output leaves the hand that holds it
lemma shown_dropped : (((k.turn .output .loose p).take .shown p).drop .loose p).drop .shown p = k.drop .output p := by
  rw [drop_take_comm (by simp), drop_take, turn, drop_take]

lemma setCurrent_of_eq {c : Current} (h : k.current = c) : k.setCurrent c = k := by
  rw [setCurrent, ← h]

lemma setBegun_of_eq {b : Option GstH265SPS} (h : k.begun = b) : k.setBegun b = k := by
  rw [setBegun, ← h]

end Phase

variable {P : Type}

/-- Two states that differ in bookkeeping only. -/
structure SameCore (s t : Decoder P) : Prop where
  pic : t.store.pic = s.store.pic
  next : t.store.next = s.store.next
  dpb : t.store.dpb = s.store.dpb
  log : t.store.log = s.store.log
  frames : t.frames = s.frames
  systemFrameNumber : t.systemFrameNumber = s.systemFrameNumber
  refPicSets : t.refPicSets = s.refPicSets
  parser : t.parser = s.parser
  currentPicture : t.currentPicture = s.currentPicture
  width : t.width = s.width
  height : t.height = s.height
  cropRect : t.cropRect = s.cropRect
  fieldSeqFlag : t.fieldSeqFlag = s.fieldSeqFlag
  progressiveSourceFlag : t.progressiveSourceFlag = s.progressiveSourceFlag
  interlacedSourceFlag : t.interlacedSourceFlag = s.interlacedSourceFlag
  vkp : t.vkp = s.vkp
  spsclient : t.spsclient = s.spsclient
  ppsclient : t.ppsclient = s.ppsclient
  vpsclient : t.vpsclient = s.vpsclient
  spsUpdateCount : t.spsUpdateCount = s.spsUpdateCount
  spsMaxLatencyPictures : t.spsMaxLatencyPictures = s.spsMaxLatencyPictures
  prevTid0PicPocLsb : t.prevTid0PicPocLsb = s.prevTid0PicPocLsb
  prevTid0PicPocMsb : t.prevTid0PicPocMsb = s.prevTid0PicPocMsb

/-- A change of a picture that has not been started. -/
structure Edit (f : Picture → Picture) : Prop where
  refcount : ∀ x, (f x).refcount = x.refcount
  ref : ∀ x, (f x).ref = x.ref
  longTerm : ∀ x, (f x).longTerm = x.longTerm
  neededForOutput : ∀ x, (f x).neededForOutput = x.neededForOutput
  userData : ∀ x, (f x).userData = x.userData

-- INTERLACED, TFF and ONEFIELD
def Picture.bufferFlags (x : Picture) : Bool × Bool × Bool :=
  (x.bufferFlagInterlaced, x.bufferFlagTff, x.bufferFlagOnefield)

/-- The flags of the picture are those of its timing. -/
def Flagged (s : Decoder P) (x : Picture) : Prop :=
  x.bufferFlags = (setBufferFlags s.fieldSeqFlag { picStruct := x.picStruct }).bufferFlags

/-- The slice clears the DPB at random access only. -/
def GstH265Slice.ClearsRight (slice : GstH265Slice) : Prop :=
  slice.clearDpb → slice.nalu.type.isIrap ∧ slice.noRaslOutputFlag

/-- Every picture of the sets is a reference that is stored. -/
def SetsListed (s : Decoder P) : Prop := ∀ q ∈ s.refPicSets.pictures, q ∈ s.store.listedRefs

/-- The references that are stored have buffers, and are not too many. -/
structure Listable (s : Decoder P) : Prop where
  buffers : ∀ q ∈ s.store.listedRefs, (s.pic q).userData.isSome
  few : tooManyRefs s.store = false

/-- The results of the parser that are not announced. -/
inductive Unannounced : Event → Prop
  | vps (vps : GstH265VPS) : Unannounced (.parserParseVps .codecData false vps)
  | sps (carrier : Carrier) : Unannounced (.parserParseSps carrier none)
  | pps (ok : Bool) (pps : GstH265PPS) : Unannounced (.parserParsePps .codecData ok pps)

/-- Why a frame leaves the base class unfinished. -/
inductive FrameLeaves (k : Phase) (s : Decoder P) : Nat → Event → Prop
  | dropped (n : Nat) : FrameLeaves k s n (.dropFrame n)
  | empty (n : Nat) (hk : k.current = .none) : FrameLeaves k s n (.releaseFrame n .handleFrame)
  | cleared {p : PicId} (hp : (.output, p) ∈ k.hold) :
    FrameLeaves k s (s.pic p).systemFrameNumber (.releaseFrame (s.pic p).systemFrameNumber (.clearDpb p))
  | undisplayed {p : PicId} (hp : (.ended, p) ∈ k.hold) (ho : (s.pic p).outputFlag = false) :
    FrameLeaves k s (s.pic p).systemFrameNumber (.releaseFrame (s.pic p).systemFrameNumber (.finishPicture p))

/-- The order count of a picture, with the msb `msb`, as what is kept of an earlier picture gives it. -/
structure Counted (s : Decoder P) (info : OrderInfo) (msb : Int) : Prop where
  msb_eq : msb = if info.slice.nalu.type.isIrap && info.picture.noRaslOutputFlag then 0
    else picOrderCntMsb (maxPicOrderCntLsb info.sps) info.slice.header.picOrderCntLsb s.prevTid0PicPocLsb s.prevTid0PicPocMsb
  picOrderCnt : info.picture.picOrderCnt =
    if info.slice.nalu.type.isIdr then 0 else msb + info.slice.header.picOrderCntLsb

-- what calculate_poc keeps of the order count
def Decoder.noteOrder (info : OrderInfo) (msb : Int) (s : Decoder P) : Decoder P :=
  let lsb := info.slice.header.picOrderCntLsb
  let idr := info.slice.nalu.type.isIdr
  { s with
    pocMsb := if idr then 0 else msb
    pocLsb := if idr then 0 else lsb
    prevTid0PicPocLsb := if keepsPoc info.slice.nalu then lsb else if idr then 0 else s.prevTid0PicPocLsb
    prevTid0PicPocMsb :=
      if idr then 0 else if keepsPoc info.slice.nalu then msb else s.prevTid0PicPocMsb }

def Decoder.withLatency (n : Nat) (s : Decoder P) : Decoder P := { s with spsMaxLatencyPictures := n }

variable (env : Env P)

/-- The limit for the buffering; finish_picture sets none. -/
def BumpSite.maxDecPicBuffering (sps : GstH265SPS) : BumpSite → Nat
  | .dpbInit => highest sps sps.maxDecPicBufferingMinus1 + 1
  | .finishPicture => 0

/-- The limits for a bump are those of the active SPS. -/
def LimitsOf (s : Decoder P) (site : BumpSite) (maxNumReorderPics maxDecPicBuffering : Nat) : Prop :=
  ∃ sps, s.sps env = some sps ∧ maxNumReorderPics = highest sps sps.maxNumReorderPics ∧
    maxDecPicBuffering = site.maxDecPicBuffering sps

inductive Act : Phase × Decoder P → Phase × Decoder P → Prop
  | book {k s t} (h : SameCore s t) : Act (k, s) (k, t)
  | parsed {k s e} (parser : P) (h : Unannounced e) : Act (k, s) (k, (s.emit e).setParser parser)
  | updateVps {k s ok} (c : Carrier) (vps : GstH265VPS) (nalu : GstH265NalUnit) (parser : P)
    (hk : k.current = .none) (hparse : env.parser.parseVps s.parser nalu = (ok, vps, parser)) (hc : c = .codecData → ok) :
    Act (k, s) (k, ((s.emit (.parserParseVps c ok vps)).setParser parser).updateVps env vps)
  | updateSps {k s} (c : Carrier) (sps : GstH265SPS) (nalu : GstH265NalUnit) (parser : P)
    (hk : k.current = .none) (hparse : env.parser.parseSps s.parser nalu = (some sps, parser)) :
    Act (k, s) (k, ((s.emit (.parserParseSps c (some sps))).setParser parser).updateSps env sps)
  | updatePps {k s ok} (pps : GstH265PPS) (nalu : GstH265NalUnit) (parser : P)
    (hk : k.current = .none) (hparse : env.parser.parsePps s.parser nalu = (ok, pps, parser)) :
    Act (k, s) (k, ((s.emit (.parserParsePps .inBand ok pps)).setParser parser).updatePps env pps)
  | beginSequence {k s} (sps : GstH265SPS) (input : InputState) (hs : s.store.dpb.picList = []) :
    Act (k, s) (k.setBegun (some sps),
      s.beginSequence env sps (sequenceInfo env sps (s.vpsOf env sps) (maxDpbSizeOf sps) input))
  | configure {k s} (sps : GstH265SPS) (hk : k.begun = some sps) : Act (k, s) (k, s.configure sps)
  | processSps {k s n} (sps : GstH265SPS) (hk : k.begun = none ∨ k.begun = some sps) (hsame : sameSequence s sps)
    (hn : s.setLatency sps = s.withLatency n) :
    Act (k, s) (k.setBegun none, (s.withLatency n).emit (.processSps sps))
  | unhandledNALU {k s} (data : List UInt8) : Act (k, s) (k, s.emit (.unhandledNALU data))
  | showOrderCount {k s} (info : OrderInfo) (msb : Int) (h : Counted s info msb) :
    Act (k, s) (k, (s.emit (.orderCount info)).noteOrder info msb)
  | showBumping {k s} (site : BumpSite) (maxNumReorderPics maxDecPicBuffering : Nat)
    (h : LimitsOf env s site maxNumReorderPics maxDecPicBuffering) :
    Act (k, s) (k, s.emit (.bumping (s.bumpInfo env site maxNumReorderPics maxDecPicBuffering)))
  | flush {k s} : Act (k, s) (k.setFlushing true, s.emit .flush)
  | takeFrame {k s} (duration : Nat) : Act (k, s) (k, s.takeFrame duration)
  | removeFrame {k s n e} (h : FrameLeaves k s n e) : Act (k, s) (k, s.removeFrame n e)
  | finishFrame {k s} (p : PicId) (flow : GstFlowReturn) (hp : (.shown, p) ∈ k.hold) :
    Act (k, s) (k.drop .shown p, s.removeFrame (s.pic p).systemFrameNumber
      (.finishFrame (s.pic p).systemFrameNumber flow))
  | forgetShown {k s} (p : PicId) (hp : (.shown, p) ∈ k.hold) : Act (k, s) (k.drop .shown p, s)
  | clearFrames {k s} (hk : k.flushing) : Act (k, s) (k.setFlushing false, { s with frames := [] })
  | new {k s} (hk : k.current = .none) :
    Act (k, s) (k.setCurrent (.made s.store.next), s.mapStore fun st => st.pictureNew.2)
  | edit {k s} (p : PicId) {f : Picture → Picture} (hk : k.current = .made p ∨ k.current = .starting p) (hf : Edit f) :
    Act (k, s) (k, s.modifyPic p f)
  | adopt {k s} (p : PicId) (hk : k.current = .made p) :
    Act (k, s) (k.setCurrent (.starting p), s.setCurrentPicture (some p))
  | alloc {k s} (p : PicId) (hk : k.current = .starting p) (hv : (s.pic p).userData = none) :
    Act (k, s) (k, s.allocPicture env p)
  | markAllNonRef {k s} (p : PicId) (hk : k.current = .starting p) :
    Act (k, s) (k, s.mapStore Store.dpbMarkAllNonRef)
  | clearSets {k s} (p : PicId) (hk : k.current = .starting p) : Act (k, s) (k, s.clearSets)
  | deriveSets {k s} (p : PicId) (pocs : RefPocs) (hk : k.current = .starting p) (hs : s.refPicSets = {}) :
    Act (k, s) (k, s.deriveSets pocs)
  | start {k s c} (p : PicId) (slice : GstH265Slice) (vps : GstH265VPS) (vkpic : VkPic) (hk : k.current = .starting p)
    (hv : (s.pic p).userData = some vkpic) (hvps : (s.activation env slice.header.pps).vps = some vps)
    (hflags : Flagged s (s.pic p)) (hsets : SetsListed s) (hc : (c = .decoding p ∧ Listable s) ∨ c = .failed p) :
    Act (k, s) (k.setCurrent c, s.startPicture env p slice vps vkpic)
  | slice {k s} (p : PicId) (slice : GstH265Slice) (vkpic : VkPic) (hk : k.current = .decoding p)
    (hv : (s.pic p).userData = some vkpic) : Act (k, s) (k, s.decodeSlice env p slice vkpic)
  | endPicture {k s} (p : PicId) (vkpic : VkPic) (hk : k.current = .decoding p)
    (hv : (s.pic p).userData = some vkpic) :
    Act (k, s) ((k.take .ended p).setCurrent (.gone p), s.endPicture env p vkpic)
  | unrefCurrent {k s} (p : PicId)
    (hk : k.current = .starting p ∨ k.current = .decoding p ∨ k.current = .failed p) :
    Act (k, s) (k.setCurrent .none, (s.mapStore (Store.unref p)).setCurrentPicture none)
  | forgetCurrent {k s} (p : PicId) (hk : k.current = .gone p) :
    Act (k, s) (k.setCurrent .none, s.setCurrentPicture none)
  | deleteUnused {k s} : Act (k, s) (k, s.mapStore Store.dpbDeleteUnused)
  | add {k s} (p : PicId) (hp : (.ended, p) ∈ k.hold) : Act (k, s) (k.drop .ended p, s.mapStore (Store.storePicture p))
  | bump {k s} (drain : Bool) (p : PicId) (h : (s.store.dpbBump drain).1 = some p) :
    Act (k, s) (k.take .output p, s.mapStore fun st => (st.dpbBump drain).2)
  | display {k s} (p : PicId) (vkpic : VkPic) (frame : VideoCodecFrame) (hp : (.output, p) ∈ k.hold)
    (hv : (s.pic p).userData = some vkpic) (hf : s.getFrame (s.pic p).systemFrameNumber = some frame) :
    Act (k, s) ((k.turn .output .loose p).take .shown p, s.displayPicture env p vkpic frame)
  | unref {k s} {r : Role} (p : PicId) (hp : (r, p) ∈ k.hold) (hr : r = .output ∨ r = .loose) :
    Act (k, s) (k.drop r p, s.mapStore (Store.unref p))
  | dpbClear {k s} (h : s.store.dpbGetLowestOutputNeededPicture = none ∨ k.flushing) :
    Act (k, s) (k, s.mapStore Store.dpbClear)

variable {env} {x y : Phase × Decoder P}

/-- The phase knows the picture that the decoder points to. -/
def Linked (x : Phase × Decoder P) : Prop := x.2.currentPicture = x.1.current.pic

lemma Act.linked (h : Act env x y) (hx : Linked x) : Linked y := by
  cases h with
  | book h => exact h.currentPicture.trans hx
  | new hk | endPicture p vkpic hk =>
    have hx : _ = _ := hx
    rw [hk] at hx
    exact hx
  | start p slice vps vkpic hk hv hvps hflags hsets hc =>
    have hx : _ = _ := hx
    rw [hk] at hx
    rcases hc with ⟨rfl, -⟩ | rfl
    · exact hx
    · exact hx
  | adopt | unrefCurrent | forgetCurrent => rfl
  | alloc p hk hv =>
    unfold Decoder.allocPicture
    simp only
    split <;> exact hx
  | _ => exact hx

end VkVideoParser.H265
