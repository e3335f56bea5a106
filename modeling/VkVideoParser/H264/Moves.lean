import VkVideoParser.H264.Decoder
import VkVideoParser.H264.Shape

/-! What the decoder can do in one move. A phase says which pictures the running functions hold in
their local variables, what has become of the current one and which marking commands are done; it is no part of
the program. -/

namespace VkVideoParser.H264

/-- Why a local variable holds a picture. A `fresh` one is to be decoded, a `gap` one is to be stored,
and so is a `half` one, the other field of a frame that was split; `first` is the field a new one
completes; `ended`, `marking`, `marked` and `settled` are the stages of finish_picture; `output` is
on its way out, of `loose` and `keep` the reference is to be dropped. `shown` holds no reference: the
frame of that picture is to finish. -/
inductive Role
  | fresh | gap | half | first | ended | marking | marked | settled | keep | output | loose | shown
  deriving DecidableEq, Repr

/-- The current picture: `gone` when finish_picture owns it, `lost` when its decoding failed. -/
inductive Current
  | none
  | starting (p : PicId) (slice : GstH264Slice)
  | filled (p : PicId) (slice : GstH264Slice)
  | clearing (p : PicId) (slice : GstH264Slice)
  | decoding (p : PicId)
  | gone (p : PicId)
  | lost (p : PicId)

def Current.pic : Current → Option PicId
  | .none => Option.none
  | .starting p _ | .filled p _ | .clearing p _ | .decoding p | .gone p | .lost p => some p

structure Phase where
  current : Current := .none
  hold : List (Role × PicId) := []
  begun : Option GstH264SPS := none
  flushing : Bool := false
  done : List GstH264RefPicMarking := []

namespace Phase

def take (r : Role) (p : PicId) (k : Phase) : Phase := { k with hold := (r, p) :: k.hold }

def drop (r : Role) (p : PicId) (k : Phase) : Phase := { k with hold := k.hold.erase (r, p) }

def turn (r r' : Role) (p : PicId) (k : Phase) : Phase := (k.drop r p).take r' p

def setCurrent (c : Current) (k : Phase) : Phase := { k with current := c }

def setBegun (sps : Option GstH264SPS) (k : Phase) : Phase := { k with begun := sps }

def setFlushing (b : Bool) (k : Phase) : Phase := { k with flushing := b }

def setDone (done : List GstH264RefPicMarking) (k : Phase) : Phase := { k with done := done }

end Phase

variable {P : Type}

-- what the order count of a picture takes over from the last reference
def Decoder.prevRef (s : Decoder P) : Bool × Int × Int × Int × PictureField :=
  (s.prevRefHasMemmgmnt5, s.prevRefTopFieldOrderCnt, s.prevRefPicOrderCntMsb, s.prevRefPicOrderCntLsb, s.prevRefField)

-- and from the last picture
def Decoder.prevPicture (s : Decoder P) : Int × Bool × Int :=
  (s.prevFrameNum, s.prevHasMemmgmnt5, s.prevFrameNumOffset)

def Decoder.withFrameNumOffset (n : Int) (s : Decoder P) : Decoder P := { s with prevFrameNumOffset := n }

/-- Two states that differ in bookkeeping only. -/
structure SameCore (s t : Decoder P) : Prop where
  pic : t.store.pic = s.store.pic
  next : t.store.next = s.store.next
  picList : t.store.dpb.picList = s.store.dpb.picList
  maxNumFrames : t.store.dpb.maxNumFrames = s.store.dpb.maxNumFrames
  interlaced : t.store.dpb.interlaced = s.store.dpb.interlaced
  numOutputNeeded : t.store.dpb.numOutputNeeded = s.store.dpb.numOutputNeeded
  log : t.store.log = s.store.log
  frames : t.frames = s.frames
  systemFrameNumber : t.systemFrameNumber = s.systemFrameNumber
  parser : t.parser = s.parser
  lastField : t.lastField = s.lastField
  currentPicture : t.currentPicture = s.currentPicture
  currentSlice : t.currentSlice = s.currentSlice
  width : t.width = s.width
  height : t.height = s.height
  vkp : t.vkp = s.vkp
  spsclient : t.spsclient = s.spsclient
  ppsclient : t.ppsclient = s.ppsclient
  spsUpdateCount : t.spsUpdateCount = s.spsUpdateCount
  prevRef : t.prevRef = s.prevRef
  prevPicture : t.prevPicture = s.prevPicture

/-- What reference marking leaves as it is in every picture. -/
structure SameRole (x y : Picture) : Prop where
  refcount : y.refcount = x.refcount
  systemFrameNumber : y.systemFrameNumber = x.systemFrameNumber
  nalRefIdc : y.nalRefIdc = x.nalRefIdc
  idr : y.idr = x.idr
  decRefPicMarking : y.decRefPicMarking = x.decRefPicMarking
  neededForOutput : y.neededForOutput = x.neededForOutput
  nonexisting : y.nonexisting = x.nonexisting
  field : y.field = x.field
  secondField : y.secondField = x.secondField
  otherField : y.otherField = x.otherField
  bufferFlags : y.bufferFlags = x.bufferFlags
  userData : y.userData = x.userData

structure SameRoles (s t : Store) : Prop where
  role : ∀ q, SameRole (s.pic q) (t.pic q)
  next : t.next = s.next
  dpb : t.dpb = s.dpb
  log : t.log = s.log

/-- The order count of a frame is the lower one of its fields'; after an MMCO 5 the number is 0, and the count of the
top field not less. -/
structure Settled (x : Picture) : Prop where
  frame : x.field = .frame → x.picOrderCnt = min x.topFieldOrderCnt x.bottomFieldOrderCnt
  frameNum : x.memMgmt5 → x.frameNum = 0
  top : x.memMgmt5 → x.field ≠ .bottomField → 0 ≤ x.topFieldOrderCnt

/-- What becomes of the order counts of a picture that is marked: only an MMCO 5 changes them. -/
structure KeepsOrder (x y : Picture) : Prop where
  picOrderCntType : y.picOrderCntType = x.picOrderCntType
  picOrderCntMsb : y.picOrderCntMsb = x.picOrderCntMsb
  picOrderCntLsb : y.picOrderCntLsb = x.picOrderCntLsb
  frameNumOffset : y.frameNumOffset = x.frameNumOffset
  memMgmt5 : x.memMgmt5 → y.memMgmt5
  frameNum : y.memMgmt5 = false → y.frameNum = x.frameNum
  settled : Settled x → Settled y

/-- Reference marking, by which `resets` may get an MMCO 5. -/
structure Marks (resets : PicId → Prop) (s t : Store) : Prop extends SameRoles s t where
  refPic : ∀ q, ((s.pic q).isRef → (s.pic q).refPic) → (t.pic q).isRef → (t.pic q).refPic
  refPicKept : ∀ q, (s.pic q).refPic → (t.pic q).refPic
  order : ∀ q, KeepsOrder (s.pic q) (t.pic q)
  memMgmt5 : ∀ q, (t.pic q).memMgmt5 → (s.pic q).memMgmt5 ∨ resets q

/-- A change of the numbers by which slices name the references. -/
structure Numbers (s t : Store) : Prop extends SameRoles s t where
  ref : ∀ q, (t.pic q).ref = (s.pic q).ref
  refPic : ∀ q, (t.pic q).refPic = (s.pic q).refPic
  longTermFrameIdx : ∀ q, (t.pic q).longTermFrameIdx = (s.pic q).longTermFrameIdx
  picOrderCnt : ∀ q, (t.pic q).picOrderCnt = (s.pic q).picOrderCnt
  memMgmt5 : ∀ q, (t.pic q).memMgmt5 = (s.pic q).memMgmt5
  order : ∀ q, KeepsOrder (s.pic q) (t.pic q)

/-- A change of a picture that has not been started. -/
structure Edit (f : Picture → Picture) : Prop where
  refcount : ∀ x, (f x).refcount = x.refcount
  userData : ∀ x, (f x).userData = x.userData
  neededForOutput : ∀ x, (f x).neededForOutput = x.neededForOutput
  secondField : ∀ x, (f x).secondField = x.secondField
  otherField : ∀ x, (f x).otherField = x.otherField
  bufferFlags : ∀ x, (f x).bufferFlags = x.bufferFlags
  memMgmt5 : ∀ x, (f x).memMgmt5 = x.memMgmt5
  refPic : ∀ x, (x.isRef → x.refPic) → (f x).isRef → (f x).refPic
  ref : ∀ x, (f x).ref = x.ref ∨ (f x).ref = .shortTerm
  longTermFrameIdx : ∀ x, (f x).longTermFrameIdx = x.longTermFrameIdx

/-- The slice at hand begins the field that completes `q`. -/
structure BeginsPair (s : Decoder P) (q : PicId) : Prop where
  prevField : prevField s = some q
  fieldPic : s.currentSlice.header.fieldPicFlag
  opposite : sliceField s.currentSlice.header ≠ (s.pic q).field

/-- A first field is held back from the DPB, for its second one to come. -/
def DpbInfo.holdsBack (info : DpbInfo) : Bool :=
  !info.picture.isFrame && !info.picture.secondField && !info.picture.isRef && info.full

-- the marking commands of the picture reach an MMCO 5
def resetsOrder (m : GstH264DecRefPicMarking) : Bool :=
  m.adaptiveRefPicMarkingModeFlag &&
    ((m.refPicMarking.take 10).takeWhile fun m => m.memoryManagementControlOperation ≠ 0).any fun m =>
      m.memoryManagementControlOperation = 5

/-- The picture says what the slice that starts it says. -/
structure FromSlice (slice : GstH264Slice) (x : Picture) : Prop where
  idr : x.idr = slice.nalu.idrPicFlag
  isRef : slice.nalu.refIdc ≠ 0 → x.isRef
  field : x.field = sliceField slice.header
  decRefPicMarking : x.decRefPicMarking = slice.header.decRefPicMarking

/-- The stored pictures have the numbers by which the slice names them. -/
def Numbered (s : Decoder P) (p : PicId) (slice : GstH264Slice) : Prop :=
  ∀ q ∈ s.store.dpb.picList, picNums s.maxFrameNum slice.header.frameNum (s.pic p) (s.pic q) = s.pic q

/-- The order counts of the picture are those that calculate_poc gives it, with the SPS `sps`. -/
def Counted (s : Decoder P) (sps : GstH264SPS) (x : Picture) : Prop :=
  match x.picOrderCntType with
  | 0 => setPicOrderCnt (calculatePoc0 s sps x) = x
  | 1 => setPicOrderCnt (calculatePoc1 s.resetFrameNumOffset sps x) = x
  | 2 => setPicOrderCnt (calculatePoc2 s.resetFrameNumOffset x) = x
  | _ => False

/-- How reference marking takes a store to the next, and the commands done to the commands done then. -/
inductive MarksBy (env : Env P) (k : Phase) (s : Decoder P) (p : PicId) : List GstH264RefPicMarking → Store → Prop
  | idr (hp : (.marking, p) ∈ k.hold) (hidr : (s.pic p).idr) :
    MarksBy env k s p k.done (s.store.markIdr p (s.pic p).decRefPicMarking.longTermReferenceFlag)
  | window (hp : (.marking, p) ∈ k.hold → (s.pic p).idr = false ∧ (s.pic p).decRefPicMarking.adaptiveRefPicMarkingModeFlag = false) :
    MarksBy env k s p k.done (s.store.slidingWindowPictureMarking (s.sps env) p).2
  | command (m : GstH264RefPicMarking) (l : List GstH264RefPicMarking) (hp : (.marking, p) ∈ k.hold)
    (hidr : (s.pic p).idr = false) (ha : (s.pic p).decRefPicMarking.adaptiveRefPicMarkingModeFlag)
    (hl : (s.pic p).decRefPicMarking.refPicMarking.take 10 = k.done ++ m :: l)
    (h0 : m.memoryManagementControlOperation ≠ 0) :
    MarksBy env k s p (k.done ++ [m]) (s.store.performMemoryManagementControlOperation m p).2

/-- Reference marking has left the pictures as they are, by the sliding window or for an IDR picture. -/
def LeftByWindow (env : Env P) (s : Decoder P) (p : PicId) : Prop :=
  ∃ b : Store, b.dpb = s.store.dpb ∧ (∀ q, SameRole (b.pic q) (s.pic q)) ∧
    s.store.pic = (b.slidingWindowPictureMarking (s.sps env) p).2.pic

def LeftByIdr (s : Decoder P) (p : PicId) : Prop :=
  ∃ b : Store, b.dpb = s.store.dpb ∧
    s.store.pic = (b.markIdr p (s.pic p).decRefPicMarking.longTermReferenceFlag).pic

/-- What marked the references for the picture, if no commands did. -/
structure LeftByMarking (env : Env P) (s : Decoder P) (p : PicId) : Prop where
  idr : (s.pic p).idr → LeftByIdr s p
  window : (s.pic p).idr = false → (s.pic p).decRefPicMarking.adaptiveRefPicMarkingModeFlag = false →
    LeftByWindow env s p

-- the pictures marked as used for reference, now and as the log shows them
def Store.refs (s : Store) : Nat := s.dpb.picList.countP fun q => (s.pic q).isRef

def DpbInfo.refs (info : DpbInfo) : Nat := info.stored.countP fun u => u.2.1.isRef

/-- A reference comes to no more of them than the log shows as it was marked. -/
def RefsShown (s : Decoder P) (p : PicId) : Prop :=
  (s.pic p).isRef → s.store.refs = 0 ∨
    ∃ info, Event.removing info ∈ s.store.log ∧ info.picture.isRef ∧ s.store.refs ≤ info.refs

/-- What a DPB of frames has room for. -/
structure FrameRoom (s : Decoder P) (r : Role) (p : PicId) : Prop where
  free : r = .settled → (s.pic p).isRef = false → (s.pic p).secondField = false → s.store.dpbHasEmptyFrameBuffer
  refs : RefsShown s p

def DpbEmpty (s : Decoder P) : Prop := s.store.dpb.picList = [] ∧ s.lastField = none

/-- Why a frame leaves the base class unfinished. -/
inductive FrameLeaves (k : Phase) (s : Decoder P) : Nat → Event → Prop
  | dropped (n : Nat) : FrameLeaves k s n (.dropFrame n)
  | cleared {p c : PicId} {slice : GstH264Slice} (hp : (.output, p) ∈ k.hold)
    (hc : k.current = .clearing c slice) :
    FrameLeaves k s (s.pic p).systemFrameNumber (.releaseFrame (s.pic p).systemFrameNumber)
  | second {p q : PicId} (hp : (.marked, p) ∈ k.hold) (hs : (s.pic p).secondField)
    (hq : (s.pic p).otherField = some q)
    (hne : (s.pic p).systemFrameNumber ≠ (s.pic q).systemFrameNumber) :
    FrameLeaves k s (s.pic p).systemFrameNumber (.releaseFrame (s.pic p).systemFrameNumber)

/-- Why a picture held to be stored or output gets lost. -/
inductive Doomed (k : Phase) (s : Decoder P) (p : PicId) : Role → Prop
  | noFrame (h : s.getFrame (s.pic p).systemFrameNumber = none) : Doomed k s p .output
  | cleared {c : PicId} {slice : GstH264Slice} (h : k.current = .clearing c slice) : Doomed k s p .output
  | noFirst (hs : (s.pic p).secondField) (hl : s.lastField = none)
    (hg : goesToDpb s.store (s.pic p) = false) : Doomed k s p .settled
  | mismatch {q : PicId} (hf : (s.pic p).isFrame = false) (hl : s.lastField = some q)
    (hq : (s.pic p).secondField = false ∨ (s.pic p).otherField ≠ some q) : Doomed k s p .settled
  | paired {q : PicId} (hs : (s.pic p).secondField) (hq : (s.pic p).otherField = some q)
    (hout : (.output, q) ∈ k.hold) : Doomed k s p .settled

def Role.dropped (r : Role) : Prop := r = .fresh ∨ r = .first ∨ r = .keep ∨ r = .loose

def Role.stored (r : Role) : Prop := r = .gap ∨ r = .half ∨ r = .settled

def Current.starts (c : Current) (p : PicId) : Prop := ∃ slice, c = .starting p slice

-- pictures are marked between two pictures only
def Current.between (c : Current) : Prop := ∃ p, c.starts p ∨ c = .gone p

-- the decoder holds a reference of the picture
def Current.owned (c : Current) (p : PicId) : Prop :=
  c.starts p ∨ (∃ slice, c = .filled p slice ∨ c = .clearing p slice) ∨ c = .decoding p

/-- The frame `p` becomes a first field, the new picture `q` its second one. -/
def Decoder.splitPair (p q : PicId) (s : Decoder P) : Decoder P :=
  ((s.modifyPic q (linkSecondField p)).modifyPic p splitFirst).modifyPic q
    (splitOther ((s.modifyPic q (linkSecondField p)).pic p))

lemma refcount_splitFirst (x : Picture) : (splitFirst x).refcount = x.refcount := by
  unfold splitFirst
  split <;> rfl

lemma secondField_splitFirst (x : Picture) : (splitFirst x).secondField = x.secondField := by
  unfold splitFirst
  split <;> rfl

lemma nonexisting_splitFirst (x : Picture) : (splitFirst x).nonexisting = x.nonexisting := by
  unfold splitFirst
  split <;> rfl

lemma userData_splitFirst (x : Picture) : (splitFirst x).userData = x.userData := by
  unfold splitFirst
  split <;> rfl

-- what linking and splitting leave as it is in every picture
lemma splitPair_keeps {α : Type} {g : Picture → α} (hl : ∀ p x, g (linkSecondField p x) = g x)
    (hf : ∀ x, g (splitFirst x) = g x) (ho : ∀ y x, g (splitOther y x) = g x) (p q : PicId) (s : Decoder P)
    (a : PicId) : g ((s.splitPair p q).pic a) = g (s.pic a) := by
  have hstep : ∀ (f : Picture → Picture) (_ : ∀ x, g (f x) = g x) (b : PicId) (t : Store),
      g ((t.modifyPic b f).pic a) = g (t.pic a) := by
    intro f hf b t
    rw [Store.modifyPic_pic]
    split
    · rename_i h
      rw [hf, h]
    · rfl
  exact (hstep _ (ho _) q _).trans ((hstep _ hf p _).trans (hstep _ (hl p) q _))

variable (env : Env P)

inductive Act : Phase × Decoder P → Phase × Decoder P → Prop
  | book {k s t} (h : SameCore s t) : Act (k, s) (k, t)
  | parserParseSps {k s} : Act (k, s) (k, s.emit (.parserParseSps none))
  | parserParsePps {k s} : Act (k, s) (k, s.emit (.parserParsePps none))
  | updateSps {k s} (sps : GstH264SPS) : Act (k, s) (k, (s.emit (.parserParseSps (some sps))).updateSps env sps)
  | updatePps {k s} (pps : GstH264PPS) : Act (k, s) (k, (s.emit (.parserParsePps (some pps))).updatePps env pps)
  | setParser {k s} (parser : P) : Act (k, s) (k, s.setParser parser)
  | parserUpdateSps {k s} (sps : GstH264SPS) (ok : Bool) (hk : k.begun = none ∨ k.begun = some sps)
    (hsame : sameSequence s sps) (hsize : sizeInMbs sps ≠ 0) :
    Act (k, s) (k.setBegun none, s.emit (.parserUpdateSps sps ok))
  | beginSequence {k s} (sps : GstH264SPS) (input : InputState) (hs : DpbEmpty s) :
    Act (k, s) (k.setBegun (some sps), s.beginSequence env sps (sequenceInfo env sps (maxDpbSizeOf sps) input))
  | configure {k s} (sps : GstH264SPS) (hs : DpbEmpty s) (hk : k.begun = some sps) :
    Act (k, s) (k, s.configure sps (maxDpbSizeOf sps))
  | rejectSps {k s} (sps : GstH264SPS) (hk : k.begun = none ∨ k.begun = some sps) (hsame : sameSequence s sps) :
    Act (k, s) (k.setBegun none, s)
  | setSlice {k s} (slice : GstH264Slice) (hk : k.current = .none ∨ ∃ p, k.current = .decoding p) :
    Act (k, s) (k, s.setSlice slice)
  | unhandledNALU {k s} (data : List UInt8) : Act (k, s) (k, s.emit (.unhandledNALU data))
  | lastFieldNotNull {k s q} (hl : s.lastField = some q)
    (h : s.store.dpb.interlaced = false ∨ ∃ p, k.current = .gone p ∧ (s.pic p).isFrame) :
    Act (k, s) (k, s.emit .lastFieldNotNull)
  | showRemoving {k s} (p : PicId) (hp : (.gap, p) ∈ k.hold) (hn : (s.pic p).nonexisting)
    (hw : LeftByWindow env s p) : Act (k, s) (k, s.emit (.removing (s.dpbInfo p)))
  | rememberRef {k s} (p : PicId) (hp : (.marked, p) ∈ k.hold) (hk : k.current = .gone p) :
    Act (k, s) (k, (rememberRef (s.pic p) s).emit (.reference (s.pic p)))
  | rememberPicture {k s} (p : PicId) (hp : (.marked, p) ∈ k.hold) (hk : k.current = .gone p)
    (hm : (s.pic p).isRef → LeftByMarking env s p) :
    Act (k, s) (k, (rememberPicture (s.pic p) s).emit (.removing (s.dpbInfo p)))
  | resetFrameNumOffset {k s n} (hn : s.resetFrameNumOffset = s.withFrameNumOffset n) :
    Act (k, s) (k, s.withFrameNumOffset n)
  | showPlacing {k s} (p : PicId) (hp : (.settled, p) ∈ k.hold) :
    Act (k, s) (k, s.emit (.placing (s.dpbInfo p)))
  | showOrderCount {k s} (sps : GstH264SPS) (p : PicId) (hp : (.gap, p) ∈ k.hold ∨ k.current.starts p)
    (hk : ∃ c, k.current.starts c) (h : Counted s sps (s.pic p)) :
    Act (k, s) (k, s.emit (.orderCount { sps, maxFrameNum := s.maxFrameNum, picture := s.pic p }))
  | showBumping {k s} (info : BumpInfo) : Act (k, s) (k, s.emit (.bumping info))
  | flush {k s} : Act (k, s) (k.setFlushing true, s.emit .flush)
  | takeFrame {k s} (duration : Nat) : Act (k, s) (k, s.takeFrame duration)
  | removeFrame {k s n e} (h : FrameLeaves k s n e) : Act (k, s) (k, s.removeFrame n e)
  | finishFrame {k s} (p : PicId) (flow : GstFlowReturn) (hp : (.shown, p) ∈ k.hold) :
    Act (k, s) (k.drop .shown p, s.removeFrame (s.pic p).systemFrameNumber
      (.finishFrame (s.pic p).systemFrameNumber flow))
  | forgetShown {k s} (p : PicId) (hp : (.shown, p) ∈ k.hold) : Act (k, s) (k.drop .shown p, s)
  | clearFrames {k s} (hk : k.flushing) : Act (k, s) (k.setFlushing false, { s with frames := [] })
  | new {k s} (r : Role) (hr : r = .fresh ∨ r = .gap) :
    Act (k, s) (k.take r s.store.next, s.mapStore fun st => st.pictureNew.2)
  | alloc {k s} (p : PicId) (hp : (.fresh, p) ∈ k.hold) (hv : (s.pic p).userData = none) :
    Act (k, s) (k, s.allocPicture env p)
  | edit {k s} (p : PicId) {f : Picture → Picture}
    (hp : (.fresh, p) ∈ k.hold ∨ (.gap, p) ∈ k.hold ∨ k.current.starts p) (hf : Edit f)
    (hfield : k.current.starts p ∨ (f (s.pic p)).field = (s.pic p).field)
    (hn : ((.gap, p) ∈ k.hold ∧ (f (s.pic p)).nonexisting) ∨ (f (s.pic p)).nonexisting = (s.pic p).nonexisting) : Act (k, s) (k, s.modifyPic p f)
  | linkSecond {k s} (p q : PicId) (hq : (.fresh, q) ∈ k.hold) (hp : BeginsPair s p) :
    Act (k, s) (k, s.modifyPic q (linkSecondField p))
  | splitPair {k s} {r : Role} (p q : PicId) (hp : (r, p) ∈ k.hold) (hr : r = .gap ∨ r = .settled)
    (hq : (.fresh, q) ∈ k.hold) (hf : (s.pic p).isFrame) (hi : s.store.dpb.interlaced)
    (hs : (s.pic q).secondField = false) (hn : r = .gap → (s.pic p).nonexisting)
    (hidx : (s.pic q).longTermFrameIdx = 0) (hshown : r = .settled → ∃ info, Event.placing info ∈ s.store.log ∧
      info.interlaced ∧ info.picture.isFrame ∧ info.picture.ref = (s.pic p).ref ∧
      info.picture.longTermFrameIdx = (s.pic p).longTermFrameIdx) :
    Act (k, s) (k.turn .fresh .half q, s.splitPair p q)
  | borrow {k s} (q : PicId) (hq : prevField s = some q) :
    Act (k, s) (k.take .first q, s.mapStore (Store.ref q))
  | keep {k s} (p : PicId) (hp : (.settled, p) ∈ k.hold) :
    Act (k, s) (k.take .keep p, s.mapStore (Store.ref p))
  | unref {k s} {r : Role} (p : PicId) (hp : (r, p) ∈ k.hold) (hr : r.dropped)
    (hs : r = .fresh → (s.pic p).secondField = false) : Act (k, s) (k.drop r p, s.mapStore (Store.unref p))
  | leak {k s} (p : PicId) (hp : (.gap, p) ∈ k.hold) : Act (k, s) (k.drop .gap p, s)
  | adopt {k s} (p : PicId) (hp : (.fresh, p) ∈ k.hold) (hk : k.current = .none)
    (hframe : sliceField s.currentSlice.header = .frame → s.lastField = none)
    (hpair : (s.pic p).secondField → ∃ q, (s.pic p).otherField = some q ∧ BeginsPair s q)
    (hh : k.hold = [(.fresh, p)]) :
    Act (k, s) ((k.drop .fresh p).setCurrent (.starting p s.currentSlice), s.setCurrentPicture (some p))
  | fill {k s} (p : PicId) (slice : GstH264Slice) (hk : k.current = .starting p slice)
    (h : FromSlice slice (s.pic p)) (hc : ∃ info l, s.store.log = .orderCount info :: l ∧ info.picture = s.pic p) :
    Act (k, s) (k.setCurrent (.filled p slice), s)
  | clear {k s} (p : PicId) (slice : GstH264Slice) (hk : k.current = .filled p slice)
    (hidr : slice.nalu.idrPicFlag) (hno : slice.header.decRefPicMarking.noOutputOfPriorPicsFlag) :
    Act (k, s) (k.setCurrent (.clearing p slice), s)
  | start {k s} (p : PicId) (slice : GstH264Slice) (vkpic : VkPic)
    (hk : k.current = .filled p slice ∨ k.current = .clearing p slice)
    (hv : (s.pic p).userData = some vkpic) (hidr : slice.nalu.idrPicFlag → DpbEmpty s) (hnum : Numbered s p slice) :
    Act (k, s) (k.setCurrent (.decoding p), s.startPicture env p slice vkpic)
  | slice {k s} (p : PicId) (slice : GstH264Slice) (vkpic : VkPic) (hk : k.current = .decoding p)
    (hv : (s.pic p).userData = some vkpic) : Act (k, s) (k, s.decodeSlice env p slice vkpic)
  | endPicture {k s} (p : PicId) (vkpic : VkPic) (hk : k.current = .decoding p)
    (hv : (s.pic p).userData = some vkpic) (hok : s.decodeReply env vkpic) :
    Act (k, s) ((k.take .ended p).setCurrent (.gone p), s.endPicture env p vkpic)
  | losePicture {k s} (p : PicId) (vkpic : VkPic) (hk : k.current = .decoding p)
    (hv : (s.pic p).userData = some vkpic) (hok : s.decodeReply env vkpic = false) :
    Act (k, s) (k.setCurrent (.lost p), s.endPicture env p vkpic)
  | editLost {k s} (p : PicId) {f : Picture → Picture} (hk : k.current = .lost p) (hf : Edit f)
    (hfield : ∀ x, (f x).field = x.field) :
    Act (k, s) (k, s.modifyPic p f)
  | unrefCurrent {k s} (p : PicId) (hk : k.current.owned p) :
    Act (k, s) (k.setCurrent .none, (s.mapStore (Store.unref p)).setCurrentPicture none)
  | forgetCurrent {k s} (hk : k.current = .none ∨ ∃ p, k.current = .gone p ∨ k.current = .lost p) :
    Act (k, s) (k.setCurrent .none, s.setCurrentPicture none)
  | number {k s st} (h : Numbers s.store st) : Act (k, s) (k, s.mapStore fun _ => st)
  | beginMarking {k s} (p : PicId) (hp : (.ended, p) ∈ k.hold) (hh : k.hold = [(.ended, p)]) (hr : (s.pic p).isRef) :
    Act (k, s) ((k.turn .ended .marking p).setDone [], s)
  | mark {k s done st} (p : PicId) (hp : (.gap, p) ∈ k.hold ∨ (.marking, p) ∈ k.hold) (hk : k.current.between)
    (h : Marks (fun q => (.marking, q) ∈ k.hold) s.store st) (hby : MarksBy env k s p done st) :
    Act (k, s) (k.setDone done, s.mapStore fun _ => st)
  | endMarking {k s done} (p : PicId) (hp : (.marking, p) ∈ k.hold)
    (h : (s.pic p).idr = false → resetsOrder (s.pic p).decRefPicMarking → (s.pic p).memMgmt5) :
    Act (k, s) ((k.turn .marking .marked p).setDone done, s)
  | skipMarking {k s} (p : PicId) (hp : (.ended, p) ∈ k.hold) (h : (s.pic p).isRef = false) :
    Act (k, s) (k.turn .ended .marked p, s)
  | deleteUnused {k s} : Act (k, s) (k, s.mapStore Store.dpbDeleteUnused)
  | settle {k s} (p : PicId) (hp : (.marked, p) ∈ k.hold) (h5 : (s.pic p).memMgmt5 = false ∨ DpbEmpty s) :
    Act (k, s) (k.turn .marked .settled p, s)
  | bump {k s} (drain : Bool) (p : PicId) (h : (s.store.dpbBump drain).1 = some p) :
    Act (k, s) (k.take .output p, s.mapStore fun st => (st.dpbBump drain).2)
  | display {k s} (p : PicId) (vkpic : VkPic) (frame : VideoCodecFrame) (hp : (.output, p) ∈ k.hold)
    (hv : (s.pic p).userData = some vkpic) (hf : s.getFrame (s.pic p).systemFrameNumber = some frame) :
    Act (k, s) ((k.turn .output .loose p).take .shown p, s.displayPicture env p vkpic frame)
  | doom {k s} {r : Role} (p : PicId) (hp : (r, p) ∈ k.hold) (h : Doomed k s p r) :
    Act (k, s) (k.turn r .loose p, s)
  | unrefLast {k s} (q : PicId) (hq : s.lastField = some q) :
    Act (k, s) (k, (s.mapStore (Store.unref q)).setLastField none)
  | dpbClear {k s} (h : s.store.dpbGetLowestOutputNeededPicture = none ∨ k.flushing) :
    Act (k, s) (k, s.mapStore Store.dpbClear)
  | add {k s} {r : Role} (p : PicId) (hp : (r, p) ∈ k.hold) (hr : r.stored)
    (hroom : (s.pic p).otherField = none → s.store.Room)
    (hlast : ∀ q, s.lastField = some q → (s.pic p).otherField ≠ some q)
    (hhalf : r = .half → ∀ q, (s.pic p).otherField = some q → q ∈ s.store.dpb.picList)
    (hfirst : r = .settled → (s.pic p).secondField → ∀ q, (s.pic p).otherField = some q → (s.pic q).refcount ≠ 0 ∧
      k.current = .gone p ∧ ∀ m ∈ k.hold, m.2 = p)
    (hframes : r ≠ .half → s.store.dpb.interlaced = false → FrameRoom s r p)
    (hmissing : r = .gap → (s.pic p).nonexisting) :
    Act (k, s) (k.drop r p, s.mapStore (Store.addPicture p))
  | addLast {k s} {r : Role} (p q : PicId) (hp : (r, p) ∈ k.hold) (hr : r.stored) (hq : s.lastField = some q)
    (hpq : (s.pic p).otherField = some q) (hi : s.store.dpb.interlaced)
    (hroom : s.store.Room ∨ (r = .settled ∧ (s.pic p).isRef = false ∧ (s.pic q).isRef)) :
    Act (k, s) (k, (s.mapStore (Store.addPicture q)).setLastField none)
  | cache {k s} (p : PicId) (hp : (.settled, p) ∈ k.hold) (hf : (s.pic p).isFrame = false)
    (hs : (s.pic p).secondField = false) (hl : s.lastField = none)
    (hg : goesToDpb s.store (s.pic p) = false) (hk : k.current = .gone p)
    (hshown : ∃ info, Event.placing info ∈ s.store.log ∧ info.holdsBack ∧
      info.interlaced = s.store.dpb.interlaced) :
    Act (k, s) (k.drop .settled p, s.setLastField (some p))
  | takeLast {k s} (p q : PicId) (hp : (.settled, p) ∈ k.hold) (hs : (s.pic p).secondField)
    (hpq : (s.pic p).otherField = some q) (hl : s.lastField = some q) :
    Act (k, s) (k.take .output q, s.setLastField none)
  | link {k s} (p q : PicId) (hp : (.settled, p) ∈ k.hold) (hq : (.output, q) ∈ k.hold)
    (hs : (s.pic p).secondField) (hpq : (s.pic p).otherField = some q) (hst : q ∉ s.store.dpb.picList) :
    Act (k, s) (k, s.modifyPic q (linkField p))
  | direct {k s} (p : PicId) (hp : (.settled, p) ∈ k.hold) (hf : (s.pic p).isFrame) (hl : s.lastField = none)
    (hg : goesToDpb s.store (s.pic p) = false) : Act (k, s) (k.turn .settled .output p, s)

end VkVideoParser.H264
