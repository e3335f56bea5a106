import VkVideoParser.H265.Element

/-! The order count of a picture and the reference picture sets: gsth265decoder.c. -/

namespace VkVideoParser.H265

variable {P : Type} (env : Env P)

def maxPicOrderCntLsb (sps : GstH265SPS) : Int := 2 ^ (sps.log2MaxPicOrderCntLsbMinus4 + 4)

-- 8.3.1
def picOrderCntMsb (maxLsb lsb prevLsb prevMsb : Int) : Int :=
  if lsb < prevLsb ∧ maxLsb / 2 ≤ prevLsb - lsb then prevMsb + maxLsb
  else if prevLsb < lsb ∧ maxLsb / 2 < lsb - prevLsb then prevMsb - maxLsb
  else prevMsb

-- the order count is kept for the pictures of the lowest sub-layer that others may refer to
def keepsPoc (nalu : GstH265NalUnit) : Bool :=
  nalu.temporalIdPlus1 = 1 && !nalu.type.isRasl && !nalu.type.isRadl && nalu.type.isRef

def setPoc (poc lsb : Int) (x : Picture) : Picture := { x with picOrderCnt := poc, picOrderCntLsb := lsb }

def Decoder.keepPoc (lsb msb : Int) (s : Decoder P) : Decoder P :=
  { s with prevTid0PicPocLsb := lsb, prevTid0PicPocMsb := msb }

def Decoder.setPocState (msb lsb : Int) (s : Decoder P) : Decoder P := { s with pocMsb := msb, pocLsb := lsb }

-- what the proofs see of the order count
def showOrderCount (sps : GstH265SPS) (slice : GstH265Slice) (p : PicId) : DecoderM P Unit := modify fun s =>
  s.emit (.orderCount { sps, slice, picture := s.pic p })

-- gst_h265_decoder_calculate_poc
def calculatePoc (sps : GstH265SPS) (slice : GstH265Slice) (p : PicId) : DecoderM P Unit := do
  let s ← get
  let lsb := slice.header.picOrderCntLsb
  let msb :=
    if slice.nalu.type.isIrap && (s.pic p).noRaslOutputFlag then 0
    else picOrderCntMsb (maxPicOrderCntLsb sps) lsb s.prevTid0PicPocLsb s.prevTid0PicPocMsb
  if slice.nalu.type.isIdr then do
    modifyPicture p (setPoc 0 0)
    modify (Decoder.setPocState 0 0)
    modify (Decoder.keepPoc 0 0)
    showOrderCount sps slice p
    if keepsPoc slice.nalu then modify (Decoder.keepPoc lsb 0) else pure ()
  else do
    modifyPicture p (setPoc (msb + lsb) lsb)
    modify (Decoder.setPocState msb lsb)
    showOrderCount sps slice p
    if keepsPoc slice.nalu then modify (Decoder.keepPoc lsb msb) else pure ()

/-- The order counts of the pictures that a slice refers to, `Curr` those that the picture itself may use.
A long-term picture is named by its lsb only, unless the flag says otherwise. -/
structure RefPocs where
  stCurrBefore : List Int := []
  stCurrAfter : List Int := []
  stFoll : List Int := []
  ltCurr : List (Int × Bool) := []
  ltFoll : List (Int × Bool) := []
  deriving DecidableEq, Repr

def shortTermPocs (poc : Int) (used : Bool) (pics : List StRefPic) : List Int :=
  (pics.filter fun x => x.usedByCurrPic == used).map fun x => poc + x.deltaPoc

/-- An entry of the long-term sets of a slice. -/
structure LtRefPic where
  pocLsb : Int
  usedByCurrPic : Bool
  deltaPocMsbPresentFlag : Bool
  deltaPocMsbCycle : Int
  deriving DecidableEq, Repr

def ltRefPic (sps : GstH265SPS) (header : GstH265SliceHdr) (i : Nat) : LtRefPic :=
  let present := header.deltaPocMsbPresentFlag.getD i false
  let cycle := header.deltaPocMsbCycleLt.getD i 0
  if i < header.numLongTermSps then
    { pocLsb := sps.ltRefPicPocLsbSps.getD (header.ltIdxSps.getD i 0) 0
      usedByCurrPic := sps.usedByCurrPicLtSpsFlag.getD (header.ltIdxSps.getD i 0) false
      deltaPocMsbPresentFlag := present
      deltaPocMsbCycle := cycle }
  else
    { pocLsb := header.pocLsbLt.getD i 0
      usedByCurrPic := header.usedByCurrPicLtFlag.getD i false
      deltaPocMsbPresentFlag := present
      deltaPocMsbCycle := cycle }

-- (7-38): the cycles add up within the entries of the SPS and within those of the slice
def accumulateCycles (numLongTermSps : Nat) : Nat → Int → List LtRefPic → List LtRefPic
  | _, _, [] => []
  | i, prev, x :: l =>
    let cycle := if i = 0 ∨ i = numLongTermSps then x.deltaPocMsbCycle else int32 (x.deltaPocMsbCycle + prev)
    { x with deltaPocMsbCycle := cycle } :: accumulateCycles numLongTermSps (i + 1) cycle l

def ltRefPics (sps : GstH265SPS) (header : GstH265SliceHdr) : List LtRefPic :=
  accumulateCycles header.numLongTermSps 0 0
    ((List.range (header.numLongTermSps + header.numLongTermPics)).map (ltRefPic sps header))

-- (8-5), in 32-bit arithmetic
def longTermPoc (maxLsb poc lsb : Int) (x : LtRefPic) : Int × Bool :=
  (if x.deltaPocMsbPresentFlag then int32 (x.pocLsb + poc - x.deltaPocMsbCycle * maxLsb - lsb) else x.pocLsb,
    x.deltaPocMsbPresentFlag)

def longTermPocs (sps : GstH265SPS) (header : GstH265SliceHdr) (poc : Int) (used : Bool) : List (Int × Bool) :=
  ((ltRefPics sps header).filter fun x => x.usedByCurrPic == used).map
    (longTermPoc (maxPicOrderCntLsb sps) poc header.picOrderCntLsb)

-- the short-term set that the slice carries, or names in the SPS
def shortTermRefPicSet (sps : GstH265SPS) (header : GstH265SliceHdr) : Option GstH265ShortTermRefPicSet :=
  if !header.shortTermRefPicSetSpsFlag then some header.shortTermRefPicSets
  else if sps.numShortTermRefPicSets ≠ 0 then
    some (sps.shortTermRefPicSet.getD header.shortTermRefPicSetIdx {})
  else none

def refPocs (sps : GstH265SPS) (header : GstH265SliceHdr) (stRefPic : GstH265ShortTermRefPicSet) (poc : Int) :
    RefPocs where
  stCurrBefore := shortTermPocs poc true stRefPic.negativePics
  stCurrAfter := shortTermPocs poc true stRefPic.positivePics
  stFoll := shortTermPocs poc false stRefPic.negativePics ++ shortTermPocs poc false stRefPic.positivePics
  ltCurr := longTermPocs sps header poc true
  ltFoll := longTermPocs sps header poc false

namespace Store

-- the picture of a long-term set
def dpbGetLtRef (s : Store) (x : Int × Bool) : Option PicId :=
  if x.2 then s.dpbGetRefByPoc x.1 else s.dpbGetRefByPocLsb x.1

def setLongTerm (p : PicId) (s : Store) : Store := s.modifyPic p fun x => { x with ref := true, longTerm := true }

-- has_entry_in_rps
def hasEntryInRps (s : Store) (p : PicId) (set : List (Option PicId)) : Bool :=
  (set.filterMap id).any fun q => (s.pic q).picOrderCnt = (s.pic p).picOrderCnt

def inRefPicSets (s : Store) (sets : RefPicSets) (p : PicId) : Bool :=
  s.hasEntryInRps p sets.ltCurr || s.hasEntryInRps p sets.ltFoll || s.hasEntryInRps p sets.stCurrAfter ||
    s.hasEntryInRps p sets.stCurrBefore || s.hasEntryInRps p sets.stFoll

def dropRef (p : PicId) (s : Store) : Store := s.modifyPic p fun x => { x with ref := false, longTerm := false }

-- the pictures of no set are no references any more
def markUnused (sets : RefPicSets) (s : Store) : Store :=
  (s.dpb.picList.filter fun p => !s.inRefPicSets sets p).foldl (fun s p => s.dropRef p) s

-- gst_h265_decoder_clear_ref_pic_sets
def clearRefPicSets (sets : RefPicSets) (s : Store) : Store := s.unrefAll sets.pictures

-- (8-6): the sets come with a reference of each of their pictures
def deriveLongTerm (pocs : RefPocs) (s : Store) : RefPicSets × Store :=
  let ltCurr := pocs.ltCurr.map s.dpbGetLtRef
  let ltFoll := pocs.ltFoll.map s.dpbGetLtRef
  let pictures := (ltCurr ++ ltFoll).filterMap id
  ({ ltCurr, ltFoll }, pictures.foldl (fun s p => s.setLongTerm p) (s.refAll pictures))

-- (8-7)
def deriveShortTerm (pocs : RefPocs) (sets : RefPicSets) (s : Store) : RefPicSets × Store :=
  let stCurrBefore := pocs.stCurrBefore.map s.dpbGetShortRefByPoc
  let stCurrAfter := pocs.stCurrAfter.map s.dpbGetShortRefByPoc
  let stFoll := pocs.stFoll.map s.dpbGetShortRefByPoc
  ({ sets with stCurrBefore, stCurrAfter, stFoll }, s.refAll ((stCurrBefore ++ stCurrAfter ++ stFoll).filterMap id))

-- gst_h265_decoder_derive_and_mark_rps, once the sets of the picture before are cleared
def deriveAndMarkRps (pocs : RefPocs) (s : Store) : RefPicSets × Store :=
  let (sets, s) := s.deriveLongTerm pocs
  let (sets, s) := s.deriveShortTerm pocs sets
  (sets, s.markUnused sets)

end Store

def Decoder.clearSets (s : Decoder P) : Decoder P :=
  { s.mapStore (Store.clearRefPicSets s.refPicSets) with refPicSets := {} }

def Decoder.deriveSets (pocs : RefPocs) (s : Decoder P) : Decoder P :=
  { s.mapStore (fun st => (st.deriveAndMarkRps pocs).2) with refPicSets := (s.store.deriveAndMarkRps pocs).1 }

def deriveAndMarkRps (pocs : RefPocs) : DecoderM P Unit := do
  modifyChecked Decoder.clearSets
  modifyChecked (Decoder.deriveSets pocs)

-- gst_h265_decoder_prepare_rps
def prepareRps (sps : GstH265SPS) (slice : GstH265Slice) (p : PicId) : DecoderM P Unit := do
  let x := (← get).pic p
  if slice.nalu.type.isIrap && x.noRaslOutputFlag then onStore Store.dpbMarkAllNonRef else pure ()
  if slice.nalu.type.isIdr then deriveAndMarkRps {}
  else
    match shortTermRefPicSet sps slice.header with
    | none => throw .assertion
    | some stRefPic => deriveAndMarkRps (refPocs sps slice.header stRefPic x.picOrderCnt)

-- the part of it that comes after the unmarking of an IRAP
def deriveRps (sps : GstH265SPS) (slice : GstH265Slice) (picOrderCnt : Int) : DecoderM P Unit :=
  if slice.nalu.type.isIdr then deriveAndMarkRps {}
  else
    match shortTermRefPicSet sps slice.header with
    | none => throw .assertion
    | some stRefPic => deriveAndMarkRps (refPocs sps slice.header stRefPic picOrderCnt)

end VkVideoParser.H265
