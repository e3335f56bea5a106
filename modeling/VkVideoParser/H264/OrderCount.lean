import VkVideoParser.H264.State

/-! Picture order counts: gst_h264_decoder_calculate_poc, one definition for each type. -/

namespace VkVideoParser.H264

variable {P : Type}

-- 8.2.1.1
def prevPicOrderCnt (s : Decoder P) (x : Picture) : Int × Int :=
  if x.idr then (0, 0)
  else if s.prevRefHasMemmgmnt5 then
    if s.prevRefField ≠ .bottomField then (0, s.prevRefTopFieldOrderCnt) else (0, 0)
  else (s.prevRefPicOrderCntMsb, s.prevRefPicOrderCntLsb)

def picOrderCntMsb (maxLsb prevMsb prevLsb lsb : Int) : Int :=
  if lsb < prevLsb ∧ maxLsb / 2 ≤ prevLsb - lsb then prevMsb + maxLsb
  else if prevLsb < lsb ∧ maxLsb / 2 < lsb - prevLsb then prevMsb - maxLsb
  else prevMsb

def calculatePoc0 (s : Decoder P) (sps : GstH264SPS) (x : Picture) : Picture :=
  let (prevMsb, prevLsb) := prevPicOrderCnt s x
  let msb := picOrderCntMsb (2 ^ (sps.log2MaxPicOrderCntLsbMinus4 + 4)) prevMsb prevLsb x.picOrderCntLsb
  match x.field with
  | .frame =>
    { x with
      picOrderCntMsb := msb
      topFieldOrderCnt := msb + x.picOrderCntLsb
      bottomFieldOrderCnt := msb + x.picOrderCntLsb + x.deltaPicOrderCntBottom }
  | .topField => { x with picOrderCntMsb := msb, topFieldOrderCnt := msb + x.picOrderCntLsb }
  | .bottomField => { x with picOrderCntMsb := msb, bottomFieldOrderCnt := msb + x.picOrderCntLsb }

-- after MMCO 5 types 1 and 2 forget the offset
def Decoder.resetFrameNumOffset (s : Decoder P) : Decoder P :=
  if s.prevHasMemmgmnt5 then { s with prevFrameNumOffset := 0 } else s

def frameNumOffset (s : Decoder P) (x : Picture) : Int :=
  if x.idr then 0
  else if x.frameNum < s.prevFrameNum then s.prevFrameNumOffset + s.maxFrameNum
  else s.prevFrameNumOffset

-- 8.2.1.2
def expectedPicOrderCnt (sps : GstH264SPS) (nalRefIdc : Nat) (frameNum offset : Int) : Int :=
  let absFrameNum := if sps.numRefFramesInPicOrderCntCycle ≠ 0 then offset + frameNum else 0
  let absFrameNum := if nalRefIdc = 0 ∧ 0 < absFrameNum then absFrameNum - 1 else absFrameNum
  let cycle := sps.numRefFramesInPicOrderCntCycle
  let expected :=
    if 0 < absFrameNum then
      (absFrameNum - 1) / cycle * (sps.offsets cycle).sum +
        (sps.offsets (((absFrameNum - 1) % cycle).toNat + 1)).sum
    else 0
  if nalRefIdc = 0 then expected + sps.offsetForNonRefPic else expected

def calculatePoc1 (s : Decoder P) (sps : GstH264SPS) (x : Picture) : Picture :=
  let offset := frameNumOffset s x
  let expected := expectedPicOrderCnt sps x.nalRefIdc x.frameNum offset
  match x.field with
  | .frame =>
    { x with
      frameNumOffset := offset
      topFieldOrderCnt := expected + x.deltaPicOrderCnt0
      bottomFieldOrderCnt :=
        expected + x.deltaPicOrderCnt0 + sps.offsetForTopToBottomField + x.deltaPicOrderCnt1 }
  | .topField => { x with frameNumOffset := offset, topFieldOrderCnt := expected + x.deltaPicOrderCnt0 }
  | .bottomField =>
    { x with
      frameNumOffset := offset
      bottomFieldOrderCnt := expected + sps.offsetForTopToBottomField + x.deltaPicOrderCnt0 }

-- 8.2.1.3
def calculatePoc2 (s : Decoder P) (x : Picture) : Picture :=
  let offset := frameNumOffset s x
  let temp :=
    if x.idr then 0
    else if x.nalRefIdc = 0 then 2 * (offset + x.frameNum) - 1
    else 2 * (offset + x.frameNum)
  match x.field with
  | .frame => { x with frameNumOffset := offset, topFieldOrderCnt := temp, bottomFieldOrderCnt := temp }
  | .topField => { x with frameNumOffset := offset, topFieldOrderCnt := temp }
  | .bottomField => { x with frameNumOffset := offset, bottomFieldOrderCnt := temp }

def setPicOrderCnt (x : Picture) : Picture :=
  match x.field with
  | .frame => { x with picOrderCnt := min x.topFieldOrderCnt x.bottomFieldOrderCnt }
  | .topField => { x with picOrderCnt := x.topFieldOrderCnt }
  | .bottomField => { x with picOrderCnt := x.bottomFieldOrderCnt }

-- what the proofs see of the order counts
def showOrderCount (sps : GstH264SPS) (p : PicId) : DecoderM P Unit := modify fun s =>
  s.emit (.orderCount { sps, maxFrameNum := s.maxFrameNum, picture := s.pic p })

-- gst_h264_decoder_calculate_poc
def calculatePoc (sps : Option GstH264SPS) (p : PicId) : DecoderM P Bool := do
  match sps with
  | none => return false
  | some sps => do
    let s ← get
    match (s.pic p).picOrderCntType with
    | 0 => do
      modifyPicture p fun x => setPicOrderCnt (calculatePoc0 s sps x)
      showOrderCount sps p
      return true
    | 1 => do
      modify Decoder.resetFrameNumOffset
      modifyPicture p fun x => setPicOrderCnt (calculatePoc1 s.resetFrameNumOffset sps x)
      showOrderCount sps p
      return true
    | 2 => do
      modify Decoder.resetFrameNumOffset
      modifyPicture p fun x => setPicOrderCnt (calculatePoc2 s.resetFrameNumOffset x)
      showOrderCount sps p
      return true
    | _ => return false

end VkVideoParser.H264
