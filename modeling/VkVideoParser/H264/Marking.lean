import VkVideoParser.H264.Output

/-! Reference marking of gsth264decoder.c. -/

namespace VkVideoParser.H264

variable {P : Type} (env : Env P)

-- the numbers of one stored picture, seen from the current one
def picNums (maxFrameNum : Nat) (frameNum : Int) (current x : Picture) : Picture :=
  match x.ref with
  | .none => x
  | .longTerm =>
    { x with
      longTermPicNum :=
        if current.isFrame then x.longTermFrameIdx
        else if current.field = x.field then 2 * x.longTermFrameIdx + 1
        else 2 * x.longTermFrameIdx }
  | .shortTerm =>
    let frameNumWrap := if frameNum < x.frameNum then x.frameNum - maxFrameNum else x.frameNum
    { x with
      frameNumWrap := frameNumWrap
      picNum :=
        if current.isFrame then frameNumWrap
        else if x.field = current.field then 2 * frameNumWrap + 1
        else 2 * frameNumWrap }

def Store.updatePicNums (maxFrameNum : Nat) (p : PicId) (frameNum : Int) (s : Store) : Store :=
  s.dpb.picList.foldl (fun s q => s.modifyPic q (picNums maxFrameNum frameNum (s.pic p))) s

-- gst_h264_decoder_update_pic_nums
def updatePicNums (p : PicId) (frameNum : Int) : DecoderM P Unit := do
  let maxFrameNum := (← get).maxFrameNum
  onStore (Store.updatePicNums maxFrameNum p frameNum)

-- one turn for every reference frame above the number allowed
def Store.slidingWindowLoop : Nat → Store → Bool × Store
  | 0, s => (true, s)
  | n + 1, s =>
    match s.dpbGetLowestFrameNumShortRef with
    | none => (false, s)
    | some p => slidingWindowLoop n (s.setReference p .none true)

-- gst_h264_decoder_sliding_window_picture_marking
def Store.slidingWindowPictureMarking (sps : Option GstH264SPS) (p : PicId) (s : Store) : Bool × Store :=
  if (s.pic p).secondField then (true, s)
  else
    match sps with
    | none => (false, s)
    | some sps => s.slidingWindowLoop (s.dpbNumRefFrames + 1 - max 1 sps.numRefFrames)

def Decoder.updateMaxLongTermFrameIdx (m : GstH264RefPicMarking) (s : Decoder P) : Decoder P :=
  match m.memoryManagementControlOperation with
  | 4 => { s with maxLongTermFrameIdx := m.maxLongTermFrameIdxPlus1 - 1 }
  | 5 => { s with maxLongTermFrameIdx := -1 }
  | _ => s

-- an operation that fails is only logged
def handleMemoryManagementLoop (p : PicId) : List GstH264RefPicMarking → DecoderM P Unit
  | [] => pure ()
  | m :: l => do
    if m.memoryManagementControlOperation = 0 then pure ()
    else do
      modify (Decoder.updateMaxLongTermFrameIdx m)
      let _ ← withStore (Store.performMemoryManagementControlOperation m p)
      handleMemoryManagementLoop p l

-- gst_h264_decoder_handle_memory_management_opt
def handleMemoryManagementOpt (p : PicId) : DecoderM P Unit := do
  handleMemoryManagementLoop p (((← get).pic p).decRefPicMarking.refPicMarking.take 10)

def Store.markIdr (p : PicId) (longTerm : Bool) (s : Store) : Store :=
  let s := s.dpbMarkAllNonRef
  if longTerm then
    (s.setReference p .longTerm false).modifyPic p fun x => { x with longTermFrameIdx := 0 }
  else s.setReference p .shortTerm false

def markIdr (p : PicId) (longTerm : Bool) : DecoderM P Unit := do
  onStore (Store.markIdr p longTerm)
  modify fun s => { s with maxLongTermFrameIdx := if longTerm then 0 else -1 }

def slidingWindow (p : PicId) : DecoderM P Bool := do
  let sps := (← get).sps env
  withStore (Store.slidingWindowPictureMarking sps p)

-- gst_h264_decoder_reference_picture_marking
def referencePictureMarking (p : PicId) : DecoderM P Unit := do
  let s ← get
  let x := s.pic p
  if x.idr then markIdr p x.decRefPicMarking.longTermReferenceFlag
  else if x.decRefPicMarking.adaptiveRefPicMarkingModeFlag then handleMemoryManagementOpt p
  else do
    let _ ← slidingWindow env p

end VkVideoParser.H264
