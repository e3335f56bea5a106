import VkVideoParser.H264.Picture

/-! The decoded picture buffer: gsth264picture.c. -/

namespace VkVideoParser.H264

inductive BumpMode
  | normalLatency | lowLatency | veryLowLatency
  deriving DecidableEq, Repr

namespace Store

-- gst_h264_dpb_init
def dpbInit (s : Store) : Store :=
  { s with dpb := { s.dpb with numOutputNeeded := 0, lastOutputPoc := int32Min, lastOutputNonRef := false } }

-- the clear function of the array drops the reference of every entry
def unrefAll (l : List PicId) (s : Store) : Store := l.foldl (fun s p => s.unref p) s

-- gst_h264_dpb_clear
def dpbClear (s : Store) : Store := (unrefAll s.dpb.picList (s.setPicList [])).dpbInit

-- gst_h264_dpb_set_max_num_reorder_frames
def setMaxNumReorderFrames (n : Nat) (s : Store) : Store :=
  if n ≤ s.dpb.maxNumFrames then { s with dpb := { s.dpb with maxNumReorderFrames := n } } else s

def setNeeded (p : PicId) (needed : Bool) (s : Store) : Store :=
  s.modifyPic p fun x => { x with neededForOutput := needed }

def addOutputNeeded (n : Int) (s : Store) : Store :=
  { s with dpb := { s.dpb with numOutputNeeded := s.dpb.numOutputNeeded + n } }

-- a field pair is output as one, when its second field is there
def countsForOutput (x : Picture) : Bool := x.isFrame || x.secondField

def markForOutput (p : PicId) (s : Store) : Store :=
  if (s.pic p).nonexisting then s.setNeeded p false
  else if countsForOutput (s.pic p) then (s.setNeeded p true).addOutputNeeded 1
  else s.setNeeded p true

-- link each field
def linkFields (p : PicId) (s : Store) : Store :=
  match (s.pic p).secondField, (s.pic p).otherField with
  | true, some q => (s.touch q).modifyPic q fun x => { x with otherField := some p }
  | _, _ => s

-- the IDR frame or mem_mgmt_5
def resetLastOutput (p : PicId) (s : Store) : Store :=
  if (s.pic p).picOrderCnt = 0 then
    { s with dpb := { s.dpb with lastOutputPoc := int32Min, lastOutputNonRef := false } }
  else s

-- gst_h264_dpb_add
def dpbAdd (p : PicId) (s : Store) : Store :=
  let s := (s.markForOutput p).linkFields p
  (s.setPicList (s.dpb.picList ++ [p])).resetLastOutput p

-- gst_h264_dpb_add as the log shows it
def addPicture (p : PicId) (s : Store) : Store :=
  (s.dpbAdd p).emit (.storing {
    picture := s.pic p
    stored := s.dpb.picList.map fun q => (q, s.pic q)
    maxNumFrames := s.dpb.maxNumFrames
    interlaced := s.dpb.interlaced })

def unused (s : Store) (p : PicId) : Bool := !(s.pic p).neededForOutput && !(s.pic p).isRef

-- gst_h264_dpb_delete_unused
def dpbDeleteUnused (s : Store) : Store :=
  unrefAll (s.dpb.picList.filter s.unused) (s.setPicList (s.dpb.picList.filter fun p => !s.unused p))

-- gst_h264_dpb_num_ref_frames: count frames, not field pictures
def dpbNumRefFrames (s : Store) : Nat :=
  s.dpb.picList.countP fun p => !(s.pic p).secondField && (s.pic p).isRef

-- gst_h264_picture_set_reference
def setReference (p : PicId) (reference : PictureReference) (otherField : Bool) (s : Store) : Store :=
  let mark : Picture → Picture := fun x =>
    { x with ref := reference, refPic := x.refPic || decide (reference ≠ .none) }
  let s := s.modifyPic p mark
  match otherField, (s.pic p).otherField with
  | true, some q => (s.touch q).modifyPic q mark
  | _, _ => s

def setReferenceAll (l : List PicId) (reference : PictureReference) (s : Store) : Store :=
  l.foldl (fun s p => s.setReference p reference false) s

-- gst_h264_dpb_mark_all_non_ref
def dpbMarkAllNonRef (s : Store) : Store := s.setReferenceAll s.dpb.picList .none

-- gst_h264_dpb_get_short_ref_by_pic_num
def dpbGetShortRefByPicNum (s : Store) (picNum : Int) : Option PicId :=
  s.dpb.picList.find? fun p => (s.pic p).ref = .shortTerm && (s.pic p).picNum = picNum

-- gst_h264_dpb_get_long_ref_by_long_term_pic_num
def dpbGetLongRefByLongTermPicNum (s : Store) (longTermPicNum : Int) : Option PicId :=
  s.dpb.picList.find? fun p => (s.pic p).ref = .longTerm && (s.pic p).longTermPicNum = longTermPicNum

-- gst_h264_dpb_get_lowest_frame_num_short_ref, whose caller drops the reference it returns
def dpbGetLowestFrameNumShortRef (s : Store) : Option PicId :=
  s.dpb.picList.foldl (fun ret p =>
    if (s.pic p).ref = .shortTerm then
      match ret with
      | none => some p
      | some q => if (s.pic p).frameNumWrap < (s.pic q).frameNumWrap then some p else ret
    else ret) none

-- gst_h264_dpb_get_pictures_short_term_ref
def dpbGetPicturesShortTermRef (s : Store) (includeNonExisting includeSecondField : Bool) : List PicId :=
  s.dpb.picList.filter fun p =>
    (includeSecondField || !(s.pic p).secondField) && (s.pic p).ref = .shortTerm &&
      (includeNonExisting || !(s.pic p).nonexisting)

-- gst_h264_dpb_get_pictures_long_term_ref
def dpbGetPicturesLongTermRef (s : Store) (includeSecondField : Bool) : List PicId :=
  s.dpb.picList.filter fun p =>
    (includeSecondField || !(s.pic p).secondField) && (s.pic p).ref = .longTerm

-- gst_h264_dpb_get_size
def dpbGetSize (s : Store) : Nat := s.dpb.picList.length

-- gst_h264_dpb_has_empty_frame_buffer: frames and complementary field pairs
def dpbHasEmptyFrameBuffer (s : Store) : Bool :=
  if s.dpb.interlaced then
    s.dpb.picList.countP (fun p =>
      !(s.pic p).secondField && ((s.pic p).isFrame || (s.pic p).otherField.isSome)) < s.dpb.maxNumFrames
  else s.dpb.picList.length < s.dpb.maxNumFrames

-- a frame, or the first field of a pair, that still needs output
def waitsForOutput (x : Picture) : Bool :=
  x.neededForOutput && (x.isFrame || (x.otherField.isSome && !x.secondField))

def lowestOutputNeededFrom (pic : PicId → Picture) :
    Nat → List PicId → Option (Nat × PicId) → Option (Nat × PicId)
  | _, [], lowest => lowest
  | i, p :: l, lowest =>
    lowestOutputNeededFrom pic (i + 1) l
      (if waitsForOutput (pic p) then
        match lowest with
        | none => some (i, p)
        | some (_, q) => if (pic p).picOrderCnt < (pic q).picOrderCnt then some (i, p) else lowest
      else lowest)

-- gst_h264_dpb_get_lowest_output_needed_picture
def dpbGetLowestOutputNeededPicture (s : Store) : Option (Nat × PicId) :=
  lowestOutputNeededFrom s.pic 0 s.dpb.picList none

-- the label normal_bump of gst_h264_dpb_needs_bump
def normalBump (s : Store) (toInsert : Option Picture) (lowestPoc : Int) : Bool :=
  if s.dpbHasEmptyFrameBuffer then false
  else
    match toInsert with
    | none => false
    | some x => x.refPic || decide (lowestPoc < x.picOrderCnt)

-- the rules below the num_reorder_frames test
def lowLatencyBump (s : Store) (toInsert : Option Picture) (latencyMode : BumpMode) (lowest : Picture) :
    Bool :=
  let lowestPoc := lowest.picOrderCnt
  if toInsert.any (fun x => 0 < x.picOrderCnt) && lowestPoc < 0 then true
  else if lowestPoc = 0 ∧ s.dpbGetSize ≤ 1 then
    if toInsert.any fun x => lowestPoc < x.picOrderCnt then true else s.normalBump toInsert lowestPoc
  else if !lowest.refPic then true
  else if toInsert.any fun x => !x.refPic && lowestPoc < x.picOrderCnt then true
  else if latencyMode = .veryLowLatency ∧ s.dpb.lastOutputPoc < lowestPoc ∧
      int32 (lowestPoc - s.dpb.lastOutputPoc) ≤ 2 then true
  else s.normalBump toInsert lowestPoc

-- gst_h264_dpb_needs_bump
def dpbNeedsBump (s : Store) (toInsert : Option Picture) (latencyMode : BumpMode) : Except Fault Bool :=
  if s.dpb.numOutputNeeded < 0 then .error .assertion
  else
    match s.dpbGetLowestOutputNeededPicture with
    | none => .ok (s.normalBump toInsert int32Max)
    | some (lowestIndex, p) =>
      let lowest := s.pic p
      if latencyMode = .normalLatency ∨ s.dpb.interlaced ∨ !s.dpbHasEmptyFrameBuffer then
        .ok (s.normalBump toInsert lowest.picOrderCnt)
      else if s.dpb.lastOutputNonRef ∧ !lowest.refPic then
        if s.dpb.lastOutputPoc < int32Max then .ok true else .error .assertion
      else if s.dpb.maxNumReorderFrames ≤ lowestIndex ∧
          s.dpb.maxNumReorderFrames ≤
            (s.dpb.picList.take lowestIndex).countP fun q => (s.pic q).neededForOutput then .ok true
      else .ok (s.lowLatencyBump toInsert latencyMode lowest)

-- the rule of gst_h264_dpb_needs_bump that decides is the num_reorder_frames test
def bumpsForReorder (s : Store) (latencyMode : BumpMode) : Bool :=
  match s.dpbGetLowestOutputNeededPicture with
  | none => false
  | some (lowestIndex, p) =>
    decide (latencyMode ≠ .normalLatency) && !s.dpb.interlaced && s.dpbHasEmptyFrameBuffer &&
      !(s.dpb.lastOutputNonRef && !(s.pic p).refPic) && decide (s.dpb.maxNumReorderFrames ≤ lowestIndex ∧
        s.dpb.maxNumReorderFrames ≤ (s.dpb.picList.take lowestIndex).countP fun q => (s.pic q).neededForOutput)

-- the part of gst_h264_dpb_bump about the other field of the picture that is output
def bumpOtherField (p : PicId) (s : Store) : Store :=
  match (s.pic p).otherField with
  | none => s
  | some q =>
    let s := (s.touch q).setNeeded q false
    let s := s.modifyPic p fun x =>
      { x with
        bufferFlagInterlaced := true
        bufferFlagTff := x.bufferFlagTff || decide (x.picOrderCnt < (s.pic q).picOrderCnt) }
    if (s.pic q).ref = .none ∧ q ∈ s.dpb.picList then
      (s.setPicList (s.dpb.picList.erase q)).unref q
    else s

-- gst_h264_dpb_set_last_output
def dpbSetLastOutput (p : PicId) (s : Store) : Store :=
  { s with dpb := { s.dpb with lastOutputPoc := (s.pic p).picOrderCnt, lastOutputNonRef := !(s.pic p).refPic } }

-- gst_h264_dpb_bump: the picture comes with a reference of its own
def dpbBump (drain : Bool) (s : Store) : Option PicId × Store :=
  match s.dpbGetLowestOutputNeededPicture with
  | none => (none, s)
  | some (index, p) =>
    let s := ((s.ref p).setNeeded p false).addOutputNeeded (-1)
    let s := if s.dpb.numOutputNeeded < 0 then s.die .assertion else s
    let s := if !(s.pic p).isRef || drain then
        (s.setPicList (s.dpb.picList.eraseIdx index)).unref p
      else s
    (some p, (s.bumpOtherField p).dpbSetLastOutput p)

-- get_picNumX
def getPicNumX (x : Picture) (m : GstH264RefPicMarking) : Int :=
  x.picNum - (m.differenceOfPicNumsMinus1 + 1)

def isLongTermAt (s : Store) (frameIdx : Int) (p : PicId) : Bool :=
  (s.pic p).ref = .longTerm && (s.pic p).longTermFrameIdx = frameIdx

-- MMCO 3: the long-term picture `tmp` that holds the index `frameIdx` wanted for `other`
def unmarkLongTermHolder (frameIdx : Int) (tmp other : PicId) (s : Store) : Store :=
  if (s.pic tmp).isFrame then s.setReference tmp .none true
  else
    match (s.pic tmp).otherField with
    | none => s.setReference tmp .none false
    | some q =>
      let s := s.touch q
      if s.isLongTermAt frameIdx q then s.setReference tmp .none true
      else if q ≠ other ∧ (s.pic other).otherField ≠ some tmp then s.setReference tmp .none false
      else s

def setLongTermFrameIdx (p : PicId) (frameIdx : Int) (s : Store) : Store :=
  let s := s.modifyPic p fun x => { x with longTermFrameIdx := frameIdx }
  match (s.pic p).otherField with
  | none => s
  | some q =>
    let s := s.touch q
    if (s.pic q).ref = .longTerm then s.modifyPic q fun x => { x with longTermFrameIdx := frameIdx } else s

def mmco1 (m : GstH264RefPicMarking) (p : PicId) (s : Store) : Bool × Store :=
  match s.dpbGetShortRefByPicNum (getPicNumX (s.pic p) m) with
  | some other => (true, s.setReference other .none (s.pic p).isFrame)
  | none => (false, s)

def mmco2 (m : GstH264RefPicMarking) (s : Store) : Bool × Store :=
  match s.dpbGetLongRefByLongTermPicNum m.longTermPicNum with
  | some other => (true, s.setReference other .none false)
  | none => (false, s)

def mmco3 (m : GstH264RefPicMarking) (p : PicId) (s : Store) : Bool × Store :=
  match s.dpbGetShortRefByPicNum (getPicNumX (s.pic p) m) with
  | none => (false, s)
  | some other =>
    let s := match s.dpb.picList.find? (s.isLongTermAt m.longTermFrameIdx) with
      | some tmp => s.unmarkLongTermHolder m.longTermFrameIdx tmp other
      | none => s
    (true, (s.setReference other .longTerm (s.pic p).isFrame).setLongTermFrameIdx other m.longTermFrameIdx)

def mmco4 (m : GstH264RefPicMarking) (s : Store) : Bool × Store :=
  (true, s.dpb.picList.foldl (fun s p =>
    if (s.pic p).ref = .longTerm ∧ m.maxLongTermFrameIdxPlus1 - 1 < (s.pic p).longTermFrameIdx then
      s.setReference p .none false
    else s) s)

def resetOrderCnt (x : Picture) : Picture :=
  match x.field with
  | .topField => { x with topFieldOrderCnt := 0, picOrderCnt := 0 }
  | .bottomField => { x with bottomFieldOrderCnt := 0, picOrderCnt := 0 }
  | .frame =>
    { x with
      topFieldOrderCnt := x.topFieldOrderCnt - x.picOrderCnt
      bottomFieldOrderCnt := x.bottomFieldOrderCnt - x.picOrderCnt
      picOrderCnt := min (x.topFieldOrderCnt - x.picOrderCnt) (x.bottomFieldOrderCnt - x.picOrderCnt) }

def mmco5 (p : PicId) (s : Store) : Bool × Store :=
  let s := s.setReferenceAll s.dpb.picList .none
  (true, s.modifyPic p fun x => resetOrderCnt { x with memMgmt5 := true, frameNum := 0 })

def mmco6 (m : GstH264RefPicMarking) (p : PicId) (s : Store) : Bool × Store :=
  let s := match s.dpb.picList.find? (s.isLongTermAt m.longTermFrameIdx) with
    | some other => s.setReference other .none true
    | none => s
  (true, (s.setReference p .longTerm (s.pic p).secondField).setLongTermFrameIdx p m.longTermFrameIdx)

-- gst_h264_dpb_perform_memory_management_control_operation
def performMemoryManagementControlOperation (m : GstH264RefPicMarking) (p : PicId) (s : Store) :
    Bool × Store :=
  match m.memoryManagementControlOperation with
  | 0 => (true, s)
  | 1 => s.mmco1 m p
  | 2 => s.mmco2 m
  | 3 => s.mmco3 m p
  | 4 => s.mmco4 m
  | 5 => s.mmco5 p
  | 6 => s.mmco6 m p
  | _ => (false, s.die .assertion)

end Store

end VkVideoParser.H264
