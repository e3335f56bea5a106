import VkVideoParser.H265.Picture

/-! The decoded picture buffer: gsth265picture.c. -/

namespace VkVideoParser.H265

namespace Store

-- the clear function of the array drops the reference of every entry
def dpbClear (s : Store) : Store :=
  let s := unrefAll s.dpb.picList (s.setPicList [])
  { s with dpb := { s.dpb with numOutputNeeded := 0 } }

def setNeeded (p : PicId) (needed : Bool) (s : Store) : Store :=
  s.modifyPic p fun x => { x with neededForOutput := needed }

def addOutputNeeded (n : Int) (s : Store) : Store :=
  { s with dpb := { s.dpb with numOutputNeeded := s.dpb.numOutputNeeded + n } }

def countLatency (x : Picture) : Picture :=
  if x.neededForOutput then { x with picLatencyCnt := x.picLatencyCnt + 1 } else x

def markForOutput (p : PicId) (s : Store) : Store :=
  if (s.pic p).outputFlag then
    ((s.dpb.picList.foldl (fun s q => s.modifyPic q countLatency) s).addOutputNeeded 1).setNeeded p true
  else s.setNeeded p false

-- gst_h265_dpb_add
def dpbAdd (p : PicId) (s : Store) : Store :=
  let s := (s.markForOutput p).modifyPic p fun x => { x with ref := true, longTerm := false }
  s.setPicList (s.dpb.picList ++ [p])

-- with what the proofs see of it
def storePicture (p : PicId) (s : Store) : Store :=
  (s.emit (.storing { picture := s.pic p, stored := s.dpb.picList.map s.pic })).dpbAdd p

def unused (s : Store) (p : PicId) : Bool := !(s.pic p).neededForOutput && !(s.pic p).ref

-- gst_h265_dpb_delete_unused
def dpbDeleteUnused (s : Store) : Store :=
  unrefAll (s.dpb.picList.filter s.unused) (s.setPicList (s.dpb.picList.filter fun p => !s.unused p))

def setRef (ref : Bool) (p : PicId) (s : Store) : Store := s.modifyPic p fun x => { x with ref := ref }

-- gst_h265_dpb_mark_all_non_ref
def dpbMarkAllNonRef (s : Store) : Store := s.dpb.picList.foldl (fun s p => s.setRef false p) s

-- gst_h265_dpb_get_ref_by_poc; the callers of these three take a reference
def dpbGetRefByPoc (s : Store) (poc : Int) : Option PicId :=
  s.dpb.picList.find? fun p => (s.pic p).ref && (s.pic p).picOrderCnt = poc

-- gst_h265_dpb_get_ref_by_poc_lsb
def dpbGetRefByPocLsb (s : Store) (pocLsb : Int) : Option PicId :=
  s.dpb.picList.find? fun p => (s.pic p).ref && (s.pic p).picOrderCntLsb = pocLsb

-- gst_h265_dpb_get_short_ref_by_poc
def dpbGetShortRefByPoc (s : Store) (poc : Int) : Option PicId :=
  s.dpb.picList.find? fun p => (s.pic p).ref && !(s.pic p).longTerm && (s.pic p).picOrderCnt = poc

-- gst_h265_dpb_get_size
def dpbGetSize (s : Store) : Nat := s.dpb.picList.length

-- gst_h265_dpb_check_latency_count
def dpbCheckLatencyCount (s : Store) (maxLatency : Nat) : Bool :=
  s.dpb.picList.any fun p => (s.pic p).neededForOutput && maxLatency ≤ (s.pic p).picLatencyCnt

-- gst_h265_dpb_needs_bump
def dpbNeedsBump (s : Store) (maxNumReorderPics maxLatencyIncrease maxDecPicBuffering : Nat) :
    Except Fault Bool :=
  if s.dpb.numOutputNeeded < 0 then .error .assertion
  else if s.dpb.maxNumPics < s.dpbGetSize then .ok true
  else if (maxNumReorderPics : Int) < s.dpb.numOutputNeeded then .ok true
  else if s.dpb.numOutputNeeded ≠ 0 ∧ maxLatencyIncrease ≠ 0 ∧ s.dpbCheckLatencyCount maxLatencyIncrease then
    .ok true
  else if maxDecPicBuffering ≠ 0 ∧ maxDecPicBuffering ≤ s.dpbGetSize then .ok true
  else .ok false

-- the rule of gst_h265_dpb_needs_bump that decides is the one of the reorder depth
def bumpsForReorder (s : Store) (maxNumReorderPics : Nat) : Bool :=
  decide (s.dpbGetSize ≤ s.dpb.maxNumPics) && decide ((maxNumReorderPics : Int) < s.dpb.numOutputNeeded)

def lowestOutputNeededFrom (pic : PicId → Picture) :
    Nat → List PicId → Option (Nat × PicId) → Option (Nat × PicId)
  | _, [], lowest => lowest
  | i, p :: l, lowest =>
    lowestOutputNeededFrom pic (i + 1) l
      (if (pic p).neededForOutput then
        match lowest with
        | none => some (i, p)
        | some (_, q) => if (pic p).picOrderCnt < (pic q).picOrderCnt then some (i, p) else lowest
      else lowest)

-- gst_h265_dpb_get_lowest_output_needed_picture
def dpbGetLowestOutputNeededPicture (s : Store) : Option (Nat × PicId) :=
  lowestOutputNeededFrom s.pic 0 s.dpb.picList none

-- g_array_remove_index_fast: the last entry takes the place of the one removed
def removeIndexFast (l : List PicId) (i : Nat) : List PicId :=
  match l.getLast? with
  | some q => (l.set i q).dropLast
  | none => l

-- gst_h265_dpb_bump: the picture comes with a reference of its own
def dpbBump (drain : Bool) (s : Store) : Option PicId × Store :=
  match s.dpbGetLowestOutputNeededPicture with
  | none => (none, s)
  | some (index, p) =>
    let s := ((s.ref p).setNeeded p false).addOutputNeeded (-1)
    let s := if s.dpb.numOutputNeeded < 0 then s.die .assertion else s
    let s := if !(s.pic p).ref || drain then
        (s.setPicList (removeIndexFast s.dpb.picList index)).unref p
      else s
    (some p, s)

end Store

end VkVideoParser.H265
