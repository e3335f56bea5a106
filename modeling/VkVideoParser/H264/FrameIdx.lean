import VkVideoParser.H264.Entries

/-! The index of the frame that an entry of `dpb[]` shows. -/

namespace VkVideoParser.H264

open Execution Relation

variable {P : Type} {env : Env P} {x : Phase × Decoder P} {u : Stored} {info : StartInfo}

/-- The frame_num of a short-term reference, the LongTermFrameIdx of a long-term one. -/
def frameIndex (x : Picture) : Int := if x.ref = .longTerm then x.longTermFrameIdx else x.frameNum

-- what is taken off the frame_num of a reference that comes after the current one modulo max_frame_num
def wrapped (info : StartInfo) (x : Picture) : Int :=
  if x.ref = .shortTerm ∧ info.slice.header.frameNum < x.frameNum then info.maxFrameNum else 0

/-- The number by which slices of the current picture name the reference is the index of its frame. -/
def IndexKept (info : StartInfo) (x : Picture) : Prop :=
  match x.userData, sliceField info.slice.header with
  | none, _ => frameIndex x = 0
  | some _, .frame => wrapped info x = 0
  | some _, field => frameIndex x = 2 * wrapped info x - if x.field = field then 1 else 0

/-- The stored pictures are numbered for the picture that starts. -/
def StoredNumbered (info : StartInfo) : Prop :=
  ∃ current : Picture, current.field = sliceField info.slice.header ∧
    ∀ u ∈ info.stored, picNums info.maxFrameNum info.slice.header.frameNum current u.2.1 = u.2.1

lemma storedNumbered_startInfo {p : PicId} {slice : GstH264Slice} (hx : Sound x) (hk : x.1.current.filledBy p slice)
    (hnum : Numbered x.2 p slice) : StoredNumbered (x.2.startInfo env p slice) := by
  refine ⟨x.2.pic p, (hx.told p slice hk).field, fun u hu => ?_⟩
  obtain ⟨q, hq, rfl⟩ := List.mem_map.mp hu
  exact hnum q hq

-- the number of a reference, from the index of its frame
lemma number_of_fixed {current y : Picture} (hc : current.field = sliceField info.slice.header)
    (hfix : picNums info.maxFrameNum info.slice.header.frameNum current y = y) (hr : y.isRef) :
    (if y.ref = .longTerm then y.longTermPicNum else y.picNum) =
      if sliceField info.slice.header = .frame then frameIndex y - wrapped info y
      else 2 * (frameIndex y - wrapped info y) + if y.field = sliceField info.slice.header then 1 else 0 := by
  have hframe : current.isFrame = decide (sliceField info.slice.header = .frame) := by rw [Picture.isFrame, hc]
  cases href : y.ref with
  | none => simp [Picture.isRef, href] at hr
  | longTerm =>
    have hnum : (picNums info.maxFrameNum info.slice.header.frameNum current y).longTermPicNum = y.longTermPicNum := by
      rw [hfix]
    simp only [picNums, href, hframe, hc] at hnum
    simp only [if_true, frameIndex, wrapped, href, reduceCtorEq, false_and, if_false, ← hnum, Int.sub_zero,
      decide_eq_true_eq, eq_comm (a := y.field)]
    split_ifs <;> omega
  | shortTerm =>
    have hnum : (picNums info.maxFrameNum info.slice.header.frameNum current y).picNum = y.picNum := by
      rw [hfix]
    simp only [picNums, href, hframe, hc] at hnum
    simp only [frameIndex, wrapped, href, reduceCtorEq, if_false, true_and, ← hnum, decide_eq_true_eq]
    split_ifs <;> omega

lemma frameIdx_iff (hset : StoredNumbered info) (hu : u ∈ collected info.stored) :
    (entryOf u).frameIdx = frameIndex u.2.1 ↔ IndexKept info u.2.1 := by
  obtain ⟨hstored, -, hr⟩ := mem_collected hu
  obtain ⟨current, hc, hfix⟩ := hset
  have hnumber := number_of_fixed hc (hfix u hstored) hr
  cases hv : u.2.1.userData with
  | none =>
    rw [IndexKept, hv, entryOf, fillDbpEntry, hv]
    exact eq_comm
  | some vkpic =>
    have hentry : (entryOf u).frameIdx = if u.2.1.ref = .longTerm then u.2.1.longTermPicNum else u.2.1.picNum := by
      simp only [entryOf, fillDbpEntry, hv]
      split <;> rfl
    rw [hentry, hnumber, IndexKept, hv]
    cases hfield : sliceField info.slice.header with
    | frame =>
      simp only [if_true]
      omega
    | topField | bottomField =>
      simp only [reduceCtorEq, if_false]
      split_ifs <;> omega

/-- Every entry that start_picture fills has the index of its frame exactly when the number of the picture is that
index: in a frame when the frame_num has not wrapped, in a field when doubling it changes nothing. -/
theorem frameIdx_shown (env : Env P) (inputs : List Input) (info : StartInfo)
    (hi : info ∈ startInfos (final (runInputs env inputs (Decoder.start env))).store.log) (i : Nat) (u : Stored)
    (hu : (collected info.stored)[i]? = some u) :
    ∃ e, info.dpb[i]? = some e ∧ (e.frameIdx = frameIndex u.2.1 ↔ IndexKept info u.2.1) := by
  obtain ⟨k, hk⟩ := reach_final env inputs
  have hset : StoredNumbered info :=
    startInfos_all (fun _ hreach p slice hf hnum => storedNumbered_startInfo (sound_start.reach hreach) hf hnum) hk hi
  exact ⟨entryOf u, (collects_all hk hi).entry hu, frameIdx_iff hset (List.mem_of_getElem? hu)⟩

section Examples

-- an IDR picture of two fields, then the top field of another frame
def fieldsScript : Script where
  sps := [Script.interlaced]
  pps := [{}]
  slices := [{ fieldPicFlag := true }, { fieldPicFlag := true, bottomFieldFlag := true, picOrderCntLsb := 1 },
    { fieldPicFlag := true, frameNum := 1, picOrderCntLsb := 4 }]

def fieldsInputs : List Input := Script.frames
  [[Script.spsUnit 0, Script.ppsUnit 0, Script.idrUnit 0, Script.sliceUnit 1], [Script.sliceUnit 2]]

def fieldsStarts : List StartInfo :=
  startInfos (final (runInputs fieldsScript.env fieldsInputs (Decoder.start fieldsScript.env))).store.log

-- the frame 0 is shown with the number 1 of its top field
theorem frameIdx_doubled : ¬∀ info ∈ fieldsStarts, ∀ u ∈ (collected info.stored).zip info.dpb,
    u.2.frameIdx = frameIndex u.1.2.1 := by decide +kernel

def fieldsThird : StartInfo := fieldsStarts.get ⟨0, by decide +kernel⟩

def fieldsReference : Stored := (collected fieldsThird.stored).get ⟨0, by decide +kernel⟩

theorem frameIdx_shown_third : ∃ e, fieldsThird.dpb[0]? = some e ∧
    (e.frameIdx = frameIndex fieldsReference.2.1 ↔ IndexKept fieldsThird fieldsReference.2.1) :=
  frameIdx_shown fieldsScript.env fieldsInputs fieldsThird (List.get_mem ..) 0 _ (List.getElem?_eq_getElem _)

end Examples

end VkVideoParser.H264
