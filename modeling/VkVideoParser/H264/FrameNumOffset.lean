import Mathlib.Algebra.BigOperators.Intervals
import VkVideoParser.H264.Remembered
import VkVideoParser.H264.Script

/-! The order counts of the types 1 and 2 against those that the wraps of the frame numbers give. -/

namespace VkVideoParser.H264

open Execution Relation Histories

variable {P : Type} {env : Env P} {s : Decoder P} {log : List Event} {info : OrderInfo} {m : Nat} {sps : GstH264SPS}
  {x : Picture}

namespace GstH264SPS

variable (sps : GstH264SPS)

def offsetOf (i : Nat) : Int := sps.offsetForRefFrame.getD i 0

-- 8.2.1.2
def absFrameNum (nalRefIdc : Nat) (frameNum offset : Int) : Int :=
  let absFrameNum := if sps.numRefFramesInPicOrderCntCycle = 0 then 0 else offset + frameNum
  if nalRefIdc = 0 ∧ 0 < absFrameNum then absFrameNum - 1 else absFrameNum

def expectedDelta (absFrameNum : Int) : Int :=
  if 0 < absFrameNum then
    (absFrameNum - 1) / sps.numRefFramesInPicOrderCntCycle *
        (∑ i ∈ Finset.range sps.numRefFramesInPicOrderCntCycle, sps.offsetOf i) +
      ∑ i ∈ Finset.range (((absFrameNum - 1) % sps.numRefFramesInPicOrderCntCycle).toNat + 1), sps.offsetOf i
  else 0

def expectedCount (x : Picture) (offset : Int) : Int :=
  sps.expectedDelta (sps.absFrameNum x.nalRefIdc x.frameNum offset) +
    if x.nalRefIdc = 0 then sps.offsetForNonRefPic else 0

end GstH264SPS

-- 8.2.1.3
def Picture.tempCount (x : Picture) (offset : Int) : Int :=
  if x.idr then 0 else 2 * (offset + x.frameNum) - if x.nalRefIdc = 0 then 1 else 0

def Picture.topCount (x : Picture) (sps : GstH264SPS) (offset : Int) : Int :=
  if x.picOrderCntType = 1 then sps.expectedCount x offset + x.deltaPicOrderCnt0 else x.tempCount offset

def Picture.bottomCount (x : Picture) (sps : GstH264SPS) (offset : Int) : Int :=
  if x.picOrderCntType = 1 then
    sps.expectedCount x offset + sps.offsetForTopToBottomField + x.deltaPicOrderCnt0 +
      if x.field = .frame then x.deltaPicOrderCnt1 else 0
  else x.tempCount offset

/-- The picture has the order counts of the clauses, those of the fields that it consists of. -/
def CountsWith (x : Picture) (sps : GstH264SPS) (offset : Int) : Prop :=
  (x.field ≠ .bottomField → x.topFieldOrderCnt = x.topCount sps offset) ∧
    (x.field ≠ .topField → x.bottomFieldOrderCnt = x.bottomCount sps offset)

instance (x : Picture) (sps : GstH264SPS) (offset : Int) : Decidable (CountsWith x sps offset) :=
  inferInstanceAs (Decidable (_ ∧ _))

def OrderInfo.fromFrameNum (info : OrderInfo) : Prop := info.picture.picOrderCntType = 1 ∨ info.picture.picOrderCntType = 2

instance (info : OrderInfo) : Decidable info.fromFrameNum := inferInstanceAs (Decidable (_ ∨ _))

/-- The wraps up to the picture when the one before has a frame number and wraps. -/
def OrderInfo.wrapsAfter (info : OrderInfo) (prev : Int × Nat) : Nat :=
  if info.picture.idr then 0 else prev.2 + if info.picture.frameNum < prev.1 then 1 else 0

/-- The frame number of a picture, and the wraps since the last IDR picture or MMCO 5. -/
def wrapLinks : Event → Carry (Int × Nat)
  | .orderCount info => .take fun prev => (info.picture.frameNum, info.wrapsAfter prev)
  | .removing info =>
    if info.picture.nonexisting then .pass else .keep fun last => if info.picture.memMgmt5 then (0, 0) else last
  | _ => .pass

def OrderInfo.wraps (info : OrderInfo) (log : List Event) : Nat := info.wrapsAfter (carried wrapLinks (0, 0) log).2

def periodLinks : Event → Carry (List OrderInfo)
  | .orderCount info => .take fun l => info :: if info.picture.idr then [] else l
  | .removing info =>
    if info.picture.nonexisting then .pass else .keep fun l => if info.picture.memMgmt5 then [] else l
  | _ => .pass

/-- The pictures decoded since the last IDR picture or MMCO 5. -/
def period (log : List Event) : List OrderInfo := (carried periodLinks [] log).2

/-- These are of the types 1 and 2, and their frame numbers wrap at `m`. -/
def WrapsAt (m : Nat) (log : List Event) : Prop := ∀ a ∈ period log, a.fromFrameNum ∧ a.maxFrameNum = m

instance (m : Nat) (log : List Event) : Decidable (WrapsAt m log) :=
  inferInstanceAs (Decidable (∀ a ∈ period log, a.fromFrameNum ∧ a.maxFrameNum = m))

section Clauses

lemma sum_offsets (sps : GstH264SPS) (n : Nat) : (sps.offsets n).sum = ∑ i ∈ Finset.range n, sps.offsetOf i := by
  induction n with
  | zero => rfl
  | succ n ih =>
    rw [Finset.sum_range_succ, ← ih]
    simp [GstH264SPS.offsets, GstH264SPS.offsetOf, List.range_succ]

lemma expectedPicOrderCnt_eq (sps : GstH264SPS) (x : Picture) (offset : Int) :
    expectedPicOrderCnt sps x.nalRefIdc x.frameNum offset = sps.expectedCount x offset := by
  simp only [expectedPicOrderCnt, GstH264SPS.expectedCount, GstH264SPS.expectedDelta, GstH264SPS.absFrameNum, sum_offsets]
  by_cases hn : x.nalRefIdc = 0 <;> by_cases hc : sps.numRefFramesInPicOrderCntCycle = 0 <;> simp [hn, hc]

lemma poc1_offset (s : Decoder P) (sps : GstH264SPS) (x : Picture) :
    (setPicOrderCnt (calculatePoc1 s sps x)).frameNumOffset = frameNumOffset s x := by
  cases hf : x.field <;> simp only [calculatePoc1, setPicOrderCnt, hf]

lemma poc2_offset (s : Decoder P) (x : Picture) :
    (setPicOrderCnt (calculatePoc2 s x)).frameNumOffset = frameNumOffset s x := by
  cases hf : x.field <;> simp only [calculatePoc2, setPicOrderCnt, hf]

lemma poc1_counts (s : Decoder P) (sps : GstH264SPS) (x : Picture) (h1 : x.picOrderCntType = 1) :
    CountsWith (setPicOrderCnt (calculatePoc1 s sps x)) sps (frameNumOffset s x) := by
  cases hf : x.field <;>
    simp [CountsWith, calculatePoc1, setPicOrderCnt, hf, expectedPicOrderCnt_eq, Picture.topCount, Picture.bottomCount,
      h1, GstH264SPS.expectedCount]
  ring

lemma poc2_counts (s : Decoder P) (sps : GstH264SPS) (x : Picture) (h2 : x.picOrderCntType = 2) :
    CountsWith (setPicOrderCnt (calculatePoc2 s x)) sps (frameNumOffset s x) := by
  have htemp : (if x.idr then 0 else if x.nalRefIdc = 0 then 2 * (frameNumOffset s x + x.frameNum) - 1
      else 2 * (frameNumOffset s x + x.frameNum)) = x.tempCount (frameNumOffset s x) := by
    unfold Picture.tempCount
    split
    · rfl
    · split <;> simp
  cases hf : x.field <;>
    simp [CountsWith, calculatePoc2, setPicOrderCnt, hf, htemp, Picture.topCount, Picture.bottomCount, h2,
      Picture.tempCount]

end Clauses

-- what the code makes of the last picture
def OrderInfo.offsetAfter (info : OrderInfo) (r : Picture) : Int :=
  if info.picture.idr then 0
  else if info.picture.frameNum < r.frameNum then r.asPrevious.2.2 + info.maxFrameNum
  else r.asPrevious.2.2

lemma frameNumOffset_eq {r : Picture} (hp : s.resetFrameNumOffset.prevPicture = r.asPrevious)
    (hm : s.maxFrameNum = info.maxFrameNum) :
    frameNumOffset s.resetFrameNumOffset info.picture = info.offsetAfter r := by
  have hmax : s.resetFrameNumOffset.maxFrameNum = s.maxFrameNum := by
    unfold Decoder.resetFrameNumOffset
    split <;> rfl
  unfold Decoder.prevPicture Picture.asPrevious at hp
  rw [Prod.mk.injEq, Prod.mk.injEq] at hp
  unfold frameNumOffset OrderInfo.offsetAfter Picture.asPrevious
  rw [hp.1, hp.2.2, hmax, hm]

lemma CountedAfter.offset (h : CountedAfter P log info) (hf : info.fromFrameNum) :
    info.picture.frameNumOffset = info.offsetAfter (lastPicture log) ∧
      CountsWith info.picture info.sps info.picture.frameNumOffset := by
  obtain ⟨s, -, hp, hm, hc⟩ := h.counted
  rw [← frameNumOffset_eq hp hm]
  rcases hf with h1 | h2
  · rw [Counted, h1] at hc
    have hoffset := poc1_offset s.resetFrameNumOffset info.sps info.picture
    have hcounts := poc1_counts s.resetFrameNumOffset info.sps info.picture h1
    rw [hc] at hoffset hcounts
    exact ⟨hoffset, hoffset ▸ hcounts⟩
  · rw [Counted, h2] at hc
    have hoffset := poc2_offset s.resetFrameNumOffset info.picture
    have hcounts := poc2_counts s.resetFrameNumOffset info.sps info.picture h2
    rw [hc] at hoffset hcounts
    exact ⟨hoffset, hoffset ▸ hcounts⟩

/-- The offset of a last picture is made of the wraps so far. -/
def OffsetOf (m : Nat) (r : Picture) (last : Int × Nat) : Prop :=
  r.frameNum = last.1 ∧ r.asPrevious.2.2 = last.2 * m

lemma OffsetOf.next {r : Picture} {last : Int × Nat} (h : info.picture.idr = false → OffsetOf info.maxFrameNum r last) :
    info.offsetAfter r = info.wrapsAfter last * info.maxFrameNum := by
  unfold OrderInfo.offsetAfter OrderInfo.wrapsAfter
  cases hi : info.picture.idr with
  | true => simp
  | false =>
    obtain ⟨hn, ho⟩ := h hi
    rw [hn, ho]
    simp only [Bool.false_eq_true, if_false]
    split
    · push_cast
      ring
    · simp

lemma offsets_of_wraps (hlog : Always (InOrder P) log) :
    (∀ info, lastCount log = some info → (∀ a ∈ (carried periodLinks [] log).1, a.fromFrameNum ∧ a.maxFrameNum = m) →
      info.picture.frameNum = (carried wrapLinks (0, 0) log).1.1 ∧
        info.picture.frameNumOffset = (carried wrapLinks (0, 0) log).1.2 * m) ∧
    (WrapsAt m log → OffsetOf m (lastPicture log) (carried wrapLinks (0, 0) log).2) := by
  induction log with
  | nil =>
    refine ⟨fun _ h => (by cases h), fun _ => ?_⟩
    simp [OffsetOf, lastPicture, noPicture, Picture.asPrevious, carried]
  | cons e l ih =>
    obtain ⟨hcount, hlast⟩ := ih hlog.2
    cases e with
    | orderCount info =>
      refine ⟨fun info' he hm => ?_, hlast⟩
      cases he
      have hcounted : CountedAfter P l info := hlog.1
      obtain ⟨hf, rfl⟩ := hm info List.mem_cons_self
      refine ⟨rfl, (hcounted.offset hf).1.trans (OffsetOf.next fun hi => hlast fun a ha => hm a ?_)⟩
      change a ∈ info :: if info.picture.idr then [] else period l
      rw [hi]
      exact List.mem_cons_of_mem _ ha
    | removing info =>
      unfold WrapsAt period at hlast ⊢
      cases hn : info.picture.nonexisting with
      | true =>
        have hpic : lastPicture (.removing info :: l) = lastPicture l := if_pos hn
        have hwraps : carried wrapLinks (0, 0) (.removing info :: l) = _ := carried_of_pass (if_pos hn)
        have hperiod : carried periodLinks [] (.removing info :: l) = _ := carried_of_pass (if_pos hn)
        rw [hpic, hwraps, hperiod]
        exact ⟨hcount, hlast⟩
      | false =>
        have hno : ¬info.picture.nonexisting = true := by simp [hn]
        have hpic : lastPicture (.removing info :: l) = info.picture := if_neg hno
        have hwraps : carried wrapLinks (0, 0) (.removing info :: l) = _ := carried_of_keep (if_neg hno)
        have hperiod : carried periodLinks [] (.removing info :: l) = _ := carried_of_keep (if_neg hno)
        rw [hpic, hwraps, hperiod]
        refine ⟨hcount, fun hm => ?_⟩
        obtain ⟨i, hl, hf, -, -, hs⟩ := hlog.1 hn
        cases h5 : info.picture.memMgmt5 with
        | true => exact ⟨(hf.settled hs).frameNum h5, by simp [Picture.asPrevious, h5]⟩
        | false =>
          simp only [h5, Bool.false_eq_true, if_false] at hm ⊢
          obtain ⟨hnum, hoffset⟩ := hcount i hl hm
          refine ⟨(hf.frameNum h5).trans hnum, ?_⟩
          simp only [Picture.asPrevious, h5, Bool.false_eq_true, if_false]
          exact hf.frameNumOffset.trans hoffset
    | _ => exact ⟨hcount, hlast⟩

theorem fieldOrderCnt_of_wraps (env : Env P) (inputs : List Input) :
    Always (fun log e => ∀ info, e = .orderCount info → info.fromFrameNum →
      (info.picture.idr = false → WrapsAt info.maxFrameNum log) →
        CountsWith info.picture info.sps (info.wraps log * info.maxFrameNum))
      (final (runInputs env inputs (Decoder.start env))).store.log := by
  refine always_iff.mpr fun e log hl info he hf hcond => ?_
  subst he
  obtain ⟨hcounted, hlog⟩ := (inOrder_final env inputs).suffix hl
  obtain ⟨hoffset, hcounts⟩ := CountedAfter.offset (P := P) hcounted hf
  rw [hoffset, OffsetOf.next fun hi => (offsets_of_wraps hlog).2 (hcond hi)] at hcounts
  exact hcounts

section Examples

def CountsByWraps (log : List Event) : Event → Prop
  | .orderCount info => info.fromFrameNum → CountsWith info.picture info.sps (info.wraps log * info.maxFrameNum)
  | _ => True

instance (log : List Event) (e : Event) : Decidable (CountsByWraps log e) := by
  cases e <;> unfold CountsByWraps <;> infer_instance

-- the frame numbers 0 to 15 and again 0
def roundScript : Script where
  sps := [{ Script.progressive with picOrderCntType := 2, maxFrameNum := 16 }]
  pps := [{}]
  slices := (List.range 16).map fun n => { frameNum := n }

def roundInputs : List Input := Script.frames
  ([Script.spsUnit 0, Script.ppsUnit 0, Script.idrUnit 0] ::
    ((List.range 15).map fun n => [Script.sliceUnit (n + 1)]) ++
    [[Script.sliceUnit 0]])

def roundEnd : Decoder Tables := final (runInputs roundScript.env roundInputs (Decoder.start roundScript.env))

theorem fieldOrderCnt_of_wraps_round : ∃ a ∈ newest Event.countedOrder roundEnd.store.log, a.1.picture.idr = false ∧
    WrapsAt a.1.maxFrameNum a.2 ∧ a.1.wraps a.2 = 1 ∧
      CountsWith a.1.picture a.1.sps (a.1.wraps a.2 * a.1.maxFrameNum) := by
  have hcounts : ∀ (env : Env Tables) s, s = final (runInputs env roundInputs (Decoder.start env)) →
      ∀ a ∈ newest Event.countedOrder s.store.log, a.1.fromFrameNum → WrapsAt a.1.maxFrameNum a.2 →
        CountsWith a.1.picture a.1.sps (a.1.wraps a.2 * a.1.maxFrameNum) := by
    rintro env s rfl a ha hf hwraps
    obtain ⟨e, he, h⟩ := (fieldOrderCnt_of_wraps env roundInputs).newest ha
    exact h a.1 (eq_orderCount he) hf fun _ => hwraps
  have hrun : ∃ a ∈ newest Event.countedOrder roundEnd.store.log, a.1.picture.idr = false ∧ a.1.fromFrameNum ∧
      WrapsAt a.1.maxFrameNum a.2 ∧ a.1.wraps a.2 = 1 := by decide +kernel
  obtain ⟨a, ha, hidr, hf, hwraps, hone⟩ := hrun
  exact ⟨a, ha, hidr, hwraps, hone, hcounts roundScript.env roundEnd rfl a ha hf hwraps⟩

-- the frame numbers wrap at 16, and then a slice comes with an SPS where they wrap at 32
def switchScript : Script where
  sps := [{ Script.progressive with picOrderCntType := 2, maxFrameNum := 16 },
    { Script.progressive with id := 1, picOrderCntType := 2, maxFrameNum := 32 }]
  pps := [{}, { id := 1, sequence := 1 }]
  slices := [{}, { frameNum := 15 }, { frameNum := 1, pps := 1 }]

def switchEnd : Decoder Tables :=
  final (runInputs switchScript.env (Script.frames
    [[Script.spsUnit 0, Script.spsUnit 1, Script.ppsUnit 0, Script.ppsUnit 1, Script.idrUnit 0], [Script.sliceUnit 1],
      [Script.sliceUnit 0], [Script.sliceUnit 2]]) (Decoder.start switchScript.env))

theorem fieldOrderCnt_after_switch : ¬Always CountsByWraps switchEnd.store.log := by decide +kernel

end Examples

end VkVideoParser.H264
