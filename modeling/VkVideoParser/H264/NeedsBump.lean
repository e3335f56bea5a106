import VkVideoParser.H264.Script
import VkVideoParser.H264.Shape

/-! The decision to bump, against the same rules over unbounded integers. -/

namespace VkVideoParser.H264

open Execution

def IsInt32 (n : Int) : Prop := int32Min ≤ n ∧ n ≤ int32Max

lemma int32_of_lt {n : Int} (h : 0 < n) (h' : n < 2 ^ 31) : int32 n = n := by
  unfold int32
  omega

-- a positive difference that is too large turns negative
lemma int32_neg {n : Int} (h : 2 ^ 31 ≤ n) (h' : n < 2 ^ 32) : int32 n < 0 := by
  unfold int32
  omega

namespace Store

-- lowLatencyBump, without the wrap of the last difference
def lowLatencyBumpExact (s : Store) (toInsert : Option Picture) (latencyMode : BumpMode) (lowest : Picture) :
    Bool :=
  let lowestPoc := lowest.picOrderCnt
  if toInsert.any (fun x => 0 < x.picOrderCnt) && lowestPoc < 0 then true
  else if lowestPoc = 0 ∧ s.dpbGetSize ≤ 1 then
    if toInsert.any fun x => lowestPoc < x.picOrderCnt then true else s.normalBump toInsert lowestPoc
  else if !lowest.refPic then true
  else if toInsert.any fun x => !x.refPic && lowestPoc < x.picOrderCnt then true
  else if latencyMode = .veryLowLatency ∧ s.dpb.lastOutputPoc < lowestPoc ∧
      lowestPoc - s.dpb.lastOutputPoc ≤ 2 then true
  else s.normalBump toInsert lowestPoc

/-- The rules of needs_bump over unbounded integers. -/
def dpbNeedsBumpExact (s : Store) (toInsert : Option Picture) (latencyMode : BumpMode) : Except Fault Bool :=
  if s.dpb.numOutputNeeded < 0 then .error .assertion
  else
    match s.dpbGetLowestOutputNeededPicture with
    | none => .ok (s.normalBump toInsert int32Max)
    | some (lowestIndex, p) =>
      let lowest := s.pic p
      if latencyMode = .normalLatency ∨ s.dpb.interlaced ∨ !s.dpbHasEmptyFrameBuffer then
        .ok (s.normalBump toInsert lowest.picOrderCnt)
      else if s.dpb.lastOutputNonRef ∧ !lowest.refPic then
        if s.dpb.lastOutputPoc < int32Max then .ok true else .error .assertion
      else if s.dpb.maxNumReorderFrames ≤ lowestIndex ∧
          s.dpb.maxNumReorderFrames ≤
            (s.dpb.picList.take lowestIndex).countP fun q => (s.pic q).neededForOutput then .ok true
      else .ok (s.lowLatencyBumpExact toInsert latencyMode lowest)

/-- No rule but the last one of the low-latency modes decides about the waiting picture `lowest` at the
place `i`. -/
structure LastRule (s : Store) (toInsert : Option Picture) (i : Nat) (lowest : Picture) : Prop where
  counted : 0 ≤ s.dpb.numOutputNeeded
  progressive : s.dpb.interlaced = false
  room : s.dpbHasEmptyFrameBuffer
  reorder : ¬(s.dpb.maxNumReorderFrames ≤ i ∧
    s.dpb.maxNumReorderFrames ≤ (s.dpb.picList.take i).countP fun q => (s.pic q).neededForOutput)
  negative : ¬(toInsert.any (fun x => 0 < x.picOrderCnt) && lowest.picOrderCnt < 0)
  first : ¬(lowest.picOrderCnt = 0 ∧ s.dpbGetSize ≤ 1)
  refPic : lowest.refPic
  nonRef : ¬toInsert.any fun x => !x.refPic && lowest.picOrderCnt < x.picOrderCnt

variable {s : Store} {toInsert : Option Picture} {mode : BumpMode} {lowest : Picture} {i : Nat} {p : PicId}

lemma LastRule.lowLatencyBump_eq (h : s.LastRule toInsert i lowest) : s.lowLatencyBump toInsert mode lowest =
    decide (mode = .veryLowLatency ∧ s.dpb.lastOutputPoc < lowest.picOrderCnt ∧
      int32 (lowest.picOrderCnt - s.dpb.lastOutputPoc) ≤ 2) := by
  have hnormal : s.normalBump toInsert lowest.picOrderCnt = false := if_pos h.room
  simp only [lowLatencyBump]
  rw [if_neg h.negative, if_neg h.first, if_neg (by simp [h.refPic]), if_neg h.nonRef, hnormal]
  split <;> simp_all

lemma LastRule.lowLatencyBumpExact_eq (h : s.LastRule toInsert i lowest) :
    s.lowLatencyBumpExact toInsert mode lowest = decide (mode = .veryLowLatency ∧
      s.dpb.lastOutputPoc < lowest.picOrderCnt ∧ lowest.picOrderCnt - s.dpb.lastOutputPoc ≤ 2) := by
  have hnormal : s.normalBump toInsert lowest.picOrderCnt = false := if_pos h.room
  simp only [lowLatencyBumpExact]
  rw [if_neg h.negative, if_neg h.first, if_neg (by simp [h.refPic]), if_neg h.nonRef, hnormal]
  split <;> simp_all

-- the rules before the last one are the same
lemma lowLatencyBump_exact (hno : ¬s.LastRule toInsert i lowest) (hc : 0 ≤ s.dpb.numOutputNeeded)
    (hi : s.dpb.interlaced = false) (hroom : s.dpbHasEmptyFrameBuffer)
    (hreorder : ¬(s.dpb.maxNumReorderFrames ≤ i ∧
      s.dpb.maxNumReorderFrames ≤ (s.dpb.picList.take i).countP fun q => (s.pic q).neededForOutput)) :
    s.lowLatencyBump toInsert mode lowest = s.lowLatencyBumpExact toInsert mode lowest := by
  simp only [lowLatencyBump, lowLatencyBumpExact]
  split
  · rfl
  · rename_i hneg
    split
    · rfl
    · rename_i hfirst
      split
      · rfl
      · rename_i href
        split
        · rfl
        · rename_i hnon
          exact absurd ⟨hc, hi, hroom, hreorder, hneg, hfirst, by simpa using href, hnon⟩ hno

lemma LastRule.needsBump (h : s.LastRule toInsert i (s.pic p)) (mode : BumpMode) (hm : mode ≠ .normalLatency)
    (hl : s.dpbGetLowestOutputNeededPicture = some (i, p)) :
    s.dpbNeedsBump toInsert mode = .ok (s.lowLatencyBump toInsert mode (s.pic p)) ∧
      s.dpbNeedsBumpExact toInsert mode = .ok (s.lowLatencyBumpExact toInsert mode (s.pic p)) := by
  have hcounted := h.counted
  have hearly : ¬(mode = .normalLatency ∨ s.dpb.interlaced = true ∨ (!s.dpbHasEmptyFrameBuffer) = true) := by
    simp [hm, h.progressive, h.room]
  have hnonRef : ¬(s.dpb.lastOutputNonRef = true ∧ (!(s.pic p).refPic) = true) := by
    simp [h.refPic]
  constructor
  · simp only [dpbNeedsBump, hl]
    rw [if_neg (by omega), if_neg hearly, if_neg hnonRef, if_neg h.reorder]
  · simp only [dpbNeedsBumpExact, hl]
    rw [if_neg (by omega), if_neg hearly, if_neg hnonRef, if_neg h.reorder]

-- the two decisions differ at most where the last rule is reached
lemma needsBump_exact_of_not (h : ∀ i p, s.dpbGetLowestOutputNeededPicture = some (i, p) →
    mode = .veryLowLatency → ¬s.LastRule toInsert i (s.pic p)) :
    s.dpbNeedsBump toInsert mode = s.dpbNeedsBumpExact toInsert mode := by
  by_cases hc : s.dpb.numOutputNeeded < 0
  · rw [dpbNeedsBump, dpbNeedsBumpExact, if_pos hc, if_pos hc]
  · cases hl : s.dpbGetLowestOutputNeededPicture with
    | none => simp only [dpbNeedsBump, dpbNeedsBumpExact, hl]
    | some r =>
      obtain ⟨i, p⟩ := r
      simp only [dpbNeedsBump, dpbNeedsBumpExact, hl]
      rw [if_neg hc, if_neg hc]
      split_ifs with hearly _ _ hreorder
      · rfl
      · rfl
      · rfl
      · rfl
      · simp only [not_or, Bool.not_eq_true, Bool.not_eq_false'] at hearly
        refine congrArg Except.ok ?_
        by_cases hm : mode = .veryLowLatency
        · exact lowLatencyBump_exact (h i p hl hm) (by omega) hearly.2.1 hearly.2.2 hreorder
        · simp only [lowLatencyBump, lowLatencyBumpExact, hm, false_and, if_false]

/-- The decision is that of the rules over unbounded integers exactly when the last rule, where no other one
decides, finds the lowest waiting picture less than 2 ^ 31 above the last output. -/
theorem needsBump_exact_iff (s : Store) (toInsert : Option Picture) (mode : BumpMode)
    (hlast : IsInt32 s.dpb.lastOutputPoc) (hpocs : ∀ p ∈ s.dpb.picList, IsInt32 (s.pic p).picOrderCnt) :
    s.dpbNeedsBump toInsert mode = s.dpbNeedsBumpExact toInsert mode ↔
      ∀ i p, s.dpbGetLowestOutputNeededPicture = some (i, p) → mode = .veryLowLatency →
        s.LastRule toInsert i (s.pic p) → (s.pic p).picOrderCnt - s.dpb.lastOutputPoc < 2 ^ 31 := by
  by_cases hreach : ∃ i p, s.dpbGetLowestOutputNeededPicture = some (i, p) ∧ mode = .veryLowLatency ∧
      s.LastRule toInsert i (s.pic p)
  · obtain ⟨i, p, hl, rfl, hrule⟩ := hreach
    obtain ⟨hcode, hexact⟩ := hrule.needsBump .veryLowLatency (by decide) hl
    have hrange := hpocs p (List.mem_of_getElem? (lowest_spec hl).1)
    have hiff : s.dpbNeedsBump toInsert .veryLowLatency = s.dpbNeedsBumpExact toInsert .veryLowLatency ↔
        (s.pic p).picOrderCnt - s.dpb.lastOutputPoc < 2 ^ 31 := by
      rw [hcode, hexact, hrule.lowLatencyBump_eq, hrule.lowLatencyBumpExact_eq, Except.ok.injEq, decide_eq_decide]
      simp only [true_and, IsInt32, int32Min, int32Max] at hlast hrange ⊢
      by_cases hlt : s.dpb.lastOutputPoc < (s.pic p).picOrderCnt
      · by_cases hsmall : (s.pic p).picOrderCnt - s.dpb.lastOutputPoc < 2 ^ 31
        · rw [int32_of_lt (by omega) hsmall]
          exact iff_of_true Iff.rfl hsmall
        · have := int32_neg (n := (s.pic p).picOrderCnt - s.dpb.lastOutputPoc) (by omega) (by omega)
          refine iff_of_false (fun h => ?_) hsmall
          have := (h.mp ⟨hlt, by omega⟩).2
          omega
      · exact iff_of_true (by simp [hlt]) (by omega)
    refine hiff.trans ⟨fun h j q hq _ _ => ?_, fun h => h i p hl rfl hrule⟩
    obtain ⟨-, rfl⟩ := Prod.mk.inj (Option.some.inj (hl.symm.trans hq))
    exact h
  · push Not at hreach
    exact iff_of_true (needsBump_exact_of_not hreach) fun i p hl hm hr => absurd hr (hreach i p hl hm)

end Store

section Examples

-- a stream that begins at a recovery point, with the order count 8
def lateScript : Script where
  sps := [{ Script.progressive with log2MaxPicOrderCntLsbMinus4 := 4 }]
  pps := [{}]
  slices := [{ picOrderCntLsb := 8 }]

def lateEnd : Decoder Tables :=
  final (runInputs lateScript.env (Script.frames [[Script.spsUnit 0, Script.ppsUnit 0, Script.sliceUnit 0]])
    (Decoder.start lateScript.env))

def lateNext : Picture := { refPic := true, picOrderCnt := 16 }

-- nothing was output yet, and still the picture counts as close to the one output last
theorem needsBump_late : lateEnd.store.dpbNeedsBump (some lateNext) (getBumpLevel lateScript.env lateEnd) = .ok true ∧
    lateEnd.store.dpbNeedsBumpExact (some lateNext) (getBumpLevel lateScript.env lateEnd) = .ok false ∧
    lateEnd.store.dpb.lastOutputPoc = int32Min := by decide +kernel

theorem needsBump_late_iff :
    lateEnd.store.dpbNeedsBump (some lateNext) .veryLowLatency =
        lateEnd.store.dpbNeedsBumpExact (some lateNext) .veryLowLatency ↔
      ∀ i p, lateEnd.store.dpbGetLowestOutputNeededPicture = some (i, p) → BumpMode.veryLowLatency = .veryLowLatency →
        lateEnd.store.LastRule (some lateNext) i (lateEnd.store.pic p) →
        (lateEnd.store.pic p).picOrderCnt - lateEnd.store.dpb.lastOutputPoc < 2 ^ 31 :=
  lateEnd.store.needsBump_exact_iff (some lateNext) .veryLowLatency (by unfold IsInt32; decide +kernel)
    (by unfold IsInt32; decide +kernel)

end Examples

end VkVideoParser.H264
