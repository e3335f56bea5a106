import VkVideoParser.Library.Ends
import VkVideoParser.H264.Runs.Marking
import VkVideoParser.H264.Script

/-! Gaps in frame_num: which frames are made for them, and that the handler forgets that it made them. -/

namespace VkVideoParser.H264

open Execution

variable {P : Type} {env : Env P} {s t : Decoder P} {p : PicId}

/-- What the handler of a gap goes by is the same, and pictures were only made. -/
structure SameFrameNum (s t : Decoder P) : Prop where
  maxFrameNum : t.maxFrameNum = s.maxFrameNum
  prevRefFrameNum : t.prevRefFrameNum = s.prevRefFrameNum
  next : s.store.next ≤ t.store.next

instance : IsPreorder (Decoder P) SameFrameNum where
  refl _ := ⟨rfl, rfl, le_rfl⟩
  trans _ _ _ h h' := ⟨h'.maxFrameNum.trans h.maxFrameNum, h'.prevRefFrameNum.trans h.prevRefFrameNum, h.next.trans h'.next⟩

section Frames

lemma respects_withStore {α : Type} {f : Store → α × Store} (h : ∀ a, a.next ≤ (f a).2.next) :
    Respects SameFrameNum (withStore f : DecoderM P α) :=
  Respects.checked fun s => ⟨rfl, rfl, h s.store⟩

lemma respects_onStore {f : Store → Store} (h : ∀ a, (f a).next = a.next) :
    Respects SameFrameNum (onStore f : DecoderM P Unit) :=
  Respects.checked fun s => ⟨rfl, rfl, (h s.store).ge⟩

lemma respects_modifyPicture {f : Picture → Picture} : Respects SameFrameNum (modifyPicture p f : DecoderM P Unit) :=
  Respects.modify fun _ => ⟨rfl, rfl, le_rfl⟩

lemma respects_emit (e : Event) : Respects SameFrameNum (emit e : DecoderM P Unit) :=
  Respects.modify fun _ => ⟨rfl, rfl, le_rfl⟩

lemma respects_assertNoLastField : Respects SameFrameNum (assertNoLastField : DecoderM P Unit) :=
  Respects.get_bind fun _ => Respects.ite (fun _ => Respects.pure _) fun _ =>
    (respects_emit _).bind fun _ => Respects.throw _

lemma respects_unref : Respects SameFrameNum (onStore (Store.unref p) : DecoderM P Unit) :=
  respects_onStore fun a => (Store.sameShape_unref p a).next

lemma respects_pictureNew : Respects SameFrameNum (withStore Store.pictureNew : DecoderM P PicId) :=
  respects_withStore fun a => Nat.le_succ a.next

lemma respects_vkAllocPicture : Respects SameFrameNum (vkAllocPicture env p) := by
  refine Respects.get_bind fun _ => (Respects.modify fun s => ?_).bind fun _ => Respects.pure _
  unfold Decoder.allocPicture
  simp only
  split <;> exact ⟨rfl, rfl, le_rfl⟩

lemma respects_finishFrame (frame : VideoCodecFrame) : Respects SameFrameNum (finishFrame env frame) :=
  Respects.get_bind fun _ => (Respects.modify fun _ => ⟨rfl, rfl, le_rfl⟩).bind fun _ => Respects.pure _

lemma respects_vkOutputPicture (frame : VideoCodecFrame) : Respects SameFrameNum (vkOutputPicture env frame p) :=
  Respects.get_bind fun _ => (Respects.valueOr _ _).bind fun _ =>
    (Respects.modify fun _ => ⟨rfl, rfl, le_rfl⟩).bind fun _ =>
    respects_unref.bind fun _ => Respects.ite (fun _ => respects_finishFrame _) fun _ => Respects.pure _

lemma respects_doOutputPicture (ret : GstFlowReturn) : Respects SameFrameNum (doOutputPicture env p ret) := by
  refine Respects.get_bind fun s => (Respects.modify fun _ => ⟨rfl, rfl, le_rfl⟩).bind fun _ => ?_
  split
  · exact respects_unref.bind fun _ => Respects.pure _
  · exact (respects_vkOutputPicture _).bind fun _ => Respects.pure _

lemma respects_bumpDpbLoop (mode : BumpMode) (current : Option PicId) (fuel : Nat) (ret : GstFlowReturn) :
    Respects SameFrameNum (bumpDpbLoop env mode current fuel ret) := by
  induction fuel generalizing ret with
  | zero => exact Respects.pure _
  | succ fuel ih =>
    refine Respects.get_bind fun s => (Respects.modify fun _ => ⟨rfl, rfl, le_rfl⟩).bind fun _ => ?_
    split
    · exact Respects.throw _
    · exact Respects.pure _
    · refine (respects_withStore fun a => Store.shrinks_dpbBump.next.ge).bind fun o => ?_
      cases o with
      | none => exact Respects.pure _
      | some q => exact (respects_doOutputPicture ret).bind fun ret' => ih ret'

lemma respects_bumpDpb (mode : BumpMode) (current : Option PicId) (ret : GstFlowReturn) :
    Respects SameFrameNum (bumpDpb env mode current ret) :=
  Respects.get_bind fun _ => respects_bumpDpbLoop _ _ _ _

lemma respects_newFieldPicture : Respects SameFrameNum (newFieldPicture env p) := by
  refine respects_pictureNew.bind fun q => Respects.bind ?_ fun ret => Respects.ite (fun _ => ?_) fun _ => ?_
  · exact Respects.get_bind fun _ => Respects.ite (fun _ => Respects.pure _) fun _ => respects_vkAllocPicture
  · exact respects_unref.bind fun _ => Respects.pure _
  · exact respects_modifyPicture.bind fun _ => Respects.pure _

lemma respects_splitFrame : Respects SameFrameNum (splitFrame env p) := by
  refine Respects.get_bind fun _ => (Respects.assertOr _ _).bind fun _ => respects_newFieldPicture.bind fun o => ?_
  cases o with
  | none => exact Respects.pure _
  | some q => exact Respects.get_bind fun _ => respects_modifyPicture.bind fun _ => respects_modifyPicture.bind fun _ =>
      Respects.pure _

lemma respects_addPictureToDpb : Respects SameFrameNum (addPictureToDpb p : DecoderM P Unit) := by
  have hadd : ∀ q, Respects SameFrameNum (onStore (Store.addPicture q) : DecoderM P Unit) := fun q =>
    respects_onStore fun a => Store.addPicture_next q a
  refine Respects.get_bind fun s => Respects.ite (fun _ => ?_) fun _ => ?_
  · exact respects_assertNoLastField.bind fun _ => hadd p
  · cases s.lastField with
    | none => exact hadd p
    | some q =>
      refine Respects.ite (fun _ => Respects.bind ?_ fun _ => hadd p) fun _ => hadd p
      exact Respects.checked fun s => ⟨rfl, rfl, (Store.addPicture_next q s.store).ge⟩

lemma respects_storeGapPicture : Respects SameFrameNum (storeGapPicture env p) :=
  Respects.get_bind fun _ => Respects.ite (fun _ => respects_splitFrame.bind fun _ => respects_addPictureToDpb.bind fun _ =>
    (Respects.valueOr _ _).bind fun _ => respects_addPictureToDpb) fun _ => respects_addPictureToDpb

lemma respects_calculatePoc (sps : Option GstH264SPS) : Respects SameFrameNum (calculatePoc sps p : DecoderM P Bool) := by
  have hreset : Respects SameFrameNum (modify Decoder.resetFrameNumOffset : DecoderM P Unit) := by
    refine Respects.modify fun s => ?_
    unfold Decoder.resetFrameNumOffset
    split <;> exact ⟨rfl, rfl, le_rfl⟩
  have hshow : ∀ sps b, Respects SameFrameNum (showOrderCount sps p >>= fun _ => pure b : DecoderM P Bool) := fun _ _ =>
    (Respects.modify fun _ => ⟨rfl, rfl, le_rfl⟩).bind fun _ => Respects.pure _
  cases sps with
  | none => exact Respects.pure _
  | some sps =>
    refine Respects.get_bind fun s => ?_
    split
    · exact respects_modifyPicture.bind fun _ => hshow _ _
    · exact hreset.bind fun _ => respects_modifyPicture.bind fun _ => hshow _ _
    · exact hreset.bind fun _ => respects_modifyPicture.bind fun _ => hshow _ _
    · exact Respects.pure _

/-- What insert_gap_picture does with the picture it made. -/
lemma insertGapPicture_rest (p : PicId) (frameNum : Int) : Respects SameFrameNum (do
    if !(← initGapPicture env p frameNum) then return .error
    else do
      updatePicNums p frameNum
      if !(← slidingWindow env p) then return .error
      else do
        showRemoving p
        onStore Store.dpbDeleteUnused
        let ret ← bumpDpb env .normalLatency (some p) .ok
        if ret ≠ .ok then return ret
        else do
          storeGapPicture env p
          return .ok : DecoderM P GstFlowReturn) := by
  refine Respects.bind ?_ fun b => Respects.ite (fun _ => Respects.pure _) fun _ => ?_
  · exact respects_modifyPicture.bind fun _ => Respects.get_bind fun _ => respects_calculatePoc _
  refine Respects.bind ?_ fun _ => Respects.bind ?_ fun ok => Respects.ite (fun _ => Respects.pure _) fun _ => ?_
  · exact Respects.get_bind fun _ => respects_onStore fun a => (numbers_updatePicNums _ p frameNum a).next
  · exact Respects.get_bind fun _ => respects_withStore fun a =>
      (show Marks (fun _ => True) _ _ from marks_slidingWindowPictureMarking _ p a).next.ge
  refine (Respects.modify fun _ => ⟨rfl, rfl, le_rfl⟩).bind fun _ => Respects.bind ?_ fun _ => ?_
  · exact respects_onStore fun a => Store.shrinks_dpbDeleteUnused.next
  refine (respects_bumpDpb _ _ _).bind fun ret => Respects.ite (fun _ => Respects.pure _) fun _ => ?_
  exact respects_storeGapPicture.bind fun _ => Respects.pure _

lemma respects_insertGapPicture (frameNum : Int) : Respects SameFrameNum (insertGapPicture env frameNum) :=
  respects_pictureNew.bind fun p => insertGapPicture_rest p frameNum

lemma insertGapPicture_next (frameNum : Int) (s : Decoder P) :
    Ends (fun t => s.store.next < t.store.next) (insertGapPicture env frameNum) s fun _ t => s.store.next < t.store.next := by
  have hnext : s.store.next < (s.mapStore fun st => st.pictureNew.2).store.next := Nat.lt_succ_self _
  unfold insertGapPicture
  refine Ends.checked_bind hnext ((insertGapPicture_rest s.store.next frameNum _).imp ?_ fun _ t h => ?_)
  · exact fun t h => hnext.trans_le h.next
  · exact hnext.trans_le h.next

end Frames

section Gaps

/-- The frame numbers from `n` on, in a cycle. -/
def frameNumsFrom (maxFrameNum : Nat) (n : Int) : Nat → List Int
  | 0 => []
  | k + 1 => n :: frameNumsFrom maxFrameNum ((n + 1) % maxFrameNum) k

/-- The frame numbers after that of the last reference picture and before that of the slice. -/
def missingFrameNums (maxFrameNum : Nat) (prevRefFrameNum frameNum : Int) : List Int :=
  if prevRefFrameNum = frameNum then []
  else frameNumsFrom maxFrameNum ((prevRefFrameNum + 1) % maxFrameNum) ((frameNum - (prevRefFrameNum + 1)) % maxFrameNum).toNat

def insertGapPictures (env : Env P) : List Int → DecoderM P GstFlowReturn
  | [] => return .ok
  | n :: l => do
    let ret ← insertGapPicture env n
    if ret ≠ .ok then return ret else insertGapPictures env l

lemma length_frameNumsFrom (maxFrameNum : Nat) (n : Int) (k : Nat) : (frameNumsFrom maxFrameNum n k).length = k := by
  induction k generalizing n with
  | zero => rfl
  | succ k ih => rw [frameNumsFrom, List.length_cons, ih]

lemma length_missingFrameNums {maxFrameNum : Nat} (hmax : 0 < maxFrameNum) (prev frameNum : Int) :
    (missingFrameNums maxFrameNum prev frameNum).length < maxFrameNum := by
  unfold missingFrameNums
  split
  · exact hmax
  · rw [length_frameNumsFrom]
    have := Int.emod_lt_of_pos (frameNum - (prev + 1)) (Int.natCast_pos.mpr hmax)
    omega

lemma insertGapPictures_next {l : List Int} (hl : l ≠ []) (s : Decoder P) :
    s.store.next < (final (insertGapPictures env l s)).store.next := by
  have hrest : ∀ l, Respects SameFrameNum (insertGapPictures env l) := by
    intro l
    induction l with
    | nil => exact Respects.pure _
    | cons n l ih => exact (respects_insertGapPicture n).bind fun _ => Respects.ite (fun _ => Respects.pure _) fun _ => ih
  cases l with
  | nil => exact absurd rfl hl
  | cons n l =>
    have h : Ends (fun t => s.store.next < t.store.next) (insertGapPictures env (n :: l)) s fun _ t =>
        s.store.next < t.store.next := by
      refine (insertGapPicture_next n s).bind fun ret t ht => Ends.ite (fun _ => Ends.pure ht) fun _ => ?_
      exact (hrest l t).imp (fun u hu => ht.trans_le hu.next) fun _ u hu => ht.trans_le hu.next
    exact h.final fun _ _ h => h

/-- The loop makes a frame for every number up to that of the slice. -/
lemma frameNumGapLoop_eq {frameNum : Int} {k fuel : Nat} {n : Int} (hk : k < fuel)
    (hf : 0 ≤ frameNum ∧ frameNum < s.maxFrameNum) (hn : 0 ≤ n ∧ n < s.maxFrameNum)
    (h : (frameNum - n) % s.maxFrameNum = k) :
    frameNumGapLoop env frameNum fuel n s = insertGapPictures env (frameNumsFrom s.maxFrameNum n k) s := by
  induction k generalizing s fuel n with
  | zero =>
    obtain ⟨fuel, rfl⟩ := Nat.exists_eq_succ_of_ne_zero (Nat.ne_zero_of_lt hk)
    have heq : n = frameNum := by
      have := Int.eq_zero_of_abs_lt_dvd (Int.dvd_of_emod_eq_zero h) (abs_lt.mpr (by omega))
      omega
    rw [frameNumGapLoop, if_pos heq]
    rfl
  | succ k ih =>
    obtain ⟨fuel, rfl⟩ := Nat.exists_eq_succ_of_ne_zero (Nat.ne_zero_of_lt hk)
    have hne : n ≠ frameNum := by
      rintro rfl
      simp at h
      omega
    rw [frameNumGapLoop, if_neg hne, frameNumsFrom, insertGapPictures, run_bind, run_bind]
    cases hm : insertGapPicture env n s with
    | error e t => rfl
    | ok ret t =>
      simp only
      split
      · rfl
      · have hmax := ((respects_insertGapPicture n).of_ok hm).maxFrameNum
        have hpos : 0 < (s.maxFrameNum : Int) := hn.1.trans_lt hn.2
        rw [run_bind, run_get]
        simp only [hmax]
        rw [Int.tmod_eq_emod_of_nonneg (by omega), ← hmax]
        refine ih (Nat.lt_of_succ_lt_succ hk) (hmax ▸ hf) ?_ ?_
        · rw [hmax]
          exact ⟨Int.emod_nonneg _ hpos.ne', Int.emod_lt_of_pos _ hpos⟩
        · have hstep : frameNum - (n + 1) = k + s.maxFrameNum * ((frameNum - n) / s.maxFrameNum) := by
            have := Int.emod_add_mul_ediv (frameNum - n) s.maxFrameNum
            push_cast at h
            omega
          have hlt := Int.emod_lt_of_pos (frameNum - n) hpos
          rw [hmax, Int.sub_emod_emod, hstep, Int.add_mul_emod_self_left]
          exact Int.emod_eq_of_lt (Int.natCast_nonneg k) (by push_cast at h; omega)

lemma respects_handleFrameNumGap (frameNum : Int) : Respects SameFrameNum (handleFrameNumGap env frameNum) := by
  have hloop : ∀ (fuel : Nat) (n : Int), Respects SameFrameNum (frameNumGapLoop env frameNum fuel n) := by
    intro fuel
    induction fuel with
    | zero => exact fun _ => Respects.pure _
    | succ fuel ih =>
      refine fun n => Respects.ite (fun _ => Respects.pure _) fun _ => (respects_insertGapPicture n).bind fun ret => ?_
      exact Respects.ite (fun _ => Respects.pure _) fun _ => Respects.get_bind fun _ => ih _
  refine Respects.get_bind fun s => ?_
  cases s.sps env with
  | none => exact Respects.pure _
  | some sps =>
    refine Respects.ite (fun _ => Respects.pure _) fun _ => Respects.ite (fun _ => Respects.throw _) fun _ => ?_
    refine Respects.ite (fun _ => Respects.pure _) fun _ => Respects.ite (fun _ => Respects.pure _) fun _ => ?_
    exact Respects.ite (fun _ => Respects.pure _) fun _ => hloop _ _

lemma handleFrameNumGap_eq {sps : GstH264SPS} {frameNum : Int} (hsps : s.sps env = some sps)
    (hgaps : sps.gapsInFrameNumValueAllowedFlag) (hprev : 0 ≤ s.prevRefFrameNum)
    (hf : 0 ≤ frameNum ∧ frameNum < s.maxFrameNum) (hdpb : s.store.dpb.picList ≠ []) :
    handleFrameNumGap env frameNum s =
      insertGapPictures env (missingFrameNums s.maxFrameNum s.prevRefFrameNum frameNum) s := by
  have hpos : 0 < (s.maxFrameNum : Int) := hf.1.trans_lt hf.2
  rw [handleFrameNumGap, run_bind, run_get]
  simp only [hsps]
  unfold missingFrameNums
  split
  · rfl
  · have hsize : s.store.dpbGetSize ≠ 0 := fun h => hdpb (List.length_eq_zero_iff.mp h)
    have hn := Int.emod_nonneg (s.prevRefFrameNum + 1) hpos.ne'
    have hlt := Int.emod_lt_of_pos (s.prevRefFrameNum + 1) hpos
    have hcount : (frameNum - (s.prevRefFrameNum + 1)) % s.maxFrameNum =
        ((frameNum - (s.prevRefFrameNum + 1)) % s.maxFrameNum).toNat :=
      (Int.toNat_of_nonneg (Int.emod_nonneg _ hpos.ne')).symm
    have hless := Int.emod_lt_of_pos (frameNum - (s.prevRefFrameNum + 1)) hpos
    rw [if_neg (by omega), Int.tmod_eq_emod_of_nonneg (by omega)]
    by_cases heq : (s.prevRefFrameNum + 1) % s.maxFrameNum = frameNum
    · rw [if_pos heq, ← heq, Int.emod_sub_emod, Int.sub_self, Int.zero_emod]
      rfl
    · rw [if_neg heq, if_neg hsize, if_neg (by simp [hgaps])]
      refine frameNumGapLoop_eq (by omega) hf ⟨hn, hlt⟩ ?_
      rw [Int.sub_emod_emod, ← hcount]

lemma missingFrameNums_eq_nil {maxFrameNum : Nat} {prev frameNum : Int} (hf : 0 ≤ frameNum ∧ frameNum < maxFrameNum) :
    missingFrameNums maxFrameNum prev frameNum = [] ↔ prev = frameNum ∨ (prev + 1) % maxFrameNum = frameNum := by
  have hpos : 0 < (maxFrameNum : Int) := hf.1.trans_lt hf.2
  unfold missingFrameNums
  split
  · rename_i h
    exact iff_of_true rfl (.inl h)
  · rename_i h
    rw [or_iff_right h, ← List.length_eq_zero_iff, length_frameNumsFrom]
    have hlt := Int.emod_lt_of_pos (prev + 1) hpos
    have hn := Int.emod_nonneg (prev + 1) hpos.ne'
    refine ⟨fun h0 => ?_, fun h0 => ?_⟩
    · have hmod : (frameNum - (prev + 1) % maxFrameNum) % maxFrameNum = 0 := by
        rw [Int.sub_emod_emod]
        have := Int.emod_nonneg (frameNum - (prev + 1)) hpos.ne'
        omega
      have := Int.eq_zero_of_abs_lt_dvd (Int.dvd_of_emod_eq_zero hmod) (abs_lt.mpr (by omega))
      omega
    · rw [← h0, Int.emod_sub_emod, Int.sub_self, Int.zero_emod]
      rfl

/-- The frames for a gap are as many as there are numbers missing, and a second slice with the same number and
no reference picture before it makes them again, unless none is missing. -/
theorem handleFrameNumGap_again_iff (env : Env P) (frameNum : Int) (s : Decoder P) (hprev : 0 ≤ s.prevRefFrameNum)
    (hf : 0 ≤ frameNum ∧ frameNum < s.maxFrameNum) (hgaps : ∃ sps, s.sps env = some sps ∧ sps.gapsInFrameNumValueAllowedFlag)
    (hdpb : s.store.dpb.picList ≠ []) :
    (handleFrameNumGap env frameNum s =
        insertGapPictures env (missingFrameNums s.maxFrameNum s.prevRefFrameNum frameNum) s ∧
      (missingFrameNums s.maxFrameNum s.prevRefFrameNum frameNum).length < s.maxFrameNum) ∧
    ∀ t, handleFrameNumGap env frameNum s = .ok .ok t →
      (t.maxFrameNum = s.maxFrameNum ∧ t.prevRefFrameNum = s.prevRefFrameNum) ∧
      ∀ u : Decoder P, u.maxFrameNum = t.maxFrameNum → u.prevRefFrameNum = t.prevRefFrameNum →
        (∃ sps, u.sps env = some sps ∧ sps.gapsInFrameNumValueAllowedFlag) → u.store.dpb.picList ≠ [] →
        (final (handleFrameNumGap env frameNum u) = u ↔
          s.prevRefFrameNum = frameNum ∨ (s.prevRefFrameNum + 1) % s.maxFrameNum = frameNum) := by
  obtain ⟨sps, hsps, hallowed⟩ := hgaps
  have heq := handleFrameNumGap_eq hsps hallowed hprev hf hdpb
  refine ⟨⟨heq, length_missingFrameNums (by omega) _ _⟩, fun t ht => ?_⟩
  have hsame := (respects_handleFrameNumGap frameNum).of_ok ht
  refine ⟨⟨hsame.maxFrameNum, hsame.prevRefFrameNum⟩, fun u hmax hprevu ⟨sps', hsps', hallowed'⟩ hdpb' => ?_⟩
  rw [hsame.maxFrameNum] at hmax
  rw [hsame.prevRefFrameNum] at hprevu
  rw [handleFrameNumGap_eq hsps' hallowed' (hprevu ▸ hprev) (hmax ▸ hf) hdpb', hmax, hprevu, ← missingFrameNums_eq_nil hf]
  refine ⟨fun h => ?_, fun h => by rw [h]; rfl⟩
  by_contra hne
  exact lt_irrefl _ (h ▸ insertGapPictures_next hne u)

end Gaps

section Examples

def insertedFrameNums (log : List Event) : List Int := log.filterMap fun
  | .removing info => if info.picture.nonexisting then some info.picture.frameNum else none
  | _ => none

def finishedReferences (log : List Event) : List Int := log.filterMap fun
  | .reference x => some x.frameNum
  | _ => none

-- two pictures with the frame number 3 that no picture refers to follow the IDR picture
def gapScript : Script where
  sps := [{ Script.progressive with gapsInFrameNumValueAllowedFlag := true, maxFrameNum := 16, numRefFrames := 4 }]
  pps := [{}]
  slices := [{}, { frameNum := 3 }]

def gapEnd : Decoder Tables :=
  final (runInputs gapScript.env (Script.frames [[Script.spsUnit 0, Script.ppsUnit 0, Script.idrUnit 0],
    [Script.sliceUnit 1 0], [Script.sliceUnit 1 0]]) (Decoder.start gapScript.env))

theorem handleFrameNumGap_again : insertedFrameNums gapEnd.store.log = [2, 1, 2, 1] ∧
    finishedReferences gapEnd.store.log = [0] := by decide +kernel

def afterIdr : Decoder Tables where
  store := {
    pic := fun _ => { refcount := 1, ref := .shortTerm, refPic := true }
    next := 1
    dpb := { picList := [0], maxNumFrames := 4 } }
  parser := { sps := gapScript.sps }
  activeSps := some 0
  maxFrameNum := 16

-- what the first slice leaves behind
def afterGap : Decoder Tables := final (handleFrameNumGap gapScript.env 3 afterIdr)

theorem handleFrameNumGap_again_three :
    (handleFrameNumGap gapScript.env 3 afterIdr = insertGapPictures gapScript.env (missingFrameNums 16 0 3) afterIdr ∧
      (missingFrameNums 16 0 3).length = 2) ∧
    handleFrameNumGap gapScript.env 3 afterIdr = .ok .ok afterGap ∧ afterGap.prevRefFrameNum = 0 ∧
    final (handleFrameNumGap gapScript.env 3 afterGap) ≠ afterGap := by
  obtain ⟨t, ht⟩ : ∃ t, handleFrameNumGap gapScript.env 3 afterIdr = .ok .ok t := exists_of_returned (by decide +kernel)
  obtain rfl : afterGap = t := by rw [afterGap, ht, final_ok]
  obtain ⟨sps, hsps, hgaps⟩ : ∃ sps ∈ afterGap.sps gapScript.env, sps.gapsInFrameNumValueAllowedFlag := by
    decide +kernel
  obtain ⟨hfirst, hsecond⟩ := handleFrameNumGap_again_iff gapScript.env 3 afterIdr (by decide) (by decide) ⟨_, rfl, rfl⟩
    (by decide)
  obtain ⟨hsame, hagain⟩ := hsecond afterGap ht
  refine ⟨⟨hfirst.1, by decide⟩, ht, hsame.2, fun heq => ?_⟩
  have hnone := (hagain afterGap rfl rfl ⟨sps, hsps, hgaps⟩ (by decide +kernel)).mp heq
  exact absurd hnone (by decide)

end Examples

end VkVideoParser.H264
