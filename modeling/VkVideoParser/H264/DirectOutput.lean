import Mathlib.Data.Int.Order.Basic
import VkVideoParser.Library.Lowest
import VkVideoParser.Library.Ends
import VkVideoParser.H264.Runs.Finish
import VkVideoParser.H264.Script

/-! Non-reference frames that are output directly. -/

namespace VkVideoParser.H264

open Execution Lowest

variable {P : Type} {env : Env P} {s t : Decoder P} {p q : PicId} {mode : BumpMode}

namespace Store

variable {a b : Store}

/-- Nothing but frames is stored. -/
structure Progressive (a : Store) : Prop where
  interlaced : a.dpb.interlaced = false
  frames : ∀ q ∈ a.dpb.picList, (a.pic q).isFrame

lemma Shrinks.content (h : Shrinks a b) (q : PicId) : (b.pic q).field = (a.pic q).field ∧
    (b.pic q).picOrderCnt = (a.pic q).picOrderCnt ∧ (b.pic q).ref = (a.pic q).ref ∧
    (b.pic q).refPic = (a.pic q).refPic := by
  obtain ⟨_, _, _, _, hq, -⟩ := h.pic q
  rw [hq]
  exact ⟨rfl, rfl, rfl, rfl⟩

lemma Progressive.shrinks (ha : a.Progressive) (h : Shrinks a b) : b.Progressive := by
  refine ⟨h.interlaced.trans ha.interlaced, fun q hq => ?_⟩
  rw [Picture.isFrame, (h.content q).1]
  exact ha.frames q (h.picList.subset hq)

def waits (a : Store) (q : PicId) : Bool := waitsForOutput (a.pic q)

def poc (a : Store) (q : PicId) : Int := (a.pic q).picOrderCnt

lemma lowest_eq (a : Store) :
    a.dpbGetLowestOutputNeededPicture = lowestFrom a.waits a.poc 0 a.dpb.picList none := by
  have hfrom : ∀ (l : List PicId) (i : Nat) (o : Option (Nat × PicId)),
      lowestOutputNeededFrom a.pic i l o = lowestFrom a.waits a.poc i l o := by
    intro l
    induction l with
    | nil => exact fun _ _ => rfl
    | cons q l ih =>
      intro i o
      rw [lowest_cons, ih, lowestFrom]
      refine congrArg _ ?_
      cases o <;> rfl
  exact hfrom _ 0 none

lemma isLowest {i : Nat} (h : a.dpbGetLowestOutputNeededPicture = some (i, p)) :
    IsLowest a.waits a.poc a.dpb.picList i p := by
  have : Found a.waits a.poc a.dpb.picList _ := found_lowestFrom a.dpb.picList
  rw [← lowest_eq, h] at this
  exact this

lemma none_waits (h : a.dpbGetLowestOutputNeededPicture = none) : ∀ q ∈ a.dpb.picList, a.waits q = false := by
  have : Found a.waits a.poc a.dpb.picList _ := found_lowestFrom a.dpb.picList
  rw [← lowest_eq, h] at this
  exact this

lemma Progressive.waits (ha : a.Progressive) (hq : q ∈ a.dpb.picList) (hn : (a.pic q).neededForOutput) :
    a.waits q := by
  simp [Store.waits, waitsForOutput, hn, ha.frames q hq]

/-- No stored picture that waits comes before `p` in output order. -/
def NoneBefore (p : PicId) (a : Store) : Prop :=
  ∀ q ∈ a.dpb.picList, (a.pic q).neededForOutput → (a.pic p).picOrderCnt ≤ (a.pic q).picOrderCnt

lemma NoneBefore.sameShape (ha : a.NoneBefore p) (h : SameShape a b) : b.NoneBefore p := by
  intro q hq hn
  obtain ⟨_, hp⟩ := h.pic p
  obtain ⟨_, hq'⟩ := h.pic q
  rw [h.dpb] at hq
  rw [hq'] at hn ⊢
  rw [hp]
  exact ha q hq hn

-- in a full DPB the rule of the non-reference pictures is the only one
lemma needsBump_full {x : Picture} {b : Bool} (hx : x.refPic = false) (hfull : a.dpbHasEmptyFrameBuffer = false)
    (h : a.dpbNeedsBump (some x) mode = .ok b) {i : Nat} (hl : a.dpbGetLowestOutputNeededPicture = some (i, p)) :
    b = decide ((a.pic p).picOrderCnt < x.picOrderCnt) := by
  simp only [dpbNeedsBump, hl] at h
  split at h
  · cases h
  · rw [if_pos (by simp [hfull])] at h
    refine (Except.ok.inj h).symm.trans ?_
    simp [normalBump, hfull, hx]

lemma noneBefore_of_lowest (ha : a.Progressive) (hx : (a.pic p).refPic = false)
    (hfull : a.dpbHasEmptyFrameBuffer = false) (h : a.dpbNeedsBump (some (a.pic p)) mode = .ok false) :
    a.NoneBefore p := by
  intro q hq hn
  have hw := ha.waits hq hn
  cases hl : a.dpbGetLowestOutputNeededPicture with
  | none => rw [none_waits hl q hq] at hw; cases hw
  | some r =>
    have := needsBump_full hx hfull h hl
    have hge : ¬(a.pic r.2).picOrderCnt < (a.pic p).picOrderCnt := by simpa using this
    exact (not_lt.mp hge).trans ((isLowest hl).le q hq hw)

lemma noneBefore_of_none (ha : a.Progressive) (h : a.dpbGetLowestOutputNeededPicture = none) : a.NoneBefore p := by
  intro q hq hn
  have hw := ha.waits hq hn
  rw [none_waits h q hq] at hw
  cases hw

end Store

structure NonRefFrame (x : Picture) : Prop where
  isFrame : x.isFrame
  ref : x.ref = .none
  refPic : x.refPic = false

lemma NonRefFrame.shrinks {a b : Store} (hp : NonRefFrame (a.pic p)) (h : Store.Shrinks a b) : NonRefFrame (b.pic p) := by
  obtain ⟨hf, -, hr, hrp⟩ := h.content p
  exact ⟨by rw [Picture.isFrame, hf]; exact hp.isFrame, hr.trans hp.ref, hrp.trans hp.refPic⟩

/-- Either nothing is stored, or frames are, and no reference is being finished. -/
def Finishing (p : PicId) (s : Decoder P) : Prop :=
  s.store.dpb.picList = [] ∨ (s.store.Progressive ∧ NonRefFrame (s.pic p))

lemma Finishing.shrinks (hs : Finishing p s) (h : Store.Shrinks s.store t.store) : Finishing p t := by
  refine hs.imp (fun hnil => ?_) fun hs => ⟨hs.1.shrinks h, hs.2.shrinks h⟩
  have := h.picList
  rw [hnil] at this
  exact List.sublist_nil.mp this

/-- finish_picture up to its look at the room in the DPB. -/
def finishUntilPlaced (env : Env P) (bumpLevel : BumpMode) (p : PicId) (ret : GstFlowReturn) : DecoderM P GstFlowReturn := do
  markReference env p
  modify fun s => rememberPicture (s.pic p) s
  showRemoving p
  onStore Store.dpbDeleteUnused
  releaseSecondFrame p
  let ret ← drainMemMgmt5 env p ret
  let ret ← bumpDpb env bumpLevel (some p) ret
  showPlacing p
  onStore (Store.ref p)
  onStore (Store.touchFirstField p)
  return ret

-- the rest of placePicture
def storeOrOutput (env : Env P) (p : PicId) (ret : GstFlowReturn) : DecoderM P GstFlowReturn := do
  let s ← get
  if goesToDpb s.store (s.pic p) then do
    storePicture env p
    return ret
  else outputPictureDirectly env p ret

lemma finishPicture_eq (p : PicId) (ret : GstFlowReturn) : finishPicture env p ret = (do
    let bumpLevel := getBumpLevel env (← get)
    let ret ← finishUntilPlaced env bumpLevel p ret
    let ret ← storeOrOutput env p ret
    onStore (Store.unref p)
    liveBump env bumpLevel ret) := by
  simp only [finishPicture, finishUntilPlaced, placePicture, storeOrOutput, bind_assoc, pure_bind]

lemma markReference_returns (hp : (s.pic p).ref = .none) :
    Returns (markReference env p) s fun _ t => s = t := by
  refine Ends.get_bind (Ends.ite (fun h => ?_) fun _ => Ends.pure rfl)
  rw [Picture.isRef, hp] at h
  cases h

lemma releaseSecondFrame_returns (hs : Finishing p s) : Returns (releaseSecondFrame p) s fun _ t => Finishing p t := by
  refine Ends.get_bind ?_
  simp only
  split
  · rename_i q _ _
    have ht : Finishing p (s.mapStore (Store.touch q)) := hs.shrinks (Store.sameShape_touch q s.store).shrinks
    refine Ends.edit_bind trivial (Ends.ite (fun _ => Ends.valueOr_bind trivial fun frame _ => ?_) fun _ =>
      Ends.pure ht)
    exact Ends.modify (ht.shrinks (Store.sameShape_emit _ _).shrinks)
  · exact Ends.pure hs

lemma drainMemMgmt5_returns (ret : GstFlowReturn) (hs : Finishing p s) :
    Returns (drainMemMgmt5 env p ret) s fun _ t => Finishing p t := by
  refine Ends.get_bind (Ends.ite (fun _ => ?_) fun _ => Ends.pure hs)
  refine Ends.bind (drainInternal_moves (k := {})).returns ?_
  rintro _ t ⟨_, -, ht⟩
  exact Ends.pure (.inl ht.1)

lemma doOutputPicture_returns (q : PicId) (ret : GstFlowReturn) (s : Decoder P) :
    Returns (doOutputPicture env q ret) s fun _ t => Store.SameShape s.store t.store :=
  (doOutputPicture_moves (k := { hold := [(.output, q)] }) List.mem_cons_self).returns.mono
    fun _ _ ⟨_, _, h⟩ => h.shape

-- the loop goes on until the picture may be placed
lemma bumpDpbLoop_returns (fuel : Nat) (ret : GstFlowReturn) (hs : Finishing p s) (hfuel : s.store.waiting < fuel) :
    Returns (bumpDpbLoop env mode (some p) fuel ret) s fun _ t => Finishing p t ∧
      (t.store.dpbHasEmptyFrameBuffer = false → t.store.NoneBefore p) := by
  induction fuel generalizing s ret with
  | zero => exact absurd hfuel (Nat.not_lt_zero _)
  | succ fuel ih =>
    have hempty : s.store.dpb.picList = [] → s.store.NoneBefore p := by
      intro h q hq
      rw [h] at hq
      cases hq
    have hu : Finishing p (s.emit (.bumping (s.bumpInfo mode (some p)))) := hs.shrinks (Store.sameShape_emit _ _).shrinks
    have hwaiting := (Store.sameShape_emit s.store (.bumping (s.bumpInfo mode (some p)))).shrinks.waiting_le
    refine Ends.get_bind (Ends.modify_bind ?_)
    cases hneeds : s.store.dpbNeedsBump ((some p).map s.pic) mode with
    | error e => exact Ends.throw trivial
    | ok b =>
      cases b with
      | false =>
        refine Ends.pure ⟨hu, fun hfull => ?_⟩
        rcases hu with hu | ⟨hprog, hx⟩
        · exact hempty hu
        · exact Store.noneBefore_of_lowest hprog hx.refPic hfull hneeds
      | true =>
        refine Ends.edit_bind trivial ?_
        cases hb : (s.store.emit (.bumping (s.bumpInfo mode (some p)))).dpbBump false with
        | mk o a =>
          simp only [Decoder.emit_store, hb]
          cases o with
          | none =>
            obtain ⟨hl, hsame⟩ := Store.bump_eq_none (congrArg Prod.fst hb)
            have hsame : Decoder.mapStore (fun st => (st.dpbBump false).2) (s.emit (.bumping (s.bumpInfo mode (some p)))) = _ :=
              Decoder.mapStore_of_eq hsame
            rw [hsame]
            refine Ends.pure ⟨hu, fun _ => ?_⟩
            rcases hu with hu | ⟨hprog, -⟩
            · exact hempty hu
            · exact Store.noneBefore_of_none hprog hl
          | some q =>
            refine Ends.bind (doOutputPicture_returns q ret _) fun ret' t ht => ?_
            refine ih ret' (hu.shrinks (Store.shrinks_dpbBump.trans ht.shrinks)) ?_
            have := (ht.shrinks.waiting_le).trans_lt (Store.bump_waiting (congrArg Prod.fst hb))
            exact (this.trans_le hwaiting).trans_le (Nat.lt_succ_iff.mp hfuel)

lemma finishUntilPlaced_returns (ret : GstFlowReturn) (hprog : s.store.Progressive) (hp : NonRefFrame (s.pic p)) :
    Returns (finishUntilPlaced env mode p ret) s fun _ t =>
      t.store.dpbHasEmptyFrameBuffer = false → t.store.NoneBefore p := by
  have hs : Finishing p s := .inr ⟨hprog, hp⟩
  refine Ends.bind (markReference_returns hp.ref) ?_
  rintro - _ rfl
  refine Ends.modify_bind (Ends.modify_bind (Ends.edit_bind trivial ?_))
  have hdelete := hs.shrinks (t := ((rememberPicture (s.pic p) s).emit (.removing
    ((rememberPicture (s.pic p) s).dpbInfo p))).mapStore Store.dpbDeleteUnused)
    ((Store.sameShape_emit _ _).shrinks.trans Store.shrinks_dpbDeleteUnused)
  refine Ends.bind (releaseSecondFrame_returns hdelete) fun _ t ht => ?_
  refine Ends.bind (drainMemMgmt5_returns ret ht) fun ret' u hu => ?_
  refine Ends.bind (Ends.get_bind (bumpDpbLoop_returns _ ret' hu (Nat.lt_succ_of_le List.countP_le_length))) ?_
  rintro ret'' v ⟨-, hv⟩
  refine Ends.modify_bind (Ends.edit_bind trivial (Ends.edit_bind trivial (Ends.pure fun hfull => ?_)))
  have hshape : Store.SameShape v.store
      (((v.emit (.placing (v.dpbInfo p))).mapStore (Store.ref p)).mapStore (Store.touchFirstField p)).store :=
    ((Store.sameShape_emit _ _).trans (Store.sameShape_ref p _)).trans (sameShape_touchFirstField p _)
  rw [hshape.hasEmpty] at hfull
  exact (hv hfull).sameShape hshape

lemma storeOrOutput_stores (ret : GstFlowReturn) (h : goesToDpb s.store (s.pic p)) :
    storeOrOutput env p ret s = (do storePicture env p; return ret : DecoderM P GstFlowReturn) s := by
  unfold storeOrOutput
  rw [run_bind, run_get]
  simp only [h, if_true]

lemma storeOrOutput_outputs (ret : GstFlowReturn) (h : goesToDpb s.store (s.pic p) = false) :
    storeOrOutput env p ret s = outputPictureDirectly env p ret s := by
  unfold storeOrOutput
  rw [run_bind, run_get]
  simp only [h, Bool.false_eq_true, if_false]

/-- finish_picture stores a non-reference frame or outputs it directly, and it does this only when no stored picture
that waits comes before the frame in output order. A bump for want of room outputs a picture that does. -/
theorem directOutput_last (env : Env P) (p : PicId) (ret : GstFlowReturn) (s : Decoder P)
    (hprog : s.store.Progressive) (hp : NonRefFrame (s.pic p)) :
    (finishPicture env p ret s = (do
      let ret ← finishUntilPlaced env (getBumpLevel env s) p ret
      let ret ← storeOrOutput env p ret
      onStore (Store.unref p)
      liveBump env (getBumpLevel env s) ret : DecoderM P GstFlowReturn) s) ∧
    (∀ mode ret' t, finishUntilPlaced env mode p ret s = .ok ret' t →
      if goesToDpb t.store (t.pic p) then
        storeOrOutput env p ret' t = (do storePicture env p; return ret' : DecoderM P GstFlowReturn) t
      else storeOrOutput env p ret' t = outputPictureDirectly env p ret' t ∧ t.store.NoneBefore p) ∧
    ∀ mode q drain, s.store.dpbHasEmptyFrameBuffer = false → s.store.dpbNeedsBump (some (s.pic p)) mode = .ok true →
      (s.store.dpbBump drain).1 = some q → (s.pic q).picOrderCnt < (s.pic p).picOrderCnt := by
  refine ⟨by rw [finishPicture_eq]; rfl, fun mode ret' t h => ?_, fun mode q drain hfull hneeds hb => ?_⟩
  · split
    · exact storeOrOutput_stores ret' ‹_›
    · rename_i hdirect
      have hdirect : goesToDpb t.store (t.pic p) = false := Bool.eq_false_iff.mpr hdirect
      refine ⟨storeOrOutput_outputs ret' hdirect, (finishUntilPlaced_returns ret hprog hp).of_eq_ok h ?_⟩
      simp only [goesToDpb, Bool.or_eq_false_iff] at hdirect
      exact hdirect.2
  · obtain ⟨i, hl⟩ := Store.bump_eq_some hb
    exact of_decide_eq_true (Store.needsBump_full hp.refPic hfull hneeds hl).symm

section Examples

-- a reference waits in a DPB for one frame, and a frame that comes before it is finished
def fullDpb : Decoder Tables where
  store := {
    pic := fun p =>
      if p = 0 then { refcount := 1, ref := .shortTerm, refPic := true, neededForOutput := true, picOrderCnt := 8 }
      else { refcount := 1, picOrderCnt := 4 }
    next := 2
    dpb := { picList := [0], maxNumFrames := 1, numOutputNeeded := 1 } }
  parser := {}

def fullDpbEnv : Env Tables := Script.env { sps := [], pps := [], slices := [] }

theorem directOutput_fullDpb : ∃ t, finishUntilPlaced fullDpbEnv .veryLowLatency 1 .ok fullDpb = .ok .ok t ∧
    storeOrOutput fullDpbEnv 1 .ok t = outputPictureDirectly fullDpbEnv 1 .ok t ∧ t.store.NoneBefore 1 :=
  ⟨_, rfl, (directOutput_last fullDpbEnv 1 .ok fullDpb ⟨rfl, by decide⟩ ⟨rfl, rfl, rfl⟩).2.1 .veryLowLatency .ok _ rfl⟩

end Examples

end VkVideoParser.H264
