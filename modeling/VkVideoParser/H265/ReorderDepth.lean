import VkVideoParser.H265.Runs
import VkVideoParser.H265.Stock
import VkVideoParser.H265.Script

/-! The bump for the reordering: the pictures that wait are among those of the coded video sequence at hand, if none of
the one before waited when it began. -/

namespace VkVideoParser.H265

open Execution Histories Lowest Relation Reordering

variable {P : Type} {env : Env P} {k : Phase} {s t : Decoder P} {x y : Phase × Decoder P} {p q : PicId}

lemma StoreInfo.opening_clean {info : StoreInfo} (h : info.opening = .clean) :
    ∀ x ∈ info.stored, x.neededForOutput = false := by
  unfold opening at h
  split at h
  · split at h
    · cases h
    · rename_i hnone
      exact fun x hx => Bool.eq_false_iff.mpr fun hw => hnone (List.any_eq_true.mpr ⟨x, hx, hw⟩)
  · cases h

namespace Store

variable {a b : Store} {l : List PicId}

abbrev Queued (a : Store) : Prop := Reordering.Queued a.waits a.poc a.dpb.picList (H265.steps a.log)

lemma poc_keeps (h : Keeps a b) : b.poc = a.poc := by
  funext q
  exact (h.pic q).number.1

lemma poc_modifyPic {f : Picture → Picture} (hf : ∀ x, (f x).picOrderCnt = x.picOrderCnt) (p : PicId) (a : Store) :
    (a.modifyPic p f).poc = a.poc := by
  funext q
  rw [poc, poc, modifyPic_pic]
  split
  · rename_i hq
    rw [hf, hq]
  · rfl

lemma Queued.sameNeeds (h : a.Queued) (hs : SameNeeds a b) (hp : ∀ q ∈ a.dpb.picList, b.poc q = a.poc q) : b.Queued := by
  rw [Queued, hs.dpb, hs.steps, hs.waits]
  exact Reordering.Queued.fewer h (List.Subperm.refl _) fun q hq hw => ⟨hw, hp q hq⟩

lemma Queued.keeps (h : a.Queued) (hs : SameNeeds a b) (hk : Keeps a b) : b.Queued :=
  h.sameNeeds hs fun q _ => congrFun (poc_keeps hk) q

-- only pictures that are not stored change
lemma Queued.elsewhere (h : a.Queued) (hd : b.dpb = a.dpb) (hl : b.log = a.log)
    (hp : ∀ q ∈ a.dpb.picList, b.pic q = a.pic q) : b.Queued := by
  rw [Queued, hd, hl]
  refine Reordering.Queued.fewer h (List.Subperm.refl _) fun q hq hw => ?_
  rw [waits, hp q hq] at hw
  exact ⟨hw, congrArg Picture.picOrderCnt (hp q hq)⟩

lemma Queued.bumped {drain : Bool} {i : Nat} (h : a.Queued) (hb : Bumped drain i p a b) (hk : Keeps a b) : b.Queued := by
  rw [Queued, hb.steps, hb.waits, poc_keeps hk]
  refine Reordering.Queued.fewer h hb.subperm fun q _ hw => ⟨?_, rfl⟩
  rw [Function.update_apply] at hw
  split at hw
  · cases hw
  · exact hw

lemma Queued.dpbDeleteUnused (h : a.Queued) : a.dpbDeleteUnused.Queued := by
  have hsteps : H265.steps a.dpbDeleteUnused.log = H265.steps a.log := (sameNeeds_unrefAll _ _).steps
  rw [Queued, hsteps, dpbDeleteUnused_picList, dpbDeleteUnused_waits, poc_keeps (keeps_dpbDeleteUnused a)]
  exact Reordering.Queued.fewer h List.filter_sublist.subperm fun q _ hw => ⟨hw, rfl⟩

lemma Queued.dpbClear (h : a.Queued) : a.dpbClear.Queued := by
  have hsteps : H265.steps a.dpbClear.log = H265.steps a.log := (sameNeeds_unrefAll _ _).steps
  rw [Queued, hsteps, dpbClear_picList]
  exact Reordering.Queued.fewer h List.nil_subperm fun q hq => absurd hq List.not_mem_nil

-- a clean period begins when nothing waits
lemma Queued.storePicture (h : a.Queued) (hp : p ∉ a.dpb.picList) : (a.storePicture p).Queued := by
  have hpoc := poc_keeps (keeps_storePicture p a)
  have hsteps : H265.steps (a.storePicture p).log = _ := markForOutput_steps p (a.emit _)
  have hpics : (a.storePicture p).dpb.picList = a.dpb.picList ++ [p] := dpbAdd_picList p (a.emit _)
  have hw : (a.storePicture p).waits = Function.update a.waits p (a.pic p).outputFlag := dpbAdd_waits p (a.emit _)
  have hcome : (a.pic p).picOrderCnt = (a.storePicture p).poc p := (congrFun hpoc p).symm
  rw [Queued, hsteps, hpics]
  refine Eq.subst (motive := fun n => Reordering.Queued _ _ _ (.come _ _ n :: H265.steps a.log)) hcome.symm ?_
  refine Reordering.Queued.put h (fun hclean q hq => ?_) (fun q hq hwq => ?_) fun hwp => ?_
  · exact StoreInfo.opening_clean hclean _ (List.mem_map_of_mem hq)
  · rw [hw, Function.update_of_ne (fun hqp : q = p => hp (hqp ▸ hq))] at hwq
    exact ⟨hwq, congrFun hpoc q⟩
  · rw [hw, Function.update_self] at hwp
    exact hwp

lemma Queued.look (h : s.store.Queued) (hs : s.store.Stocked l) (env : Env P) (site : BumpSite) (n m : Nat) :
    (s.store.emit (.bumping (s.bumpInfo env site n m))).Queued := by
  cases hl : s.store.dpbGetLowestOutputNeededPicture with
  | none =>
    have hstep : Event.step (.bumping (s.bumpInfo env site n m)) = none := by
      simp only [Event.step, Decoder.bumpInfo, hl, Option.map_none, ite_self]
    rw [Queued, H265.steps, emit, List.filterMap_cons_none hstep]
    exact h
  | some r =>
    obtain ⟨i, p⟩ := r
    by_cases hn : s.store.bumpsForReorder n
    · have hstep : Event.step (.bumping (s.bumpInfo env site n m)) = some (.take n (s.store.poc p)) := by
        simp only [Event.step, Decoder.bumpInfo, hl, Option.map_some, hn, if_true]
        rfl
      rw [Queued, H265.steps, emit, List.filterMap_cons_some hstep]
      refine Reordering.Queued.take h (isLowest hl) ?_
      have hneeded : (n : Int) < s.store.dpb.numOutputNeeded :=
        of_decide_eq_true (Bool.and_eq_true_iff.mp hn).2
      rw [hs.count] at hneeded
      exact Int.ofNat_lt.mp hneeded
    · have hstep : Event.step (.bumping (s.bumpInfo env site n m)) = none := by
        simp only [Event.step, Decoder.bumpInfo, hn, Bool.false_eq_true, if_false]
      rw [Queued, H265.steps, emit, List.filterMap_cons_none hstep]
      exact h

end Store

def QueuedIn (x : Phase × Decoder P) : Prop := x.2.store.Queued

lemma queued_setVkPic (h : QueuedIn (k, s)) (p : PicId) (vkpic : VkPic) : QueuedIn (k, setVkPic p vkpic s) :=
  Store.Queued.sameNeeds h (Store.sameNeeds_modifyPic (f := fun x => { x with userData := some vkpic }) (fun _ => rfl) p _)
    fun q _ => congrFun (Store.poc_modifyPic (f := fun x => { x with userData := some vkpic }) (fun _ => rfl) p _) q

lemma Act.queued (h : Act env x y) (hs : StockedIn x) (hx : QueuedIn x) : QueuedIn y := by
  cases h with
  | book h =>
    refine Store.Queued.sameNeeds hx ⟨h.dpb, ?_, congrArg H265.steps h.log⟩ fun q _ => ?_
    · unfold Store.waits
      rw [h.pic]
    · rw [Store.poc, h.pic]
      rfl
  | new hk =>
    refine Store.Queued.elsewhere hx rfl rfl fun q hq => Function.update_of_ne ?_ _ _
    exact Nat.ne_of_lt (hs.made q (List.mem_append_right _ hq))
  | edit p hk hf =>
    refine Store.Queued.elsewhere hx rfl rfl fun q hq => Function.update_of_ne ?_ _ _
    rintro rfl
    refine List.disjoint_of_nodup_append hs.apart (List.mem_append_left _ ?_) hq
    rcases hk with hk | hk <;> exact hk ▸ List.mem_singleton_self q
  | showBumping site n m h => exact Store.Queued.look hx hs env site n m
  | endPicture p vkpic | start p slice vps vkpic | slice p slice vkpic => exact queued_setVkPic hx p _
  | alloc p hk hv =>
    unfold Decoder.allocPicture
    simp only
    split
    · exact hx
    · exact queued_setVkPic hx p _
  | markAllNonRef p hk =>
    exact Store.Queued.keeps hx (Store.sameNeeds_dpbMarkAllNonRef _) (Store.keeps_dpbMarkAllNonRef _)
  | clearSets p hk => exact Store.Queued.keeps hx (Store.sameNeeds_unrefAll _ _) (Store.keeps_unrefAll _ _)
  | deriveSets p pocs hk hs =>
    exact Store.Queued.keeps hx (Store.sameNeeds_deriveAndMarkRps pocs _) (Store.keeps_deriveAndMarkRps pocs _)
  | unref p | unrefCurrent p => exact Store.Queued.keeps hx (Store.sameNeeds_unref p _) (Store.keeps_unref p _)
  | deleteUnused => exact Store.Queued.dpbDeleteUnused hx
  | add p hp =>
    refine Store.Queued.storePicture hx fun hq => List.disjoint_of_nodup_append hs.apart ?_ hq
    exact List.mem_append_right _ (List.mem_filterMap.mpr ⟨_, hp, rfl⟩)
  | bump drain p h =>
    obtain ⟨i, hb⟩ := Store.bumped_of_some h
    exact Store.Queued.bumped hx hb (Store.keeps_dpbBump drain _)
  | dpbClear h => exact Store.Queued.dpbClear hx
  | parsed parser h => cases h <;> exact hx
  | removeFrame h => cases h <;> exact hx
  | _ => exact hx

lemma queued_of_reach (h : ReflTransGen (Act env) (Phase.idle, Decoder.start env) x) : QueuedIn x := by
  have hstart : StockedIn (Phase.idle, Decoder.start env) := ⟨List.nodup_nil, fun _ hq => absurd hq List.not_mem_nil, rfl⟩
  refine (kept (I := fun x => StockedIn x ∧ QueuedIn x) (fun _ _ h hx => ⟨h.stocked hx.1, h.queued hx.1 hx.2⟩) h
    ⟨hstart, fun _ => List.Subperm.refl _, trivial⟩).2

/-- A picture that comes to the DPB has a higher order count than all that the limit of the reordering put out before
it in its coded video sequence, if no picture of the sequence follows more than that many with higher counts, and none
of the sequence before waited when this one began. -/
theorem reordered_before (env : Env P) (inputs : List Input) (info : StoreInfo) (l : List Event)
    (hl : .storing info :: l <:+ (final (runInputs env inputs (Decoder.start env))).store.log)
    (hopen : info.opening = .none) (hclean : isClean (steps l)) (hnew : info.picture.picOrderCnt ∉ keys (steps l))
    (r : Nat × Int) (hr : r ∈ taken (steps l)) (hn : Reorders r.1 (info.picture.picOrderCnt :: keys (steps l))) :
    r.2 < info.picture.picOrderCnt := by
  obtain ⟨k, hreach⟩ := reach_final env inputs
  obtain ⟨later, hlater⟩ := hl
  have hordered : Always Ordered (steps (later ++ .storing info :: l)) :=
    ordered_of_deep (hlater ▸ (queued_of_reach hreach).deep)
  have hcome : steps (.storing info :: l) =
      .come .none info.picture.outputFlag info.picture.picOrderCnt :: steps l := by
    rw [← hopen]
    rfl
  have hsuffix : steps (.storing info :: l) <:+ steps (later ++ .storing info :: l) :=
    ⟨steps later, List.filterMap_append.symm⟩
  rw [hcome] at hsuffix
  exact (hordered.suffix hsuffix).1 hclean hnew r hr hn

section Examples

-- the picture that came to the DPB last, with what happened before it
def lastStored : List Event → Option (StoreInfo × List Event)
  | [] => none
  | .storing info :: l => some (info, l)
  | _ :: l => lastStored l

lemma lastStored_suffix {log l : List Event} {info : StoreInfo} (h : lastStored log = some (info, l)) :
    .storing info :: l <:+ log := by
  induction log with
  | nil => cases h
  | cons e log ih =>
    cases e with
    | storing => cases h; exact List.suffix_rfl
    | _ => exact (ih h).trans (List.suffix_cons ..)

-- the second picture puts out the first one, the third follows one with a higher order count
def depthScript : Script where
  vps := [{}]
  sps := [{ vps := some 0, log2MaxPicOrderCntLsbMinus4 := 4, maxNumReorderPics := [1], maxDecPicBufferingMinus1 := [4] }]
  pps := [{}]
  slices := [{ firstSliceSegmentInPicFlag := true },
    { firstSliceSegmentInPicFlag := true, picOrderCntLsb := 8,
      shortTermRefPicSets := { negativePics := [{ deltaPoc := -8, usedByCurrPic := true }] } },
    { firstSliceSegmentInPicFlag := true, picOrderCntLsb := 4,
      shortTermRefPicSets := { negativePics := [{ deltaPoc := -4, usedByCurrPic := true }] } }]

def depthInputs : List Input :=
  Script.frames [[Script.vpsUnit 0, Script.spsUnit 0, Script.ppsUnit 0, Script.idrUnit 0], [Script.trailUnit 1],
    [Script.trailUnit 2]]

def depthEnd : Decoder Tables := final (runInputs depthScript.env depthInputs (Decoder.start depthScript.env))

def depthLast : StoreInfo × List Event := (lastStored depthEnd.store.log).getD ({ picture := {}, stored := [] }, [])

lemma stored_depthLast : .storing depthLast.1 :: depthLast.2 <:+
    (final (runInputs depthScript.env depthInputs (Decoder.start depthScript.env))).store.log := by
  have hsome : (lastStored depthEnd.store.log).isSome := by decide +kernel
  obtain ⟨last, hlast⟩ := Option.isSome_iff_exists.mp hsome
  have heq : depthLast = last := by rw [depthLast, hlast, Option.getD_some]
  rw [heq]
  exact lastStored_suffix (by rw [← hlast, depthEnd])

theorem reordered_before_third : 0 < depthLast.1.picture.picOrderCnt :=
  reordered_before depthScript.env depthInputs depthLast.1 depthLast.2 stored_depthLast (by decide +kernel)
    (by decide +kernel) (by decide +kernel) (1, 0) (by decide +kernel) (by decide +kernel)

end Examples

end VkVideoParser.H265
