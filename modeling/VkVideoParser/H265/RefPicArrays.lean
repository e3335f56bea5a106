import VkVideoParser.Library.Writes
import VkVideoParser.H265.Script
import VkVideoParser.H265.Started
import VkVideoParser.H265.Sets

/-! The arrays of the reference pictures. prepare_rps lists order counts in arrays of sixteen entries, start_picture
the references in arrays of sixteen and the sets in arrays of eight. -/

namespace VkVideoParser.H265

open Execution Relation Histories

variable {P : Type} {env : Env P} {s : Decoder P} {x y : Phase × Decoder P} {log : List Event} {p q : PicId}
  {slice : GstH265Slice} {set : List (Option PicId)}

section Prepare

/-- The writes of prepare_rps into its lists. -/
structure PocWrites where
  stCurrBefore : List (Int × Nat)
  stCurrAfter : List (Int × Nat)
  stFoll : List (Int × Nat)
  ltCurr : List ((Int × Bool) × Nat)
  ltFoll : List ((Int × Bool) × Nat)
  deriving DecidableEq

-- the counter of PocStFoll goes on from one loop to the next
def pocWrites (sps : GstH265SPS) (header : GstH265SliceHdr) (stRefPic : GstH265ShortTermRefPicSet) (poc : Int) :
    PocWrites :=
  let negative := Writes.split StRefPic.usedByCurrPic (fun x => poc + x.deltaPoc) 0 0 stRefPic.negativePics
  let positive := Writes.split StRefPic.usedByCurrPic (fun x => poc + x.deltaPoc) 0 negative.2.length
    stRefPic.positivePics
  let longTerm := Writes.split LtRefPic.usedByCurrPic
    (longTermPoc (maxPicOrderCntLsb sps) poc header.picOrderCntLsb) 0 0 (ltRefPics sps header)
  { stCurrBefore := negative.1
    stCurrAfter := positive.1
    stFoll := negative.2 ++ positive.2
    ltCurr := longTerm.1
    ltFoll := longTerm.2 }

/-- The loops write the order counts of the sets, each list from its beginning. -/
lemma pocWrites_eq (sps : GstH265SPS) (header : GstH265SliceHdr) (stRefPic : GstH265ShortTermRefPicSet) (poc : Int) :
    pocWrites sps header stRefPic poc =
      { stCurrBefore := (refPocs sps header stRefPic poc).stCurrBefore.zipIdx
        stCurrAfter := (refPocs sps header stRefPic poc).stCurrAfter.zipIdx
        stFoll := (refPocs sps header stRefPic poc).stFoll.zipIdx
        ltCurr := (refPocs sps header stRefPic poc).ltCurr.zipIdx
        ltFoll := (refPocs sps header stRefPic poc).ltFoll.zipIdx } := by
  simp [pocWrites, refPocs, shortTermPocs, longTermPocs, Writes.split_eq, List.zipIdx_append]

def PocWrites.Fit (writes : PocWrites) : Prop :=
  Writes.Below 16 writes.stCurrBefore ∧ Writes.Below 16 writes.stCurrAfter ∧ Writes.Below 16 writes.stFoll ∧
    Writes.Below 16 writes.ltCurr ∧ Writes.Below 16 writes.ltFoll

instance (writes : PocWrites) : Decidable writes.Fit := inferInstanceAs (Decidable (_ ∧ _))

/-- What the arrays of a slice header and of an SPS hold. -/
structure WithinLimits (header : GstH265SliceHdr) (stRefPic : GstH265ShortTermRefPicSet) : Prop where
  negative : stRefPic.negativePics.length ≤ 16
  positive : stRefPic.positivePics.length ≤ 16
  longTerm : header.numLongTermSps + header.numLongTermPics ≤ 16

-- the pictures that only later ones may refer to
def following (stRefPic : GstH265ShortTermRefPicSet) : Nat :=
  (stRefPic.negativePics ++ stRefPic.positivePics).countP fun x => !x.usedByCurrPic

lemma length_accumulateCycles (n i : Nat) (prev : Int) (l : List LtRefPic) :
    (accumulateCycles n i prev l).length = l.length := by
  induction l generalizing i prev with
  | nil => rfl
  | cons x l ih => rw [accumulateCycles, List.length_cons, ih, List.length_cons]

lemma length_ltRefPics (sps : GstH265SPS) (header : GstH265SliceHdr) :
    (ltRefPics sps header).length = header.numLongTermSps + header.numLongTermPics := by
  rw [ltRefPics, length_accumulateCycles, List.length_map, List.length_range]

lemma fit_pocWrites (sps : GstH265SPS) {header : GstH265SliceHdr} {stRefPic : GstH265ShortTermRefPicSet} (poc : Int)
    (h : WithinLimits header stRefPic) : (pocWrites sps header stRefPic poc).Fit ↔ following stRefPic ≤ 16 := by
  have hshort : ∀ (used : Bool) (l : List StRefPic), l.length ≤ 16 → (shortTermPocs poc used l).length ≤ 16 := by
    intro used l hl
    rw [shortTermPocs, List.length_map]
    exact (List.length_filter_le _ _).trans hl
  have hlong : ∀ used : Bool, (longTermPocs sps header poc used).length ≤ 16 := by
    intro used
    rw [longTermPocs, List.length_map]
    exact (List.length_filter_le _ _).trans (by rw [length_ltRefPics]; exact h.longTerm)
  have hfoll : (refPocs sps header stRefPic poc).stFoll.length = following stRefPic := by
    simp [refPocs, shortTermPocs, following, List.countP_eq_length_filter]
  rw [pocWrites_eq]
  simp only [PocWrites.Fit, Writes.below_zipIdx_zero, hfoll]
  exact ⟨fun hfit => hfit.2.2.1, fun hfit => ⟨hshort true _ h.negative, hshort true _ h.positive, hfit, hlong true,
    hlong false⟩⟩

end Prepare

section Start

def RefPicSets.current (sets : RefPicSets) : List (List (Option PicId)) :=
  [sets.stCurrBefore, sets.stCurrAfter, sets.ltCurr]

namespace StartInfo

variable (info : StartInfo)

def listed : List (PicId × Picture) := info.stored.filter fun a => a.2.ref

def content (q : PicId) : Picture := (info.stored.lookup q).getD {}

-- the loop over the DPB, which fills RefPics, PicOrderCntVal and IsLongTerm
def refWrites : List ((PicId × Picture) × Nat) := Writes.fill (fun a => a.2.ref) 16 0 info.stored

def pocs : List Int := info.refWrites.map fun w => w.1.2.picOrderCnt

-- the loop over a set, which fills its array; with too many references it is not reached
def setWrites (set : List (Option PicId)) : List (Nat × Nat) :=
  if 16 < info.listed.length then []
  else Writes.compact (fun q => info.pocs.findIdx? fun poc => poc = (info.content q).picOrderCnt) info.pocs.length 0 set

/-- The loops stay within the arrays of the reference pictures and within those of the sets. -/
def Fit : Prop :=
  Writes.Below 16 info.refWrites ∧ ∀ set ∈ info.refPicSets.current, Writes.Below 8 (info.setWrites set)

instance : Decidable info.Fit := inferInstanceAs (Decidable (_ ∧ _))

/-- DecodePicture is given the arrays as the loops leave them. -/
structure Leaves (hevc : HevcPictureData) : Prop where
  refPics : hevc.refPics =
    Writes.into 0 (info.refWrites.map (Prod.map (fun a => a.2.userData.map VkPic.pic) id)) (List.replicate 16 none)
  picOrderCntVal : hevc.picOrderCntVal =
    Writes.into 0 (info.refWrites.map (Prod.map (fun a => a.2.picOrderCnt) id)) (List.replicate 16 0)
  isLongTerm : hevc.isLongTerm =
    Writes.into 0 (info.refWrites.map (Prod.map (fun a => a.2.longTerm) id)) (List.replicate 16 false)
  sets : hevc.refPicSetStCurrBefore ++ hevc.refPicSetStCurrAfter ++ hevc.refPicSetLtCurr =
    Writes.into 16 (info.setWrites info.refPicSets.ltCurr)
      (Writes.into 8 (info.setWrites info.refPicSets.stCurrAfter)
        (Writes.into 0 (info.setWrites info.refPicSets.stCurrBefore) (List.replicate 24 0)))

/-- There are too many references, or no more than eight, or else no more pictures in any set. -/
def FewRefs : Prop :=
  16 < info.listed.length ∨
    ∀ set ∈ info.refPicSets.current, min info.listed.length (set.filterMap id).length ≤ 8

end StartInfo

lemma lookup_map_pair {f : PicId → Picture} {l : List PicId} (hq : q ∈ l) :
    (l.map fun q => (q, f q)).lookup q = some (f q) := by
  induction l with
  | nil => cases hq
  | cons a l ih =>
    rw [List.map_cons, List.lookup_cons]
    by_cases h : q = a
    · rw [h, beq_self_eq_true]
    · rw [beq_false_of_ne h]
      exact ih ((List.mem_cons.mp hq).resolve_left h)

lemma lookup_startInfo (hq : q ∈ s.store.listedRefs) :
    (s.startInfo env p slice).stored.lookup q = some (s.pic q) :=
  lookup_map_pair (List.mem_of_mem_filter hq)

lemma content_startInfo (hq : q ∈ s.store.listedRefs) : (s.startInfo env p slice).content q = s.pic q := by
  rw [StartInfo.content, lookup_startInfo hq]
  rfl

lemma listed_startInfo : (s.startInfo env p slice).listed = s.store.listedRefs.map fun q => (q, s.pic q) := by
  rw [StartInfo.listed, Decoder.startInfo, List.filter_map]
  rfl

lemma length_listed : (s.startInfo env p slice).listed.length = s.store.listedRefs.length := by
  rw [listed_startInfo, List.length_map]

lemma pocs_startInfo :
    (s.startInfo env p slice).pocs = (s.store.listedRefs.take 16).map fun q => (s.pic q).picOrderCnt := by
  have hmap : (s.startInfo env p slice).pocs =
      ((s.startInfo env p slice).refWrites.map Prod.fst).map fun a => a.2.picOrderCnt := by
    rw [List.map_map]
    rfl
  have hfill : (s.startInfo env p slice).refWrites = ((s.startInfo env p slice).listed.take 16).zipIdx := Writes.fill_eq _
  rw [hmap, hfill, List.zipIdx_map_fst, listed_startInfo, ← List.map_take, List.map_map]
  rfl

lemma mem_pictures_of_current (hset : set ∈ s.refPicSets.current) (hq : q ∈ set.filterMap id) :
    q ∈ s.refPicSets.pictures := by
  simp only [RefPicSets.current, List.mem_cons, List.not_mem_nil, or_false] at hset
  simp only [RefPicSets.pictures, List.filterMap_append, List.mem_append]
  rcases hset with rfl | rfl | rfl <;> simp only [hq, true_or, or_true]

-- a picture of a set is found among the references
lemma found_startInfo (hs : SetsListed s) (hset : set ∈ s.refPicSets.current) (hfew : s.store.listedRefs.length ≤ 16)
    (hq : q ∈ set.filterMap id) : ((s.startInfo env p slice).pocs.findIdx? fun poc =>
      poc = ((s.startInfo env p slice).content q).picOrderCnt).isSome := by
  have hmem : q ∈ s.store.listedRefs := hs q (mem_pictures_of_current hset hq)
  rw [List.findIdx?_isSome, pocs_startInfo, List.take_of_length_le hfew, List.any_eq_true]
  exact ⟨_, List.mem_map_of_mem hmem, by rw [content_startInfo hmem]; simp⟩

lemma setWrites_startInfo (hs : SetsListed s) (hset : set ∈ s.refPicSets.current)
    (hfew : s.store.listedRefs.length ≤ 16) :
    refPicSetWrites s (s.startInfo env p slice).pocs set = (s.startInfo env p slice).setWrites set := by
  have hmany : ¬16 < (s.startInfo env p slice).listed.length := by
    rw [length_listed]
    omega
  rw [StartInfo.setWrites, if_neg hmany]
  refine Writes.compact_congr fun q hq => ?_
  rw [content_startInfo (hs q (mem_pictures_of_current hset hq))]

lemma fit_startInfo (hs : SetsListed s) :
    (s.startInfo env p slice).Fit ↔ (s.startInfo env p slice).FewRefs := by
  have hbelow : Writes.Below 16 (s.startInfo env p slice).refWrites := Writes.below_fill _
  by_cases hmany : 16 < (s.startInfo env p slice).listed.length
  · refine ⟨fun _ => .inl hmany, fun _ => ⟨hbelow, fun set _ => ?_⟩⟩
    rw [StartInfo.setWrites, if_pos hmany]
    exact Writes.below_nil
  · have hfew : s.store.listedRefs.length ≤ 16 := by
      rw [length_listed] at hmany
      omega
    have hpocs : (s.startInfo env p slice).pocs.length = (s.startInfo env p slice).listed.length := by
      rw [pocs_startInfo, List.take_of_length_le hfew, List.length_map, length_listed]
    have hset : ∀ set ∈ s.refPicSets.current, Writes.Below 8 ((s.startInfo env p slice).setWrites set) ↔
        min (s.startInfo env p slice).listed.length (set.filterMap id).length ≤ 8 := by
      intro set hset
      rw [StartInfo.setWrites, if_neg hmany, ← hpocs]
      exact Writes.below_compact fun q hq => found_startInfo hs hset hfew hq
    rw [StartInfo.FewRefs, or_iff_right hmany]
    exact ⟨fun h set hm => (hset set hm).mp (h.2 set hm), fun h => ⟨hbelow, fun set hm => (hset set hm).mpr (h set hm)⟩⟩

lemma refWrites_startInfo : (s.startInfo env p slice).refWrites =
    ((s.store.listedRefs.take 16).map fun q => (q, s.pic q)).zipIdx := by
  have hfill : (s.startInfo env p slice).refWrites = ((s.startInfo env p slice).listed.take 16).zipIdx := Writes.fill_eq _
  rw [hfill, listed_startInfo, List.map_take]

-- one of the arrays of the references
lemma into_refWrites {α : Type} (f : Picture → α) (d : α) :
    Writes.into 0 ((s.startInfo env p slice).refWrites.map (Prod.map (fun a => f a.2) id)) (List.replicate 16 d) =
      padTo 16 d ((s.store.listedRefs.take 16).map fun q => f (s.pic q)) := by
  rw [refWrites_startInfo, ← List.zipIdx_map, List.map_map, padTo]
  refine Writes.into_replicate ?_
  rw [List.length_map]
  exact List.length_take_le _ _

lemma leaves_startInfo {x : Picture} {active : Activation} {vps : GstH265VPS} {source : ParamSource}
    (hs : SetsListed s) (hl : Listable s) :
    (s.startInfo env p slice).Leaves (hevcPictureData s x slice active vps source) := by
  have hfew : s.store.listedRefs.length ≤ 16 := by simpa [tooManyRefs] using hl.few
  refine ⟨(into_refWrites (fun y => y.userData.map VkPic.pic) none).symm, (into_refWrites Picture.picOrderCnt 0).symm,
    (into_refWrites Picture.longTerm false).symm, ?_⟩
  have hwrites : ∀ set ∈ s.refPicSets.current,
      refPicSetWrites s ((s.store.listedRefs.take 16).map fun q => (s.pic q).picOrderCnt) set =
        (s.startInfo env p slice).setWrites set := by
    intro set hset
    rw [← setWrites_startInfo hs hset hfew, pocs_startInfo]
  have hbytes : ∀ bytes : List Nat, bytes.take 8 ++ (bytes.drop 8).take 8 ++ (bytes.drop 16).take 8 =
      bytes.take 24 := by
    intro bytes
    rw [← List.take_add, ← List.take_add]
  simp only [hevcPictureData, hl.few, Bool.false_eq_true, if_false, hbytes]
  simp only [refPicSetBytes, Writes.take_into]
  rw [hwrites _ List.mem_cons_self, hwrites _ (List.mem_cons_of_mem _ List.mem_cons_self),
    hwrites _ (List.mem_cons_of_mem _ (List.mem_cons_of_mem _ List.mem_cons_self))]
  rfl

-- at every start the pictures of the sets are references that are stored
lemma starts_listed (env : Env P) (inputs : List Input) :
    Always (fun _ e => ∀ a ∈ e.started, ∃ s slice, a.2 = Decoder.startInfo env s a.1 slice ∧ SetsListed s)
      (final (runInputs env inputs (Decoder.start env))).store.log := by
  obtain ⟨k, hk⟩ := reach_final env inputs
  refine kept (I := fun x : Phase × Decoder P => Always (fun _ e => ∀ a ∈ e.started, ∃ s slice,
    a.2 = Decoder.startInfo env s a.1 slice ∧ SetsListed s) x.2.store.log) (fun x y h hx => ?_) hk trivial
  cases h.steps with
  | start p slice vps vkpic hk hv hvps hflags hsets hc =>
    rename_i k s c
    refine ⟨?_, hx⟩
    rintro _ ⟨⟩
    exact ⟨s, slice, rfl, hsets⟩
  | slice | endPicture => exact ⟨fun _ ha => (by cases ha), hx⟩
  | alloc p hk hv =>
    rw [allocPicture_log]
    exact ⟨fun _ ha => (by cases ha), hx⟩
  | new | adopt => exact hx
  | aside h hc =>
    obtain ⟨l, hl, haside⟩ := h.log
    rw [hl]
    clear hl
    induction l with
    | nil => exact hx
    | cons e l ih =>
      refine ⟨fun a ha => ?_, ih fun e he => haside e (List.mem_cons_of_mem _ he)⟩
      have hstarts := (haside e List.mem_cons_self).starts a.1
      cases e with
      | startPicture q info =>
        cases ha
        simp [Event.starts] at hstarts
      | _ => cases ha

/-- Within the limits of its own arrays the decoder stays within those that it fills exactly when no more than
sixteen pictures of a set are for later pictures only, and when, at most sixteen references being stored, they or the
pictures of every set are no more than eight. DecodePicture is given what the loops of start_picture leave. -/
theorem refPicArrays_fit (env : Env P) (inputs : List Input) (sps : GstH265SPS) (header : GstH265SliceHdr)
    (stRefPic : GstH265ShortTermRefPicSet) (poc : Int) (h : WithinLimits header stRefPic) :
    ((pocWrites sps header stRefPic poc).Fit ↔ following stRefPic ≤ 16) ∧
      Always (fun _ e => ∀ a ∈ e.started, (a.2.Fit ↔ a.2.FewRefs))
        (final (runInputs env inputs (Decoder.start env))).store.log ∧
      Always (fun l e => ∀ d ∈ e.decodeCall, ∀ a ∈ startOf d.picture l, a.1.Leaves d.data.hevc)
        (final (runInputs env inputs (Decoder.start env))).store.log := by
  refine ⟨fit_pocWrites sps poc h, (starts_listed env inputs).mono fun _ e he a ha => ?_,
    always_shown env inputs fun l d s slice vps v _ hshown a ha => ?_⟩
  · obtain ⟨s, slice, hinfo, hs⟩ := he a ha
    rw [hinfo]
    exact fit_startInfo hs
  · cases hshown.start.symm.trans ha
    have hevc : d.data.hevc = hevcPictureData s (s.pic d.picture) slice (s.activation env slice.header.pps) vps
      (s.paramSource env) := congrArg PictureData.hevc hshown.data
    rw [hevc]
    exact leaves_startInfo hshown.setsListed hshown.listable

end Start

section Examples

-- a picture that refers to all pictures before it
def chainHeader (n : Nat) : GstH265SliceHdr where
  firstSliceSegmentInPicFlag := true
  picOrderCntLsb := n
  shortTermRefPicSets := { negativePics := (List.range n).map fun i => ⟨-(i + 1), true⟩ }

def chainScript : Script where
  vps := [{}]
  sps := [{ vps := some 0 }]
  pps := [{}]
  slices := (List.range 10).map chainHeader

def chainInputs (n : Nat) : List Input :=
  Script.frames ([Script.vpsUnit 0, Script.spsUnit 0, Script.ppsUnit 0, Script.idrUnit 0] ::
    (List.range n).map fun i => [Script.trailUnit (i + 1)])

def chainLog (n : Nat) : List Event :=
  (final (runInputs chainScript.env (chainInputs n) (Decoder.start chainScript.env))).store.log

-- nine pictures before this one and eight after it
def seventeenFollowing : GstH265ShortTermRefPicSet where
  negativePics := (List.range 9).map fun i => ⟨-(i + 1), false⟩
  positivePics := (List.range 8).map fun i => ⟨i + 1, false⟩

theorem refPicArrays_overrun : ¬Always (fun _ e => ∀ a ∈ e.started, a.2.Fit) (chainLog 9) ∧
    ¬(pocWrites {} {} seventeenFollowing 0).Fit := by decide +kernel

theorem refPicArrays_fit_chain : ((pocWrites {} {} seventeenFollowing 0).Fit ↔ following seventeenFollowing ≤ 16) ∧
    Always (fun _ e => ∀ a ∈ e.started, (a.2.Fit ↔ a.2.FewRefs)) (chainLog 9) ∧
    Always (fun l e => ∀ d ∈ e.decodeCall, ∀ a ∈ startOf d.picture l, a.1.Leaves d.data.hevc) (chainLog 9) :=
  refPicArrays_fit chainScript.env (chainInputs 9) {} {} seventeenFollowing 0 ⟨by decide, by decide, by decide⟩

end Examples

end VkVideoParser.H265
