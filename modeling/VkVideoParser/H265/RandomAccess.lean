import Mathlib.Data.List.Find
import VkVideoParser.H265.RefPicMarking
import VkVideoParser.H265.Stock
import VkVideoParser.H265.Script

/-! How the DPB is emptied for a picture at random access. -/

namespace VkVideoParser.H265

open Execution Relation

variable {P : Type} {env : Env P} {k : Phase} {s t u : Decoder P} {x : Phase × Decoder P} {p q : PicId}

/-- The pictures that were displayed, the last one first. -/
def displayed (log : List Event) : List PicId := log.filterMap fun
  | .displayPicture p .. => some p
  | _ => none

lemma displayed_append (l l' : List Event) : displayed (l ++ l') = displayed l ++ displayed l' := List.filterMap_append

lemma displayed_ofDpb {l : List Event} (h : ∀ e ∈ l, e.ofDpb) : displayed l = [] := by
  refine List.filterMap_eq_nil_iff.mpr fun e he => ?_
  have := h e he
  cases e with
  | release | storing => rfl
  | _ => cases this

/-- Between `s` and `t` the pictures of `l` were displayed, the last one first, and of those stored nothing
but references and marks changed. -/
structure Displays (l : List PicId) (s t : Decoder P) : Prop where
  pic : ∀ q, SameContent (s.pic q) (t.pic q)
  log : ∃ es, t.store.log = es ++ s.store.log ∧ displayed es = l

lemma Displays.refl (s : Decoder P) : Displays [] s s := ⟨fun _ => .refl _, [], rfl, rfl⟩

lemma Displays.trans {l l' : List PicId} (h : Displays l s t) (h' : Displays l' t u) : Displays (l' ++ l) s u := by
  obtain ⟨es, hes, rfl⟩ := h.log
  obtain ⟨es', hes', rfl⟩ := h'.log
  refine ⟨fun q => (h.pic q).trans (h'.pic q), es' ++ es, ?_, displayed_append es' es⟩
  rw [hes', hes, List.append_assoc]

lemma displays_keeps {f : Store → Store} (h : Store.Keeps s.store (f s.store)) : Displays [] s (s.mapStore f) := by
  obtain ⟨es, hes, hr⟩ := h.log
  exact ⟨h.pic, es, hes, displayed_ofDpb hr⟩

/-- Every picture that waits has a frame of its own in the base class: that of the first picture with its
system frame number is looked up when it is output. -/
structure FramesFound (s : Decoder P) : Prop where
  found : ∀ q ∈ s.store.dpb.picList, s.store.waits q → (s.getFrame (s.pic q).systemFrameNumber).isSome
  apart : ∀ q ∈ s.store.dpb.picList, ∀ q' ∈ s.store.dpb.picList, s.store.waits q → s.store.waits q' →
    (s.pic q).systemFrameNumber = (s.pic q').systemFrameNumber → q = q'

/-- An output, of which only the frame with the number `n` may be finished. -/
structure Outs (n : Nat) (l : List PicId) (s t : Decoder P) : Prop extends Displays l s t where
  needs : Store.SameNeeds s.store t.store
  next : t.store.next = s.store.next
  ref : ∀ q, (t.pic q).ref = (s.pic q).ref
  getFrame : ∀ m, m ≠ n → t.getFrame m = s.getFrame m

lemma Outs.trans {n : Nat} {l l' : List PicId} (h : Outs n l s t) (h' : Outs n l' t u) : Outs n (l' ++ l) s u :=
  ⟨h.toDisplays.trans h'.toDisplays, h.needs.trans h'.needs, h'.next.trans h.next, fun q => (h'.ref q).trans (h.ref q),
    fun m hm => (h'.getFrame m hm).trans (h.getFrame m hm)⟩

lemma outs_unref (n : Nat) (p : PicId) (s : Decoder P) : Outs n [] s (s.mapStore (Store.unref p)) :=
  ⟨displays_keeps (Store.keeps_unref p _), Store.sameNeeds_unref p _, (Store.keeps_unref p _).next,
    fun q => Store.ref_unref p q _, fun _ _ => rfl⟩

lemma getFrame_removeFrame {n m : Nat} (h : m ≠ n) (e : Event) (s : Decoder P) :
    (s.removeFrame n e).getFrame m = s.getFrame m := by
  refine (List.find?_filter ..).trans (List.find?_congr fun f _ => ?_)
  by_cases hf : f.systemFrameNumber = m
  · simp [hf, h]
  · simp [hf]

lemma outs_finishFrame (n : Nat) (flow : GstFlowReturn) (s : Decoder P) :
    Outs n [] s (s.removeFrame n (.finishFrame n flow)) :=
  ⟨⟨fun _ => .refl _, [_], rfl, rfl⟩, ⟨rfl, rfl, rfl⟩, rfl, fun _ => rfl, fun _ hm => getFrame_removeFrame hm _ s⟩

/-- What do_output_picture displays. -/
def Decoder.toDisplay (s : Decoder P) (p : PicId) : List PicId :=
  if (s.getFrame (s.pic p).systemFrameNumber).isSome then [p] else []

lemma vkOutputPicture_returns {n : Nat} {frame : VideoCodecFrame} (hf : s.getFrame n = some frame) :
    Returns (vkOutputPicture env frame p) s fun _ t => Outs n [p] s t := by
  refine Ends.get_bind (Ends.valueOr_bind trivial fun vkpic _ => Ends.modify_bind (Ends.edit_bind trivial ?_))
  have hdisplay : Outs n [p] s (s.displayPicture env p vkpic frame) :=
    ⟨⟨fun _ => .refl _, [_], rfl, rfl⟩, ⟨rfl, rfl, rfl⟩, rfl, fun _ => rfl, fun _ _ => rfl⟩
  have hunref := hdisplay.trans (outs_unref n p _)
  refine Ends.ite (fun _ => ?_) fun _ => Ends.pure hunref
  refine Ends.get_bind (Ends.modify_bind (Ends.pure ?_))
  rw [getFrame_number hf]
  exact hunref.trans (outs_finishFrame n _ _)

lemma doOutputPicture_returns (p : PicId) (ret : GstFlowReturn) (s : Decoder P) :
    Returns (doOutputPicture env p ret) s fun _ t => Outs (s.pic p).systemFrameNumber (s.toDisplay p) s t := by
  refine Ends.get_bind (Ends.modify_bind ?_)
  have hset : Outs (s.pic p).systemFrameNumber [] s (s.setLastOutputPoc (s.pic p).picOrderCnt) :=
    ⟨⟨fun _ => .refl _, [], rfl, rfl⟩, ⟨rfl, rfl, rfl⟩, rfl, fun _ => rfl, fun _ _ => rfl⟩
  unfold Decoder.toDisplay
  cases hf : s.getFrame (s.pic p).systemFrameNumber with
  | none => exact Ends.edit_bind trivial (Ends.pure (hset.trans (outs_unref _ p _)))
  | some frame =>
    refine Ends.bind (vkOutputPicture_returns (s := s.setLastOutputPoc (s.pic p).picOrderCnt) hf) fun _ t ht => ?_
    exact Ends.pure (hset.trans ht)

lemma Store.listedRefs_eq_nil {a : Store} : a.listedRefs = [] ↔ ∀ q ∈ a.dpb.picList, (a.pic q).ref = false := by
  rw [Store.listedRefs, List.filter_eq_nil_iff]
  exact forall₂_congr fun q _ => iff_of_eq (Bool.not_eq_true _)

/-- Of what is stored nothing is a reference, and all waits. -/
structure AllWait (s : Decoder P) : Prop where
  stocked : ∃ l, s.store.Stocked l
  listedRefs : s.store.listedRefs = []
  waits : ∀ q ∈ s.store.dpb.picList, s.store.waits q

/-- The pictures of `waiting` were displayed between `s` and `t`, in the order of their order counts. -/
def DisplaysAll (waiting : List PicId) (s t : Decoder P) : Prop := ∃ l, Displays l s t ∧ l.Perm waiting ∧
  l.Pairwise fun p q => (s.pic q).picOrderCnt ≤ (s.pic p).picOrderCnt

lemma AllWait.ref_eq_false (hs : AllWait s) (hq : q ∈ s.store.dpb.picList) : (s.pic q).ref = false :=
  Store.listedRefs_eq_nil.mp hs.listedRefs q hq

-- what is left after one turn of the loop
lemma Store.Bumped.rest {i : Nat} {a b : Store} (h : Store.Bumped false i p a b) (hp : (a.pic p).ref = false) :
    (p :: b.dpb.picList).Perm a.dpb.picList := by
  rw [h.picList, hp, if_pos (by rfl)]
  exact h.perm

lemma AllWait.mem_rest {l : List PicId} (hs : AllWait s) (hrest : (p :: l).Perm s.store.dpb.picList) (hq : q ∈ l) :
    q ≠ p ∧ q ∈ s.store.dpb.picList := by
  obtain ⟨c, hstock⟩ := hs.stocked
  refine ⟨?_, hrest.subset (List.mem_cons_of_mem _ hq)⟩
  rintro rfl
  exact (List.nodup_cons.mp (hrest.nodup_iff.mpr hstock.nodup)).1 hq

/-- One turn of the loop: the lowest picture `p` is taken out and displayed if its frame is found. -/
structure Turn (p : PicId) (s t : Decoder P) : Prop where
  le : ∀ q ∈ s.store.dpb.picList, (s.pic p).picOrderCnt ≤ (s.pic q).picOrderCnt
  rest : (p :: t.store.dpb.picList).Perm s.store.dpb.picList
  displays : Displays (s.toDisplay p) s t
  getFrame : ∀ m, m ≠ (s.pic p).systemFrameNumber → t.getFrame m = s.getFrame m
  allWait : AllWait t

lemma turn {i : Nat} {a : Store} (hs : AllWait s) (hb : Store.Bumped false i p s.store a) (hk : Store.Keeps s.store a)
    (ho : Outs ((s.mapStore fun _ => a).pic p).systemFrameNumber ((s.mapStore fun _ => a).toDisplay p) (s.mapStore fun _ => a) t) :
    Turn p s t := by
  have hnumber : (a.pic p).systemFrameNumber = (s.pic p).systemFrameNumber := (hk.pic p).number.2
  have hdisplay : (s.mapStore fun _ => a).toDisplay p = s.toDisplay p := by
    unfold Decoder.toDisplay
    exact congrArg (fun n => if (s.getFrame n).isSome then [p] else []) hnumber
  have hlist : t.store.dpb.picList = a.dpb.picList := congrArg Dpb.picList ho.needs.dpb
  have hrest : (p :: t.store.dpb.picList).Perm s.store.dpb.picList := hlist ▸ hb.rest (hs.ref_eq_false hb.lowest.mem)
  obtain ⟨c, hstock⟩ := hs.stocked
  refine ⟨fun q hq => hb.lowest.le q hq (hs.waits q hq), hrest, ?_, fun m hm => ho.getFrame m (hnumber ▸ hm),
    ⟨c, (hstock.bumped hb hk.next).sameNeeds ho.needs ho.next⟩, ?_, fun q hq => ?_⟩
  · have := (displays_keeps (f := fun _ => a) hk).trans ho.toDisplays
    rwa [hdisplay, List.append_nil] at this
  · refine Store.listedRefs_eq_nil.mpr fun q hq => ?_
    exact ((ho.ref q).trans (hb.ref q)).trans (hs.ref_eq_false (hs.mem_rest hrest hq).2)
  · obtain ⟨hne, hq⟩ := hs.mem_rest hrest hq
    have hwaits : t.store.waits = Function.update s.store.waits p false := ho.needs.waits.trans hb.waits
    rw [hwaits, Function.update_of_ne hne]
    exact hs.waits q hq

lemma FramesFound.turn (hf : FramesFound s) (hs : AllWait s) (h : Turn p s t) : FramesFound t := by
  have hp := h.rest.subset List.mem_cons_self
  have hnumber : ∀ q, (t.pic q).systemFrameNumber = (s.pic q).systemFrameNumber := fun q => (h.displays.pic q).number.2
  refine ⟨fun q hq _ => ?_, fun q hq q' hq' _ _ heq => ?_⟩
  · obtain ⟨hne, hq⟩ := hs.mem_rest h.rest hq
    rw [hnumber, h.getFrame _ fun heq => hne (hf.apart q hq p hp (hs.waits q hq) (hs.waits p hp) heq)]
    exact hf.found q hq (hs.waits q hq)
  · have hq := (hs.mem_rest h.rest hq).2
    have hq' := (hs.mem_rest h.rest hq').2
    rw [hnumber, hnumber] at heq
    exact hf.apart q hq q' hq' (hs.waits q hq) (hs.waits q' hq') heq

-- the first picture displayed is the lowest one
lemma DisplaysAll.cons (hf : FramesFound s) (hs : AllWait s) (h : Turn p s t) (hu : DisplaysAll t.store.dpb.picList t u) :
    DisplaysAll s.store.dpb.picList s u := by
  obtain ⟨l, hl, hperm, hsorted⟩ := hu
  have hpoc : ∀ q, (t.pic q).picOrderCnt = (s.pic q).picOrderCnt := fun q => (h.displays.pic q).number.1
  have hp := h.rest.subset List.mem_cons_self
  have hshown : s.toDisplay p = [p] := if_pos (hf.found p hp (hs.waits p hp))
  refine ⟨l ++ [p], hshown ▸ h.displays.trans hl, ?_, List.pairwise_append.mpr ⟨?_, List.pairwise_singleton _ _, ?_⟩⟩
  · exact (List.perm_append_singleton p l).trans ((hperm.cons p).trans h.rest)
  · exact hsorted.imp fun {x y} hxy => by rwa [hpoc, hpoc] at hxy
  · intro q hq r hr
    obtain rfl := List.mem_singleton.mp hr
    exact h.le q (hs.mem_rest h.rest (hperm.subset hq)).2

lemma bumpAll_returns (fuel : Nat) (ret : GstFlowReturn) (hs : AllWait s) (hfuel : s.store.dpb.picList.length < fuel) :
    Returns (bumpAll env false fuel ret) s fun _ t => t.store.dpb.picList = [] ∧ t.store.dpb.numOutputNeeded = 0 ∧
      (FramesFound s → DisplaysAll s.store.dpb.picList s t) := by
  induction fuel generalizing s ret with
  | zero => exact absurd hfuel (Nat.not_lt_zero _)
  | succ fuel ih =>
    refine Ends.edit_bind trivial ?_
    cases hl : s.store.dpbGetLowestOutputNeededPicture with
    | none =>
      have hnone : s.store.dpbBump false = (none, s.store) := by rw [Store.dpbBump, hl]
      have hnil : s.store.dpb.picList = [] := by
        refine List.eq_nil_iff_forall_not_mem.mpr fun q hq => ?_
        have := hs.waits q hq
        rw [Store.none_waits hl q hq] at this
        cases this
      obtain ⟨c, hstock⟩ := hs.stocked
      rw [hnone, mapStore_of_eq (congrArg Prod.snd hnone)]
      refine Ends.pure ⟨hnil, ?_, fun _ => ⟨[], .refl s, ?_, List.Pairwise.nil⟩⟩
      · rw [hstock.count, hnil]
        rfl
      · rw [hnil]
    | some r =>
      obtain ⟨i, p⟩ := r
      have hsome : (s.store.dpbBump false).1 = some p := congrArg Prod.fst (Store.bump_some hl)
      rw [hsome]
      refine Ends.bind (doOutputPicture_returns p ret _) fun ret' t ht => ?_
      have hturn := turn hs (Store.bumped hl) (Store.keeps_dpbBump false s.store) ht
      have hlength := hturn.rest.length_eq
      rw [List.length_cons] at hlength
      refine (ih ret' hturn.allWait (by omega)).mono ?_
      rintro _ u ⟨hnil, hneeded, hu⟩
      exact ⟨hnil, hneeded, fun hf => .cons hf hs hturn (hu (hf.turn hs hturn))⟩

/-- Of the pictures only marks and references changed. -/
structure Remarked (s t : Decoder P) : Prop where
  needs : Store.SameNeeds s.store t.store
  keeps : Store.Keeps s.store t.store
  frames : t.frames = s.frames

lemma Remarked.trans (h : Remarked s t) (h' : Remarked t u) : Remarked s u :=
  ⟨h.needs.trans h'.needs, h.keeps.trans h'.keeps, h'.frames.trans h.frames⟩

lemma listedRefs_deriveAndMarkRps {a : Store} (pocs : RefPocs) (h : a.listedRefs = []) :
    (a.deriveAndMarkRps pocs).2.listedRefs = [] := by
  have hlist : (a.deriveAndMarkRps pocs).2.dpb = a.dpb := (Store.sameNeeds_deriveAndMarkRps pocs a).dpb
  refine Store.listedRefs_eq_nil.mpr fun q hq => ?_
  cases href : ((a.deriveAndMarkRps pocs).2.pic q).ref with
  | false => rfl
  | true =>
    have hold : (a.pic q).ref = true := (Store.derived_ref pocs a q).symm.trans (Store.ref_of_dropRefs _ href)
    exact hold.symm.trans (Store.listedRefs_eq_nil.mp h q (hlist ▸ hq))

lemma deriveAndMarkRps_returns (pocs : RefPocs) (hs : s.store.listedRefs = []) :
    Returns (deriveAndMarkRps pocs) s fun _ t => Remarked s t ∧ t.store.listedRefs = [] := by
  refine Ends.edit_bind trivial (Ends.edit trivial ?_)
  have hclear : Remarked s s.clearSets := ⟨Store.sameNeeds_unrefAll _ _, Store.keeps_unrefAll _ _, rfl⟩
  have hderive : Remarked s.clearSets (s.clearSets.deriveSets pocs) :=
    ⟨Store.sameNeeds_deriveAndMarkRps pocs _, Store.keeps_deriveAndMarkRps pocs _, rfl⟩
  refine ⟨hclear.trans hderive, listedRefs_deriveAndMarkRps pocs ?_⟩
  obtain ⟨hdpb, hpic⟩ := clearSets_same s
  rw [Store.listedRefs_congr (congrArg Dpb.picList hdpb) fun q => (hpic q).1, hs]

lemma prepareRps_returns {sps : GstH265SPS} {slice : GstH265Slice} (hirap : slice.nalu.type.isIrap)
    (hno : (s.pic p).noRaslOutputFlag) :
    Returns (prepareRps sps slice p) s fun _ t => Remarked s t ∧ t.store.listedRefs = [] := by
  refine Ends.get_bind (Ends.ite (fun _ => Ends.edit_bind trivial ?_) fun h => absurd (by rw [hirap, hno]; rfl) h)
  have hmark : Remarked s (s.mapStore Store.dpbMarkAllNonRef) :=
    ⟨Store.sameNeeds_dpbMarkAllNonRef _, Store.keeps_dpbMarkAllNonRef _, rfl⟩
  have hderive : ∀ pocs, Returns (deriveAndMarkRps pocs) (s.mapStore Store.dpbMarkAllNonRef) fun _ t =>
      Remarked s t ∧ t.store.listedRefs = [] := fun pocs =>
    (deriveAndMarkRps_returns pocs (listedRefs_dpbMarkAllNonRef s.store)).mono fun _ _ h => ⟨hmark.trans h.1, h.2⟩
  refine Ends.ite (fun _ => hderive _) fun _ => ?_
  split
  · exact Ends.throw trivial
  · exact hderive _

-- without references what stays is what waits
lemma deleteUnused_allWait {l : List PicId} (hs : s.store.Stocked l) (hrefs : s.store.listedRefs = []) :
    AllWait (s.mapStore Store.dpbDeleteUnused) ∧
      (s.mapStore Store.dpbDeleteUnused).store.dpb.picList = s.store.dpb.picList.filter s.store.waits := by
  have hlist : s.store.dpbDeleteUnused.dpb.picList = s.store.dpb.picList.filter s.store.waits := by
    rw [Store.dpbDeleteUnused_picList]
    refine List.filter_congr fun q hq => ?_
    rw [Store.unused, Store.listedRefs_eq_nil.mp hrefs q hq, Store.waits]
    simp
  have hmem : ∀ q ∈ s.store.dpbDeleteUnused.dpb.picList, q ∈ s.store.dpb.picList ∧ s.store.waits q := fun q hq =>
    List.mem_filter.mp (hlist ▸ hq)
  refine ⟨⟨⟨l, hs.dpbDeleteUnused⟩, Store.listedRefs_eq_nil.mpr fun q hq => ?_, fun q hq => ?_⟩, hlist⟩
  · exact (Store.ref_unrefAll _ q _).trans (Store.listedRefs_eq_nil.mp hrefs q (hmem q hq).1)
  · exact (congrFun (Store.dpbDeleteUnused_waits s.store) q).trans (hmem q hq).2

/-- Nothing is stored or counted, and the last order count output is forgotten. -/
structure Emptied (t : Decoder P) : Prop where
  picList : t.store.dpb.picList = []
  numOutputNeeded : t.store.dpb.numOutputNeeded = 0
  lastOutputPoc : t.lastOutputPoc = int32Min

/-- The pictures that waited in `s` were displayed, each once. -/
def WaitingDisplayed (s t : Decoder P) : Prop :=
  (s.store.dpb.picList.filter s.store.waits).Nodup ∧ DisplaysAll (s.store.dpb.picList.filter s.store.waits) s t

lemma clearDpb_returns : Returns (clearDpb (P := P) false) s fun _ t => Emptied t := by
  have hempty : ∀ u : Decoder P, Returns emptyDpb u fun _ t => Emptied t := fun u =>
    Ends.edit_bind trivial (Ends.modify ⟨Store.dpbClear_picList u.store, rfl, rfl⟩)
  exact Ends.ite (fun h => absurd h Bool.false_ne_true) fun _ =>
    Ends.get_bind (Ends.bind (Ends.returns _ _) fun _ u _ => hempty u)

lemma stocked_of_reach (h : ReflTransGen (Act env) (Phase.idle, Decoder.start env) x) : StockedIn x :=
  kept (fun _ _ h hx => h.stocked hx) h ⟨List.nodup_nil, fun _ hq => absurd hq List.not_mem_nil, rfl⟩

lemma Remarked.displays (h : Remarked s t) : Displays [] s t := by
  obtain ⟨es, hes, hr⟩ := h.keeps.log
  exact ⟨h.keeps.pic, es, hes, displayed_ofDpb hr⟩

lemma Displays.displaysAll {l : List PicId} (h : Displays [] s t) (ht : DisplaysAll l t u) : DisplaysAll l s u := by
  obtain ⟨m, hm, hperm, hsorted⟩ := ht
  refine ⟨m, List.append_nil m ▸ h.trans hm, hperm, hsorted.imp fun {x y} hxy => ?_⟩
  rwa [(h.pic x).number.1, (h.pic y).number.1] at hxy

-- the pictures stored in `t` waited in `s`
lemma FramesFound.of_displays (hf : FramesFound s) (h : Displays [] s t) (hframes : t.frames = s.frames)
    (hmem : ∀ q ∈ t.store.dpb.picList, q ∈ s.store.dpb.picList ∧ s.store.waits q) : FramesFound t := by
  have hnumber : ∀ q, (t.pic q).systemFrameNumber = (s.pic q).systemFrameNumber := fun q => (h.pic q).number.2
  refine ⟨fun q hq _ => ?_, fun q hq q' hq' _ _ heq => ?_⟩
  · rw [hnumber, Decoder.getFrame, hframes]
    exact hf.found q (hmem q hq).1 (hmem q hq).2
  · rw [hnumber, hnumber] at heq
    exact hf.apart q (hmem q hq).1 q' (hmem q' hq').1 (hmem q hq).2 (hmem q' hq').2 heq

lemma resetLastOutput_returns (hnil : s.store.dpb.picList = []) (hneeded : s.store.dpb.numOutputNeeded = 0) :
    Returns resetLastOutput s fun _ t => Emptied t ∧ t.store = s.store := by
  refine Ends.get_bind (Ends.ite (fun _ => Ends.modify ⟨⟨hnil, hneeded, rfl⟩, rfl⟩) fun hnot => absurd ?_ hnot)
  rw [Store.dpbGetSize, hnil]
  rfl

lemma emptied_returns {sps : GstH265SPS} {slice : GstH265Slice} (hstock : StockedIn (k, s)) (hirap : slice.nalu.type.isIrap)
    (hno : (s.pic p).noRaslOutputFlag) (hclear : slice.clearDpb) :
    Returns (do prepareRps sps slice p; dpbInit env sps slice p) s fun _ t => Emptied t ∧
      ((s.pic p).noOutputOfPriorPicsFlag = false → FramesFound s → WaitingDisplayed s t) := by
  refine Ends.bind (prepareRps_returns hirap hno) ?_
  rintro - u ⟨hu, hrefs⟩
  have hflag : (u.pic p).noOutputOfPriorPicsFlag = (s.pic p).noOutputOfPriorPicsFlag := by
    obtain ⟨_, _, _, _, _, hp⟩ := hu.keeps.pic p
    exact (congrArg Picture.noOutputOfPriorPicsFlag hp :)
  refine Ends.ite (fun _ => Ends.get_bind ?_) fun hnot => absurd hclear hnot
  refine Ends.ite (fun hprior => ?_) fun _ => Ends.edit_bind trivial (Ends.get_bind ?_)
  · refine Ends.bind clearDpb_returns fun _ v hv => Ends.pure ⟨hv, fun hno => ?_⟩
    rw [hflag, hno] at hprior
    cases hprior
  · obtain ⟨hwait, hlist⟩ := deleteUnused_allWait (Store.Stocked.sameNeeds hstock hu.needs hu.keeps.next) hrefs
    rw [hu.needs.dpb, hu.needs.waits] at hlist
    refine Ends.bind (bumpAll_returns _ .ok hwait (Nat.lt_succ_self _)) ?_
    rintro ret' v ⟨hnil, hneeded, hv⟩
    have hdisplays := hu.displays.trans (displays_keeps (Store.keeps_dpbDeleteUnused u.store))
    refine Ends.bind (resetLastOutput_returns hnil hneeded) ?_
    rintro - w ⟨hempty, hstore⟩
    refine Ends.pure ⟨hempty, fun _ hf => ⟨hstock.nodup.filter _, ?_⟩⟩
    have hout := hdisplays.displaysAll (hv (hf.of_displays hdisplays hu.frames fun q hq => List.mem_filter.mp (hlist ▸ hq)))
    obtain ⟨l, ⟨hpic, hlog⟩, hrest⟩ := hlist ▸ hout
    refine ⟨l, ⟨fun q => ?_, hstore ▸ hlog⟩, hrest⟩
    show SameContent (s.pic q) (w.store.pic q)
    rw [hstore]
    exact hpic q

/-- At random access the DPB is empty after prepare_rps and dpb_init whatever it held, and the last order count
output is forgotten, which it is not after the warning. The pictures that waited were displayed, unless they are
not to be output. -/
theorem dpbInit_empties (env : Env P) (k : Phase) (sps : GstH265SPS) (slice : GstH265Slice) (p : PicId)
    (ret : GstFlowReturn) (s t : Decoder P) (hreach : ReflTransGen (Act env) (Phase.idle, Decoder.start env) (k, s))
    (hirap : slice.nalu.type.isIrap) (hno : (s.pic p).noRaslOutputFlag) (hclear : slice.clearDpb)
    (h : (do prepareRps sps slice p; dpbInit env sps slice p : DecoderM P GstFlowReturn) s = .ok ret t) :
    Emptied t ∧ ((s.pic p).noOutputOfPriorPicsFlag = false → FramesFound s → WaitingDisplayed s t) :=
  (emptied_returns (stocked_of_reach hreach) hirap hno hclear).of_eq_ok h

section Examples

def waitingScript : Script where
  vps := [{}]
  sps := [{ vps := some 0, log2MaxPicOrderCntLsbMinus4 := 4, maxNumReorderPics := [3], maxDecPicBufferingMinus1 := [4] }]
  pps := [{}]
  slices := [{ firstSliceSegmentInPicFlag := true },
    { firstSliceSegmentInPicFlag := true, picOrderCntLsb := 8,
      shortTermRefPicSets := { negativePics := [{ deltaPoc := -8, usedByCurrPic := true }] } },
    { firstSliceSegmentInPicFlag := true, picOrderCntLsb := 4,
      shortTermRefPicSets := { negativePics := [{ deltaPoc := -4, usedByCurrPic := true }] } }]

-- three pictures wait: those with the order counts 0, 8 and 4, the last of which lets go of the one with 8
def waitingInputs : List Input :=
  Script.frames [[Script.vpsUnit 0, Script.spsUnit 0, Script.ppsUnit 0, Script.idrUnit 0], [Script.trailUnit 1],
    [Script.trailUnit 2]]

def waitingEnd : Decoder Tables := final (runInputs waitingScript.env waitingInputs (Decoder.start waitingScript.env))

def nextIdr : GstH265Slice where
  nalu := { type := .idrWRadl }
  rapPicFlag := true
  noRaslOutputFlag := true
  clearDpb := true

theorem dpbInit_empties_three :
    ∃ t, (do prepareRps {} nextIdr 0; dpbInit waitingScript.env {} nextIdr 0 : DecoderM Tables GstFlowReturn) waitingEnd =
      .ok .ok t ∧ Emptied t ∧ WaitingDisplayed waitingEnd t := by
  obtain ⟨k, hk⟩ := reach_final waitingScript.env waitingInputs
  obtain ⟨t, ht⟩ := exists_of_returned (a := GstFlowReturn.ok) (r := (prepareRps {} nextIdr 0 >>= fun _ =>
    dpbInit waitingScript.env {} nextIdr 0 : DecoderM Tables GstFlowReturn) waitingEnd) (by decide +kernel)
  have hframes : FramesFound waitingEnd := ⟨by decide +kernel, by decide +kernel⟩
  have hno : (waitingEnd.pic 0).noRaslOutputFlag := by decide +kernel
  obtain ⟨hempty, hout⟩ := dpbInit_empties waitingScript.env k {} nextIdr 0 .ok waitingEnd t hk rfl hno rfl ht
  exact ⟨t, ht, hempty, hout (by decide +kernel) hframes⟩

end Examples

end VkVideoParser.H265
