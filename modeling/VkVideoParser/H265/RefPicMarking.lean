import VkVideoParser.Library.Ends
import VkVideoParser.H265.Runs

/-! The marks that prepare_rps leaves on the pictures of the DPB. -/

namespace VkVideoParser.H265

open Execution

variable {P : Type} {env : Env P} {s t : Decoder P} {p q : PicId}

def RefPicSets.ltPictures (sets : RefPicSets) : List PicId := (sets.ltCurr ++ sets.ltFoll).filterMap id

def RefPicSets.stPictures (sets : RefPicSets) : List PicId :=
  (sets.stCurrBefore ++ sets.stCurrAfter ++ sets.stFoll).filterMap id

/-- The references that are stored have different order counts. -/
def Store.DistinctRefPocs (a : Store) : Prop :=
  ∀ p ∈ a.listedRefs, ∀ q ∈ a.listedRefs, (a.pic p).picOrderCnt = (a.pic q).picOrderCnt → p = q

/-- Of the stored pictures the references of the sets stay references, and no picture becomes one. Those of the
long-term sets are long-term references, those of the short-term sets are not. -/
structure Marked (s t : Decoder P) : Prop where
  reference : ∀ p ∈ s.store.dpb.picList, (t.pic p).ref ↔ (s.pic p).ref ∧ p ∈ t.refPicSets.pictures
  longTerm : ∀ p ∈ t.refPicSets.ltPictures, (t.pic p).ref ∧ (t.pic p).longTerm
  shortTerm : ∀ p ∈ t.refPicSets.stPictures, (t.pic p).ref ∧ (t.pic p).longTerm = false
  apart : ∀ p ∈ t.refPicSets.ltPictures, p ∉ t.refPicSets.stPictures
  old : ∀ p, (t.pic p).ref → (s.pic p).ref

lemma RefPicSets.mem_pictures_iff {sets : RefPicSets} : p ∈ sets.pictures ↔ p ∈ sets.ltPictures ∨ p ∈ sets.stPictures := by
  simp only [RefPicSets.pictures, ltPictures, stPictures, List.filterMap_append, List.mem_append, or_assoc]

namespace Store

variable {a b : Store} {sets : RefPicSets}

lemma longTerm_foldl {f : PicId → Store → Store} (h : ∀ p q a, ((f p a).pic q).longTerm = (a.pic q).longTerm)
    (l : List PicId) (q : PicId) (a : Store) :
    ((l.foldl (fun s p => f p s) a).pic q).longTerm = (a.pic q).longTerm := by
  induction l generalizing a with
  | nil => rfl
  | cons p l ih => exact (ih _).trans (h p q a)

lemma longTerm_refAll (l : List PicId) (q : PicId) (a : Store) :
    ((a.refAll l).pic q).longTerm = (a.pic q).longTerm := by
  refine longTerm_foldl (f := ref) (fun p q a => ?_) l q a
  rw [ref, modifyPic_pic]
  split
  · rename_i h
    rw [h]
  · rfl

-- a long-term mark is not taken back
lemma longTerm_setLongTerm (l : List PicId) (h : q ∈ l ∨ (a.pic q).longTerm) :
    ((l.foldl (fun s p => s.setLongTerm p) a).pic q).longTerm := by
  induction l generalizing a with
  | nil => exact h.resolve_left List.not_mem_nil
  | cons p l ih =>
    refine ih ?_
    simp only [setLongTerm, modifyPic_pic]
    by_cases hq : q = p
    · exact .inr (by rw [if_pos hq])
    · rw [if_neg hq]
      exact h.imp_left fun h => (List.mem_cons.mp h).resolve_left hq

lemma longTerm_dropRefs {l : List PicId} (hq : q ∉ l) (a : Store) :
    ((l.foldl (fun s p => s.dropRef p) a).pic q).longTerm = (a.pic q).longTerm := by
  induction l generalizing a with
  | nil => rfl
  | cons p l ih =>
    rw [List.mem_cons, not_or] at hq
    refine (ih hq.2 _).trans (congrArg Picture.longTerm ?_)
    exact (modifyPic_pic p q _ a).trans (if_neg hq.1)

-- dropping references makes none
lemma ref_of_dropRefs (l : List PicId) (h : ((l.foldl (fun s p => s.dropRef p) a).pic q).ref) : (a.pic q).ref := by
  induction l generalizing a with
  | nil => exact h
  | cons p l ih =>
    have := ih h
    simp only [dropRef, modifyPic_pic] at this
    split at this
    · cases this
    · exact this

lemma dropRefs_ref {l : List PicId} (hq : q ∈ l) (a : Store) :
    ((l.foldl (fun s p => s.dropRef p) a).pic q).ref = false := by
  induction l generalizing a with
  | nil => cases hq
  | cons p l ih =>
    by_cases hl : q ∈ l
    · exact ih hl _
    · obtain rfl := (List.mem_cons.mp hq).resolve_right hl
      refine (ref_dropRefs hl _).trans ?_
      simp only [dropRef, modifyPic_pic, if_true]

lemma not_dropped (h : p ∈ sets.pictures) (a : Store) : p ∉ a.dpb.picList.filter fun p => !a.inRefPicSets sets p := by
  intro hmem
  have := (List.mem_filter.mp hmem).2
  rw [inRefPicSets_of_mem h a] at this
  cases this

/-- A stored picture that is not dropped has the order count of a picture of the sets. -/
lemma exists_samePoc (h : a.inRefPicSets sets p) : ∃ q ∈ sets.pictures, (a.pic q).picOrderCnt = (a.pic p).picOrderCnt := by
  have hentry : ∀ {set : List (Option PicId)}, a.hasEntryInRps p set →
      ∃ q, some q ∈ set ∧ (a.pic q).picOrderCnt = (a.pic p).picOrderCnt := by
    intro set h
    obtain ⟨q, hq, hpoc⟩ := List.any_eq_true.mp h
    obtain ⟨o, ho, hid⟩ := List.mem_filterMap.mp hq
    obtain rfl : o = some q := hid
    exact ⟨q, ho, of_decide_eq_true hpoc⟩
  simp only [inRefPicSets, Bool.or_eq_true] at h
  simp only [mem_pictures]
  rcases h with (((h | h) | h) | h) | h <;> obtain ⟨q, hq, hpoc⟩ := hentry h <;> exact ⟨q, by simp [hq], hpoc⟩

section Derived

variable (pocs : RefPocs) (a : Store)

/-- The store once the sets are derived, before the other pictures lose their marks. -/
def derived : Store := ((a.deriveLongTerm pocs).2.deriveShortTerm pocs (a.deriveLongTerm pocs).1).2

lemma deriveAndMarkRps_snd : (a.deriveAndMarkRps pocs).2 = (a.derived pocs).markUnused (a.deriveAndMarkRps pocs).1 := rfl

lemma derived_dpb : (a.derived pocs).dpb = a.dpb :=
  (refAll_dpb _ _).trans ((dpb_foldl (f := setLongTerm) (fun _ _ => rfl) _ _).trans (refAll_dpb _ _))

lemma derived_ref (q : PicId) : ((a.derived pocs).pic q).ref = (a.pic q).ref := by
  refine (ref_refAll _ q _).trans ((ref_setLongTerm (fun p hp => ?_) q).trans (ref_refAll _ q a))
  rw [ref_refAll]
  obtain ⟨o, ho, hid⟩ := List.mem_filterMap.mp hp
  obtain rfl : o = some p := hid
  rcases List.mem_append.mp ho with ho | ho <;> obtain ⟨x, -, hx⟩ := List.mem_map.mp ho
  · exact (mem_listedRefs.mp (listed_dpbGetLtRef hx)).2
  · exact (mem_listedRefs.mp (listed_dpbGetLtRef hx)).2

lemma derived_poc (q : PicId) : ((a.derived pocs).pic q).picOrderCnt = (a.pic q).picOrderCnt := by
  have hlong := keeps_foldl (f := setLongTerm) (keeps_modifyPic fun _ => ⟨_, _, _, _, _, rfl⟩)
  obtain ⟨_, _, _, _, _, h⟩ := (((keeps_refAll _ a).trans (hlong _ _)).trans (keeps_refAll _ _) :
    Keeps a (a.derived pocs)).pic q
  rw [h]

lemma derived_longTerm (h : q ∈ (a.deriveAndMarkRps pocs).1.ltPictures) : ((a.derived pocs).pic q).longTerm :=
  (longTerm_refAll _ q _).trans (longTerm_setLongTerm _ (.inl h))

lemma derived_shortTerm (h : q ∈ (a.deriveAndMarkRps pocs).1.stPictures) : ((a.derived pocs).pic q).longTerm = false := by
  refine (longTerm_refAll _ q _).trans ?_
  obtain ⟨o, ho, hid⟩ := List.mem_filterMap.mp h
  obtain rfl : o = some q := hid
  have hfound : ∃ poc, (a.deriveLongTerm pocs).2.dpbGetShortRefByPoc poc = some q := by
    rcases List.mem_append.mp ho with ho | ho
    · rcases List.mem_append.mp ho with ho | ho <;> obtain ⟨poc, -, hpoc⟩ := List.mem_map.mp ho <;> exact ⟨poc, hpoc⟩
    · obtain ⟨poc, -, hpoc⟩ := List.mem_map.mp ho
      exact ⟨poc, hpoc⟩
  obtain ⟨poc, hpoc⟩ := hfound
  have := List.find?_some hpoc
  simp only [Bool.and_eq_true, Bool.not_eq_true'] at this
  exact this.1.2

end Derived

/-- The marks of derive_and_mark_rps. -/
lemma marked_deriveAndMarkRps (pocs : RefPocs) (hd : a.DistinctRefPocs) {sets : RefPicSets}
    (hs : (a.deriveAndMarkRps pocs).1 = sets) (hb : (a.deriveAndMarkRps pocs).2 = b) :
    (∀ p ∈ a.dpb.picList, (b.pic p).ref ↔ (a.pic p).ref ∧ p ∈ sets.pictures) ∧
      (∀ p ∈ sets.ltPictures, (b.pic p).ref ∧ (b.pic p).longTerm) ∧
      (∀ p ∈ sets.stPictures, (b.pic p).ref ∧ (b.pic p).longTerm = false) ∧ ∀ p, (b.pic p).ref → (a.pic p).ref := by
  subst hs hb
  have hstored : ∀ {p}, p ∈ (a.deriveAndMarkRps pocs).1.pictures → ((a.deriveAndMarkRps pocs).2.pic p).ref := fun hp =>
    (mem_listedRefs.mp (pictures_deriveAndMarkRps pocs a hp).2).2
  have hold : ∀ p, ((a.deriveAndMarkRps pocs).2.pic p).ref → (a.pic p).ref := fun p hp =>
    (derived_ref pocs a p).symm.trans (ref_of_dropRefs _ hp)
  have hlong : ∀ {p}, p ∈ (a.deriveAndMarkRps pocs).1.pictures →
      ((a.deriveAndMarkRps pocs).2.pic p).longTerm = ((a.derived pocs).pic p).longTerm := fun hp =>
    longTerm_dropRefs (not_dropped hp _) _
  refine ⟨fun p hp => ⟨fun href => ⟨hold p href, ?_⟩, fun h => hstored h.2⟩, fun p hp => ?_, fun p hp => ?_, hold⟩
  · have hkept : (a.derived pocs).inRefPicSets (a.deriveAndMarkRps pocs).1 p := by
      by_contra hno
      have hdrop : p ∈ (a.derived pocs).dpb.picList.filter
          fun p => !(a.derived pocs).inRefPicSets (a.deriveAndMarkRps pocs).1 p := by
        rw [List.mem_filter, derived_dpb]
        exact ⟨hp, by simpa using hno⟩
      have := dropRefs_ref hdrop (a.derived pocs)
      rw [deriveAndMarkRps_snd, markUnused, this] at href
      cases href
    obtain ⟨q, hq, hpoc⟩ := exists_samePoc hkept
    rw [derived_poc, derived_poc] at hpoc
    obtain rfl := hd q (pictures_deriveAndMarkRps pocs a hq).1 p (mem_listedRefs.mpr ⟨hp, hold p href⟩) hpoc
    exact hq
  · have hmem := RefPicSets.mem_pictures_iff.mpr (.inl hp)
    exact ⟨hstored hmem, (hlong hmem).trans (derived_longTerm pocs a hp)⟩
  · have hmem := RefPicSets.mem_pictures_iff.mpr (.inr hp)
    exact ⟨hstored hmem, (hlong hmem).trans (derived_shortTerm pocs a hp)⟩

end Store

lemma clearSets_same (s : Decoder P) : s.clearSets.store.dpb = s.store.dpb ∧
    ∀ q, (s.clearSets.pic q).ref = (s.pic q).ref ∧ (s.clearSets.pic q).picOrderCnt = (s.pic q).picOrderCnt := by
  refine ⟨Store.unrefAll_dpb _ _, fun q => ⟨Store.ref_unrefAll _ q _, ?_⟩⟩
  obtain ⟨_, _, _, _, _, h⟩ := (Store.keeps_unrefAll s.refPicSets.pictures s.store).pic q
  have h : s.clearSets.pic q = _ := h
  rw [h]
  rfl

lemma deriveAndMarkRps_marked (pocs : RefPocs) (hd : s.store.DistinctRefPocs) :
    Returns (deriveAndMarkRps pocs) s fun _ t => Marked s t := by
  refine Ends.edit_bind trivial (Ends.edit trivial ?_)
  obtain ⟨hdpb, hpic⟩ := clearSets_same s
  have hlisted : s.clearSets.store.listedRefs = s.store.listedRefs :=
    Store.listedRefs_congr (congrArg Dpb.picList hdpb) fun q => (hpic q).1
  have hd' : s.clearSets.store.DistinctRefPocs := by
    intro p hp q hq hpoc
    rw [hlisted] at hp hq
    exact hd p hp q hq ((hpic p).2.symm.trans (hpoc.trans (hpic q).2))
  obtain ⟨href, hlong, hshort, hold⟩ := Store.marked_deriveAndMarkRps pocs hd' rfl rfl
  refine ⟨fun p hp => ?_, hlong, hshort, fun p hl hs => ?_, fun p hp => (hpic p).1.symm.trans (hold p hp)⟩
  · exact (href p (hdpb ▸ hp)).trans (and_congr_left fun _ => by rw [← (hpic p).1]; rfl)
  · exact absurd ((hlong p hl).2.symm.trans (hshort p hs).2) (by decide)

lemma ref_of_dpbMarkAllNonRef {a : Store} (h : (a.dpbMarkAllNonRef.pic q).ref) : (a.pic q).ref := by
  have hset : ∀ (l : List PicId) (b : Store), ((l.foldl (fun s p => s.setRef false p) b).pic q).ref → (b.pic q).ref := by
    intro l
    induction l with
    | nil => exact fun _ h => h
    | cons p l ih =>
      intro b hb
      have := ih _ hb
      simp only [Store.setRef, Store.modifyPic_pic] at this
      split at this
      · cases this
      · exact this
  exact hset _ a h

lemma Marked.of_markAllNonRef (h : Marked (s.mapStore Store.dpbMarkAllNonRef) t) : Marked s t := by
  have hlist : s.store.dpbMarkAllNonRef.dpb.picList = s.store.dpb.picList :=
    congrArg Dpb.picList (Store.dpb_foldl (f := Store.setRef false) (fun _ _ => rfl) _ s.store)
  refine ⟨fun p hp => ⟨fun href => ?_, fun hmem => ?_⟩, h.longTerm, h.shortTerm, h.apart, fun p hp =>
    ref_of_dpbMarkAllNonRef (h.old p hp)⟩
  · exact ⟨ref_of_dpbMarkAllNonRef (h.old p href), ((h.reference p (hlist.symm ▸ hp)).mp href).2⟩
  · rcases RefPicSets.mem_pictures_iff.mp hmem.2 with hl | hs
    · exact (h.longTerm p hl).1
    · exact (h.shortTerm p hs).1

/-- After prepare_rps, when the references stored before had different order counts. -/
theorem prepareRps_marked (sps : GstH265SPS) (slice : GstH265Slice) (p : PicId) (s t : Decoder P)
    (hd : s.store.DistinctRefPocs) (h : prepareRps sps slice p s = .ok () t) : Marked s t := by
  have hderive : ∀ u : Decoder P, u.store.DistinctRefPocs →
      Returns (deriveRps sps slice (s.pic p).picOrderCnt) u fun _ t => Marked u t := by
    intro u hu
    refine Ends.ite (fun _ => deriveAndMarkRps_marked _ hu) fun _ => ?_
    split
    · exact Ends.throw trivial
    · exact deriveAndMarkRps_marked _ hu
  have hall : Returns (prepareRps sps slice p) s fun _ t => Marked s t := by
    refine Ends.get_bind (Ends.ite (fun _ => ?_) fun _ => hderive s hd)
    refine Ends.edit_bind trivial ((hderive _ fun p hp => ?_).mono fun _ _ h => h.of_markAllNonRef)
    rw [show (s.mapStore Store.dpbMarkAllNonRef).store.listedRefs = [] from listedRefs_dpbMarkAllNonRef s.store] at hp
    cases hp
  exact hall.of_eq_ok h

-- two short-term references, of which the slice keeps one and turns the other into a long-term reference
def twoRefs : Decoder Unit where
  store := {
    pic := fun p => { refcount := 1, ref := p < 2, picOrderCnt := 4 * (p + 1), picOrderCntLsb := 4 * (p + 1) }
    next := 3
    dpb := { picList := [0, 1] } }
  parser := ()

def twoRefsSlice : GstH265Slice where
  nalu := { type := .trailR }
  header := {
    shortTermRefPicSets := { negativePics := [{ deltaPoc := -4, usedByCurrPic := true }] }
    numLongTermPics := 1
    pocLsbLt := [4]
    usedByCurrPicLtFlag := [true] }

theorem prepareRps_twoRefs : ∃ t, prepareRps {} twoRefsSlice 2 twoRefs = .ok () t ∧ Marked twoRefs t :=
  ⟨_, rfl, prepareRps_marked {} twoRefsSlice 2 twoRefs _ (by unfold Store.DistinctRefPocs; decide) rfl⟩

end VkVideoParser.H265
