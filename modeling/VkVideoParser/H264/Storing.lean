import VkVideoParser.H264.FieldPairs

/-! What a move does to the DPB: it leaves the stored pictures as they are, stores one more or takes some out. -/

namespace VkVideoParser.H264

open Execution Relation

variable {P : Type} {env : Env P} {k k' : Phase} {s t : Decoder P} {x y : Phase × Decoder P} {p q : PicId}

/-- Two states of a picture that agree in its output and its place in its frame. -/
structure SameOutput (a b : Picture) : Prop extends SameField a b where
  neededForOutput : b.neededForOutput = a.neededForOutput
  nonexisting : b.nonexisting = a.nonexisting

lemma SameOutput.refl (a : Picture) : SameOutput a a := ⟨.refl a, rfl, rfl⟩

lemma SameOutput.waits {a b : Picture} (h : SameOutput a b) : Store.waitsForOutput b = Store.waitsForOutput a := by
  simp only [Store.waitsForOutput, Picture.isFrame, h.neededForOutput, h.field, h.otherField, h.secondField]

lemma SameRole.sameOutput {a b : Picture} (h : SameRole a b) : SameOutput a b :=
  ⟨h.sameField, h.neededForOutput, h.nonexisting⟩

lemma Store.SameShape.sameOutput {a b : Store} (h : Store.SameShape a b) (q : PicId) : SameOutput (a.pic q) (b.pic q) := by
  obtain ⟨n, hn⟩ := h.pic q
  rw [hn]
  exact ⟨⟨rfl, rfl, rfl⟩, rfl, rfl⟩

lemma sameOutput_setVkPic (p q : PicId) (vkpic : VkPic) (s : Decoder P) :
    SameOutput (s.pic q) ((setVkPic p vkpic s).pic q) := by
  simp only [setVkPic, Decoder.pic, Decoder.modifyPic_store, Store.modifyPic_pic]
  split
  · rename_i h
    rw [h]
    exact ⟨⟨rfl, rfl, rfl⟩, rfl, rfl⟩
  · exact .refl _

/-- How a picture comes to be stored. -/
inductive Arrives (x : Phase × Decoder P) (p : PicId) : Prop
  | held {r : Role} (hp : (r, p) ∈ x.1.hold) (hr : r.stored) (hroom : (x.2.pic p).otherField = none → x.2.store.Room)
    (hlast : ∀ q, x.2.lastField = some q → (x.2.pic p).otherField ≠ some q)
    (hhalf : r = .half → ∀ q, (x.2.pic p).otherField = some q → q ∈ x.2.store.dpb.picList)
    (hfirst : r = .settled → (x.2.pic p).secondField → ∀ q, (x.2.pic p).otherField = some q →
      (x.2.pic q).refcount ≠ 0 ∧ x.1.current = .gone p ∧ ∀ m ∈ x.1.hold, m.2 = p)
    (hmissing : r = .gap → (x.2.pic p).nonexisting)
  | last {r : Role} {p' : PicId} (hp : (r, p') ∈ x.1.hold) (hr : r.stored) (hl : x.2.lastField = some p)
    (hpp : (x.2.pic p').otherField = some p)
    (hroom : x.2.store.Room ∨ (r = .settled ∧ (x.2.pic p').isRef = false ∧ (x.2.pic p).isRef))

/-- What a move does to the DPB. -/
inductive Restocks (x y : Phase × Decoder P) : Prop
  | kept (hl : y.2.store.dpb.picList = x.2.store.dpb.picList)
    (hn : y.2.store.dpb.numOutputNeeded = x.2.store.dpb.numOutputNeeded)
    (hp : ∀ q ∈ x.2.store.dpb.picList, SameOutput (x.2.pic q) (y.2.pic q))
  | stored {p : PicId} (ha : Arrives x p) (hs : y.2.store = x.2.store.addPicture p)
  | deleted (hs : y.2.store = x.2.store.dpbDeleteUnused)
  | bumped {drain : Bool} {p : PicId} (h : (x.2.store.dpbBump drain).1 = some p)
    (hs : y.2.store = (x.2.store.dpbBump drain).2)
  | cleared (hs : y.2.store = x.2.store.dpbClear)

lemma restocks_of_eq (hd : t.store.dpb = s.store.dpb) (hp : ∀ q, SameOutput (s.pic q) (t.pic q)) :
    Restocks (k, s) (k', t) := .kept (by rw [hd]) (by rw [hd]) fun q _ => hp q

lemma restocks_of_sameShape (h : Store.SameShape s.store t.store) : Restocks (k, s) (k', t) :=
  restocks_of_eq h.dpb h.sameOutput

-- a picture that is not stored may change at will
lemma restocks_modifyPic {f : Picture → Picture} (hp : p ∉ s.store.dpb.picList) : Restocks (k, s) (k', s.modifyPic p f) := by
  refine .kept rfl rfl fun q hq => ?_
  have hne : q ≠ p := fun h => hp (h ▸ hq)
  simpa [Decoder.pic, hne] using SameOutput.refl _

lemma Act.restocks (h : Act env x y) (hx : Placed x) : Restocks x y := by
  cases h with
  | book h => exact .kept h.picList h.numOutputNeeded fun q _ => by rw [Decoder.pic, Decoder.pic, h.pic]; exact .refl _
  | number h | mark p hp hk h => exact restocks_of_eq h.dpb fun q => (h.role q).sameOutput
  | new r hr =>
    rename_i k s
    refine .kept rfl rfl fun q hq => ?_
    have hne : q ≠ s.store.next := ne_of_lt (hx.below q (.inl (places_of_mem hq)))
    simpa [Decoder.pic, Store.pictureNew, hne] using SameOutput.refl _
  | alloc p hp =>
    refine restocks_of_eq (allocPicture_dpb p) fun q => ?_
    unfold Decoder.allocPicture
    simp only
    split
    · exact .refl _
    · exact sameOutput_setVkPic p q _ _
  | edit p hp =>
    refine restocks_modifyPic (hx.not_stored ?_)
    rcases hp with hp | hp | hp
    · exact flight_of_hold hp rfl
    · exact flight_of_hold hp rfl
    · exact .inr (.inl hp.place)
  | editLost p hk => exact restocks_modifyPic (hx.not_stored (.inr (.inl (by rw [hk]; rfl))))
  | linkSecond p p' hp => exact restocks_modifyPic (hx.not_stored (flight_of_hold hp rfl))
  | link p p' hp hq hs hpq hst => exact restocks_modifyPic hst
  | splitPair p p' hp hr hq =>
    rename_i k s r _ _ _ _ _ _
    refine .kept rfl rfl fun q hm => ?_
    have hne : q ≠ p := fun h => hx.not_stored (flight_of_hold hp (stored_owns hr)) (h ▸ hm)
    have hne' : q ≠ p' := fun h => hx.not_stored (flight_of_hold hq rfl) (h ▸ hm)
    simpa [Decoder.splitPair, Decoder.pic, hne, hne'] using SameOutput.refl _
  | borrow p hp | keep p hp => exact restocks_of_sameShape (Store.sameShape_ref _ _)
  | unref p hp | unrefCurrent p hp | unrefLast p hp => exact restocks_of_sameShape (Store.sameShape_unref _ _)
  | start p slice vkpic | slice p slice vkpic | endPicture p vkpic | losePicture p vkpic =>
    exact restocks_of_eq rfl fun q => sameOutput_setVkPic p q _ _
  | deleteUnused => exact .deleted rfl
  | dpbClear => exact .cleared rfl
  | bump drain p h => exact .bumped h rfl
  | add p hp hr hroom hlast hhalf hfirst hframes hmissing =>
    exact .stored (.held hp hr hroom hlast hhalf hfirst hmissing) rfl
  | addLast p p' hp hr hl hpq hi hroom => exact .stored (.last hp hr hl hpq hroom) rfl
  | removeFrame h => cases h <;> exact .kept rfl rfl fun q _ => .refl _
  | _ => exact .kept rfl rfl fun q _ => .refl _

/-- A first field without a second one. -/
structure Lone (a : Picture) : Prop where
  secondField : a.secondField = false
  field : a.field ≠ .frame
  otherField : a.otherField = none

lemma SameField.lone {a b : Picture} (h : SameField a b) (hb : Lone b) : Lone a :=
  ⟨h.secondField.symm.trans hb.secondField, h.field ▸ hb.field, h.otherField.symm.trans hb.otherField⟩

lemma Lone.not_waiting {a : Picture} (h : Lone a) : Store.waitsForOutput a = false := by
  simp [Store.waitsForOutput, Picture.isFrame, h.field, h.otherField]

lemma Store.dpbDeleteUnused_sameOutput (a : Store) (q : PicId) : SameOutput (a.pic q) (a.dpbDeleteUnused.pic q) :=
  (Store.sameShape_unrefAll (a.dpb.picList.filter a.unused)
    (a.setPicList (a.dpb.picList.filter fun p => !a.unused p))).sameOutput q

lemma Store.dpbClear_picList (a : Store) : a.dpbClear.dpb.picList = [] :=
  congrArg Dpb.picList (Store.sameShape_unrefAll a.dpb.picList (a.setPicList [])).dpb

-- what is stored besides the new picture stays, but for the link
lemma Store.dpbAdd_sameOutput {a : Store} (hq : q ≠ p)
    (ho : ¬((a.pic p).secondField ∧ (a.pic p).otherField = some q)) : SameOutput (a.pic q) ((a.dpbAdd p).pic q) := by
  obtain ⟨b, o, hpic⟩ := (Store.adds_dpbAdd p a).pic q
  refine ⟨⟨by rw [hpic], ?_, by rw [hpic]⟩, ?_, Store.dpbAdd_nonexisting p q a⟩
  · rw [Store.dpbAdd_otherField, if_neg ho]
  · rw [Store.dpbAdd_needed, if_neg hq]

lemma Store.dpbBump_sameOutput {a : Store} {drain : Bool} (h : (a.dpbBump drain).1 = some p) (hq : q ≠ p)
    (ho : (a.pic p).otherField ≠ some q) : SameOutput (a.pic q) ((a.dpbBump drain).2.pic q) := by
  obtain ⟨n, b, c, d, hpic, -⟩ := (Store.shrinks_dpbBump (s := a) (d := drain)).pic q
  refine ⟨Store.shrinks_dpbBump.sameField q, ?_, by rw [hpic]⟩
  rw [Store.dpbBump_needed h, if_neg (not_or.mpr ⟨hq, ho⟩)]

-- no move changes a first field that stays without a second one
lemma Restocks.lone (h : Restocks x y) (hp : x.2.store.Paired) (hq : q ∈ y.2.store.dpb.picList) (ho : Lone (y.2.pic q)) :
    (q ∈ x.2.store.dpb.picList ∧ SameOutput (x.2.pic q) (y.2.pic q)) ∨
      (Arrives x q ∧ y.2.store = x.2.store.addPicture q) := by
  cases h with
  | kept hl hn hs => exact .inl ⟨hl ▸ hq, hs q (hl ▸ hq)⟩
  | @stored a ha hs =>
    by_cases he : q = a
    · subst he
      exact .inr ⟨ha, hs⟩
    · left
      have hmem : q ∈ x.2.store.dpb.picList := by
        rw [hs, Store.addPicture_dpb, Store.dpbAdd_picList] at hq
        exact (List.mem_append.mp hq).resolve_right fun hq => he (List.mem_singleton.mp hq)
      refine ⟨hmem, ?_⟩
      rw [Decoder.pic, Decoder.pic, hs]
      refine Store.dpbAdd_sameOutput he fun hlink => ?_
      have hoth := ho.otherField
      rw [Decoder.pic, hs, Store.addPicture_pic, Store.dpbAdd_otherField, if_pos hlink] at hoth
      cases hoth
  | deleted hs =>
    refine .inl ⟨?_, ?_⟩
    · rw [hs] at hq
      exact Store.shrinks_dpbDeleteUnused.picList.subset hq
    · rw [Decoder.pic, Decoder.pic, hs]
      exact Store.dpbDeleteUnused_sameOutput _ q
  | @bumped drain a hb hs =>
    left
    rw [Decoder.pic, hs] at ho
    have hlone : Lone (x.2.store.pic q) := (Store.shrinks_dpbBump.sameField q).lone ho
    obtain ⟨i, hi⟩ := Store.bump_eq_some hb
    obtain ⟨hmem, hw⟩ := Store.lowest_spec hi
    rw [hs] at hq
    have hqx := Store.shrinks_dpbBump.picList.subset hq
    refine ⟨hqx, ?_⟩
    rw [Decoder.pic, Decoder.pic, hs]
    refine Store.dpbBump_sameOutput hb ?_ fun hoth => ?_
    · rintro rfl
      rw [hlone.not_waiting] at hw
      cases hw
    · cases hlone.otherField.symm.trans (hp.back a (List.mem_of_getElem? hmem) q hoth hqx)
  | cleared hs =>
    rw [hs, Store.dpbClear_picList] at hq
    cases hq

end VkVideoParser.H264
