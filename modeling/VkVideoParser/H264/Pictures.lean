import VkVideoParser.H264.Places

/-! What a started picture keeps through every move. -/

namespace VkVideoParser.H264

open Execution Relation Counting

variable {P : Type} {env : Env P} {k k' : Phase} {s t : Decoder P} {x y : Phase × Decoder P}

/-- A picture whose contents are not settled yet, or no longer matter. -/
def unstarted (x : Phase × Decoder P) (q : PicId) : Prop :=
  q = x.2.store.next ∨ (.fresh, q) ∈ x.1.hold ∨ (.gap, q) ∈ x.1.hold ∨ x.1.current.starts q ∨
    x.1.current = .lost q ∨ (.half, q) ∈ x.1.hold

structure Keeps (x y : Picture) : Prop where
  idr : y.idr = x.idr
  decRefPicMarking : y.decRefPicMarking = x.decRefPicMarking
  systemFrameNumber : y.systemFrameNumber = x.systemFrameNumber
  nonexisting : y.nonexisting = x.nonexisting
  secondField : y.secondField = x.secondField

/-- What a move can do to a picture: `split` and `marks` say whether fields are split or marked. -/
structure Changes (split marks : Prop) (x y : Picture) : Prop extends Keeps x y where
  field : y.field = x.field ∨ split
  order : KeepsOrder x y ∨ split
  ref : (y.ref = x.ref ∧ y.refPic = x.refPic) ∨ marks
  refPic : (x.isRef → x.refPic) → y.isRef → y.refPic

lemma KeepsOrder.refl (x : Picture) : KeepsOrder x x := ⟨rfl, rfl, rfl, rfl, id, fun _ => rfl, id⟩

lemma KeepsOrder.trans {x y z : Picture} (h : KeepsOrder x y) (h' : KeepsOrder y z) : KeepsOrder x z where
  picOrderCntType := h'.picOrderCntType.trans h.picOrderCntType
  picOrderCntMsb := h'.picOrderCntMsb.trans h.picOrderCntMsb
  picOrderCntLsb := h'.picOrderCntLsb.trans h.picOrderCntLsb
  frameNumOffset := h'.frameNumOffset.trans h.frameNumOffset
  memMgmt5 := h'.memMgmt5 ∘ h.memMgmt5
  frameNum h5 := (h'.frameNum h5).trans (h.frameNum (Bool.eq_false_iff.mpr fun hy => Bool.eq_false_iff.mp h5 (h'.memMgmt5 hy)))
  settled := h'.settled ∘ h.settled

section Changes

variable {split marks : Prop} {a b : Picture}

lemma Changes.refl (x : Picture) : Changes split marks x x :=
  ⟨⟨rfl, rfl, rfl, rfl, rfl⟩, .inl rfl, .inl (.refl x), .inl ⟨rfl, rfl⟩, id⟩

/-- A picture changed in its references, its output and its user data only. -/
def SameOrder (x y : Picture) : Prop := ∃ n o f i t u, y = { x with
  refcount := n, neededForOutput := o, otherField := f, bufferFlagInterlaced := i, bufferFlagTff := t, userData := u }

lemma SameOrder.changes (h : SameOrder a b) : Changes split marks a b := by
  obtain ⟨_, _, _, _, _, _, rfl⟩ := h
  exact ⟨⟨rfl, rfl, rfl, rfl, rfl⟩, .inl rfl, .inl ⟨rfl, rfl, rfl, rfl, id, fun _ => rfl, fun h => ⟨h.1, h.2, h.3⟩⟩,
    .inl ⟨rfl, rfl⟩, id⟩

lemma SameOrder.refl (x : Picture) : SameOrder x x := ⟨_, _, _, _, _, _, rfl⟩

lemma SameOrder.memMgmt5 (h : SameOrder a b) : b.memMgmt5 = a.memMgmt5 := by
  obtain ⟨_, _, _, _, _, _, rfl⟩ := h
  rfl

lemma Store.SameShape.sameOrder {s t : Store} (h : Store.SameShape s t) (q : PicId) : SameOrder (s.pic q) (t.pic q) := by
  obtain ⟨n, hn⟩ := h.pic q
  exact ⟨_, _, _, _, _, _, hn⟩

lemma Store.SameShape.changes {s t : Store} (h : Store.SameShape s t) (q : PicId) :
    Changes split marks (s.pic q) (t.pic q) := (h.sameOrder q).changes

lemma Store.Shrinks.sameOrder {s t : Store} (h : Store.Shrinks s t) (q : PicId) : SameOrder (s.pic q) (t.pic q) := by
  obtain ⟨n, b, c, d, hn, -⟩ := h.pic q
  exact ⟨_, _, _, _, _, _, hn⟩

lemma sameOrder_modifyPic {f : Picture → Picture} (p q : PicId) (st : Store) (h : ∀ x, SameOrder x (f x)) :
    SameOrder (st.pic q) ((st.modifyPic p f).pic q) := by
  rw [Store.modifyPic_pic]
  split
  · rename_i hq
    rw [hq]
    exact h _
  · exact .refl _

lemma Changes.trans {c : Picture} (h : Changes split marks a b) (h' : Changes split marks b c) :
    Changes split marks a c := by
  refine ⟨⟨h'.idr.trans h.idr, h'.decRefPicMarking.trans h.decRefPicMarking,
    h'.systemFrameNumber.trans h.systemFrameNumber, h'.nonexisting.trans h.nonexisting,
    h'.secondField.trans h.secondField⟩, ?_, ?_, ?_, h'.refPic ∘ h.refPic⟩
  · rcases h.field with hf | hf
    · exact h'.field.imp_left (·.trans hf)
    · exact .inr hf
  · rcases h.order with hf | hf
    · exact h'.order.imp_left hf.trans
    · exact .inr hf
  · rcases h.ref with hf | hf
    · exact h'.ref.imp_left fun hg => ⟨hg.1.trans hf.1, hg.2.trans hf.2⟩
    · exact .inr hf

end Changes

lemma SameRole.changes {a b : Picture} {split marks : Prop} (h : SameRole a b) (ho : KeepsOrder a b)
    (hr : (b.ref = a.ref ∧ b.refPic = a.refPic) ∨ marks) (hp : (a.isRef → a.refPic) → b.isRef → b.refPic) :
    Changes split marks a b :=
  ⟨⟨h.idr, h.decRefPicMarking, h.systemFrameNumber, h.nonexisting, h.secondField⟩, .inl h.field, .inl ho, hr, hp⟩

lemma sameOrder_setVkPic (p q : PicId) (vkpic : VkPic) (s : Decoder P) :
    SameOrder (s.pic q) ((setVkPic p vkpic s).pic q) := by
  simp only [setVkPic, Decoder.pic, Decoder.modifyPic_store]
  exact sameOrder_modifyPic p q s.store fun x => ⟨_, _, _, _, _, _, rfl⟩

lemma sameOrder_dpbAdd (p q : PicId) (st : Store) : SameOrder (st.pic q) ((st.dpbAdd p).pic q) := by
  obtain ⟨b, o, h⟩ := (Store.adds_dpbAdd p st).pic q
  exact ⟨_, _, _, _, _, _, h⟩

lemma sameOrder_allocPicture (p q : PicId) : SameOrder (s.pic q) ((s.allocPicture env p).pic q) := by
  unfold Decoder.allocPicture Decoder.pic
  simp only
  split
  · exact .refl _
  · exact sameOrder_setVkPic p q _ (s.emit _)

/-- What a move does to a picture: a change, its making, an edit of one that is not started. -/
inductive Touched (x y : Phase × Decoder P) (q : PicId) : Prop
  | changed (h : Changes (∃ r, r.stored ∧ (r, q) ∈ x.1.hold) x.1.current.between (x.2.pic q) (y.2.pic q))
    (h5 : (y.2.pic q).memMgmt5 → (x.2.pic q).memMgmt5 ∨ (.marking, q) ∈ x.1.hold)
  | made (hq : q = x.2.store.next) (hn : y.2.store.next = q + 1) (hx : y.2.pic q = { refcount := 1 })
  | edited (hu : unstarted x q) (h5 : (y.2.pic q).memMgmt5 = (x.2.pic q).memMgmt5)
    (hn : (y.2.pic q).nonexisting = (x.2.pic q).nonexisting ∨ ((.gap, q) ∈ x.1.hold ∧ (y.2.pic q).nonexisting) ∨
      x.1.current = .lost q)
    (hr : ((x.2.pic q).isRef → (x.2.pic q).refPic) → (y.2.pic q).isRef → (y.2.pic q).refPic)
  | half (hx : (.fresh, q) ∈ x.1.hold) (hy : (.half, q) ∈ y.1.hold)

lemma Touched.same {q : PicId} (h : SameOrder (x.2.pic q) (y.2.pic q)) : Touched x y q :=
  .changed h.changes fun h5 => .inl (h.memMgmt5 ▸ h5)

lemma touched_modifyPic {f : Picture → Picture} (p : PicId)
    (hf : ∀ x, (x.isRef → x.refPic) → (f x).isRef → (f x).refPic) (h5 : ∀ x, (f x).memMgmt5 = x.memMgmt5)
    (hn : (f (s.pic p)).nonexisting = (s.pic p).nonexisting ∨ ((.gap, p) ∈ k.hold ∧ (f (s.pic p)).nonexisting) ∨
      k.current = .lost p) {q : PicId}
    (hq : q = p → unstarted (k, s) q) : Touched (k, s) (k, s.modifyPic p f) q := by
  by_cases h : q = p
  · subst h
    have hpic : (s.modifyPic q f).pic q = f (s.pic q) := by
      rw [Decoder.pic, Decoder.modifyPic_store, Store.modifyPic_pic, if_pos rfl]
      rfl
    refine .edited (hq rfl) ?_ ?_ ?_
    · rw [hpic]
      exact h5 _
    · rw [hpic]
      exact hn
    · rw [hpic]
      exact hf _
  · refine .same ?_
    rw [Decoder.pic, Decoder.pic, Decoder.modifyPic_store, Store.modifyPic_pic, if_neg h]
    exact .refl _

lemma changes_splitFirst {split marks : Prop} (h : split) (x : Picture) : Changes split marks x (splitFirst x) ∧
    (splitFirst x).memMgmt5 = x.memMgmt5 := by
  unfold splitFirst
  split
  · exact ⟨⟨⟨rfl, rfl, rfl, rfl, rfl⟩, .inr h, .inr h, .inl ⟨rfl, rfl⟩, id⟩, rfl⟩
  · exact ⟨⟨⟨rfl, rfl, rfl, rfl, rfl⟩, .inr h, .inr h, .inl ⟨rfl, rfl⟩, id⟩, rfl⟩

lemma Act.touched (h : Act env x y) (q : PicId) : Touched x y q := by
  cases h with
  | new r hr =>
    rename_i k s
    by_cases hne : q = s.store.next
    · subst hne
      exact .made rfl rfl (by simp [Decoder.pic, Store.pictureNew])
    · refine .same ?_
      simp only [Decoder.pic, Decoder.mapStore, Store.pictureNew, Function.update_of_ne hne]
      exact .refl _
  | book h =>
    refine .same ?_
    rw [Decoder.pic, Decoder.pic, h.pic]
    exact .refl _
  | number h =>
    refine .changed ((h.role q).changes (h.order q) (.inl ⟨h.ref q, h.refPic q⟩) ?_) fun h5 => .inl ?_
    · simp only [Picture.isRef, h.ref, h.refPic, imp_self]
    · exact (h.memMgmt5 q).symm.trans h5
  | mark p hp hk h => exact .changed ((h.role q).changes (h.order q) (.inr hk) (h.refPic q)) (h.memMgmt5 q)
  | edit p hp hf hfield hn =>
    refine touched_modifyPic p hf.refPic hf.memMgmt5 (hn.symm.imp_right .inl) ?_
    rintro rfl
    exact .inr (hp.imp_right fun hp => hp.imp_right .inl)
  | linkSecond p p' hp =>
    refine touched_modifyPic (f := linkSecondField p) p' (fun _ h => h) (fun _ => rfl) (.inl rfl) ?_
    rintro rfl
    exact .inr (.inl hp)
  | editLost p hk hf =>
    refine touched_modifyPic p hf.refPic hf.memMgmt5 (.inr (.inr hk)) ?_
    rintro rfl
    exact .inr (.inr (.inr (.inr (.inl hk))))
  | splitPair p p' hp hr hf =>
    by_cases hne : q = p'
    · exact .half (hne ▸ hf) (by simp [hne])
    · rename_i k s r _ _ _ _ _ _
      by_cases hqp : q = p
      · subst hqp
        have hpic : (s.splitPair q p').pic q = splitFirst (s.pic q) := by
          simp [Decoder.pic, Decoder.splitPair, if_neg hne]
        have hsplit : ∃ r, r.stored ∧ (r, q) ∈ k.hold := ⟨_, hr.imp_right Or.inr, hp⟩
        have hc : Changes _ k.current.between _ _ := (changes_splitFirst hsplit (s.pic q)).1
        have h5 := (changes_splitFirst hsplit (s.pic q) : Changes _ k.current.between _ _ ∧ _).2
        rw [← hpic] at hc h5
        exact .changed hc fun h => .inl (h5 ▸ h)
      · refine .same ?_
        simp only [Decoder.pic, Decoder.splitPair, Decoder.modifyPic_store, Store.modifyPic_pic, if_neg hne, if_neg hqp]
        exact .refl _
  | alloc p hp => exact .same (sameOrder_allocPicture p q)
  | borrow p hp | keep p hp => exact .same ((Store.sameShape_ref _ _).sameOrder q)
  | unref p hp | unrefCurrent p hp | unrefLast p hp => exact .same ((Store.sameShape_unref _ _).sameOrder q)
  | start p slice vkpic | slice p slice vkpic | endPicture p vkpic | losePicture p vkpic =>
    exact .same (sameOrder_setVkPic p q _ _)
  | link p => exact .same (sameOrder_modifyPic _ _ _ fun x => ⟨_, _, _, _, _, _, rfl⟩)
  | deleteUnused => exact .same (Store.shrinks_dpbDeleteUnused.sameOrder q)
  | dpbClear h => exact .same (Store.shrinks_dpbClear.sameOrder q)
  | bump drain p h => exact .same (Store.shrinks_dpbBump.sameOrder q)
  | add p hp | addLast p q' hp => exact .same (sameOrder_dpbAdd _ q _)
  | _ => exact .same (.refl _)

lemma Act.changes (h : Act env x y) {q : PicId} (hq : ¬unstarted x q) :
    Changes (∃ r, r.stored ∧ (r, q) ∈ x.1.hold) x.1.current.between (x.2.pic q) (y.2.pic q) := by
  cases h.touched q with
  | changed h => exact h
  | made h => exact absurd (.inl h) hq
  | edited hu => exact absurd hu hq
  | half h => exact absurd (.inr (.inl h)) hq

lemma Act.linked (h : Act env x y) (hx : x.2.currentPicture = x.1.current.pic) :
    y.2.currentPicture = y.1.current.pic := by
  cases h with
  | book h => exact h.currentPicture.trans hx
  | alloc p hp =>
    refine Eq.trans ?_ hx
    unfold Decoder.allocPicture
    simp only
    split <;> rfl
  | fill p slice hk | clear p slice hk | endPicture p vkpic hk | losePicture p vkpic hk =>
    refine hx.trans ?_
    simp only [hk, Current.pic, Phase.setCurrent]
  | start p slice vkpic hk =>
    refine hx.trans ?_
    rcases hk with hk | hk <;> simp only [hk, Current.pic, Phase.setCurrent]
  | adopt | unrefCurrent | forgetCurrent => rfl
  | _ => exact hx

lemma Act.currentSlice (h : Act env x y)
    (hx : ∀ p slice, x.1.current = .starting p slice → x.2.currentSlice = slice) {p : PicId}
    {slice : GstH264Slice} (hy : y.1.current = .starting p slice) : y.2.currentSlice = slice := by
  cases h with
  | book h => exact h.currentSlice.trans (hx p slice hy)
  | setSlice slice' hk =>
    rcases hk with hk | ⟨q, hk⟩
    · cases hk.symm.trans hy
    · cases hk.symm.trans hy
  | alloc q hq =>
    refine Eq.trans ?_ (hx p slice hy)
    unfold Decoder.allocPicture
    simp only
    split <;> rfl
  | adopt q hq hk =>
    cases hy
    rfl
  | fill | clear | start | endPicture | losePicture | unrefCurrent | forgetCurrent => cases hy
  | _ => exact hx p slice hy

/-- The current picture between its first slice and its decoding, then in the hands of finish_picture. -/
def Current.filledBy (c : Current) (p : PicId) (slice : GstH264Slice) : Prop :=
  c = .filled p slice ∨ c = .clearing p slice

def Role.decoded (r : Role) : Prop := r = .ended ∨ r = .marking ∨ r = .marked ∨ r = .settled

def decoded (x : Phase × Decoder P) (q : PicId) : Prop :=
  (∃ slice, x.1.current.filledBy q slice) ∨ x.1.current = .decoding q ∨ ∃ r, r.decoded ∧ (r, q) ∈ x.1.hold

lemma Role.decoded.owns {r : Role} (h : r.decoded) : r.owns = 1 := by
  rcases h with rfl | rfl | rfl | rfl <;> rfl

lemma Current.filledBy.place {c : Current} {p : PicId} {slice : GstH264Slice} (h : c.filledBy p slice) :
    c.place = some p := by
  rcases h with rfl | rfl <;> rfl

lemma decoded.stands {q : PicId} (h : decoded x q) :
    (∃ c : Current, x.1.current = c ∧ c.place = some q ∧ ¬c.starts q) ∨
      ∃ r, r.decoded ∧ (r, q) ∈ x.1.hold := by
  rcases h with ⟨slice, h⟩ | h | h
  · refine .inl ⟨_, rfl, h.place, ?_⟩
    rcases h with h | h <;> simp [h, Current.starts]
  · exact .inl ⟨_, h, rfl, by simp [Current.starts]⟩
  · exact .inr h

-- a picture stands in one place only
lemma Placed.current_hold (hx : Placed x) {q : PicId} {r : Role} (hc : x.1.current.place = some q)
    (hr : r.owns = 1) : (r, q) ∉ x.1.hold := by
  intro h
  have hw := le_weigh (w := Role.owns) h
  have := hx.once q
  simp only [places, hc, slot_some, isAt_self] at this
  omega

lemma Placed.hold_hold (hx : Placed x) {q : PicId} {r r' : Role} (hr : r.owns = 1) (hr' : r'.owns = 1)
    (h : (r, q) ∈ x.1.hold) (h' : (r', q) ∈ x.1.hold) : r = r' := by
  by_contra hne
  have hw := weigh_erase (w := Role.owns) h q
  have hw' := le_weigh (w := Role.owns) (List.mem_erase_of_ne (by simpa using fun e => hne e.symm) |>.mpr h' :
    (r', q) ∈ x.1.hold.erase (r, q))
  have := hx.once q
  simp only [places] at this
  simp only [isAt_self] at hw
  omega

lemma Placed.started (hx : Placed x) {q : PicId} (h : decoded x q) : ¬unstarted x q := by
  have hlt : q < x.2.store.next := by
    rcases h.stands with ⟨c, rfl, hc, -⟩ | ⟨r, -, hr⟩
    · exact hx.below q (.inl (by simp [places, hc]))
    · exact hx.below q (.inr ⟨r, hr⟩)
  rintro (rfl | hu | hu | hu | hu | hu)
  · exact lt_irrefl _ hlt
  · rcases h.stands with ⟨c, rfl, hc, -⟩ | ⟨r, hr, hm⟩
    · exact hx.current_hold hc rfl hu
    · have := hx.hold_hold hr.owns rfl hm hu
      rcases hr with rfl | rfl | rfl | rfl <;> cases this
  · rcases h.stands with ⟨c, rfl, hc, -⟩ | ⟨r, hr, hm⟩
    · exact hx.current_hold hc rfl hu
    · have := hx.hold_hold hr.owns rfl hm hu
      rcases hr with rfl | rfl | rfl | rfl <;> cases this
  · rcases h.stands with ⟨c, rfl, hc, hne⟩ | ⟨r, hr, hm⟩
    · exact hne hu
    · obtain ⟨slice, hu⟩ := hu
      exact hx.current_hold (by rw [hu]; rfl) hr.owns hm
  · rcases h with ⟨slice, h | h⟩ | h | ⟨r, hr, hm⟩
    · rw [hu] at h
      cases h
    · rw [hu] at h
      cases h
    · rw [hu] at h
      cases h
    · exact hx.current_hold (by rw [hu]; rfl) hr.owns hm
  · rcases h.stands with ⟨c, rfl, hc, -⟩ | ⟨r, hr, hm⟩
    · exact hx.current_hold hc rfl hu
    · have := hx.hold_hold hr.owns rfl hm hu
      rcases hr with rfl | rfl | rfl | rfl <;> cases this

lemma Placed.field_steady (hx : Placed x) {q : PicId} (hc : x.1.current.place = some q) :
    ¬∃ r, r.stored ∧ (r, q) ∈ x.1.hold := fun ⟨_, hr, hm⟩ => hx.current_hold hc hr.owns hm

lemma Current.filledBy.not_between {c : Current} {p : PicId} {slice : GstH264Slice} (h : c.filledBy p slice) :
    ¬c.between := by
  rintro ⟨q, hq⟩
  rcases h with rfl | rfl <;> rcases hq with ⟨_, hq⟩ | hq <;> cases hq

lemma Act.filledBy (h : Act env x y) {p : PicId} {slice : GstH264Slice} (hy : y.1.current.filledBy p slice) :
    x.1.current.filledBy p slice ∨ (y.2 = x.2 ∧ FromSlice slice (x.2.pic p)) := by
  cases h with
  | fill q slice' hk hs =>
    rcases hy with hy | hy
    · cases hy
      exact .inr ⟨rfl, hs⟩
    · cases hy
  | clear q slice' hk =>
    rcases hy with hy | hy
    · cases hy
    · cases hy
      exact .inl (.inl hk)
  | adopt | start | endPicture | losePicture | unrefCurrent | forgetCurrent => rcases hy with hy | hy <;> cases hy
  | _ => exact .inl hy

/-- A picture on its way from its making to the DPB. -/
def young (x : Phase × Decoder P) (q : PicId) : Prop :=
  x.1.current.place = some q ∨ ∃ r, (r = .fresh ∨ r.decoded) ∧ (r, q) ∈ x.1.hold

lemma Act.young (h : Act env x y) {q : PicId} (hy : young y q) :
    young x q ∨ y.2.pic q = { refcount := 1 } := by
  rcases hy with hy | ⟨r, hr, hm⟩
  · left
    cases h with
    | adopt p hp =>
      cases hy
      exact .inr ⟨_, .inl rfl, hp⟩
    | fill p slice hk | clear p slice hk | losePicture p slice hk =>
      cases hy
      exact .inl (by rw [hk]; rfl)
    | start p slice vkpic hk =>
      cases hy
      exact .inl (by rcases hk with hk | hk <;> rw [hk] <;> rfl)
    | endPicture | unrefCurrent | forgetCurrent => cases hy
    | _ => exact .inl hy
  · have hkeep : (r, q) ∈ x.1.hold → H264.young x q := fun h => .inr ⟨r, hr, h⟩
    cases h with
    | new r' hr' =>
      simp only [Phase.hold_take, List.mem_cons, Prod.mk.injEq] at hm
      rcases hm with ⟨-, rfl⟩ | hm
      · right
        simp [Decoder.pic, Store.pictureNew]
      · exact .inl (hkeep hm)
    | endPicture p vkpic hk =>
      simp only [Phase.setCurrent, Phase.take, List.mem_cons, Prod.mk.injEq] at hm
      rcases hm with ⟨-, rfl⟩ | hm
      · exact .inl (.inl (by rw [hk]; rfl))
      · exact .inl (hkeep hm)
    | beginMarking p hp | endMarking p hp | skipMarking p hp | settle p hp =>
      simp only [Phase.hold_setDone, Phase.hold_turn, List.mem_cons, Prod.mk.injEq] at hm
      rcases hm with ⟨-, rfl⟩ | hm
      · exact .inl (.inr ⟨_, .inr (by simp [Role.decoded]), hp⟩)
      · exact .inl (hkeep (List.mem_of_mem_erase hm))
    | doom q' hp | direct q' hp | splitPair p q' hp =>
      simp only [Phase.hold_turn, List.mem_cons, Prod.mk.injEq] at hm
      rcases hm with ⟨rfl, -⟩ | hm
      · simp [Role.decoded] at hr
      · exact .inl (hkeep (List.mem_of_mem_erase hm))
    | display p vkpic frame hp =>
      simp only [Phase.hold_take, Phase.hold_turn, List.mem_cons, Prod.mk.injEq] at hm
      rcases hm with ⟨rfl, -⟩ | ⟨rfl, -⟩ | hm
      · simp [Role.decoded] at hr
      · simp [Role.decoded] at hr
      · exact .inl (hkeep (List.mem_of_mem_erase hm))
    | bump | borrow | takeLast | keep =>
      simp only [Phase.hold_take, List.mem_cons, Prod.mk.injEq] at hm
      rcases hm with ⟨rfl, -⟩ | hm
      · simp [Role.decoded] at hr
      · exact .inl (hkeep hm)
    | finishFrame | forgetShown | unref | leak | adopt | add | cache =>
      exact .inl (hkeep (List.mem_of_mem_erase hm))
    | _ => exact .inl (hkeep hm)

lemma Placed.not_half (hx : Placed x) {q : PicId} (h : young x q) : (.half, q) ∉ x.1.hold := by
  intro hh
  rcases h with h | ⟨r, rfl | hr, hm⟩
  · exact hx.current_hold h rfl hh
  · cases hx.hold_hold rfl rfl hm hh
  · have := hx.hold_hold hr.owns rfl hm hh
    rcases hr with rfl | rfl | rfl | rfl <;> cases this

lemma Act.refPic (h : Act env x y) {q : PicId} (hh : (.half, q) ∉ y.1.hold)
    (hx : (x.2.pic q).isRef → (x.2.pic q).refPic) : (y.2.pic q).isRef → (y.2.pic q).refPic := by
  cases h.touched q with
  | changed h => exact h.refPic hx
  | made hq hn hp =>
    intro h
    rw [hp] at h
    cases h
  | edited hu h5 hn hr => exact hr hx
  | half _ h => exact absurd h hh

end VkVideoParser.H264
