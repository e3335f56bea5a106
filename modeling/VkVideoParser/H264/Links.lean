import VkVideoParser.H264.Pictures

/-! The links between the fields of a frame. A second field names its first one from its making on; the
first one names the second when that is stored or output. -/

namespace VkVideoParser.H264

open Execution Relation Counting

variable {P : Type} {env : Env P} {k : Phase} {s : Decoder P} {x y : Phase × Decoder P} {p q : PicId}

/-- A picture on its way to the DPB, or not made yet. -/
def flight (x : Phase × Decoder P) (q : PicId) : Prop :=
  x.2.store.next ≤ q ∨ x.1.current.place = some q ∨ ∃ r, r.owns = 1 ∧ (r, q) ∈ x.1.hold

section Flight

lemma flight_of_hold {r : Role} (h : (r, q) ∈ x.1.hold) (hr : r.owns = 1) : flight x q := .inr (.inr ⟨r, hr, h⟩)

lemma Act.flight (h : Act env x y) (hy : flight y q) : flight x q := by
  rcases hy with hn | hc | ⟨r, hr, hm⟩
  · exact .inl (h.next_le.trans hn)
  · cases h with
    | adopt p hp =>
      cases hc
      exact flight_of_hold hp rfl
    | fill p slice hk | clear p slice hk | losePicture p slice hk =>
      cases hc
      exact .inr (.inl (by rw [hk]; rfl))
    | start p slice vkpic hk =>
      cases hc
      exact .inr (.inl (by rcases hk with hk | hk <;> rw [hk] <;> rfl))
    | endPicture | unrefCurrent | forgetCurrent => cases hc
    | _ => exact .inr (.inl hc)
  · have hkeep : (r, q) ∈ x.1.hold → H264.flight x q := fun h => flight_of_hold h hr
    cases h with
    | new r' hr' =>
      simp only [Phase.hold_take, List.mem_cons, Prod.mk.injEq] at hm
      rcases hm with ⟨-, rfl⟩ | hm
      · exact .inl le_rfl
      · exact hkeep hm
    | endPicture p vkpic hk =>
      simp only [Phase.setCurrent, Phase.take, List.mem_cons, Prod.mk.injEq] at hm
      rcases hm with ⟨-, rfl⟩ | hm
      · exact .inr (.inl (by rw [hk]; rfl))
      · exact hkeep hm
    | beginMarking p hp | endMarking p hp | skipMarking p hp | settle p hp | splitPair p' p hp' hr' hp =>
      simp only [Phase.hold_setDone, Phase.hold_turn, List.mem_cons, Prod.mk.injEq] at hm
      rcases hm with ⟨-, rfl⟩ | hm
      · exact flight_of_hold hp rfl
      · exact hkeep (List.mem_of_mem_erase hm)
    | doom | direct =>
      simp only [Phase.hold_turn, List.mem_cons, Prod.mk.injEq] at hm
      rcases hm with ⟨rfl, -⟩ | hm
      · cases hr
      · exact hkeep (List.mem_of_mem_erase hm)
    | display =>
      simp only [Phase.hold_take, Phase.hold_turn, List.mem_cons, Prod.mk.injEq] at hm
      rcases hm with ⟨rfl, -⟩ | ⟨rfl, -⟩ | hm
      · cases hr
      · cases hr
      · exact hkeep (List.mem_of_mem_erase hm)
    | bump | borrow | takeLast | keep =>
      simp only [Phase.hold_take, List.mem_cons, Prod.mk.injEq] at hm
      rcases hm with ⟨rfl, -⟩ | hm
      · cases hr
      · exact hkeep hm
    | finishFrame | forgetShown | unref | leak | adopt | add | cache => exact hkeep (List.mem_of_mem_erase hm)
    | _ => exact hkeep hm

-- the weight that a picture in flight has besides the DPB and the cached field
lemma flight_weight (h : flight x q) (hq : q < x.2.store.next) :
    0 < slot x.1.current.place q + weigh Role.owns x.1.hold q := by
  rcases h with h | h | ⟨r, hr, h⟩
  · exact absurd hq (Nat.not_lt.mpr h)
  · rw [h, slot_some, isAt_self]
    omega
  · have hle : r.owns ≤ weigh Role.owns x.1.hold q := le_weigh h
    rw [hr] at hle
    omega

lemma Placed.not_stored (hx : Placed x) (h : flight x q) : q ∉ x.2.store.dpb.picList := by
  intro hm
  have hlt := hx.below q (.inl (places_of_mem hm))
  have hw := flight_weight h hlt
  have hc := List.count_pos_iff.mpr hm
  have := hx.once q
  unfold places at this
  omega

lemma Placed.not_last (hx : Placed x) (h : flight x q) : x.2.lastField ≠ some q := by
  intro hl
  have hlt := hx.below q (.inl (places_of_lastField hl))
  have hw := flight_weight h hlt
  have := hx.once q
  rw [places, hl, slot_some, isAt_self] at this
  omega

lemma Placed.not_last_of_stored (hx : Placed x) (h : q ∈ x.2.store.dpb.picList) : x.2.lastField ≠ some q := by
  intro hl
  have hc := List.count_pos_iff.mpr h
  have := hx.once q
  rw [places, hl, slot_some, isAt_self] at this
  omega

lemma Placed.flight_below (hx : Placed x) {r : Role} (h : (r, q) ∈ x.1.hold) : q < x.2.store.next :=
  hx.below q (.inr ⟨r, h⟩)

-- a picture that the running functions no longer hold is not in flight
lemma Placed.landed (hx : Placed x) (hq : (∃ r, (r, q) ∈ x.1.hold)) (hn : x.2.store.next ≤ y.2.store.next)
    (hc : y.1.current.place = x.1.current.place)
    (hw : weigh Role.owns y.1.hold q + 1 = weigh Role.owns x.1.hold q) : ¬flight y q := by
  intro hf
  obtain ⟨r, hr⟩ := hq
  have hpos := flight_weight hf ((hx.flight_below hr).trans_le hn)
  have := hx.once q
  unfold places at this
  rw [hc] at hpos
  omega

lemma Placed.landed_drop {t : Decoder P} {r : Role} (hx : Placed (k, s)) (hm : (r, q) ∈ k.hold) (hr : r.owns = 1)
    (hn : s.store.next ≤ t.store.next) : ¬flight (k.drop r q, t) q := by
  have hw := weigh_erase (w := Role.owns) hm q
  rw [isAt_self, hr] at hw
  apply hx.landed (y := (k.drop r q, t)) ⟨r, hm⟩ hn rfl
  simp only [Phase.hold_drop]
  omega

lemma Placed.landed_turn {t : Decoder P} {r r' : Role} (hx : Placed (k, s)) (hm : (r, q) ∈ k.hold) (hr : r.owns = 1)
    (hr' : r'.owns = 0) (hn : s.store.next ≤ t.store.next) : ¬flight (k.turn r r' q, t) q := by
  have hw := weigh_erase (w := Role.owns) hm q
  rw [isAt_self, hr] at hw
  apply hx.landed (y := (k.turn r r' q, t)) ⟨r, hm⟩ hn rfl
  simp only [Phase.hold_turn, weigh_cons, hr', Nat.zero_mul]
  omega

end Flight

/-- The fields of one frame. -/
structure Opposite (x y : Picture) : Prop where
  left : x.field ≠ .frame
  right : y.field ≠ .frame
  differ : x.field ≠ y.field

/-- A picture that stays which field of which frame it is. -/
structure SameField (x y : Picture) : Prop where
  secondField : y.secondField = x.secondField
  otherField : y.otherField = x.otherField
  field : y.field = x.field

lemma SameField.refl (x : Picture) : SameField x x := ⟨rfl, rfl, rfl⟩

/-- What a move does to a picture as a field. -/
inductive Relinks (x y : Phase × Decoder P) (q : PicId) : Prop
  | same (h : SameField (x.2.pic q) (y.2.pic q))
  | made (hq : q = x.2.store.next) (hs : (y.2.pic q).secondField = false) (ho : (y.2.pic q).otherField = none)
  | begun (hst : x.1.current.starts q) (hs : (y.2.pic q).secondField = (x.2.pic q).secondField)
    (ho : (y.2.pic q).otherField = (x.2.pic q).otherField)
  | second {p : PicId} (hq : (.fresh, q) ∈ x.1.hold) (hp : BeginsPair x.2 p) (hs : (y.2.pic q).secondField)
    (ho : (y.2.pic q).otherField = some p) (hk : (.fresh, q) ∈ y.1.hold)
  | halved {r : Role} (hr : r = .gap ∨ r = .settled) (hq : (r, q) ∈ x.1.hold) (hf : (x.2.pic q).field = .frame)
    (hs : (y.2.pic q).secondField = (x.2.pic q).secondField)
    (ho : (y.2.pic q).otherField = (x.2.pic q).otherField)
    (hhalf : ∃ p, (.half, p) ∈ y.1.hold ∧ (y.2.pic p).secondField ∧ (y.2.pic p).otherField = some q)
    (hn : r = .gap → (y.2.pic q).nonexisting)
  | half {p : PicId} {r : Role} (hr : r = .gap ∨ r = .settled) (hp : (r, p) ∈ x.1.hold) (hp' : (r, p) ∈ y.1.hold)
    (hf : (x.2.pic p).field = .frame) (hq : (.fresh, q) ∈ x.1.hold) (hq' : (.half, q) ∈ y.1.hold)
    (hx : (x.2.pic q).secondField = false) (hs : (y.2.pic q).secondField)
    (ho : (y.2.pic q).otherField = some p) (hopp : Opposite (y.2.pic q) (y.2.pic p))
    (hsec : (y.2.pic p).secondField = (x.2.pic p).secondField)
    (hn : (y.2.pic q).nonexisting = (y.2.pic p).nonexisting)
  | linked {p : PicId} (hs : (x.2.pic p).secondField) (ho : (x.2.pic p).otherField = some q)
    (hp : (∃ r, r.stored ∧ (r, p) ∈ x.1.hold ∧ (r = .half → q ∈ x.2.store.dpb.picList) ∧ x.2.lastField ≠ some q) ∨
      x.2.lastField = some p ∨ ((.settled, p) ∈ x.1.hold ∧ (.output, q) ∈ x.1.hold))
    (hsec : (y.2.pic q).secondField = (x.2.pic q).secondField) (ho' : (y.2.pic q).otherField = some p)
    (hfield : (y.2.pic q).field = (x.2.pic q).field)
    (hst : p ∈ y.2.store.dpb.picList ∨ q ∉ x.2.store.dpb.picList)

lemma relinks_eq (h : y.2.pic q = x.2.pic q) : Relinks x y q := .same (h ▸ .refl _)

lemma Store.SameShape.sameField {a b : Store} (h : Store.SameShape a b) (q : PicId) :
    SameField (a.pic q) (b.pic q) := by
  obtain ⟨n, hn⟩ := h.pic q
  rw [hn]
  exact ⟨rfl, rfl, rfl⟩

lemma Store.Shrinks.sameField {a b : Store} (h : Store.Shrinks a b) (q : PicId) :
    SameField (a.pic q) (b.pic q) := by
  obtain ⟨_, _, _, _, hn, -⟩ := h.pic q
  rw [hn]
  exact ⟨rfl, rfl, rfl⟩

lemma SameRole.sameField {a b : Picture} (h : SameRole a b) : SameField a b := ⟨h.secondField, h.otherField, h.field⟩

lemma setVkPic_sameField (p q : PicId) (vkpic : VkPic) (s : Decoder P) :
    SameField (s.pic q) ((setVkPic p vkpic s).pic q) := by
  simp only [setVkPic, Decoder.pic, Decoder.modifyPic_store, Store.modifyPic_pic]
  split
  · rename_i h
    rw [h]
    exact ⟨rfl, rfl, rfl⟩
  · exact .refl _

lemma relinks_modifyPic {f : Picture → Picture} (hs : ∀ x, (f x).secondField = x.secondField)
    (ho : ∀ x, (f x).otherField = x.otherField) (hf : k.current.starts p ∨ (f (s.pic p)).field = (s.pic p).field) :
    Relinks (k, s) (k, s.modifyPic p f) q := by
  by_cases hq : q = p
  · subst hq
    have hpic : (s.modifyPic q f).pic q = f (s.pic q) := by simp [Decoder.pic]
    rcases hf with hf | hf
    · exact .begun hf (by rw [hpic, hs]) (by rw [hpic, ho])
    · exact .same (hpic ▸ ⟨hs _, ho _, hf⟩)
  · apply relinks_eq
    simp [Decoder.pic, hq]

lemma relinks_addPicture {k' : Phase} {l : Option PicId}
    (hp : (∃ r, r.stored ∧ (r, p) ∈ k.hold ∧
        (r = .half → ∀ q, (s.pic p).otherField = some q → q ∈ s.store.dpb.picList) ∧
        ∀ q, s.lastField = some q → (s.pic p).otherField ≠ some q) ∨ s.lastField = some p) :
    Relinks (k, s) (k', (s.mapStore (Store.addPicture p)).setLastField l) q := by
  obtain ⟨b, o, hpic⟩ := (Store.adds_dpbAdd p s.store).pic q
  have hs : ((s.store.dpbAdd p).pic q).secondField = (s.pic q).secondField := by rw [hpic]; rfl
  have hf : ((s.store.dpbAdd p).pic q).field = (s.pic q).field := by rw [hpic]; rfl
  have ho := Store.dpbAdd_otherField p q s.store
  by_cases hl : (s.store.pic p).secondField ∧ (s.store.pic p).otherField = some q
  · rw [if_pos hl] at ho
    refine .linked hl.1 hl.2 ?_ hs ho hf (.inl (by simp [Store.dpbAdd_picList]))
    rcases hp with ⟨r, hr, hm, hh, hlast⟩ | hp
    · exact .inl ⟨r, hr, hm, fun he => hh he q hl.2, fun he => hlast q he hl.2⟩
    · exact .inr (.inl hp)
  · rw [if_neg hl] at ho
    exact .same ⟨hs, ho, hf⟩

lemma splitFirst_opposite (x y : Picture) : Opposite (splitOther x y) (splitFirst x) := by
  unfold splitFirst splitOther
  by_cases h : x.topFieldOrderCnt < x.bottomFieldOrderCnt
  · simp only [h, if_true]
    exact ⟨by simp, by simp, by simp⟩
  · simp only [h, if_false]
    exact ⟨by simp, by simp, by simp⟩

lemma splitFirst_links (x : Picture) :
    (splitFirst x).secondField = x.secondField ∧ (splitFirst x).otherField = x.otherField := by
  unfold splitFirst
  split <;> exact ⟨rfl, rfl⟩

lemma relinks_splitPair {p' : PicId} {r : Role} (hp : (r, p) ∈ k.hold) (hr : r = .gap ∨ r = .settled)
    (hq : (.fresh, p') ∈ k.hold) (hf : (s.pic p).isFrame) (hs : (s.pic p').secondField = false)
    (hn : r = .gap → (s.pic p).nonexisting) (hx : Placed (k, s)) :
    Relinks (k, s) (k.turn .fresh .half p', s.splitPair p p') q := by
  have hne : p ≠ p' := by
    rintro rfl
    have := hx.hold_hold (by rcases hr with rfl | rfl <;> rfl) rfl hp hq
    rcases hr with rfl | rfl <;> cases this
  have hframe : (s.pic p).field = .frame := by simpa [Picture.isFrame] using hf
  have hfirst : (s.splitPair p p').pic p = splitFirst (s.pic p) := by
    simp [Decoder.splitPair, Decoder.pic, hne]
  have hsecond : (s.splitPair p p').pic p' = splitOther (s.pic p) (linkSecondField p (s.pic p')) := by
    simp [Decoder.splitPair, Decoder.pic, hne, hne.symm]
  by_cases h : q = p'
  · subst h
    refine .half hr hp ?_ hframe hq (by simp) hs ?_ ?_ ?_ ?_ ?_
    · refine List.mem_cons_of_mem _ ((List.mem_erase_of_ne ?_).mpr hp)
      rcases hr with rfl | rfl <;> simp
    · rw [hsecond]
      rfl
    · rw [hsecond]
      rfl
    · rw [hsecond, hfirst]
      exact splitFirst_opposite _ _
    · rw [hfirst]
      exact (splitFirst_links _).1
    · rw [hfirst, hsecond, nonexisting_splitFirst]
      rfl
  · by_cases h' : q = p
    · subst h'
      refine .halved hr hp hframe (hfirst ▸ (splitFirst_links _).1) (hfirst ▸ (splitFirst_links _).2)
        ⟨p', by simp, hsecond ▸ rfl, hsecond ▸ rfl⟩ fun h => ?_
      rw [hfirst, nonexisting_splitFirst]
      exact hn h
    · apply relinks_eq
      simp [Decoder.splitPair, Decoder.pic, h, h']

lemma Act.relinks (h : Act env x y) (hx : Placed x) (q : PicId) : Relinks x y q := by
  cases h with
  | new r hr =>
    rename_i k s
    by_cases hq : q = s.store.next
    · subst hq
      exact .made rfl (by simp [Decoder.pic, Store.pictureNew]) (by simp [Decoder.pic, Store.pictureNew])
    · apply relinks_eq
      simp [Decoder.pic, Store.pictureNew, hq]
  | book h => exact relinks_eq (by rw [Decoder.pic, Decoder.pic, h.pic])
  | number h | mark p hp hk h => exact .same (h.role q).sameField
  | edit p hp hf hfield => exact relinks_modifyPic hf.secondField hf.otherField hfield
  | editLost p hk hf hfield => exact relinks_modifyPic hf.secondField hf.otherField (.inr (hfield _))
  | linkSecond p p' hp hb =>
    rename_i k s
    by_cases hq : q = p'
    · subst hq
      exact .second hp hb (by simp [Decoder.pic, linkSecondField]) (by simp [Decoder.pic, linkSecondField]) hp
    · apply relinks_eq
      simp [Decoder.pic, hq]
  | splitPair p p' hp hr hq hf hi hs hn => exact relinks_splitPair hp hr hq hf hs hn hx
  | alloc p hp =>
    apply Relinks.same
    unfold Decoder.allocPicture
    simp only
    split
    · exact .refl _
    · exact setVkPic_sameField p q _ _
  | borrow p hp | keep p hp => exact .same ((Store.sameShape_ref _ _).sameField q)
  | unref p hp | unrefCurrent p hp | unrefLast p hp => exact .same ((Store.sameShape_unref _ _).sameField q)
  | start p slice vkpic | slice p slice vkpic | endPicture p vkpic | losePicture p vkpic =>
    exact .same (setVkPic_sameField p q _ _)
  | deleteUnused => exact .same (Store.shrinks_dpbDeleteUnused.sameField q)
  | dpbClear h => exact .same (Store.shrinks_dpbClear.sameField q)
  | bump drain p h => exact .same (Store.shrinks_dpbBump.sameField q)
  | add p hp hr hroom hlast hhalf => exact relinks_addPicture (.inl ⟨_, hr, hp, hhalf, hlast⟩)
  | addLast p p' hp hr hl => exact relinks_addPicture (.inr hl)
  | link p p' hp hq hs hpq hst =>
    rename_i k s
    by_cases h : q = p'
    · subst h
      refine .linked hs hpq (.inr (.inr ⟨hp, hq⟩)) ?_ ?_ ?_ (.inr hst)
      · simp [Decoder.pic, linkField]
      · simp [Decoder.pic, linkField]
      · simp [Decoder.pic, linkField]
    · apply relinks_eq
      simp [Decoder.pic, h]
  | removeFrame h => cases h <;> exact relinks_eq rfl
  | _ => exact relinks_eq rfl

section Phases

lemma Act.fresh (h : Act env x y) (hm : (.fresh, p) ∈ x.1.hold) (hs : (x.2.pic p).secondField) :
    (.fresh, p) ∈ y.1.hold ∨ y.1.current.starts p := by
  have hkeep : ∀ {r : Role} {q : PicId}, r ≠ .fresh → (.fresh, p) ∈ x.1.hold.erase (r, q) := fun hr =>
    (List.mem_erase_of_ne (by simp [hr.symm])).mpr hm
  cases h with
  | new | bump | borrow | takeLast | keep => exact .inl (List.mem_cons_of_mem _ hm)
  | endPicture => exact .inl (List.mem_cons_of_mem _ hm)
  | beginMarking | endMarking | skipMarking | settle | direct => exact .inl (List.mem_cons_of_mem _ (hkeep (by simp)))
  | doom q hq hd => exact .inl (List.mem_cons_of_mem _ (hkeep (by cases hd <;> simp)))
  | display => exact .inl (List.mem_cons_of_mem _ (List.mem_cons_of_mem _ (hkeep (by simp))))
  | splitPair p' q hp hr hq hf hi hsec hn =>
    by_cases he : p = q
    · rw [he, hsec] at hs
      cases hs
    · exact .inl (List.mem_cons_of_mem _ ((List.mem_erase_of_ne (by simpa using he)).mpr hm))
  | finishFrame | forgetShown | leak | cache => exact .inl (hkeep (by simp))
  | add q hq hr =>
    refine .inl (hkeep ?_)
    rintro rfl
    rcases hr with hr | hr | hr <;> cases hr
  | unref q hq hr hsec =>
    by_cases he : p = q
    · subst he
      refine .inl (hkeep fun hf => ?_)
      rw [hsec hf] at hs
      cases hs
    · exact .inl ((List.mem_erase_of_ne (by simp [he])).mpr hm)
  | adopt q hq hk =>
    by_cases he : p = q
    · subst he
      exact .inr ⟨_, rfl⟩
    · exact .inl ((List.mem_erase_of_ne (by simpa using he)).mpr hm)
  | _ => exact .inl hm

lemma Act.fresh_of (h : Act env x y) (hm : (.fresh, p) ∈ y.1.hold) : (.fresh, p) ∈ x.1.hold ∨ p = x.2.store.next := by
  cases h with
  | new r hr =>
    simp only [Phase.hold_take, List.mem_cons, Prod.mk.injEq] at hm
    exact (hm.imp_left fun hm => hm.2).symm
  | bump | borrow | takeLast | keep =>
    simp only [Phase.hold_take, List.mem_cons, Prod.mk.injEq, reduceCtorEq, false_and, false_or] at hm
    exact .inl hm
  | endPicture =>
    simp only [Phase.setCurrent, Phase.take, List.mem_cons, Prod.mk.injEq, reduceCtorEq, false_and, false_or] at hm
    exact .inl hm
  | beginMarking | endMarking | skipMarking | settle | direct | doom | splitPair =>
    simp only [Phase.hold_setDone, Phase.hold_turn, List.mem_cons, Prod.mk.injEq, reduceCtorEq, false_and, false_or] at hm
    exact .inl (List.mem_of_mem_erase hm)
  | display =>
    simp only [Phase.hold_take, Phase.hold_turn, List.mem_cons, Prod.mk.injEq, reduceCtorEq, false_and, false_or] at hm
    exact .inl (List.mem_of_mem_erase hm)
  | finishFrame | forgetShown | unref | leak | adopt | add | cache => exact .inl (List.mem_of_mem_erase hm)
  | _ => exact .inl hm

/-- How the current picture came to be one that starts. -/
lemma Act.starting_of (h : Act env x y) {slice : GstH264Slice} (hy : y.1.current = .starting p slice) :
    x.1.current = .starting p slice ∨ ((.fresh, p) ∈ x.1.hold ∧ x.1.current = .none ∧ slice = x.2.currentSlice ∧
      y.2.store = x.2.store ∧ y.2.lastField = x.2.lastField ∧
      (sliceField slice.header = .frame → x.2.lastField = none) ∧
      ((x.2.pic p).secondField → ∃ q, (x.2.pic p).otherField = some q ∧ BeginsPair x.2 q)) := by
  cases h with
  | adopt q hq hk hframe hpair =>
    cases hy
    exact .inr ⟨hq, hk, rfl, rfl, rfl, hframe, hpair⟩
  | fill | clear | start | endPicture | losePicture | unrefCurrent | forgetCurrent => cases hy
  | _ => exact .inl hy

lemma Act.starts_of (h : Act env x y) (hy : y.1.current.starts p) :
    x.1.current.starts p ∨ (.fresh, p) ∈ x.1.hold := by
  obtain ⟨slice, hy⟩ := hy
  exact (h.starting_of hy).imp (fun h => ⟨slice, h⟩) And.left

/-- What becomes of the current picture that starts. -/
lemma Act.starting (h : Act env x y) (hx : Placed x) {slice : GstH264Slice} (hc : x.1.current = .starting p slice) :
    y.1.current = .starting p slice ∨ (y.2 = x.2 ∧ FromSlice slice (x.2.pic p)) ∨ places y p = 0 := by
  cases h with
  | adopt q hq hk => cases hk.symm.trans hc
  | fill q slice' hk hs =>
    cases hk.symm.trans hc
    exact .inr (.inl ⟨rfl, hs⟩)
  | clear q slice' hk => cases hk.symm.trans hc
  | start q slice' vkpic hk => rcases hk with hk | hk <;> cases hk.symm.trans hc
  | endPicture q vkpic hk | losePicture q vkpic hk => cases hk.symm.trans hc
  | forgetCurrent hk => rcases hk with hk | ⟨q, hk | hk⟩ <;> cases hk.symm.trans hc
  | unrefCurrent q hk =>
    right
    right
    rename_i k s
    have hplace : k.current.place = some p := by
      simp only at hc
      rw [hc]
      rfl
    have := hx.once p
    simp only [places, hplace, slot_some, isAt_self] at this
    simp only [places, Decoder.setCurrentPicture_store, Decoder.setCurrentPicture_lastField, Decoder.mapStore_store,
      Decoder.mapStore_lastField, Phase.current_setCurrent, Phase.hold_setCurrent, Current.place, slot_none,
      (Store.sameShape_unref _ _).dpb]
    omega
  | _ => exact .inl hc

lemma Act.half (h : Act env x y) (hm : (.half, p) ∈ x.1.hold) :
    (.half, p) ∈ y.1.hold ∨ (y.2.store = x.2.store.addPicture p ∧
      ∀ q, (x.2.pic p).otherField = some q → q ∈ x.2.store.dpb.picList) := by
  have hkeep : ∀ {r : Role} {q : PicId}, r ≠ .half → (.half, p) ∈ x.1.hold.erase (r, q) := fun hr =>
    (List.mem_erase_of_ne (by simp [hr.symm])).mpr hm
  cases h with
  | new | bump | borrow | takeLast | keep | endPicture => exact .inl (List.mem_cons_of_mem _ hm)
  | beginMarking | endMarking | skipMarking | settle | direct | splitPair =>
    exact .inl (List.mem_cons_of_mem _ (hkeep (by simp)))
  | doom q hq hd => exact .inl (List.mem_cons_of_mem _ (hkeep (by cases hd <;> simp)))
  | display => exact .inl (List.mem_cons_of_mem _ (List.mem_cons_of_mem _ (hkeep (by simp))))
  | finishFrame | forgetShown | leak | cache | adopt => exact .inl (hkeep (by simp))
  | add q hq hr hroom hlast hhalf hfirst hframes hmissing =>
    rename_i k s r
    by_cases he : (r, q) = (.half, p)
    · cases he
      exact .inr ⟨rfl, hhalf rfl⟩
    · exact .inl ((List.mem_erase_of_ne (Ne.symm he)).mpr hm)
  | unref q hq hr => exact .inl (hkeep (by rintro rfl; rcases hr with hr | hr | hr | hr <;> cases hr))
  | _ => exact .inl hm

-- a picture to be stored stays in that hand until it leaves for good
lemma Act.held_stored (h : Act env x y) (hx : Placed x) {r : Role} (hr : r = .gap ∨ r = .settled)
    (hm : (r, p) ∈ x.1.hold) : (r, p) ∈ y.1.hold ∨ ¬H264.flight y p := by
  have howns : r.owns = 1 := by rcases hr with rfl | rfl <;> rfl
  have hkeep : ∀ {r' : Role} {q : PicId}, r' ≠ r → (r, p) ∈ x.1.hold.erase (r', q) := fun hne =>
    (List.mem_erase_of_ne (by simp [hne.symm])).mpr hm
  cases h with
  | new | bump | borrow | takeLast | keep | endPicture => exact .inl (List.mem_cons_of_mem _ hm)
  | beginMarking | endMarking | skipMarking | settle =>
    exact .inl (List.mem_cons_of_mem _ (hkeep (by rcases hr with rfl | rfl <;> simp)))
  | splitPair => exact .inl (List.mem_cons_of_mem _ (hkeep (by rcases hr with rfl | rfl <;> simp)))
  | display =>
    exact .inl (List.mem_cons_of_mem _ (List.mem_cons_of_mem _ (hkeep (by rcases hr with rfl | rfl <;> simp))))
  | finishFrame | forgetShown | adopt => exact .inl (hkeep (by rcases hr with rfl | rfl <;> simp))
  | unref q hq hd =>
    exact .inl (hkeep (by rcases hr with rfl | rfl <;> rcases hd with rfl | rfl | rfl | rfl <;> simp))
  | direct q hq =>
    by_cases he : (r, p) = (.settled, q)
    · cases he
      exact .inr (hx.landed_turn hq rfl rfl le_rfl)
    · exact .inl (List.mem_cons_of_mem _ ((List.mem_erase_of_ne he).mpr hm))
  | doom q hq hd =>
    rename_i k s r'
    by_cases he : (r, p) = (r', q)
    · cases he
      exact .inr (hx.landed_turn hq howns rfl le_rfl)
    · exact .inl (List.mem_cons_of_mem _ ((List.mem_erase_of_ne he).mpr hm))
  | leak q hq =>
    by_cases he : (r, p) = (.gap, q)
    · cases he
      exact .inr (hx.landed_drop hq rfl le_rfl)
    · exact .inl ((List.mem_erase_of_ne he).mpr hm)
  | cache q hq =>
    by_cases he : (r, p) = (.settled, q)
    · cases he
      exact .inr (hx.landed_drop hq rfl le_rfl)
    · exact .inl ((List.mem_erase_of_ne he).mpr hm)
  | add q hq hd hroom hlast hhalf hfirst hframes hmissing =>
    rename_i k s r'
    by_cases he : (r, p) = (r', q)
    · cases he
      exact .inr (hx.landed_drop hq howns (le_of_eq (Store.adds_dpbAdd _ _).next.symm))
    · exact .inl ((List.mem_erase_of_ne he).mpr hm)
  | _ => exact .inl hm

lemma Act.lastField (h : Act env x y) (hl : y.2.lastField = some q) :
    x.2.lastField = some q ∨ ((.settled, q) ∈ x.1.hold ∧ y.2.store = x.2.store ∧ (x.2.pic q).isFrame = false ∧
      (x.2.pic q).secondField = false ∧ (x.2.pic q).isRef = false ∧ x.1.current = .gone q ∧ y.1.current = x.1.current ∧
      ∃ info, Event.placing info ∈ x.2.store.log ∧ info.holdsBack ∧ info.interlaced = x.2.store.dpb.interlaced) := by
  cases h with
  | book h => exact .inl (h.lastField.symm.trans hl)
  | alloc p hp => exact .inl ((allocPicture_lastField p).symm.trans hl)
  | cache p hp hf hs hl' hg hk hshown =>
    cases hl
    refine .inr ⟨hp, rfl, hf, hs, ?_, hk, rfl, hshown⟩
    simp only [goesToDpb, Bool.or_eq_false_iff] at hg
    exact hg.1.2
  | unrefLast | addLast | takeLast => cases hl
  | removeFrame h => cases h <;> exact .inl hl
  | _ => exact .inl hl

lemma Act.output (h : Act env x y) (hx : Placed x) (hm : (.output, q) ∈ y.1.hold) :
    (.output, q) ∈ x.1.hold ∨ (¬H264.flight y q ∧ y.2.lastField ≠ some q) := by
  have hland : ¬H264.flight x q → ¬H264.flight y q := fun hf hy => hf (h.flight hy)
  cases h with
  | new r hr =>
    simp only [Phase.hold_take, List.mem_cons, Prod.mk.injEq] at hm
    rcases hm with ⟨rfl, -⟩ | hm
    · rcases hr with hr | hr <;> cases hr
    · exact .inl hm
  | bump drain p hp =>
    simp only [Phase.hold_take, List.mem_cons, Prod.mk.injEq] at hm
    rcases hm with ⟨-, rfl⟩ | hm
    · obtain ⟨i, hi⟩ := Store.bump_eq_some hp
      have hmem := List.mem_of_getElem? (Store.lowest_spec hi).1
      exact .inr ⟨hland fun hf => hx.not_stored hf hmem, hx.not_last_of_stored hmem⟩
    · exact .inl hm
  | takeLast p q' hp hs hpq hl =>
    simp only [Phase.hold_take, List.mem_cons, Prod.mk.injEq] at hm
    rcases hm with ⟨-, rfl⟩ | hm
    · exact .inr ⟨hland fun hf => hx.not_last hf hl, by simp⟩
    · exact .inl hm
  | direct p hp hf hl =>
    simp only [Phase.hold_turn, List.mem_cons, Prod.mk.injEq] at hm
    rcases hm with ⟨-, rfl⟩ | hm
    · exact .inr ⟨hx.landed_turn hp rfl rfl le_rfl, by simp [hl]⟩
    · exact .inl (List.mem_of_mem_erase hm)
  | borrow | keep =>
    simp only [Phase.hold_take, List.mem_cons, Prod.mk.injEq, reduceCtorEq, false_and, false_or] at hm
    exact .inl hm
  | endPicture =>
    simp only [Phase.setCurrent, Phase.take, List.mem_cons, Prod.mk.injEq, reduceCtorEq, false_and, false_or] at hm
    exact .inl hm
  | beginMarking | endMarking | skipMarking | settle | doom | splitPair =>
    simp only [Phase.hold_setDone, Phase.hold_turn, List.mem_cons, Prod.mk.injEq, reduceCtorEq, false_and, false_or] at hm
    exact .inl (List.mem_of_mem_erase hm)
  | display =>
    simp only [Phase.hold_take, Phase.hold_turn, List.mem_cons, Prod.mk.injEq, reduceCtorEq, false_and, false_or] at hm
    exact .inl (List.mem_of_mem_erase hm)
  | finishFrame | forgetShown | unref | leak | adopt | add | cache => exact .inl (List.mem_of_mem_erase hm)
  | _ => exact .inl hm

end Phases

/-- What the links between fields are good for: `back` is about a first field that names its second one. -/
structure Linked (x : Phase × Decoder P) : Prop where
  unmade : ∀ p, x.2.store.next ≤ p → (x.2.pic p).secondField = false
  alone : ∀ q, flight x q → (x.2.pic q).secondField = false → (x.2.pic q).otherField = none
  named : ∀ p, (x.2.pic p).secondField → ∃ q, (x.2.pic p).otherField = some q
  pair : ∀ p q, (x.2.pic p).secondField → (x.2.pic p).otherField = some q → (x.2.pic q).secondField = false ∧
    (flight x q → (.half, p) ∈ x.1.hold ∧ ∃ r, (r = .gap ∨ r = .settled) ∧ (r, q) ∈ x.1.hold)
  opposite : ∀ p q, 0 < places x p → (x.2.pic p).secondField → (x.2.pic p).otherField = some q →
    (.fresh, p) ∈ x.1.hold ∨ x.1.current.starts p ∨ Opposite (x.2.pic p) (x.2.pic q)
  starting : ∀ p slice q, x.1.current = .starting p slice → (x.2.pic p).secondField →
    (x.2.pic p).otherField = some q → (x.2.pic q).field ≠ .frame ∧ sliceField slice.header ≠ .frame ∧
      sliceField slice.header ≠ (x.2.pic q).field
  back : ∀ q p, (x.2.pic q).secondField = false → (x.2.pic q).otherField = some p →
    Opposite (x.2.pic p) (x.2.pic q) ∧ p < x.2.store.next ∧ (.fresh, p) ∉ x.1.hold ∧ ¬x.1.current.starts p
  last : ∀ q, x.2.lastField = some q →
    (x.2.pic q).secondField = false ∧ (x.2.pic q).otherField = none ∧ (x.2.pic q).field ≠ .frame
  output : ∀ q, (.output, q) ∈ x.1.hold → ¬flight x q ∧ x.2.lastField ≠ some q

section Preservation

variable {r : Role}

lemma Placed.not_fresh (hx : Placed x) (hm : (r, p) ∈ x.1.hold) (hr : r.owns = 1) (hne : r ≠ .fresh) :
    (.fresh, p) ∉ x.1.hold := fun hf => hne (hx.hold_hold hr rfl hm hf)

lemma Placed.not_starts (hx : Placed x) (hm : (r, p) ∈ x.1.hold) (hr : r.owns = 1) : ¬x.1.current.starts p := by
  rintro ⟨slice, hc⟩
  exact hx.current_hold (by rw [hc]; rfl) hr hm

lemma stored_owns (h : r = .gap ∨ r = .settled) : r.owns = 1 := by
  rcases h with rfl | rfl <;> rfl

lemma stored_ne (h : r = .gap ∨ r = .settled) : r ≠ .fresh := by
  rcases h with rfl | rfl <;> simp

lemma Current.starts.place {c : Current} (h : c.starts p) : c.place = some p := by
  obtain ⟨slice, rfl⟩ := h
  rfl

lemma places_of_hold (hx : Placed x) (hm : (r, p) ∈ x.1.hold) (hr : r.owns = 1) : 0 < places x p := by
  have hw := flight_weight (flight_of_hold hm hr) (hx.flight_below hm)
  unfold places
  omega

-- a frame that is to be stored is no second field
lemma Linked.frame_first (hl : Linked x) (hx : Placed x) (hr : r = .gap ∨ r = .settled) (hm : (r, p) ∈ x.1.hold)
    (hf : (x.2.pic p).field = .frame) : (x.2.pic p).secondField = false := by
  by_contra hs
  have hs : (x.2.pic p).secondField = true := by simpa using hs
  obtain ⟨q, hq⟩ := hl.named p hs
  rcases hl.opposite p q (places_of_hold hx hm (stored_owns hr)) hs hq with h | h | h
  · exact hx.not_fresh hm (stored_owns hr) (stored_ne hr) h
  · exact hx.not_starts hm (stored_owns hr) h
  · exact h.left hf

-- what keeps a first field apart from the pictures that change
lemma Linked.first_steady (hl : Linked x) (hx : Placed x) (hs : (x.2.pic p).secondField)
    (ho : (x.2.pic p).otherField = some q) :
    (.fresh, q) ∉ x.1.hold ∧ ¬x.1.current.starts q ∧ q ≠ x.2.store.next := by
  have hp := (hl.pair p q hs ho).2
  refine ⟨fun hf => ?_, fun hst => ?_, ?_⟩
  · obtain ⟨-, r, hr, hm⟩ := hp (flight_of_hold hf rfl)
    exact hx.not_fresh hm (stored_owns hr) (stored_ne hr) hf
  · obtain ⟨-, r, hr, hm⟩ := hp (.inr (.inl hst.place))
    exact hx.not_starts hm (stored_owns hr) hst
  · rintro rfl
    obtain ⟨-, r, hr, hm⟩ := hp (.inl le_rfl)
    exact lt_irrefl _ (hx.flight_below hm)

-- a picture that is not about to become a second field is none afterwards
lemma Act.second_steady (h : Act env x y) (hx : Placed x) (hs : (x.2.pic q).secondField = false)
    (hf : (.fresh, q) ∉ x.1.hold) : (y.2.pic q).secondField = false := by
  cases h.relinks hx q with
  | same h => exact h.secondField.trans hs
  | made _ hs' => exact hs'
  | begun _ hs' | halved _ _ _ hs' => exact hs'.trans hs
  | second hq | half _ _ _ _ hq => exact absurd hq hf
  | linked _ _ _ hs' => exact hs'.trans hs

-- the field of a first field does not change
lemma Act.field_steady (h : Act env x y) (hx : Placed x) (hfresh : (.fresh, q) ∉ x.1.hold)
    (hst : ¬x.1.current.starts q) (hn : q ≠ x.2.store.next) (hframe : (x.2.pic q).field ≠ .frame) :
    (y.2.pic q).field = (x.2.pic q).field := by
  cases h.relinks hx q with
  | same h => exact h.field
  | made hq => exact absurd hq hn
  | begun h => exact absurd h hst
  | halved _ _ hf => exact absurd hf hframe
  | second hq | half _ _ _ _ hq => exact absurd hq hfresh
  | linked _ _ _ _ _ hf => exact hf

lemma BeginsPair.spec (hl : Linked (k, s)) (hx : Placed (k, s)) (h : BeginsPair s q) :
    (s.pic q).secondField = false ∧ ¬flight (k, s) q ∧ (s.pic q).field ≠ .frame := by
  rcases prevField_mem h.prevField with hq | ⟨hm, hf, ho⟩
  · obtain ⟨h₁, -, h₃⟩ := hl.last q hq
    exact ⟨h₁, fun hf => hx.not_last hf hq, h₃⟩
  · refine ⟨?_, fun hf => hx.not_stored hf hm, by simpa [Picture.isFrame] using hf⟩
    by_contra hs
    obtain ⟨a, ha⟩ := hl.named q (by simpa using hs)
    cases ho.symm.trans ha

variable (h : Act env x y) (hx : Placed x) (hl : Linked x)

include h hx hl

lemma Linked.unmade_step (hn : y.2.store.next ≤ p) : (y.2.pic p).secondField = false := by
  have hn' := h.next_le.trans hn
  apply h.second_steady hx (hl.unmade p hn')
  intro hf
  exact absurd (hx.flight_below hf) (Nat.not_lt.mpr hn')

lemma Linked.alone_step (hf : flight y q) (hs : (y.2.pic q).secondField = false) : (y.2.pic q).otherField = none := by
  have hfx := h.flight hf
  cases h.relinks hx q with
  | same hsame => exact hsame.otherField.trans (hl.alone q hfx (hsame.secondField.symm.trans hs))
  | made _ _ ho => exact ho
  | begun _ hs' ho | halved _ _ _ hs' ho => exact ho.trans (hl.alone q hfx (hs'.symm.trans hs))
  | second _ _ hs' | half _ _ _ _ _ _ _ hs' => cases hs.symm.trans hs'
  | linked hsp hop hp =>
    obtain ⟨hhalf, r, hr, hm⟩ := (hl.pair _ q hsp hop).2 hfx
    rcases hp with ⟨r', hr', hm', hd, -⟩ | hlast | ⟨-, hout⟩
    · obtain rfl := hx.hold_hold hr'.owns rfl hm' hhalf
      exact absurd (hd rfl) (hx.not_stored hfx)
    · cases (hl.last _ hlast).1.symm.trans hsp
    · exact absurd hfx (hl.output q hout).1

lemma Linked.named_step (hs : (y.2.pic p).secondField) : ∃ q, (y.2.pic p).otherField = some q := by
  cases h.relinks hx p with
  | same hsame => exact (hl.named p (hsame.secondField.symm.trans hs)).imp fun q hq => hsame.otherField.trans hq
  | made _ hs' => cases hs'.symm.trans hs
  | begun _ hs' ho | halved _ _ _ hs' ho => exact (hl.named p (hs'.symm.trans hs)).imp fun q hq => ho.trans hq
  | second _ _ _ ho | half _ _ _ _ _ _ _ _ ho => exact ⟨_, ho⟩
  | linked _ _ _ _ ho => exact ⟨_, ho⟩

-- a pair that was there before
lemma Linked.pair_kept (hs : (x.2.pic p).secondField) (ho : (x.2.pic p).otherField = some q) :
    (y.2.pic q).secondField = false ∧
      (flight y q → (.half, p) ∈ y.1.hold ∧ ∃ r, (r = .gap ∨ r = .settled) ∧ (r, q) ∈ y.1.hold) := by
  have hpair := hl.pair p q hs ho
  refine ⟨h.second_steady hx hpair.1 (hl.first_steady hx hs ho).1, fun hf => ?_⟩
  have hfx := h.flight hf
  obtain ⟨hhalf, r, hr, hm⟩ := hpair.2 hfx
  refine ⟨(h.half hhalf).resolve_right fun hd => hx.not_stored hfx (hd.2 q ho), r, hr, ?_⟩
  exact (h.held_stored hx hr hm).resolve_right fun hn => hn hf

lemma Linked.pair_step (hs : (y.2.pic p).secondField) (ho : (y.2.pic p).otherField = some q) :
    (y.2.pic q).secondField = false ∧
      (flight y q → (.half, p) ∈ y.1.hold ∧ ∃ r, (r = .gap ∨ r = .settled) ∧ (r, q) ∈ y.1.hold) := by
  cases h.relinks hx p with
  | same hsame => exact hl.pair_kept h hx (hsame.secondField.symm.trans hs) (hsame.otherField.symm.trans ho)
  | made _ hs' => cases hs'.symm.trans hs
  | begun _ hs' ho' | halved _ _ _ hs' ho' => exact hl.pair_kept h hx (hs'.symm.trans hs) (ho'.symm.trans ho)
  | second _ hb _ ho' =>
    cases ho'.symm.trans ho
    obtain ⟨hsec, hfl, -⟩ := BeginsPair.spec (k := x.1) hl hx hb
    refine ⟨h.second_steady hx hsec fun hf => hfl (flight_of_hold hf rfl), fun hf => absurd (h.flight hf) hfl⟩
  | half hr hp hp' hf hq hq' _ _ ho' _ hsec =>
    cases ho'.symm.trans ho
    exact ⟨hsec.trans (hl.frame_first hx hr hp hf), fun _ => ⟨hq', _, hr, hp'⟩⟩
  | linked hsp hop _ hsec => cases (hsec.symm.trans hs).symm.trans (hl.pair _ p hsp hop).1

lemma Linked.opposite_kept (hs : (x.2.pic p).secondField) (ho : (x.2.pic p).otherField = some q)
    (hf : (y.2.pic p).field = (x.2.pic p).field) (hopp : Opposite (x.2.pic p) (x.2.pic q)) :
    Opposite (y.2.pic p) (y.2.pic q) := by
  obtain ⟨h₁, h₂, h₃⟩ := hl.first_steady hx hs ho
  have hq := h.field_steady hx h₁ h₂ h₃ hopp.right
  exact ⟨hf ▸ hopp.left, hq ▸ hopp.right, hf ▸ hq ▸ hopp.differ⟩

lemma Linked.starting_opposite {slice : GstH264Slice} (hc : x.1.current = .starting p slice)
    (hp : 0 < places y p) (hs : (x.2.pic p).secondField) (ho : (x.2.pic p).otherField = some q) :
    y.1.current.starts p ∨ Opposite (y.2.pic p) (y.2.pic q) := by
  rcases h.starting hx hc with hc' | ⟨he, hfrom⟩ | hz
  · exact .inl ⟨slice, hc'⟩
  · obtain ⟨h₁, h₂, h₃⟩ := hl.starting p slice q hc hs ho
    rw [he]
    exact .inr ⟨hfrom.field ▸ h₂, h₁, hfrom.field ▸ h₃⟩
  · omega

lemma Linked.opposite_step (hp : 0 < places y p) (hs : (y.2.pic p).secondField)
    (ho : (y.2.pic p).otherField = some q) :
    (.fresh, p) ∈ y.1.hold ∨ y.1.current.starts p ∨ Opposite (y.2.pic p) (y.2.pic q) := by
  have hpx : (x.2.pic p).secondField = true → 0 < places x p := fun hsx => by
    rcases h.places_le p with hle | ⟨rfl, -⟩
    · omega
    · cases (hl.unmade _ le_rfl).symm.trans hsx
  cases h.relinks hx p with
  | same hsame =>
    have hsx := hsame.secondField.symm.trans hs
    have hox := hsame.otherField.symm.trans ho
    rcases hl.opposite p q (hpx hsx) hsx hox with hf | ⟨slice, hst⟩ | hopp
    · exact (h.fresh hf hsx).imp_right .inl
    · exact .inr (hl.starting_opposite h hx hst hp hsx hox)
    · exact .inr (.inr (hl.opposite_kept h hx hsx hox hsame.field hopp))
  | made _ hs' => cases hs'.symm.trans hs
  | begun hst hs' ho' =>
    obtain ⟨slice, hst⟩ := hst
    exact .inr (hl.starting_opposite h hx hst hp (hs'.symm.trans hs) (ho'.symm.trans ho))
  | halved hr hm hf hs' => cases (hl.frame_first hx hr hm hf).symm.trans (hs'.symm.trans hs)
  | second _ _ _ _ hk => exact .inl hk
  | half _ _ _ _ _ _ _ _ ho' hopp =>
    cases ho'.symm.trans ho
    exact .inr (.inr hopp)
  | linked hsp hop _ hsec => cases (hsec.symm.trans hs).symm.trans (hl.pair _ p hsp hop).1

lemma Linked.starting_step {slice : GstH264Slice} (hc : y.1.current = .starting p slice)
    (hs : (y.2.pic p).secondField) (ho : (y.2.pic p).otherField = some q) :
    (y.2.pic q).field ≠ .frame ∧ sliceField slice.header ≠ .frame ∧ sliceField slice.header ≠ (y.2.pic q).field := by
  rcases h.starting_of hc with hcx | ⟨-, -, rfl, hst, -, -, hpair⟩
  · have hst : x.1.current.starts p := ⟨slice, hcx⟩
    have hno : ∀ {r : Role}, r.owns = 1 → (r, p) ∉ x.1.hold := fun hr => hx.current_hold hst.place hr
    have hkept : (x.2.pic p).secondField → (x.2.pic p).otherField = some q →
        (y.2.pic q).field ≠ .frame ∧ sliceField slice.header ≠ .frame ∧
          sliceField slice.header ≠ (y.2.pic q).field := fun hsx hox => by
      obtain ⟨h₁, h₂, h₃⟩ := hl.starting p slice q hcx hsx hox
      obtain ⟨hf, hs', hn⟩ := hl.first_steady hx hsx hox
      rw [h.field_steady hx hf hs' hn h₁]
      exact ⟨h₁, h₂, h₃⟩
    cases h.relinks hx p with
    | same hsame => exact hkept (hsame.secondField.symm.trans hs) (hsame.otherField.symm.trans ho)
    | made _ hs' => cases hs'.symm.trans hs
    | begun _ hs' ho' => exact hkept (hs'.symm.trans hs) (ho'.symm.trans ho)
    | halved hr hm => exact absurd hm (hno (stored_owns hr))
    | second hm | half _ _ _ _ hm => exact absurd hm (hno rfl)
    | linked hsp hop _ hsec => cases (hsec.symm.trans hs).symm.trans (hl.pair _ p hsp hop).1
  · have hpic : y.2.pic = x.2.pic := funext fun a => congrArg (fun st => st.pic a) hst
    rw [hpic] at hs ho ⊢
    obtain ⟨a, ha, hb⟩ := hpair hs
    cases ha.symm.trans ho
    exact ⟨(BeginsPair.spec (k := x.1) hl hx hb).2.2, hb.not_frame, hb.opposite⟩

lemma Linked.back_step (hs : (y.2.pic q).secondField = false) (ho : (y.2.pic q).otherField = some p) :
    Opposite (y.2.pic p) (y.2.pic q) ∧ p < y.2.store.next ∧ (.fresh, p) ∉ y.1.hold ∧ ¬y.1.current.starts p := by
  have hkeep : p < x.2.store.next → (.fresh, p) ∉ x.1.hold → ¬x.1.current.starts p →
      p < y.2.store.next ∧ (.fresh, p) ∉ y.1.hold ∧ ¬y.1.current.starts p := fun hn hf hst => by
    refine ⟨hn.trans_le h.next_le, fun hf' => ?_, fun hst' => ?_⟩
    · rcases h.fresh_of hf' with hf' | rfl
      · exact hf hf'
      · exact lt_irrefl _ hn
    · exact (h.starts_of hst').elim hst hf
  -- only a first field that is not in flight has a link already
  have hold : flight x q → (x.2.pic q).secondField = false → (x.2.pic q).otherField ≠ some p := fun hf hsx hox => by
    cases (hl.alone q hf hsx).symm.trans hox
  cases h.relinks hx q with
  | same hsame =>
    obtain ⟨hopp, hn, hf, hst⟩ := hl.back q p (hsame.secondField.symm.trans hs) (hsame.otherField.symm.trans ho)
    have hp := h.field_steady hx hf hst (ne_of_lt hn) hopp.left
    exact ⟨⟨hp ▸ hopp.left, hsame.field ▸ hopp.right, hp ▸ hsame.field ▸ hopp.differ⟩, hkeep hn hf hst⟩
  | made _ _ ho' => cases ho'.symm.trans ho
  | begun hst hs' ho' => exact absurd (ho'.symm.trans ho) (hold (.inr (.inl hst.place)) (hs'.symm.trans hs))
  | halved hr hm _ hs' ho' =>
    exact absurd (ho'.symm.trans ho) (hold (flight_of_hold hm (stored_owns hr)) (hs'.symm.trans hs))
  | second _ _ hs' | half _ _ _ _ _ _ _ hs' => cases hs.symm.trans hs'
  | linked hsp hop hp _ ho' hfield =>
    cases ho'.symm.trans ho
    have hm : ∃ r, r.stored ∧ (r, p) ∈ x.1.hold := by
      rcases hp with ⟨r, hr, hm, -⟩ | hlast | ⟨hm, -⟩
      · exact ⟨r, hr, hm⟩
      · cases (hl.last _ hlast).1.symm.trans hsp
      · exact ⟨_, .inr (.inr rfl), hm⟩
    obtain ⟨r, hr, hm⟩ := hm
    have hf := hx.not_fresh hm hr.owns (by rcases hr with rfl | rfl | rfl <;> simp)
    have hst := hx.not_starts hm hr.owns
    have hn := hx.flight_below hm
    have hopp := ((hl.opposite p q (places_of_hold hx hm hr.owns) hsp hop).resolve_left hf).resolve_left hst
    have hpf := h.field_steady hx hf hst (ne_of_lt hn) hopp.left
    exact ⟨⟨hpf ▸ hopp.left, hfield ▸ hopp.right, hpf ▸ hfield ▸ hopp.differ⟩, hkeep hn hf hst⟩

lemma Linked.last_step (hlast : y.2.lastField = some q) : (y.2.pic q).secondField = false ∧
    (y.2.pic q).otherField = none ∧ (y.2.pic q).field ≠ .frame := by
  rcases h.lastField hlast with hlx | ⟨hm, hst, hf, hsec, -⟩
  · obtain ⟨hs, ho, hf⟩ := hl.last q hlx
    have hfl : ¬flight x q := fun hfl => hx.not_last hfl hlx
    have hfresh : (.fresh, q) ∉ x.1.hold := fun hm => hfl (flight_of_hold hm rfl)
    have hnst : ¬x.1.current.starts q := fun hst => hfl (.inr (.inl hst.place))
    have hn : q ≠ x.2.store.next := by
      rintro rfl
      exact hfl (.inl le_rfl)
    refine ⟨h.second_steady hx hs hfresh, ?_, h.field_steady hx hfresh hnst hn hf ▸ hf⟩
    cases h.relinks hx q with
    | same hsame => exact hsame.otherField.trans ho
    | made _ _ ho' => exact ho'
    | begun _ _ ho' | halved _ _ _ _ ho' => exact ho'.trans ho
    | second hm | half _ _ _ _ hm => exact absurd hm hfresh
    | linked hsp hop hp =>
      rcases hp with ⟨_, _, _, _, hne⟩ | hlp | ⟨-, hout⟩
      · exact absurd hlx hne
      · cases (hl.last _ hlp).1.symm.trans hsp
      · exact absurd hlx (hl.output q hout).2
  · have hpic : y.2.pic = x.2.pic := funext fun a => congrArg (fun st => st.pic a) hst
    rw [hpic]
    exact ⟨hsec, hl.alone q (flight_of_hold hm rfl) hsec, by simpa [Picture.isFrame] using hf⟩

lemma Linked.output_step (hm : (.output, q) ∈ y.1.hold) : ¬flight y q ∧ y.2.lastField ≠ some q := by
  rcases h.output hx hm with hm | hm
  · obtain ⟨hfl, hne⟩ := hl.output q hm
    refine ⟨fun hf => hfl (h.flight hf), fun hlast => ?_⟩
    rcases h.lastField hlast with hlx | ⟨hms, -⟩
    · exact hne hlx
    · exact hfl (flight_of_hold hms rfl)
  · exact hm

lemma Act.keepsLinks : Linked y where
  unmade _ hn := hl.unmade_step h hx hn
  alone _ hf hs := hl.alone_step h hx hf hs
  named _ hs := hl.named_step h hx hs
  pair _ _ hs ho := hl.pair_step h hx hs ho
  opposite _ _ hp hs ho := hl.opposite_step h hx hp hs ho
  starting _ _ _ hc hs ho := hl.starting_step h hx hc hs ho
  back _ _ hs ho := hl.back_step h hx hs ho
  last _ hlast := hl.last_step h hx hlast
  output _ hm := hl.output_step h hx hm

end Preservation

lemma linked_start : Linked (({} : Phase), Decoder.start env) where
  unmade _ _ := rfl
  alone _ _ _ := rfl
  named _ hs := by cases hs
  pair _ _ hs := by cases hs
  opposite _ _ _ hs := by cases hs
  starting _ _ _ hc := by cases hc
  back _ _ _ ho := by cases ho
  last _ hl := by cases hl
  output _ hm := by cases hm

/-- What the running functions rely on. -/
structure Sound (x : Phase × Decoder P) : Prop where
  linked : x.2.currentPicture = x.1.current.pic
  slice : ∀ p slice, x.1.current = .starting p slice → x.2.currentSlice = slice
  placed : Placed x
  links : Linked x
  told : ∀ p slice, x.1.current.filledBy p slice → FromSlice slice (x.2.pic p)
  refPic : ∀ q, H264.young x q → (x.2.pic q).isRef → (x.2.pic q).refPic

lemma Act.told (h : Act env x y) (hx : Sound x) {p : PicId} {slice : GstH264Slice}
    (hy : y.1.current.filledBy p slice) : FromSlice slice (y.2.pic p) := by
  rcases h.filledBy hy with hf | ⟨he, hs⟩
  · have hc := h.changes (hx.placed.started (.inl ⟨slice, hf⟩))
    have ht := hx.told p slice hf
    have hr := Picture.isRef_congr (hc.ref.resolve_right hf.not_between).1
    have hfield := hc.field.resolve_right (hx.placed.field_steady hf.place)
    exact ⟨hc.idr.trans ht.idr, fun h => hr.trans (ht.isRef h), hfield.trans ht.field,
      hc.decRefPicMarking.trans ht.decRefPicMarking⟩
  · rw [he]
    exact hs

lemma Act.sound (h : Act env x y) (hx : Sound x) : Sound y := by
  refine ⟨h.linked hx.linked, fun p slice => h.currentSlice hx.slice, h.placed hx.placed,
    h.keepsLinks hx.placed hx.links, fun p slice => h.told hx, fun q hq => ?_⟩
  rcases h.young hq with hd | hr
  · exact h.refPic ((h.placed hx.placed).not_half hq) (hx.refPic q hd)
  · intro h
    rw [hr] at h
    cases h

lemma Sound.reach (h : ReflTransGen (Act env) x y) (hx : Sound x) : Sound y :=
  kept (fun _ _ h => h.sound) h hx

lemma sound_start : Sound (({} : Phase), Decoder.start env) where
  linked := rfl
  slice := by
    intro p slice h
    cases h
  placed := placed_start
  links := linked_start
  told := by rintro p slice (h | h) <;> cases h
  refPic := by
    rintro q (h | ⟨r, -, h⟩) <;> cases h

-- the links are sound wherever a run gets
lemma linked_reach (h : ReflTransGen (Act env) (({} : Phase), Decoder.start env) x) : Linked x :=
  (sound_start.reach h).links

end VkVideoParser.H264
