import VkVideoParser.H264.Moves

/-! Every picture that is not given up has one place: the DPB, the cached field, the current picture
or the hands of the running functions. -/

namespace VkVideoParser.H264

open Execution Relation Counting

variable {P : Type} {env : Env P} {k k' : Phase} {s t : Decoder P} {x y : Phase × Decoder P}

section Phases

variable {r r' : Role} {p : PicId}

@[simp] lemma Phase.hold_take : (k.take r p).hold = (r, p) :: k.hold := rfl

@[simp] lemma Phase.hold_drop : (k.drop r p).hold = k.hold.erase (r, p) := rfl

@[simp] lemma Phase.hold_turn : (k.turn r r' p).hold = (r', p) :: k.hold.erase (r, p) := rfl

@[simp] lemma Phase.hold_setCurrent {c : Current} : (k.setCurrent c).hold = k.hold := rfl

@[simp] lemma Phase.hold_setDone {done : List GstH264RefPicMarking} : (k.setDone done).hold = k.hold := rfl

@[simp] lemma Phase.current_setDone {done : List GstH264RefPicMarking} : (k.setDone done).current = k.current := rfl

@[simp] lemma Phase.current_setCurrent {c : Current} : (k.setCurrent c).current = c := rfl

@[simp] lemma Phase.current_take : (k.take r p).current = k.current := rfl

@[simp] lemma Phase.current_drop : (k.drop r p).current = k.current := rfl

@[simp] lemma Phase.current_turn : (k.turn r r' p).current = k.current := rfl

end Phases

/-- The places that a role gives to a picture. -/
def Role.owns : Role → Nat
  | .fresh | .gap | .half | .ended | .marking | .marked | .settled => 1
  | .first | .keep | .output | .loose | .shown => 0

def Current.place : Current → Option PicId
  | .starting p _ | .filled p _ | .clearing p _ | .decoding p | .lost p => some p
  | .none | .gone _ => Option.none

def places (x : Phase × Decoder P) (q : PicId) : Nat :=
  x.2.store.dpb.picList.count q + slot x.2.lastField q + slot x.1.current.place q + weigh Role.owns x.1.hold q

lemma Role.stored.owns {r : Role} (h : r.stored) : r.owns = 1 := by
  rcases h with rfl | rfl | rfl <;> rfl

lemma Current.owned.place {c : Current} {p : PicId} (h : c.owned p) : c.place = some p := by
  rcases h with ⟨slice, rfl⟩ | ⟨slice, rfl | rfl⟩ | rfl <;> rfl

lemma allocPicture_dpb (p : PicId) : (s.allocPicture env p).store.dpb = s.store.dpb := by
  unfold Decoder.allocPicture
  simp only
  split <;> rfl

lemma allocPicture_lastField (p : PicId) : (s.allocPicture env p).lastField = s.lastField := by
  unfold Decoder.allocPicture
  simp only
  split <;> rfl

lemma places_congr (q : PicId) (hh : y.1.hold = x.1.hold) (hc : y.1.current.place = x.1.current.place)
    (hd : y.2.store.dpb.picList = x.2.store.dpb.picList) (hl : y.2.lastField = x.2.lastField) :
    places y q = places x q := by
  simp only [places, hh, hc, hd, hl]

lemma weigh_turn {w : Role → Nat} {r : Role} {p : PicId} (h : (r, p) ∈ k.hold) (r' : Role) (q : PicId) :
    w r * isAt p q + weigh w (k.turn r r' p).hold q = w r' * isAt p q + weigh w k.hold q := by
  rw [Phase.hold_turn, weigh_cons, ← weigh_erase h q]
  omega

lemma places_turn {r : Role} {p : PicId} (r' : Role) (q : PicId) (hp : (r, p) ∈ k.hold) (hr : r'.owns ≤ r.owns)
    (hd : t.store.dpb.picList = s.store.dpb.picList) (hl : t.lastField = s.lastField) :
    places (k.turn r r' p, t) q ≤ places (k, s) q := by
  have := weigh_turn (w := Role.owns) hp r' q
  have := Nat.mul_le_mul_right (isAt p q) hr
  simp only [places, Phase.current_turn, hd, hl] at this ⊢
  omega

-- of the moves only a new picture takes a place
lemma Act.places_le (h : Act env x y) (q : PicId) :
    places y q ≤ places x q ∨ (q = x.2.store.next ∧ y.2.store.next = q + 1 ∧ places y q ≤ places x q + 1) := by
  cases h with
  | new r hr =>
    rename_i k s
    have hw : r.owns = 1 := by rcases hr with rfl | rfl <;> rfl
    by_cases hq : s.store.next = q
    · refine .inr ⟨hq.symm, congrArg (· + 1) hq, ?_⟩
      simp [places, Store.pictureNew, hw, hq]
      omega
    · left
      simp [places, Store.pictureNew, isAt_of_ne hq]
  | book h => exact .inl (le_of_eq (places_congr q rfl rfl h.picList h.lastField))
  | number h | mark p hp hk h =>
    exact .inl (le_of_eq (places_congr q rfl rfl (congrArg Dpb.picList h.dpb) rfl))
  | alloc p hp =>
    exact .inl (le_of_eq (places_congr q rfl rfl (congrArg Dpb.picList (allocPicture_dpb p)) (allocPicture_lastField p)))
  | fill p slice hk | clear p slice hk =>
    refine .inl (le_of_eq (places_congr q rfl ?_ rfl rfl))
    rw [hk]
    rfl
  | start p slice vkpic hk =>
    refine .inl (le_of_eq (places_congr q rfl ?_ rfl rfl))
    rcases hk with hk | hk <;> rw [hk] <;> rfl
  | endPicture p vkpic hk | losePicture p vkpic hk =>
    left
    simp [places, Decoder.endPicture, setVkPic, Current.place, Role.owns, hk]
    try omega
  | unrefCurrent p hk | unrefLast q' hk | forgetCurrent hk =>
    left
    simp [places, (Store.sameShape_unref _ _).dpb, Current.place]
    try omega
  | finishFrame p flow hp | forgetShown p hp | unref p hp =>
    left
    have := weigh_erase (w := Role.owns) hp q
    simp [places, (Store.sameShape_unref _ _).dpb]
    omega
  | leak p hp =>
    left
    have := weigh_erase (w := Role.owns) hp q
    simp only [places, Phase.current_drop, Phase.hold_drop]
    omega
  | keep p hp | borrow p hp =>
    left
    simp [places, Role.owns, Store.ref]
  | takeLast p q' hp =>
    left
    simp [places, Role.owns]
  | bump drain p h =>
    left
    rename_i k s
    have := (show Store.Shrinks s.store (s.store.dpbBump drain).2 from Store.shrinks_dpbBump).picList.count_le q
    simp only [places, Phase.hold_take, Phase.current_take, weigh_cons, Role.owns, Decoder.mapStore_store,
      Decoder.mapStore_lastField]
    omega
  | deleteUnused =>
    left
    rename_i k s
    have := (Store.shrinks_dpbDeleteUnused (s := s.store)).picList.count_le q
    simp only [places, Decoder.mapStore_store, Decoder.mapStore_lastField]
    omega
  | dpbClear h =>
    left
    rename_i k s
    have := (Store.shrinks_dpbClear (s := s.store)).picList.count_le q
    simp only [places, Decoder.mapStore_store, Decoder.mapStore_lastField]
    omega
  | beginMarking q' hq | endMarking q' hq | skipMarking q' hq | settle q' hq | splitPair p q' hp hr hq =>
    exact .inl (places_turn _ q hq (by decide) rfl rfl)
  | doom p hp | direct p hp => exact .inl (places_turn _ q hp (Nat.zero_le _) rfl rfl)
  | display p vkpic frame hp hv hf =>
    left
    rename_i k s
    have := places_turn (t := s) (s := s) .loose q hp (by decide) rfl rfl
    simpa [places, Decoder.displayPicture, Role.owns] using this
  | adopt p hp hk =>
    left
    have := weigh_erase (w := Role.owns) hp q
    simp [places, hk, Current.place, Role.owns] at this ⊢
    omega
  | add p hp hr =>
    left
    have := weigh_erase (w := Role.owns) hp q
    simp [places, Store.dpbAdd_picList, hr.owns, List.count_singleton, isAt] at this ⊢
    omega
  | addLast p q' hp hr hl =>
    left
    simp [places, Store.dpbAdd_picList, hl, List.count_singleton, isAt, Nat.add_right_comm]
  | cache p hp hf hs hl =>
    left
    have := weigh_erase (w := Role.owns) hp q
    simp [places, hl, Role.owns, ← this]
    omega
  | _ => exact .inl le_rfl

-- a picture that the decoder can reach
def known (x : Phase × Decoder P) (q : PicId) : Prop := 0 < places x q ∨ ∃ r, (r, q) ∈ x.1.hold

lemma places_of_mem {q : PicId} (h : q ∈ x.2.store.dpb.picList) : 0 < places x q := by
  have := List.count_pos_iff.mpr h
  unfold places
  omega

lemma places_of_lastField {q : PicId} (h : x.2.lastField = some q) : 0 < places x q := by
  unfold places
  rw [h, slot_some, isAt_self]
  omega

lemma prevField_known {q : PicId} (h : prevField s = some q) : 0 < places (k, s) q := by
  unfold prevField at h
  split at h
  · cases hl : s.lastField with
    | some p =>
      rw [hl] at h
      exact places_of_lastField (hl.trans h)
    | none =>
      rw [hl] at h
      cases hg : s.store.dpb.picList.getLast? with
      | none =>
        rw [hg] at h
        cases h
      | some p =>
        rw [hg] at h
        simp only at h
        split at h
        · cases h
          exact places_of_mem (List.mem_of_getLast? hg)
        · cases h
  · cases h

lemma prevField_mem {q : PicId} (h : prevField s = some q) :
    s.lastField = some q ∨
      (q ∈ s.store.dpb.picList ∧ (s.pic q).isFrame = false ∧ (s.pic q).otherField = none) := by
  unfold prevField at h
  split at h
  · split at h
    · rename_i hl
      exact .inl (hl.trans h)
    · split at h
      · rename_i hg
        split at h
        · rename_i hf
          cases h
          exact .inr ⟨List.mem_of_getLast? hg, by simpa using hf⟩
        · cases h
      · cases h
  · cases h

lemma BeginsPair.not_frame {q : PicId} (h : BeginsPair s q) : sliceField s.currentSlice.header ≠ .frame := by
  rw [sliceField, if_pos h.fieldPic]
  split <;> simp

lemma Act.held (h : Act env x y) {r : Role} {q : PicId} (hq : (r, q) ∈ y.1.hold) :
    known x q ∨ (q = x.2.store.next ∧ y.2.store.next = q + 1) := by
  cases h with
  | new r' hr =>
    simp only [Phase.hold_take, List.mem_cons, Prod.mk.injEq] at hq
    rcases hq with ⟨-, rfl⟩ | hq
    · exact .inr ⟨rfl, rfl⟩
    · exact .inl (.inr ⟨_, hq⟩)
  | bump drain p h =>
    simp only [Phase.hold_take, List.mem_cons, Prod.mk.injEq] at hq
    rcases hq with ⟨-, rfl⟩ | hq
    · obtain ⟨i, hi⟩ := Store.bump_eq_some h
      exact .inl (.inl (places_of_mem (List.mem_of_getElem? (Store.lowest_spec hi).1)))
    · exact .inl (.inr ⟨_, hq⟩)
  | borrow p hp =>
    simp only [Phase.hold_take, List.mem_cons, Prod.mk.injEq] at hq
    rcases hq with ⟨-, rfl⟩ | hq
    · exact .inl (.inl (prevField_known hp))
    · exact .inl (.inr ⟨_, hq⟩)
  | takeLast p q' hp hs hpq hl =>
    simp only [Phase.hold_take, List.mem_cons, Prod.mk.injEq] at hq
    rcases hq with ⟨-, rfl⟩ | hq
    · exact .inl (.inl (places_of_lastField hl))
    · exact .inl (.inr ⟨_, hq⟩)
  | endPicture p vkpic hk =>
    simp only [Phase.setCurrent, Phase.take, List.mem_cons, Prod.mk.injEq] at hq
    rcases hq with ⟨-, rfl⟩ | hq
    · exact .inl (.inl (by simp [places, hk, Current.place]))
    · exact .inl (.inr ⟨_, hq⟩)
  | keep p hp =>
    simp only [Phase.hold_take, List.mem_cons, Prod.mk.injEq] at hq
    rcases hq with ⟨-, rfl⟩ | hq
    · exact .inl (.inr ⟨_, hp⟩)
    · exact .inl (.inr ⟨_, hq⟩)
  | beginMarking q' hp | endMarking q' hp | skipMarking q' hp | settle q' hp | doom q' hp
  | direct q' hp | splitPair p q' hp' hr hp =>
    simp only [Phase.hold_setDone, Phase.hold_turn, List.mem_cons, Prod.mk.injEq] at hq
    rcases hq with ⟨-, rfl⟩ | hq
    · exact .inl (.inr ⟨_, hp⟩)
    · exact .inl (.inr ⟨_, List.mem_of_mem_erase hq⟩)
  | display p vkpic frame hp =>
    simp only [Phase.hold_take, Phase.hold_turn, List.mem_cons, Prod.mk.injEq] at hq
    rcases hq with ⟨-, rfl⟩ | ⟨-, rfl⟩ | hq
    · exact .inl (.inr ⟨_, hp⟩)
    · exact .inl (.inr ⟨_, hp⟩)
    · exact .inl (.inr ⟨_, List.mem_of_mem_erase hq⟩)
  | finishFrame p flow hp | forgetShown p hp | unref p hp | leak p hp | adopt p hp | add p hp | cache p hp =>
    exact .inl (.inr ⟨_, List.mem_of_mem_erase hq⟩)
  | _ => exact .inl (.inr ⟨_, hq⟩)

lemma Act.next_le (h : Act env x y) : x.2.store.next ≤ y.2.store.next := by
  cases h with
  | new r hr => exact Nat.le_succ _
  | book h => exact le_of_eq h.next.symm
  | number h | mark p hp hk h => exact le_of_eq h.next.symm
  | unref p hp | unrefCurrent p hk | unrefLast p hk => exact le_of_eq (Store.sameShape_unref _ _).next.symm
  | bump drain p h => exact le_of_eq Store.shrinks_dpbBump.next.symm
  | deleteUnused => exact le_of_eq Store.shrinks_dpbDeleteUnused.next.symm
  | dpbClear h => exact le_of_eq Store.shrinks_dpbClear.next.symm
  | add p hp hr | addLast p q hp hr => exact le_of_eq (Store.adds_dpbAdd _ _).next.symm
  | alloc p hp =>
    refine le_of_eq ?_
    unfold Decoder.allocPicture
    simp only
    split <;> rfl
  | _ => exact le_rfl

/-- How a picture that stays on its way to the DPB goes from hand to hand. -/
inductive Role.Turns : Role → Role → Prop
  | begin : Turns .ended .marking
  | skip : Turns .ended .marked
  | finish : Turns .marking .marked
  | settle : Turns .marked .settled
  | split : Turns .fresh .half

lemma Act.hold_of (h : Act env x y) {r : Role} {q : PicId} (hm : (r, q) ∈ y.1.hold) : (r, q) ∈ x.1.hold ∨
    ((r = .fresh ∨ r = .gap) ∧ q = x.2.store.next ∧ y.2.pic q = { refcount := 1 }) ∨
    (r = .ended ∧ x.1.current = .decoding q) ∨ (∃ r' : Role, r'.Turns r ∧ (r', q) ∈ x.1.hold) ∨ r.owns = 0 := by
  have hturn : ∀ {r' r'' : Role} {p : PicId}, (r', p) ∈ x.1.hold → r'.Turns r'' ∨ r''.owns = 0 →
      (r, q) ∈ (r'', p) :: x.1.hold.erase (r', p) →
      (r, q) ∈ x.1.hold ∨ (∃ r' : Role, r'.Turns r ∧ (r', q) ∈ x.1.hold) ∨ r.owns = 0 := fun hp ht hm => by
    rcases List.mem_cons.mp hm with he | hm
    · cases he
      exact .inr (ht.imp_left fun ht => ⟨_, ht, hp⟩)
    · exact .inl (List.mem_of_mem_erase hm)
  have htake : ∀ {r' : Role} {p : PicId}, r'.owns = 0 → (r, q) ∈ (r', p) :: x.1.hold →
      (r, q) ∈ x.1.hold ∨ r.owns = 0 := fun hr hm => by
    rcases List.mem_cons.mp hm with he | hm
    · cases he
      exact .inr hr
    · exact .inl hm
  cases h with
  | new r' hr =>
    rcases List.mem_cons.mp hm with he | hm
    · cases he
      exact .inr (.inl ⟨hr, rfl, by simp [Decoder.pic, Store.pictureNew]⟩)
    · exact .inl hm
  | endPicture p vkpic hk =>
    rcases List.mem_cons.mp hm with he | hm
    · cases he
      exact .inr (.inr (.inl ⟨rfl, hk⟩))
    · exact .inl hm
  | beginMarking p hp => exact (hturn hp (.inl .begin) hm).imp_right fun h => .inr (.inr h)
  | endMarking p hp => exact (hturn hp (.inl .finish) hm).imp_right fun h => .inr (.inr h)
  | skipMarking p hp => exact (hturn hp (.inl .skip) hm).imp_right fun h => .inr (.inr h)
  | settle p hp => exact (hturn hp (.inl .settle) hm).imp_right fun h => .inr (.inr h)
  | splitPair p p' hp hr hp' => exact (hturn hp' (.inl .split) hm).imp_right fun h => .inr (.inr h)
  | doom p hp | direct p hp => exact (hturn hp (.inr rfl) hm).imp_right fun h => .inr (.inr h)
  | display p vkpic frame hp =>
    rcases List.mem_cons.mp hm with he | hm
    · cases he
      exact .inr (.inr (.inr (.inr rfl)))
    · exact (hturn hp (.inr rfl) hm).imp_right fun h => .inr (.inr h)
  | bump | borrow | takeLast | keep => exact (htake rfl hm).imp_right fun h => .inr (.inr (.inr h))
  | finishFrame | forgetShown | unref | leak | adopt | add | cache => exact .inl (List.mem_of_mem_erase hm)
  | _ => exact .inl hm

lemma Act.place_of (h : Act env x y) {q : PicId} (hc : y.1.current.place = some q) :
    x.1.current.place = some q ∨ (.fresh, q) ∈ x.1.hold := by
  cases h with
  | adopt p hp =>
    cases hc
    exact .inr hp
  | fill p slice hk | clear p slice hk | losePicture p slice hk =>
    cases hc
    exact .inl (by rw [hk]; rfl)
  | start p slice vkpic hk =>
    cases hc
    exact .inl (by rcases hk with hk | hk <;> rw [hk] <;> rfl)
  | endPicture | unrefCurrent | forgetCurrent => cases hc
  | _ => exact .inl hc

/-- Every picture has at most one place, and none that is not made yet. -/
structure Placed (x : Phase × Decoder P) : Prop where
  once : ∀ q, places x q ≤ 1
  below : ∀ q, known x q → q < x.2.store.next

lemma Act.placed (h : Act env x y) (hx : Placed x) : Placed y := by
  refine ⟨fun q => ?_, fun q hq => ?_⟩
  · rcases h.places_le q with hle | ⟨rfl, -, hle⟩
    · exact hle.trans (hx.once q)
    · have h0 : ¬0 < places x x.2.store.next := fun h =>
        absurd (hx.below _ (.inl h)) (lt_irrefl _)
      omega
  · have hn := h.next_le
    rcases hq with hq | ⟨r, hq⟩
    · rcases h.places_le q with hle | ⟨-, hnext, -⟩
      · exact (hx.below q (.inl (hq.trans_le hle))).trans_le hn
      · exact hnext ▸ Nat.lt_succ_self q
    · rcases h.held hq with hk | ⟨-, hnext⟩
      · exact (hx.below q hk).trans_le hn
      · exact hnext ▸ Nat.lt_succ_self q

lemma Placed.reach (h : ReflTransGen (Act env) x y) (hx : Placed x) : Placed y := 
  kept (fun _ _ h => h.placed) h hx

lemma Placed.nodup (hx : Placed x) : x.2.store.dpb.picList.Nodup := by
  refine List.nodup_iff_count_le_one.mpr fun q => ?_
  have := hx.once q
  unfold places at this
  omega

lemma placed_start : Placed (({} : Phase), Decoder.start env) :=
  ⟨fun _ => Nat.zero_le _, fun q hq => by
    rcases hq with hq | ⟨r, hq⟩
    · exact absurd hq (lt_irrefl 0)
    · cases hq⟩

end VkVideoParser.H264
