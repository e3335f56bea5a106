import VkVideoParser.H264.Buffers
import VkVideoParser.H264.Counts

/-! The references of every picture are accounted for, so its buffer is released once. -/

namespace VkVideoParser.H264

open Execution Relation Counting

variable {P : Type} {env : Env P} {k k' : Phase} {s t : Decoder P} {x y : Phase × Decoder P}
  {log : List Event} {q : PicId}

/-- The references that a role stands for. -/
def Role.refs : Role → Nat
  | .shown => 0
  | _ => 1

/-- The references of a picture outside the DPB. -/
def claims (x : Phase × Decoder P) (q : PicId) : Nat :=
  slot x.2.lastField q + slot x.1.current.place q + weigh Role.refs x.1.hold q

/-- The references of a picture that nothing accounts for. -/
def excess (x : Phase × Decoder P) (q : PicId) : Int := x.2.store.surplus q - claims x q

/-- DecodePicture returned false for the picture. -/
def decodeFailed (log : List Event) (q : PicId) : Prop :=
  ∃ data sps pps, Event.decodePicture q data sps pps false ∈ log

/-- A picture out of reach: one without a buffer, or one whose decoding failed. -/
def Leaked (x : Phase × Decoder P) (q : PicId) : Prop :=
  q < x.2.store.next ∧
    (((x.2.pic q).userData = none ∧ places x q = 0) ∨ decodeFailed (calls x.2.store.log) q)

lemma claims_of_current (h : x.1.current.place = some q) : 0 < claims x q := by
  rw [claims, h, slot_some, isAt_self]
  omega

lemma claims_of_lastField (h : x.2.lastField = some q) : 0 < claims x q := by
  rw [claims, h, slot_some, isAt_self]
  omega

lemma claims_of_hold {r : Role} (h : (r, q) ∈ x.1.hold) (hr : r.refs = 1) : 0 < claims x q := by
  have := le_weigh (w := Role.refs) h
  unfold claims
  omega

lemma excess_congr (hs : y.2.store.surplus q = x.2.store.surplus q) (hl : y.2.lastField = x.2.lastField)
    (hc : y.1.current.place = x.1.current.place) (hh : y.1.hold = x.1.hold) : excess y q = excess x q := by
  simp only [excess, claims, hs, hl, hc, hh]

lemma excess_turn {r : Role} {p : PicId} (r' : Role) (q : PicId) (hp : (r, p) ∈ k.hold) (hr : r'.refs = r.refs)
    (hs : t.store.surplus q = s.store.surplus q) (hl : t.lastField = s.lastField) :
    excess (k.turn r r' p, t) q = excess (k, s) q := by
  have := weigh_turn (w := Role.refs) hp r' q
  rw [hr] at this
  simp only [excess, claims, Phase.current_turn, hs, hl]
  omega

-- a picture that is taken over has a reference more, one that is dropped a reference less
lemma excess_setDone (done : List GstH264RefPicMarking) (q : PicId) : excess (k.setDone done, s) q = excess (k, s) q := rfl

lemma excess_take {r : Role} {p : PicId} (hs : t.store.surplus q = s.store.surplus q + (r.refs * isAt p q : Nat))
    (hl : t.lastField = s.lastField) : excess (k.take r p, t) q = excess (k, s) q := by
  simp only [excess, claims, Phase.current_take, Phase.hold_take, weigh_cons, hs, hl]
  omega

lemma excess_drop {r : Role} {p : PicId} (hp : (r, p) ∈ k.hold)
    (hs : t.store.surplus q + (r.refs * isAt p q : Nat) = s.store.surplus q) (hl : t.lastField = s.lastField) :
    excess (k.drop r p, t) q = excess (k, s) q := by
  have := weigh_erase (w := Role.refs) hp q
  simp only [excess, claims, Phase.current_drop, Phase.hold_drop, hl]
  omega

/-- How a move can lose a reference. -/
inductive Loses (x y : Phase × Decoder P) (q : PicId) : Prop
  | gap (hp : (.gap, q) ∈ x.1.hold) (hy : y = (x.1.drop .gap q, x.2))
  | lost (hc : x.1.current = .lost q) (hs : y.2.store = x.2.store) (hh : y.1.hold = x.1.hold)

lemma surplus_setVkPic (p q : PicId) (vkpic : VkPic) (s : Decoder P) :
    (setVkPic p vkpic s).store.surplus q = s.store.surplus q :=
  Store.surplus_modifyPic (f := fun x => { x with userData := some vkpic }) (by intro _; rfl) p q s.store

lemma SameRoles.surplus {a b : Store} (h : SameRoles a b) (q : PicId) : b.surplus q = a.surplus q :=
  Store.surplus_congr (h.role q).refcount (congrArg Dpb.picList h.dpb)

lemma Act.excess_eq (h : Act env x y) (hx : ∀ q, 0 ≤ excess x q)
    (hn : (x.2.pic x.2.store.next).refcount = 0) (q : PicId) :
    excess y q = excess x q ∨ (excess y q = excess x q + 1 ∧ Loses x y q) := by
  have hcov : ∀ q, claims x q ≤ x.2.store.surplus q := fun q => by
    have := hx q
    unfold excess at this
    omega
  have hcovered : x.2.store.Covered := fun q => (Int.natCast_nonneg _).trans (hcov q)
  -- a picture with a claim has a reference
  have hpos : ∀ p, 0 < claims x p → (x.2.store.pic p).refcount ≠ 0 := fun p hp => by
    have := hcov p
    unfold Store.surplus at this
    omega
  cases h with
  | new r hr =>
    left
    rename_i k s
    have hw : r.refs = 1 := by rcases hr with rfl | rfl <;> rfl
    have h0 : (s.store.pic s.store.next).refcount = 0 := hn
    by_cases hq : s.store.next = q
    · subst hq
      simp [excess, claims, Store.surplus, Store.pictureNew, hw, h0]
      omega
    · simp [excess, claims, Store.surplus, Store.pictureNew, isAt_of_ne hq, Ne.symm hq]
  | book h => exact .inl (excess_congr (Store.surplus_congr (by rw [h.pic]) h.picList) h.lastField rfl rfl)
  | number h | mark p hp hk h => exact .inl (excess_congr (h.surplus q) rfl rfl rfl)
  | alloc p hp hv =>
    left
    rename_i k s
    cases hr : env.allocPictureBuffer s.store.log with
    | none =>
      rw [allocPicture_none p hr]
      rfl
    | some pic =>
      rw [allocPicture_some p hr]
      exact excess_congr (surplus_setVkPic p q _ _) rfl rfl rfl
  | edit p hp hf | editLost p hp hf =>
    exact .inl (excess_congr (Store.surplus_modifyPic hf.refcount p q _) rfl rfl rfl)
  | linkSecond p p' hp =>
    exact .inl (excess_congr (Store.surplus_modifyPic (f := linkSecondField p) (by intro _; rfl) p' q _) rfl rfl rfl)
  | link p p' hp =>
    exact .inl (excess_congr (Store.surplus_modifyPic (f := linkField p) (by intro _; rfl) p' q _) rfl rfl rfl)
  | splitPair p p' hp hr hq hf hi hsec hgap hidx hshown =>
    rename_i k s r
    refine .inl (excess_turn _ q hq rfl (Store.surplus_congr ?_ rfl) rfl)
    exact splitPair_keeps (g := Picture.refcount) (by intros; rfl) refcount_splitFirst (by intros; rfl) p p' s q
  | borrow p hp | keep p hp =>
    refine .inl (excess_take ?_ rfl)
    rw [Decoder.mapStore_store, Store.surplus_ref]
    simp [Role.refs]
  | unref p hp hr hsec =>
    rename_i k s r
    have hrefs : r.refs = 1 := by rcases hr with rfl | rfl | rfl | rfl <;> rfl
    refine .inl (excess_drop hp ?_ rfl)
    rw [hrefs, Nat.one_mul]
    exact Store.surplus_unref (hpos p (claims_of_hold hp hrefs)) q
  | leak p hp =>
    have h₂ := weigh_erase (w := Role.refs) hp q
    by_cases hq : p = q
    · subst hq
      refine .inr ⟨?_, .gap hp rfl⟩
      simp only [excess, claims, Phase.current_drop, Phase.hold_drop, isAt_self, Role.refs] at h₂ ⊢
      omega
    · left
      simp only [excess, claims, Phase.current_drop, Phase.hold_drop, isAt_of_ne hq] at h₂ ⊢
      omega
  | adopt p hp hk =>
    left
    have h₂ := weigh_erase (w := Role.refs) hp q
    simp only [excess, claims, Decoder.setCurrentPicture_store, Decoder.setCurrentPicture_lastField,
      Phase.current_setCurrent, Phase.hold_setCurrent, Phase.hold_drop, hk, Current.place, slot_none, slot_some,
      Role.refs] at h₂ ⊢
    omega
  | fill p slice hk | clear p slice hk =>
    refine .inl (excess_congr rfl rfl ?_ rfl)
    rw [hk]
    rfl
  | start p slice vkpic hk =>
    refine .inl (excess_congr (surplus_setVkPic p q _ _) rfl ?_ rfl)
    rcases hk with hk | hk <;> rw [hk] <;> rfl
  | slice p slice vkpic hk => exact .inl (excess_congr (surplus_setVkPic p q _ _) rfl rfl rfl)
  | losePicture p vkpic hk =>
    refine .inl (excess_congr (surplus_setVkPic p q _ _) rfl ?_ rfl)
    rw [hk]
    rfl
  | endPicture p vkpic hk =>
    left
    rename_i s _ _
    have h₁ := surplus_setVkPic p q (stealBitstream vkpic) s
    have h₂ : (s.endPicture env p vkpic).store.surplus q = (setVkPic p (stealBitstream vkpic) s).store.surplus q := rfl
    have h₃ : (s.endPicture env p vkpic).lastField = s.lastField := rfl
    simp only [excess, claims, Phase.current_setCurrent, Phase.hold_setCurrent, Phase.hold_take, hk, h₂, h₃,
      Current.place, slot_none, slot_some, weigh_cons, Role.refs]
    omega
  | unrefCurrent p hk =>
    left
    have h₁ := Store.surplus_unref (hpos p (claims_of_current hk.place)) q
    have hnone : Current.none.place = none := rfl
    simp only [excess, claims, Decoder.setCurrentPicture_store, Decoder.setCurrentPicture_lastField,
      Decoder.mapStore_store, Decoder.mapStore_lastField, Phase.current_setCurrent, Phase.hold_setCurrent, hk.place,
      hnone, slot_none, slot_some] at h₁ ⊢
    omega
  | forgetCurrent hk =>
    rename_i k s
    have hs : (s.setCurrentPicture none).store.surplus q = s.store.surplus q := rfl
    have hl : (s.setCurrentPicture none).lastField = s.lastField := rfl
    rcases hk with hk | ⟨p, hk | hk⟩
    · exact .inl (excess_congr hs hl (by rw [hk]; rfl) rfl)
    · exact .inl (excess_congr hs hl (by rw [hk]; rfl) rfl)
    · by_cases hq : p = q
      · subst hq
        refine .inr ⟨?_, .lost hk rfl rfl⟩
        simp only [excess, claims, hs, hl, hk, Phase.current_setCurrent, Phase.hold_setCurrent, Current.place,
          slot_none, slot_some, isAt_self]
        omega
      · left
        simp only [excess, claims, hs, hl, hk, Phase.current_setCurrent, Phase.hold_setCurrent, Current.place,
          slot_none, slot_some, isAt_of_ne hq]
  | beginMarking q' hq | endMarking q' hq => exact .inl ((excess_setDone _ q).trans (excess_turn _ q hq rfl rfl rfl))
  | skipMarking q' hq | settle q' hq => exact .inl (excess_turn _ q hq rfl rfl rfl)
  | direct p hp => exact .inl (excess_turn _ q hp rfl rfl rfl)
  | doom p hp hd =>
    refine .inl (excess_turn _ q hp ?_ rfl rfl)
    cases hd <;> rfl
  | display p vkpic frame hp hv hf =>
    left
    rename_i k s
    rw [← excess_turn (t := s.displayPicture env p vkpic frame) (s := s) .loose q hp rfl rfl rfl]
    simp [excess, claims, Role.refs]
  | finishFrame p flow hp | forgetShown p hp =>
    refine .inl (excess_drop hp ?_ rfl)
    simp [Role.refs]
  | deleteUnused =>
    exact .inl (excess_congr (Store.surplus_dpbDeleteUnused hcovered q) rfl rfl rfl)
  | dpbClear h => exact .inl (excess_congr (Store.surplus_dpbClear hcovered q) rfl rfl rfl)
  | bump drain p h =>
    refine .inl (excess_take ?_ rfl)
    rw [Decoder.mapStore_store, Store.surplus_dpbBump h hcovered q]
    simp [Role.refs]
  | unrefLast p hl =>
    left
    have h₁ := Store.surplus_unref (hpos p (claims_of_lastField hl)) q
    simp only [excess, claims, Decoder.setLastField_store, Decoder.setLastField_lastField,
      Decoder.mapStore_store, hl, slot_none, slot_some] at h₁ ⊢
    omega
  | add p hp hr hroom hlast hhalf hfirst hframes hmissing =>
    left
    rename_i k s r
    have hrefs : r.refs = 1 := by rcases hr with rfl | rfl | rfl <;> rfl
    refine excess_drop hp ?_ rfl
    rw [hrefs, Nat.one_mul]
    exact Store.surplus_addPicture p q s.store
  | addLast p p' hp hr hl hpq hi hroom =>
    left
    rename_i k s r
    have h₁ := Store.surplus_addPicture p' q s.store
    simp only [excess, claims, Decoder.setLastField_store, Decoder.setLastField_lastField,
      Decoder.mapStore_store, hl, slot_none, slot_some]
    omega
  | cache p hp hf hs hl =>
    left
    have h₂ := weigh_erase (w := Role.refs) hp q
    simp only [excess, claims, Decoder.setLastField_store, Decoder.setLastField_lastField, hl, slot_none,
      slot_some, Phase.current_drop, Phase.hold_drop, Role.refs] at h₂ ⊢
    omega
  | takeLast p p' hp hs hpq hl =>
    left
    simp only [excess, claims, Decoder.setLastField_store, Decoder.setLastField_lastField, hl, slot_none,
      slot_some, Phase.current_take, Phase.hold_take, weigh_cons, Role.refs]
    omega
  | removeFrame h => cases h <;> exact .inl rfl
  | _ => exact .inl rfl

/-- Every reference is accounted for but those of pictures out of reach. -/
structure Balanced (x : Phase × Decoder P) : Prop where
  covered : ∀ q, 0 ≤ excess x q
  exact : ∀ q, excess x q = 0 ∨ Leaked x q
  lost : ∀ q, x.1.current = .lost q → decodeFailed (calls x.2.store.log) q
  failed : ∀ q, decodeFailed (calls x.2.store.log) q → x.1.current = .lost q ∨ 0 < excess x q
  gap : ∀ q, (.gap, q) ∈ x.1.hold → (x.2.pic q).userData = none
  settled : x.2.store.Settled

lemma Balanced.claimed (hx : Balanced x) (h : 0 < claims x q) : (x.2.store.pic q).refcount ≠ 0 := by
  have := hx.covered q
  unfold excess Store.surplus at this
  omega

lemma Balanced.stands (hx : Balanced x) (h : 0 < places x q) : (x.2.store.pic q).refcount ≠ 0 := by
  have hw : weigh Role.owns x.1.hold q ≤ weigh Role.refs x.1.hold q := weigh_mono fun r => by cases r <;> decide
  have := hx.covered q
  unfold excess Store.surplus claims at this
  unfold places at h
  omega

lemma Balanced.coveredStore (hx : Balanced x) : x.2.store.Covered := fun q => by
  have := hx.covered q
  unfold excess at this
  omega

lemma Placed.claims_next (hp : Placed x) : claims x x.2.store.next = 0 ∧ x.2.store.dpb.picList.count x.2.store.next = 0 := by
  have hk : ¬known x x.2.store.next := fun h => lt_irrefl _ (hp.below _ h)
  simp only [known, not_or, Nat.not_lt, Nat.le_zero, places, not_exists] at hk
  have hw : weigh Role.refs x.1.hold x.2.store.next = 0 := by
    by_contra hne
    obtain ⟨r, hr, -⟩ := exists_of_weigh_ne hne
    exact hk.2 r hr
  unfold claims
  omega

lemma Balanced.next_refcount (hx : Balanced x) (hp : Placed x) : (x.2.pic x.2.store.next).refcount = 0 := by
  obtain ⟨h₁, h₂⟩ := hp.claims_next
  rcases hx.exact x.2.store.next with h | ⟨h, -⟩
  · unfold excess Store.surplus at h
    have : (x.2.pic x.2.store.next).refcount = (x.2.store.pic x.2.store.next).refcount := rfl
    omega
  · exact absurd h (lt_irrefl _)

lemma decodeFailed.mono {log' : List Event} (h : decodeFailed log q) (hl : log ⊆ log') : decodeFailed log' q := by
  obtain ⟨data, sps, pps, he⟩ := h
  exact ⟨data, sps, pps, hl he⟩

lemma Act.gap (h : Act env x y) (hq : (.gap, q) ∈ y.1.hold) :
    (.gap, q) ∈ x.1.hold ∨ (y.2.pic q).userData = none := by
  cases h with
  | new r hr =>
    simp only [Phase.hold_take, List.mem_cons, Prod.mk.injEq] at hq
    rcases hq with ⟨-, rfl⟩ | hq
    · exact .inr (by simp [Decoder.pic, Store.pictureNew])
    · exact .inl hq
  | endPicture p vkpic hk =>
    simp only [Phase.setCurrent, Phase.take, List.mem_cons, Prod.mk.injEq] at hq
    rcases hq with ⟨hq, -⟩ | hq
    · cases hq
    · exact .inl hq
  | bump | borrow | takeLast | keep =>
    simp only [Phase.hold_take, List.mem_cons, Prod.mk.injEq] at hq
    rcases hq with ⟨hq, -⟩ | hq
    · cases hq
    · exact .inl hq
  | splitPair | beginMarking | endMarking | skipMarking | settle | doom | direct =>
    simp only [Phase.hold_setDone, Phase.hold_turn, List.mem_cons, Prod.mk.injEq] at hq
    rcases hq with ⟨hq, -⟩ | hq
    · cases hq
    · exact .inl (List.mem_of_mem_erase hq)
  | display =>
    simp only [Phase.hold_take, Phase.hold_turn, List.mem_cons, Prod.mk.injEq] at hq
    rcases hq with ⟨hq, -⟩ | ⟨hq, -⟩ | hq
    · cases hq
    · cases hq
    · exact .inl (List.mem_of_mem_erase hq)
  | finishFrame | forgetShown | unref | leak | adopt | add | cache => exact .inl (List.mem_of_mem_erase hq)
  | _ => exact .inl hq

-- a lost picture is forgotten in the end
lemma Act.lost (h : Act env x y) (hc : x.1.current = .lost q) :
    y.1.current = .lost q ∨ excess y q = excess x q + 1 := by
  cases h with
  | forgetCurrent hk =>
    right
    rename_i k s
    have hl : Current.place (.lost q) = some q := rfl
    have hnone : Current.none.place = none := rfl
    have hc : k.current = .lost q := hc
    simp only [excess, claims, hc, Decoder.setCurrentPicture_store, Decoder.setCurrentPicture_lastField,
      Phase.current_setCurrent, Phase.hold_setCurrent, hl, hnone, slot_none, slot_some, isAt_self]
    omega
  | adopt p hp hk => cases hk.symm.trans hc
  | fill p slice hk | clear p slice hk | endPicture p slice hk | losePicture p slice hk => cases hk.symm.trans hc
  | start p slice vkpic hk => rcases hk with hk | hk <;> cases hk.symm.trans hc
  | unrefCurrent p hk =>
    rw [hc] at hk
    rcases hk with ⟨_, hk⟩ | ⟨_, hk | hk⟩ | hk <;> cases hk
  | _ => exact .inl hc

lemma Act.becomesLost (h : Act env x y) (hc : y.1.current = .lost q) :
    x.1.current = .lost q ∨ decodeFailed (calls y.2.store.log) q := by
  cases h with
  | losePicture p vkpic hk hv hok =>
    rename_i k s
    cases hc
    refine .inr ⟨(stealBitstream vkpic).data, s.stdSps vkpic, s.stdPps vkpic, ?_⟩
    rw [← hok]
    exact List.mem_cons_self ..
  | adopt | fill | clear | start | endPicture | unrefCurrent | forgetCurrent => cases hc
  | _ => exact .inl hc

lemma Act.decodeFailed (h : Act env x y) (hf : H264.decodeFailed (calls y.2.store.log) q) :
    H264.decodeFailed (calls x.2.store.log) q ∨ y.1.current = .lost q := by
  obtain ⟨data, sps, pps, he⟩ := hf
  rcases h.speaks with h | h
  · rw [h.calls] at he
    exact .inl ⟨data, sps, pps, he⟩
  · cases h with
    | endPicture p vkpic hk hv hk' =>
      rcases List.mem_cons.mp he with he | he
      · simp only [Event.decodePicture.injEq] at he
        obtain ⟨rfl, -, -, -, hok⟩ := he
        rcases hk' with ⟨-, hr⟩ | ⟨hk', -⟩
        · rw [hr] at hok
          cases hok
        · exact .inr hk'
      · exact .inl ⟨data, sps, pps, he⟩
    | alloc p hp hv =>
      rename_i k s
      cases hr : env.allocPictureBuffer s.store.log with
      | none =>
        rw [allocPicture_none p hr] at he
        rcases List.mem_cons.mp he with he | he
        · cases he
        · exact .inl ⟨data, sps, pps, he⟩
      | some pic =>
        rw [allocPicture_some p hr] at he
        rcases List.mem_cons.mp he with he | he
        · cases he
        · exact .inl ⟨data, sps, pps, he⟩
    | configure | rejectSps => exact .inl ⟨data, sps, pps, he⟩
    | _ =>
      rcases List.mem_cons.mp he with he | he
      · cases he
      · exact .inl ⟨data, sps, pps, he⟩

lemma Act.leaked (h : Act env x y) (hq : Leaked x q) : Leaked y q := by
  obtain ⟨hlt, hq⟩ := hq
  refine ⟨hlt.trans_le h.next_le, ?_⟩
  rcases hq with ⟨hu, h0⟩ | hq
  · refine .inl ⟨h.userData_none hu fun hm => ?_, ?_⟩
    · have := le_weigh (w := Role.owns) hm
      simp only [places, Role.owns] at h0 this
      omega
    · rcases h.places_le q with hle | ⟨rfl, -⟩
      · omega
      · exact absurd hlt (lt_irrefl _)
  · exact .inr (hq.mono h.calls_subset)

lemma settled_setVkPic {vkpic vkpic' : VkPic} {p : PicId} (hs : s.store.Settled) (hv : (s.pic p).userData = some vkpic)
    (hp : vkpic'.pic = vkpic.pic) : (setVkPic p vkpic' s).store.Settled := by
  refine hs.congr (fun q => ?_) fun _ => rfl
  have hb := bufferOf_setVkPic hv hp q
  have hr : ((setVkPic p vkpic' s).store.pic q).refcount = (s.store.pic q).refcount := by
    rw [setVkPic, Decoder.modifyPic_store, Store.modifyPic_pic]
    split
    · rename_i hq
      rw [hq]
    · rfl
  unfold Store.freed
  rw [hr]
  exact if_congr Iff.rfl hb rfl

lemma settled_emit {e : Event} {st : Store} (hs : st.Settled) (he : ∀ q, e.released q = none) : (st.emit e).Settled :=
  hs.congr (fun _ => rfl) fun q => List.filterMap_cons_none (he q)

lemma Act.settled (h : Act env x y) (hx : Balanced x) (hp : Placed x) (hb : Buffers x) : y.2.store.Settled := by
  have hs := hx.settled
  cases h with
  | updateSps | updatePps | parserUpdateSps | beginSequence | unhandledNALU | rememberRef | rememberPicture | showOrderCount | showBumping | flush
  | finishFrame | display =>
    exact settled_emit hs fun _ => rfl
  | removeFrame h => cases h <;> exact settled_emit hs fun _ => rfl
  | book h =>
    refine hs.congr (fun q => ?_) fun q => by rw [h.log]
    exact Store.freed_congr (by rw [h.pic]) (by rw [h.pic])
  | number h | mark p hp hk h =>
    refine hs.congr (fun q => ?_) fun q => congrArg (releases · q) h.log
    exact Store.freed_congr (h.role q).refcount (h.role q).userData
  | new r hr =>
    rename_i k s
    refine hs.congr (fun q => ?_) fun _ => rfl
    by_cases hq : q = s.store.next
    · subst hq
      have hu : (s.store.pic s.store.next).userData = none := hb.fresh _ le_rfl
      simp [Store.freed, Store.pictureNew, hu]
    · exact Store.freed_congr (by simp [Store.pictureNew, hq]) (by simp [Store.pictureNew, hq])
  | alloc p hm hv =>
    rename_i k s
    have hr : (s.store.pic p).refcount ≠ 0 := hx.claimed (claims_of_hold hm rfl)
    cases ha : env.allocPictureBuffer s.store.log with
    | none =>
      rw [allocPicture_none p ha]
      exact settled_emit hs fun _ => rfl
    | some pic =>
      rw [allocPicture_some p ha]
      refine (settled_emit hs fun _ => rfl :
        (s.emit (.allocPictureBuffer p (some pic) s.allocInfo)).store.Settled).congr (fun q => ?_) fun _ => rfl
      by_cases hq : q = p
      · subst hq
        rw [Store.freed_of_ne (by simpa [setVkPic] using hr), Store.freed_of_ne (by simpa using hr)]
      · exact Store.freed_congr (by simp [setVkPic, hq]) (by simp [setVkPic, hq])
  | edit p hm hf | editLost p hm hf => exact hs.modifyPic hf.refcount hf.userData p
  | splitPair p p' hm =>
    refine ((hs.modifyPic (f := linkSecondField p) (by intro _; rfl) (by intro _; rfl) p').modifyPic (f := splitFirst)
      refcount_splitFirst userData_splitFirst p).modifyPic (f := splitOther _) ?_ ?_ p'
    · intro _
      rfl
    · intro _
      rfl
  | linkSecond p p' hm => exact hs.modifyPic (f := linkSecondField p) (by intro _; rfl) (by intro _; rfl) p'
  | link p p' hm => exact hs.modifyPic (f := linkField p) (by intro _; rfl) (by intro _; rfl) p'
  | borrow p hl => exact hs.ref (hx.stands (prevField_known hl))
  | keep p hm => exact hs.ref (hx.claimed (claims_of_hold hm rfl))
  | unref p | unrefCurrent p | unrefLast p => exact hs.unref p
  | start p slice vkpic hk hv | slice p slice vkpic hk hv | endPicture p vkpic hk hv | losePicture p vkpic hk hv =>
    exact settled_emit (settled_setVkPic hs hv rfl) fun _ => rfl
  | deleteUnused => exact hs.dpbDeleteUnused
  | dpbClear => exact hs.dpbClear
  | bump drain p h => exact hs.dpbBump h hx.coveredStore
  | add p | addLast _ p => exact hs.addPicture p
  | _ => exact hs

lemma Act.balanced (h : Act env x y) (hx : Balanced x) (hp : Placed x) (hb : Buffers x) : Balanced y := by
  have hex := h.excess_eq hx.covered (hx.next_refcount hp)
  refine ⟨fun q => ?_, fun q => ?_, fun q hq => ?_, fun q hq => ?_, fun q hq => ?_, h.settled hx hp hb⟩
  · have := hx.covered q
    rcases hex q with he | ⟨he, -⟩ <;> omega
  · rcases hex q with he | ⟨-, hl⟩
    · exact (hx.exact q).imp he.trans h.leaked
    · right
      cases hl with
      | gap hm hy =>
        have hlt : q < x.2.store.next := hp.below q (.inr ⟨_, hm⟩)
        have hw := weigh_erase (w := Role.owns) hm q
        have ho := hp.once q
        subst hy
        refine ⟨hlt, .inl ⟨hx.gap q hm, ?_⟩⟩
        simp only [places, Phase.current_drop, Phase.hold_drop, isAt_self, Role.owns] at hw ho ⊢
        omega
      | lost hc hs hh =>
        have hlt : q < x.2.store.next := hp.below q (.inl (by simp [places, hc, Current.place]))
        exact ⟨hlt.trans_le h.next_le, .inr ((hx.lost q hc).mono h.calls_subset)⟩
  · rcases h.becomesLost hq with hc | hf
    · exact (hx.lost q hc).mono h.calls_subset
    · exact hf
  · rcases h.decodeFailed hq with hf | hc
    · rcases hx.failed q hf with hc | hpos
      · refine (h.lost hc).imp_right fun he => ?_
        have := hx.covered q
        omega
      · right
        rcases hex q with he | ⟨he, -⟩ <;> omega
    · exact .inl hc
  · rcases h.gap hq with hm | hu
    · refine h.userData_none (hx.gap q hm) fun hf => ?_
      cases hp.hold_hold rfl rfl hm hf
    · exact hu

lemma balanced_start : Balanced (Phase.idle, Decoder.start env) where
  covered q := le_refl 0
  exact q := .inl rfl
  lost q h := by cases h
  failed q h := by
    obtain ⟨data, sps, pps, h⟩ := h
    cases h
  gap q h := by cases h
  settled q := rfl

lemma balanced_reach (h : ReflTransGen (Act env) (Phase.idle, Decoder.start env) x) : Balanced x := by
  induction h with
  | refl => exact balanced_start
  | tail hreach hact ih => exact hact.balanced ih (sound_start.reach hreach).placed (buffers_reach hreach)

end VkVideoParser.H264
