import VkVideoParser.H264.Finishing

/-! The long-term frame indices of the DPB. Two operations of reference marking assign them, each after a search for
the picture that holds the index. -/

namespace VkVideoParser.H264

open Execution Relation Counting

variable {P : Type} {env : Env P} {k : Phase} {s : Decoder P} {x y : Phase × Decoder P} {p q : PicId}

namespace Store

variable {a b c : Store} {f g v : PicId} {n i : Int}

def LongTermAt (a : Store) (n : Int) (f : PicId) : Prop := (a.pic f).ref = .longTerm ∧ (a.pic f).longTermFrameIdx = n

instance (a : Store) (n : Int) (f : PicId) : Decidable (a.LongTermAt n f) := inferInstanceAs (Decidable (_ ∧ _))

instance (a : Store) (f g : PicId) : Decidable (a.Hit f g) := inferInstanceAs (Decidable (_ ∨ _))

/-- What is marked for long-term reference was so before. -/
def Unmarks (a b : Store) : Prop := ∀ f i, b.LongTermAt i f → a.LongTermAt i f

/-- The index `n` goes to `v` and the picture linked to it, and no other stored picture has it then. -/
structure Assigns (n : Int) (v : PicId) (a b : Store) : Prop where
  hit : ∀ f i, Hit a v f → b.LongTermAt i f → i = n
  miss : ∀ f i, ¬Hit a v f → b.LongTermAt i f → a.LongTermAt i f
  free : ∀ f ∈ a.dpb.picList, ¬Hit a v f → ¬b.LongTermAt n f

/-- The stored pictures with one index are the fields of one frame. -/
def SoleIndices (a : Store) : Prop :=
  ∀ f ∈ a.dpb.picList, ∀ g ∈ a.dpb.picList, ∀ i, a.LongTermAt i f → a.LongTermAt i g → Hit a f g

lemma SameMark.longTermAt (h : SameMark (a.pic f) (b.pic f)) : b.LongTermAt i f ↔ a.LongTermAt i f := by
  rw [LongTermAt, LongTermAt, h.ref, h.longTermFrameIdx]

lemma Unmarks.refl (a : Store) : Unmarks a a := fun _ _ h => h

lemma Unmarks.trans (h : Unmarks a b) (h' : Unmarks b c) : Unmarks a c := fun f i hf => h f i (h' f i hf)

lemma unmarks_touch (q : PicId) (a : Store) : Unmarks a (a.touch q) := fun f i h => by
  rwa [LongTermAt, touch_pic] at h

lemma unmarks_setReference (v : PicId) (other : Bool) (a : Store) : Unmarks a (a.setReference v .none other) := by
  rintro f i ⟨href, hidx⟩
  rw [setReference_ref] at href
  rw [setReference_longTermFrameIdx] at hidx
  split at href
  · cases href
  · exact ⟨href, hidx⟩

lemma unmarks_foldl {g : Store → PicId → Store} (hg : ∀ b v, Unmarks b (g b v)) (l : List PicId) (a : Store) :
    Unmarks a (l.foldl g a) := by
  induction l generalizing a with
  | nil => exact .refl a
  | cons v l ih => exact (hg a v).trans (ih _)

lemma unmarks_slidingWindow (sps : Option GstH264SPS) (p : PicId) (a : Store) :
    Unmarks a (a.slidingWindowPictureMarking sps p).2 := by
  have hloop : ∀ n (a : Store), Unmarks a (a.slidingWindowLoop n).2 := fun n => by
    induction n with
    | zero => exact .refl
    | succ n ih =>
      intro a
      rw [slidingWindowLoop]
      split
      · exact .refl a
      · exact (unmarks_setReference _ _ _).trans (ih _)
  unfold slidingWindowPictureMarking
  split
  · exact .refl a
  · cases sps with
    | none => exact .refl a
    | some sps => exact hloop _ a

lemma unmarks_command {m : GstH264RefPicMarking} (h3 : m.memoryManagementControlOperation ≠ 3)
    (h6 : m.memoryManagementControlOperation ≠ 6) : Unmarks a (a.performMemoryManagementControlOperation m p).2 := by
  unfold performMemoryManagementControlOperation
  split
  · exact .refl a
  · unfold mmco1
    split
    · exact unmarks_setReference _ _ _
    · exact .refl a
  · unfold mmco2
    split
    · rename_i v _
      show Unmarks a (a.setReference v .none false)
      exact unmarks_setReference _ _ _
    · exact .refl a
  · exact absurd ‹_› h3
  · refine unmarks_foldl (fun b v => ?_) _ a
    split
    · exact unmarks_setReference _ _ _
    · exact .refl b
  · refine (unmarks_foldl (fun b v => unmarks_setReference v false b) a.dpb.picList a).trans fun f i h => ?_
    simp only [mmco5, LongTermAt, modifyPic_pic] at h
    split at h
    · rename_i hf
      subst hf
      unfold resetOrderCnt at h
      split at h <;> exact h
    · exact h
  · exact absurd ‹_› h6
  · exact .refl a

-- the pictures of the frame are unmarked, and then the index goes to `v`
lemma Unmarks.assigns {other : Bool} (h : Unmarks a b) (hr : SameRoles a b)
    (hfree : ∀ f ∈ a.dpb.picList, ¬Hit a v f → ¬b.LongTermAt n f) :
    Assigns n v a ((b.setReference v .longTerm other).setLongTermFrameIdx v n) := by
  have hlink : ((b.setReference v .longTerm other).pic v).otherField = (a.pic v).otherField :=
    ((roles_setReference v .longTerm other b).role v).otherField.trans (hr.role v).otherField
  have hmiss : ∀ f i, ¬Hit a v f → ((b.setReference v .longTerm other).setLongTermFrameIdx v n).LongTermAt i f →
      b.LongTermAt i f := fun f i hf hl => by
    have ho : ¬(f = v ∨ (other = true ∧ (b.pic v).otherField = some f)) := fun h =>
      hf (h.imp_right fun h => (hr.role v).otherField.symm.trans h.2)
    rw [LongTermAt, setLongTermFrameIdx_ref, setLongTermFrameIdx_longTermFrameIdx, hlink,
      if_neg fun h => hf (h.imp_right And.left), setReference_ref, if_neg ho, setReference_longTermFrameIdx] at hl
    exact hl
  refine ⟨fun f i hf hl => ?_, fun f i hf hl => h f i (hmiss f i hf hl), fun f hm hf hl => hfree f hm hf (hmiss f n hf hl)⟩
  obtain ⟨href, hidx⟩ := hl
  rw [setLongTermFrameIdx_ref] at href
  rw [setLongTermFrameIdx_longTermFrameIdx, hlink, if_pos (hf.imp_right fun h => ⟨h, href⟩)] at hidx
  exact hidx.symm

lemma longTermAt_of_find {tmp : PicId} (h : a.dpb.picList.find? (a.isLongTermAt n) = some tmp) :
    tmp ∈ a.dpb.picList ∧ a.LongTermAt n tmp :=
  ⟨List.mem_of_find?_eq_some h, by simpa [isLongTermAt, LongTermAt] using List.find?_some h⟩

lemma not_longTermAt_of_find (h : a.dpb.picList.find? (a.isLongTermAt n) = none) : ∀ f ∈ a.dpb.picList, ¬a.LongTermAt n f :=
  fun f hf hl => by
    have := List.find?_eq_none.mp h f hf
    simp [isLongTermAt, hl.1, hl.2] at this

lemma assigns_mmco6 (m : GstH264RefPicMarking) (hu : a.SoleIndices) : Assigns m.longTermFrameIdx p a (a.mmco6 m p).2 := by
  unfold mmco6
  simp only
  split
  · rename_i tmp ht
    obtain ⟨hm, hl⟩ := longTermAt_of_find ht
    refine (unmarks_setReference tmp true a).assigns (roles_setReference ..) fun f hf _ hlf => ?_
    have hhit := hu tmp hm f hf _ hl (unmarks_setReference _ _ _ _ _ hlf)
    rw [LongTermAt, setReference_ref, if_pos (hhit.imp_right fun h => ⟨rfl, h⟩)] at hlf
    cases hlf.1
  · rename_i ht
    exact (Unmarks.refl a).assigns ⟨fun _ => .refl _, rfl, rfl, rfl⟩ fun f hf _ => not_longTermAt_of_find ht f hf

-- the holder of the index keeps it only as the mate of the picture that gets it
lemma unmarkLongTermHolder_spec {tmp : PicId} (hp : a.Paired) (hu : a.SoleIndices) (hv : v ∈ a.dpb.picList)
    (ht : tmp ∈ a.dpb.picList) (hl : a.LongTermAt n tmp) : Unmarks a (a.unmarkLongTermHolder n tmp v) ∧
      ∀ f ∈ a.dpb.picList, ¬Hit a v f → ¬(a.unmarkLongTermHolder n tmp v).LongTermAt n f := by
  have hall : ∀ b : Store, (∀ f, b.pic f = a.pic f) → Unmarks a (b.setReference tmp .none true) ∧
      ∀ f ∈ a.dpb.picList, ¬Hit a v f → ¬(b.setReference tmp .none true).LongTermAt n f := fun b hb => by
    have hun : Unmarks a (b.setReference tmp .none true) := fun f i h => by
      have h := unmarks_setReference _ _ _ f i h
      rwa [LongTermAt, hb] at h
    refine ⟨hun, fun f hf _ hlf => ?_⟩
    have hhit := hu tmp ht f hf n hl (hun f n hlf)
    rw [LongTermAt, setReference_ref, hb tmp, if_pos (hhit.imp_right fun h => ⟨rfl, h⟩)] at hlf
    cases hlf.1
  unfold unmarkLongTermHolder
  split
  · exact hall a fun _ => rfl
  · split
    · rename_i ho
      refine ⟨unmarks_setReference _ _ _, fun f hf _ hlf => ?_⟩
      rcases hu tmp ht f hf n hl (unmarks_setReference _ _ _ f n hlf) with rfl | h
      · rw [LongTermAt, setReference_ref, if_pos (.inl rfl)] at hlf
        cases hlf.1
      · cases ho.symm.trans h
    · rename_i q ho
      have hq : ∀ f, (a.touch q).pic f = a.pic f := fun f => by rw [touch_pic]
      have htouch : ∀ f i, (a.touch q).LongTermAt i f ↔ a.LongTermAt i f := fun f i => by rw [LongTermAt, hq]; rfl
      simp only
      split_ifs with hlq hne
      · exact hall _ hq
      · refine ⟨(unmarks_touch q a).trans (unmarks_setReference _ _ _), fun f hf _ hlf => ?_⟩
        have hla := (htouch f n).mp (unmarks_setReference _ _ _ f n hlf)
        rcases hu tmp ht f hf n hl hla with rfl | h
        · rw [LongTermAt, setReference_ref, if_pos (.inl rfl)] at hlf
          cases hlf.1
        · cases ho.symm.trans h
          refine hlq ?_
          have := (htouch q n).mpr hla
          simpa [isLongTermAt, LongTermAt] using this
      · refine ⟨unmarks_touch q a, fun f hf hnf hlf => ?_⟩
        have hla := (htouch f n).mp hlf
        -- the mate of `tmp` does not have the index, so that `f` is `tmp`
        rcases hu tmp ht f hf n hl hla with rfl | h
        · have hmate : q = v ∨ (a.pic v).otherField = some f := by
            rw [hq] at hne
            by_contra hno
            exact hne ⟨fun h => hno (.inl h), fun h => hno (.inr h)⟩
          rcases hmate with rfl | h
          · exact hnf (.inr (hp.back f ht q ho hv))
          · exact hnf (.inr h)
        · cases ho.symm.trans h
          refine hlq ?_
          simpa [isLongTermAt, LongTermAt] using hlf

lemma assigns_mmco3 (m : GstH264RefPicMarking) (hp : a.Paired) (hu : a.SoleIndices) :
    Unmarks a (a.mmco3 m p).2 ∨ ∃ v ∈ a.dpb.picList, Assigns m.longTermFrameIdx v a (a.mmco3 m p).2 := by
  unfold mmco3
  split
  · exact .inl (.refl a)
  · rename_i v hv
    have hv := mem_of_shortRef hv
    refine .inr ⟨v, hv, ?_⟩
    simp only
    split
    · rename_i tmp ht
      obtain ⟨hm, hl⟩ := longTermAt_of_find ht
      obtain ⟨hun, hfree⟩ := unmarkLongTermHolder_spec hp hu hv hm hl
      exact hun.assigns (marks_unmarkLongTermHolder (R := fun _ => True) m.longTermFrameIdx tmp v a).toSameRoles hfree
    · rename_i ht
      exact (Unmarks.refl a).assigns ⟨fun _ => .refl _, rfl, rfl, rfl⟩ fun f hf _ => not_longTermAt_of_find ht f hf

-- after an IDR picture it is the only one
lemma longTermAt_markIdr {longTerm : Bool} (h : (a.markIdr p longTerm).LongTermAt i f) :
    f = p ∨ (f ∉ a.dpb.picList ∧ a.LongTermAt i f) := by
  by_cases hfp : f = p
  · exact .inl hfp
  have hall : (a.dpbMarkAllNonRef.pic f).ref = .longTerm → f ∉ a.dpb.picList := fun h hm => by
    rw [dpbMarkAllNonRef, setReferenceAll_ref, if_pos hm] at h
    cases h
  have hset : ∀ r, (a.dpbMarkAllNonRef.setReference p r false).LongTermAt i f → a.dpbMarkAllNonRef.LongTermAt i f :=
    fun r h => by
      rw [LongTermAt, setReference_ref, if_neg (by simp [hfp]), setReference_longTermFrameIdx] at h
      exact h
  have hl : a.dpbMarkAllNonRef.LongTermAt i f := by
    unfold markIdr at h
    simp only at h
    split at h
    · rw [LongTermAt, modifyPic_pic, if_neg hfp] at h
      exact hset .longTerm h
    · exact hset .shortTerm h
  exact .inr ⟨hall hl.1, unmarks_foldl (fun b v => unmarks_setReference v false b) _ a f i hl⟩

end Store

/-- The two are one picture or the fields of one frame. -/
def Mates (x : Phase × Decoder P) (p q : PicId) : Prop := p = q ∨ Names x p q ∨ Names x q p

/-- A field that the marking of `p` has made a long-term reference. -/
inductive Taken (x : Phase × Decoder P) (p q : PicId) : Prop
  | self (hq : q = p)
    (h : (x.2.pic p).idr ∨ ∃ m ∈ x.1.done, m.memoryManagementControlOperation = 6)
  | first (hl : x.2.lastField = some q) (hn : Names x p q) (hidr : (x.2.pic p).idr = false)
    (h : ∃ m ∈ x.1.done, m.memoryManagementControlOperation = 6)

/-- Where the long-term references are that the decoder still has, and what their indices are like. -/
structure LongTerms (x : Phase × Decoder P) : Prop where
  apart : ∀ q, 0 < places x q → (x.2.pic q).ref = .longTerm →
    q ∈ x.2.store.dpb.picList ∨ late x q ∨ (.half, q) ∈ x.1.hold ∨ x.2.lastField = some q
  marking : ∀ p q, (.marking, p) ∈ x.1.hold → 0 < places x q → (x.2.pic q).ref = .longTerm →
    q ∈ x.2.store.dpb.picList ∨ Taken x p q
  done : ∀ p, (.marking, p) ∈ x.1.hold → ∀ m ∈ x.1.done, m.memoryManagementControlOperation ≠ 0
  sole : ∀ p q i, 0 < places x p → 0 < places x q → x.2.store.LongTermAt i p → x.2.store.LongTermAt i q → Mates x p q

section Facts

variable (hx : Placed x) (hl : Linked x) (hm : Mated x)

include hx

lemma LongTerms.settled (hlt : LongTerms x) (hq : 0 < places x q) (hr : (x.2.pic q).ref = .longTerm) :
    (.fresh, q) ∉ x.1.hold ∧ (.gap, q) ∉ x.1.hold ∧ ¬x.1.current.starts q := by
  have hflight : ¬flight x q → (.fresh, q) ∉ x.1.hold ∧ (.gap, q) ∉ x.1.hold ∧ ¬x.1.current.starts q := fun hf =>
    ⟨fun h => hf (flight_of_hold h rfl), fun h => hf (flight_of_hold h rfl), fun h => hf (.inr (.inl h.place))⟩
  have hheld : ∀ {r : Role}, r.owns = 1 → r ≠ .fresh → r ≠ .gap → (r, q) ∈ x.1.hold →
      (.fresh, q) ∉ x.1.hold ∧ (.gap, q) ∉ x.1.hold ∧ ¬x.1.current.starts q := fun ho hf hg h =>
    ⟨hx.not_fresh h ho hf, fun h' => hg (hx.hold_hold ho rfl h h'), hx.not_starts h ho⟩
  rcases hlt.apart q hq hr with h | ⟨r, hr, h⟩ | h | h
  · exact hflight fun hf => hx.not_stored hf h
  · exact hheld hr.owns (by rcases hr with rfl | rfl | rfl <;> simp) (by rcases hr with rfl | rfl | rfl <;> simp) h
  · exact hheld rfl (by simp) (by simp) h
  · exact hflight fun hf => hx.not_last hf h

include hl in
-- the mates stay mates
lemma Act.keepsMates (h : Act env x y) (hlt : LongTerms x) (hp : 0 < places x p) (hq : 0 < places x q)
    (hpr : (x.2.pic p).ref = .longTerm) (hqr : (x.2.pic q).ref = .longTerm) (hpq : Mates x p q) : Mates y p q := by
  refine hpq.imp_right fun hpq => hpq.imp (fun hn => ?_) fun hn => ?_
  · exact h.keepsNames hx hl hn (hx.below p (.inl hp)) (hlt.settled hx hp hpr).1
  · exact h.keepsNames hx hl hn (hx.below q (.inl hq)) (hlt.settled hx hq hqr).1

omit hx in
include hm in
lemma LongTerms.soleIndices (hlt : LongTerms x) : x.2.store.SoleIndices := by
  intro f hf g hg i hfi hgi
  rcases hlt.sole f g i (places_of_mem hf) (places_of_mem hg) hfi hgi with rfl | hn | hn
  · exact .inl rfl
  · exact .inr hn.otherField
  · exact .inr (hm.stored g f hg hn)

end Facts

section Step

variable (h : Act env x y) (hx : Placed x)

include h

-- a long-term reference that the move has not made
lemma Act.placed_longTerm (hq : 0 < places y q) (hr : (y.2.pic q).ref = .longTerm) : 0 < places x q := by
  rcases h.placed_of hq with hq | hq
  · exact hq
  · rw [hq] at hr
    cases hr

include hx

lemma LongTerms.apart_step (hlt : LongTerms x) (hq : 0 < places y q) (hqx : 0 < places x q)
    (hr : (x.2.pic q).ref = .longTerm) :
    q ∈ y.2.store.dpb.picList ∨ late y q ∨ (.half, q) ∈ y.1.hold ∨ y.2.lastField = some q := by
  rcases hlt.apart q hqx hr with hs | hs | hs | hs
  · exact .inl (h.stays hx hs hq)
  · rcases h.late hx hs hq with hs | hs | hs
    · exact .inr (.inl hs)
    · exact .inl hs
    · exact .inr (.inr (.inr hs))
  · rcases h.half hs with hs | ⟨hs, -⟩
    · exact .inr (.inr (.inl hs))
    · refine .inl ?_
      rw [hs, Store.addPicture_dpb, Store.dpbAdd_picList]
      simp
  · exact (h.last_stays hx hs hq).imp_right fun hs => .inr (.inr hs)

variable (hl : Linked x)

include hl

lemma LongTerms.marking_step (hlt : LongTerms x) (hp : (.marking, p) ∈ x.1.hold) (hd : x.1.done ⊆ y.1.done)
    (hq : 0 < places y q) (hqx : 0 < places x q) (hr : (x.2.pic q).ref = .longTerm) :
    q ∈ y.2.store.dpb.picList ∨ Taken y p q := by
  have hidr : (y.2.pic p).idr = (x.2.pic p).idr :=
    (h.changes (hx.started (Role.decoded.held (.inr (.inl rfl)) hp))).idr
  have h6 : (∃ m ∈ x.1.done, m.memoryManagementControlOperation = 6) → ∃ m ∈ y.1.done, m.memoryManagementControlOperation = 6 :=
    fun ⟨m, hm, h6⟩ => ⟨m, hd hm, h6⟩
  rcases hlt.marking p q hp hqx hr with hs | ⟨rfl, hs⟩ | ⟨hlast, hn, hno, hs⟩
  · exact .inl (h.stays hx hs hq)
  · exact .inr (.self rfl (hs.imp (hidr ▸ ·) h6))
  · rcases h.last_stays hx hlast hq with hs' | hs'
    · exact .inl hs'
    · exact .inr (.first hs' (h.keepsNames hx hl hn (hx.flight_below hp) (hx.not_fresh hp rfl (by simp)))
        (hidr ▸ hno) (h6 hs))

lemma LongTerms.sole_step (hlt : LongTerms x) {i : Int} (hp : 0 < places x p) (hq : 0 < places x q)
    (hpi : x.2.store.LongTermAt i p) (hqi : x.2.store.LongTermAt i q) : Mates y p q :=
  h.keepsMates hx hl hlt hp hq hpi.1 hqi.1 (hlt.sole p q i hp hq hpi hqi)

-- nothing is marked for long-term reference
lemma LongTerms.unmarks_step (hlt : LongTerms x) (hu : Store.Unmarks x.2.store y.2.store)
    (hc : ∀ p, (.marking, p) ∈ y.1.hold → (.marking, p) ∈ x.1.hold ∧ x.1.done ⊆ y.1.done ∧
      ∀ m ∈ y.1.done, m.memoryManagementControlOperation ≠ 0) : LongTerms y := by
  have hback : ∀ q, (y.2.pic q).ref = .longTerm → (x.2.pic q).ref = .longTerm := fun q hr => (hu q _ ⟨hr, rfl⟩).1
  refine ⟨fun q hq hr => ?_, fun p q hp hq hr => ?_, fun p hp => (hc p hp).2.2, fun p q i hp hq hpi hqi => ?_⟩
  · exact hlt.apart_step h hx hq (h.placed_longTerm hq hr) (hback q hr)
  · obtain ⟨hp, hd, -⟩ := hc p hp
    exact hlt.marking_step h hx hl hp hd hq (h.placed_longTerm hq hr) (hback q hr)
  · exact hlt.sole_step h hx hl (h.placed_longTerm hp hpi.1) (h.placed_longTerm hq hqi.1) (hu p i hpi) (hu q i hqi)

lemma LongTerms.kept_step (hlt : LongTerms x) (hc : Continues x y)
    (hk : ∀ q, Store.SameMark (x.2.pic q) (y.2.pic q) ∨
      (unstarted x q ∧ ((y.2.pic q).ref = .longTerm → Store.SameMark (x.2.pic q) (y.2.pic q)))) : LongTerms y := by
  refine hlt.unmarks_step h hx hl (fun q i hq => ?_) fun p hp => ?_
  · have hsame := (hk q).elim id fun hk => hk.2 hq.1
    exact (hsame.longTermAt (a := x.2.store) (b := y.2.store)).mp hq
  · obtain ⟨hp, hd⟩ := hc p hp
    rw [hd]
    exact ⟨hp, List.Subset.refl _, hlt.done p hp⟩

lemma LongTerms.begins_step (hlt : LongTerms x) (hlm : LastMarked x) (hb : BeginsMarking x y p) : LongTerms y := by
  have hback : ∀ q, (y.2.pic q).ref = .longTerm → (x.2.pic q).ref = .longTerm := fun q hr => hb.state ▸ hr
  have hnone : ∀ {r : Role} {a : PicId}, r ≠ .ended → (r, a) ∉ x.1.hold := fun hr hm => by
    rw [hb.before, List.mem_singleton] at hm
    exact hr (congrArg Prod.fst hm)
  have hlate : ∀ a, ¬late x a := fun a => by
    rintro ⟨r, hr, hm⟩
    exact hnone (by rcases hr with rfl | rfl | rfl <;> simp) hm
  refine ⟨fun q hq hr => ?_, fun p' q hp' hq hr => ?_, fun _ _ m hm => ?_, fun p q i hp hq hpi hqi => ?_⟩
  · exact hlt.apart_step h hx hq (h.placed_longTerm hq hr) (hback q hr)
  · rw [hb.state] at hr ⊢
    rcases hlt.apart q (h.placed_longTerm hq (hb.state ▸ hr)) hr with hs | hs | hs | hs
    · exact .inl hs
    · exact absurd hs (hlate q)
    · exact absurd hs (hnone (by simp))
    · obtain ⟨a, ha, -⟩ := hlm q hs (by simp [Picture.isRef, hr])
      exact absurd ha (hlate a)
  · rw [hb.done] at hm
    cases hm
  · rw [hb.state] at hpi hqi
    exact hlt.sole_step h hx hl (h.placed_longTerm hp (hb.state ▸ hpi.1)) (h.placed_longTerm hq (hb.state ▸ hqi.1)) hpi hqi

-- the half of a long-term reference has the index 0
lemma LongTerms.split_step (hlt : LongTerms x) (hc : Continues x y) {r : Role} {f v : PicId} (hr : r = .gap ∨ r = .settled)
    (hf : (r, f) ∈ x.1.hold) (hframe : (x.2.pic f).isFrame) (hv : (.fresh, v) ∈ x.1.hold) (hhalf : (.half, v) ∈ y.1.hold)
    (hn : Names y v f) (hk : ∀ a, a ≠ v → Store.SameMark (x.2.pic a) (y.2.pic a)) (href : (y.2.pic v).ref = (x.2.pic f).ref)
    (hidx : (y.2.pic v).longTermFrameIdx = 0)
    (hzero : r = .settled → (x.2.pic f).ref = .longTerm → (x.2.pic f).longTermFrameIdx = 0) : LongTerms y := by
  have hflight := flight_of_hold hf (stored_owns hr)
  have hfx := places_of_hold hx hf (stored_owns hr)
  have hback : ∀ a i, a ≠ v → y.2.store.LongTermAt i a → x.2.store.LongTermAt i a := fun a i ha hai =>
    ((hk a ha).longTermAt (a := x.2.store) (b := y.2.store)).mp hai
  have hfirst : (x.2.pic f).ref = .longTerm → (x.2.pic f).longTermFrameIdx = 0 := fun hlong => by
    refine hzero (hr.resolve_left ?_) hlong
    rintro rfl
    exact (hlt.settled hx hfx hlong).2.1 hf
  -- a field that shares the index of the half shared that of the frame
  have hshare : ∀ a i, a ≠ v → 0 < places y a → y.2.store.LongTermAt i a → y.2.store.LongTermAt i v → a = f :=
    fun a i ha hay hai hvi => by
      have hlong : (x.2.pic f).ref = .longTerm := href ▸ hvi.1
      have hi : i = 0 := hvi.2.symm.trans hidx
      have hax := h.placed_longTerm hay hai.1
      have hai := hback a i ha hai
      rcases hlt.sole f a i hfx hax ⟨hlong, (hfirst hlong).trans hi.symm⟩ hai with rfl | hn | hn
      · rfl
      · have hfield : (x.2.pic f).field = .frame := by simpa [Picture.isFrame] using hframe
        cases (hl.frame_first hx hr hf hfield).symm.trans hn.secondField
      · have hfield : (x.2.pic f).field = .frame := by simpa [Picture.isFrame] using hframe
        exact absurd hn (hl.frame_unnamed hfield ⟨hax, (hlt.settled hx hax hai.1).1⟩)
  refine ⟨fun q hq hqr => ?_, fun p q hp hq hqr => ?_, fun p hp => ?_, fun p q i hp hq hpi hqi => ?_⟩
  · by_cases hqv : q = v
    · exact .inr (.inr (.inl (hqv ▸ hhalf)))
    · exact hlt.apart_step h hx hq (h.placed_longTerm hq hqr) ((hk q hqv).ref ▸ hqr)
  · obtain ⟨hp, hd⟩ := hc p hp
    by_cases hqv : q = v
    · subst hqv
      rw [href] at hqr
      rcases hlt.marking p f hp hfx hqr with hs | ⟨rfl, -⟩ | ⟨hlast, -⟩
      · exact absurd hs (hx.not_stored hflight)
      · have := hx.hold_hold (stored_owns hr) rfl hf hp
        rcases hr with rfl | rfl <;> cases this
      · exact absurd hlast (hx.not_last hflight)
    · exact hlt.marking_step h hx hl hp (by rw [hd]; exact List.Subset.refl _) hq (h.placed_longTerm hq hqr) ((hk q hqv).ref ▸ hqr)
  · obtain ⟨hp, hd⟩ := hc p hp
    rw [hd]
    exact hlt.done p hp
  · by_cases hpv : p = v
    · by_cases hqv : q = v
      · exact .inl (hpv.trans hqv.symm)
      · subst hpv
        rw [hshare q i hqv hq hqi hpi]
        exact .inr (.inl hn)
    · by_cases hqv : q = v
      · subst hqv
        rw [hshare p i hpv hp hpi hqi]
        exact .inr (.inr hn)
      · exact hlt.sole_step h hx hl (h.placed_longTerm hp hpi.1) (h.placed_longTerm hq hqi.1) (hback p i hpv hpi)
          (hback q i hqv hqi)

-- an index is assigned
lemma LongTerms.assigns_step {n : Int} {v : PicId} (hlt : LongTerms x) (hs : SoleMarking y)
    (ha : Store.Assigns n v x.2.store y.2.store) (hp : (.marking, p) ∈ y.1.hold)
    (hc : (.marking, p) ∈ x.1.hold ∧ x.1.done ⊆ y.1.done ∧ ∀ m ∈ y.1.done, m.memoryManagementControlOperation ≠ 0)
    (hhit : ∀ q, 0 < places y q → x.2.store.Hit v q → q ∈ y.2.store.dpb.picList ∨ Taken y p q)
    (hmates : ∀ f g, 0 < places y f → 0 < places y g → x.2.store.Hit v f → x.2.store.Hit v g → Mates y f g)
    (hfree : ∀ q, 0 < places x q → x.2.store.LongTermAt n q → q ∈ x.2.store.dpb.picList ∨ x.2.store.Hit v q) :
    LongTerms y := by
  have hmiss : ∀ q, ¬x.2.store.Hit v q → (y.2.pic q).ref = .longTerm → (x.2.pic q).ref = .longTerm := fun q hq hr =>
    (ha.miss q _ hq ⟨hr, rfl⟩).1
  -- a picture that keeps an index does not share it
  have hother : ∀ f g i, 0 < places y g → x.2.store.Hit v f → ¬x.2.store.Hit v g → y.2.store.LongTermAt i f →
      ¬y.2.store.LongTermAt i g := fun f g i hg hf hng hfi hgi => by
    obtain rfl := ha.hit f i hf hfi
    rcases hfree g (h.placed_longTerm hg hgi.1) (ha.miss g _ hng hgi) with hm | hhit
    · exact ha.free g hm hng hgi
    · exact hng hhit
  refine ⟨fun q hq hr => ?_, fun p' q hp' hq hr => ?_, fun _ _ => hc.2.2, fun f g i hf hg hfi hgi => ?_⟩
  · by_cases hv : x.2.store.Hit v q
    · rcases hhit q hq hv with hs | ⟨rfl, -⟩ | ⟨hlast, -⟩
      · exact .inl hs
      · exact .inr (.inl ⟨.marking, .inl rfl, hp⟩)
      · exact .inr (.inr (.inr hlast))
    · exact hlt.apart_step h hx hq (h.placed_longTerm hq hr) (hmiss q hv hr)
  · obtain rfl := hs p p' hp hp'
    by_cases hv : x.2.store.Hit v q
    · exact hhit q hq hv
    · exact hlt.marking_step h hx hl hc.1 hc.2.1 hq (h.placed_longTerm hq hr) (hmiss q hv hr)
  · by_cases hvf : x.2.store.Hit v f
    · by_cases hvg : x.2.store.Hit v g
      · exact hmates f g hf hg hvf hvg
      · exact absurd hgi (hother f g i hg hvf hvg hfi)
    · by_cases hvg : x.2.store.Hit v g
      · exact absurd hfi (hother g f i hf hvg hvf hgi)
      · exact hlt.sole_step h hx hl (h.placed_longTerm hf hfi.1) (h.placed_longTerm hg hgi.1) (ha.miss f i hvf hfi)
          (ha.miss g i hvg hgi)

end Step

section Marks

variable (h : Act env x y) (hx : Placed x) (hl : Linked x) (hm : Mated x) (hff : FirstFields x) (hlt : LongTerms x)
  (hs : SoleMarking x)

lemma MarksFor.places (hmf : MarksFor env x y p) (q : PicId) : places y q = places x q :=
  places_congr q (by rw [hmf.phase]; rfl) (by rw [hmf.phase]; rfl) (congrArg Dpb.picList hmf.roles.dpb) hmf.lastField

lemma MarksFor.names (hmf : MarksFor env x y p) {f g : PicId} (hn : Names x f g) : Names y f g :=
  ⟨(hmf.roles.role f).secondField.trans hn.secondField, (hmf.roles.role f).otherField.trans hn.otherField⟩

-- the pictures that one assignment reaches are the fields of one frame
lemma MarksFor.mates (hmf : MarksFor env x y p) {v f g : PicId}
    (hv : ∀ f, (x.2.pic v).otherField = some f → Names x v f ∨ Names x f v)
    (hf : x.2.store.Hit v f) (hg : x.2.store.Hit v g) : Mates y f g := by
  have hlink : ∀ f, (x.2.pic v).otherField = some f → Names y v f ∨ Names y f v := fun f hf =>
    (hv f hf).imp hmf.names hmf.names
  rcases hf with rfl | hf
  · exact hg.imp (fun hg => hg.symm) (hlink g)
  · rcases hg with rfl | hg
    · exact .inr (hlink f hf).symm
    · exact .inl (Option.some.inj (hf.symm.trans hg))

include h hlt hs

lemma LongTerms.idr_step (hmf : MarksFor env x y p) (hp : (.marking, p) ∈ x.1.hold) (hidr : (x.2.pic p).idr)
    (hd : y.1.done = x.1.done)
    (hback : ∀ f i, y.2.store.LongTermAt i f → f = p ∨ (f ∉ x.2.store.dpb.picList ∧ x.2.store.LongTermAt i f)) :
    LongTerms y := by
  have hhold : y.1.hold = x.1.hold := by rw [hmf.phase]; rfl
  have hall : ∀ q, 0 < H264.places y q → (y.2.pic q).ref = .longTerm → q = p := fun q hq hr => by
    rcases hback q _ ⟨hr, rfl⟩ with rfl | ⟨hst, hqi⟩
    · rfl
    · rcases hlt.marking p q hp (h.placed_longTerm hq hr) hqi.1 with hm | ⟨hq, -⟩ | ⟨-, -, hno, -⟩
      · exact absurd hm hst
      · exact hq
      · cases hno.symm.trans hidr
  refine ⟨fun q hq hr => ?_, fun p' q hp' hq hr => ?_, fun p' hp' => ?_, fun f g i hf hg hfi hgi => ?_⟩
  · rw [hall q hq hr]
    exact .inr (.inl ⟨.marking, .inl rfl, hhold ▸ hp⟩)
  · obtain rfl := hs p p' hp (hhold ▸ hp')
    exact .inr (.self (hall q hq hr) (.inl ((hmf.roles.role p).idr.trans hidr)))
  · rw [hd]
    exact hlt.done p' (hhold ▸ hp')
  · exact .inl ((hall f hf hfi.1).trans (hall g hg hgi.1).symm)

include hx hl hm hff

lemma LongTerms.command_step (hpaired : x.2.store.Paired) (hmf : MarksFor env x y p) {m : GstH264RefPicMarking} (hp : (.marking, p) ∈ x.1.hold)
    (hidr : (x.2.pic p).idr = false) (hd : y.1.done = x.1.done ++ [m])
    (hst : y.2.store = (x.2.store.performMemoryManagementControlOperation m p).2)
    (h0 : m.memoryManagementControlOperation ≠ 0)
    (h3 : (∃ m ∈ x.1.done, m.memoryManagementControlOperation = 6) → m.memoryManagementControlOperation ≠ 3) :
    LongTerms y := by
  have hhold : y.1.hold = x.1.hold := by rw [hmf.phase]; rfl
  have hsole : SoleMarking y := fun a b ha hb => hs a b (hhold ▸ ha) (hhold ▸ hb)
  have hc : x.1.done ⊆ y.1.done ∧ ∀ m ∈ y.1.done, m.memoryManagementControlOperation ≠ 0 := by
    rw [hd]
    refine ⟨List.subset_append_left _ _, fun a ha => ?_⟩
    rcases List.mem_append.mp ha with ha | ha
    · exact hlt.done p hp a ha
    · rwa [List.mem_singleton.mp ha]
  have hlist : y.2.store.dpb.picList = x.2.store.dpb.picList := congrArg Dpb.picList hmf.roles.dpb
  have hflight := flight_of_hold hp rfl
  have hsoles := hlt.soleIndices hm
  by_cases h₆ : m.memoryManagementControlOperation = 6
  · have ha : Store.Assigns m.longTermFrameIdx p x.2.store y.2.store := by
      rw [hst]
      simp only [Store.performMemoryManagementControlOperation, h₆]
      exact Store.assigns_mmco6 m hsoles
    have h6 : ∃ m ∈ y.1.done, m.memoryManagementControlOperation = 6 := ⟨m, by rw [hd]; simp, h₆⟩
    have hsecond : ∀ f, (x.2.pic p).otherField = some f → Names x p f := fun f ho => by
      refine ⟨?_, ho⟩
      by_contra hsec
      cases (hl.alone p hflight (by simpa using hsec)).symm.trans ho
    refine hlt.assigns_step h hx hl hsole ha (hhold ▸ hp) ⟨hp, hc⟩ (fun q hq hit => ?_)
      (fun f g _ _ hf hg => hmf.mates (fun f ho => .inl (hsecond f ho)) hf hg) fun q hq hqi => ?_
    · rcases hit with rfl | ho
      · exact .inr (.self rfl (.inr h6))
      · have hn := hsecond q ho
        rcases placed_flight (hmf.places q ▸ hq) with hst | hlast | hf
        · exact .inl (hlist ▸ hst)
        · exact .inr (.first (hmf.lastField.trans hlast) (hmf.names hn) ((hmf.roles.role p).idr.trans hidr) h6)
        · cases hx.hold_hold rfl rfl hp ((hl.pair p q hn.secondField hn.otherField).2 hf).1
    · rcases hlt.marking p q hp hq hqi.1 with hs | ⟨rfl, -⟩ | ⟨-, hn, -, -⟩
      · exact .inl hs
      · exact .inr (.inl rfl)
      · exact .inr (.inr hn.otherField)
  · by_cases h₃ : m.memoryManagementControlOperation = 3
    · have ha : Store.Unmarks x.2.store y.2.store ∨
          ∃ v ∈ x.2.store.dpb.picList, Store.Assigns m.longTermFrameIdx v x.2.store y.2.store := by
        rw [hst]
        simp only [Store.performMemoryManagementControlOperation, h₃]
        exact Store.assigns_mmco3 m hpaired hsoles
      rcases ha with hu | ⟨v, hv, ha⟩
      · exact hlt.unmarks_step h hx hl hu fun a ha => ⟨hhold ▸ ha, hc⟩
      · have hlink : ∀ f, (x.2.pic v).otherField = some f → Names x v f ∨ Names x f v := fun f ho => by
          cases hsec : (x.2.pic v).secondField with
          | true => exact .inl ⟨hsec, ho⟩
          | false => exact .inr (hm.back v f hsec ho)
        refine hlt.assigns_step h hx hl hsole ha (hhold ▸ hp) ⟨hp, hc⟩ (fun q hq hit => ?_)
          (fun f g _ _ hf hg => hmf.mates hlink hf hg) fun q hq hqi => ?_
        · rw [hlist]
          by_contra hno
          exact hm.unlinked hx hl hff (hmf.places q ▸ hq) (fun hs => hno (.inl hs)) (Store.hit_reaches hv hit)
        · have hno : ¬∃ m ∈ x.1.done, m.memoryManagementControlOperation = 6 := fun h6 => h3 h6 h₃
          rcases hlt.marking p q hp hq hqi.1 with hs | ⟨rfl, hs⟩ | ⟨-, -, -, hs⟩
          · exact .inl hs
          · rcases hs with hs | hs
            · cases hidr.symm.trans hs
            · exact absurd hs hno
          · exact absurd hs hno
    · refine hlt.unmarks_step h hx hl ?_ fun a ha => ⟨hhold ▸ ha, hc⟩
      rw [hst]
      exact Store.unmarks_command h₃ h₆

end Marks

/-- The commands that marking by the list comes to. -/
def commands (m : GstH264DecRefPicMarking) : List GstH264RefPicMarking :=
  (m.refPicMarking.take 10).takeWhile fun m => m.memoryManagementControlOperation ≠ 0

/-- No MMCO 3 comes after an MMCO 6 of the list. -/
def SelfLast (m : GstH264DecRefPicMarking) : Prop := (commands m).Pairwise fun a b =>
  a.memoryManagementControlOperation = 6 → b.memoryManagementControlOperation ≠ 3

instance (m : GstH264DecRefPicMarking) : Decidable (SelfLast m) := inferInstanceAs (Decidable (List.Pairwise ..))

lemma SelfLast.next {d : GstH264DecRefPicMarking} (h : SelfLast d) {done l : List GstH264RefPicMarking}
    {m : GstH264RefPicMarking} (hd : d.refPicMarking.take 10 = done ++ m :: l)
    (h0 : ∀ a ∈ done, a.memoryManagementControlOperation ≠ 0) (hm : m.memoryManagementControlOperation ≠ 0)
    (h6 : ∃ a ∈ done, a.memoryManagementControlOperation = 6) : m.memoryManagementControlOperation ≠ 3 := by
  obtain ⟨a, ha, h6⟩ := h6
  rw [SelfLast, commands, hd, List.takeWhile_append_of_pos (by simpa using h0), List.takeWhile_cons, if_pos (by simpa using hm),
    List.pairwise_append] at h
  exact h.2.2 a ha m List.mem_cons_self h6

/-- The marking of a picture that is decoded is that of the slice it started with. -/
def Listed (x : Phase × Decoder P) : Prop :=
  ∀ p, (x.1.current = .decoding p ∨ ∃ r : Role, r.decoded ∧ (r, p) ∈ x.1.hold) → ∃ info,
    Event.startPicture p info ∈ x.2.store.log ∧ info.slice.header.decRefPicMarking = (x.2.pic p).decRefPicMarking

lemma Act.decoding_of (h : Act env x y) (hc : y.1.current = .decoding p) : x.1.current = .decoding p ∨
    ∃ slice vkpic, x.1.current.filledBy p slice ∧ y.2 = x.2.startPicture env p slice vkpic := by
  cases h with
  | start q slice vkpic hk =>
    cases hc
    exact .inr ⟨slice, vkpic, hk, rfl⟩
  | adopt | fill | clear | endPicture | losePicture | unrefCurrent | forgetCurrent => cases hc
  | _ => exact .inl hc

lemma Listed.step (hx : Listed x) (hs : Sound x) (h : Act env x y) : Listed y := by
  have hkeep : ∀ p, (x.1.current = .decoding p ∨ ∃ r : Role, r.decoded ∧ (r, p) ∈ x.1.hold) → ∃ info,
      Event.startPicture p info ∈ y.2.store.log ∧ info.slice.header.decRefPicMarking = (y.2.pic p).decRefPicMarking :=
    fun p hp => by
      obtain ⟨info, hi, hd⟩ := hx p hp
      have hdec : decoded x p := .inr hp
      exact ⟨info, h.log_suffix.subset hi, hd.trans (h.changes (hs.placed.started hdec)).decRefPicMarking.symm⟩
  rintro p (hc | ⟨r, hr, hm⟩)
  · rcases h.decoding_of hc with hc | ⟨slice, vkpic, hf, hy⟩
    · exact hkeep p (.inl hc)
    · refine ⟨x.2.startInfo env p slice, by rw [hy]; exact List.mem_cons_self, ?_⟩
      exact (hs.told p slice hf).decRefPicMarking.symm.trans (h.changes (hs.placed.started (.inl ⟨slice, hf⟩))).decRefPicMarking.symm
  · refine hkeep p ?_
    rcases h.hold_of hm with hm | ⟨hr', -⟩ | ⟨-, hc⟩ | ⟨r', ht, hm⟩ | h0
    · exact .inr ⟨r, hr, hm⟩
    · rcases hr with rfl | rfl | rfl | rfl <;> simp at hr'
    · exact .inl hc
    · refine .inr ⟨r', ?_, hm⟩
      cases ht with
      | begin | skip => exact .inl rfl
      | finish => exact .inr (.inl rfl)
      | settle => exact .inr (.inr (.inl rfl))
      | split => rcases hr with hr | hr | hr | hr <;> cases hr
    · cases hr.owns.symm.trans h0

lemma listed_reach (h : ReflTransGen (Act env) (({} : Phase), Decoder.start env) x) : Listed x := by
  induction h with
  | refl =>
    rintro p (hc | ⟨r, -, hm⟩)
    · cases hc
    · cases hm
  | tail hreach hact ih => exact ih.step (sound_start.reach hreach) hact

/-- A picture that starts does not assign an index to itself and then to another one. -/
def Event.selfLast : Event → Prop
  | .startPicture _ info => info.slice.header.decRefPicMarking.adaptiveRefPicMarkingModeFlag →
      SelfLast info.slice.header.decRefPicMarking
  | _ => True

/-- A frame that is placed to be split has no other index than 0. -/
def Event.splitsZero : Event → Prop
  | .placing info => info.interlaced → info.picture.isFrame → info.picture.ref = .longTerm →
      info.picture.longTermFrameIdx = 0
  | _ => True

instance : DecidablePred Event.selfLast
  | .startPicture .. => inferInstanceAs (Decidable (_ → SelfLast _))
  | .beginSequence .. | .updateSps .. | .updatePps .. | .parserParseSps .. | .parserParsePps .. |
    .parserUpdateSps .. | .allocPictureBuffer .. | .decodeSlice .. | .decodePicture .. | .displayPicture .. |
    .release .. | .unhandledNALU .. | .finishFrame .. | .releaseFrame .. | .dropFrame .. | .flush |
    .lastFieldNotNull | .removing .. | .placing .. | .storing .. | .orderCount .. | .bumping .. |
    .reference .. => .isTrue trivial

instance : DecidablePred Event.splitsZero
  | .placing .. => inferInstanceAs (Decidable (_ → _ → _ → _))
  | .beginSequence .. | .updateSps .. | .updatePps .. | .parserParseSps .. | .parserParsePps .. |
    .parserUpdateSps .. | .allocPictureBuffer .. | .startPicture .. | .decodeSlice .. | .decodePicture .. |
    .displayPicture .. | .release .. | .unhandledNALU .. | .finishFrame .. | .releaseFrame .. |
    .dropFrame .. | .flush | .lastFieldNotNull | .removing .. | .storing .. | .orderCount .. | .bumping .. |
    .reference .. => .isTrue trivial

section Reach

variable (h : Act env x y) (hs : Sound x) (hm : Mated x) (hff : FirstFields x) (hp : x.2.store.Paired)
  (hsole : SoleMarking x) (hlt : LongTerms x)

include h hs hm hff hp hsole hlt

lemma LongTerms.marks_step (hlist : Listed x) (ha : ∀ e ∈ x.2.store.log, e.selfLast ∧ e.splitsZero) {p : PicId}
    (hmf : MarksFor env x y p) :
    LongTerms y := by
  have hhold : y.1.hold = x.1.hold := by rw [hmf.phase]; rfl
  have hby := hmf.marks
  generalize hd : y.1.done = done at hby
  generalize hst : y.2.store = st at hby
  cases hby with
  | idr hp hidr =>
    exact hlt.idr_step h hsole hmf hp hidr hd fun f i hf => Store.longTermAt_markIdr (hst ▸ hf)
  | window hw =>
    refine hlt.unmarks_step h hs.placed hs.links ?_ fun a ha => ?_
    · rw [hst]
      exact Store.unmarks_slidingWindow _ p x.2.store
    · have ha := hhold ▸ ha
      rw [hd]
      exact ⟨ha, List.Subset.refl _, hlt.done a ha⟩
  | command m l hpm hidr hadapt hl h0 =>
    obtain ⟨info, hi, he⟩ := hlist p (.inr ⟨.marking, .inr (.inl rfl), hpm⟩)
    have hself : SelfLast info.slice.header.decRefPicMarking := (ha _ hi).1 (he ▸ hadapt)
    rw [he] at hself
    exact hlt.command_step h hs.placed hs.links hm hff hsole hp hmf hpm hidr hd hst h0
      (hself.next hl (hlt.done p hpm) h0)

lemma LongTerms.step (hlist : Listed x) (hlm : LastMarked x) (ha : ∀ e ∈ x.2.store.log, e.selfLast ∧ e.splitsZero) :
    LongTerms y := by
  rcases h.continues hs.placed hsole with ⟨p, hmf⟩ | ⟨p, hb⟩ | hc
  · exact hlt.marks_step h hs hm hff hp hsole hlist ha hmf
  · exact hlt.begins_step h hs.placed hs.links hlm hb
  · cases h.remarks hs.placed with
    | kept hk => exact hlt.kept_step h hs.placed hs.links hc hk
    | marked p hmf => exact hlt.marks_step h hs hm hff hp hsole hlist ha hmf
    | split f v hr hf hv hhalf hn hframe hk href hidx hshown =>
      refine hlt.split_step h hs.placed hs.links hc hr hf hframe hv hhalf hn hk href hidx fun he hlong => ?_
      obtain ⟨info, hi, hint, hfr, hir, hii⟩ := hshown he
      exact hii.symm.trans ((ha _ hi).2 hint hfr (hir.trans hlong))

end Reach

lemma longTerms_start : LongTerms (({} : Phase), Decoder.start env) where
  apart _ hq := absurd hq (lt_irrefl 0)
  marking _ _ hp := by cases hp
  done _ hp := by cases hp
  sole _ _ _ hp := absurd hp (lt_irrefl 0)

lemma longTerms_reach (h : ReflTransGen (Act env) (({} : Phase), Decoder.start env) x)
    (ha : ∀ e ∈ x.2.store.log, e.selfLast ∧ e.splitsZero) : LongTerms x := by
  induction h with
  | refl => exact longTerms_start
  | tail hreach hact ih =>
    have ha' := fun e he => ha e (hact.log_suffix.subset he)
    exact (ih ha').step hact (sound_start.reach hreach) (mated_reach hreach) (firstFields_reach hreach)
      (paired_reach hreach) (soleMarking_reach hreach) (listed_reach hreach) (lastMarked_reach hreach) ha'

/-- In every run in which no picture assigns an index to itself and then to another one, and no frame with another index
than 0 is split, the stored long-term references with one index are the fields of one frame. -/
theorem longTermFrameIdx_sole (env : Env P) (inputs : List Input)
    (hself : ∀ e ∈ (final (runInputs env inputs (Decoder.start env))).store.log, e.selfLast)
    (hsplit : ∀ e ∈ (final (runInputs env inputs (Decoder.start env))).store.log, e.splitsZero) :
    (final (runInputs env inputs (Decoder.start env))).store.SoleIndices := by
  obtain ⟨k, hk⟩ := reach_final env inputs
  exact (longTerms_reach hk fun e he => ⟨hself e he, hsplit e he⟩).soleIndices (mated_reach hk)

section Examples

-- an IDR frame, then two fields that are assigned the index 1, or a frame that is
def assignScript : Script where
  sps := [Script.interlaced]
  pps := [{}]
  slices :=
    let index := { adaptiveRefPicMarkingModeFlag := true, refPicMarking :=
      [{ memoryManagementControlOperation := 4, maxLongTermFrameIdxPlus1 := 2 },
        { memoryManagementControlOperation := 6, longTermFrameIdx := 1 }] }
    [{ decRefPicMarking := { longTermReferenceFlag := true } },
      { frameNum := 1, picOrderCntLsb := 4, fieldPicFlag := true, decRefPicMarking := index },
      { frameNum := 1, picOrderCntLsb := 5, fieldPicFlag := true, bottomFieldFlag := true, decRefPicMarking := index },
      { frameNum := 1, picOrderCntLsb := 4, decRefPicMarking := index }]

def assignEnd (slices : List GstH264NalUnit) : Decoder Tables :=
  final (runInputs assignScript.env (Script.frames [[Script.spsUnit 0, Script.ppsUnit 0, Script.idrUnit 0], slices])
    (Decoder.start assignScript.env))

theorem longTermFrameIdx_sole_fields : (assignEnd [Script.sliceUnit 1, Script.sliceUnit 2]).store.SoleIndices ∧
    (assignEnd [Script.sliceUnit 1, Script.sliceUnit 2]).store.dpb.picList = [0, 1, 2, 3] ∧
    (assignEnd [Script.sliceUnit 1, Script.sliceUnit 2]).store.LongTermAt 0 1 ∧
    (assignEnd [Script.sliceUnit 1, Script.sliceUnit 2]).store.LongTermAt 1 3 :=
  ⟨longTermFrameIdx_sole assignScript.env _ (by decide +kernel) (by decide +kernel), by decide +kernel,
    by decide +kernel, by decide +kernel⟩

-- the half of the frame has the index 0, as the fields of the IDR frame do
theorem longTermFrameIdx_halved : (∀ e ∈ (assignEnd [Script.sliceUnit 3]).store.log, e.selfLast) ∧
    ¬(assignEnd [Script.sliceUnit 3]).store.SoleIndices :=
  ⟨by decide +kernel, fun h => absurd (h 1 (by decide +kernel) 3 (by decide +kernel) 0 (by decide +kernel)
    (by decide +kernel)) (by decide +kernel)⟩

end Examples

end VkVideoParser.H264
