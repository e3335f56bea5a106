import VkVideoParser.H264.Links

/-! The fields of a frame name each other. A second field is the only one to name its first one, and from its
storing on the first one names it too. -/

namespace VkVideoParser.H264

open Execution Relation Counting

variable {P : Type} {env : Env P} {k : Phase} {s : Decoder P} {x y : Phase × Decoder P} {p q : PicId}

/-- A picture that has a place and a role in its frame. -/
def committed (x : Phase × Decoder P) (p : PicId) : Prop := 0 < places x p ∧ (.fresh, p) ∉ x.1.hold

/-- The picture completes the frame that `q` begins. -/
structure Names (x : Phase × Decoder P) (p q : PicId) : Prop where
  secondField : (x.2.pic p).secondField
  otherField : (x.2.pic p).otherField = some q

structure Mated (x : Phase × Decoder P) : Prop where
  sole : ∀ p p' q, committed x p → committed x p' → Names x p q → Names x p' q → p = p'
  free : ∀ p q, committed x p → Names x p q → (x.2.pic q).otherField = none ∨ (x.2.pic q).otherField = some p
  stored : ∀ p q, p ∈ x.2.store.dpb.picList → Names x p q → (x.2.pic q).otherField = some p
  back : ∀ q p, (x.2.pic q).secondField = false → (x.2.pic q).otherField = some p → Names x p q

lemma committed_of_hold (hx : Placed x) {r : Role} (hm : (r, p) ∈ x.1.hold) (hr : r.owns = 1) (hne : r ≠ .fresh) :
    committed x p :=
  ⟨places_of_hold hx hm hr, hx.not_fresh hm hr hne⟩

lemma committed_of_stored (hx : Placed x) (hm : p ∈ x.2.store.dpb.picList) : committed x p :=
  ⟨places_of_mem hm, fun hf => hx.not_stored (flight_of_hold hf rfl) hm⟩

lemma Current.starts.committed (hx : Placed x) (h : x.1.current.starts p) : committed x p := by
  refine ⟨?_, hx.current_hold h.place rfl⟩
  rw [places, h.place, slot_some, isAt_self]
  omega

lemma BeginsPair.free (hl : Linked (k, s)) (h : BeginsPair s q) : (s.pic q).otherField = none := by
  rcases prevField_mem h.prevField with hq | ⟨-, -, ho⟩
  · exact (hl.last q hq).2.1
  · exact ho

-- a field keeps the name of its first one
lemma Act.keepsNames (h : Act env x y) (hx : Placed x) (hl : Linked x) (hn : Names x p q) (hlt : p < x.2.store.next)
    (hf : (.fresh, p) ∉ x.1.hold) : Names y p q := by
  cases h.relinks hx p with
  | same hsame => exact ⟨hsame.secondField ▸ hn.secondField, hsame.otherField.trans hn.otherField⟩
  | made hp => exact absurd hlt (hp ▸ lt_irrefl _)
  | begun _ hs' ho' | halved _ _ _ hs' ho' => exact ⟨hs' ▸ hn.secondField, ho'.trans hn.otherField⟩
  | second hq | half _ _ _ _ hq => exact absurd hq hf
  | linked hs' hon => cases hn.secondField.symm.trans (hl.pair _ p hs' hon).1

/-- How a second field came to be committed: it was, or its maker makes it the current picture, or a frame
was split. -/
inductive Commits (x y : Phase × Decoder P) (p q : PicId) : Prop
  | before (hc : committed x p) (hn : Names x p q)
  | adopted (hh : x.1.hold = [(.fresh, p)]) (hk : x.1.current = .none) (hst : y.2.store = x.2.store) (hb : BeginsPair x.2 q)
  | half {r : Role} (hr : r = .gap ∨ r = .settled) (hq : (r, q) ∈ x.1.hold) (hq' : (r, q) ∈ y.1.hold)
    (hf : (x.2.pic q).field = .frame) (hp : (.fresh, p) ∈ x.1.hold) (hp' : (.half, p) ∈ y.1.hold)
    (hn : (y.2.pic p).nonexisting = (y.2.pic q).nonexisting)

-- one frame is split at a time
lemma Act.half_of (h : Act env x y) (hm : (.half, p) ∈ y.1.hold) :
    (.half, p) ∈ x.1.hold ∨ ((y.2.pic p).secondField ∧
      ∀ p', (.half, p') ∈ y.1.hold → (.half, p') ∈ x.1.hold ∨ p' = p) := by
  cases h with
  | splitPair p₁ q₁ hp hr hq =>
    simp only [Phase.hold_turn, List.mem_cons, Prod.mk.injEq, true_and] at hm ⊢
    rcases hm with rfl | hm
    · refine .inr ⟨?_, fun p' hp' => (hp'.imp_right List.mem_of_mem_erase).symm⟩
      simp only [Decoder.splitPair, Decoder.pic, Decoder.modifyPic_store, Store.modifyPic_pic, if_true, splitOther]
      split
      · rename_i he
        rw [secondField_splitFirst, if_pos he.symm]
        rfl
      · rfl
    · exact .inl (List.mem_of_mem_erase hm)
  | new r hr =>
    simp only [Phase.hold_take, List.mem_cons, Prod.mk.injEq] at hm
    rcases hm with ⟨rfl, -⟩ | hm
    · rcases hr with hr | hr <;> cases hr
    · exact .inl hm
  | bump | borrow | takeLast | keep =>
    simp only [Phase.hold_take, List.mem_cons, Prod.mk.injEq, reduceCtorEq, false_and, false_or] at hm
    exact .inl hm
  | endPicture =>
    simp only [Phase.setCurrent, Phase.take, List.mem_cons, Prod.mk.injEq, reduceCtorEq, false_and, false_or] at hm
    exact .inl hm
  | beginMarking | endMarking | skipMarking | settle | direct | doom =>
    simp only [Phase.hold_setDone, Phase.hold_turn, List.mem_cons, Prod.mk.injEq, reduceCtorEq, false_and, false_or] at hm
    exact .inl (List.mem_of_mem_erase hm)
  | display =>
    simp only [Phase.hold_take, Phase.hold_turn, List.mem_cons, Prod.mk.injEq, reduceCtorEq, false_and, false_or] at hm
    exact .inl (List.mem_of_mem_erase hm)
  | finishFrame | forgetShown | unref | leak | adopt | add | cache => exact .inl (List.mem_of_mem_erase hm)
  | _ => exact .inl hm

lemma Act.stores (h : Act env x y) (hp : p ∈ y.2.store.dpb.picList) :
    p ∈ x.2.store.dpb.picList ∨ y.2.store = x.2.store.addPicture p := by
  have hlast : ∀ {l : List PicId} {q : PicId}, p ∈ l ++ [q] → p ∈ l ∨ p = q := fun hp =>
    (List.mem_append.mp hp).imp_right List.mem_singleton.mp
  cases h with
  | add q hq =>
    rcases hlast (Store.dpbAdd_picList q _ ▸ hp) with hp | rfl
    · exact .inl hp
    · exact .inr rfl
  | addLast q q' hq =>
    rcases hlast (Store.dpbAdd_picList q' _ ▸ hp) with hp | rfl
    · exact .inl hp
    · exact .inr rfl
  | book h => exact .inl (h.picList ▸ hp)
  | number h | mark q hq hk h => exact .inl (congrArg Dpb.picList h.dpb ▸ hp)
  | alloc q hq => exact .inl (congrArg Dpb.picList (allocPicture_dpb q) ▸ hp)
  | unref q hq | unrefCurrent q hq | unrefLast q hq =>
    exact .inl (congrArg Dpb.picList (Store.sameShape_unref q _).dpb ▸ hp)
  | deleteUnused => exact .inl (Store.shrinks_dpbDeleteUnused.picList.subset hp)
  | dpbClear => exact .inl (Store.shrinks_dpbClear.picList.subset hp)
  | bump drain q hq => exact .inl (Store.shrinks_dpbBump.picList.subset hp)
  | _ => exact .inl hp

lemma Act.adopted (h : Act env x y) (hm : (.fresh, p) ∈ x.1.hold) (hst : y.1.current.starts p)
    (hn : ¬x.1.current.starts p) (ho : Names x p q) : Commits x y p q := by
  obtain ⟨slice, hst⟩ := hst
  cases h with
  | adopt a ha hk hframe hpair hh =>
    cases hst
    obtain ⟨b, hb, hbegins⟩ := hpair ho.secondField
    cases hb.symm.trans ho.otherField
    exact .adopted hh hk rfl hbegins
  | fill | clear | start | endPicture | losePicture | unrefCurrent | forgetCurrent => cases hst
  | _ => exact absurd ⟨slice, hst⟩ hn

-- what a picture in a frame's first place was, it stays, but for its link
lemma Act.first_of (h : Act env x y) (hx : Placed x) (hl : Linked x) (ho : Names x p q) :
    (y.2.pic q).otherField = (x.2.pic q).otherField ∨
      ∃ p', committed x p' ∧ Names x p' q ∧ (y.2.pic q).otherField = some p' ∧
        (p' ∈ y.2.store.dpb.picList ∨ q ∉ x.2.store.dpb.picList) := by
  obtain ⟨hfresh, hstarts, hnext⟩ := hl.first_steady hx ho.secondField ho.otherField
  cases h.relinks hx q with
  | same hsame => exact .inl hsame.otherField
  | made hq => exact absurd hq hnext
  | begun hst => exact absurd hst hstarts
  | second hq | half _ _ _ _ hq => exact absurd hq hfresh
  | halved _ _ _ _ ho' => exact .inl ho'
  | linked hs hon hp hsec ho' _ hst =>
    refine .inr ⟨_, ?_, ⟨hs, hon⟩, ho', hst⟩
    rcases hp with ⟨r, hr, hm, -⟩ | hlast | ⟨hm, -⟩
    · exact committed_of_hold hx hm hr.owns (by rcases hr with rfl | rfl | rfl <;> simp)
    · cases (hl.last _ hlast).1.symm.trans hs
    · exact committed_of_hold hx hm rfl (by simp)

-- a frame that is split has been named by no field
lemma Linked.frame_unnamed (hl : Linked x) (hf : (x.2.pic q).field = .frame) (hc : committed x p) : ¬Names x p q := by
  intro hn
  rcases hl.opposite p q hc.1 hn.secondField hn.otherField with hm | ⟨slice, hst⟩ | hopp
  · exact hc.2 hm
  · exact (hl.starting p slice q hst hn.secondField hn.otherField).1 hf
  · exact hopp.right hf

-- the pair that is begun is named by no field yet
lemma Mated.begins_unnamed (hl : Linked x) (hm : Mated x) {a : PicId} (hh : x.1.hold = [(.fresh, a)]) (hk : x.1.current = .none) (hb : BeginsPair x.2 q)
    (hc : committed x p) : ¬Names x p q := by
  intro hn
  have hfree := BeginsPair.free (k := x.1) hl hb
  by_cases hmem : p ∈ x.2.store.dpb.picList
  · cases (hm.stored p q hmem hn).symm.trans hfree
  · have hlast : x.2.lastField ≠ some p := fun hlast => by cases (hl.last p hlast).1.symm.trans hn.secondField
    have hpos := hc.1
    rw [places, List.count_eq_zero_of_not_mem hmem, hk, hh] at hpos
    have hslot : slot x.2.lastField p = 0 := by
      cases hlf : x.2.lastField with
      | none => rfl
      | some b => exact isAt_of_ne fun hb => hlast (hb ▸ hlf)
    have hne : a ≠ p := fun ha => hc.2 (by rw [hh, ha]; exact List.mem_cons_self)
    simp [hslot, Current.place, isAt_of_ne hne] at hpos

section Preservation

variable (h : Act env x y) (hx : Placed x) (hl : Linked x)

include h hx hl

lemma Commits.of_step (hc : committed y p) (ho : Names y p q) : Commits x y p q := by
  have hkept : Names x p q → Commits x y p q := fun hn => by
    have hpos : 0 < places x p := by
      rcases h.places_le p with hle | ⟨rfl, -⟩
      · exact hc.1.trans_le hle
      · cases (hl.unmade _ le_rfl).symm.trans hn.secondField
    by_cases hm : (.fresh, p) ∈ x.1.hold
    · have hst := (h.fresh hm hn.secondField).resolve_left hc.2
      exact h.adopted hm hst (fun hs => (hs.committed hx).2 hm) hn
    · exact .before ⟨hpos, hm⟩ hn
  cases h.relinks hx p with
  | same hsame => exact hkept ⟨hsame.secondField ▸ ho.secondField, hsame.otherField.symm.trans ho.otherField⟩
  | made _ hs => cases hs.symm.trans ho.secondField
  | begun _ hs ho' | halved _ _ _ hs ho' => exact hkept ⟨hs ▸ ho.secondField, ho'.symm.trans ho.otherField⟩
  | second _ _ _ _ hk => exact absurd hk hc.2
  | half hr hp hp' hf hq hq' _ _ ho' _ _ hn =>
    cases ho'.symm.trans ho.otherField
    exact .half hr hp hp' hf hq hq' hn
  | linked hs hon _ hsec => cases (hsec.symm.trans ho.secondField).symm.trans (hl.pair _ p hs hon).1

variable (hm : Mated x)

include hm

lemma Mated.sole_step {p' : PicId} (hc : committed y p) (hc' : committed y p') (hn : Names y p q) (hn' : Names y p' q) :
    p = p' := by
  rcases Commits.of_step h hx hl hc hn with ⟨hc₁, hn₁⟩ | ⟨hh, hk, hst, hb⟩ | ⟨hr, hq, hq', hf, hp, hp', -⟩ <;>
  rcases Commits.of_step h hx hl hc' hn' with ⟨hc₂, hn₂⟩ | ⟨hh₂, hk₂, hst₂, hb₂⟩ | ⟨hr₂, hq₂, hq₂', hf₂, hp₂, hp₂', -⟩
  · exact hm.sole p p' q hc₁ hc₂ hn₁ hn₂
  · exact absurd hn₁ (hm.begins_unnamed hl hh₂ hk₂ hb₂ hc₁)
  · exact absurd hn₁ (hl.frame_unnamed hf₂ hc₁)
  · exact absurd hn₂ (hm.begins_unnamed hl hh hk hb hc₂)
  · rw [hh] at hh₂
    cases hh₂
    rfl
  · rw [hh] at hq₂
    rcases hr₂ with rfl | rfl <;> simp at hq₂
  · exact absurd hn₂ (hl.frame_unnamed hf hc₂)
  · rw [hh₂] at hq
    rcases hr with rfl | rfl <;> simp at hq
  · have hnot : ∀ {a}, (.fresh, a) ∈ x.1.hold → (.half, a) ∉ x.1.hold := fun hf hh => hx.not_fresh hh rfl (by simp) hf
    exact ((((h.half_of hp').resolve_left (hnot hp)).2 p' hp₂').resolve_left (hnot hp₂)).symm

lemma Mated.free_step (hc : committed y p) (hn : Names y p q) :
    (y.2.pic q).otherField = none ∨ (y.2.pic q).otherField = some p := by
  rcases Commits.of_step h hx hl hc hn with ⟨hc₁, hn₁⟩ | ⟨hh, hk, hst, hb⟩ | ⟨hr, hq, hq', hf, hp, hp', -⟩
  · rcases h.first_of hx hl hn₁ with ho | ⟨p', hc', hn', ho, -⟩
    · rw [ho]
      exact hm.free p q hc₁ hn₁
    · obtain rfl := hm.sole p p' q hc₁ hc' hn₁ hn'
      exact .inr ho
  · left
    have hfree := BeginsPair.free (k := x.1) hl hb
    rwa [Decoder.pic, hst]
  · have hly : Linked y := h.keepsLinks hx hl
    exact .inl (hly.alone q (flight_of_hold hq' (stored_owns hr)) (hly.pair p q hn.secondField hn.otherField).1)

lemma Mated.stored_step (hp : p ∈ y.2.store.dpb.picList) (hn : Names y p q) : (y.2.pic q).otherField = some p := by
  have hy := h.placed hx
  rcases Commits.of_step h hx hl (committed_of_stored hy hp) hn with ⟨hc₁, hn₁⟩ | ⟨hh, hk, hst, hb⟩ | ⟨hr, hq, hq', hf, hfr, hp', -⟩
  · rcases h.stores hp with hpx | hadd
    · rcases h.first_of hx hl hn₁ with ho | ⟨p', hc', hn', ho, -⟩
      · rw [ho]
        exact hm.stored p q hpx hn₁
      · obtain rfl := hm.sole p p' q hc₁ hc' hn₁ hn'
        exact ho
    · rw [Decoder.pic, hadd, Store.addPicture_pic, Store.dpbAdd_otherField, if_pos ⟨hn₁.secondField, hn₁.otherField⟩]
  · rw [hst] at hp
    exact absurd hp (hx.not_stored (flight_of_hold (r := .fresh) (by rw [hh]; exact List.mem_cons_self) rfl))
  · exact absurd hp (hy.not_stored (flight_of_hold hp' rfl))

lemma Mated.back_step (hs : (y.2.pic q).secondField = false) (ho : (y.2.pic q).otherField = some p) : Names y p q := by
  have hold : (x.2.pic q).secondField = false → (x.2.pic q).otherField = some p → Names y p q := fun hs' ho' => by
    obtain ⟨-, hlt, hf, -⟩ := hl.back q p hs' ho'
    exact h.keepsNames hx hl (hm.back q p hs' ho') hlt hf
  cases h.relinks hx q with
  | same hsame => exact hold (hsame.secondField.symm.trans hs) (hsame.otherField.symm.trans ho)
  | made _ _ ho' => cases ho'.symm.trans ho
  | begun _ hs' ho' | halved _ _ _ hs' ho' => exact hold (hs'.symm.trans hs) (ho'.symm.trans ho)
  | second _ _ hs' | half _ _ _ _ _ _ _ hs' => cases hs.symm.trans hs'
  | linked hsp hop hp _ ho' =>
    cases ho'.symm.trans ho
    have hc : ∃ r : Role, r.owns = 1 ∧ r ≠ .fresh ∧ (r, p) ∈ x.1.hold := by
      rcases hp with ⟨r, hr, hm, -⟩ | hlast | ⟨hm, -⟩
      · exact ⟨r, hr.owns, by rcases hr with rfl | rfl | rfl <;> simp, hm⟩
      · cases (hl.last _ hlast).1.symm.trans hsp
      · exact ⟨.settled, rfl, by simp, hm⟩
    obtain ⟨r, hr, hne, hmem⟩ := hc
    exact h.keepsNames hx hl ⟨hsp, hop⟩ (hx.flight_below hmem) (hx.not_fresh hmem hr hne)

lemma Act.keepsMated : Mated y where
  sole _ _ _ hc hc' hn hn' := hm.sole_step h hx hl hc hc' hn hn'
  free _ _ hc hn := hm.free_step h hx hl hc hn
  stored _ _ hp hn := hm.stored_step h hx hl hp hn
  back _ _ hs ho := hm.back_step h hx hl hs ho

end Preservation

lemma mated_start : Mated (({} : Phase), Decoder.start env) where
  sole _ _ _ _ _ hn := by cases hn.secondField
  free _ _ _ hn := by cases hn.secondField
  stored _ _ hp := by cases hp
  back _ _ _ ho := by cases ho

lemma mated_reach (h : ReflTransGen (Act env) (({} : Phase), Decoder.start env) x) : Mated x := by
  induction h with
  | refl => exact mated_start
  | tail hreach hact ih => exact hact.keepsMated (sound_start.reach hreach).placed (linked_reach hreach) ih

/-- The stored pictures are different ones, and the links between them are mutual. -/
structure Store.Paired (a : Store) : Prop where
  nodup : a.dpb.picList.Nodup
  back : ∀ p ∈ a.dpb.picList, ∀ q, (a.pic p).otherField = some q → q ∈ a.dpb.picList → (a.pic q).otherField = some p
  second : ∀ p ∈ a.dpb.picList, ∀ q, (a.pic p).otherField = some q → (a.pic q).secondField = !(a.pic p).secondField

lemma Mated.paired (hx : Placed x) (hl : Linked x) (hm : Mated x) : x.2.store.Paired where
  nodup := hx.nodup
  back p hp q ho _ := by
    cases hs : (x.2.pic p).secondField with
    | true => exact hm.stored p q hp ⟨hs, ho⟩
    | false => exact (hm.back p q hs ho).otherField
  second p hp q ho := by
    cases hs : (x.2.pic p).secondField with
    | true => exact (hl.pair p q hs ho).1.trans (congrArg not hs).symm
    | false => exact (hm.back p q hs ho).secondField.trans (congrArg not hs).symm

lemma paired_reach (h : ReflTransGen (Act env) (({} : Phase), Decoder.start env) x) : x.2.store.Paired :=
  (mated_reach h).paired (sound_start.reach h).placed (linked_reach h)

end VkVideoParser.H264
