import VkVideoParser.H264.Balance
import VkVideoParser.H264.Remembered
import VkVideoParser.H264.Storing

/-! The first fields in the DPB. One whose second field is to be stored is still there, by itself and needed. -/

namespace VkVideoParser.H264

open Execution Relation Counting

variable {P : Type} {env : Env P} {k : Phase} {s : Decoder P} {x y : Phase × Decoder P} {p q : PicId}

/-- A picture that was begun by a slice and is not stored yet. -/
def real (x : Phase × Decoder P) (q : PicId) : Prop :=
  (young x q ∧ x.1.current ≠ .lost q) ∨ x.2.lastField = some q

/-- The other field of the split frame is to be stored. -/
def awaits (x : Phase × Decoder P) (q : PicId) : Prop := ∃ p, (.half, p) ∈ x.1.hold ∧ Names x p q

lemma young.stands (hx : Placed x) (h : young x q) : 0 < places x q := by
  rcases h with h | ⟨r, hr, hm⟩
  · rw [places, h, slot_some, isAt_self]
    omega
  · exact places_of_hold hx hm (hr.elim (fun hr => hr ▸ rfl) Role.decoded.owns)

lemma real.stands (hx : Placed x) (h : real x q) : 0 < places x q :=
  h.elim (fun h => h.1.stands hx) places_of_lastField

-- a picture to be decoded does not stand for a gap
lemma real.not_gap (hx : Placed x) (h : real x q) : (.gap, q) ∉ x.1.hold ∧ x.1.current ≠ .lost q := by
  rcases h with ⟨hy, hc⟩ | hl
  · refine ⟨fun hm => ?_, hc⟩
    rcases hy with hy | ⟨r, rfl | hr, hm'⟩
    · exact hx.current_hold hy rfl hm
    · cases hx.hold_hold rfl rfl hm' hm
    · have := hx.hold_hold hr.owns rfl hm' hm
      rcases hr with rfl | rfl | rfl | rfl <;> cases this
  · exact ⟨fun hm => hx.not_last (flight_of_hold hm rfl) hl, fun hc => hx.not_last (.inr (.inl (by rw [hc]; rfl))) hl⟩

lemma real.not_half (hx : Placed x) (h : real x q) : (.half, q) ∉ x.1.hold := by
  rcases h with ⟨hy, -⟩ | hl
  · exact hx.not_half hy
  · exact fun hm => hx.not_last (flight_of_hold hm rfl) hl

-- a lost picture stays so until nothing is left of it
lemma Act.lost_left (h : Act env x y) (hx : Placed x) (hc : x.1.current = .lost q) :
    y.1.current = .lost q ∨ places y q = 0 := by
  cases h with
  | forgetCurrent hk =>
    right
    rename_i k s
    have := hx.once q
    have hplace : k.current.place = some q := congrArg Current.place hc
    simp only [places, hplace, slot_some, isAt_self] at this
    simp only [places, Decoder.setCurrentPicture_store, Decoder.setCurrentPicture_lastField, Phase.current_setCurrent,
      Phase.hold_setCurrent, Current.place, slot_none]
    omega
  | adopt p hp hk => cases hk.symm.trans hc
  | fill p slice hk | clear p slice hk | endPicture p slice hk | losePicture p slice hk => cases hk.symm.trans hc
  | start p slice vkpic hk => rcases hk with hk | hk <;> cases hk.symm.trans hc
  | unrefCurrent p hk =>
    rw [hc] at hk
    rcases hk with ⟨_, hk⟩ | ⟨_, hk | hk⟩ | hk <;> cases hk
  | _ => exact .inl hc

lemma Act.real (h : Act env x y) (hx : Placed x) (hy : real y q) : real x q ∨ y.2.pic q = { refcount := 1 } := by
  rcases hy with ⟨hy, hc⟩ | hl
  · refine (h.young hy).imp_left fun hyx => .inl ⟨hyx, fun hcx => ?_⟩
    rcases h.lost_left hx hcx with hcy | h0
    · exact hc hcy
    · exact absurd h0 (hy.stands (h.placed hx)).ne'
  · left
    rcases h.lastField hl with hlx | ⟨hm, -, -, -, -, hc, -⟩
    · exact .inr hlx
    · exact .inl ⟨.inr ⟨_, .inr (by simp [Role.decoded]), hm⟩, by simp [hc]⟩

/-- What a frame's second field finds in the DPB. -/
structure FirstFields (x : Phase × Decoder P) : Prop where
  real : ∀ q, real x q → (x.2.pic q).nonexisting = false
  gap : ∀ q, (.gap, q) ∈ x.1.hold →
    (x.2.pic q).field = .frame ∨ (awaits x q ∧ (x.2.pic q).nonexisting)
  first : ∀ q, (.gap, q) ∈ x.1.hold → (x.2.pic q).secondField = false
  half : ∀ p, (.half, p) ∈ x.1.hold → (x.2.pic p).secondField
  needed : ∀ q ∈ x.2.store.dpb.picList, Lone (x.2.pic q) → (x.2.pic q).neededForOutput = !(x.2.pic q).nonexisting
  missing : ∀ q ∈ x.2.store.dpb.picList, Lone (x.2.pic q) → (x.2.pic q).nonexisting → awaits x q
  alike : ∀ p q, committed x p → x.1.current ≠ .lost p → Names x p q → (x.2.pic p).nonexisting = (x.2.pic q).nonexisting
  free : ∀ p q, flight x p → (.fresh, p) ∉ x.1.hold → Names x p q → q ∈ x.2.store.dpb.picList →
    (x.2.pic q).otherField = none
  failed : ∀ q, decodeFailed (calls x.2.store.log) q → x.1.current = .lost q ∨ places x q = 0
  paid : ∀ p q, young x p → (.fresh, p) ∉ x.1.hold → Names x p q → excess x q = 0

-- the existence of a picture is settled when it gets a place
lemma Act.nonexisting_of (h : Act env x y) (hg : (.gap, q) ∉ x.1.hold) (hc : x.1.current ≠ .lost q)
    (hf : (.fresh, q) ∉ x.1.hold ∨ (.half, q) ∉ y.1.hold) (hn : q ≠ x.2.store.next) :
    (y.2.pic q).nonexisting = (x.2.pic q).nonexisting := by
  cases h.touched q with
  | changed hch => exact hch.nonexisting
  | made hq => exact absurd hq hn
  | edited _ _ he =>
    rcases he with he | ⟨he, -⟩ | he
    · exact he
    · exact absurd he hg
    · exact absurd he hc
  | half hm hm' => exact (hf.elim (absurd hm) (absurd hm'))

lemma Role.owns_of_ne {r : Role} (h : r.owns ≠ 0) : r.owns = 1 := by
  cases r <;> first | rfl | exact absurd rfl h

lemma Linked.unstored_alone (hl : Linked x) (hp : 0 < places x q) (hm : q ∉ x.2.store.dpb.picList)
    (hs : (x.2.pic q).secondField = false) : (x.2.pic q).otherField = none := by
  by_cases hlast : x.2.lastField = some q
  · exact (hl.last q hlast).2.1
  · refine hl.alone q ?_ hs
    have h₁ : slot x.2.lastField q = 0 := by
      by_contra hne
      exact hlast (eq_some_of_slot_ne hne)
    rw [places, List.count_eq_zero_of_not_mem hm, h₁] at hp
    by_cases hc : slot x.1.current.place q = 0
    · obtain ⟨r, hr, hw⟩ := exists_of_weigh_ne (w := Role.owns) (l := x.1.hold) (b := q) (by omega)
      exact flight_of_hold hr (Role.owns_of_ne hw)
    · exact .inr (.inl (eq_some_of_slot_ne hc))

-- a first field that is not stored yet and on its way is one half of a frame that was split
lemma Linked.first_flight (hl : Linked x) (hx : Placed x) (hn : Names x p q) (hf : flight x q) :
    (.half, p) ∈ x.1.hold ∧ x.1.current.place ≠ some q := by
  obtain ⟨hh, r, hr, hm⟩ := (hl.pair p q hn.secondField hn.otherField).2 hf
  exact ⟨hh, fun hc => hx.current_hold hc (stored_owns hr) hm⟩

section Preservation

variable (h : Act env x y) (hx : Placed x)

include h hx

lemma FirstFields.real_step (hff : FirstFields x) (hq : H264.real y q) : (y.2.pic q).nonexisting = false := by
  rcases h.real hx hq with hq' | hp
  · obtain ⟨hg, hc⟩ := hq'.not_gap hx
    have hn : q ≠ x.2.store.next := (hx.below q (.inl (hq'.stands hx))).ne
    rw [h.nonexisting_of hg hc (.inr (hq.not_half (h.placed hx))) hn]
    exact hff.real q hq'
  · rw [hp]

lemma FirstFields.first_step (hff : FirstFields x) (hq : (.gap, q) ∈ y.1.hold) : (y.2.pic q).secondField = false := by
  rcases h.held_raw (.inr rfl) hq with hm | hp
  · exact h.second_steady hx (hff.first q hm) (hx.not_fresh hm rfl (by simp))
  · rw [hp]

lemma FirstFields.needed_step (hff : FirstFields x) (hp : x.2.store.Paired) (hq : q ∈ y.2.store.dpb.picList) (ho : Lone (y.2.pic q)) :
    (y.2.pic q).neededForOutput = !(y.2.pic q).nonexisting := by
  rcases (h.restocks hx).lone hp hq ho with ⟨hqx, hs⟩ | ⟨-, hs⟩
  · rw [hs.neededForOutput, hs.nonexisting]
    exact hff.needed q hqx (hs.toSameField.lone ho)
  · rw [Decoder.pic, hs, Store.addPicture_pic, Store.dpbAdd_needed, if_pos rfl, Store.dpbAdd_nonexisting]

lemma FirstFields.failed_step (hff : FirstFields x) (hb : Balanced x) (hf : H264.decodeFailed (calls y.2.store.log) q) :
    y.1.current = .lost q ∨ places y q = 0 := by
  rcases h.decodeFailed hf with hfx | hc
  · rcases hff.failed q hfx with hc | h0
    · exact h.lost_left hx hc
    · right
      have hpos := (hb.failed q hfx).resolve_left fun hc => by
        rw [places, hc, Current.place, slot_some, isAt_self] at h0
        omega
      rcases h.places_le q with hle | ⟨rfl, -⟩
      · omega
      · have hclaims := hx.claims_next
        have hcount := hb.next_refcount hx
        have hcount : (x.2.store.pic x.2.store.next).refcount = 0 := hcount
        simp only [excess, Store.surplus, hclaims, hcount] at hpos
        omega
  · exact .inl hc

variable (hl : Linked x)

include hl

-- until then the field of the frame that was split first waits for the other
lemma Act.awaits (hq : awaits x q) (hy : (y.2.pic q).otherField = none ∨ q ∉ x.2.store.dpb.picList) : awaits y q := by
  obtain ⟨p, hp, hn⟩ := hq
  have hf := hx.not_fresh hp rfl (by simp)
  rcases h.half hp with hp' | ⟨hs, hm⟩
  · exact ⟨p, hp', h.keepsNames hx hl hn (hx.flight_below hp) hf⟩
  · rcases hy with hy | hy
    · have ho := Store.dpbAdd_otherField p q x.2.store
      rw [if_pos ⟨hn.secondField, hn.otherField⟩] at ho
      rw [Decoder.pic, hs, Store.addPicture_pic, ho] at hy
      cases hy
    · exact absurd (hm q hn.otherField) hy

variable (hff : FirstFields x)

include hff

lemma FirstFields.gap_step (hq : (.gap, q) ∈ y.1.hold) :
    (y.2.pic q).field = .frame ∨ (H264.awaits y q ∧ (y.2.pic q).nonexisting) := by
  rcases h.held_raw (.inr rfl) hq with hm | hp
  · have hfresh := hx.not_fresh hm rfl (by simp)
    have hst := hx.not_starts hm rfl
    have hne : (x.2.pic q).nonexisting → (y.2.pic q).nonexisting := fun hn => by
      cases h.touched q with
      | changed hch => exact hch.nonexisting.trans hn
      | made hq' => exact absurd hq' (hx.flight_below hm).ne
      | edited _ _ he =>
        rcases he with he | ⟨-, he⟩ | he
        · exact he.trans hn
        · exact he
        · exact absurd hm (hx.current_hold (by rw [he]; rfl) rfl)
      | half hf => exact absurd hf hfresh
    have hsteady : (y.2.pic q).field = (x.2.pic q).field →
        (y.2.pic q).field = .frame ∨ (H264.awaits y q ∧ (y.2.pic q).nonexisting) := fun hf => by
      rcases hff.gap q hm with hfr | ⟨ha, hn⟩
      · exact .inl (hf.trans hfr)
      · exact .inr ⟨h.awaits hx hl ha (.inr (hx.not_stored (flight_of_hold hm rfl))), hne hn⟩
    cases h.relinks hx q with
    | same hsame => exact hsteady hsame.field
    | made hq' => exact absurd hq' (hx.flight_below hm).ne
    | begun hs => exact absurd hs hst
    | second hf | half _ _ _ _ hf => exact absurd hf hfresh
    | halved hr hm' _ _ _ hhalf hn =>
      obtain rfl := hx.hold_hold (stored_owns hr) rfl hm' hm
      obtain ⟨p, hp, hs, ho⟩ := hhalf
      exact .inr ⟨⟨p, hp, hs, ho⟩, hn rfl⟩
    | linked _ _ _ _ _ hf => exact hsteady hf
  · left
    rw [hp]

lemma FirstFields.half_step (hp : (.half, p) ∈ y.1.hold) : (y.2.pic p).secondField := by
  rcases h.half_of hp with hm | ⟨hs, -⟩
  · have hs := hff.half p hm
    obtain ⟨q, ho⟩ := hl.named p hs
    exact (h.keepsNames hx hl ⟨hs, ho⟩ (hx.flight_below hm) (hx.not_fresh hm rfl (by simp))).secondField
  · exact hs

lemma FirstFields.alike_step (hc : committed y p) (hcur : y.1.current ≠ .lost p) (hn : Names y p q) :
    (y.2.pic p).nonexisting = (y.2.pic q).nonexisting := by
  rcases Commits.of_step h hx hl hc hn with ⟨hc₁, hn₁⟩ | ⟨hh, hk, hst, hb⟩ | ⟨hr, hq, hq', hf, hp, hp', he⟩
  · have hlost : x.1.current ≠ .lost p := fun hlost => by
      rcases h.lost_left hx hlost with hlost | h0
      · exact hcur hlost
      · exact hc.1.ne' h0
    obtain ⟨hfresh, -, hnext⟩ := hl.first_steady hx hn₁.secondField hn₁.otherField
    have hp : (y.2.pic p).nonexisting = (x.2.pic p).nonexisting := by
      refine h.nonexisting_of (fun hg => ?_) hlost (.inl hc₁.2) (hx.below p (.inl hc₁.1)).ne
      cases (hff.first p hg).symm.trans hn₁.secondField
    rw [hp, hff.alike p q hc₁ hlost hn₁]
    by_cases hg : (.gap, q) ∈ x.1.hold
    · -- a gap's picture is a frame until it is split, and then it is missing
      rcases hff.gap q hg with hf | ⟨-, hne⟩
      · exact absurd hn₁ (hl.frame_unnamed hf hc₁)
      · cases h.touched q with
        | changed hch => exact hch.nonexisting.symm
        | made hq => exact absurd hq hnext
        | edited _ _ he =>
          rcases he with he | ⟨-, he⟩ | he
          · exact he.symm
          · exact hne.trans he.symm
          · exact absurd hg (hx.current_hold (by rw [he]; rfl) rfl)
        | half hfr => exact absurd hfr hfresh
    · refine (h.nonexisting_of hg (fun hlost => ?_) (.inl hfresh) hnext).symm
      have hplace : x.1.current.place = some q := by rw [hlost]; rfl
      exact (hl.first_flight hx hn₁ (.inr (.inl hplace))).2 hplace
  · have hpic : y.2.pic = x.2.pic := funext fun a => congrArg (fun st => st.pic a) hst
    have hreal : H264.real x p := .inl ⟨.inr ⟨.fresh, .inl rfl, by rw [hh]; exact List.mem_cons_self⟩, by simp [hk]⟩
    rw [hpic, hff.real p hreal]
    rcases prevField_mem hb.prevField with hlast | ⟨hmem, hfr, ho⟩
    · exact (hff.real q (.inr hlast)).symm
    · have hlone : Lone (x.2.pic q) :=
        ⟨(BeginsPair.spec (k := x.1) hl hx hb).1, by simpa [Picture.isFrame] using hfr, ho⟩
      by_contra hne
      obtain ⟨p', hp', -⟩ := hff.missing q hmem hlone (by simpa using hne)
      rw [hh] at hp'
      simp at hp'
  · exact he

lemma FirstFields.missing_step (hp : x.2.store.Paired) (hq : q ∈ y.2.store.dpb.picList) (ho : Lone (y.2.pic q))
    (hn : (y.2.pic q).nonexisting) : H264.awaits y q := by
  rcases (h.restocks hx).lone hp hq ho with ⟨hqx, hs⟩ | ⟨ha, hs⟩
  · refine h.awaits hx hl (hff.missing q hqx (hs.toSameField.lone ho) (hs.nonexisting ▸ hn)) (.inl ho.otherField)
  · obtain ⟨b, o, hpic⟩ := (Store.adds_dpbAdd q x.2.store).pic q
    have hpic : y.2.pic q = { x.2.pic q with neededForOutput := b, otherField := o } := by
      rw [Decoder.pic, hs, Store.addPicture_pic, hpic]
      rfl
    rw [hpic] at hn ho
    rcases ha with ⟨hm, rfl | rfl | rfl⟩ | ⟨-, -, hlast⟩
    · rcases hff.gap q hm with hf | ⟨hw, -⟩
      · exact absurd hf ho.field
      · exact h.awaits hx hl hw (.inr (hx.not_stored (flight_of_hold hm rfl)))
    · cases (hff.half q hm).symm.trans ho.secondField
    · have hreal : H264.real x q :=
        .inl ⟨.inr ⟨_, .inr (by simp [Role.decoded]), hm⟩, fun hc => hx.current_hold (by rw [hc]; rfl) rfl hm⟩
      cases (hff.real q hreal).symm.trans hn
    · cases (hff.real q (.inr hlast)).symm.trans hn

lemma FirstFields.paid_step (hb : Balanced x) (hy : H264.young y p) (hfresh : (.fresh, p) ∉ y.1.hold) (hn : Names y p q) :
    excess y q = 0 := by
  have hc : committed y p := ⟨hy.stands (h.placed hx), hfresh⟩
  have hkept : excess x q = 0 → ¬Loses x y q → excess y q = 0 := fun h0 hno => by
    rcases h.excess_eq hb.covered (hb.next_refcount hx) q with he | ⟨-, hloses⟩
    · exact he.trans h0
    · exact absurd hloses hno
  rcases Commits.of_step h hx hl hc hn with ⟨hc₁, hn₁⟩ | ⟨hh, hk, hst, hbegins⟩ | ⟨-, -, -, -, -, hp', -⟩
  · have hyx : H264.young x p := (h.young hy).resolve_right fun hp => by
      have hs := hn.secondField
      rw [hp] at hs
      cases hs
    refine hkept (hff.paid p q hyx hc₁.2 hn₁) fun hloses => ?_
    have hflight : flight x q := by
      cases hloses with
      | gap hm => exact flight_of_hold hm rfl
      | lost hcur => exact .inr (.inl (by rw [hcur]; rfl))
    exact hx.not_half hyx (hl.first_flight hx hn₁ hflight).1
  · have hstands : 0 < places x q := by
      rcases prevField_mem hbegins.prevField with hlast | ⟨hmem, -⟩
      · exact places_of_lastField hlast
      · exact places_of_mem hmem
    have hlost : x.1.current ≠ .lost q := by simp [hk]
    refine hkept ((hb.exact q).resolve_right ?_) fun hloses => ?_
    · rintro ⟨-, ⟨-, h0⟩ | hfail⟩
      · exact hstands.ne' h0
      · exact (hff.failed q hfail).elim hlost hstands.ne'
    · cases hloses with
      | gap hm =>
        rw [hh] at hm
        simp at hm
      | lost hcur => exact hlost hcur
  · exact absurd hp' ((h.placed hx).not_half hy)

lemma FirstFields.free_step (hm : Mated x) (hf : flight y p) (hfresh : (.fresh, p) ∉ y.1.hold) (hn : Names y p q)
    (hq : q ∈ y.2.store.dpb.picList) : (y.2.pic q).otherField = none := by
  have hy := h.placed hx
  have hlt : p < y.2.store.next := by
    by_contra hge
    cases ((h.keepsLinks hx hl).unmade p (Nat.not_lt.mp hge)).symm.trans hn.secondField
  have hc : committed y p := ⟨by have := flight_weight hf hlt; unfold places; omega, hfresh⟩
  rcases Commits.of_step h hx hl hc hn with ⟨hc₁, hn₁⟩ | ⟨hh, hk, hst, hb⟩ | ⟨hr, hq', hq'', -⟩
  · have hqs : (x.2.pic q).secondField = false := (hl.pair p q hn₁.secondField hn₁.otherField).1
    have hqx : (x.2.pic q).otherField = none := by
      by_cases hmem : q ∈ x.2.store.dpb.picList
      · exact hff.free p q (h.flight hf) hc₁.2 hn₁ hmem
      · refine hl.unstored_alone ?_ hmem hqs
        rcases h.places_le q with hle | ⟨hnext, -⟩
        · exact (places_of_mem hq).trans_le hle
        · exact absurd hnext (hl.first_steady hx hn₁.secondField hn₁.otherField).2.2
    rcases h.first_of hx hl hn₁ with ho | ⟨p', hc', hn', ho, hst⟩
    · exact ho.trans hqx
    · obtain rfl := hm.sole p p' q hc₁ hc' hn₁ hn'
      rcases hst with hst | hst
      · exact absurd hst (hy.not_stored hf)
      · -- the first field is stored in this move, and nothing else happens
        have hadd := (h.stores hq).resolve_left hst
        rw [Decoder.pic, hadd, Store.addPicture_pic, Store.dpbAdd_otherField, if_neg ?_]
        · exact hqx
        · rintro ⟨hs, -⟩
          cases hqs.symm.trans hs
  · rw [Decoder.pic, hst]
    exact BeginsPair.free (k := x.1) hl hb
  · exact absurd hq (hy.not_stored (flight_of_hold hq'' (stored_owns hr)))

lemma Act.firstFields (hm : Mated x) (hb : Balanced x) (hp : x.2.store.Paired) : FirstFields y where
  real _ hq := hff.real_step h hx hq
  gap _ hq := hff.gap_step h hx hl hq
  first _ hq := hff.first_step h hx hq
  half _ hq := hff.half_step h hx hl hq
  needed _ hq ho := hff.needed_step h hx hp hq ho
  missing _ hq ho hn := hff.missing_step h hx hl hp hq ho hn
  alike _ _ hc hcur hn := hff.alike_step h hx hl hc hcur hn
  free _ _ hf hfresh hn hq := hff.free_step h hx hl hm hf hfresh hn hq
  failed _ hf := hff.failed_step h hx hb hf
  paid _ _ hy hfresh hn := hff.paid_step h hx hl hb hy hfresh hn

end Preservation

lemma firstFields_start : FirstFields (({} : Phase), Decoder.start env) where
  real _ hq := by
    rcases hq with ⟨hq | ⟨r, -, hq⟩, -⟩ | hq <;> cases hq
  gap _ hq := by cases hq
  first _ hq := by cases hq
  half _ hq := by cases hq
  needed _ hq := by cases hq
  missing _ hq := by cases hq
  alike _ _ _ _ hn := by cases hn.secondField
  free _ _ _ _ hn := by cases hn.secondField
  failed _ hf := by
    obtain ⟨_, _, _, he⟩ := hf
    cases he
  paid _ _ _ _ hn := by cases hn.secondField

lemma firstFields_reach (h : ReflTransGen (Act env) (({} : Phase), Decoder.start env) x) : FirstFields x := by
  induction h with
  | refl => exact firstFields_start
  | tail hreach hact ih =>
    have hs := sound_start.reach hreach
    exact hact.firstFields hs.placed hs.links ih (mated_reach hreach) (balanced_reach hreach) (paired_reach hreach)

-- a second field is stored next to its first one, which is like it and waits for it
lemma FirstFields.beside (hff : FirstFields x) (hx : Placed x) (hl : Linked x) (ha : Arrives x p) (hn : Names x p q) :
    q ∈ x.2.store.dpb.picList ∧ Lone (x.2.pic q) ∧ (x.2.pic q).neededForOutput = !(x.2.pic p).nonexisting := by
  cases ha with
  | last hp hr hlast => cases (hl.last p hlast).1.symm.trans hn.secondField
  | @held r hp hr hroom hlast hhalf hfirst =>
    have hfresh := hx.not_fresh hp hr.owns (by rcases hr with rfl | rfl | rfl <;> simp)
    have hc : committed x p := ⟨places_of_hold hx hp hr.owns, hfresh⟩
    have hne : q ≠ p := by
      rintro rfl
      cases (hl.pair q q hn.secondField hn.otherField).1.symm.trans hn.secondField
    have hmem : q ∈ x.2.store.dpb.picList := by
      rcases hr with rfl | rfl | rfl
      · cases (hff.first p hp).symm.trans hn.secondField
      · exact hhalf rfl q hn.otherField
      · obtain ⟨hrefs, hcur, hall⟩ := hfirst rfl hn.secondField q hn.otherField
        have h0 := hff.paid p q (.inr ⟨_, .inr (by simp [Role.decoded]), hp⟩) hfresh hn
        have h₁ : slot x.2.lastField q = 0 := by
          by_contra hs
          exact hlast q (eq_some_of_slot_ne hs) hn.otherField
        have h₂ : weigh Role.refs x.1.hold q = 0 := by
          by_contra hw
          obtain ⟨r, hm, -⟩ := exists_of_weigh_ne hw
          exact hne (hall _ hm)
        simp only [excess, Store.surplus, claims, h₁, h₂, hcur, Current.place, slot_none] at h0
        exact List.count_pos_iff.mp (by simp only [Decoder.pic] at hrefs; omega)
    have hopp := (hl.opposite p q hc.1 hn.secondField hn.otherField).resolve_left hfresh
    have hopp := hopp.resolve_left (hx.not_starts hp hr.owns)
    have hlone : Lone (x.2.pic q) := ⟨(hl.pair p q hn.secondField hn.otherField).1, hopp.right,
      hff.free p q (flight_of_hold hp hr.owns) hfresh hn hmem⟩
    refine ⟨hmem, hlone, ?_⟩
    rw [hff.needed q hmem hlone, hff.alike p q hc (fun hcur => hx.current_hold (by rw [hcur]; rfl) hr.owns hp) hn]

end VkVideoParser.H264
