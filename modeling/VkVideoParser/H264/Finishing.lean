import VkVideoParser.H264.FirstFields
import VkVideoParser.H264.SlidingWindow

/-! The pictures that finish_picture marks, and what marking can reach. A cached field is a reference only while the
second field that made it one is in the hands of finish_picture. -/

namespace VkVideoParser.H264

open Execution Relation Counting

variable {P : Type} {env : Env P} {k : Phase} {s : Decoder P} {x y : Phase × Decoder P} {p q : PicId}

namespace Store

variable {a b c : Store} {f v : PicId} {r : PictureReference} {S : PicId → Prop} {m : GstH264RefPicMarking}

/-- The pictures that reference marking finds: those stored, and the fields they are linked to. -/
def Reaches (a : Store) (f : PicId) : Prop := f ∈ a.dpb.picList ∨ ∃ v ∈ a.dpb.picList, (a.pic v).otherField = some f

/-- The pictures that the marking of `p` may mark for reference: `p` and the first field of its frame. -/
def Takes (a : Store) (p f : PicId) : Prop := f = p ∨ ((a.pic p).secondField ∧ (a.pic p).otherField = some f)

/-- Two states of a picture that agree in its marking. -/
structure SameMark (x y : Picture) : Prop where
  ref : y.ref = x.ref
  longTermFrameIdx : y.longTermFrameIdx = x.longTermFrameIdx

/-- Only pictures of `S` are marked. -/
def Confined (S : PicId → Prop) (a b : Store) : Prop := ∀ f, ¬S f → SameMark (a.pic f) (b.pic f)

lemma Confined.refl (a : Store) : Confined S a a := fun _ _ => ⟨rfl, rfl⟩

lemma Confined.trans (h : Confined S a b) (h' : Confined S b c) : Confined S a c := fun f hf =>
  ⟨(h' f hf).ref.trans (h f hf).ref, (h' f hf).longTermFrameIdx.trans (h f hf).longTermFrameIdx⟩

lemma Confined.mono {T : PicId → Prop} (h : Confined S a b) (hS : ∀ f, S f → T f) : Confined T a b := fun f hf =>
  h f fun hs => hf (hS f hs)

lemma reaches_of_roles (h : SameRoles a b) : b.Reaches = a.Reaches := by
  funext f
  unfold Reaches
  rw [h.dpb]
  simp only [(h.role _).otherField]

lemma hit_reaches (hv : v ∈ a.dpb.picList) (h : Hit a v f) : a.Reaches f :=
  h.elim (fun h => .inl (h ▸ hv)) fun h => .inr ⟨v, hv, h⟩

lemma confined_touch (q : PicId) (a : Store) : Confined S a (a.touch q) := fun f _ => by
  rw [touch_pic]
  exact ⟨rfl, rfl⟩

lemma confined_setReference {other : Bool} (hv : S v) (ho : other = true → ∀ f, (a.pic v).otherField = some f → S f) :
    Confined S a (a.setReference v r other) := by
  intro f hf
  refine ⟨?_, setReference_longTermFrameIdx ..⟩
  rw [setReference_ref, if_neg]
  rintro (rfl | ⟨h, h'⟩)
  · exact hf hv
  · exact hf (ho h f h')

lemma confined_setLongTermFrameIdx {n : Int} (hv : S v)
    (ho : ∀ f, (a.pic v).otherField = some f → (a.pic f).ref = .longTerm → S f) : Confined S a (a.setLongTermFrameIdx v n) := by
  intro f hf
  refine ⟨setLongTermFrameIdx_ref .., ?_⟩
  rw [setLongTermFrameIdx_longTermFrameIdx, if_neg]
  rintro (rfl | ⟨h, h'⟩)
  · exact hf hv
  · exact hf (ho f h h')

lemma confined_unmark {other : Bool} (hv : v ∈ a.dpb.picList) : Confined a.Reaches a (a.setReference v r other) :=
  confined_setReference (hit_reaches hv (.inl rfl)) fun _ _ h => hit_reaches hv (.inr h)

lemma Confined.then (h : Confined a.Reaches a b) (hr : SameRoles a b) (h' : Confined b.Reaches b c) :
    Confined a.Reaches a c := h.trans (reaches_of_roles hr ▸ h')

lemma confined_foldl {g : Store → PicId → Store} {l : List PicId} (hl : ∀ v ∈ l, v ∈ a.dpb.picList)
    (hg : ∀ b v, v ∈ b.dpb.picList → Confined b.Reaches b (g b v)) (hr : ∀ b v, SameRoles b (g b v)) :
    Confined a.Reaches a (l.foldl g a) := by
  induction l generalizing a with
  | nil => exact .refl a
  | cons v l ih =>
    refine (hg a v (hl v List.mem_cons_self)).then (hr a v) (ih fun w hw => ?_)
    rw [(hr a v).dpb]
    exact hl w (List.mem_cons_of_mem v hw)

lemma roles_setReference (v : PicId) (r : PictureReference) (other : Bool) (a : Store) :
    SameRoles a (a.setReference v r other) := (marks_setReference (R := fun _ => True) v r other a).toSameRoles

lemma confined_setReferenceAll (r : PictureReference) (a : Store) :
    Confined a.Reaches a (a.setReferenceAll a.dpb.picList r) :=
  confined_foldl (fun _ h => h) (fun _ _ hv => confined_unmark hv) fun b v => roles_setReference v r false b

lemma confined_slidingWindowLoop (n : Nat) (a : Store) : Confined a.Reaches a (a.slidingWindowLoop n).2 := by
  induction n generalizing a with
  | zero => exact .refl a
  | succ n ih =>
    rw [slidingWindowLoop]
    cases hv : a.dpbGetLowestFrameNumShortRef with
    | none => exact .refl a
    | some v => exact (confined_unmark (lowestFrameNum_spec hv).1).then (roles_setReference ..) (ih _)

lemma confined_slidingWindow (sps : Option GstH264SPS) (p : PicId) (a : Store) :
    Confined a.Reaches a (a.slidingWindowPictureMarking sps p).2 := by
  unfold slidingWindowPictureMarking
  split
  · exact .refl a
  · cases sps with
    | none => exact .refl a
    | some sps => exact confined_slidingWindowLoop _ a

lemma confined_unmarkLongTermHolder {n : Int} {tmp other : PicId} (ht : tmp ∈ a.dpb.picList) :
    Confined a.Reaches a (a.unmarkLongTermHolder n tmp other) := by
  unfold unmarkLongTermHolder
  split
  · exact confined_unmark ht
  · split
    · exact confined_unmark ht
    · rename_i q _
      have htouch := (sameShape_touch q a)
      have hr : SameRoles a (a.touch q) := (marks_touch (R := fun _ => True) q a).toSameRoles
      have ht' : tmp ∈ (a.touch q).dpb.picList := hr.dpb ▸ ht
      simp only
      split_ifs
      · exact (confined_touch q a).then hr (confined_unmark ht')
      · exact (confined_touch q a).then hr (confined_unmark ht')
      · exact confined_touch q a

-- marking a stored picture for long-term reference
lemma confined_longTerm {n : Int} {other : Bool} (hv : v ∈ a.dpb.picList) :
    Confined a.Reaches a ((a.setReference v .longTerm other).setLongTermFrameIdx v n) := by
  refine (confined_unmark hv).then (roles_setReference ..) (confined_setLongTermFrameIdx ?_ fun f h _ => ?_)
  · exact hit_reaches ((roles_setReference v _ _ a).dpb ▸ hv) (.inl rfl)
  · exact hit_reaches ((roles_setReference v _ _ a).dpb ▸ hv) (.inr h)

end Store

section Places

lemma Act.next_made (h : Act env x y) (hn : y.2.store.next = x.2.store.next + 1) :
    y.2.pic x.2.store.next = { refcount := 1 } := by
  have hno : ∀ n : Nat, n ≠ n + 1 := fun n => (Nat.succ_ne_self n).symm
  cases h with
  | new r hr => simp [Decoder.pic, Store.pictureNew]
  | book h => exact absurd (h.next.symm.trans hn) (hno _)
  | number h | mark p hp hk h => exact absurd (h.next.symm.trans hn) (hno _)
  | unref p hp | unrefCurrent p hk | unrefLast p hk =>
    exact absurd ((Store.sameShape_unref _ _).next.symm.trans hn) (hno _)
  | bump drain p h => exact absurd (Store.shrinks_dpbBump.next.symm.trans hn) (hno _)
  | deleteUnused => exact absurd (Store.shrinks_dpbDeleteUnused.next.symm.trans hn) (hno _)
  | dpbClear h => exact absurd (Store.shrinks_dpbClear.next.symm.trans hn) (hno _)
  | add p hp hr | addLast p q hp hr => exact absurd ((Store.adds_dpbAdd _ _).next.symm.trans hn) (hno _)
  | alloc p hp => exact absurd ((allocPicture_next p).symm.trans hn) (hno _)
  | _ => exact absurd hn (hno _)

-- what has a place had one before, or is just made
lemma Act.placed_of (h : Act env x y) (hq : 0 < places y q) : 0 < places x q ∨ y.2.pic q = { refcount := 1 } := by
  rcases h.places_le q with hle | ⟨rfl, hn, -⟩
  · exact .inl (hq.trans_le hle)
  · exact .inr (h.next_made hn)

lemma placed_cases (hq : 0 < places x q) : q ∈ x.2.store.dpb.picList ∨ x.2.lastField = some q ∨
    x.1.current.place = some q ∨ ∃ r, r.owns = 1 ∧ (r, q) ∈ x.1.hold := by
  by_cases hm : q ∈ x.2.store.dpb.picList
  · exact .inl hm
  by_cases hl : x.2.lastField = some q
  · exact .inr (.inl hl)
  by_cases hc : x.1.current.place = some q
  · exact .inr (.inr (.inl hc))
  have h₁ : slot x.2.lastField q = 0 := by
    by_contra hne
    exact hl (eq_some_of_slot_ne hne)
  have h₂ : slot x.1.current.place q = 0 := by
    by_contra hne
    exact hc (eq_some_of_slot_ne hne)
  rw [places, List.count_eq_zero_of_not_mem hm, h₁, h₂] at hq
  obtain ⟨r, hr, hw⟩ := exists_of_weigh_ne (w := Role.owns) (l := x.1.hold) (b := q) (by omega)
  exact .inr (.inr (.inr ⟨r, Role.owns_of_ne hw, hr⟩))

-- a picture that has a place is stored, cached or on its way
lemma placed_flight (hq : 0 < places x q) : q ∈ x.2.store.dpb.picList ∨ x.2.lastField = some q ∨ flight x q := by
  rcases placed_cases hq with h | h | h | ⟨r, hr, h⟩
  · exact .inl h
  · exact .inr (.inl h)
  · exact .inr (.inr (.inr (.inl h)))
  · exact .inr (.inr (flight_of_hold h hr))

-- a stored picture is stored as long as it has a place
lemma Act.stays (h : Act env x y) (hx : Placed x) (hm : q ∈ x.2.store.dpb.picList) (hq : 0 < places y q) :
    q ∈ y.2.store.dpb.picList := by
  rcases placed_flight hq with hy | hl | hf
  · exact hy
  · rcases h.lastField hl with hlx | ⟨hs, -⟩
    · exact absurd hlx (hx.not_last_of_stored hm)
    · exact absurd hm (hx.not_stored (flight_of_hold hs rfl))
  · exact absurd hm (hx.not_stored (h.flight hf))

-- a cached field stays so until it is stored
lemma Act.last_stays (h : Act env x y) (hx : Placed x) (hl : x.2.lastField = some q) (hq : 0 < places y q) :
    q ∈ y.2.store.dpb.picList ∨ y.2.lastField = some q := by
  rcases placed_flight hq with hy | hy | hf
  · exact .inl hy
  · exact .inr hy
  · exact absurd hl (hx.not_last (h.flight hf))

end Places

/-- The picture is marked, or was it. -/
def Role.late (r : Role) : Prop := r = .marking ∨ r = .marked ∨ r = .settled

def late (x : Phase × Decoder P) (p : PicId) : Prop := ∃ r : Role, r.late ∧ (r, p) ∈ x.1.hold

section Late

lemma Role.late.owns {r : Role} (h : r.late) : r.owns = 1 := by
  rcases h with rfl | rfl | rfl <;> rfl

lemma Role.late.decoded {r : Role} (h : r.late) : r.decoded := .inr h

lemma Role.late.turns {r r' : Role} (h : r.late) (ht : r.Turns r') : r'.late := by
  rcases h with rfl | rfl | rfl <;> cases ht <;> simp [Role.late]

lemma late.not_fresh (hx : Placed x) (h : late x p) : (.fresh, p) ∉ x.1.hold := by
  obtain ⟨r, hr, hm⟩ := h
  exact hx.not_fresh hm hr.owns (by rcases hr with rfl | rfl | rfl <;> simp)

lemma late.below (hx : Placed x) (h : late x p) : p < x.2.store.next := by
  obtain ⟨r, hr, hm⟩ := h
  exact hx.flight_below hm

lemma Role.decoded.held {r : Role} (hr : r.decoded) (hm : (r, p) ∈ x.1.hold) : H264.decoded x p := .inr (.inr ⟨r, hr, hm⟩)

lemma late.decoded (h : late x p) : decoded x p := by
  obtain ⟨r, hr, hm⟩ := h
  exact .inr (.inr ⟨r, hr.decoded, hm⟩)

-- what becomes of a picture that is marked
lemma Act.late (h : Act env x y) (hx : Placed x) (hl : late x q) (hq : 0 < places y q) :
    late y q ∨ q ∈ y.2.store.dpb.picList ∨ y.2.lastField = some q := by
  obtain ⟨r, hr, hm⟩ := hl
  rcases placed_cases hq with hy | hy | hy | ⟨r', hr', hy⟩
  · exact .inr (.inl hy)
  · exact .inr (.inr hy)
  · rcases h.place_of hy with hc | hf
    · exact absurd hm (hx.current_hold hc hr.owns)
    · exact absurd hf (late.not_fresh hx ⟨r, hr, hm⟩)
  · left
    rcases h.hold_of hy with hm' | ⟨-, rfl, -⟩ | ⟨-, hc⟩ | ⟨r'', ht, hm'⟩ | h0
    · obtain rfl := hx.hold_hold hr.owns hr' hm hm'
      exact ⟨r, hr, hy⟩
    · exact absurd (hx.flight_below hm) (lt_irrefl _)
    · exact absurd hm (hx.current_hold (by rw [hc]; rfl) hr.owns)
    · have howns : r''.owns = 1 := by cases ht <;> rfl
      obtain rfl := hx.hold_hold hr.owns howns hm hm'
      exact ⟨r', hr.turns ht, hy⟩
    · omega

-- a second field is not done before the cached first one is
lemma Act.late_last (h : Act env x y) (hl : Linked x) (hp : H264.late x p) (hn : Names x p q)
    (hlast : x.2.lastField = some q) : H264.late y p := by
  obtain ⟨r, hr, hm⟩ := hp
  have hkeep : ∀ {r' : Role} {a : PicId}, (r', a) ≠ (r, p) → (r, p) ∈ x.1.hold.erase (r', a) := fun hne =>
    (List.mem_erase_of_ne (Ne.symm hne)).mpr hm
  have hne : ∀ {r' : Role} {a : PicId}, ¬r'.late → (r', a) ≠ (r, p) := fun hr' he => by
    cases he
    exact hr' hr
  have hturn : ∀ (r' : Role) {r'' : Role} {a : PicId}, r''.late →
      ∃ r, r.late ∧ (r, p) ∈ (r'', a) :: x.1.hold.erase (r', a) := fun r' {r'' a} hr'' => by
    by_cases he : (r', a) = (r, p)
    · cases he
      exact ⟨r'', hr'', List.mem_cons_self⟩
    · exact ⟨r, hr, List.mem_cons_of_mem _ (hkeep he)⟩
  cases h with
  | new | bump | borrow | takeLast | keep | endPicture => exact ⟨r, hr, List.mem_cons_of_mem _ hm⟩
  | beginMarking => exact ⟨r, hr, List.mem_cons_of_mem _ (hkeep (hne (by simp [Role.late])))⟩
  | skipMarking | splitPair => exact ⟨r, hr, List.mem_cons_of_mem _ (hkeep (hne (by simp [Role.late])))⟩
  | endMarking => exact hturn .marking (.inr (.inl rfl))
  | settle => exact hturn .marked (.inr (.inr rfl))
  | display => exact ⟨r, hr, List.mem_cons_of_mem _ (List.mem_cons_of_mem _ (hkeep (hne (by simp [Role.late]))))⟩
  | finishFrame | forgetShown | leak | adopt => exact ⟨r, hr, hkeep (hne (by simp [Role.late]))⟩
  | unref a ha hd =>
    refine ⟨r, hr, hkeep (hne fun hl => ?_)⟩
    rcases hd with rfl | rfl | rfl | rfl <;> rcases hl with hl | hl | hl <;> cases hl
  | doom a ha hd =>
    refine ⟨r, hr, List.mem_cons_of_mem _ (hkeep fun he => ?_)⟩
    cases he
    cases hd with
    | noFrame | cleared => rcases hr with hr | hr | hr <;> cases hr
    | noFirst _ hno => cases hlast.symm.trans hno
    | mismatch _ hsome hbad =>
      cases hlast.symm.trans hsome
      rcases hbad with hs | ho
      · cases hn.secondField.symm.trans hs
      · exact ho hn.otherField
    | paired hs ho hout =>
      cases hn.otherField.symm.trans ho
      exact (hl.output q hout).2 hlast
  | direct a ha hf hno => cases hlast.symm.trans hno
  | cache a ha hf hs hno => cases hlast.symm.trans hno
  | add a ha hr' hroom hlf =>
    refine ⟨r, hr, hkeep fun he => ?_⟩
    cases he
    exact hlf q hlast hn.otherField
  | _ => exact ⟨r, hr, hm⟩

end Late

-- no stored picture is linked to one on its way
lemma Mated.unlinked (hm : Mated x) (hx : Placed x) (hl : Linked x) (hff : FirstFields x) (hq : 0 < places x q)
    (hst : q ∉ x.2.store.dpb.picList) : ¬x.2.store.Reaches q := by
  rintro (hs | ⟨v, hv, ho⟩)
  · exact hst hs
  have ho : (x.2.pic v).otherField = some q := ho
  cases hsec : (x.2.pic v).secondField with
  | false =>
    have hn := hm.back v q hsec ho
    rcases (placed_flight hq).resolve_left hst with hlast | hf
    · cases (hl.last q hlast).1.symm.trans hn.secondField
    · have hfree := hff.free q v hf (hl.back v q hsec ho).2.2.1 hn hv
      cases hfree.symm.trans ho
  | true =>
    rcases (placed_flight hq).resolve_left hst with hlast | hf
    · cases (hl.last q hlast).2.1.symm.trans (hm.stored v q hv ⟨hsec, ho⟩)
    · obtain ⟨hh, -⟩ := (hl.pair v q hsec ho).2 hf
      exact hx.not_stored (flight_of_hold hh rfl) hv

/-- A cached field that is a reference is so by its second field. -/
def LastMarked (x : Phase × Decoder P) : Prop :=
  ∀ q, x.2.lastField = some q → (x.2.pic q).isRef → ∃ p, late x p ∧ Names x p q ∧ (x.2.pic p).isRef

section Marking

variable {st : Store} {done : List GstH264RefPicMarking}

-- commands but the last reach stored pictures only
lemma confined_command {a : Store} {m : GstH264RefPicMarking} (h6 : m.memoryManagementControlOperation ≠ 6) :
    Store.Confined a.Reaches a (a.performMemoryManagementControlOperation m p).2 := by
  unfold Store.performMemoryManagementControlOperation
  split
  · exact .refl a
  · unfold Store.mmco1
    split
    · rename_i v hv
      exact Store.confined_unmark (mem_of_shortRef hv)
    · exact .refl a
  · unfold Store.mmco2
    split
    · rename_i v hv
      have hm : v ∈ a.dpb.picList := List.mem_of_find?_eq_some hv
      show Store.Confined a.Reaches a (a.setReference v .none false)
      exact Store.confined_unmark hm
    · exact .refl a
  · unfold Store.mmco3
    split
    · exact .refl a
    · rename_i v hv
      have hv := mem_of_shortRef hv
      simp only
      split
      · rename_i tmp ht
        have hr := (marks_unmarkLongTermHolder (R := fun _ => True) m.longTermFrameIdx tmp v a).toSameRoles
        exact (Store.confined_unmarkLongTermHolder (List.mem_of_find?_eq_some ht)).then hr
          (Store.confined_longTerm (hr.dpb ▸ hv))
      · exact Store.confined_longTerm hv
  · refine Store.confined_foldl (fun _ h => h) (fun b v hv => ?_) fun b v => ?_
    · split
      · exact Store.confined_unmark hv
      · exact .refl b
    · split
      · exact Store.roles_setReference ..
      · exact ⟨fun _ => .refl _, rfl, rfl, rfl⟩
  · refine (Store.confined_setReferenceAll .none a).trans fun f _ => ?_
    simp only [Store.mmco5, Store.modifyPic_pic]
    split
    · rename_i hf
      rw [hf]
      unfold Store.resetOrderCnt
      split <;> exact ⟨rfl, rfl⟩
    · exact ⟨rfl, rfl⟩
  · exact absurd ‹_› h6
  · exact fun f _ => ⟨rfl, rfl⟩

lemma confined_mmco6 {a : Store} (m : GstH264RefPicMarking)
    (ho : (a.pic p).secondField = false → (a.pic p).otherField = none) :
    Store.Confined (fun f => a.Reaches f ∨ a.Takes p f) a (a.mmco6 m p).2 := by
  have hmark : ∀ b : Store, SameRoles a b → Store.Confined (fun f => a.Reaches f ∨ a.Takes p f) b
      ((b.setReference p .longTerm (b.pic p).secondField).setLongTermFrameIdx p m.longTermFrameIdx) := fun b hr => by
    have htakes : ∀ f, (b.pic p).otherField = some f → a.Takes p f := fun f hf => by
      have hf : (a.pic p).otherField = some f := (hr.role p).otherField.symm.trans hf
      cases hs : (a.pic p).secondField with
      | true => exact .inr ⟨hs, hf⟩
      | false => cases (ho hs).symm.trans hf
    refine (Store.confined_setReference (.inr (.inl rfl)) fun _ f hf => .inr (htakes f hf)).trans
      (Store.confined_setLongTermFrameIdx (.inr (.inl rfl)) fun f hf _ => .inr (htakes f ?_))
    exact ((Store.roles_setReference p .longTerm (b.pic p).secondField b).role p).otherField.symm.trans hf
  unfold Store.mmco6
  simp only
  split
  · rename_i v hv
    have hv : v ∈ a.dpb.picList := List.mem_of_find?_eq_some hv
    exact ((Store.confined_unmark hv).mono fun f => .inl).trans (hmark _ (Store.roles_setReference ..))
  · exact hmark a ⟨fun _ => .refl _, rfl, rfl, rfl⟩

lemma MarksBy.reaches (h : MarksBy env k s p done st)
    (ho : (.marking, p) ∈ k.hold → (s.pic p).secondField = false → (s.pic p).otherField = none) :
    Store.Confined s.store.Reaches s.store st ∨ ((.marking, p) ∈ k.hold ∧ (st.pic p).isRef ∧
      Store.Confined (fun f => s.store.Reaches f ∨ s.store.Takes p f) s.store st) := by
  cases h with
  | idr hp hidr =>
    refine .inr ⟨hp, ?_, ?_⟩
    · unfold Store.markIdr
      simp only
      split
      · simp [Picture.isRef, Store.setReference_ref]
      · simp [Picture.isRef, Store.setReference_ref]
    · have hall := (Store.confined_setReferenceAll .none s.store).mono (T := fun f => s.store.Reaches f ∨ s.store.Takes p f)
        fun f => .inl
      have hset : ∀ r, Store.Confined (fun f => s.store.Reaches f ∨ s.store.Takes p f) s.store.dpbMarkAllNonRef
          (s.store.dpbMarkAllNonRef.setReference p r false) := fun r =>
        Store.confined_setReference (.inr (.inl rfl)) fun h => by cases h
      unfold Store.markIdr
      simp only
      split
      · refine (hall.trans (hset .longTerm)).trans fun f hf => ?_
        have hne : f ≠ p := fun he => hf (.inr (.inl he))
        rw [Store.modifyPic_pic, if_neg hne]
        exact ⟨rfl, rfl⟩
      · exact hall.trans (hset .shortTerm)
  | window hp => exact .inl (Store.confined_slidingWindow _ p s.store)
  | command m l hp hidr ha hl h0 =>
    by_cases h6 : m.memoryManagementControlOperation = 6
    · refine .inr ⟨hp, ?_, ?_⟩
      · simp [Store.performMemoryManagementControlOperation, h6, Store.mmco6, Picture.isRef,
          Store.setLongTermFrameIdx_ref, Store.setReference_ref]
      · simp only [Store.performMemoryManagementControlOperation, h6]
        exact confined_mmco6 m (ho hp)
    · exact .inl (confined_command h6)

end Marking

/-- A move of reference marking for the picture `p`. -/
structure MarksFor (env : Env P) (x y : Phase × Decoder P) (p : PicId) : Prop where
  held : (.gap, p) ∈ x.1.hold ∨ (.marking, p) ∈ x.1.hold
  phase : y.1 = x.1.setDone y.1.done
  lastField : y.2.lastField = x.2.lastField
  log : y.2.store.log = x.2.store.log
  roles : SameRoles x.2.store y.2.store
  marks : MarksBy env x.1 x.2 p y.1.done y.2.store

/-- The marking of `p` begins. -/
structure BeginsMarking (x y : Phase × Decoder P) (p : PicId) : Prop where
  before : x.1.hold = [(.ended, p)]
  after : y.1.hold = [(.marking, p)]
  done : y.1.done = []
  state : y.2 = x.2

/-- The marking that goes on has done the same commands. -/
def Continues (x y : Phase × Decoder P) : Prop :=
  ∀ p, (.marking, p) ∈ y.1.hold → (.marking, p) ∈ x.1.hold ∧ y.1.done = x.1.done

def SoleMarking (x : Phase × Decoder P) : Prop := ∀ p p', (.marking, p) ∈ x.1.hold → (.marking, p') ∈ x.1.hold → p = p'

/-- What a move does to the marking of the pictures: but for reference marking, and for the half of a frame that is
split, it marks nothing for long-term reference. -/
inductive Remarks (env : Env P) (x y : Phase × Decoder P) : Prop
  | kept (h : ∀ q, Store.SameMark (x.2.pic q) (y.2.pic q) ∨
      (unstarted x q ∧ ((y.2.pic q).ref = .longTerm → Store.SameMark (x.2.pic q) (y.2.pic q))))
  | split {r : Role} (p q : PicId) (hr : r = .gap ∨ r = .settled) (hp : (r, p) ∈ x.1.hold) (hq : (.fresh, q) ∈ x.1.hold)
    (hq' : (.half, q) ∈ y.1.hold) (hn : Names y q p) (hf : (x.2.pic p).isFrame) (h : ∀ a, a ≠ q → Store.SameMark (x.2.pic a) (y.2.pic a))
    (ref : (y.2.pic q).ref = (x.2.pic p).ref) (longTermFrameIdx : (y.2.pic q).longTermFrameIdx = 0)
    (hshown : r = .settled → ∃ info, Event.placing info ∈ x.2.store.log ∧ info.interlaced ∧ info.picture.isFrame ∧
      info.picture.ref = (x.2.pic p).ref ∧ info.picture.longTermFrameIdx = (x.2.pic p).longTermFrameIdx)
  | marked (p : PicId) (h : MarksFor env x y p)

section Remarks

lemma Store.SameMark.refl (x : Picture) : SameMark x x := ⟨rfl, rfl⟩

lemma SameOrder.sameMark {a b : Picture} (h : SameOrder a b) : Store.SameMark a b := by
  obtain ⟨_, _, _, _, _, _, rfl⟩ := h
  exact ⟨rfl, rfl⟩

lemma remarks_same (h : ∀ q, SameOrder (x.2.pic q) (y.2.pic q)) : Remarks env x y := .kept fun q => .inl (h q).sameMark

lemma remarks_modifyPic {f : Picture → Picture} (p : PicId) (hr : ∀ x, (f x).ref = x.ref ∨ (f x).ref = .shortTerm)
    (hi : ∀ x, (f x).longTermFrameIdx = x.longTermFrameIdx) (hp : unstarted (k, s) p) :
    Remarks env (k, s) (k, s.modifyPic p f) := by
  refine .kept fun q => ?_
  rw [Decoder.pic, Decoder.pic, Decoder.modifyPic_store, Store.modifyPic_pic]
  split
  · rename_i hq
    subst hq
    refine .inr ⟨hp, fun hlong => ⟨(hr _).resolve_right fun h => ?_, hi _⟩⟩
    cases h.symm.trans hlong
  · exact .inl (.refl _)

lemma Act.remarks (h : Act env x y) (hx : Placed x) : Remarks env x y := by
  cases h with
  | new r hr =>
    rename_i k s
    refine .kept fun q => ?_
    by_cases hq : q = s.store.next
    · refine .inr ⟨.inl hq, fun hlong => ?_⟩
      simp [Decoder.pic, Store.pictureNew, hq] at hlong
    · simp only [Decoder.pic, Decoder.mapStore, Store.pictureNew, Function.update_of_ne hq]
      exact .inl (.refl _)
  | book h =>
    refine remarks_same fun q => ?_
    rw [Decoder.pic, Decoder.pic, h.pic]
    exact .refl _
  | number h => exact .kept fun q => .inl ⟨h.ref q, h.longTermFrameIdx q⟩
  | mark p hp hk h hby => exact .marked p ⟨hp, rfl, rfl, h.log, h.toSameRoles, hby⟩
  | edit p hp hf => exact remarks_modifyPic p hf.ref hf.longTermFrameIdx (.inr (hp.imp_right fun hp => hp.imp_right .inl))
  | linkSecond p p' hp => exact remarks_modifyPic p' (fun _ => .inl rfl) (fun _ => rfl) (.inr (.inl hp))
  | editLost p hk hf => exact remarks_modifyPic p hf.ref hf.longTermFrameIdx (.inr (.inr (.inr (.inr (.inl hk)))))
  | splitPair p q hp hr hq hf hi hs hn hidx hshown =>
    rename_i k s r
    have hne : p ≠ q := by
      rintro rfl
      exact stored_ne hr (hx.hold_hold (stored_owns hr) rfl hp hq)
    have hsecond : (s.splitPair p q).pic q = splitOther (s.pic p) (linkSecondField p (s.pic q)) := by
      simp [Decoder.splitPair, Decoder.pic, hne, hne.symm]
    refine .split p q hr hp hq (by simp) ⟨by rw [hsecond]; rfl, by rw [hsecond]; rfl⟩ hf (fun a ha => ?_)
      (by rw [hsecond]; rfl) (by rw [hsecond]; exact hidx) hshown
    by_cases hap : a = p
    · subst hap
      have hfirst : (s.splitPair a q).pic a = splitFirst (s.pic a) := by simp [Decoder.splitPair, Decoder.pic, ha]
      rw [hfirst]
      unfold splitFirst
      split <;> exact ⟨rfl, rfl⟩
    · simp only [Decoder.pic, Decoder.splitPair, Decoder.modifyPic_store, Store.modifyPic_pic, if_neg ha, if_neg hap]
      exact .refl _
  | alloc p hp => exact remarks_same fun q => sameOrder_allocPicture p q
  | borrow p hp | keep p hp => exact remarks_same (Store.sameShape_ref _ _).sameOrder
  | unref p hp | unrefCurrent p hp | unrefLast p hp => exact remarks_same (Store.sameShape_unref _ _).sameOrder
  | start p slice vkpic | slice p slice vkpic | endPicture p vkpic | losePicture p vkpic =>
    exact remarks_same fun q => sameOrder_setVkPic p q _ _
  | link p => exact remarks_same fun q => sameOrder_modifyPic _ _ _ fun x => ⟨_, _, _, _, _, _, rfl⟩
  | deleteUnused => exact remarks_same Store.shrinks_dpbDeleteUnused.sameOrder
  | dpbClear h => exact remarks_same Store.shrinks_dpbClear.sameOrder
  | bump drain p h => exact remarks_same Store.shrinks_dpbBump.sameOrder
  | add p hp | addLast p q' hp => exact remarks_same fun q => sameOrder_dpbAdd _ q _
  | _ => exact remarks_same fun _ => .refl _

lemma Act.continues (h : Act env x y) (hx : Placed x) (hs : SoleMarking x) :
    (∃ p, MarksFor env x y p) ∨ (∃ p, BeginsMarking x y p) ∨ Continues x y := by
  have hcont : (∀ p, (.marking, p) ∈ y.1.hold → (.marking, p) ∈ x.1.hold) → y.1.done = x.1.done →
      (∃ p, MarksFor env x y p) ∨ (∃ p, BeginsMarking x y p) ∨ Continues x y := fun h hd =>
    .inr (.inr fun p hp => ⟨h p hp, hd⟩)
  have hcons : ∀ {r : Role} {a : PicId} {l : List (Role × PicId)}, r ≠ .marking →
      (∀ p, (.marking, p) ∈ l → (.marking, p) ∈ x.1.hold) → ∀ p, (.marking, p) ∈ (r, a) :: l → (.marking, p) ∈ x.1.hold :=
    fun hr hl p hp => (List.mem_cons.mp hp).elim (fun he => absurd (congrArg Prod.fst he).symm hr) (hl p)
  have herase : ∀ {m : Role × PicId}, ∀ p, (.marking, p) ∈ x.1.hold.erase m → (.marking, p) ∈ x.1.hold :=
    fun _ => List.mem_of_mem_erase
  have hy := h.placed hx
  cases h with
  | mark p hp hk h hby => exact .inl ⟨p, hp, rfl, rfl, h.log, h.toSameRoles, hby⟩
  | beginMarking p hp hh =>
    refine .inr (.inl ⟨p, hh, ?_, rfl, rfl⟩)
    rw [Phase.hold_setDone, Phase.hold_turn, hh]
    simp
  | endMarking p hp =>
    rename_i k s done _
    refine .inr (.inr fun p' hp' => ?_)
    obtain rfl := hs p p' hp (hcons (by simp) herase p' hp')
    have hp' : (.marking, p) ∈ ((k.turn .marking .marked p).setDone done).hold := hp'
    cases hy.hold_hold rfl rfl hp' (by simp : (.marked, p) ∈ ((k.turn .marking .marked p).setDone done).hold)
  | new r hr => exact hcont (hcons (by rcases hr with rfl | rfl <;> simp) fun _ => id) rfl
  | bump | borrow | takeLast | keep | endPicture => exact hcont (hcons (by simp) fun _ => id) rfl
  | skipMarking | settle | direct | doom | splitPair => exact hcont (hcons (by simp) herase) rfl
  | display => exact hcont (hcons (by simp) (hcons (by simp) herase)) rfl
  | finishFrame | forgetShown | unref | leak | adopt | add | cache => exact hcont herase rfl
  | _ => exact hcont (fun _ => id) rfl

lemma soleMarking_reach (h : ReflTransGen (Act env) (({} : Phase), Decoder.start env) x) : SoleMarking x := by
  induction h with
  | refl =>
    intro p p' hp
    cases hp
  | tail hreach hact ih =>
    intro p p' hp hp'
    rcases hact.continues (sound_start.reach hreach).placed ih with ⟨a, hm⟩ | ⟨a, hb⟩ | hc
    · rw [hm.phase] at hp hp'
      exact ih p p' hp hp'
    · rw [hb.after] at hp hp'
      simp only [List.mem_singleton, Prod.mk.injEq, true_and] at hp hp'
      exact hp.trans hp'.symm
    · exact ih p p' (hc p hp).1 (hc p' hp').1

end Remarks

section LastMarked

variable (h : Act env x y) (hx : Placed x) (hl : Linked x) (hm : Mated x) (hff : FirstFields x)

include h hx hl hm hff

-- a picture that is not stored is marked with itself or with its second field only
lemma Act.marks_apart (hq : 0 < places x q) (hu : ¬unstarted x q) (hst : q ∉ x.2.store.dpb.picList) :
    Store.SameMark (x.2.pic q) (y.2.pic q) ∨ ∃ p, (.marking, p) ∈ x.1.hold ∧ y.1.hold = x.1.hold ∧
      (y.2.pic p).isRef ∧ x.2.store.Takes p q ∧ SameRoles x.2.store y.2.store := by
  cases h.remarks hx with
  | kept h => exact (h q).imp_right fun h => absurd h.1 hu
  | split _ p' _ _ hp' _ _ _ h =>
    refine .inl (h q ?_)
    rintro rfl
    exact hu (.inr (.inl hp'))
  | marked p h =>
    have hreach := hm.unlinked hx hl hff hq hst
    rcases h.marks.reaches fun hp hs => hl.alone p (flight_of_hold hp rfl) hs with hc | ⟨hp, href, hc⟩
    · exact .inl (hc q hreach)
    · by_cases ht : x.2.store.Takes p q
      · exact .inr ⟨p, hp, by rw [h.phase]; rfl, href, ht, h.roles⟩
      · exact .inl (hc q fun hq => hq.elim hreach ht)

lemma Act.isRef_late (hp : H264.late x p) (href : (x.2.pic p).isRef) : (y.2.pic p).isRef := by
  obtain ⟨r, hr, hmem⟩ := hp
  have hflight := flight_of_hold hmem hr.owns
  rcases h.marks_apart hx hl hm hff (places_of_hold hx hmem hr.owns) (hx.started (hr.decoded.held hmem)) (hx.not_stored hflight)
    with hs | ⟨p', hp', -, href', rfl | ⟨hs, ho⟩, -⟩
  · rwa [Picture.isRef, hs.ref]
  · exact href'
  · obtain ⟨hh, -⟩ := (hl.pair p' p hs ho).2 hflight
    cases hx.hold_hold rfl rfl hp' hh

lemma Act.lastMarked (hlm : LastMarked x) : LastMarked y := by
  intro q hlast href
  rcases h.lastField hlast with hlx | ⟨-, hst, -, -, hnref, -⟩
  · have hnot : ¬H264.flight x q := fun hf => hx.not_last hf hlx
    have hunst : q ∉ x.2.store.dpb.picList := fun hs => hx.not_last_of_stored hs hlx
    have hu : ¬unstarted x q := by
      rintro (rfl | hu | hu | hu | hu | hu)
      · exact hnot (.inl le_rfl)
      · exact hnot (flight_of_hold hu rfl)
      · exact hnot (flight_of_hold hu rfl)
      · exact hnot (.inr (.inl hu.place))
      · exact hnot (.inr (.inl (by rw [hu]; rfl)))
      · exact hnot (flight_of_hold hu rfl)
    rcases h.marks_apart hx hl hm hff (places_of_lastField hlx) hu hunst with hs | ⟨p, hp, hhold, hpref, rfl | ⟨hsec, ho⟩, hr⟩
    · rw [Picture.isRef, hs.ref] at href
      obtain ⟨p, hp, hn, hpref⟩ := hlm q hlx href
      exact ⟨p, h.late_last hl hp hn hlx, h.keepsNames hx hl hn (hp.below hx) (hp.not_fresh hx),
        h.isRef_late hx hl hm hff hp hpref⟩
    · exact absurd (flight_of_hold hp rfl) hnot
    · exact ⟨p, ⟨.marking, .inl rfl, by rw [hhold]; exact hp⟩,
        ⟨(hr.role p).secondField ▸ hsec, (hr.role p).otherField.trans ho⟩, hpref⟩
  · rw [Decoder.pic, hst] at href
    cases href.symm.trans hnref

end LastMarked

lemma lastMarked_reach (h : ReflTransGen (Act env) (({} : Phase), Decoder.start env) x) : LastMarked x := by
  induction h with
  | refl =>
    intro q hl
    cases hl
  | tail hreach hact ih =>
    have hs := sound_start.reach hreach
    exact hact.lastMarked hs.placed hs.links (mated_reach hreach) (firstFields_reach hreach) ih

end VkVideoParser.H264
