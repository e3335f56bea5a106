import VkVideoParser.H264.FieldPairs
import VkVideoParser.H264.Runs.Inputs
import VkVideoParser.H264.Script

/-! What the marking operations do to the two fields of a frame. -/

namespace VkVideoParser.H264

open Execution Relation

namespace Store

variable {a b : Store} {p q f g : PicId} {r : PictureReference} {other : Bool} {idx : Int} {l : List PicId}

section Effects

lemma setReference_ref (a : Store) (q : PicId) (r : PictureReference) (other : Bool) (f : PicId) :
    ((a.setReference q r other).pic f).ref =
      if f = q ∨ (other = true ∧ (a.pic q).otherField = some f) then r else (a.pic f).ref := by
  unfold setReference
  cases hother : other <;> cases ho : (a.pic q).otherField with
  | none => simp [ho]; split <;> simp_all
  | some o =>
    simp only [modifyPic_pic, touch_pic, if_true, ho]
    split_ifs <;> simp_all

lemma setReference_longTermFrameIdx (a : Store) (q : PicId) (r : PictureReference) (other : Bool) (f : PicId) :
    ((a.setReference q r other).pic f).longTermFrameIdx = (a.pic f).longTermFrameIdx := by
  unfold setReference
  cases hother : other <;> cases ho : (a.pic q).otherField with
  | none => simp [ho]; split <;> simp_all
  | some o =>
    simp only [modifyPic_pic, touch_pic, if_true, ho]
    split_ifs <;> simp_all

lemma setLongTermFrameIdx_ref (a : Store) (q : PicId) (idx : Int) (f : PicId) :
    ((a.setLongTermFrameIdx q idx).pic f).ref = (a.pic f).ref := by
  have hset : ∀ (q : PicId) (b : Store),
      ((b.modifyPic q fun x => { x with longTermFrameIdx := idx }).pic f).ref = (b.pic f).ref := fun q b => by
    rw [modifyPic_pic]
    split_ifs with h
    · rw [h]
    · rfl
  unfold setLongTermFrameIdx
  simp only
  split
  · exact hset q a
  · split
    · rw [hset, touch_pic, hset]
    · rw [touch_pic, hset]

lemma setLongTermFrameIdx_longTermFrameIdx (a : Store) (q : PicId) (idx : Int) (f : PicId) :
    ((a.setLongTermFrameIdx q idx).pic f).longTermFrameIdx =
      if f = q ∨ ((a.pic q).otherField = some f ∧ (a.pic f).ref = .longTerm) then idx
      else (a.pic f).longTermFrameIdx := by
  have hset : ∀ (q : PicId) (b : Store), ((b.modifyPic q fun x => { x with longTermFrameIdx := idx }).pic f).longTermFrameIdx =
      if f = q then idx else (b.pic f).longTermFrameIdx := fun q b => by
    rw [modifyPic_pic]
    split_ifs <;> rfl
  have hlink : ((a.modifyPic q fun x => { x with longTermFrameIdx := idx }).pic q).otherField = (a.pic q).otherField := by
    rw [modifyPic_pic, if_pos rfl]
  have href : ∀ o, ((a.modifyPic q fun x => { x with longTermFrameIdx := idx }).pic o).ref = (a.pic o).ref := fun o => by
    rw [modifyPic_pic]
    split_ifs with h
    · rw [h]
    · rfl
  unfold setLongTermFrameIdx
  simp only [hlink]
  cases ho : (a.pic q).otherField with
  | none => simp only [hset, reduceCtorEq, false_and, or_false]
  | some o =>
    simp only [touch_pic, href, Option.some.injEq]
    by_cases hr : (a.pic o).ref = .longTerm
    · rw [if_pos hr, hset, touch_pic, hset]
      by_cases hof : o = f
      · subst hof
        rw [if_pos rfl, if_pos (.inr ⟨rfl, hr⟩)]
      · simp only [if_neg (Ne.symm hof), hof, false_and, or_false]
    · rw [if_neg hr, touch_pic, hset]
      by_cases hof : o = f
      · subst hof
        simp only [hr, and_false, or_false]
      · simp only [hof, false_and, or_false]

end Effects

/-- The two fields of a frame, both of them stored. -/
structure StoredFrame (a : Store) (f g : PicId) : Prop where
  left : f ∈ a.dpb.picList
  right : g ∈ a.dpb.picList
  link : (a.pic f).otherField = some g

/-- The picture is `q` or the one linked to it. -/
def Hit (a : Store) (q f : PicId) : Prop := f = q ∨ (a.pic q).otherField = some f

lemma Paired.of_roles (h : a.Paired) (hr : SameRoles a b) : b.Paired where
  nodup := hr.dpb ▸ h.nodup
  back p hp q ho hq := by
    rw [hr.dpb] at hp hq
    rw [(hr.role q).otherField]
    exact h.back p hp q ((hr.role p).otherField.symm.trans ho) hq
  second p hp q ho := by
    rw [hr.dpb] at hp
    rw [(hr.role q).secondField, (hr.role p).secondField]
    exact h.second p hp q ((hr.role p).otherField.symm.trans ho)

lemma StoredFrame.of_roles (h : StoredFrame a f g) (hr : SameRoles a b) : StoredFrame b f g :=
  ⟨hr.dpb ▸ h.left, hr.dpb ▸ h.right, (hr.role f).otherField.trans h.link⟩

lemma StoredFrame.symm (h : StoredFrame a f g) (hp : a.Paired) : StoredFrame a g f :=
  ⟨h.right, h.left, hp.back f h.left g h.link h.right⟩

lemma StoredFrame.hit (h : StoredFrame a f g) (hp : a.Paired) (hq : q ∈ a.dpb.picList) (hf : Hit a q f) : Hit a q g := by
  rcases hf with rfl | hf
  · exact .inr h.link
  · exact .inl (Option.some.inj (h.link.symm.trans (hp.back q hq f hf h.left)))

lemma StoredFrame.hit_iff (h : StoredFrame a f g) (hp : a.Paired) (hq : q ∈ a.dpb.picList) : Hit a q f ↔ Hit a q g :=
  ⟨h.hit hp hq, (h.symm hp).hit hp hq⟩

end Store

/-- Two fields with the same marking. -/
def Alike (x y : Picture) : Prop := x.ref = y.ref ∧ (x.ref = .longTerm → x.longTermFrameIdx = y.longTermFrameIdx)

instance (x y : Picture) : Decidable (Alike x y) := inferInstanceAs (Decidable (_ ∧ _))

lemma Alike.symm {x y : Picture} (h : Alike x y) : Alike y x :=
  ⟨h.1.symm, fun hl => (h.2 (h.1.trans hl)).symm⟩

/-- The stored frames whose two fields are marked alike stay so. -/
def KeepsFrames (a b : Store) : Prop := ∀ f g, a.StoredFrame f g → Alike (a.pic f) (a.pic g) → Alike (b.pic f) (b.pic g)

namespace KeepsFrames

open Store

variable {a b c : Store} {p q f g : PicId} {r : PictureReference} {idx : Int}

lemma refl (a : Store) : KeepsFrames a a := fun _ _ _ h => h

lemma trans (h : KeepsFrames a b) (hr : SameRoles a b) (h' : KeepsFrames b c) : KeepsFrames a c :=
  fun f g hf ha => h' f g (hf.of_roles hr) (h f g hf ha)

-- what is done to a frame is done to both fields
lemma of_hit (hp : a.Paired) (hq : q ∈ a.dpb.picList) {x : PictureReference × Int}
    (hhit : ∀ f, Hit a q f → (b.pic f).ref = x.1 ∧ (x.1 = .longTerm → (b.pic f).longTermFrameIdx = x.2))
    (hmiss : ∀ f, ¬Hit a q f → (b.pic f).ref = (a.pic f).ref ∧ (b.pic f).longTermFrameIdx = (a.pic f).longTermFrameIdx) :
    KeepsFrames a b := by
  intro f g hf ha
  by_cases h : Hit a q f
  · obtain ⟨h₁, h₂⟩ := hhit f h
    obtain ⟨h₃, h₄⟩ := hhit g (hf.hit hp hq h)
    exact ⟨h₁.trans h₃.symm, fun hl => (h₂ (h₁.symm.trans hl)).trans (h₄ (h₁.symm.trans hl)).symm⟩
  · obtain ⟨h₁, h₂⟩ := hmiss f h
    obtain ⟨h₃, h₄⟩ := hmiss g fun hg => h ((hf.hit_iff hp hq).mpr hg)
    exact ⟨h₁.trans (ha.1.trans h₃.symm), fun hl => h₂.trans ((ha.2 (h₁.symm.trans hl)).trans h₄.symm)⟩

lemma unmark (hp : a.Paired) (hq : q ∈ a.dpb.picList) : KeepsFrames a (a.setReference q .none true) := by
  refine of_hit hp hq (x := (.none, 0)) (fun f hf => ?_) fun f hf => ?_
  · rw [setReference_ref, if_pos (hf.imp_right fun h => ⟨rfl, h⟩)]
    exact ⟨rfl, fun h => by cases h⟩
  · rw [setReference_ref, if_neg fun h => hf (h.imp_right And.right), setReference_longTermFrameIdx]
    exact ⟨rfl, rfl⟩

-- a picture apart from the stored frames
lemma of_alone (hq : ∀ f ∈ a.dpb.picList, (b.pic f).ref = (a.pic f).ref ∧
    (b.pic f).longTermFrameIdx = (a.pic f).longTermFrameIdx) : KeepsFrames a b := by
  intro f g hf ha
  obtain ⟨h₁, h₂⟩ := hq f hf.left
  obtain ⟨h₃, h₄⟩ := hq g hf.right
  exact ⟨h₁.trans (ha.1.trans h₃.symm), fun hl => h₂.trans ((ha.2 (h₁.symm.trans hl)).trans h₄.symm)⟩

lemma markLongTerm (hp : a.Paired) (hq : q ∈ a.dpb.picList) :
    KeepsFrames a ((a.setReference q .longTerm true).setLongTermFrameIdx q idx) := by
  have hother : ((a.setReference q .longTerm true).pic q).otherField = (a.pic q).otherField :=
    ((marks_setReference (R := fun _ => True) q .longTerm true a).role q).otherField
  refine of_hit hp hq (x := (.longTerm, idx)) (fun f hf => ?_) fun f hf => ?_
  · have href : ((a.setReference q .longTerm true).pic f).ref = .longTerm := by
      rw [setReference_ref, if_pos (hf.imp_right fun h => ⟨rfl, h⟩)]
    rw [setLongTermFrameIdx_ref, setLongTermFrameIdx_longTermFrameIdx, hother]
    refine ⟨href, fun _ => if_pos (hf.imp_right fun h => ⟨h, href⟩)⟩
  · rw [setLongTermFrameIdx_ref, setLongTermFrameIdx_longTermFrameIdx, hother, setReference_ref,
      if_neg fun h => hf (h.imp_right And.right), if_neg fun h => hf (h.imp_right And.left), setReference_longTermFrameIdx]
    exact ⟨rfl, rfl⟩

-- one field alone: a frame whose fields are marked alike does not survive that
lemma unmark_single (hp : a.Paired) (hr : (a.pic q).ref ≠ .none) :
    KeepsFrames a (a.setReference q .none false) ↔ ∀ g, a.StoredFrame q g → ¬Alike (a.pic q) (a.pic g) := by
  have hpic : ∀ f, ((a.setReference q .none false).pic f).ref = if f = q then .none else (a.pic f).ref := fun f => by
    rw [setReference_ref]
    simp
  refine ⟨fun h g hg ha => ?_, fun h f g hf ha => ?_⟩
  · have hne : g ≠ q := by
      rintro rfl
      have hs := hp.second g hg.left g hg.link
      cases hsec : (a.pic g).secondField <;> simp [hsec] at hs
    have href := (h q g hg ha).1
    rw [hpic, hpic, if_pos rfl, if_neg hne] at href
    exact hr (ha.1.trans href.symm)
  · have hfq : f ≠ q := by
      rintro rfl
      exact h g hf ha
    have hgq : g ≠ q := by
      rintro rfl
      exact h f (hf.symm hp) ha.symm
    refine ⟨?_, ?_⟩
    · rw [hpic, hpic, if_neg hfq, if_neg hgq]
      exact ha.1
    · rw [hpic, if_neg hfq, setReference_longTermFrameIdx, setReference_longTermFrameIdx]
      exact ha.2

lemma unmarkLongTermHolder {tmp other : PicId} (hp : a.Paired) (ht : tmp ∈ a.dpb.picList) (hl : a.isLongTermAt idx tmp) :
    KeepsFrames a (a.unmarkLongTermHolder idx tmp other) := by
  obtain ⟨href, hidx⟩ : (a.pic tmp).ref = .longTerm ∧ (a.pic tmp).longTermFrameIdx = idx := by
    simpa [isLongTermAt] using hl
  have hr : (a.pic tmp).ref ≠ .none := by simp [href]
  unfold Store.unmarkLongTermHolder
  split_ifs with hf
  · exact unmark hp ht
  · cases ho : (a.pic tmp).otherField with
    | none =>
      refine (unmark_single hp hr).mpr fun g hg => ?_
      cases ho.symm.trans hg.link
    | some q =>
      have hroles := (marks_touch (R := fun _ => True) q a).toSameRoles
      have htouch : KeepsFrames a (a.touch q) := of_alone fun f _ => by rw [touch_pic]; exact ⟨rfl, rfl⟩
      have hpt := hp.of_roles hroles
      refine htouch.trans hroles ?_
      simp only
      split_ifs with hq hne
      · exact unmark hpt (hroles.dpb ▸ ht)
      · refine (unmark_single hpt (by rwa [touch_pic])).mpr fun g hg ha => ?_
        rw [touch_pic] at ha
        have hlink := hg.link
        rw [touch_pic, ho, Option.some.injEq] at hlink
        subst hlink
        refine hq ?_
        simp only [isLongTermAt, touch_pic, Bool.and_eq_true, decide_eq_true_eq]
        exact ⟨ha.1.symm.trans href, (ha.2 href).symm.trans hidx⟩
      · exact refl _

end KeepsFrames

namespace Store

variable {a : Store} {p q f : PicId} {m : GstH264RefPicMarking}

lemma setReferenceAll_ref (l : List PicId) (r : PictureReference) (a : Store) (f : PicId) :
    ((a.setReferenceAll l r).pic f).ref = if f ∈ l then r else (a.pic f).ref := by
  unfold setReferenceAll
  induction l generalizing a with
  | nil => simp
  | cons q l ih =>
    rw [List.foldl_cons, ih, setReference_ref]
    by_cases hq : f = q <;> by_cases hl : f ∈ l <;> simp [hq, hl]

-- MMCO 4 looks at every stored field
lemma foldl_unmark (max : Int) (l : List PicId) (a : Store) (f : PicId) :
    let b := l.foldl (fun s p => if (s.pic p).ref = .longTerm ∧ max < (s.pic p).longTermFrameIdx then
      s.setReference p .none false else s) a
    (b.pic f).ref = (if f ∈ l ∧ (a.pic f).ref = .longTerm ∧ max < (a.pic f).longTermFrameIdx then .none
      else (a.pic f).ref) ∧ (b.pic f).longTermFrameIdx = (a.pic f).longTermFrameIdx := by
  induction l generalizing a with
  | nil => simp
  | cons q l ih =>
    simp only [List.foldl_cons] at ih ⊢
    by_cases hc : (a.pic q).ref = .longTerm ∧ max < (a.pic q).longTermFrameIdx
    · rw [if_pos hc]
      obtain ⟨h₁, h₂⟩ := ih (a.setReference q .none false)
      rw [h₁, h₂, setReference_ref, setReference_longTermFrameIdx]
      refine ⟨?_, rfl⟩
      by_cases hf : f = q
      · subst hf
        simp [hc]
      · simp [hf]
    · rw [if_neg hc]
      obtain ⟨h₁, h₂⟩ := ih a
      rw [h₁, h₂]
      refine ⟨?_, rfl⟩
      by_cases hf : f = q
      · subst hf
        simp [hc]
      · simp [hf]

end Store

section Operations

open Store

variable {a : Store} {p q : PicId} (m : GstH264RefPicMarking)

lemma mem_of_shortRef {n : Int} (h : a.dpbGetShortRefByPicNum n = some q) : q ∈ a.dpb.picList := List.mem_of_find?_eq_some h

lemma mmco1_keepsFrames (hp : a.Paired) (hf : (a.pic p).isFrame) : KeepsFrames a (a.mmco1 m p).2 := by
  unfold mmco1
  split
  · rename_i q hq
    rw [hf]
    exact .unmark hp (mem_of_shortRef hq)
  · exact .refl a

lemma mmco2_keepsFrames (hp : a.Paired) : KeepsFrames a (a.mmco2 m).2 ↔
    ∀ q, a.dpbGetLongRefByLongTermPicNum m.longTermPicNum = some q →
      ¬∃ g, a.StoredFrame q g ∧ Alike (a.pic q) (a.pic g) := by
  unfold mmco2
  cases hq : a.dpbGetLongRefByLongTermPicNum m.longTermPicNum with
  | none => exact iff_of_true (.refl a) fun q h => by cases h
  | some q =>
    have hl : (a.pic q).ref = .longTerm := by
      have h := List.find?_some hq
      simp only [Bool.and_eq_true, decide_eq_true_eq] at h
      exact h.1
    refine (KeepsFrames.unmark_single hp (by simp [hl])).trans ?_
    simp

lemma mmco3_keepsFrames (hp : a.Paired) (hf : (a.pic p).isFrame) : KeepsFrames a (a.mmco3 m p).2 := by
  unfold mmco3
  split
  · exact .refl a
  · rename_i q hq
    have hmem := mem_of_shortRef hq
    simp only
    split
    · rename_i tmp htmp
      have hroles := (marks_unmarkLongTermHolder (R := fun _ => True) m.longTermFrameIdx tmp q a).toSameRoles
      refine (KeepsFrames.unmarkLongTermHolder hp (List.mem_of_find?_eq_some htmp) (List.find?_some htmp)).trans hroles ?_
      have hframe : ((a.unmarkLongTermHolder m.longTermFrameIdx tmp q).pic p).isFrame := by
        rwa [Picture.isFrame, (hroles.role p).field]
      rw [hframe]
      exact .markLongTerm (hp.of_roles hroles) (hroles.dpb ▸ hmem)
    · rw [hf]
      exact .markLongTerm hp hmem

lemma mmco4_keepsFrames : KeepsFrames a (a.mmco4 m).2 := by
  intro f g hf ha
  obtain ⟨h₁, h₂⟩ := foldl_unmark (m.maxLongTermFrameIdxPlus1 - 1) a.dpb.picList a f
  obtain ⟨h₃, h₄⟩ := foldl_unmark (m.maxLongTermFrameIdxPlus1 - 1) a.dpb.picList a g
  refine ⟨h₁.trans (Eq.trans ?_ h₃.symm), fun hl => h₂.trans (Eq.trans ?_ h₄.symm)⟩
  · simp only [hf.left, hf.right, true_and, ha.1]
    by_cases hl : (a.pic g).ref = .longTerm
    · rw [ha.2 (ha.1.trans hl)]
    · simp [hl]
  · refine ha.2 ?_
    have hl := h₁.symm.trans hl
    split_ifs at hl
    exact hl

lemma mmco5_keepsFrames (hp : p ∉ a.dpb.picList) : KeepsFrames a (a.mmco5 p).2 := by
  intro f g hf _
  have hnone : ∀ q ∈ a.dpb.picList, ((a.mmco5 p).2.pic q).ref = .none := fun q hq => by
    have hne : q ≠ p := fun h => hp (h ▸ hq)
    rw [mmco5, modifyPic_pic, if_neg hne, setReferenceAll_ref, if_pos hq]
  exact ⟨(hnone f hf.left).trans (hnone g hf.right).symm, fun h => by cases (hnone f hf.left).symm.trans h⟩

lemma mmco6_keepsFrames (hpair : a.Paired) (hp : p ∉ a.dpb.picList) (ho : (a.pic p).otherField = none) :
    KeepsFrames a (a.mmco6 m p).2 := by
  -- the current picture is apart from the stored ones
  have hself : ∀ b : Store, SameRoles a b → KeepsFrames b
      ((b.setReference p .longTerm (b.pic p).secondField).setLongTermFrameIdx p m.longTermFrameIdx) := fun b hb => by
    have hob : (b.pic p).otherField = none := (hb.role p).otherField.trans ho
    have hos : ((b.setReference p .longTerm (b.pic p).secondField).pic p).otherField = none :=
      ((marks_setReference (R := fun _ => True) p .longTerm _ b).role p).otherField.trans hob
    refine KeepsFrames.of_alone fun f hf => ?_
    have hne : f ≠ p := fun h => hp (hb.dpb ▸ h ▸ hf)
    rw [setLongTermFrameIdx_ref, setLongTermFrameIdx_longTermFrameIdx, setReference_ref, setReference_longTermFrameIdx]
    simp [hne, hob, hos]
  unfold mmco6
  simp only
  split
  · rename_i q hq
    have hroles := (marks_setReference (R := fun _ => True) q .none true a).toSameRoles
    exact (KeepsFrames.unmark hpair (List.mem_of_find?_eq_some hq)).trans hroles (hself _ hroles)
  · exact hself a (Marks.refl (R := fun _ => True) a).toSameRoles

end Operations

/-- A frame that is marked: it is not stored and not split yet. -/
structure MarksFrame (a : Store) (p : PicId) : Prop where
  frame : (a.pic p).isFrame
  apart : p ∉ a.dpb.picList
  alone : (a.pic p).otherField = none

section Runs

variable {P : Type} {env : Env P} {k : Phase} {s : Decoder P} {p : PicId}

-- every frame that reference marking comes to is one
lemma marksFrame_of_marking (h : ReflTransGen (Act env) (Phase.idle, Decoder.start env) (k, s))
    (hp : (.marking, p) ∈ k.hold) (hf : (s.pic p).isFrame) : MarksFrame s.store p := by
  have hx : Placed (k, s) := (sound_start.reach h).placed
  have hl : Linked (k, s) := linked_reach h
  have hflight : flight (k, s) p := flight_of_hold hp rfl
  have hframe : (s.pic p).field = .frame := by simpa [Picture.isFrame] using hf
  have hsec : (s.pic p).secondField = false := by
    by_contra hs
    have hs : (s.pic p).secondField = true := by simpa using hs
    obtain ⟨q, hq⟩ := hl.named p hs
    rcases hl.opposite p q (places_of_hold hx hp rfl) hs hq with hm | hm | hm
    · exact hx.not_fresh hp rfl (by simp) hm
    · exact hx.not_starts hp rfl hm
    · exact hm.left hframe
  exact ⟨hf, hx.not_stored hflight, hl.alone p hflight hsec⟩

/-- A frame that reference marking comes to is neither stored nor split, and of the memory management operations of such
a frame only MMCO 2 takes the fields of a stored frame apart. -/
theorem frame_marking (env : Env P) (k : Phase) (s : Decoder P)
    (hreach : ReflTransGen (Act env) (Phase.idle, Decoder.start env) (k, s)) :
    (∀ p, (.marking, p) ∈ k.hold → (s.pic p).isFrame → MarksFrame s.store p) ∧
    ∀ (p : PicId) (m : GstH264RefPicMarking), MarksFrame s.store p →
      (KeepsFrames s.store (s.store.performMemoryManagementControlOperation m p).2 ↔
        (m.memoryManagementControlOperation = 2 →
          ∀ q, s.store.dpbGetLongRefByLongTermPicNum m.longTermPicNum = some q →
            ¬∃ g, s.store.StoredFrame q g ∧ Alike (s.pic q) (s.pic g))) := by
  refine ⟨fun p hp hf => marksFrame_of_marking hreach hp hf, fun p m hp => ?_⟩
  have hpair : s.store.Paired := paired_reach hreach
  unfold Store.performMemoryManagementControlOperation
  split
  · rename_i h
    exact iff_of_true (.refl _) fun h' => by omega
  · rename_i h
    exact iff_of_true (mmco1_keepsFrames m hpair hp.frame) fun h' => by omega
  · rename_i h
    rw [h]
    exact (mmco2_keepsFrames m hpair).trans ⟨fun h _ => h, fun h => h rfl⟩
  · rename_i h
    exact iff_of_true (mmco3_keepsFrames m hpair hp.frame) fun h' => by omega
  · rename_i h
    exact iff_of_true (mmco4_keepsFrames m) fun h' => by omega
  · rename_i h
    exact iff_of_true (mmco5_keepsFrames hp.apart) fun h' => by omega
  · rename_i h
    exact iff_of_true (mmco6_keepsFrames m hpair hp.apart hp.alone) fun h' => by omega
  · exact iff_of_true (.of_alone fun _ _ => ⟨rfl, rfl⟩) fun h' => by contradiction

end Runs

-- an IDR frame of an interlaced sequence, marked for long-term reference
def longTermIdrScript : Script where
  sps := [Script.interlaced]
  pps := [{}]
  slices := [{ decRefPicMarking := { longTermReferenceFlag := true } }]

def longTermIdrInputs : List Input := Script.frames [[Script.spsUnit 0, Script.ppsUnit 0, Script.idrUnit 0]]

def longTermIdrEnd : Decoder Tables := final (runInputs longTermIdrScript.env longTermIdrInputs (Decoder.start longTermIdrScript.env))

-- the picture to come
def nextFrame : PicId := longTermIdrEnd.store.next

lemma marksFrame_nextFrame : MarksFrame longTermIdrEnd.store nextFrame :=
  ⟨by decide +kernel, by decide +kernel, by decide +kernel⟩

theorem frame_marking_mmco3 : KeepsFrames longTermIdrEnd.store
    (longTermIdrEnd.store.performMemoryManagementControlOperation { memoryManagementControlOperation := 3 } nextFrame).2 := by
  obtain ⟨k, hk⟩ := reach_final longTermIdrScript.env longTermIdrInputs
  exact ((frame_marking longTermIdrScript.env k longTermIdrEnd hk).2 nextFrame { memoryManagementControlOperation := 3 }
    marksFrame_nextFrame).mpr fun h => by cases h

theorem frame_halved : longTermIdrEnd.store.StoredFrame 0 1 ∧ Alike (longTermIdrEnd.pic 0) (longTermIdrEnd.pic 1) ∧
    ¬KeepsFrames longTermIdrEnd.store
      (longTermIdrEnd.store.performMemoryManagementControlOperation { memoryManagementControlOperation := 2 } nextFrame).2 := by
  have hf : longTermIdrEnd.store.StoredFrame 0 1 := ⟨by decide +kernel, by decide +kernel, by decide +kernel⟩
  have ha : Alike (longTermIdrEnd.pic 0) (longTermIdrEnd.pic 1) := by decide +kernel
  exact ⟨hf, ha, fun h => absurd (h 0 1 hf ha) (by decide +kernel)⟩

end VkVideoParser.H264
