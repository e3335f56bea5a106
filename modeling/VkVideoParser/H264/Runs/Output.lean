import VkVideoParser.H264.Logs

/-! The functions of the decoder taken apart into moves: output and storage. -/

namespace VkVideoParser.H264

open Execution Relation

variable {P : Type} {env : Env P} {k k' : Phase} {s : Decoder P}

section Phases

variable {r r' : Role} {p q : PicId}

@[simp] lemma Phase.drop_take : (k.take r p).drop r p = k := by
  simp only [Phase.take, Phase.drop, List.erase_cons_head]

@[simp] lemma Phase.turn_take : (k.take r p).turn r r' p = k.take r' p := by
  simp only [Phase.turn, Phase.drop_take]

@[simp] lemma Phase.drop_turn : (k.turn r r' p).drop r' p = k.drop r p := by
  rw [Phase.turn, Phase.drop_take]

lemma Phase.drop_take_comm (h : (r, p) ≠ (r', q)) : (k.take r p).drop r' q = (k.drop r' q).take r p := by
  simp only [Phase.take, Phase.drop, List.erase_cons_tail (by simpa using h : ¬((r, p) == (r', q)) = true)]

lemma Phase.drop_comm : (k.drop r p).drop r' q = (k.drop r' q).drop r p := by
  simp only [Phase.drop, List.erase_comm]

end Phases

section Rules

variable {α β : Type} {Q : β → Phase → Decoder P → Prop}

lemma withStore_bind (k' : Phase) {g : Store → α × Store} {f : α → DecoderM P β}
    (h : Act env (k, s) (k', s.mapStore fun st => (g st).2))
    (hf : Moves (Act env) k' (f (g s.store).1) (s.mapStore fun st => (g st).2) Q) :
    Moves (Act env) k (withStore g >>= f) s Q :=
  Moves.checked_bind k' h fun _ => hf

lemma modifyChecked_bind (k' : Phase) {g : Decoder P → Decoder P} {f : Unit → DecoderM P β}
    (h : Act env (k, s) (k', g s)) (hf : Moves (Act env) k' (f ()) (g s) Q) :
    Moves (Act env) k (modifyChecked g >>= f) s Q :=
  Moves.checked_bind k' h fun _ => hf

lemma modifyChecked_moves (k' : Phase) {g : Decoder P → Decoder P} {Q : Unit → Phase → Decoder P → Prop}
    (h : Act env (k, s) (k', g s)) (hq : Q () k' (g s)) : Moves (Act env) k (modifyChecked g) s Q :=
  Moves.checked k' h fun _ => hq

lemma onStore_bind (k' : Phase) {g : Store → Store} {f : Unit → DecoderM P β}
    (h : Act env (k, s) (k', s.mapStore g)) (hf : Moves (Act env) k' (f ()) (s.mapStore g) Q) :
    Moves (Act env) k (onStore g >>= f) s Q :=
  modifyChecked_bind k' h hf

lemma onStore_moves (k' : Phase) {g : Store → Store} {Q : Unit → Phase → Decoder P → Prop}
    (h : Act env (k, s) (k', s.mapStore g)) (hq : Q () k' (s.mapStore g)) :
    Moves (Act env) k (onStore g) s Q :=
  modifyChecked_moves k' h hq

-- the program goes on when the store is at no fault
lemma onStore_checked (k' : Phase) {g : Store → Store} {Q : Unit → Phase → Decoder P → Prop}
    (h : Act env (k, s) (k', s.mapStore g)) (hq : (g s.store).fault = none → Q () k' (s.mapStore g)) :
    Moves (Act env) k (onStore g) s Q :=
  Moves.checked k' h hq

end Rules

section Output

/-- Two states that agree in the DPB, the cached field and, but for the reference counts, the pictures. -/
structure Quiet (s t : Decoder P) : Prop where
  shape : Store.SameShape s.store t.store
  lastField : t.lastField = s.lastField

lemma Quiet.refl (s : Decoder P) : Quiet s s := ⟨.refl _, rfl⟩

lemma Quiet.trans {s t u : Decoder P} (h : Quiet s t) (h' : Quiet t u) : Quiet s u :=
  ⟨h.shape.trans h'.shape, h'.lastField.trans h.lastField⟩

lemma quiet_unref (p : PicId) (s : Decoder P) : Quiet s (s.mapStore (Store.unref p)) :=
  ⟨Store.sameShape_unref _ _, rfl⟩

lemma quiet_removeFrame (n : Nat) (e : Event) (s : Decoder P) : Quiet s (s.removeFrame n e) :=
  ⟨Store.sameShape_emit _ _, rfl⟩

lemma quiet_displayPicture (p : PicId) (vkpic : VkPic) (frame : VideoCodecFrame) (s : Decoder P) :
    Quiet s (s.displayPicture env p vkpic frame) :=
  ⟨Store.sameShape_emit _ _, rfl⟩

lemma quiet_setLastOutputPoc (n : Int) (s : Decoder P) : Quiet s (s.setLastOutputPoc n) := ⟨.refl _, rfl⟩

lemma Quiet.systemFrameNumber {s t : Decoder P} (h : Quiet s t) (p : PicId) :
    (t.pic p).systemFrameNumber = (s.pic p).systemFrameNumber := by
  obtain ⟨n, hn⟩ := h.shape.pic p
  simp only [Decoder.pic, hn]

lemma getFrame_number {n : Nat} {frame : VideoCodecFrame} (h : s.getFrame n = some frame) :
    frame.systemFrameNumber = n := by
  simpa using List.find?_some h

-- a picture that is output leaves the hand that holds it
lemma Phase.shown_dropped {p : PicId} :
    (((k.turn .output .loose p).take .shown p).drop .loose p).drop .shown p = k.drop .output p := by
  rw [Phase.drop_take_comm (by simp), Phase.drop_take, Phase.turn, Phase.drop_take]

lemma vkOutputPicture_moves {p : PicId} {frame : VideoCodecFrame} (hp : (.output, p) ∈ k.hold)
    (hf : s.getFrame (s.pic p).systemFrameNumber = some frame) :
    Moves (Act env) k (vkOutputPicture env frame p) s fun _ k' s' => k' = k.drop .output p ∧ Quiet s s' := by
  refine Moves.get_bind (Moves.valueOr_bind fun vkpic hv => ?_)
  refine Moves.modify_bind _ (.display p vkpic frame hp hv hf) ?_
  refine onStore_bind _ (.unref (r := .loose) p (by simp) (by simp [Role.dropped]) (by simp)) ?_
  have hd : Quiet s ((s.displayPicture env p vkpic frame).mapStore (Store.unref p)) :=
    (quiet_displayPicture p vkpic frame s).trans (quiet_unref _ _)
  refine Moves.ite (fun _ => ?_) fun _ => ?_
  · refine Moves.get_bind (Moves.modify_bind _ ?_ (Moves.pure ⟨Phase.shown_dropped, hd.trans (quiet_removeFrame _ _ _)⟩))
    rw [(getFrame_number hf).trans (hd.systemFrameNumber p).symm]
    exact .finishFrame p _ (by simp)
  · exact Moves.step (.forgetShown p (by simp)) (Moves.pure ⟨Phase.shown_dropped, hd⟩)

lemma book_setLastOutputPoc (n : Int) : Act env (k, s) (k, s.setLastOutputPoc n) :=
  .book (by constructor <;> rfl)

lemma doOutputPicture_moves {p : PicId} {ret : GstFlowReturn} (hp : (.output, p) ∈ k.hold) :
    Moves (Act env) k (doOutputPicture env p ret) s fun _ k' s' => k' = k.drop .output p ∧ Quiet s s' := by
  refine Moves.get_bind (Moves.modify_bind _ (book_setLastOutputPoc _) ?_)
  have hq := quiet_setLastOutputPoc (s.pic p).picOrderCnt s
  cases hf : s.getFrame (s.pic p).systemFrameNumber with
  | none =>
    refine Moves.step (.doom p hp (.noFrame hf)) ?_
    refine onStore_bind _ (.unref (r := .loose) p (by simp) (by simp [Role.dropped]) (by simp)) (Moves.pure ⟨?_, ?_⟩)
    · exact Phase.drop_turn
    · exact hq.trans (quiet_unref _ _)
  | some frame =>
    refine Moves.bind (vkOutputPicture_moves hp hf) ?_
    rintro flow k' s' - ⟨rfl, h⟩
    exact Moves.pure ⟨rfl, hq.trans h⟩

lemma book_refl : Act env (k, s) (k, s) := .book (by constructor <;> rfl)

lemma bump_bind {β : Type} {drain : Bool} {f : Option PicId → DecoderM P β} {Q : β → Phase → Decoder P → Prop}
    (hn : s.store.dpbGetLowestOutputNeededPicture = none → Moves (Act env) k (f none) s Q)
    (hs : ∀ p, (s.store.dpbBump drain).1 = some p →
      Moves (Act env) (k.take .output p) (f (some p)) (s.mapStore fun st => (st.dpbBump drain).2) Q) :
    Moves (Act env) k (withStore (Store.dpbBump drain) >>= f) s Q := by
  cases hb : (s.store.dpbBump drain).1 with
  | none =>
    obtain ⟨hl, he⟩ := Store.bump_eq_none hb
    have hsame : s.mapStore (fun st => (st.dpbBump drain).2) = s := Decoder.mapStore_of_eq he
    refine withStore_bind k ?_ ?_
    · rw [hsame]
      exact book_refl
    · rw [hsame, hb]
      exact hn hl
  | some p =>
    refine withStore_bind (k.take .output p) (.bump drain p hb) ?_
    rw [hb]
    exact hs p hb

lemma drainLoop_moves (fuel : Nat) (ret : GstFlowReturn) :
    Moves (Act env) k (drainLoop env fuel ret) s fun _ k' s' => k' = k ∧
      (s.store.dpbGetSize < fuel → s'.store.dpbGetLowestOutputNeededPicture = none) := by
  induction fuel generalizing k s ret with
  | zero => exact Moves.pure ⟨rfl, fun h => absurd h (Nat.not_lt_zero _)⟩
  | succ fuel ih =>
    refine bump_bind (fun hl => Moves.pure ⟨rfl, fun _ => hl⟩) fun p hb => ?_
    refine Moves.bind (doOutputPicture_moves (p := p) (by simp)) ?_
    rintro ret' k' s' - ⟨rfl, hq⟩
    rw [Phase.drop_take]
    refine (ih ret').mono ?_
    rintro _ k' t ⟨rfl, hl⟩
    refine ⟨rfl, fun hlt => hl ?_⟩
    have := Store.bump_length hb
    unfold Store.dpbGetSize at hlt ⊢
    rw [hq.shape.dpb]
    exact lt_of_lt_of_le this (Nat.lt_succ_iff.mp hlt)

lemma clearLastField_moves :
    Moves (Act env) k clearLastField s fun _ k' s' => k' = k ∧ Store.SameShape s.store s'.store ∧
      s'.lastField = none ∧ s'.currentSlice = s.currentSlice := by
  refine Moves.get_bind ?_
  cases hl : s.lastField with
  | none => exact Moves.pure ⟨rfl, .refl _, hl, rfl⟩
  | some q => exact modifyChecked_moves k (.unrefLast q hl) ⟨rfl, Store.sameShape_unref _ _, rfl, rfl⟩

lemma dpbClear_picList (st : Store) : st.dpbClear.dpb.picList = [] :=
  congrArg Dpb.picList (Store.sameShape_unrefAll _ _).dpb

lemma emptyDpb_moves (h : s.store.dpbGetLowestOutputNeededPicture = none ∨ k.flushing) :
    Moves (Act env) k emptyDpb s fun _ k' s' => k' = k ∧ DpbEmpty s' := by
  refine Moves.bind clearLastField_moves ?_
  rintro - k' t - ⟨rfl, hs, hl, -⟩
  refine onStore_bind k' (.dpbClear (h.imp_left fun h => hs.lowest.trans h)) ?_
  exact Moves.modify k' (book_setLastOutputPoc _) ⟨rfl, dpbClear_picList _, hl⟩

lemma drainInternal_moves :
    Moves (Act env) k (drainInternal env) s fun _ k' s' => k' = k ∧ DpbEmpty s' := by
  refine Moves.get_bind (Moves.bind (drainLoop_moves _ _) ?_)
  rintro ret k' t - ⟨rfl, hl⟩
  refine Moves.bind (emptyDpb_moves (.inl (hl (Nat.lt_succ_self _)))) ?_
  rintro - k' u - h
  exact Moves.pure h

lemma releaseFrameOf_moves {p c : PicId} {slice : GstH264Slice} (hp : (.output, p) ∈ k.hold)
    (hc : k.current = .clearing c slice) :
    Moves (Act env) k (releaseFrameOf p) s fun _ k' s' => k' = k ∧ Quiet s s' := by
  refine Moves.get_bind ?_
  cases hf : s.getFrame (s.pic p).systemFrameNumber with
  | none => exact Moves.pure ⟨rfl, .refl s⟩
  | some frame =>
    refine Moves.modify k (.removeFrame ?_) ⟨rfl, quiet_removeFrame _ _ s⟩
    rw [getFrame_number hf]
    exact .cleared hp hc

lemma clearDpbLoop_moves (fuel : Nat) {c : PicId} {slice : GstH264Slice} (hc : k.current = .clearing c slice) :
    Moves (Act env) k (clearDpbLoop fuel) s fun _ k' s' => k' = k ∧
      (s.store.dpbGetSize < fuel → s'.store.dpbGetLowestOutputNeededPicture = none) := by
  induction fuel generalizing s with
  | zero => exact Moves.pure ⟨rfl, fun h => absurd h (Nat.not_lt_zero _)⟩
  | succ fuel ih =>
    refine bump_bind (fun hl => Moves.pure ⟨rfl, fun _ => hl⟩) fun p hb => ?_
    refine Moves.bind (releaseFrameOf_moves (p := p) (by simp) hc) ?_
    rintro - k' t - ⟨rfl, hq⟩
    refine Moves.step (.doom (r := .output) p (by simp) (.cleared hc)) ?_
    refine onStore_bind _ (.unref (r := .loose) p (by simp) (by simp [Role.dropped]) (by simp)) ?_
    rw [Phase.drop_turn, Phase.drop_take]
    refine ih.mono ?_
    rintro _ k' u ⟨rfl, hl⟩
    refine ⟨rfl, fun hlt => hl ?_⟩
    have := Store.bump_length hb
    unfold Store.dpbGetSize at hlt ⊢
    rw [Decoder.mapStore_store, Store.unref_dpb, hq.shape.dpb]
    exact lt_of_lt_of_le this (Nat.lt_succ_iff.mp hlt)

lemma clearDpb_moves {c : PicId} {slice : GstH264Slice} (hc : k.current = .clearing c slice) :
    Moves (Act env) k (clearDpb false) s fun _ k' s' => k' = k ∧ DpbEmpty s' := by
  refine Moves.get_bind (Moves.bind (clearDpbLoop_moves _ hc) ?_)
  rintro - k' t - ⟨rfl, hl⟩
  exact emptyDpb_moves (.inl (hl (Nat.lt_succ_self _)))

lemma normalBump_false {st : Store} {x : Picture} {n : Int} (h : st.normalBump (some x) n = false)
    (hx : x.refPic) : st.dpbHasEmptyFrameBuffer := by
  unfold Store.normalBump at h
  split at h
  · assumption
  · simp [hx] at h

lemma lowLatencyBump_false {st : Store} {x lowest : Picture} {mode : BumpMode}
    (h : st.lowLatencyBump (some x) mode lowest = false) (hx : x.refPic) : st.dpbHasEmptyFrameBuffer := by
  simp only [Store.lowLatencyBump] at h
  split_ifs at h <;> exact normalBump_false h hx

lemma needsBump_false {st : Store} {x : Picture} {mode : BumpMode}
    (h : st.dpbNeedsBump (some x) mode = .ok false) (hx : x.refPic) : st.dpbHasEmptyFrameBuffer := by
  unfold Store.dpbNeedsBump at h
  split at h
  · cases h
  · split at h
    · exact normalBump_false (Except.ok.inj h) hx
    · simp only at h
      split_ifs at h
      · exact normalBump_false (Except.ok.inj h) hx
      · cases h
      · cases h
      · exact lowLatencyBump_false (Except.ok.inj h) hx

lemma bumpDpbLoop_moves {mode : BumpMode} {current : Option PicId} (fuel : Nat) (ret : GstFlowReturn)
    (hs : Sound (k, s)) :
    Moves (Act env) k (bumpDpbLoop env mode current fuel ret) s fun _ k' s' => k' = k ∧
      Store.Shrinks s.store s'.store ∧
      (s.store.waiting < fuel → s.store.NoneUnused → ∀ p, current = some p → (s'.pic p).refPic → s'.store.Room) := by
  induction fuel generalizing s ret with
  | zero => exact Moves.pure ⟨rfl, .refl _, fun h => absurd h (Nat.not_lt_zero _)⟩
  | succ fuel ih =>
    have hemit : Store.Shrinks s.store (s.emit (.bumping (s.bumpInfo mode current))).store :=
      (Store.sameShape_emit _ _).shrinks
    replace hs := (show Act env (k, s) _ from .showBumping (s.bumpInfo mode current)).sound hs
    refine Moves.get_bind (Moves.modify_bind k (.showBumping _) ?_)
    cases hneeds : s.store.dpbNeedsBump (current.map s.pic) mode with
    | error e => exact Moves.throw
    | ok b =>
      cases b with
      | false =>
        refine Moves.pure ⟨rfl, hemit, fun _ _ p hp hr => .inl ?_⟩
        rw [hp] at hneeds
        exact needsBump_false hneeds hr
      | true =>
        refine bump_bind (fun hl => Moves.pure ⟨rfl, hemit, fun _ hn p _ _ => .inr ⟨hl, hn⟩⟩) fun p hb => ?_
        have hs' := (show Act env (k, _) _ from .bump false p hb).sound hs
        refine Moves.bind (doOutputPicture_moves (p := p) (by simp)) ?_
        rintro ret' k' t hreach ⟨rfl, hq⟩
        have ht : Sound (k, t) := by simpa using hs'.reach hreach
        rw [Phase.drop_take]
        refine (ih ret' ht).mono ?_
        rintro _ k' u ⟨rfl, hi, hroom⟩
        refine ⟨rfl, ((hemit.trans Store.shrinks_dpbBump).trans hq.shape.shrinks).trans hi, fun hlt hn => hroom ?_ ?_⟩
        · have hw := ((hq.shape.shrinks.waiting_le).trans_lt (Store.bump_waiting hb)).trans_le hemit.waiting_le
          omega
        · exact (Store.noneUnused_bump hs.placed.nodup hn).sameShape hq.shape

lemma bumpDpb_moves {mode : BumpMode} {current : Option PicId} {ret : GstFlowReturn} (hs : Sound (k, s)) :
    Moves (Act env) k (bumpDpb env mode current ret) s fun _ k' s' => k' = k ∧
      Store.Shrinks s.store s'.store ∧
      (s.store.NoneUnused → ∀ p, current = some p → (s'.pic p).refPic → s'.store.Room) := by
  refine Moves.get_bind ((bumpDpbLoop_moves _ _ hs).mono ?_)
  rintro _ k' t ⟨rfl, hi, hroom⟩
  exact ⟨rfl, hi, hroom (Nat.lt_succ_of_le List.countP_le_length)⟩

end Output

section Storage

/-- Two states that agree in the DPB, the cached field and the pictures made before. -/
structure Apart (s t : Decoder P) : Prop where
  dpb : t.store.dpb = s.store.dpb
  lastField : t.lastField = s.lastField
  pic : ∀ q < s.store.next, t.pic q = s.pic q
  next : s.store.next ≤ t.store.next
  currentSlice : t.currentSlice = s.currentSlice
  log : s.store.log ⊆ t.store.log

lemma unref_pic_of_ne {p q : PicId} (h : q ≠ p) (st : Store) : (st.unref p).pic q = st.pic q := by
  unfold Store.unref
  split
  · rfl
  · unfold Store.vkPicFree
    split <;> simp [h]
  · simp [h]

lemma allocPicture_pic_of_ne {p q : PicId} (h : q ≠ p) : (s.allocPicture env p).pic q = s.pic q := by
  unfold Decoder.allocPicture Decoder.pic
  simp only
  split
  · rfl
  · simp [setVkPic, h]

lemma allocPicture_next (p : PicId) : (s.allocPicture env p).store.next = s.store.next := by
  unfold Decoder.allocPicture
  simp only
  split <;> rfl

lemma allocPicture_currentSlice (p : PicId) : (s.allocPicture env p).currentSlice = s.currentSlice := by
  unfold Decoder.allocPicture
  simp only
  split <;> rfl

lemma allocPicture_log (p : PicId) : s.store.log ⊆ (s.allocPicture env p).store.log := by
  unfold Decoder.allocPicture
  simp only
  split <;> exact List.subset_cons_self _ _

lemma apart_new : Apart s (s.mapStore fun st => st.pictureNew.2) :=
  ⟨rfl, rfl, fun _ hq => Function.update_of_ne (ne_of_lt hq) _ _, Nat.le_succ _, rfl, fun _ h => h⟩

-- a change of the picture made last
lemma Apart.of_new {t u : Decoder P} (h : Apart s t) (hd : u.store.dpb = t.store.dpb)
    (hl : u.lastField = t.lastField) (hn : u.store.next = t.store.next)
    (hp : ∀ q, q ≠ s.store.next → u.pic q = t.pic q) (hc : u.currentSlice = t.currentSlice)
    (hlog : t.store.log ⊆ u.store.log) : Apart s u :=
  ⟨hd.trans h.dpb, hl.trans h.lastField, fun q hq => (hp q (ne_of_lt hq)).trans (h.pic q hq), hn ▸ h.next,
    hc.trans h.currentSlice, fun _ he => hlog (h.log he)⟩

lemma Apart.alloc {t : Decoder P} (h : Apart s t) : Apart s (t.allocPicture env s.store.next) :=
  h.of_new (allocPicture_dpb _) (allocPicture_lastField _) (allocPicture_next _) (fun _ hq => allocPicture_pic_of_ne hq)
    (allocPicture_currentSlice _) (allocPicture_log _)

lemma Apart.unref {t : Decoder P} (h : Apart s t) : Apart s (t.mapStore (Store.unref s.store.next)) :=
  h.of_new Store.unref_dpb rfl (Store.sameShape_unref _ _).next (fun _ hq => unref_pic_of_ne hq _) rfl
    (Store.onlyReleases_unref _ _).log_subset

lemma Apart.edit {t : Decoder P} (h : Apart s t) (f : Picture → Picture) :
    Apart s (t.modifyPic s.store.next f) :=
  h.of_new rfl rfl rfl (fun _ hq => Function.update_of_ne hq _ _) rfl fun _ h => h

lemma Apart.prevField {t : Decoder P} (h : Apart s t) (hs : ∀ q ∈ s.store.dpb.picList, q < s.store.next) :
    prevField t = prevField s := by
  unfold H264.prevField
  rw [h.dpb, h.lastField]
  cases s.lastField with
  | some q => rfl
  | none =>
    cases hg : s.store.dpb.picList.getLast? with
    | none => rfl
    | some q => simp only [h.pic q (hs q (List.mem_of_getLast? hg))]

lemma prevField_congr {t : Decoder P} (hd : t.store.dpb = s.store.dpb) (hl : t.lastField = s.lastField)
    (hf : ∀ q, (t.pic q).field = (s.pic q).field) (ho : ∀ q, (t.pic q).otherField = (s.pic q).otherField) :
    prevField t = prevField s := by
  unfold H264.prevField
  simp only [hd, hl, Picture.isFrame, hf, ho]
  rfl

lemma BeginsPair.congr {t : Decoder P} {q : PicId} (hb : BeginsPair s q) (hd : t.store.dpb = s.store.dpb)
    (hl : t.lastField = s.lastField) (hc : t.currentSlice = s.currentSlice)
    (hf : ∀ q, (t.pic q).field = (s.pic q).field) (ho : ∀ q, (t.pic q).otherField = (s.pic q).otherField) :
    BeginsPair t q := by
  refine ⟨(prevField_congr hd hl hf ho).trans hb.prevField, ?_, ?_⟩
  · rw [hc]
    exact hb.fieldPic
  · rw [hc, hf]
    exact hb.opposite

lemma Placed.stored_below (hx : Placed (k, s)) : ∀ q ∈ s.store.dpb.picList, q < s.store.next := fun q hq =>
  hx.below q (.inl (places_of_mem hq))

lemma BeginsPair.apart {t : Decoder P} {q : PicId} (hb : BeginsPair s q) (h : Apart s t) (hs : Placed (k, s)) :
    BeginsPair t q := by
  refine ⟨(h.prevField hs.stored_below).trans hb.prevField, ?_, ?_⟩
  · rw [h.currentSlice]
    exact hb.fieldPic
  · rw [h.currentSlice, h.pic q (hs.below q (.inl (prevField_known hb.prevField)))]
    exact hb.opposite

lemma vkAllocPicture_moves {p : PicId} (hp : (.fresh, p) ∈ k.hold) (hv : (s.pic p).userData = none) :
    Moves (Act env) k (vkAllocPicture env p) s fun _ k' s' => k' = k ∧ s' = s.allocPicture env p :=
  Moves.get_bind (Moves.modify_bind k (.alloc p hp hv) (Moves.pure ⟨rfl, rfl⟩))

lemma showNewField_moves {p q : PicId} (hq : (.fresh, q) ∈ k.hold) (hv : (s.pic q).userData = none) :
    Moves (Act env) k (showNewField env p q) s fun _ k' s' => k' = k ∧ (s' = s ∨ s' = s.allocPicture env q) := by
  refine Moves.get_bind (Moves.ite (fun _ => Moves.pure ⟨rfl, .inl rfl⟩) fun _ => ?_)
  exact (vkAllocPicture_moves hq hv).mono fun _ _ _ h => ⟨h.1, .inr h.2⟩

lemma allocPicture_secondField (p q : PicId) :
    ((s.allocPicture env p).pic q).secondField = (s.pic q).secondField := by
  have h : Changes False False (s.pic q) ((s.allocPicture env p).pic q) := (sameOrder_allocPicture p q).changes
  exact h.secondField

lemma allocPicture_longTermFrameIdx (p q : PicId) :
    ((s.allocPicture env p).pic q).longTermFrameIdx = (s.pic q).longTermFrameIdx := by
  obtain ⟨_, _, _, _, _, _, h⟩ := (sameOrder_allocPicture p q : SameOrder (s.pic q) ((s.allocPicture env p).pic q))
  rw [h]

lemma Store.Shrinks.refs_le {a b : Store} (h : Store.Shrinks a b) : b.refs ≤ a.refs := by
  refine (List.countP_congr fun q _ => ?_).trans_le h.picList.countP_le
  obtain ⟨_, _, _, _, hq, -⟩ := h.pic q
  rw [hq]
  rfl

-- fewer references and more to tell
lemma RefsShown.shrinks {t : Decoder P} {p : PicId} (h : RefsShown s p) (hs : Store.Shrinks s.store t.store)
    (hl : s.store.log ⊆ t.store.log) : RefsShown t p := by
  intro hr
  have hp : (t.pic p).isRef = (s.pic p).isRef := by
    obtain ⟨_, _, _, _, hq, -⟩ := hs.pic p
    rw [Decoder.pic, Decoder.pic, hq]
    rfl
  rcases h (hp.symm.trans hr) with h0 | ⟨info, hinfo, href, hle⟩
  · exact .inl (Nat.le_zero.mp (hs.refs_le.trans_eq h0))
  · exact .inr ⟨info, hl hinfo, href, hs.refs_le.trans hle⟩

lemma refsShown_of_empty {p : PicId} (h : s.store.dpb.picList = []) : RefsShown s p := fun _ => .inl (by rw [Store.refs, h]; rfl)

/-- The log shows the picture as it is when it comes to be placed. -/
structure ShownPlacing (s : Decoder P) (p : PicId) (info : DpbInfo) : Prop where
  log : Event.placing info ∈ s.store.log
  field : info.picture.field = (s.pic p).field
  secondField : info.picture.secondField = (s.pic p).secondField
  ref : info.picture.ref = (s.pic p).ref
  longTermFrameIdx : info.picture.longTermFrameIdx = (s.pic p).longTermFrameIdx
  full : info.full = !s.store.dpbHasEmptyFrameBuffer
  interlaced : info.interlaced = s.store.dpb.interlaced

lemma ShownPlacing.sameShape {t : Decoder P} {p : PicId} {info : DpbInfo} (h : ShownPlacing s p info)
    (hst : Store.SameShape s.store t.store) (hl : t.store.log = s.store.log) : ShownPlacing t p info := by
  obtain ⟨n, hn⟩ := hst.pic p
  refine ⟨hl ▸ h.log, h.field.trans ?_, h.secondField.trans ?_, h.ref.trans ?_, h.longTermFrameIdx.trans ?_, ?_, ?_⟩
  · rw [Decoder.pic, Decoder.pic, hn]
  · rw [Decoder.pic, Decoder.pic, hn]
  · rw [Decoder.pic, Decoder.pic, hn]
  · rw [Decoder.pic, Decoder.pic, hn]
  · rw [hst.hasEmpty, h.full]
  · rw [hst.dpb, h.interlaced]

/-- A picture that is just made. -/
structure Unlinked (x : Picture) : Prop where
  secondField : x.secondField = false
  longTermFrameIdx : x.longTermFrameIdx = 0

lemma unlinked_new : Unlinked ((s.mapStore fun st => st.pictureNew.2).pic s.store.next) :=
  ⟨by simp [Decoder.pic, Store.pictureNew], by simp [Decoder.pic, Store.pictureNew]⟩

lemma newField_bind {β : Type} {p : PicId} {f : Option PicId → DecoderM P β} {Q : β → Phase → Decoder P → Prop}
    (hs : Sound (k, s)) (hnone : ∀ t, Sound (k, t) → Apart s t → Moves (Act env) k (f none) t Q)
    (hsome : ∀ t, Sound (k.take .fresh s.store.next, t) → Apart s t → Unlinked (t.pic s.store.next) →
      Moves (Act env) (k.take .fresh s.store.next)
        (modifyPicture s.store.next (linkSecondField p) >>= fun _ => f (some s.store.next)) t Q) :
    Moves (Act env) k (newFieldPicture env p >>= f) s Q := by
  unfold newFieldPicture
  have hnew : Act env (k, s) (k.take .fresh s.store.next, s.mapStore fun st => st.pictureNew.2) := .new .fresh (.inl rfl)
  refine Moves.assoc (withStore_bind (k.take .fresh s.store.next) hnew (Moves.assoc ?_))
  refine Moves.bind (showNewField_moves (by simp [Store.pictureNew]) (by simp [Store.pictureNew, Decoder.pic])) ?_
  rintro ret k' t hreach ⟨rfl, ht⟩
  have hst := (hnew.sound hs).reach hreach
  have ha : Apart s t := by
    rcases ht with rfl | rfl
    · exact apart_new
    · exact apart_new.alloc
  have hmade : Unlinked (t.pic s.store.next) := by
    rcases ht with rfl | rfl
    · exact unlinked_new
    · exact ⟨(allocPicture_secondField _ _).trans unlinked_new.secondField,
        (allocPicture_longTermFrameIdx _ _).trans unlinked_new.longTermFrameIdx⟩
  refine Moves.ite_bind (fun _ => ?_) fun _ => ?_
  · have hunref : Act env (k.take .fresh s.store.next, t) (k, t.mapStore (Store.unref s.store.next)) := by
      have h : Act env _ _ := .unref (r := .fresh) (k := k.take .fresh s.store.next) (s := t) s.store.next (by simp)
        (by simp [Role.dropped]) fun _ => hmade.secondField
      rwa [Phase.drop_take] at h
    exact Moves.assoc (onStore_bind k hunref (Moves.pure_bind (hnone _ (hunref.sound hst) ha.unref)))
  · exact Moves.assoc (hsome t hst ha hmade)

lemma newFieldPicture_bind {β : Type} {p : PicId} {f : Option PicId → DecoderM P β}
    {Q : β → Phase → Decoder P → Prop} (hs : Sound (k, s)) (hp : BeginsPair s p)
    (hnone : ∀ t, Apart s t → Moves (Act env) k (f none) t Q)
    (hsome : ∀ t, Apart s t → (t.pic s.store.next).secondField → (t.pic s.store.next).otherField = some p →
      Moves (Act env) (k.take .fresh s.store.next) (f (some s.store.next)) t Q) :
    Moves (Act env) k (newFieldPicture env p >>= f) s Q := by
  refine newField_bind hs (fun t _ => hnone t) fun t _ ha _ => ?_
  refine Moves.modify_bind _ (.linkSecond p s.store.next (by simp) (hp.apart ha hs.placed)) (hsome _ (ha.edit _) ?_ ?_)
  · simp [Decoder.pic, linkSecondField]
  · simp [Decoder.pic, linkSecondField]

lemma splitFrame_bind {β : Type} {r : Role} {p : PicId} {f : Option PicId → DecoderM P β}
    {Q : β → Phase → Decoder P → Prop} (hs : Sound (k, s)) (hp : (r, p) ∈ k.hold)
    (hr : r = .gap ∨ r = .settled) (hi : s.store.dpb.interlaced) (hn : r = .gap → (s.pic p).nonexisting)
    (hshown : r = .settled → ∃ info, ShownPlacing s p info)
    (hnone : ∀ t : Decoder P, Sound (k, t) → t.store.dpb = s.store.dpb → (s.store.Room → t.store.Room) →
      (t.pic p).secondField = false → (t.pic p).nonexisting = (s.pic p).nonexisting → Moves (Act env) k (f none) t Q)
    (hsome : ∀ (q : PicId) (t : Decoder P), Sound (k.take .half q, t) → t.store.dpb = s.store.dpb →
      (s.store.Room → t.store.Room) → (t.pic p).secondField = false → (t.pic q).otherField = some p →
      (t.pic p).nonexisting = (s.pic p).nonexisting → Moves (Act env) (k.take .half q) (f (some q)) t Q) :
    Moves (Act env) k (splitFrame env p >>= f) s Q := by
  have hlt : p < s.store.next := hs.placed.below p (.inr ⟨r, hp⟩)
  have hne : s.store.next ≠ p := (ne_of_lt hlt).symm
  unfold splitFrame
  refine Moves.assoc (Moves.get_bind (Moves.assoc (Moves.assertOr_bind fun hf => Moves.assoc ?_)))
  have hfirst : (s.pic p).secondField = false :=
    hs.links.frame_first hs.placed hr hp (by simpa [Picture.isFrame] using hf)
  have hroom : ∀ t, Apart s t → s.store.Room → t.store.Room := fun t ha h =>
    h.congr ha.dpb fun q hq => ha.pic q (hs.placed.stored_below q hq)
  refine newField_bind hs (fun t ht ha => Moves.pure_bind (hnone t ht ha.dpb (hroom t ha) ?_ ?_)) fun t ht ha hmade =>
    ?_
  · rwa [ha.pic p hlt]
  · rw [ha.pic p hlt]
  have hplaced : r = .settled → ∃ info, Event.placing info ∈ t.store.log ∧ info.interlaced ∧ info.picture.isFrame ∧
      info.picture.ref = (t.pic p).ref ∧ info.picture.longTermFrameIdx = (t.pic p).longTermFrameIdx := fun h => by
    obtain ⟨info, hinfo⟩ := hshown h
    rw [ha.pic p hlt]
    refine ⟨info, ha.log hinfo.log, hinfo.interlaced.trans hi, ?_, hinfo.ref, hinfo.longTermFrameIdx⟩
    rwa [Picture.isFrame, hinfo.field]
  have hsplit : Act env (k.take .fresh s.store.next, t) (k.take .half s.store.next, t.splitPair p s.store.next) := by
    have h : Act env _ _ := .splitPair (k := k.take .fresh s.store.next) (s := t) p s.store.next
      (List.mem_cons_of_mem _ hp) hr (by simp) (by rwa [ha.pic p hlt]) (by rwa [ha.dpb])
      hmade.secondField (by rwa [ha.pic p hlt]) hmade.longTermFrameIdx hplaced
    rwa [Phase.turn_take] at h
  have hu := hsplit.sound ht
  have hnew : s.store.next ∉ t.store.dpb.picList := ht.placed.not_stored (flight_of_hold (r := .fresh) (by simp) rfl)
  have hold : p ∉ t.store.dpb.picList := ht.placed.not_stored
    (flight_of_hold (List.mem_cons_of_mem _ hp) (stored_owns hr))
  refine Moves.prepend (.single hsplit)
    (hsome s.store.next (t.splitPair p s.store.next) hu ha.dpb (fun h => ?_) ?_ ?_ ?_) rfl
  · refine (hroom t ha h).congr rfl fun q hq => ?_
    have hqp : q ≠ p := fun he => hold (he ▸ hq)
    have hqn : q ≠ s.store.next := fun he => hnew (he ▸ hq)
    simp [Decoder.splitPair, hqp, hqn]
  · have hp' : ((t.splitPair p s.store.next).pic p).secondField = (t.pic p).secondField := by
      simp [Decoder.splitPair, Decoder.pic, Ne.symm hne, secondField_splitFirst]
    rw [hp', ha.pic p hlt]
    exact hfirst
  · simp [Decoder.splitPair, Decoder.pic, hne, splitOther, linkSecondField]
  · have hp' : ((t.splitPair p s.store.next).pic p).nonexisting = (t.pic p).nonexisting := by
      simp [Decoder.splitPair, Decoder.pic, Ne.symm hne, nonexisting_splitFirst]
    rw [hp', ha.pic p hlt]

lemma assertNoLastField_bind {β : Type} {f : Unit → DecoderM P β} {Q : β → Phase → Decoder P → Prop}
    (hsite : s.store.dpb.interlaced = false ∨ ∃ p, k.current = .gone p ∧ (s.pic p).isFrame)
    (h : s.lastField = none → Moves (Act env) k (f ()) s Q) :
    Moves (Act env) k (assertNoLastField >>= f) s Q := by
  unfold assertNoLastField
  cases hl : s.lastField with
  | none =>
    refine Moves.prepend .refl (h hl) ?_
    simp [run_bind, hl]
  | some q =>
    unfold Moves
    simp only [run_bind, run_get, hl, Option.isNone_some, Bool.false_eq_true, if_false]
    exact ⟨k, .single (.lastFieldNotNull hl hsite)⟩

/-- The first half of a split frame is stored before the second one. -/
def HalfStored (s : Decoder P) (r : Role) (p : PicId) : Prop :=
  r = .half → ∀ q, (s.pic p).otherField = some q → q ∈ s.store.dpb.picList

lemma halfStored_of_ne {r : Role} {p : PicId} (hr : r ≠ .half) : HalfStored s r p := fun h => absurd h hr

/-- What storing a picture does to the fields and their links. -/
structure Stores (p : PicId) (s t : Decoder P) : Prop where
  interlaced : t.store.dpb.interlaced = s.store.dpb.interlaced
  stored : p ∈ t.store.dpb.picList
  kept : ∀ q ∈ s.store.dpb.picList, q ∈ t.store.dpb.picList
  field : ∀ q, (t.pic q).field = (s.pic q).field
  otherField : ∀ q r, (t.pic q).otherField = some r → (s.pic q).otherField = some r ∨ r ∈ t.store.dpb.picList
  linked : ∀ q, (t.pic q).otherField = none → (s.pic q).otherField = none

lemma stores_addPicture (p : PicId) (s : Decoder P) (l : Option PicId) :
    Stores p s ((s.mapStore (Store.addPicture p)).setLastField l) := by
  have hmem : p ∈ (s.store.dpbAdd p).dpb.picList := by simp [Store.dpbAdd_picList]
  refine ⟨Store.dpbAdd_interlaced p s.store, hmem, fun q hq => ?_, fun q => ?_, fun q r hr => ?_, fun q hq => ?_⟩
  · simp [Store.dpbAdd_picList, hq]
  · have hd : Changes False False (s.pic q) ((s.store.dpbAdd p).pic q) := (sameOrder_dpbAdd p q s.store).changes
    exact hd.field.resolve_right id
  · have hr : ((s.store.dpbAdd p).pic q).otherField = some r := hr
    rw [Store.dpbAdd_otherField] at hr
    split at hr
    · cases hr
      exact .inr hmem
    · exact .inl hr
  · have hq : ((s.store.dpbAdd p).pic q).otherField = none := hq
    rw [Store.dpbAdd_otherField] at hq
    split at hq
    · cases hq
    · exact hq

lemma Stores.trans {p q : PicId} {s t u : Decoder P} (h : Stores q s t) (h' : Stores p t u) : Stores p s u := by
  refine ⟨h'.interlaced.trans h.interlaced, h'.stored, fun a ha => h'.kept a (h.kept a ha),
    fun a => (h'.field a).trans (h.field a), fun a r hr => ?_, fun a ha => h.linked a (h'.linked a ha)⟩
  rcases h'.otherField a r hr with hr | hr
  · exact (h.otherField a r hr).imp_right (h'.kept r)
  · exact .inr hr

lemma HalfStored.stores {r : Role} {p q : PicId} {t : Decoder P} (h : HalfStored s r p) (hs : Stores q s t) :
    HalfStored t r p := by
  intro hr a ha
  rcases hs.otherField p a ha with ha | ha
  · exact hs.kept a (h hr a ha)
  · exact ha

/-- The first field of a second one is still referred to when that is placed. -/
def FirstHeld (k : Phase) (s : Decoder P) (r : Role) (p : PicId) : Prop :=
  r = .settled → (s.pic p).secondField → ∀ q, (s.pic p).otherField = some q → (s.pic q).refcount ≠ 0 ∧
    k.current = .gone p ∧ ∀ m ∈ k.hold, m.2 = p

lemma firstHeld_of_first {r : Role} {p : PicId} (h : (s.pic p).secondField = false) : FirstHeld k s r p :=
  fun _ hs => absurd (h.symm.trans hs) (by simp)

lemma FirstHeld.stores {r : Role} {p q : PicId} {l : Option PicId} (h : FirstHeld k s r p)
    (hpq : (s.pic p).otherField = some q) :
    FirstHeld k ((s.mapStore (Store.addPicture q)).setLastField l) r p := by
  intro hr hs a ha
  have hpic : ∀ b, SameOrder (s.pic b) ((s.store.dpbAdd q).pic b) := fun b => sameOrder_dpbAdd q b s.store
  have hsec : (s.pic p).secondField := by
    have hc : Changes False False (s.pic p) ((s.store.dpbAdd q).pic p) := (hpic p).changes
    exact hc.secondField.symm.trans hs
  have ha : ((s.store.dpbAdd q).pic p).otherField = some a := ha
  have haq : a = q := by
    rw [Store.dpbAdd_otherField] at ha
    split at ha
    · exact (Option.some.inj ha).symm
    · exact Option.some.inj (ha.symm.trans hpq)
  subst haq
  obtain ⟨hcount, hk, hh⟩ := h hr hsec a hpq
  refine ⟨?_, hk, hh⟩
  obtain ⟨b, o, hb⟩ := (Store.adds_dpbAdd a s.store).pic a
  have : ((s.store.dpbAdd a).pic a).refcount = (s.pic a).refcount := by rw [hb]; rfl
  exact this ▸ hcount

/-- Room for a first field that was held back: there is when the second one is a reference. -/
def LastRoom (s : Decoder P) (r : Role) (p : PicId) : Prop :=
  ∀ q, s.lastField = some q → (s.pic p).otherField = some q →
    s.store.Room ∨ (r = .settled ∧ (s.pic p).isRef = false ∧ (s.pic q).isRef)

lemma addPictureToDpb_moves {r : Role} {p : PicId} (hp : (r, p) ∈ k.hold) (hr : r.stored)
    (hroom : (s.pic p).otherField = none → s.store.Room) (hlroom : LastRoom s r p)
    (hhalf : HalfStored s r p) (hfirst : FirstHeld k s r p)
    (hframes : r ≠ .half → s.store.dpb.interlaced = false → FrameRoom s r p)
    (hmissing : r = .gap → (s.pic p).nonexisting) :
    Moves (Act env) k (addPictureToDpb p) s fun _ k' s' => k' = k.drop r p ∧ Stores p s s' := by
  have hadd : (∀ q, s.lastField = some q → (s.pic p).otherField ≠ some q) →
      Moves (Act env) k (onStore (Store.addPicture p)) s fun _ k' s' => k' = k.drop r p ∧ Stores p s s' := fun hlast =>
    onStore_moves _ (.add p hp hr hroom hlast hhalf hfirst hframes hmissing) ⟨rfl, stores_addPicture p s s.lastField⟩
  refine Moves.get_bind (Moves.ite (fun hi => ?_) fun hi => ?_)
  · refine assertNoLastField_bind (.inl (by simpa using hi)) fun hl => hadd ?_
    rw [hl]
    simp
  have hi : s.store.dpb.interlaced = true := by simpa using hi
  cases hl : s.lastField with
  | none => exact hadd (by rw [hl]; simp)
  | some q =>
    refine Moves.ite (fun hpq => ?_) fun hpq => hadd ?_
    · have hs := stores_addPicture q s none
      refine modifyChecked_bind k (.addLast p q hp hr hl hpq hi (hlroom q hl hpq)) ?_
      refine onStore_moves _ (.add p hp hr (fun hn => ?_) (by simp) (HalfStored.stores hhalf hs) (hfirst.stores hpq)
        (fun _ hno => ?_) fun hr => ?_) ⟨rfl, ?_⟩
      · cases (hs.linked p hn).symm.trans hpq
      · cases (hs.interlaced.trans hi).symm.trans hno
      · exact (Store.dpbAdd_nonexisting q p s.store).trans (hmissing hr)
      · exact hs.trans (stores_addPicture p _ none)
    · rw [hl]
      rintro _ ⟨⟩
      exact hpq

/-- The two halves of a split frame are stored one after the other. -/
lemma addHalves_moves {r : Role} {p q : PicId} (hs : Sound (k.take .half q, s)) (hp : (r, p) ∈ k.hold)
    (hi : s.store.dpb.interlaced) (hr : r = .gap ∨ r = .settled) (hroom : s.store.Room) (hsec : (s.pic p).secondField = false)
    (hpq : (s.pic q).otherField = some p) (hmissing : r = .gap → (s.pic p).nonexisting) :
    Moves (Act env) (k.take .half q) (do addPictureToDpb p; addPictureToDpb q) s fun _ k' _ => k' = k.drop r p := by
  have hne : r ≠ .half := by rcases hr with rfl | rfl <;> simp
  have hst : r.stored := hr.imp_right .inr
  refine Moves.bind (addPictureToDpb_moves (List.mem_cons_of_mem _ hp) hst (fun _ => hroom) (fun _ _ _ => .inl hroom)
    (halfStored_of_ne hne) (firstHeld_of_first hsec) (fun _ hno => absurd (hi.symm.trans hno) (by simp)) hmissing) ?_
  rintro - k' u hreach ⟨rfl, hu⟩
  have hsu := (hs.reach hreach).placed
  have hstored : ∀ a, (u.pic q).otherField = some a → a ∈ u.store.dpb.picList := fun a ha => by
    rcases hu.otherField q a ha with ha | ha
    · cases hpq.symm.trans ha
      exact hu.stored
    · exact ha
  rw [Phase.drop_take_comm (by simp [hne.symm])]
  refine (addPictureToDpb_moves (r := .half) (by simp) (.inr (.inl rfl)) (fun hn => ?_) (fun a hl ha => ?_)
    (fun _ => hstored) (fun hset => by cases hset) (fun h => absurd rfl h) (by simp)).mono ?_
  · cases (hu.linked q hn).symm.trans hpq
  · exact absurd hl (hsu.not_last_of_stored (hstored a ha))
  · rintro _ k' v ⟨rfl, -⟩
    exact Phase.drop_take

lemma storePicture_moves {p : PicId} {info : DpbInfo} (hs : Sound (k, s)) (hp : (.settled, p) ∈ k.hold)
    (hroom : (s.pic p).otherField = none → s.store.Room) (hlroom : LastRoom s .settled p)
    (hfirst : FirstHeld k s .settled p) (hshown : ShownPlacing s p info)
    (hframes : s.store.dpb.interlaced = false → FrameRoom s .settled p) :
    Moves (Act env) k (storePicture env p) s fun _ k' _ => k' = k.drop .settled p := by
  have hstored : Role.settled.stored := .inr (.inr rfl)
  refine Moves.get_bind (Moves.ite (fun hif => ?_) fun _ => ?_)
  · obtain ⟨hi, hf⟩ : s.store.dpb.interlaced = true ∧ (s.pic p).isFrame = true := by simpa using hif
    have hsec := hs.links.frame_first hs.placed (.inr rfl) hp (by simpa [Picture.isFrame] using hf)
    have hroom := hroom (hs.links.alone p (flight_of_hold hp rfl) hsec)
    refine splitFrame_bind hs hp (.inr rfl) hi (by simp) (fun _ => ⟨info, hshown⟩) (fun t ht hd ht' hsec _ => ?_)
      fun q t ht hd ht' hsec hoth _ => ?_
    · refine Moves.bind (addPictureToDpb_moves hp hstored (fun _ => ht' hroom) (fun _ _ _ => .inl (ht' hroom))
        (halfStored_of_ne (by simp)) (firstHeld_of_first hsec) (fun _ hno => ?_) (by simp)) ?_
      · rw [hd] at hno
        cases hi.symm.trans hno
      · rintro - k' u - ⟨rfl, -⟩
        exact Moves.pure rfl
    · exact addHalves_moves ht hp (hd ▸ hi) (.inr rfl) (ht' hroom) hsec hoth (by simp)
  · exact (addPictureToDpb_moves hp hstored hroom hlroom (halfStored_of_ne (by simp)) hfirst (fun _ => hframes)
      (by simp)).mono fun _ _ _ h => h.1

lemma book_dpbSetLastOutput (p : PicId) (s : Decoder P) :
    Act env (k, s) (k, s.mapStore (Store.dpbSetLastOutput p)) :=
  .book (by constructor <;> rfl)

lemma ShownPlacing.holdsBack {p : PicId} {info : DpbInfo} (h : ShownPlacing s p info)
    (hg : goesToDpb s.store (s.pic p) = false) (hf : (s.pic p).isFrame = false)
    (hs : (s.pic p).secondField = false) : info.holdsBack := by
  have href : (s.pic p).isRef = false ∧ s.store.dpbHasEmptyFrameBuffer = false := by
    simpa [goesToDpb, hs] using hg
  have hframe : info.picture.isFrame = false := by rwa [Picture.isFrame, h.field]
  simp [DpbInfo.holdsBack, hframe, h.secondField, hs, Picture.isRef_congr h.ref, href, h.full]

lemma outputPictureDirectly_moves {p : PicId} {ret : GstFlowReturn} (hs : Placed (k, s)) (hp : (.settled, p) ∈ k.hold)
    (hg : goesToDpb s.store (s.pic p) = false) (hk : k.current = .gone p)
    {info : DpbInfo} (hshown : ShownPlacing s p info) :
    Moves (Act env) k (outputPictureDirectly env p ret) s fun _ k' _ => k' = k.drop .settled p := by
  refine Moves.get_bind (Moves.ite (fun hf => assertNoLastField_bind (.inr ⟨p, hk, hf⟩) fun hl => ?_) fun hf => ?_)
  · refine onStore_bind k (book_dpbSetLastOutput p s) ?_
    refine Moves.step (.direct p hp hf hl hg) (Moves.bind (doOutputPicture_moves (by simp)) ?_)
    rintro - k' t - ⟨rfl, -⟩
    exact Moves.pure Phase.drop_turn
  cases hl : s.lastField with
  | none =>
    refine Moves.ite (fun hsec => ?_) fun hsec => ?_
    · refine Moves.step (.doom p hp (.noFirst hsec hl hg)) ?_
      refine onStore_bind _ (.unref (r := .loose) p (by simp) (by simp [Role.dropped]) (by simp)) (Moves.pure ?_)
      exact Phase.drop_turn
    · have hf : (s.pic p).isFrame = false := by simpa using hf
      have hsec : (s.pic p).secondField = false := by simpa using hsec
      exact Moves.modify_bind _ (.cache p hp hf hsec hl hg hk
        ⟨info, hshown.log, hshown.holdsBack hg hf hsec, hshown.interlaced⟩) (Moves.pure rfl)
  | some q =>
    refine Moves.ite (fun hbad => ?_) fun hgood => ?_
    · refine Moves.step (.doom p hp (.mismatch (by simpa using hf) hl (by simpa using hbad))) ?_
      refine Moves.bind clearLastField_moves ?_
      rintro - k' t - ⟨rfl, -, -⟩
      refine onStore_bind _ (.unref (r := .loose) p (by simp) (by simp [Role.dropped]) (by simp)) (Moves.pure ?_)
      exact Phase.drop_turn
    · obtain ⟨hsec, hpq⟩ : (s.pic p).secondField = true ∧ (s.pic p).otherField = some q := by simpa using hgood
      refine Moves.modify_bind _ (.takeLast p q hp hsec hpq hl) ?_
      refine Moves.modify_bind _ (.link p q (List.mem_cons_of_mem _ hp) (by simp) hsec hpq fun hm => hs.not_last_of_stored hm hl) ?_
      refine onStore_bind _ (book_dpbSetLastOutput q _) ?_
      have hdoom : Doomed (k.take .output q) ((s.setLastField none).modifyPic q (linkField p) |>.mapStore
          (Store.dpbSetLastOutput q)) p .settled := by
        by_cases h : p = q
        · subst h
          exact .paired (q := p) (by simpa [Decoder.pic, Store.dpbSetLastOutput, linkField] using hsec)
            (by simp [Decoder.pic, Store.dpbSetLastOutput, linkField]) (by simp)
        · exact .paired (q := q) (by simpa [Decoder.pic, Store.dpbSetLastOutput, h] using hsec)
            (by simpa [Decoder.pic, Store.dpbSetLastOutput, h] using hpq) (by simp)
      refine Moves.step (.doom p (List.mem_cons_of_mem _ hp) hdoom) ?_
      refine Moves.bind (doOutputPicture_moves (by simp [Phase.turn, Phase.drop_take_comm])) ?_
      rintro flow k' t - ⟨rfl, -⟩
      refine onStore_bind _ (.unref (r := .loose) p ?_ (by simp [Role.dropped]) (by simp)) (Moves.pure ?_)
      · simp [Phase.turn, Phase.drop_take_comm]
      · rw [Phase.drop_comm, Phase.drop_turn, Phase.drop_take_comm (by simp), Phase.drop_take]

end Storage

end VkVideoParser.H264
