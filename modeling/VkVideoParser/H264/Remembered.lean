import VkVideoParser.Library.Histories
import VkVideoParser.H264.Logs
import VkVideoParser.H264.Runs.Inputs

/-! What the order counts take over from the pictures before, read off the log. -/

namespace VkVideoParser.H264

open Execution Relation Histories

variable {P : Type} {env : Env P} {k : Phase} {s t : Decoder P} {x y : Phase × Decoder P} {p q : PicId} {log : List Event}

def Event.isShown : Event → Bool
  | .orderCount _ | .reference _ => true
  | .removing info => !info.picture.nonexisting
  | _ => false

def Event.countedOrder : Event → Option OrderInfo
  | .orderCount info => some info
  | _ => none

lemma eq_orderCount {e : Event} {info : OrderInfo} (h : e.countedOrder = some info) : e = .orderCount info := by
  cases e <;> cases h
  rfl

-- what is there before the first picture
def noPicture : Picture := { topFieldOrderCnt := 0 }

def lastCount : List Event → Option OrderInfo
  | [] => none
  | .orderCount info :: _ => some info
  | _ :: l => lastCount l

def lastReference : List Event → Picture
  | [] => noPicture
  | .reference x :: _ => x
  | _ :: l => lastReference l

-- the last picture that was decoded
def lastPicture : List Event → Picture
  | [] => noPicture
  | .removing info :: l => if info.picture.nonexisting then lastPicture l else info.picture
  | _ :: l => lastPicture l

def Picture.asRef (x : Picture) : Bool × Int × Int × Int × PictureField :=
  (x.memMgmt5, x.topFieldOrderCnt, x.picOrderCntMsb, x.picOrderCntLsb, x.field)

def Picture.asPrevious (x : Picture) : Int × Bool × Int :=
  (x.frameNum, x.memMgmt5, if x.memMgmt5 then 0 else x.frameNumOffset)

lemma read_hidden {e : Event} (he : e.isShown = false) : lastCount (e :: log) = lastCount log ∧
    lastReference (e :: log) = lastReference log ∧ lastPicture (e :: log) = lastPicture log := by
  cases e with
  | removing info =>
    have hn : info.picture.nonexisting = true := by simpa [Event.isShown] using he
    exact ⟨rfl, rfl, if_pos hn⟩
  | orderCount | reference => cases he
  | _ => exact ⟨rfl, rfl, rfl⟩

/-- Nothing is shown and nothing remembered. -/
structure ShowsNothing (s t : Decoder P) : Prop where
  log : ∃ l, t.store.log = l ++ s.store.log ∧ ∀ e ∈ l, e.isShown = false
  prevRef : t.prevRef = s.prevRef
  prevPicture : t.resetFrameNumOffset.prevPicture = s.resetFrameNumOffset.prevPicture

lemma resetFrameNumOffset_prevPicture (s : Decoder P) : s.resetFrameNumOffset.prevPicture =
    (s.prevFrameNum, s.prevHasMemmgmnt5, if s.prevHasMemmgmnt5 then 0 else s.prevFrameNumOffset) := by
  unfold Decoder.resetFrameNumOffset
  split <;> rename_i h <;> simp [Decoder.prevPicture, h]

lemma resetFrameNumOffset_congr (h : t.prevPicture = s.prevPicture) :
    t.resetFrameNumOffset.prevPicture = s.resetFrameNumOffset.prevPicture := by
  simp only [Decoder.prevPicture, Prod.mk.injEq] at h
  rw [resetFrameNumOffset_prevPicture, resetFrameNumOffset_prevPicture, h.1, h.2.1, h.2.2]

lemma ShowsNothing.of_eq (hr : t.prevRef = s.prevRef) (hp : t.prevPicture = s.prevPicture) (h : t.store.log = s.store.log) :
    ShowsNothing s t := ⟨⟨[], h, by simp⟩, hr, resetFrameNumOffset_congr hp⟩

lemma ShowsNothing.cons {e : Event} (hr : t.prevRef = s.prevRef) (hp : t.prevPicture = s.prevPicture)
    (h : t.store.log = e :: s.store.log) (he : e.isShown = false) : ShowsNothing s t :=
  ⟨⟨[e], h, by simpa using he⟩, hr, resetFrameNumOffset_congr hp⟩

lemma ShowsNothing.of_releases (hr : t.prevRef = s.prevRef) (hp : t.prevPicture = s.prevPicture)
    (h : Store.OnlyReleases s.store t.store) : ShowsNothing s t := by
  obtain ⟨l, hl, hrel⟩ := h
  refine ⟨⟨l, hl, fun e he => ?_⟩, hr, resetFrameNumOffset_congr hp⟩
  have := hrel e he
  cases e <;> first | rfl | cases this

lemma ShowsNothing.reads (h : ShowsNothing s t) : lastCount t.store.log = lastCount s.store.log ∧
    lastReference t.store.log = lastReference s.store.log ∧ lastPicture t.store.log = lastPicture s.store.log := by
  obtain ⟨l, hl, hr⟩ := h.log
  rw [hl]
  exact ⟨read_append hr fun _ _ he => (read_hidden he).1, read_append hr fun _ _ he => (read_hidden he).2.1,
    read_append hr fun _ _ he => (read_hidden he).2.2⟩

inductive Notes (k : Phase) (s : Decoder P) : Decoder P → Prop
  | silent {t : Decoder P} (h : ShowsNothing s t) : Notes k s t
  | count {sps : GstH264SPS} {p : PicId} (hp : (.gap, p) ∈ k.hold ∨ k.current.starts p) (hk : ∃ c, k.current.starts c)
    (h : Counted s sps (s.pic p)) :
    Notes k s (s.emit (.orderCount { sps, maxFrameNum := s.maxFrameNum, picture := s.pic p }))
  | reference {p : PicId} (hp : (.marked, p) ∈ k.hold) (hk : k.current = .gone p) :
    Notes k s ((rememberRef (s.pic p) s).emit (.reference (s.pic p)))
  | picture {p : PicId} (hp : (.marked, p) ∈ k.hold) (hk : k.current = .gone p) :
    Notes k s ((rememberPicture (s.pic p) s).emit (.removing (s.dpbInfo p)))

lemma Act.notes (h : Act env x y) : Notes x.1 x.2 y.2 := by
  cases h with
  | showOrderCount sps p hp hk h => exact .count hp hk h
  | rememberRef p hp hk => exact .reference hp hk
  | rememberPicture p hp hk => exact .picture hp hk
  | resetFrameNumOffset hn =>
    rename_i s n
    refine .silent ⟨⟨[], rfl, by simp⟩, rfl, ?_⟩
    have hs := resetFrameNumOffset_prevPicture s
    rw [hn] at hs
    rw [hn, resetFrameNumOffset_prevPicture]
    cases hm : s.prevHasMemmgmnt5 <;> simp_all [Decoder.withFrameNumOffset, Decoder.prevPicture]
  | showRemoving p hp hn => exact .silent (.cons rfl rfl rfl (by simpa [Event.isShown, Decoder.dpbInfo] using hn))
  | book h => exact .silent (.of_eq h.prevRef h.prevPicture h.log)
  | number h | mark p hp hk h => exact .silent (.of_eq rfl rfl h.log)
  | unref p hp | unrefCurrent p hk | unrefLast p hp =>
    exact .silent (.of_releases rfl rfl (Store.onlyReleases_unref _ _))
  | deleteUnused => exact .silent (.of_releases rfl rfl (Store.onlyReleases_dpbDeleteUnused _))
  | bump drain p hp => exact .silent (.of_releases rfl rfl (Store.onlyReleases_dpbBump _ _))
  | dpbClear hp => exact .silent (.of_releases rfl rfl (Store.onlyReleases_dpbClear _))
  | add p hp hr | addLast p q hp hr =>
    obtain ⟨info, hlog⟩ := Store.addPicture_log _ _
    exact .silent (.cons rfl rfl hlog rfl)
  | alloc p hp =>
    refine .silent ?_
    unfold Decoder.allocPicture
    simp only
    split <;> exact .cons rfl rfl rfl rfl
  | removeFrame h => cases h <;> exact .silent (.cons rfl rfl rfl rfl)
  | updateSps | updatePps => exact .silent ⟨⟨[_, _], rfl, by simp [Event.isShown]⟩, rfl, resetFrameNumOffset_congr rfl⟩
  | parserParseSps | parserParsePps | parserUpdateSps | beginSequence | unhandledNALU | lastFieldNotNull | showPlacing
  | showBumping | flush | finishFrame | start | slice | endPicture | losePicture | display =>
    exact .silent (.cons rfl rfl rfl rfl)
  | _ => exact .silent (.of_eq rfl rfl rfl)

/-- What became of a picture that was counted. -/
structure Becomes (x y : Picture) : Prop extends KeepsOrder x y where
  idr : y.idr = x.idr
  field : y.field = x.field
  nonexisting : y.nonexisting = x.nonexisting

lemma Becomes.refl (x : Picture) : Becomes x x := ⟨.refl x, rfl, rfl, rfl⟩

lemma Becomes.trans {a b c : Picture} (h : Becomes a b) (h' : Becomes b c) : Becomes a c :=
  ⟨h.toKeepsOrder.trans h'.toKeepsOrder, h'.idr.trans h.idr, h'.field.trans h.field, h'.nonexisting.trans h.nonexisting⟩

/-- The picture was counted when the last reference and the last picture were those of the log. -/
structure CountedAfter (P : Type) (log : List Event) (info : OrderInfo) : Prop where
  memMgmt5 : info.picture.memMgmt5 = false
  counted : ∃ s : Decoder P, s.prevRef = (lastReference log).asRef ∧
    s.resetFrameNumOffset.prevPicture = (lastPicture log).asPrevious ∧ s.maxFrameNum = info.maxFrameNum ∧
      Counted s info.sps info.picture

/-- The picture is the one that was counted last. -/
def CountedLast (log : List Event) (x : Picture) : Prop :=
  ∃ info, lastCount log = some info ∧ Becomes info.picture x ∧ info.picture.memMgmt5 = false ∧
    info.picture.nonexisting = false ∧ Settled info.picture

/-- A picture is counted after the last ones, and only the picture counted last is remembered. -/
def InOrder (P : Type) (log : List Event) : Event → Prop
  | .orderCount info => CountedAfter P log info
  | .reference x => CountedLast log x
  | .removing info => info.picture.nonexisting = false → CountedLast log info.picture
  | _ => True

lemma inOrder_hidden {e : Event} (he : e.isShown = false) : InOrder P log e := by
  cases e with
  | removing info =>
    intro hn
    rw [Event.isShown, hn] at he
    cases he
  | orderCount | reference => cases he
  | _ => trivial

-- a picture to be decoded that is not counted yet
def opening (x : Phase × Decoder P) (q : PicId) : Prop := (.fresh, q) ∈ x.1.hold ∨ x.1.current.starts q

def raw (x : Phase × Decoder P) (q : PicId) : Prop := opening x q ∨ (.gap, q) ∈ x.1.hold

-- a picture between its count and its being remembered
def aged (x : Phase × Decoder P) (q : PicId) : Prop :=
  (∃ slice, x.1.current.filledBy q slice) ∨ x.1.current = .decoding q ∨
    (x.1.current = .gone q ∧ ∃ r, (r = .ended ∨ r = .marking ∨ r = .marked) ∧ (r, q) ∈ x.1.hold)

lemma aged.decoded (h : aged x q) : decoded x q := by
  rcases h with h | h | ⟨-, r, hr, hm⟩
  · exact .inl h
  · exact .inr (.inl h)
  · refine .inr (.inr ⟨r, ?_, hm⟩)
    rcases hr with rfl | rfl | rfl <;> simp [Role.decoded]

lemma aged.not_starts (h : aged x q) : ¬∃ c, x.1.current.starts c := by
  rintro ⟨c, slice, hc⟩
  rcases h with ⟨_, h | h⟩ | h | ⟨h, -⟩ <;> cases hc.symm.trans h

lemma aged.not_split (hx : Placed x) (h : aged x q) : ¬∃ r, r.stored ∧ (r, q) ∈ x.1.hold := by
  rcases h with ⟨slice, h⟩ | h | ⟨-, r, hr, hm⟩
  · exact hx.field_steady h.place
  · exact hx.field_steady (by rw [h]; rfl)
  · rintro ⟨r', hr', hm'⟩
    have hown : r.owns = 1 := by rcases hr with rfl | rfl | rfl <;> rfl
    have := hx.hold_hold hown hr'.owns hm hm'
    rcases hr with rfl | rfl | rfl <;> rcases hr' with rfl | rfl | rfl <;> cases this

lemma Act.aged (h : Act env x y) (hy : aged y q) : aged x q ∨
    (y.2 = x.2 ∧ opening x q ∧ ∃ info l, x.2.store.log = .orderCount info :: l ∧ info.picture = x.2.pic q) := by
  rcases hy with ⟨slice, hy⟩ | hy | ⟨hy, r, hr, hm⟩
  · cases h with
    | fill p slice' hk hs hc =>
      rcases hy with hy | hy
      · cases hy
        exact .inr ⟨rfl, .inr ⟨_, hk⟩, hc⟩
      · cases hy
    | clear p slice' hk =>
      rcases hy with hy | hy
      · cases hy
      · cases hy
        exact .inl (.inl ⟨_, .inl hk⟩)
    | adopt | start | endPicture | losePicture | unrefCurrent | forgetCurrent => rcases hy with hy | hy <;> cases hy
    | _ => exact .inl (.inl ⟨slice, hy⟩)
  · cases h with
    | start p slice vkpic hk =>
      cases hy
      exact .inl (.inl ⟨slice, hk⟩)
    | fill | clear | adopt | endPicture | losePicture | unrefCurrent | forgetCurrent => cases hy
    | _ => exact .inl (.inr (.inl hy))
  · left
    have hkeep : x.1.current = .gone q → (r, q) ∈ x.1.hold → H264.aged x q := fun hc h => .inr (.inr ⟨hc, r, hr, h⟩)
    cases h with
    | endPicture p vkpic hk =>
      cases hy
      exact .inr (.inl hk)
    | beginMarking p hp =>
      simp only [Phase.hold_setDone, Phase.hold_turn, List.mem_cons, Prod.mk.injEq] at hm
      rcases hm with ⟨-, rfl⟩ | hm
      · exact .inr (.inr ⟨hy, _, .inl rfl, hp⟩)
      · exact hkeep hy (List.mem_of_mem_erase hm)
    | endMarking p hp =>
      simp only [Phase.hold_setDone, Phase.hold_turn, List.mem_cons, Prod.mk.injEq] at hm
      rcases hm with ⟨-, rfl⟩ | hm
      · exact .inr (.inr ⟨hy, _, .inr (.inl rfl), hp⟩)
      · exact hkeep hy (List.mem_of_mem_erase hm)
    | skipMarking p hp =>
      simp only [Phase.hold_turn, List.mem_cons, Prod.mk.injEq] at hm
      rcases hm with ⟨-, rfl⟩ | hm
      · exact .inr (.inr ⟨hy, _, .inl rfl, hp⟩)
      · exact hkeep hy (List.mem_of_mem_erase hm)
    | settle p hp | doom p hp | direct p hp | splitPair p p' hp' hr' hp =>
      simp only [Phase.hold_turn, List.mem_cons, Prod.mk.injEq] at hm
      rcases hm with ⟨rfl, -⟩ | hm
      · simp at hr
      · exact hkeep hy (List.mem_of_mem_erase hm)
    | display p vkpic frame hp =>
      simp only [Phase.hold_take, Phase.hold_turn, List.mem_cons, Prod.mk.injEq] at hm
      rcases hm with ⟨rfl, -⟩ | ⟨rfl, -⟩ | hm
      · simp at hr
      · simp at hr
      · exact hkeep hy (List.mem_of_mem_erase hm)
    | bump | borrow | takeLast | keep =>
      simp only [Phase.hold_take, List.mem_cons, Prod.mk.injEq] at hm
      rcases hm with ⟨rfl, -⟩ | hm
      · simp at hr
      · exact hkeep hy hm
    | new r' hr' =>
      simp only [Phase.hold_take, List.mem_cons, Prod.mk.injEq] at hm
      rcases hm with ⟨rfl, -⟩ | hm
      · rcases hr' with rfl | rfl <;> simp at hr
      · exact hkeep hy hm
    | finishFrame | forgetShown | unref | leak | add | cache => exact hkeep hy (List.mem_of_mem_erase hm)
    | fill | clear | adopt | start | losePicture | unrefCurrent | forgetCurrent => cases hy
    | _ => exact hkeep hy hm

lemma Act.held_raw (h : Act env x y) {r : Role} (hr : r = .fresh ∨ r = .gap) (hm : (r, q) ∈ y.1.hold) :
    (r, q) ∈ x.1.hold ∨ y.2.pic q = { refcount := 1 } := by
  cases h with
  | new r' hr' =>
    simp only [Phase.hold_take, List.mem_cons, Prod.mk.injEq] at hm
    rcases hm with ⟨-, rfl⟩ | hm
    · right
      simp [Decoder.pic, Store.pictureNew]
    · exact .inl hm
  | bump | borrow | takeLast | keep =>
    simp only [Phase.hold_take, List.mem_cons, Prod.mk.injEq] at hm
    rcases hm with ⟨rfl, -⟩ | hm
    · simp at hr
    · exact .inl hm
  | endPicture =>
    simp only [Phase.setCurrent, Phase.take, List.mem_cons, Prod.mk.injEq] at hm
    rcases hm with ⟨rfl, -⟩ | hm
    · simp at hr
    · exact .inl hm
  | beginMarking | endMarking | skipMarking | settle | doom | direct | splitPair =>
    simp only [Phase.hold_setDone, Phase.hold_turn, List.mem_cons, Prod.mk.injEq] at hm
    rcases hm with ⟨rfl, -⟩ | hm
    · simp at hr
    · exact .inl (List.mem_of_mem_erase hm)
  | display =>
    simp only [Phase.hold_take, Phase.hold_turn, List.mem_cons, Prod.mk.injEq] at hm
    rcases hm with ⟨rfl, -⟩ | ⟨rfl, -⟩ | hm
    · simp at hr
    · simp at hr
    · exact .inl (List.mem_of_mem_erase hm)
  | finishFrame | forgetShown | unref | leak | adopt | add | cache => exact .inl (List.mem_of_mem_erase hm)
  | _ => exact .inl hm

lemma Act.opening (h : Act env x y) (hy : opening y q) : opening x q ∨ y.2.pic q = { refcount := 1 } := by
  rcases hy with hy | ⟨slice, hy⟩
  · exact (h.held_raw (.inl rfl) hy).imp_left .inl
  · left
    cases h with
    | adopt p hp =>
      cases hy
      exact .inl hp
    | fill | clear | start | endPicture | losePicture | unrefCurrent | forgetCurrent => cases hy
    | _ => exact .inr ⟨slice, hy⟩

lemma Act.raw (h : Act env x y) (hy : raw y q) : raw x q ∨ y.2.pic q = { refcount := 1 } := by
  rcases hy with hy | hy
  · exact (h.opening hy).imp_left .inl
  · exact (h.held_raw (.inr rfl) hy).imp_left .inr

lemma raw.place (hx : Placed x) (h : raw x q) :
    (∀ r : Role, r.owns = 1 → (r, q) ∈ x.1.hold → r = .fresh ∨ r = .gap) ∧ x.1.current ≠ .lost q := by
  rcases h with (h | ⟨slice, h⟩) | h
  · refine ⟨fun r hr hm => .inl (hx.hold_hold hr rfl hm h), fun hc => hx.current_hold (by rw [hc]; rfl) rfl h⟩
  · refine ⟨fun r hr hm => absurd hm (hx.current_hold (by rw [h]; rfl) hr), fun hc => ?_⟩
    rw [h] at hc
    cases hc
  · refine ⟨fun r hr hm => .inr (hx.hold_hold hr rfl hm h), fun hc => hx.current_hold (by rw [hc]; rfl) rfl h⟩

lemma Act.raw_memMgmt5 (h : Act env x y) (hx : Placed x) (hr : H264.raw x q) (h5 : (x.2.pic q).memMgmt5 = false)
    (hy : (.half, q) ∉ y.1.hold) : (y.2.pic q).memMgmt5 = false := by
  cases h.touched q with
  | changed hc hc5 =>
    refine Bool.eq_false_iff.mpr fun ht => ?_
    rcases hc5 ht with hx5 | hm
    · exact Bool.eq_false_iff.mp h5 hx5
    · rcases (hr.place hx).1 .marking rfl hm with hm | hm <;> cases hm
  | made hq hn hp => rw [hp]
  | edited hu he => exact he.trans h5
  | half _ hm => exact absurd hm hy

lemma Act.opening_nonexisting (h : Act env x y) (hx : Placed x) (ho : H264.opening x q)
    (hn : (x.2.pic q).nonexisting = false) (hy : (.half, q) ∉ y.1.hold) : (y.2.pic q).nonexisting = false := by
  have hplace := raw.place hx (.inl ho)
  cases h.touched q with
  | changed hc => exact hc.nonexisting.trans hn
  | made hq hn hp => rw [hp]
  | edited hu he hne =>
    rcases hne with he | ⟨hg, -⟩ | hl
    · exact he.trans hn
    · rcases ho with ho | ⟨slice, ho⟩
      · cases hx.hold_hold rfl rfl hg ho
      · exact absurd hg (hx.current_hold (by rw [ho]; rfl) rfl)
    · exact absurd hl hplace.2
  | half _ hm => exact absurd hm hy

lemma Act.aged_becomes (h : Act env x y) (hx : Placed x) (ha : H264.aged x q) : Becomes (x.2.pic q) (y.2.pic q) := by
  have hc := h.changes (hx.started ha.decoded)
  exact ⟨hc.order.resolve_right (ha.not_split hx), hc.idr, hc.field.resolve_right (ha.not_split hx), hc.nonexisting⟩

structure Remembered (x : Phase × Decoder P) : Prop where
  raw : ∀ q, raw x q → (x.2.pic q).memMgmt5 = false
  opening : ∀ q, opening x q → (x.2.pic q).nonexisting = false
  aged : ∀ q, aged x q → CountedLast x.2.store.log (x.2.pic q)
  prevRef : x.2.prevRef = (lastReference x.2.store.log).asRef
  prevPicture : x.2.resetFrameNumOffset.prevPicture = (lastPicture x.2.store.log).asPrevious
  inOrder : Always (InOrder P) x.2.store.log

lemma Placed.raw_not_half (hx : Placed x) (h : raw x q) : (.half, q) ∉ x.1.hold := by
  intro hm
  rcases (h.place hx).1 .half rfl hm with hm | hm <;> cases hm

lemma Notes.lastCount (h : Notes k s t) (hk : ¬∃ c, k.current.starts c) :
    lastCount t.store.log = lastCount s.store.log := by
  cases h with
  | silent h => exact h.reads.1
  | count hp hc => exact absurd hc hk
  | reference | picture => rfl

lemma settled_setPicOrderCnt {a b : Picture} (h : setPicOrderCnt a = b) (h5 : b.memMgmt5 = false) : Settled b := by
  refine ⟨fun hf => ?_, fun h => ?_, fun h => ?_⟩
  · subst h
    unfold setPicOrderCnt at hf ⊢
    split
    · rfl
    · simp_all
    · simp_all
  · rw [h5] at h
    cases h
  · rw [h5] at h
    cases h

lemma CountedAfter.settled {info : OrderInfo} (h : CountedAfter P log info) : Settled info.picture := by
  obtain ⟨s, -, -, -, hc⟩ := h.counted
  unfold Counted at hc
  split at hc
  · exact settled_setPicOrderCnt hc h.memMgmt5
  · exact settled_setPicOrderCnt hc h.memMgmt5
  · exact settled_setPicOrderCnt hc h.memMgmt5
  · exact hc.elim

lemma Remembered.noted (hx : Remembered (k, s)) (h : Notes k s t) :
    t.prevRef = (lastReference t.store.log).asRef ∧
      t.resetFrameNumOffset.prevPicture = (lastPicture t.store.log).asPrevious ∧ Always (InOrder P) t.store.log := by
  have hprev : s.resetFrameNumOffset.prevPicture = (lastPicture s.store.log).asPrevious := hx.prevPicture
  have hsame : ∀ t : Decoder P, t.prevPicture = s.prevPicture →
      t.resetFrameNumOffset.prevPicture = (lastPicture s.store.log).asPrevious :=
    fun t h => (resetFrameNumOffset_congr h).trans hprev
  cases h with
  | silent h =>
    obtain ⟨l, hl, hr⟩ := h.log
    obtain ⟨-, href, hpic⟩ := h.reads
    refine ⟨h.prevRef.trans (href ▸ hx.prevRef), h.prevPicture.trans (hpic ▸ hprev), ?_⟩
    rw [hl]
    exact always_append hr (fun e m he => inOrder_hidden he) hx.inOrder
  | @count sps p hp hk h =>
    have hraw : H264.raw (k, s) p := hp.symm.imp_left .inr
    refine ⟨hx.prevRef, hsame _ rfl, ?_, hx.inOrder⟩
    exact ⟨hx.raw p hraw, s, hx.prevRef, hprev, rfl, h⟩
  | @reference p hp hk =>
    have haged : H264.aged (k, s) p := .inr (.inr ⟨hk, _, .inr (.inr rfl), hp⟩)
    exact ⟨rfl, hsame _ rfl, hx.aged p haged, hx.inOrder⟩
  | @picture p hp hk =>
    have haged : H264.aged (k, s) p := .inr (.inr ⟨hk, _, .inr (.inr rfl), hp⟩)
    have hlast := hx.aged p haged
    have hn : (s.pic p).nonexisting = false := by
      obtain ⟨info, -, hf, -, hn, -⟩ := hlast
      exact hf.nonexisting.trans hn
    have hpic : lastPicture (.removing (s.dpbInfo p) :: s.store.log) = s.pic p := if_neg (by simp [Decoder.dpbInfo, hn])
    refine ⟨hx.prevRef, ?_, fun _ => hlast, hx.inOrder⟩
    rw [resetFrameNumOffset_prevPicture]
    exact (congrArg Picture.asPrevious hpic).symm

lemma Act.remembered (h : Act env x y) (hp : Placed x) (hx : Remembered x) : Remembered y := by
  have hpy := h.placed hp
  obtain ⟨hr, hprev, hlog⟩ := hx.noted h.notes
  refine ⟨fun q hq => ?_, fun q hq => ?_, fun q hq => ?_, hr, hprev, hlog⟩
  · rcases h.raw hq with hraw | he
    · exact h.raw_memMgmt5 hp hraw (hx.raw q hraw) (hpy.raw_not_half hq)
    · rw [he]
  · rcases h.opening hq with ho | he
    · exact h.opening_nonexisting hp ho (hx.opening q ho) (hpy.raw_not_half (.inl hq))
    · rw [he]
  · rcases h.aged hq with ha | ⟨he, ho, info, l, hl, hpic⟩
    · obtain ⟨info, hl, hf, h5, hn, hs⟩ := hx.aged q ha
      exact ⟨info, (h.notes.lastCount ha.not_starts).trans hl, hf.trans (h.aged_becomes hp ha), h5, hn, hs⟩
    · have hcounted : CountedAfter P l info := by
        have := hx.inOrder
        rw [hl] at this
        exact this.1
      rw [he]
      refine ⟨info, by rw [hl]; rfl, hpic ▸ .refl _, hcounted.memMgmt5, ?_, hcounted.settled⟩
      rw [hpic]
      exact hx.opening q ho

lemma remembered_start (env : Env P) : Remembered (Phase.idle, Decoder.start env) where
  raw := by rintro q ((h | ⟨slice, h⟩) | h) <;> cases h
  opening := by rintro q (h | ⟨slice, h⟩) <;> cases h
  aged := by rintro q (⟨slice, h | h⟩ | h | ⟨h, -⟩) <;> cases h
  prevRef := rfl
  prevPicture := rfl
  inOrder := trivial

lemma inOrder_final (env : Env P) (inputs : List Input) :
    Always (InOrder P) (final (runInputs env inputs (Decoder.start env))).store.log := by
  obtain ⟨k, hk⟩ := reach_final env inputs
  have h := kept (I := fun x : Phase × Decoder P => Placed x ∧ Remembered x)
    (fun _ _ h hx => ⟨h.placed hx.1, h.remembered hx.1 hx.2⟩) hk ⟨placed_start, remembered_start env⟩
  exact h.2.inOrder

end VkVideoParser.H264
