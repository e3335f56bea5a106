import VkVideoParser.H264.Logs
import VkVideoParser.H264.Runs.Inputs

/-! The calls of the client, and the moves that make them. -/

namespace VkVideoParser.H264

open Execution Relation

variable {P : Type} {log : List Event} {p : PicId} {v : VkPicIf}

/-- The calls that give the client a set, a sequence or a picture. -/
def Event.isCall : Event → Bool
  | .release .. | .unhandledNALU _ | .finishFrame .. | .releaseFrame _ | .dropFrame _ | .flush
  | .parserParseSps _ | .parserParsePps _ | .lastFieldNotNull | .removing _ | .placing _
  | .storing _ | .orderCount _ | .bumping _ | .reference _ => false
  | _ => true

def calls (log : List Event) : List Event := log.filter Event.isCall

/-- The calls of a run, newest first. -/
def clientCalls (env : Env P) (inputs : List Input) : List Event :=
  calls (final (runInputs env inputs (Decoder.start env))).store.log

lemma mem_calls {e : Event} (he : e.isCall) : e ∈ calls log ↔ e ∈ log := by
  simp [calls, he]

lemma calls_addPicture (p : PicId) (a : Store) : calls (a.addPicture p).log = calls a.log := by
  obtain ⟨info, h⟩ := Store.addPicture_log p a
  rw [h]
  rfl

lemma calls_releases {a b : Store} (h : Store.OnlyReleases a b) : calls b.log = calls a.log := by
  obtain ⟨l, hl, hr⟩ := h
  have hnil : l.filter Event.isCall = [] := by
    refine List.filter_eq_nil_iff.mpr fun e he => ?_
    have := hr e he
    cases e <;> first | exact Bool.false_ne_true | cases this
  rw [calls, calls, hl, List.filter_append, hnil, List.nil_append]

def decodesOf (p : PicId) : Event → Option PictureData
  | .decodePicture q data _ _ _ => if q = p then some data else none
  | _ => none

def displaysOf (p : PicId) : Event → Option VkPicIf
  | .displayPicture q v .. => if q = p then some v else none
  | _ => none

def startsOf (p : PicId) : Event → Option StartInfo
  | .startPicture q info => if q = p then some info else none
  | _ => none

/-- What DecodePicture was given for a picture, what DisplayPicture was, and how it was started. -/
def decodes (log : List Event) (p : PicId) : List PictureData := log.filterMap (decodesOf p)

def displays (log : List Event) (p : PicId) : List VkPicIf := log.filterMap (displaysOf p)

def starts (log : List Event) (p : PicId) : List StartInfo := log.filterMap (startsOf p)

lemma mem_decodes {data : PictureData} :
    data ∈ decodes log p ↔ ∃ sps pps ok, Event.decodePicture p data sps pps ok ∈ log := by
  constructor
  · intro h
    obtain ⟨e, he, hd⟩ := List.mem_filterMap.mp h
    cases e with
    | decodePicture q data' sps pps ok =>
      simp only [decodesOf] at hd
      split at hd
      · rename_i hq
        cases hd
        exact ⟨sps, pps, ok, hq ▸ he⟩
      · cases hd
    | _ => cases hd
  · rintro ⟨sps, pps, ok, he⟩
    exact List.mem_filterMap.mpr ⟨_, he, if_pos rfl⟩

lemma mem_displays : v ∈ displays log p ↔ ∃ frame t ok, Event.displayPicture p v frame t ok ∈ log := by
  constructor
  · intro h
    obtain ⟨e, he, hd⟩ := List.mem_filterMap.mp h
    cases e with
    | displayPicture q w frame t ok =>
      simp only [displaysOf] at hd
      split at hd
      · rename_i hq
        cases hd
        exact ⟨frame, t, ok, hq ▸ he⟩
      · cases hd
    | _ => cases hd
  · rintro ⟨frame, t, ok, he⟩
    exact List.mem_filterMap.mpr ⟨_, he, if_pos rfl⟩

/-- A move that tells the client nothing and leaves the pictures' user data and the sets alone. -/
structure Silent (x y : Phase × Decoder P) : Prop where
  userData : ∀ q, (y.2.pic q).userData = (x.2.pic q).userData ∨
    (q = x.2.store.next ∧ (y.2.pic q).userData = none)
  next : x.2.store.next ≤ y.2.store.next
  calls : calls y.2.store.log = calls x.2.store.log
  vkp : y.2.vkp = x.2.vkp
  spsclient : y.2.spsclient = x.2.spsclient
  ppsclient : y.2.ppsclient = x.2.ppsclient
  spsUpdateCount : y.2.spsUpdateCount = x.2.spsUpdateCount
  width : y.2.width = x.2.width
  height : y.2.height = x.2.height
  maxNumFrames : y.2.store.dpb.maxNumFrames = x.2.store.dpb.maxNumFrames
  interlaced : y.2.store.dpb.interlaced = x.2.store.dpb.interlaced
  begun : y.1.begun = x.1.begun
  decoding : ∀ p, y.1.current = .decoding p → x.1.current = .decoding p

/-- The moves that are not silent, as `Act` has them. -/
inductive Speaks (env : Env P) : Phase × Decoder P → Phase × Decoder P → Prop
  | updateSps {k s} (sps : GstH264SPS) :
    Speaks env (k, s) (k, (s.emit (.parserParseSps (some sps))).updateSps env sps)
  | updatePps {k s} (pps : GstH264PPS) :
    Speaks env (k, s) (k, (s.emit (.parserParsePps (some pps))).updatePps env pps)
  | parserUpdateSps {k s} (sps : GstH264SPS) (ok : Bool) (hk : k.begun = none ∨ k.begun = some sps)
    (hsame : sameSequence s sps) (hsize : sizeInMbs sps ≠ 0) :
    Speaks env (k, s) (k.setBegun none, s.emit (.parserUpdateSps sps ok))
  | beginSequence {k s} (sps : GstH264SPS) (input : InputState) :
    Speaks env (k, s) (k.setBegun (some sps),
      s.beginSequence env sps (sequenceInfo env sps (maxDpbSizeOf sps) input))
  | configure {k s} (sps : GstH264SPS) (hk : k.begun = some sps) :
    Speaks env (k, s) (k, s.configure sps (maxDpbSizeOf sps))
  | rejectSps {k s} (sps : GstH264SPS) (hk : k.begun = none ∨ k.begun = some sps) (hsame : sameSequence s sps) :
    Speaks env (k, s) (k.setBegun none, s)
  | alloc {k s} (p : PicId) (hp : (.fresh, p) ∈ k.hold) (hv : (s.pic p).userData = none) :
    Speaks env (k, s) (k, s.allocPicture env p)
  | start {k s} (p : PicId) (slice : GstH264Slice) (vkpic : VkPic) (hk : k.current.filledBy p slice)
    (hv : (s.pic p).userData = some vkpic) :
    Speaks env (k, s) (k.setCurrent (.decoding p), s.startPicture env p slice vkpic)
  | slice {k s} (p : PicId) (slice : GstH264Slice) (vkpic : VkPic) (hk : k.current = .decoding p)
    (hv : (s.pic p).userData = some vkpic) : Speaks env (k, s) (k, s.decodeSlice env p slice vkpic)
  | endPicture {k s k'} (p : PicId) (vkpic : VkPic) (hk : k.current = .decoding p)
    (hv : (s.pic p).userData = some vkpic) 
    (hk' : (k'.current = .gone p ∧ s.decodeReply env vkpic) ∨ (k'.current = .lost p ∧ s.decodeReply env vkpic = false))
    (hb : k'.begun = k.begun) : Speaks env (k, s) (k', s.endPicture env p vkpic)
  | display {k s k'} (p : PicId) (vkpic : VkPic) (frame : VideoCodecFrame)
    (hv : (s.pic p).userData = some vkpic) (hk : k'.current = k.current) (hb : k'.begun = k.begun)
    (hf : s.getFrame (s.pic p).systemFrameNumber = some frame) :
    Speaks env (k, s) (k', s.displayPicture env p vkpic frame)

variable {env : Env P} {s : Decoder P} {x y : Phase × Decoder P}

/-- A move that changes the pictures but for their user data, and the log by no call. -/
lemma silent_of_store {k k' : Phase} {s t : Decoder P} (hu : ∀ q, (t.pic q).userData = (s.pic q).userData)
    (hn : t.store.next = s.store.next) (hl : calls t.store.log = calls s.store.log)
    (hm : t.store.dpb.maxNumFrames = s.store.dpb.maxNumFrames)
    (hi : t.store.dpb.interlaced = s.store.dpb.interlaced)
    (hr : (t.vkp, t.spsclient, t.ppsclient, t.spsUpdateCount, t.width, t.height) =
      (s.vkp, s.spsclient, s.ppsclient, s.spsUpdateCount, s.width, s.height))
    (hb : k'.begun = k.begun) (hd : ∀ p, k'.current = .decoding p → k.current = .decoding p) :
    Silent (k, s) (k', t) := by
  simp only [Prod.mk.injEq] at hr
  exact ⟨fun q => .inl (hu q), le_of_eq hn.symm, hl, hr.1, hr.2.1, hr.2.2.1, hr.2.2.2.1, hr.2.2.2.2.1,
    hr.2.2.2.2.2, hm, hi, hb, hd⟩

lemma Store.Shrinks.userData {a b : Store} (h : Store.Shrinks a b) (q : PicId) :
    (b.pic q).userData = (a.pic q).userData := by
  obtain ⟨_, _, _, _, hq, -⟩ := h.pic q
  rw [hq]

lemma Store.Adds.userData {a b : Store} {p : PicId} (h : Store.Adds p a b) (q : PicId) :
    (b.pic q).userData = (a.pic q).userData := by
  obtain ⟨_, _, hq⟩ := h.pic q
  rw [hq]

lemma userData_modifyPic {f : Picture → Picture} (hf : ∀ x, (f x).userData = x.userData) (p q : PicId) (s : Decoder P) :
    ((s.modifyPic p f).pic q).userData = (s.pic q).userData := by
  rw [Decoder.pic, Decoder.modifyPic_store, Store.modifyPic_pic]
  split
  · rename_i hq
    rw [hf, hq]
    rfl
  · rfl

lemma setVkPic_userData (p q : PicId) (vkpic : VkPic) (s : Decoder P) :
    ((setVkPic p vkpic s).pic q).userData = if q = p then some vkpic else (s.pic q).userData := by
  rw [setVkPic, Decoder.pic, Decoder.modifyPic_store, Store.modifyPic_pic]
  split <;> rfl

lemma allocPicture_none (p : PicId) (h : env.allocPictureBuffer s.store.log = none) :
    s.allocPicture env p = s.emit (.allocPictureBuffer p none s.allocInfo) := by
  simp only [Decoder.allocPicture, h]

lemma allocPicture_some (p : PicId) (h : env.allocPictureBuffer s.store.log = some v) :
    s.allocPicture env p = setVkPic p { pic := v } (s.emit (.allocPictureBuffer p (some v) s.allocInfo)) := by
  simp only [Decoder.allocPicture, h]

lemma Act.speaks (h : Act env x y) : Silent x y ∨ Speaks env x y := by
  cases h with
  | updateSps sps => exact .inr (.updateSps sps)
  | updatePps pps => exact .inr (.updatePps pps)
  | parserUpdateSps sps ok hk hs hsize => exact .inr (.parserUpdateSps sps ok hk hs hsize)
  | beginSequence sps input => exact .inr (.beginSequence sps input)
  | configure sps hs hk => exact .inr (.configure sps hk)
  | rejectSps sps hk hs => exact .inr (.rejectSps sps hk hs)
  | alloc p hp hv => exact .inr (.alloc p hp hv)
  | start p slice vkpic hk hv => exact .inr (.start p slice vkpic hk hv)
  | slice p slice vkpic hk hv => exact .inr (.slice p slice vkpic hk hv)
  | endPicture p vkpic hk hv hok => exact .inr (.endPicture p vkpic hk hv (.inl ⟨rfl, hok⟩) rfl)
  | losePicture p vkpic hk hv hok => exact .inr (.endPicture p vkpic hk hv (.inr ⟨rfl, hok⟩) rfl)
  | display p vkpic frame hp hv hf => exact .inr (.display p vkpic frame hv rfl rfl hf)
  | book h =>
    left
    refine silent_of_store (fun q => by rw [Decoder.pic, Decoder.pic, h.pic]) h.next (by rw [h.log]) h.maxNumFrames
      h.interlaced ?_ rfl fun p hp => hp
    rw [h.vkp, h.spsclient, h.ppsclient, h.spsUpdateCount, h.width, h.height]
  | new r hr =>
    rename_i k s
    left
    refine ⟨fun q => ?_, Nat.le_succ _, rfl, rfl, rfl, rfl, rfl, rfl, rfl, rfl, rfl, rfl, fun p hp => hp⟩
    by_cases hq : q = s.store.next
    · exact .inr ⟨hq, by simp [Decoder.pic, Store.pictureNew, hq]⟩
    · exact .inl (by simp [Decoder.pic, Store.pictureNew, hq])
  | number h | mark p hp hk h =>
    exact .inl (silent_of_store (fun q => (h.role q).userData) h.next (congrArg H264.calls h.log)
      (congrArg Dpb.maxNumFrames h.dpb) (congrArg Dpb.interlaced h.dpb) rfl rfl fun p hp => hp)
  | edit p hp hf | editLost p hp hf =>
    exact .inl (silent_of_store (fun q => userData_modifyPic hf.userData p q _) rfl rfl rfl rfl rfl rfl fun p hp => hp)
  | splitPair p p' =>
    exact .inl (silent_of_store (splitPair_keeps (g := Picture.userData) (fun _ _ => rfl) userData_splitFirst (fun _ _ => rfl) p p' _)
      rfl rfl rfl rfl rfl rfl fun p hp => hp)
  | linkSecond p p' =>
    exact .inl (silent_of_store (fun q => userData_modifyPic (f := linkSecondField p) (fun _ => rfl) p' q _)
      rfl rfl rfl rfl rfl rfl fun p hp => hp)
  | link p p' =>
    exact .inl (silent_of_store (fun q => userData_modifyPic (f := linkField p) (fun _ => rfl) p' q _) rfl rfl rfl rfl rfl rfl
      fun p hp => hp)
  | unref p hp | unrefLast p hp =>
    exact .inl (silent_of_store (Store.sameShape_unref _ _).shrinks.userData (Store.sameShape_unref _ _).next
      (calls_releases (Store.onlyReleases_unref _ _)) (congrArg Dpb.maxNumFrames (Store.sameShape_unref _ _).dpb)
      (congrArg Dpb.interlaced (Store.sameShape_unref _ _).dpb) rfl rfl fun p hp => hp)
  | unrefCurrent p hp =>
    exact .inl (silent_of_store (Store.sameShape_unref _ _).shrinks.userData (Store.sameShape_unref _ _).next
      (calls_releases (Store.onlyReleases_unref _ _)) (congrArg Dpb.maxNumFrames (Store.sameShape_unref _ _).dpb)
      (congrArg Dpb.interlaced (Store.sameShape_unref _ _).dpb) rfl rfl fun p hp => by cases hp)
  | borrow p hp | keep p hp =>
    exact .inl (silent_of_store (Store.sameShape_ref _ _).shrinks.userData rfl rfl rfl rfl rfl rfl fun p hp => hp)
  | deleteUnused =>
    exact .inl (silent_of_store Store.shrinks_dpbDeleteUnused.userData Store.shrinks_dpbDeleteUnused.next
      (calls_releases (Store.onlyReleases_dpbDeleteUnused _)) Store.shrinks_dpbDeleteUnused.maxNumFrames
      Store.shrinks_dpbDeleteUnused.interlaced rfl rfl fun p hp => hp)
  | dpbClear h =>
    exact .inl (silent_of_store Store.shrinks_dpbClear.userData Store.shrinks_dpbClear.next
      (calls_releases (Store.onlyReleases_dpbClear _)) Store.shrinks_dpbClear.maxNumFrames
      Store.shrinks_dpbClear.interlaced rfl rfl fun p hp => hp)
  | bump drain p h =>
    exact .inl (silent_of_store Store.shrinks_dpbBump.userData Store.shrinks_dpbBump.next
      (calls_releases (Store.onlyReleases_dpbBump drain _)) Store.shrinks_dpbBump.maxNumFrames
      Store.shrinks_dpbBump.interlaced rfl rfl fun p hp => hp)
  | add p hp hr | addLast p q hp hr =>
    exact .inl (silent_of_store (Store.adds_dpbAdd _ _).userData (Store.adds_dpbAdd _ _).next
      (calls_addPicture _ _) (Store.dpbAdd_maxNumFrames _ _)
      (Store.dpbAdd_interlaced _ _) rfl rfl fun p hp => hp)
  | removeFrame h =>
    cases h <;> exact .inl (silent_of_store (fun _ => rfl) rfl rfl rfl rfl rfl rfl fun p hp => hp)
  | adopt | forgetCurrent | fill | clear =>
    exact .inl (silent_of_store (fun _ => rfl) rfl rfl rfl rfl rfl rfl fun p hp => by cases hp)
  | _ => exact .inl (silent_of_store (fun _ => rfl) rfl rfl rfl rfl rfl rfl fun p hp => hp)

lemma Speaks.calls (h : Speaks env x y) :
    H264.calls y.2.store.log = H264.calls x.2.store.log ∨
      ∃ e, H264.calls y.2.store.log = e :: H264.calls x.2.store.log := by
  cases h with
  | configure | rejectSps => exact .inl rfl
  | alloc p hp hv =>
    rename_i k s
    cases hr : env.allocPictureBuffer s.store.log with
    | none =>
      rw [allocPicture_none p hr]
      exact .inr ⟨_, rfl⟩
    | some pic =>
      rw [allocPicture_some p hr]
      exact .inr ⟨_, rfl⟩
  | _ => exact .inr ⟨_, rfl⟩

lemma Act.calls_subset (h : Act env x y) : calls x.2.store.log ⊆ calls y.2.store.log := by
  rcases h.speaks with h | h
  · rw [h.calls]
    exact List.Subset.refl _
  · rcases h.calls with h | ⟨e, h⟩
    · rw [h]
      exact List.Subset.refl _
    · rw [h]
      exact List.subset_cons_self ..

-- only a fresh picture is given user data
lemma Act.userData_none (h : Act env x y) (hq : (x.2.pic p).userData = none) (hf : (.fresh, p) ∉ x.1.hold) :
    (y.2.pic p).userData = none := by
  have hset : ∀ (q : PicId) (vkpic : VkPic) (s : Decoder P), (s.pic p).userData = none → p ≠ q →
      ((setVkPic q vkpic s).pic p).userData = none := fun q vkpic s hs hne => by
    rw [setVkPic_userData, if_neg hne, hs]
  rcases h.speaks with h | h
  · rcases h.userData p with hu | ⟨-, hu⟩
    · exact hu.trans hq
    · exact hu
  · cases h with
    | alloc q hm hv =>
      rename_i k s
      cases hr : env.allocPictureBuffer s.store.log with
      | none =>
        rw [allocPicture_none q hr]
        exact hq
      | some pic =>
        rw [allocPicture_some q hr]
        refine hset q _ _ hq ?_
        rintro rfl
        exact hf hm
    | start q slice vkpic hk hv | slice q slice vkpic hk hv | endPicture q vkpic hk hv =>
      refine hset q _ _ hq ?_
      rintro rfl
      cases hq.symm.trans hv
    | _ => exact hq

end VkVideoParser.H264
