import VkVideoParser.Bitstream
import VkVideoParser.Library.Histories
import VkVideoParser.H265.Runs

/-! The slices that DecodePicture is given. -/

namespace VkVideoParser.H265

open Execution Relation Histories

variable {P : Type} {env : Env P} {k : Phase} {s : Decoder P} {x y : Phase × Decoder P} {log : List Event}
  {p q : PicId} {e : Event}

def Event.starts (p : PicId) : Event → Bool
  | .startPicture q _ => q = p
  | _ => false

def naluOf (p : PicId) : Event → Option (List UInt8)
  | .decodeSlice q slice _ => if q = p then some slice.nalu.data else none
  | _ => none

/-- The slices of a picture since it was started, in order. -/
def nalusOf (p : PicId) (log : List Event) : List (List UInt8) :=
  ((log.takeWhile fun e => !e.starts p).filterMap (naluOf p)).reverse

def Event.decoded : Event → Option (PicId × PictureData)
  | .decodePicture p data .. => some (p, data)
  | _ => none

/-- DecodePicture is given the slices of its picture, provided their buffer is shorter than 2 ^ 32. -/
def ShowsSlices (log : List Event) (e : Event) : Prop :=
  ∀ a ∈ e.decoded, Pieces.size startCode (nalusOf a.1 log) < 2 ^ 32 →
    Assembled (nalusOf a.1 log) a.2.pBitstreamData a.2.nBitstreamDataLen a.2.nNumSlices a.2.pSliceDataOffsets

/-- An event that begins no picture, gives none a slice and decodes none. -/
structure Event.Aside (e : Event) : Prop where
  starts : ∀ p, e.starts p = false
  nalu : ∀ p, naluOf p e = none
  decoded : e.decoded = none

lemma nalusOf_cons (hs : e.starts p = false) :
    nalusOf p (e :: log) = nalusOf p log ++ (naluOf p e).toList := by
  rw [nalusOf, List.takeWhile_cons_of_pos (by simp [hs]), List.filterMap_cons]
  cases naluOf p e with
  | none => simp [nalusOf]
  | some nalu => simp [nalusOf]

lemma nalusOf_append {l : List Event} (h : ∀ e ∈ l, e.Aside) : nalusOf p (l ++ log) = nalusOf p log := by
  induction l with
  | nil => rfl
  | cons e l ih =>
    have he := h e List.mem_cons_self
    rw [List.cons_append, nalusOf_cons (he.starts p), he.nalu, ih fun e hm => h e (List.mem_cons_of_mem _ hm)]
    exact List.append_nil _

lemma nalusOf_start (hs : e.starts p) : nalusOf p (e :: log) = [] := by
  rw [nalusOf, List.takeWhile_cons_of_neg (by simp [hs])]
  rfl

lemma told_append {l : List Event} (h : ∀ e ∈ l, e.Aside) (hlog : Always ShowsSlices log) :
    Always ShowsSlices (l ++ log) := by
  induction l with
  | nil => exact hlog
  | cons e l ih =>
    refine ⟨?_, ih fun e he => h e (List.mem_cons_of_mem _ he)⟩
    rw [ShowsSlices, (h e List.mem_cons_self).decoded]
    exact fun a ha => by cases ha

/-- Before it is started a picture has gathered nothing, and then the slices it was given. -/
structure Gathering (x : Phase × Decoder P) : Prop where
  made : ∀ p, x.1.current = .made p → (x.2.pic p).userData = none
  starting : ∀ p vkpic, x.1.current = .starting p → (x.2.pic p).userData = some vkpic → vkpic = { pic := vkpic.pic }
  decoding : ∀ p vkpic, x.1.current = .decoding p → (x.2.pic p).userData = some vkpic →
    Gathers (nalusOf p x.2.store.log) vkpic.bitstream vkpic.data.nNumSlices vkpic.sliceOffsets
  told : Always ShowsSlices x.2.store.log

/-- A move that begins no picture, gives none a slice and decodes none. -/
structure Aside (x y : Phase × Decoder P) : Prop where
  userData : ∀ q, (y.2.pic q).userData = (x.2.pic q).userData
  log : ∃ l, y.2.store.log = l ++ x.2.store.log ∧ ∀ e ∈ l, e.Aside

lemma Gathering.aside (hx : Gathering x) (h : Aside x y) (hc : y.1.current = x.1.current ∨ ∀ p, y.1.current ≠ .made p ∧
    y.1.current ≠ .starting p ∧ y.1.current ≠ .decoding p) : Gathering y := by
  obtain ⟨l, hl, haside⟩ := h.log
  refine ⟨fun p hp => ?_, fun p vkpic hp hv => ?_, fun p vkpic hp hv => ?_, ?_⟩
  · rcases hc with hc | hc
    · rw [h.userData]
      exact hx.made p (hc ▸ hp)
    · exact absurd hp (hc p).1
  · rcases hc with hc | hc
    · exact hx.starting p vkpic (hc ▸ hp) (h.userData p ▸ hv)
    · exact absurd hp (hc p).2.1
  · rcases hc with hc | hc
    · rw [hl, nalusOf_append haside]
      exact hx.decoding p vkpic (hc ▸ hp) (h.userData p ▸ hv)
    · exact absurd hp (hc p).2.2
  · rw [hl]
    exact told_append haside hx.told

lemma aside_of_eq (hu : ∀ q, (y.2.pic q).userData = (x.2.pic q).userData) (hl : y.2.store.log = x.2.store.log) :
    Aside x y := ⟨hu, [], hl, by simp⟩

lemma aside_of_emit {e : Event} (he : e.Aside) (hu : ∀ q, (y.2.pic q).userData = (x.2.pic q).userData)
    (hl : y.2.store.log = e :: x.2.store.log) : Aside x y := ⟨hu, [e], hl, by simpa using he⟩

lemma aside_of_announce {e u : Event} (he : e.Aside) (hu : u.Aside)
    (hd : ∀ q, (y.2.pic q).userData = (x.2.pic q).userData) (hl : y.2.store.log = u :: e :: x.2.store.log) : Aside x y :=
  ⟨hd, [u, e], hl, by simpa using ⟨hu, he⟩⟩

lemma aside_of_keeps {k k' : Phase} {s t : Decoder P} (h : Store.Keeps s.store t.store) : Aside (k, s) (k', t) := by
  obtain ⟨l, hl, hr⟩ := h.log
  refine ⟨fun q => (h.pic q).userData, l, hl, fun e he => ?_⟩
  have := hr e he
  cases e <;> first | exact ⟨fun _ => rfl, fun _ => rfl, rfl⟩ | cases this

lemma setVkPic_userData (p q : PicId) (vkpic : VkPic) (s : Decoder P) :
    ((setVkPic p vkpic s).pic q).userData = if q = p then some vkpic else (s.pic q).userData := by
  rw [setVkPic, Decoder.pic, Decoder.modifyPic, Store.modifyPic_pic]
  split <;> rfl

lemma allocPicture_log (p : PicId) : (s.allocPicture env p).store.log =
    [.allocPictureBuffer p (env.allocPictureBuffer s.store.log)] ++ s.store.log := by
  unfold Decoder.allocPicture
  simp only
  split <;> rfl

-- a picture that gets no buffer keeps what it has
lemma allocPicture_userData (p : PicId) {vkpic : VkPic} (hv : (s.pic p).userData = none)
    (h : ((s.allocPicture env p).pic p).userData = some vkpic) : vkpic = { pic := vkpic.pic } := by
  unfold Decoder.allocPicture at h
  simp only at h
  split at h
  · exact absurd (hv.symm.trans h) (by simp)
  · rw [setVkPic_userData, if_pos rfl] at h
    cases h
    rfl

lemma gathers_start (slice : GstH265Slice) (vps : GstH265VPS) {vkpic : VkPic} (h : vkpic = { pic := vkpic.pic }) :
    Gathers [] (startVkPic env s p slice vps vkpic).bitstream (startVkPic env s p slice vps vkpic).data.nNumSlices
      (startVkPic env s p slice vps vkpic).sliceOffsets := by
  rw [h]
  exact gathers_nil

lemma Gathering.start {c : Current} (hx : Gathering (k, s)) (slice : GstH265Slice) (vps : GstH265VPS) (vkpic : VkPic)
    (hk : k.current = .starting p) (hv : (s.pic p).userData = some vkpic) (hc : c = .decoding p ∨ c = .failed p) :
    Gathering (k.setCurrent c, s.startPicture env p slice vps vkpic) := by
  have hmade : ∀ q, c ≠ .made q ∧ c ≠ .starting q := by
    rcases hc with rfl | rfl <;> simp
  refine ⟨fun q hq => absurd hq (hmade q).1, fun q v hq => absurd hq (hmade q).2, fun q v hq hu => ?_, ?_, hx.told⟩
  · obtain rfl : q = p := by
      have hq : c = .decoding q := hq
      rcases hc with rfl | rfl <;> cases hq
      rfl
    have hu : ((setVkPic q (startVkPic env s q slice vps vkpic) s).pic q).userData = some v := hu
    rw [setVkPic_userData, if_pos rfl] at hu
    cases hu
    have hnalus : nalusOf q (s.startPicture env q slice vps vkpic).store.log = [] := nalusOf_start (by simp [Event.starts])
    rw [hnalus]
    exact gathers_start slice vps (hx.starting q vkpic hk hv)
  · exact fun a ha => by cases ha

lemma Gathering.slice (hx : Gathering (k, s)) (slice : GstH265Slice) (vkpic : VkPic) (hk : k.current = .decoding p)
    (hv : (s.pic p).userData = some vkpic) : Gathering (k, s.decodeSlice env p slice vkpic) := by
  have hcur : ∀ {c : Current}, k.current = c → c = .decoding p := fun h => h.symm.trans hk
  refine ⟨fun q hq => (by cases hcur hq), fun q v hq => (by cases hcur hq), fun q v hq hu => ?_, ?_, hx.told⟩
  · cases hcur hq
    have hu : ((setVkPic p (appendSlice slice vkpic) s).pic p).userData = some v := hu
    rw [setVkPic_userData, if_pos rfl] at hu
    cases hu
    have hnalus : nalusOf p (s.decodeSlice env p slice vkpic).store.log = nalusOf p s.store.log ++ [slice.nalu.data] := by
      rw [show (s.decodeSlice env p slice vkpic).store.log = _ :: s.store.log from rfl, nalusOf_cons rfl]
      simp [naluOf]
    rw [hnalus]
    exact (hx.decoding p vkpic hk hv).append slice.nalu.data
  · exact fun a ha => by cases ha

lemma Gathering.endPicture (hx : Gathering (k, s)) (vkpic : VkPic) (hk : k.current = .decoding p)
    (hv : (s.pic p).userData = some vkpic) :
    Gathering ((k.take .ended p).setCurrent (.gone p), s.endPicture env p vkpic) := by
  refine ⟨fun q hq => (by cases hq), fun q v hq => (by cases hq), fun q v hq => (by cases hq), ?_, hx.told⟩
  rintro _ ⟨⟩ hsize
  exact (hx.decoding p vkpic hk hv).assembled hsize

lemma Gathering.alloc (hx : Gathering (k, s)) (hk : k.current = .starting p) (hv : (s.pic p).userData = none) :
    Gathering (k, s.allocPicture env p) := by
  have hcur : ∀ {c : Current}, k.current = c → c = .starting p := fun h => h.symm.trans hk
  refine ⟨fun q hq => (by cases hcur hq), fun q v hq hu => ?_, fun q v hq => (by cases hcur hq), ?_⟩
  · cases hcur hq
    exact allocPicture_userData p hv hu
  · have haside : ∀ e ∈ [Event.allocPictureBuffer p (env.allocPictureBuffer s.store.log)], e.Aside := by
      simpa using ⟨fun _ => rfl, fun _ => rfl, rfl⟩
    have htold := told_append haside hx.told
    rwa [← allocPicture_log] at htold

lemma Gathering.new (hx : Gathering (k, s)) :
    Gathering (k.setCurrent (.made s.store.next), s.mapStore fun st => st.pictureNew.2) := by
  refine ⟨fun q hq => ?_, fun q v hq => (by cases hq), fun q v hq => (by cases hq), hx.told⟩
  cases hq
  simp [Decoder.pic, Decoder.mapStore, Store.pictureNew]

lemma Gathering.adopt (hx : Gathering (k, s)) (hk : k.current = .made p) :
    Gathering (k.setCurrent (.starting p), s.setCurrentPicture (some p)) := by
  refine ⟨fun q hq => (by cases hq), fun q v hq hu => ?_, fun q v hq => (by cases hq), hx.told⟩
  cases hq
  exact absurd ((hx.made p hk).symm.trans hu) (by simp)

/-- The moves that the user data of the current picture depend on; all others stand aside. -/
inductive Steps (env : Env P) : Phase × Decoder P → Phase × Decoder P → Prop
  | start {k : Phase} {s : Decoder P} {c : Current} (p : PicId) (slice : GstH265Slice) (vps : GstH265VPS) (vkpic : VkPic)
    (hk : k.current = .starting p) (hv : (s.pic p).userData = some vkpic)
    (hvps : (s.activation env slice.header.pps).vps = some vps) (hflags : Flagged s (s.pic p))
    (hsets : SetsListed s) (hc : (c = .decoding p ∧ Listable s) ∨ c = .failed p) :
    Steps env (k, s) (k.setCurrent c, s.startPicture env p slice vps vkpic)
  | slice {k : Phase} {s : Decoder P} (p : PicId) (slice : GstH265Slice) (vkpic : VkPic) (hk : k.current = .decoding p)
    (hv : (s.pic p).userData = some vkpic) : Steps env (k, s) (k, s.decodeSlice env p slice vkpic)
  | endPicture {k : Phase} {s : Decoder P} (p : PicId) (vkpic : VkPic) (hk : k.current = .decoding p)
    (hv : (s.pic p).userData = some vkpic) :
    Steps env (k, s) ((k.take .ended p).setCurrent (.gone p), s.endPicture env p vkpic)
  | alloc {k : Phase} {s : Decoder P} (p : PicId) (hk : k.current = .starting p) (hv : (s.pic p).userData = none) :
    Steps env (k, s) (k, s.allocPicture env p)
  | new {k : Phase} {s : Decoder P} : Steps env (k, s) (k.setCurrent (.made s.store.next), s.mapStore fun st => st.pictureNew.2)
  | adopt {k : Phase} {s : Decoder P} (p : PicId) (hk : k.current = .made p) :
    Steps env (k, s) (k.setCurrent (.starting p), s.setCurrentPicture (some p))
  | aside {x y : Phase × Decoder P} (h : Aside x y) (hc : y.1.current = x.1.current ∨ ∀ p, y.1.current ≠ .made p ∧
      y.1.current ≠ .starting p ∧ y.1.current ≠ .decoding p) : Steps env x y

lemma Act.steps (h : Act env x y) : Steps env x y := by
  cases h with
  | start p slice vps vkpic hk hv hvps hflags hsets hc => exact .start p slice vps vkpic hk hv hvps hflags hsets hc
  | slice p slice vkpic hk hv => exact .slice p slice vkpic hk hv
  | endPicture p vkpic hk hv => exact .endPicture p vkpic hk hv
  | alloc p hk hv => exact .alloc p hk hv
  | new => exact .new
  | adopt p hk => exact .adopt p hk
  | book h => exact .aside (aside_of_eq (fun q => by rw [Decoder.pic, Decoder.pic, h.pic]) h.log) (.inl rfl)
  | edit p hk hf => exact .aside (aside_of_eq (fun q => userData_edit hf p q _) rfl) (.inl rfl)
  | unrefCurrent p => exact .aside (aside_of_keeps (Store.keeps_unref p _)) (.inr fun _ => by simp [Phase.setCurrent])
  | forgetCurrent p => exact .aside (aside_of_eq (fun _ => rfl) rfl) (.inr fun _ => by simp [Phase.setCurrent])
  | clearSets => exact .aside (aside_of_keeps (Store.keeps_unrefAll _ _)) (.inl rfl)
  | deriveSets p pocs => exact .aside (aside_of_keeps (Store.keeps_deriveAndMarkRps pocs _)) (.inl rfl)
  | markAllNonRef => exact .aside (aside_of_keeps (Store.keeps_dpbMarkAllNonRef _)) (.inl rfl)
  | deleteUnused => exact .aside (aside_of_keeps (Store.keeps_dpbDeleteUnused _)) (.inl rfl)
  | add p => exact .aside (aside_of_keeps (Store.keeps_storePicture p _)) (.inl rfl)
  | bump drain => exact .aside (aside_of_keeps (Store.keeps_dpbBump drain _)) (.inl rfl)
  | unref p => exact .aside (aside_of_keeps (Store.keeps_unref p _)) (.inl rfl)
  | dpbClear => exact .aside (aside_of_keeps (Store.keeps_dpbClear _)) (.inl rfl)
  | parsed parser h =>
    cases h <;> exact .aside (aside_of_emit ⟨fun _ => rfl, fun _ => rfl, rfl⟩ (fun _ => rfl) rfl) (.inl rfl)
  | updateVps | updateSps | updatePps =>
    refine .aside (aside_of_announce ?_ ?_ (fun _ => rfl) rfl) (.inl rfl) <;> exact ⟨fun _ => rfl, fun _ => rfl, rfl⟩
  | removeFrame h =>
    cases h <;> exact .aside (aside_of_emit ⟨fun _ => rfl, fun _ => rfl, rfl⟩ (fun _ => rfl) rfl) (.inl rfl)
  | beginSequence | processSps | unhandledNALU | showOrderCount | showBumping | flush | finishFrame | display =>
    exact .aside (aside_of_emit ⟨fun _ => rfl, fun _ => rfl, rfl⟩ (fun _ => rfl) rfl) (.inl rfl)
  | _ => exact .aside (aside_of_eq (fun _ => rfl) rfl) (.inl rfl)

lemma Act.gathering (h : Act env x y) (hx : Gathering x) : Gathering y := by
  cases h.steps with
  | start p slice vps vkpic hk hv hvps hflags hsets hc =>
    exact hx.start slice vps vkpic hk hv (hc.imp And.left id)
  | slice p slice vkpic hk hv => exact hx.slice slice vkpic hk hv
  | endPicture p vkpic hk hv => exact hx.endPicture vkpic hk hv
  | alloc p hk hv => exact hx.alloc hk hv
  | new => exact hx.new
  | adopt p hk => exact hx.adopt hk
  | aside h hc => exact hx.aside h hc

lemma gathering_start : Gathering (Phase.idle, Decoder.start env) :=
  ⟨fun _ h => (by cases h), fun _ _ h => (by cases h), fun _ _ h => (by cases h), trivial⟩

/-- In every run, every DecodePicture call is given the slices of its picture. -/
lemma slices_shown (env : Env P) (inputs : List Input) :
    Always ShowsSlices (final (runInputs env inputs (Decoder.start env))).store.log := by
  obtain ⟨k, hk⟩ := reach_final env inputs
  exact (kept (I := Gathering) (fun _ _ h => h.gathering) hk gathering_start).told

end VkVideoParser.H265
