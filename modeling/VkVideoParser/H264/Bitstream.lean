import VkVideoParser.Bitstream
import VkVideoParser.Library.Histories
import VkVideoParser.H264.Links
import VkVideoParser.H264.Buffers

/-! The slices that DecodePicture is given. -/

namespace VkVideoParser.H264

open Execution Relation Histories

variable {P : Type} {env : Env P} {k : Phase} {s : Decoder P} {x y : Phase × Decoder P} {log : List Event}
  {p q : PicId} {e : Event}

def Event.starts (p : PicId) : Event → Bool
  | .startPicture q _ => q = p
  | _ => false

def naluOf (p : PicId) : Event → Option (List UInt8)
  | .decodeSlice q slice _ => if q = p then some slice.nalu.data else none
  | _ => none

/-- The slices of a picture since it was started, in order. -/
def nalusOf (p : PicId) (log : List Event) : List (List UInt8) :=
  ((log.takeWhile fun e => !e.starts p).filterMap (naluOf p)).reverse

def Event.decoded : Event → Option (PicId × PictureData)
  | .decodePicture p data .. => some (p, data)
  | _ => none

/-- DecodePicture is given the slices of its picture, provided their buffer is shorter than 2 ^ 32. -/
def ShowsSlices (log : List Event) (e : Event) : Prop :=
  ∀ a ∈ e.decoded, Pieces.size startCode (nalusOf a.1 log) < 2 ^ 32 →
    Assembled (nalusOf a.1 log) a.2.pBitstreamData a.2.nBitstreamDataLen a.2.nNumSlices a.2.pSliceDataOffsets

/-- An event that begins no picture, gives none a slice and decodes none. -/
structure Event.Aside (e : Event) : Prop where
  starts : ∀ p, e.starts p = false
  nalu : ∀ p, naluOf p e = none
  decoded : e.decoded = none

lemma nalusOf_cons (hs : e.starts p = false) :
    nalusOf p (e :: log) = nalusOf p log ++ (naluOf p e).toList := by
  rw [nalusOf, List.takeWhile_cons_of_pos (by simp [hs]), List.filterMap_cons]
  cases naluOf p e with
  | none => simp [nalusOf]
  | some nalu => simp [nalusOf]

lemma nalusOf_aside (he : e.Aside) : nalusOf p (e :: log) = nalusOf p log := by
  rw [nalusOf_cons (he.starts p), he.nalu]
  exact List.append_nil _

lemma nalusOf_start (hs : e.starts p) : nalusOf p (e :: log) = [] := by
  rw [nalusOf, List.takeWhile_cons_of_neg (by simp [hs])]
  rfl

lemma showsSlices_aside (h : e.decoded = none) : ShowsSlices log e := by
  rw [ShowsSlices, h]
  exact fun a ha => by cases ha

/-- A picture that has been made but not started. -/
def Blank (k : Phase) (p : PicId) : Prop :=
  (.fresh, p) ∈ k.hold ∨ ∃ slice, k.current = .starting p slice ∨ k.current.filledBy p slice

/-- Before it is started a picture has gathered nothing, and then the slices it was given. -/
structure Gathering (x : Phase × Decoder P) : Prop where
  blank : ∀ p vkpic, Blank x.1 p → (x.2.pic p).userData = some vkpic → vkpic = { pic := vkpic.pic }
  decoding : ∀ p vkpic, x.1.current = .decoding p → (x.2.pic p).userData = some vkpic →
    Gathers (nalusOf p (calls x.2.store.log)) vkpic.bitstream vkpic.data.nNumSlices vkpic.sliceOffsets
  told : Always ShowsSlices (calls x.2.store.log)

lemma Act.blank_of (h : Act env x y) (hy : Blank y.1 p) : Blank x.1 p ∨ p = x.2.store.next := by
  rcases hy with hy | ⟨slice, hy | hy⟩
  · rcases h.fresh_of hy with hf | hn
    · exact .inl (.inl hf)
    · exact .inr hn
  · rcases h.starting_of hy with hs | ⟨hf, -⟩
    · exact .inl (.inr ⟨slice, .inl hs⟩)
    · exact .inl (.inl hf)
  · left
    cases h with
    | fill q slice' hk =>
      rcases hy with hy | hy <;> cases hy
      exact .inr ⟨slice, .inl hk⟩
    | clear q slice' hk =>
      rcases hy with hy | hy <;> cases hy
      exact .inr ⟨slice, .inr (.inl hk)⟩
    | adopt | start | endPicture | losePicture | unrefCurrent | forgetCurrent =>
      rcases hy with hy | hy <;> cases hy
    | _ => exact .inr ⟨slice, .inr hy⟩

-- the picture being decoded has left the hands that hold it
lemma Placed.not_blank (hp : Placed x) (hc : x.1.current = .decoding p) : ¬Blank x.1 p := by
  rintro (h | ⟨slice, h | h | h⟩)
  · exact hp.current_hold (r := .fresh) (by rw [hc]; rfl) rfl h
  all_goals cases hc.symm.trans h

lemma Gathering.silent (hx : Gathering x) (hb : Buffers x) (hact : Act env x y) (h : Silent x y) : Gathering y := by
  refine ⟨fun p vkpic hy hv => ?_, fun p vkpic hc hv => ?_, ?_⟩
  · rcases h.userData p with hu | ⟨-, hu⟩
    · rcases hact.blank_of hy with hbl | rfl
      · exact hx.blank p vkpic hbl (hu ▸ hv)
      · rw [hu, hb.fresh _ (Nat.le_refl _)] at hv
        cases hv
    · rw [hu] at hv
      cases hv
  · rcases h.userData p with hu | ⟨-, hu⟩
    · rw [h.calls]
      exact hx.decoding p vkpic (h.decoding p hc) (hu ▸ hv)
    · rw [hu] at hv
      cases hv
  · rw [h.calls]
    exact hx.told

-- a call that leaves the user data alone
lemma Gathering.tell (hx : Gathering x) (hb : Buffers x) (hact : Act env x y) (he : e.Aside)
    (hl : calls y.2.store.log = e :: calls x.2.store.log) (hu : ∀ q, (y.2.pic q).userData = (x.2.pic q).userData)
    (hc : ∀ q, y.1.current = .decoding q → x.1.current = .decoding q) : Gathering y := by
  refine ⟨fun p vkpic hy hv => ?_, fun p vkpic hd hv => ?_, ?_⟩
  · rcases hact.blank_of hy with hbl | rfl
    · exact hx.blank p vkpic hbl (hu p ▸ hv)
    · rw [hu, hb.fresh _ (Nat.le_refl _)] at hv
      cases hv
  · rw [hl, nalusOf_aside he]
    exact hx.decoding p vkpic (hc p hd) (hu p ▸ hv)
  · rw [hl]
    exact ⟨showsSlices_aside he.decoded, hx.told⟩

lemma Gathering.start (hx : Gathering (k, s)) (hp : Placed (k, s)) (slice : GstH264Slice) (vkpic : VkPic)
    (hk : k.current.filledBy p slice) (hv : (s.pic p).userData = some vkpic) :
    Gathering (k.setCurrent (.decoding p), s.startPicture env p slice vkpic) := by
  have hdata : ∀ q, ((s.startPicture env p slice vkpic).pic q).userData =
      if q = p then some (startVkPic env s p slice vkpic) else (s.pic q).userData :=
    fun q => setVkPic_userData p q (startVkPic env s p slice vkpic) s
  refine ⟨fun q v hy hu => ?_, fun q v hq hu => ?_, ?_, hx.told⟩
  · obtain hf | ⟨slice', h | h | h⟩ := hy
    · have hne : q ≠ p := by
        rintro rfl
        exact hp.current_hold (r := .fresh) hk.place rfl hf
      rw [hdata, if_neg hne] at hu
      exact hx.blank q v (.inl hf) hu
    all_goals cases h
  · cases hq
    rw [hdata, if_pos rfl] at hu
    cases hu
    have hnalus : nalusOf p (calls (s.startPicture env p slice vkpic).store.log) = [] :=
      nalusOf_start (e := .startPicture p (s.startInfo env p slice)) (by simp [Event.starts])
    rw [hnalus, hx.blank p vkpic (.inr ⟨slice, .inr hk⟩) hv]
    exact gathers_nil
  · exact showsSlices_aside rfl

lemma Gathering.slice (hx : Gathering (k, s)) (hp : Placed (k, s)) (slice : GstH264Slice) (vkpic : VkPic)
    (hk : k.current = .decoding p) (hv : (s.pic p).userData = some vkpic) :
    Gathering (k, s.decodeSlice env p slice vkpic) := by
  have hdata : ∀ q, ((s.decodeSlice env p slice vkpic).pic q).userData =
      if q = p then some (appendSlice slice vkpic) else (s.pic q).userData :=
    fun q => setVkPic_userData p q (appendSlice slice vkpic) s
  refine ⟨fun q v hy hu => ?_, fun q v hq hu => ?_, ?_, hx.told⟩
  · have hne : q ≠ p := by
      rintro rfl
      exact hp.not_blank hk hy
    rw [hdata, if_neg hne] at hu
    exact hx.blank q v hy hu
  · cases hk.symm.trans hq
    rw [hdata, if_pos rfl] at hu
    cases hu
    have hnalus : nalusOf p (calls (s.decodeSlice env p slice vkpic).store.log) =
        nalusOf p (calls s.store.log) ++ [slice.nalu.data] := by
      refine (nalusOf_cons (e := .decodeSlice p slice (s.activation env slice.header.pps)) rfl).trans ?_
      rw [naluOf, if_pos rfl]
      rfl
    rw [hnalus]
    exact (hx.decoding p vkpic hk hv).append slice.nalu.data
  · exact showsSlices_aside rfl

lemma Gathering.endPicture {k' : Phase} (hx : Gathering (k, s)) (hp : Placed (k, s)) (vkpic : VkPic)
    (hact : Act env (k, s) (k', s.endPicture env p vkpic)) (hk : k.current = .decoding p)
    (hv : (s.pic p).userData = some vkpic) (hb : Buffers (k, s)) (hk' : k'.current = .gone p ∨ k'.current = .lost p) :
    Gathering (k', s.endPicture env p vkpic) := by
  have hdata : ∀ q, ((s.endPicture env p vkpic).pic q).userData =
      if q = p then some (stealBitstream vkpic) else (s.pic q).userData :=
    fun q => setVkPic_userData p q (stealBitstream vkpic) s
  refine ⟨fun q v hy hu => ?_, fun q v hq => ?_, ?_, hx.told⟩
  · rcases hact.blank_of hy with hbl | hn
    · have hne : q ≠ p := by
        rintro rfl
        exact hp.not_blank hk hbl
      rw [hdata, if_neg hne] at hu
      exact hx.blank q v hbl hu
    · have hnone : (s.pic q).userData = none := hb.fresh q (Nat.le_of_eq hn.symm)
      have hne : q ≠ p := by
        rintro rfl
        cases hnone.symm.trans hv
      rw [hdata, if_neg hne, hnone] at hu
      cases hu
  · rcases hk' with h | h <;> cases h.symm.trans hq
  · rintro _ ⟨⟩ hsize
    exact (hx.decoding p vkpic hk hv).assembled hsize

lemma Gathering.alloc (hx : Gathering (k, s)) (hp : Placed (k, s)) (hm : (.fresh, p) ∈ k.hold)
    (hv : (s.pic p).userData = none) : Gathering (k, s.allocPicture env p) := by
  have hother : ∀ q v, q ≠ p → ((s.allocPicture env p).pic q).userData = some v → (s.pic q).userData = some v := by
    intro q v hne hu
    rwa [allocPicture_pic_of_ne hne] at hu
  have hcalls : calls (s.allocPicture env p).store.log =
      .allocPictureBuffer p (env.allocPictureBuffer s.store.log) s.allocInfo :: calls s.store.log := by
    unfold Decoder.allocPicture
    simp only
    split <;> rfl
  refine ⟨fun q v hy hu => ?_, fun q v hq hu => ?_, ?_⟩
  · by_cases hqp : q = p
    · subst hqp
      cases hr : env.allocPictureBuffer s.store.log with
      | none =>
        rw [allocPicture_none q hr] at hu
        cases hv.symm.trans hu
      | some pic =>
        rw [allocPicture_some q hr, setVkPic_userData, if_pos rfl] at hu
        cases hu
        rfl
    · exact hx.blank q v hy (hother q v hqp hu)
  · have hne : q ≠ p := by
      rintro rfl
      exact hp.current_hold (r := .fresh) (by rw [show k.current = .decoding q from hq]; rfl) rfl hm
    rw [hcalls, nalusOf_aside ⟨fun _ => rfl, fun _ => rfl, rfl⟩]
    exact hx.decoding q v hq (hother q v hne hu)
  · rw [hcalls]
    exact ⟨showsSlices_aside rfl, hx.told⟩

lemma Act.gathering (h : Act env x y) (hp : Placed x) (hb : Buffers x) (hx : Gathering x) : Gathering y := by
  rcases id h.speaks with hs | hs
  · exact hx.silent hb h hs
  · cases hs with
    | start p slice vkpic hk hv => exact hx.start hp slice vkpic hk hv
    | slice p slice vkpic hk hv => exact hx.slice hp slice vkpic hk hv
    | endPicture p vkpic hk hv hk' => exact hx.endPicture hp vkpic h hk hv hb (hk'.imp And.left And.left)
    | alloc p hm hv => exact hx.alloc hp hm hv
    | configure | rejectSps => exact ⟨hx.blank, hx.decoding, hx.told⟩
    | display p vkpic frame hv hk =>
      exact hx.tell hb h ⟨fun _ => rfl, fun _ => rfl, rfl⟩ rfl (fun _ => rfl) fun _ hq => hk ▸ hq
    | _ => exact hx.tell hb h ⟨fun _ => rfl, fun _ => rfl, rfl⟩ rfl (fun _ => rfl) fun _ hq => hq

lemma gathering_start : Gathering (Phase.idle, Decoder.start env) :=
  ⟨fun _ _ _ h => (by cases h), fun _ _ h => (by cases h), trivial⟩

lemma gathering_reach (h : ReflTransGen (Act env) (Phase.idle, Decoder.start env) x) : Gathering x := by
  induction h with
  | refl => exact gathering_start
  | tail hreach hact ih => exact hact.gathering (sound_start.reach hreach).placed (buffers_reach hreach) ih

/-- In every run, every DecodePicture call is given the slices of its picture. -/
lemma slices_shown (env : Env P) (inputs : List Input) : Always ShowsSlices (clientCalls env inputs) := by
  obtain ⟨k, hk⟩ := reach_final env inputs
  exact (gathering_reach hk).told

end VkVideoParser.H264
