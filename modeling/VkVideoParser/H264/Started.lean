import VkVideoParser.H264.Bitstream

/-! What start_picture writes for a picture is what DecodePicture is given, but for the slices. -/

namespace VkVideoParser.H264

open Execution Relation Histories

variable {P : Type} {env : Env P} {k : Phase} {s : Decoder P} {x y : Phase × Decoder P} {log : List Event}
  {p q : PicId} {e : Event} {v v' : VkPic}

/-- The data without the fields that the slices and the end of a picture write. -/
def PictureData.settled (data : PictureData) : PictureData :=
  { data with nBitstreamDataLen := 0, pBitstreamData := [], nNumSlices := 0, pSliceDataOffsets := [] }

/-- What DecodePicture is given. -/
structure DecodeCall where
  picture : PicId
  data : PictureData
  sps : StdSps
  pps : StdPps

def Event.decodeCall : Event → Option DecodeCall
  | .decodePicture p data sps pps _ => some ⟨p, data, sps, pps⟩
  | _ => none

/-- The picture starts in this state, with these user data. -/
structure Starting (env : Env P) (p : PicId) (s : Decoder P) (slice : GstH264Slice) (v : VkPic) : Prop where
  reach : ∃ k, ReflTransGen (Act env) (Phase.idle, Decoder.start env) (k, s) ∧ k.current.filledBy p slice
  userData : (s.pic p).userData = some v

/-- The picture was started last in some state, and its user data are those written there. -/
structure Written (env : Env P) (log : List Event) (p : PicId) (v : VkPic) (s : Decoder P) (slice : GstH264Slice)
    (v₀ : VkPic) : Prop extends Starting env p s slice v₀ where
  start : (starts log p).head? = some (s.startInfo env p slice)
  data : v.data.settled = (startVkPic env s p slice v₀).data.settled
  vkp : v.vkp = (startVkPic env s p slice v₀).vkp

/-- A DecodePicture call shows what was written as its picture started. -/
structure Shown (env : Env P) (log : List Event) (d : DecodeCall) (s : Decoder P) (slice : GstH264Slice) (v₀ : VkPic) :
    Prop extends Starting env d.picture s slice v₀ where
  start : (starts log d.picture).head? = some (s.startInfo env d.picture slice)
  data : d.data.settled = (startVkPic env s d.picture slice v₀).data.settled
  sps : s.paramSource env = .own → d.sps = (startVkPic env s d.picture slice v₀).vkp.stdSps
  pps : s.paramSource env = .own → d.pps = (startVkPic env s d.picture slice v₀).vkp.stdPps

/-- Every DecodePicture call shows what was written as its picture started. -/
def AlwaysShown (env : Env P) (log : List Event) : Prop :=
  Always (fun l e => ∀ d ∈ e.decodeCall, ∃ s slice v₀, Shown env l d s slice v₀) log

/-- While a picture is decoded its user data are those written at its start. -/
structure Started (env : Env P) (x : Phase × Decoder P) : Prop where
  decoding : ∀ p v, x.1.current = .decoding p → (x.2.pic p).userData = some v →
    ∃ s slice v₀, Written env (calls x.2.store.log) p v s slice v₀
  told : AlwaysShown env (calls x.2.store.log)

lemma starts_cons_of_none (h : startsOf p e = none) : starts (e :: log) p = starts log p := by
  rw [starts, List.filterMap_cons_none h]
  rfl

lemma starts_cons_start (info : StartInfo) : (starts (.startPicture p info :: log) p).head? = some info := by
  simp [starts, startsOf]

lemma Written.later {v₀ : VkPic} {slice : GstH264Slice} (h : Written env log p v s slice v₀)
    (he : startsOf p e = none) (hd : v'.data.settled = v.data.settled) (hv : v'.vkp = v.vkp) :
    Written env (e :: log) p v' s slice v₀ :=
  ⟨h.toStarting, by rw [starts_cons_of_none he, h.start], hd.trans h.data, hv.trans h.vkp⟩

lemma Started.silent (hx : Started env x) (h : Silent x y) : Started env y := by
  refine ⟨fun p v hc hv => ?_, ?_⟩
  · rcases h.userData p with hu | ⟨-, hu⟩
    · rw [h.calls]
      exact hx.decoding p v (h.decoding p hc) (hu ▸ hv)
    · rw [hu] at hv
      cases hv
  · rw [h.calls]
    exact hx.told

-- one more call, of another kind
lemma Started.tell (hx : Started env x) (hl : calls y.2.store.log = e :: calls x.2.store.log)
    (hc : ∀ p v, y.1.current = .decoding p → (y.2.pic p).userData = some v →
      ∃ s slice v₀, Written env (e :: calls x.2.store.log) p v s slice v₀)
    (he : ∀ d ∈ e.decodeCall, ∃ s slice v₀, Shown env (calls x.2.store.log) d s slice v₀) : Started env y := by
  refine ⟨hl ▸ hc, ?_⟩
  rw [hl]
  exact ⟨he, hx.told⟩

-- a call that says nothing of the current picture
lemma Started.aside (hx : Started env x) (hl : calls y.2.store.log = e :: calls x.2.store.log)
    (hs : ∀ p, startsOf p e = none) (hd : e.decodeCall = none)
    (hc : ∀ p, y.1.current = .decoding p → x.1.current = .decoding p)
    (hu : ∀ p, y.1.current = .decoding p → (y.2.pic p).userData = (x.2.pic p).userData) : Started env y := by
  refine hx.tell hl (fun p v hp hv => ?_) fun d he => ?_
  · obtain ⟨s, slice, v₀, h⟩ := hx.decoding p v (hc p hp) (hu p hp ▸ hv)
    exact ⟨s, slice, v₀, h.later (hs p) rfl rfl⟩
  · rw [hd] at he
    cases he

lemma Started.start (hx : Started env (k, s)) (hreach : ReflTransGen (Act env) (Phase.idle, Decoder.start env) (k, s))
    (slice : GstH264Slice) (vkpic : VkPic) (hk : k.current.filledBy p slice) (hv : (s.pic p).userData = some vkpic) :
    Started env (k.setCurrent (.decoding p), s.startPicture env p slice vkpic) := by
  refine hx.tell (e := .startPicture p (s.startInfo env p slice)) rfl (fun q v hq hu => ?_) fun _ he => by cases he
  cases hq
  have hu : ((setVkPic p (startVkPic env s p slice vkpic) s).pic p).userData = some v := hu
  rw [setVkPic_userData, if_pos rfl] at hu
  cases hu
  exact ⟨s, slice, vkpic, ⟨⟨k, hreach, hk⟩, hv⟩, starts_cons_start _, rfl, rfl⟩

lemma Started.slice (hx : Started env (k, s)) (slice : GstH264Slice) (vkpic : VkPic) (hk : k.current = .decoding p)
    (hv : (s.pic p).userData = some vkpic) : Started env (k, s.decodeSlice env p slice vkpic) := by
  refine hx.tell (e := .decodeSlice p slice (s.activation env slice.header.pps)) rfl (fun q v hq hu => ?_)
    fun _ he => by cases he
  cases hk.symm.trans hq
  have hu : ((setVkPic p (appendSlice slice vkpic) s).pic p).userData = some v := hu
  rw [setVkPic_userData, if_pos rfl] at hu
  cases hu
  obtain ⟨s₀, slice₀, v₀, h⟩ := hx.decoding p vkpic hk hv
  exact ⟨s₀, slice₀, v₀, h.later rfl rfl rfl⟩

lemma Written.shown {v₀ : VkPic} {slice : GstH264Slice} {s₀ : Decoder P} (h : Written env log p v s₀ slice v₀) :
    Shown env log ⟨p, (stealBitstream v).data, s.stdSps v, s.stdPps v⟩ s₀ slice v₀ := by
  have hsource : v.data.settled.h264 = (startVkPic env s₀ p slice v₀).data.settled.h264 := by rw [h.data]
  refine ⟨h.toStarting, h.start, h.data, fun hown => ?_, fun hown => ?_⟩
  · have hown : v.data.h264.pStdSps = .own := (congrArg H264PictureData.pStdSps hsource).trans hown
    change s.stdSps v = _
    rw [Decoder.stdSps, hown, h.vkp]
  · have hown : v.data.h264.pStdPps = .own := (congrArg H264PictureData.pStdPps hsource).trans hown
    change s.stdPps v = _
    rw [Decoder.stdPps, hown, h.vkp]

lemma Started.endPicture {k' : Phase} (hx : Started env (k, s)) (vkpic : VkPic) (hk : k.current = .decoding p)
    (hv : (s.pic p).userData = some vkpic) (hk' : k'.current = .gone p ∨ k'.current = .lost p) :
    Started env (k', s.endPicture env p vkpic) := by
  refine hx.tell (e := .decodePicture p (stealBitstream vkpic).data (s.stdSps vkpic) (s.stdPps vkpic)
    (s.decodeReply env vkpic)) rfl (fun q v hq => ?_) fun d he => ?_
  · rcases hk' with h | h <;> cases h.symm.trans hq
  · cases he
    obtain ⟨s₀, slice₀, v₀, h⟩ := hx.decoding p vkpic hk hv
    exact ⟨s₀, slice₀, v₀, h.shown⟩

lemma Started.alloc (hx : Started env (k, s)) (hp : Placed (k, s)) (hm : (.fresh, p) ∈ k.hold) :
    Started env (k, s.allocPicture env p) := by
  have hcalls : calls (s.allocPicture env p).store.log =
      .allocPictureBuffer p (env.allocPictureBuffer s.store.log) s.allocInfo :: calls s.store.log := by
    unfold Decoder.allocPicture
    simp only
    split <;> rfl
  refine hx.aside hcalls (fun _ => rfl) rfl (fun _ hq => hq) fun q hq => ?_
  have hne : q ≠ p := by
    rintro rfl
    exact hp.current_hold (r := .fresh) (by rw [show k.current = .decoding q from hq]; rfl) rfl hm
  rw [allocPicture_pic_of_ne hne]

lemma started_reach (h : ReflTransGen (Act env) (Phase.idle, Decoder.start env) x) : Started env x := by
  induction h with
  | refl =>
    exact ⟨fun p v hc => (by cases hc), trivial⟩
  | tail hreach hact ih =>
    rcases hact.speaks with hs | hs
    · exact ih.silent hs
    · cases hs with
      | start p slice vkpic hk hv => exact ih.start hreach slice vkpic hk hv
      | slice p slice vkpic hk hv => exact ih.slice slice vkpic hk hv
      | endPicture p vkpic hk hv hk' => exact ih.endPicture vkpic hk hv (hk'.imp And.left And.left)
      | alloc p hm hv => exact ih.alloc (sound_start.reach hreach).placed hm
      | configure | rejectSps => exact ⟨ih.decoding, ih.told⟩
      | display p vkpic frame hv hk =>
        exact ih.aside rfl (fun _ => rfl) rfl (fun _ hq => hk ▸ hq) fun _ _ => rfl
      | _ => exact ih.aside rfl (fun _ => rfl) rfl (fun _ hq => hq) fun _ _ => rfl

-- what holds of every DecodePicture call that shows what start_picture wrote in a state of a run
lemma always_shown (env : Env P) (inputs : List Input) {Q : List Event → DecodeCall → Prop}
    (h : ∀ l d s slice v₀, l <:+ clientCalls env inputs → Shown env l d s slice v₀ → Q l d) :
    Always (fun l e => ∀ d ∈ e.decodeCall, Q l d) (clientCalls env inputs) := by
  obtain ⟨k, hk⟩ := reach_final env inputs
  refine always_iff.mpr fun e l hl d hd => ?_
  obtain ⟨s, slice, v₀, hshown⟩ := always_iff.mp (started_reach hk).told e l hl d hd
  exact h l d s slice v₀ ((List.suffix_cons ..).trans hl) hshown

end VkVideoParser.H264
