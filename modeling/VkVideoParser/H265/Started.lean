import VkVideoParser.H265.Bitstream

/-! What start_picture writes for a picture is what DecodePicture is given, but for the slices. -/

namespace VkVideoParser.H265

open Execution Relation Histories

variable {P : Type} {env : Env P} {k : Phase} {s s₀ : Decoder P} {x y : Phase × Decoder P} {log : List Event}
  {p : PicId} {e : Event} {v v' v₀ : VkPic} {slot : VkH265Picture} {slice : GstH265Slice} {vps : GstH265VPS}

/-- The data without the fields that the slices and the end of a picture write. -/
def PictureData.settled (data : PictureData) : PictureData :=
  { data with refPicFlag := false, nBitstreamDataLen := 0, pBitstreamData := [], nNumSlices := 0, pSliceDataOffsets := [] }

/-- What DecodePicture is given. -/
structure DecodeCall where
  picture : PicId
  data : PictureData
  vps : StdVps
  sps : StdSps
  pps : StdPps

def Event.decodeCall : Event → Option DecodeCall
  | .decodePicture p data vps sps pps _ => some ⟨p, data, vps, sps, pps⟩
  | _ => none

/-- How a picture was started last, with the log before it. -/
def startOf (p : PicId) (log : List Event) : Option (StartInfo × List Event) :=
  match log.dropWhile fun e => !e.starts p with
  | .startPicture _ info :: l => some (info, l)
  | _ => none

/-- The picture starts in this state, with these user data. -/
structure Starting (env : Env P) (p : PicId) (s : Decoder P) (slice : GstH265Slice) (vps : GstH265VPS) (v : VkPic) :
    Prop where
  reach : ∃ k, ReflTransGen (Act env) (Phase.idle, Decoder.start env) (k, s) ∧ k.current = .starting p
  userData : (s.pic p).userData = some v
  vpsOf : (s.activation env slice.header.pps).vps = some vps
  flagged : Flagged s (s.pic p)
  setsListed : SetsListed s
  listable : Listable s

/-- The picture was started last in some state. Its user data and the slot are those written there. -/
structure Written (env : Env P) (log : List Event) (p : PicId) (v : VkPic) (slot : VkH265Picture) (s : Decoder P)
    (slice : GstH265Slice) (vps : GstH265VPS) (v₀ : VkPic) : Prop extends Starting env p s slice vps v₀ where
  start : startOf p log = some (s.startInfo env p slice, s.store.log)
  data : v.data.settled = (startVkPic env s p slice vps v₀).data.settled
  vkp : v.vkp = (startVkPic env s p slice vps v₀).vkp
  slot : slot = s.startVkp env slice

-- what the pointers of a picture show
def startVkpShown (env : Env P) (s : Decoder P) (p : PicId) (slice : GstH265Slice) (vps : GstH265VPS) (v : VkPic) :
    VkH265Picture :=
  match s.paramSource env with
  | .own => (startVkPic env s p slice vps v).vkp
  | .shared => s.startVkp env slice

/-- A DecodePicture call shows what was written as its picture started. -/
structure Shown (env : Env P) (log : List Event) (d : DecodeCall) (s : Decoder P) (slice : GstH265Slice)
    (vps : GstH265VPS) (v₀ : VkPic) : Prop extends Starting env d.picture s slice vps v₀ where
  start : startOf d.picture log = some (s.startInfo env d.picture slice, s.store.log)
  data : d.data.settled = (startVkPic env s d.picture slice vps v₀).data.settled
  sps : d.sps = (startVkpShown env s d.picture slice vps v₀).stdSps
  pps : d.pps = (startVkpShown env s d.picture slice vps v₀).stdPps
  vps : d.vps = (startVkpShown env s d.picture slice vps v₀).stdVps

/-- Every DecodePicture call shows what was written as its picture started. -/
def AlwaysShown (env : Env P) (log : List Event) : Prop :=
  Always (fun l e => ∀ d ∈ e.decodeCall, ∃ s slice vps v₀, Shown env l d s slice vps v₀) log

/-- While a picture is decoded its user data and the slot are those written at its start. -/
structure Started (env : Env P) (x : Phase × Decoder P) : Prop where
  decoding : ∀ p v, x.1.current = .decoding p → (x.2.pic p).userData = some v →
    ∃ s slice vps v₀, Written env x.2.store.log p v x.2.vkp s slice vps v₀
  told : AlwaysShown env x.2.store.log

lemma startOf_cons (h : e.starts p = false) : startOf p (e :: log) = startOf p log := by
  rw [startOf, List.dropWhile_cons_of_pos (by simp [h])]
  rfl

lemma startOf_start (info : StartInfo) : startOf p (.startPicture p info :: log) = some (info, log) := by
  rw [startOf, List.dropWhile_cons_of_neg (by simp [Event.starts])]

lemma startOf_append {l : List Event} (h : ∀ e ∈ l, e.Aside) : startOf p (l ++ log) = startOf p log := by
  induction l with
  | nil => rfl
  | cons e l ih =>
    rw [List.cons_append, startOf_cons ((h e List.mem_cons_self).starts p)]
    exact ih fun e he => h e (List.mem_cons_of_mem _ he)

lemma decodeCall_of_decoded (h : e.decoded = none) : e.decodeCall = none := by
  cases e with
  | decodePicture => cases h
  | _ => rfl

lemma alwaysShown_append {l : List Event} (h : ∀ e ∈ l, e.Aside) (hlog : AlwaysShown env log) :
    AlwaysShown env (l ++ log) := by
  induction l with
  | nil => exact hlog
  | cons e l ih =>
    refine ⟨fun d hd => ?_, ih fun e he => h e (List.mem_cons_of_mem _ he)⟩
    rw [decodeCall_of_decoded (h e List.mem_cons_self).decoded] at hd
    cases hd

-- nothing is announced while a picture is decoded
lemma Act.vkp (h : Act env x y) (hy : y.1.current = .decoding p) (hx : x.1.current = .decoding p) :
    y.2.vkp = x.2.vkp := by
  cases h with
  | book h => exact h.vkp
  | updateVps c vps nalu parser hk | updateSps c sps nalu parser hk | updatePps pps nalu parser hk =>
    cases hk.symm.trans hx
  | start p slice vps vkpic hk => cases hk.symm.trans hx
  | alloc p hk hv => cases hk.symm.trans hx
  | _ => rfl

lemma Written.later (h : Written env log p v slot s slice vps v₀) {log' : List Event}
    (hl : startOf p log' = startOf p log) (hd : v'.data.settled = v.data.settled) (hv : v'.vkp = v.vkp) :
    Written env log' p v' slot s slice vps v₀ :=
  ⟨h.toStarting, hl.trans h.start, hd.trans h.data, hv.trans h.vkp, h.slot⟩

lemma Started.start {c : Current} (hx : Started env (k, s))
    (hreach : ReflTransGen (Act env) (Phase.idle, Decoder.start env) (k, s)) (hk : k.current = .starting p)
    (hv : (s.pic p).userData = some v) (hvps : (s.activation env slice.header.pps).vps = some vps)
    (hflags : Flagged s (s.pic p)) (hsets : SetsListed s) (hc : (c = .decoding p ∧ Listable s) ∨ c = .failed p) :
    Started env (k.setCurrent c, s.startPicture env p slice vps v) := by
  refine ⟨fun q v' hq hu => ?_, fun _ he => (by cases he), hx.told⟩
  have hq : c = .decoding q := hq
  rcases hc with ⟨hcd, hlist⟩ | rfl
  · cases hcd.symm.trans hq
    have hu : ((setVkPic p (startVkPic env s p slice vps v) s).pic p).userData = some v' := hu
    rw [setVkPic_userData, if_pos rfl] at hu
    cases hu
    exact ⟨s, slice, vps, v, ⟨⟨k, hreach, hk⟩, hv, hvps, hflags, hsets, hlist⟩, startOf_start _, rfl, rfl, rfl⟩
  · cases hq

lemma Started.decodeSlice (hx : Started env (k, s)) (slice : GstH265Slice) (hk : k.current = .decoding p)
    (hv : (s.pic p).userData = some v) : Started env (k, s.decodeSlice env p slice v) := by
  refine ⟨fun q v' hq hu => ?_, fun _ he => (by cases he), hx.told⟩
  cases hk.symm.trans hq
  have hu : ((setVkPic p (appendSlice slice v) s).pic p).userData = some v' := hu
  rw [setVkPic_userData, if_pos rfl] at hu
  cases hu
  obtain ⟨s₀, slice₀, vps₀, v₀, h⟩ := hx.decoding p v hk hv
  exact ⟨s₀, slice₀, vps₀, v₀, h.later (startOf_cons rfl) rfl rfl⟩

lemma Written.shown (h : Written env log p v s.vkp s₀ slice vps v₀) :
    Shown env log ⟨p, (stealBitstream v).data, (s.shown v v.data.hevc.pStdVps).stdVps,
      (s.shown v v.data.hevc.pStdSps).stdSps, (s.shown v v.data.hevc.pStdPps).stdPps⟩ s₀ slice vps v₀ := by
  have hevc : v.data.settled.hevc = (startVkPic env s₀ p slice vps v₀).data.settled.hevc := by rw [h.data]
  have hsource : v.data.hevc.pStdVps = s₀.paramSource env ∧ v.data.hevc.pStdSps = s₀.paramSource env ∧
      v.data.hevc.pStdPps = s₀.paramSource env :=
    ⟨congrArg HevcPictureData.pStdVps hevc, congrArg HevcPictureData.pStdSps hevc, congrArg HevcPictureData.pStdPps hevc⟩
  have hshown : s.shown v (s₀.paramSource env) = startVkpShown env s₀ p slice vps v₀ := by
    unfold startVkpShown Decoder.shown
    cases s₀.paramSource env with
    | own => exact h.vkp
    | shared => exact h.slot
  refine ⟨h.toStarting, h.start, h.data, ?_, ?_, ?_⟩
  · rw [hsource.2.1, hshown]
  · rw [hsource.2.2, hshown]
  · rw [hsource.1, hshown]

lemma Started.endPicture (hx : Started env (k, s)) (hk : k.current = .decoding p) (hv : (s.pic p).userData = some v) :
    Started env ((k.take .ended p).setCurrent (.gone p), s.endPicture env p v) := by
  refine ⟨fun q v' hq => (by cases hq), ?_, hx.told⟩
  rintro _ ⟨⟩
  obtain ⟨s₀, slice, vps, v₀, h⟩ := hx.decoding p v hk hv
  exact ⟨s₀, slice, vps, v₀, h.shown⟩

lemma Started.aside (hx : Started env x) (hact : Act env x y) (h : Aside x y)
    (hc : ∀ p, y.1.current = .decoding p → x.1.current = .decoding p) : Started env y := by
  obtain ⟨l, hl, haside⟩ := h.log
  refine ⟨fun p v hp hv => ?_, hl ▸ alwaysShown_append haside hx.told⟩
  obtain ⟨s, slice, vps, v₀, hw⟩ := hx.decoding p v (hc p hp) (h.userData p ▸ hv)
  rw [hact.vkp hp (hc p hp), hl]
  exact ⟨s, slice, vps, v₀, hw.later (startOf_append haside) rfl rfl⟩

lemma Started.alloc (hx : Started env (k, s)) (hk : k.current = .starting p) : Started env (k, s.allocPicture env p) := by
  refine ⟨fun q v hq => (by cases hk.symm.trans hq), ?_⟩
  rw [allocPicture_log]
  exact alwaysShown_append (by simpa using ⟨fun _ => rfl, fun _ => rfl, rfl⟩) hx.told

lemma started_reach (h : ReflTransGen (Act env) (Phase.idle, Decoder.start env) x) : Started env x := by
  induction h with
  | refl => exact ⟨fun p v hc => (by cases hc), trivial⟩
  | tail hreach hact ih =>
    cases hact.steps with
    | start p slice vps vkpic hk hv hvps hflags hsets hc => exact ih.start hreach hk hv hvps hflags hsets hc
    | slice p slice vkpic hk hv => exact ih.decodeSlice slice hk hv
    | endPicture p vkpic hk hv => exact ih.endPicture hk hv
    | alloc p hk hv => exact ih.alloc hk
    | new | adopt => exact ⟨fun p v hc => (by cases hc), ih.told⟩
    | aside h hc =>
      refine ih.aside hact h fun p hp => ?_
      rcases hc with hc | hc
      · exact hc ▸ hp
      · exact absurd hp (hc p).2.2

-- what holds of every DecodePicture call that shows what start_picture wrote in a state of a run
lemma always_shown (env : Env P) (inputs : List Input) {Q : List Event → DecodeCall → Prop}
    (h : ∀ l d s slice vps v₀, l <:+ (final (runInputs env inputs (Decoder.start env))).store.log →
      Shown env l d s slice vps v₀ → Q l d) :
    Always (fun l e => ∀ d ∈ e.decodeCall, Q l d) (final (runInputs env inputs (Decoder.start env))).store.log := by
  obtain ⟨k, hk⟩ := reach_final env inputs
  refine always_iff.mpr fun e l hl d hd => ?_
  obtain ⟨s, slice, vps, v₀, hshown⟩ := always_iff.mp (started_reach hk).told e l hl d hd
  exact h l d s slice vps v₀ ((List.suffix_cons ..).trans hl) hshown

end VkVideoParser.H265
