import VkVideoParser.H264.References
import VkVideoParser.H264.Calls

/-! The buffer that the client gives to a picture, and the calls in which it comes back. -/

namespace VkVideoParser.H264

open Execution Relation

variable {P : Type} {env : Env P} {k k' : Phase} {s t : Decoder P} {x y : Phase × Decoder P}
  {log log' : List Event} {p q : PicId} {v : VkPicIf}

/-- The client gave the buffer `v` to the picture `p`. -/
def Given (log : List Event) (p : PicId) (v : VkPicIf) : Prop :=
  ∃ info, Event.allocPictureBuffer p (some v) info ∈ log

/-- The call names the buffers that the pictures in it were given. -/
def Carries (log : List Event) : Event → Prop
  | .decodePicture p data _ _ _ => ∃ v, data.pCurrPic = some v ∧ Given log p v
  | .displayPicture p v .. => Given log p v
  | .startPicture _ info => ∀ u ∈ info.stored, ∀ vkpic, u.2.1.userData = some vkpic → Given log u.1 vkpic.pic
  | _ => True

lemma Given.mono (h : Given log p v) (hl : log ⊆ log') : Given log' p v := h.imp fun _ hm => hl hm

lemma Carries.mono {e : Event} (h : Carries log e) (hl : log ⊆ log') : Carries log' e := by
  cases e with
  | decodePicture p data sps pps ok => exact h.imp fun v hv => ⟨hv.1, hv.2.mono hl⟩
  | displayPicture p v frame t ok => exact Given.mono h hl
  | startPicture p info => exact fun u hu vkpic hv => (h u hu vkpic hv).mono hl
  | _ => trivial

lemma given_calls : Given (calls log) p v ↔ Given log p v := exists_congr fun _ => mem_calls rfl

def bufferOf (s : Decoder P) (p : PicId) : Option VkPicIf := (s.pic p).userData.map VkPic.pic

/-- A picture's user data holds the one buffer that was given to it. -/
structure Buffers (x : Phase × Decoder P) : Prop where
  owned : ∀ p v, Given (calls x.2.store.log) p v ↔ bufferOf x.2 p = some v
  fresh : ∀ p, x.2.store.next ≤ p → (x.2.pic p).userData = none
  current : ∀ p vkpic, x.1.current = .decoding p → (x.2.pic p).userData = some vkpic →
    vkpic.data.pCurrPic = some vkpic.pic
  carried : ∀ e ∈ calls x.2.store.log, Carries (calls x.2.store.log) e

lemma bufferOf_of_userData {vkpic : VkPic} (h : (s.pic p).userData = some vkpic) : bufferOf s p = some vkpic.pic := by
  rw [bufferOf, h]
  rfl

lemma Buffers.silent (hx : Buffers x) (h : Silent x y) : Buffers y := by
  have hbuf : ∀ q, bufferOf y.2 q = bufferOf x.2 q := by
    intro q
    rcases h.userData q with hu | ⟨rfl, hu⟩
    · rw [bufferOf, bufferOf, hu]
    · rw [bufferOf, bufferOf, hu, hx.fresh _ le_rfl]
  refine ⟨fun q v => ?_, fun q hq => ?_, fun q vkpic hc hv => ?_, ?_⟩
  · rw [h.calls, hbuf]
    exact hx.owned q v
  · rcases h.userData q with hu | ⟨-, hu⟩
    · exact hu.trans (hx.fresh q (h.next.trans hq))
    · exact hu
  · rcases h.userData q with hu | ⟨-, hu⟩
    · exact hx.current q vkpic (h.decoding q hc) (hu ▸ hv)
    · rw [hu] at hv
      cases hv
  · rw [h.calls]
    exact hx.carried

def Event.isAlloc : Event → Bool
  | .allocPictureBuffer .. => true
  | _ => false

lemma given_cons {e : Event} (he : e.isAlloc = false) : Given (e :: log) p v ↔ Given log p v := by
  refine exists_congr fun info => ?_
  rw [List.mem_cons]
  refine or_iff_right ?_
  rintro rfl
  cases he

-- one more call, which is not about a new buffer
lemma Buffers.tell (hx : Buffers x) {e : Event} (he : e.isAlloc = false)
    (hl : calls y.2.store.log = e :: calls x.2.store.log) (hb : ∀ q, bufferOf y.2 q = bufferOf x.2 q)
    (hn : y.2.store.next = x.2.store.next)
    (hc : ∀ p vkpic, y.1.current = .decoding p → (y.2.pic p).userData = some vkpic →
      vkpic.data.pCurrPic = some vkpic.pic)
    (hcar : Carries (calls x.2.store.log) e) : Buffers y := by
  have hsub : calls x.2.store.log ⊆ calls y.2.store.log := by
    rw [hl]
    exact List.subset_cons_self ..
  refine ⟨fun q v => ?_, fun q hq => ?_, hc, fun e' he' => ?_⟩
  · rw [hl, given_cons he, hb]
    exact hx.owned q v
  · have := hb q
    rw [bufferOf, bufferOf, hx.fresh q (hn ▸ hq)] at this
    simpa using this
  · rw [hl] at he'
    rcases List.mem_cons.mp he' with rfl | he'
    · exact hcar.mono hsub
    · exact (hx.carried e' he').mono hsub

lemma bufferOf_setVkPic {vkpic vkpic' : VkPic} (hv : (s.pic p).userData = some vkpic) (hp : vkpic'.pic = vkpic.pic)
    (q : PicId) : bufferOf (setVkPic p vkpic' s) q = bufferOf s q := by
  rw [bufferOf, setVkPic_userData]
  split
  · rename_i hq
    rw [hq, bufferOf_of_userData hv, ← hp]
    rfl
  · rfl

lemma Buffers.alloc (hx : Buffers (k, s)) (hp : p < s.store.next) (hv : (s.pic p).userData = none)
    (hc : k.current ≠ .decoding p) : Buffers (k, s.allocPicture env p) := by
  cases hr : env.allocPictureBuffer s.store.log with
  | none =>
    rw [allocPicture_none p hr]
    have hg : ∀ q v, Given (calls (s.emit (.allocPictureBuffer p none s.allocInfo)).store.log) q v ↔
        Given (calls s.store.log) q v := by
      intro q v
      exact exists_congr fun info => by simp [calls, Event.isCall]
    refine ⟨fun q v => (hg q v).trans (hx.owned q v), hx.fresh, hx.current, fun e he => ?_⟩
    rcases List.mem_cons.mp he with rfl | he
    · trivial
    · exact (hx.carried e he).mono (List.subset_cons_self ..)
  | some pic =>
    rw [allocPicture_some p hr]
    have hg : ∀ q v, Given (calls (setVkPic p { pic } (s.emit (.allocPictureBuffer p (some pic) s.allocInfo))).store.log) q v ↔
        (q = p ∧ v = pic) ∨ Given (calls s.store.log) q v := by
      intro q v
      constructor
      · rintro ⟨info, hm⟩
        rcases List.mem_cons.mp hm with he | hm
        · cases he
          exact .inl ⟨rfl, rfl⟩
        · exact .inr ⟨info, hm⟩
      · rintro (⟨rfl, rfl⟩ | ⟨info, hm⟩)
        · exact ⟨_, List.mem_cons_self ..⟩
        · exact ⟨info, List.mem_cons_of_mem _ hm⟩
    refine ⟨fun q v => ?_, fun q hq => ?_, fun q vkpic hd hu => ?_, fun e he => ?_⟩
    · rw [hg, hx.owned, bufferOf, bufferOf, setVkPic_userData]
      by_cases hq : q = p
      · subst hq
        simp [hv, eq_comm]
      · simp [hq, Decoder.pic]
    · rw [setVkPic_userData, if_neg]
      · exact hx.fresh q hq
      · rintro rfl
        exact absurd hp (not_lt.mpr hq)
    · rw [setVkPic_userData, if_neg] at hu
      · exact hx.current q vkpic hd hu
      · rintro rfl
        exact hc hd
    · rcases List.mem_cons.mp he with rfl | he
      · trivial
      · exact (hx.carried e he).mono (List.subset_cons_self ..)

lemma startInfo_carries (hx : Buffers (k, s)) (p : PicId) (slice : GstH264Slice) :
    Carries (calls s.store.log) (.startPicture p (s.startInfo env p slice)) := by
  intro u hu vkpic hv
  obtain ⟨q, -, rfl⟩ := List.mem_map.mp hu
  exact (hx.owned q _).mpr (bufferOf_of_userData hv)

lemma Buffers.speaks (hx : Buffers x) (hp : Placed x) (h : Speaks env x y) : Buffers y := by
  cases h with
  | updateSps sps | updatePps pps =>
    exact hx.tell rfl rfl (fun _ => rfl) rfl hx.current trivial
  | parserUpdateSps sps ok hk => exact hx.tell rfl rfl (fun _ => rfl) rfl hx.current trivial
  | beginSequence sps input => exact hx.tell rfl rfl (fun _ => rfl) rfl hx.current trivial
  | configure sps hk => exact ⟨hx.owned, hx.fresh, hx.current, hx.carried⟩
  | rejectSps sps hk => exact ⟨hx.owned, hx.fresh, hx.current, hx.carried⟩
  | alloc p hm hv =>
    refine hx.alloc (hp.below p (.inr ⟨_, hm⟩)) hv fun hc => ?_
    exact hp.current_hold (r := .fresh) (by rw [hc]; rfl) rfl hm
  | start p slice vkpic hk hv =>
    refine hx.tell rfl rfl (bufferOf_setVkPic hv rfl) rfl ?_ (startInfo_carries hx p slice)
    intro q vkpic' hc hu
    cases hc
    rw [Decoder.startPicture, Decoder.pic, Decoder.emit_store, Store.emit_pic, ← Decoder.pic, setVkPic_userData,
      if_pos rfl] at hu
    cases hu
    rfl
  | slice p slice vkpic hk hv =>
    refine hx.tell rfl rfl (bufferOf_setVkPic hv rfl) rfl ?_ trivial
    intro q vkpic' hc hu
    obtain rfl : p = q := by simpa [hk] using hc
    rw [Decoder.decodeSlice, Decoder.pic, Decoder.emit_store, Store.emit_pic, ← Decoder.pic, setVkPic_userData,
      if_pos rfl] at hu
    cases hu
    exact hx.current p vkpic hk hv
  | endPicture p vkpic hk hv hk' hb =>
    refine hx.tell rfl rfl (bufferOf_setVkPic hv rfl) rfl ?_ ?_
    · intro q vkpic' hc
      rcases hk' with ⟨hk', -⟩ | ⟨hk', -⟩ <;> rw [hk'] at hc <;> cases hc
    · exact ⟨vkpic.pic, hx.current p vkpic hk hv, (hx.owned p _).mpr (bufferOf_of_userData hv)⟩
  | display p vkpic frame hv hk hb =>
    refine hx.tell rfl rfl (fun _ => rfl) rfl ?_ ((hx.owned p _).mpr (bufferOf_of_userData hv))
    intro q vkpic' hc
    exact hx.current q vkpic' (hk ▸ hc)

lemma buffers_start : Buffers (Phase.idle, Decoder.start env) := by
  refine ⟨fun p v => ⟨?_, ?_⟩, fun _ _ => rfl, ?_, ?_⟩
  · rintro ⟨info, hm⟩
    cases hm
  · intro h
    cases h
  · intro p vkpic hc
    cases hc
  · intro e he
    cases he

lemma buffers_reach (h : ReflTransGen (Act env) (Phase.idle, Decoder.start env) x) : Buffers x := by
  induction h with
  | refl => exact buffers_start
  | tail hreach hact ih =>
    rcases hact.speaks with hs | hs
    · exact ih.silent hs
    · exact ih.speaks (sound_start.reach hreach).placed hs

lemma mem_startInfos {info : StartInfo} : info ∈ startInfos log ↔ ∃ p, Event.startPicture p info ∈ log := by
  constructor
  · intro h
    obtain ⟨e, he, hd⟩ := List.mem_filterMap.mp h
    cases e with
    | startPicture q info' =>
      cases hd
      exact ⟨q, he⟩
    | _ => cases hd
  · rintro ⟨p, he⟩
    exact List.mem_filterMap.mpr ⟨_, he, rfl⟩

/-- A field and the second field that was started to complete it, both decoded. -/
structure FieldPair (log : List Event) (p q : PicId) : Prop where
  started : ∃ info ∈ starts log q, info.secondField ∧ info.otherField = some p
  first : 0 < (decodes log p).length
  second : 0 < (decodes log q).length

instance (log : List Event) (p q : PicId) : Decidable (FieldPair log p q) :=
  decidable_of_iff ((∃ info ∈ starts log q, info.secondField ∧ info.otherField = some p) ∧
    0 < (decodes log p).length ∧ 0 < (decodes log q).length)
    ⟨fun h => ⟨h.1, h.2.1, h.2.2⟩, fun h => ⟨h.started, h.first, h.second⟩⟩

/-- The pair is decoded into `v`, referred to as `v` and shown as `v`. -/
structure OneBuffer (log : List Event) (p q : PicId) (v : VkPicIf) : Prop where
  decoded : ∀ r, r = p ∨ r = q → ∀ data ∈ decodes log r, data.pCurrPic = some v
  referred : ∀ info ∈ startInfos log, ∀ u ∈ info.stored, u.1 = p ∨ u.1 = q → entryOf u ∈ info.dpb →
    (entryOf u).usedForReference = 3 → (entryOf u).pPicBuf = some v
  displayed : ∀ r, r = p ∨ r = q → ∀ w ∈ displays log r, w = v

lemma fillDbpEntry_pPicBuf (a : Picture) (b : Option Picture) :
    (fillDbpEntry a b).pPicBuf = a.userData.map VkPic.pic := by
  unfold fillDbpEntry
  cases a.userData with
  | none => rfl
  | some vkpic => cases a.field <;> cases b <;> rfl

lemma Buffers.given_unique (hx : Buffers x) {w : VkPicIf} (h : Given (calls x.2.store.log) p v)
    (h' : Given (calls x.2.store.log) p w) : w = v := by
  have hv := (hx.owned p v).mp h
  rw [(hx.owned p w).mp h'] at hv
  exact Option.some.inj hv

lemma Buffers.oneBuffer (hx : Buffers x) (hp : Given (calls x.2.store.log) p v)
    (hq : Given (calls x.2.store.log) q v) : OneBuffer x.2.store.log p q v := by
  have hown : ∀ r w, r = p ∨ r = q → Given (calls x.2.store.log) r w → w = v := by
    rintro r w (rfl | rfl) hw
    · exact hx.given_unique hp hw
    · exact hx.given_unique hq hw
  refine ⟨fun r hr data hd => ?_, fun info hi u hu hr _ h3 => ?_, fun r hr w hw => ?_⟩
  · obtain ⟨sps, pps, ok, he⟩ := mem_decodes.mp hd
    obtain ⟨w, hw, hg⟩ := hx.carried _ ((mem_calls rfl).mpr he)
    rw [hw, hown r w hr hg]
  · obtain ⟨r, he⟩ := mem_startInfos.mp hi
    rw [entryOf, fillDbpEntry_pPicBuf]
    cases hv : u.2.1.userData with
    | none => simp [entryOf, fillDbpEntry, hv] at h3
    | some vkpic =>
      rw [Option.map_some, hown u.1 _ hr (hx.carried _ ((mem_calls rfl).mpr he) u hu vkpic hv)]
  · obtain ⟨frame, t, ok, he⟩ := mem_displays.mp hw
    exact hown r w hr (hx.carried _ ((mem_calls rfl).mpr he))

lemma OneBuffer.given (hx : Buffers x) (h1 : OneBuffer x.2.store.log p q v) {r : PicId} (hr : r = p ∨ r = q)
    (hd : 0 < (decodes x.2.store.log r).length) : Given x.2.store.log r v := by
  obtain ⟨data, hm⟩ := List.exists_mem_of_length_pos hd
  obtain ⟨sps, pps, ok, he⟩ := mem_decodes.mp hm
  obtain ⟨w, hw, hg⟩ := hx.carried _ ((mem_calls rfl).mpr he)
  rw [h1.decoded r hr data hm] at hw
  cases hw
  exact given_calls.mp hg

/-- A field pair has one buffer when, and only when, the client gave the same one to both fields. -/
theorem fieldPair_oneBuffer (env : Env P) (inputs : List Input) (log : List Event) (p q : PicId)
    (hlog : log = (final (runInputs env inputs (Decoder.start env))).store.log) (h : FieldPair log p q) :
    (∃ v, OneBuffer log p q v) ↔ ∃ v, Given log p v ∧ Given log q v := by
  obtain ⟨k, hk⟩ := reach_final env inputs
  have hx := buffers_reach hk
  subst hlog
  refine exists_congr fun v => ⟨fun h1 => ?_, fun ⟨hp, hq⟩ => ?_⟩
  · exact ⟨h1.given hx (.inl rfl) h.first, h1.given hx (.inr rfl) h.second⟩
  · exact hx.oneBuffer (given_calls.mpr hp) (given_calls.mpr hq)

section Examples

-- the two fields of an IDR frame
def fieldScript : Script where
  sps := [Script.interlaced]
  pps := [{}]
  slices := [{ fieldPicFlag := true }, { fieldPicFlag := true, bottomFieldFlag := true, picOrderCntLsb := 1 }]

def fieldInputs : List Input :=
  Script.frames [[Script.spsUnit 0, Script.ppsUnit 0, Script.idrUnit 0, Script.sliceUnit 1]] ++ [.drain]

def fieldLog (env : Env Tables) : List Event := (final (runInputs env fieldInputs (Decoder.start env))).store.log

-- a client with a new buffer for every call
theorem fieldPair_twoBuffers :
    FieldPair (fieldLog fieldScript.env) 0 1 ∧ ¬∃ v, OneBuffer (fieldLog fieldScript.env) 0 1 v := by
  refine ⟨by decide +kernel, fun ⟨v, h⟩ => ?_⟩
  have hne : ∃ a ∈ decodes (fieldLog fieldScript.env) 0, ∃ b ∈ decodes (fieldLog fieldScript.env) 1,
      a.pCurrPic ≠ b.pCurrPic := by decide +kernel
  obtain ⟨a, ha, b, hb, hab⟩ := hne
  exact hab ((h.decoded 0 (.inl rfl) a ha).trans (h.decoded 1 (.inr rfl) b hb).symm)

def oneBufferEnv : Env Tables := { fieldScript.env with allocPictureBuffer := fun _ => some 7 }

theorem fieldPair_oneBuffer_seven :
    FieldPair (fieldLog oneBufferEnv) 0 1 ∧ ((∃ v, OneBuffer (fieldLog oneBufferEnv) 0 1 v) ↔
      ∃ v, Given (fieldLog oneBufferEnv) 0 v ∧ Given (fieldLog oneBufferEnv) 1 v) :=
  have h : FieldPair (fieldLog oneBufferEnv) 0 1 := by decide +kernel
  ⟨h, fieldPair_oneBuffer oneBufferEnv fieldInputs _ 0 1 rfl h⟩

end Examples

end VkVideoParser.H264
