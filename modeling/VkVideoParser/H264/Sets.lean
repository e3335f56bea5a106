import VkVideoParser.Library.Histories
import VkVideoParser.H264.Calls
import VkVideoParser.H264.Script

/-! The parameter sets that DecodePicture shows, and those that the slices of its picture activate. -/

namespace VkVideoParser.H264

open Execution Relation Histories

variable {P : Type} {env : Env P} {k : Phase} {s : Decoder P} {x y : Phase × Decoder P}
  {log log' : List Event} {p : PicId} {active : Activation}

def Event.announcedSps : Event → Option (GstH264SPS × Option ClientObject)
  | .updateSps sps _ _ _ client .. => some (sps, client)
  | _ => none

def Event.announcedPps : Event → Option (Activation × Option ClientObject)
  | .updatePps active _ _ _ client => some (active, client)
  | _ => none

/-- The sets announced last, with the objects that the client returned. -/
def lastSps (log : List Event) : Option (GstH264SPS × Option ClientObject) := log.findSome? Event.announcedSps

def lastPps (log : List Event) : Option (Activation × Option ClientObject) := log.findSome? Event.announcedPps

def activationOf (p : PicId) : Event → Option Activation
  | .startPicture q info => if q = p then some info.active else none
  | .decodeSlice q _ active => if q = p then some active else none
  | _ => none

/-- The sets that the slices of a picture activate. -/
def activations (log : List Event) (p : PicId) : List Activation := log.filterMap (activationOf p)

/-- A PPS shows no more of its SPS than the id. -/
structure SamePps (a b : Activation) : Prop where
  pps : b.pps = a.pps
  spsId : b.sps.id = a.sps.id

instance (a b : Activation) : Decidable (SamePps a b) :=
  decidable_of_iff (b.pps = a.pps ∧ b.sps.id = a.sps.id) ⟨fun h => ⟨h.1, h.2⟩, fun h => ⟨h.pps, h.spsId⟩⟩

/-- The sets announced last are those of `active`. -/
structure AnnouncedLast (log : List Event) (active : Activation) : Prop where
  sps : (lastSps log).map Prod.fst = some active.sps
  pps : ∃ b ∈ lastPps log, SamePps active b.1

instance (log : List Event) (active : Activation) : Decidable (AnnouncedLast log active) :=
  decidable_of_iff ((lastSps log).map Prod.fst = some active.sps ∧ ∃ b ∈ lastPps log, SamePps active b.1)
    ⟨fun h => ⟨h.1, h.2⟩, fun h => ⟨h.sps, h.pps⟩⟩

/-- All slices of the picture activate the same sets. When the client keeps the sets, no other ones
were announced since, neither as the picture starts nor until it is decoded. -/
structure SetsFollow (oob : Bool) (log : List Event) (p : PicId) : Prop where
  one : ∀ a ∈ activations log p, ∀ b ∈ activations log p, a = b
  started : oob → Always (fun l e => ∀ info ∈ startsOf p e, AnnouncedLast l info.active) log
  decoded : oob → ∀ a ∈ activations log p, AnnouncedLast log a

instance (oob : Bool) (log : List Event) (p : PicId) : Decidable (SetsFollow oob log p) :=
  decidable_of_iff ((∀ a ∈ activations log p, ∀ b ∈ activations log p, a = b) ∧
    (oob → Always (fun l e => ∀ info ∈ startsOf p e, AnnouncedLast l info.active) log) ∧
    (oob → ∀ a ∈ activations log p, AnnouncedLast log a))
    ⟨fun h => ⟨h.1, h.2.1, h.2.2⟩, fun h => ⟨h.one, h.started, h.decoded⟩⟩

/-- What DecodePicture shows is what the slices of the picture activate. -/
structure Coherent (oob : Bool) (log : List Event) (p : PicId) (data : PictureData) (sps : StdSps) (pps : StdPps) :
    Prop where
  activated : activations log p ≠ []
  spsContents : ∀ a ∈ activations log p, sps = stdSpsOf a.sps
  ppsContents : ∀ a ∈ activations log p, pps = stdPpsOf a.pps a.sps
  spsIds : sps.sps.seqParameterSetId = data.h264.seqParameterSetId
  ppsIds : pps.pps.picParameterSetId = data.h264.picParameterSetId
  spsObject : oob → ∀ a ∈ activations log p, ∃ e ∈ log, e.announcedSps = some (a.sps, data.h264.pSpsClientObject)
  ppsObject : oob → ∀ a ∈ activations log p, ∃ e ∈ log, ∃ b,
    e.announcedPps = some (b, data.h264.pPpsClientObject) ∧ SamePps a b

lemma stdPpsOf_congr {a b : Activation} (h : SamePps a b) : stdPpsOf b.pps b.sps = stdPpsOf a.pps a.sps := by
  simp only [stdPpsOf, VkH264Picture.stdPps, fillPps, fillStdPps, h.pps, h.spsId]

/-- What the picture being decoded was started with. -/
structure StartedWith (oob : Bool) (log : List Event) (p : PicId) (vkpic : VkPic) (l : List Event) (info : StartInfo) :
    Prop where
  start : Event.startPicture p info :: l <:+ log
  spsId : vkpic.data.h264.seqParameterSetId = info.active.sps.id % 2 ^ 8
  ppsId : vkpic.data.h264.picParameterSetId = info.active.pps.id % 2 ^ 8
  spsObject : ∀ b ∈ lastSps l, vkpic.data.h264.pSpsClientObject = b.2
  ppsObject : ∀ b ∈ lastPps l, vkpic.data.h264.pPpsClientObject = b.2
  ownSps : vkpic.data.h264.pStdSps = .own → vkpic.vkp.stdSps = stdSpsOf info.active.sps
  ownPps : vkpic.data.h264.pStdPps = .own → vkpic.vkp.stdPps = stdPpsOf info.active.pps info.active.sps
  sharedSps : vkpic.data.h264.pStdSps = .shared → oob
  sharedPps : vkpic.data.h264.pStdPps = .shared → oob

/-- The element's slot holds the sets announced last, the log says so much of every call. -/
structure Slots (env : Env P) (x : Phase × Decoder P) : Prop where
  sps : ∀ b ∈ lastSps (calls x.2.store.log), x.2.vkp.stdSps = stdSpsOf b.1 ∧ x.2.spsclient = b.2
  pps : ∀ b ∈ lastPps (calls x.2.store.log), x.2.vkp.stdPps = stdPpsOf b.1.pps b.1.sps ∧ x.2.ppsclient = b.2
  current : ∀ p vkpic, x.1.current = .decoding p → (x.2.pic p).userData = some vkpic →
    ∃ l info, StartedWith env.oobPicParams (calls x.2.store.log) p vkpic l info
  told : ∀ p data sps pps ok l, Event.decodePicture p data sps pps ok :: l <:+ calls x.2.store.log →
    SetsFollow env.oobPicParams l p → Coherent env.oobPicParams l p data sps pps

lemma StartedWith.mono {oob : Bool} {vkpic vkpic' : VkPic} {l : List Event} {info : StartInfo}
    (h : StartedWith oob log p vkpic l info) (hl : log <:+ log') (hd : vkpic'.data.h264 = vkpic.data.h264)
    (hv : vkpic'.vkp = vkpic.vkp) : StartedWith oob log' p vkpic' l info := by
  refine ⟨h.start.trans hl, ?_, ?_, ?_, ?_, ?_, ?_, ?_, ?_⟩ <;> rw [hd]
  · exact h.spsId
  · exact h.ppsId
  · exact h.spsObject
  · exact h.ppsObject
  · exact hv ▸ h.ownSps
  · exact hv ▸ h.ownPps
  · exact h.sharedSps
  · exact h.sharedPps

lemma Slots.silent (hx : Slots env x) (h : Silent x y) : Slots env y := by
  refine ⟨?_, ?_, fun q vkpic hc hv => ?_, ?_⟩
  · rw [h.calls, h.vkp, h.spsclient]
    exact hx.sps
  · rw [h.calls, h.vkp, h.ppsclient]
    exact hx.pps
  · rcases h.userData q with hu | ⟨-, hu⟩
    · rw [h.calls]
      exact hx.current q vkpic (h.decoding q hc) (hu ▸ hv)
    · rw [hu] at hv
      cases hv
  · rw [h.calls]
    exact hx.told

-- one more call, which announces no set
lemma Slots.tell (hx : Slots env x) {e : Event} (hl : calls y.2.store.log = e :: calls x.2.store.log)
    (hs : e.announcedSps = none) (hp : e.announcedPps = none)
    (hr : (y.2.vkp, y.2.spsclient, y.2.ppsclient) = (x.2.vkp, x.2.spsclient, x.2.ppsclient))
    (hc : ∀ p vkpic, y.1.current = .decoding p → (y.2.pic p).userData = some vkpic →
      ∃ l info, StartedWith env.oobPicParams (calls y.2.store.log) p vkpic l info)
    (ht : ∀ p data sps pps ok, e = .decodePicture p data sps pps ok →
      SetsFollow env.oobPicParams (calls x.2.store.log) p →
      Coherent env.oobPicParams (calls x.2.store.log) p data sps pps) : Slots env y := by
  simp only [Prod.mk.injEq] at hr
  refine ⟨?_, ?_, hc, ?_⟩
  · rw [hl, lastSps, List.findSome?_cons, hs, hr.1, hr.2.1]
    exact hx.sps
  · rw [hl, lastPps, List.findSome?_cons, hp, hr.1, hr.2.2]
    exact hx.pps
  · intro p data sps pps ok l hsuf
    rw [hl] at hsuf
    rcases List.suffix_cons_iff.mp hsuf with he | hsuf
    · obtain ⟨rfl, rfl⟩ := List.cons_eq_cons.mp he
      exact ht p data sps pps ok rfl
    · exact hx.told p data sps pps ok l hsuf

-- the current picture is still described by its start
lemma Slots.later (hx : Slots env x) (hl : calls x.2.store.log <:+ log) {vkpic : VkPic}
    (hc : x.1.current = .decoding p) (hv : (x.2.pic p).userData = some vkpic) :
    ∃ l info, StartedWith env.oobPicParams log p vkpic l info := by
  obtain ⟨l, info, h⟩ := hx.current p vkpic hc hv
  exact ⟨l, info, h.mono hl rfl rfl⟩

lemma Slots.updateSps (hx : Slots env (k, s)) (sps : GstH264SPS) : Slots env (k, s.updateSps env sps) := by
  refine ⟨fun b hb => ?_, fun b hb => ?_, fun q vkpic hc hv => hx.later (List.suffix_cons ..) hc hv, ?_⟩
  · obtain rfl : (sps, _) = b := Option.some.inj hb
    exact ⟨stdSps_fillSps _ _, rfl⟩
  · exact ⟨(stdPps_fillSps _ _).trans (hx.pps b hb).1, (hx.pps b hb).2⟩
  · intro p data sps' pps ok l hsuf
    rcases List.suffix_cons_iff.mp hsuf with he | hsuf
    · cases (List.cons_eq_cons.mp he).1
    · exact hx.told p data sps' pps ok l hsuf

lemma Slots.updatePps (hx : Slots env (k, s)) (pps : GstH264PPS) : Slots env (k, s.updatePps env pps) := by
  refine ⟨fun b hb => ?_, fun b hb => ?_, fun q vkpic hc hv => hx.later (List.suffix_cons ..) hc hv, ?_⟩
  · exact ⟨(stdSps_fillPps _ _ _).trans (hx.sps b hb).1, (hx.sps b hb).2⟩
  · obtain rfl : (_, _) = b := Option.some.inj hb
    exact ⟨stdPps_fillPps _ _ _, rfl⟩
  · intro p data sps pps' ok l hsuf
    rcases List.suffix_cons_iff.mp hsuf with he | hsuf
    · cases (List.cons_eq_cons.mp he).1
    · exact hx.told p data sps pps' ok l hsuf

lemma paramSource_shared (h : s.paramSource env = .shared) : env.oobPicParams := by
  unfold Decoder.paramSource at h
  split at h
  · cases h
  · rename_i hc
    simp only [Bool.or_eq_true, not_or, Bool.not_eq_true', Bool.not_eq_false] at hc
    exact hc.1

lemma startedWith_start (hx : Slots env (k, s)) (p : PicId) (slice : GstH264Slice) (vkpic : VkPic) :
    StartedWith env.oobPicParams (.startPicture p (s.startInfo env p slice) :: calls s.store.log) p
      (startVkPic env s p slice vkpic) (calls s.store.log) (s.startInfo env p slice) where
  start := List.suffix_rfl
  spsId := rfl
  ppsId := rfl
  spsObject b hb := (hx.sps b hb).2
  ppsObject b hb := (hx.pps b hb).2
  ownSps h := by
    have h : s.paramSource env = .own := h
    simp only [startVkPic, h, stdSps_fillPps, stdSps_fillSps]
    rfl
  ownPps h := by
    have h : s.paramSource env = .own := h
    simp only [startVkPic, h, stdPps_fillPps]
    rfl
  sharedSps h := paramSource_shared h
  sharedPps h := paramSource_shared h

lemma mem_activations_of_start {l : List Event} {info : StartInfo} (h : Event.startPicture p info :: l <:+ log) :
    info.active ∈ activations log p :=
  List.mem_filterMap.mpr ⟨_, h.subset (List.mem_cons_self ..), if_pos rfl⟩

lemma findSome?_mem {β : Type} {f : Event → Option β} {b : β} (h : log.findSome? f = some b) :
    ∃ e ∈ log, f e = some b := List.exists_of_findSome?_eq_some h

lemma AnnouncedLast.spsContents (h : AnnouncedLast log active)
    (hs : ∀ b ∈ lastSps log, s.vkp.stdSps = stdSpsOf b.1 ∧ s.spsclient = b.2) :
    s.vkp.stdSps = stdSpsOf active.sps := by
  obtain ⟨b, hb, he⟩ := Option.map_eq_some_iff.mp h.sps
  rw [(hs b hb).1, he]

lemma AnnouncedLast.ppsContents (h : AnnouncedLast log active)
    (hs : ∀ b ∈ lastPps log, s.vkp.stdPps = stdPpsOf b.1.pps b.1.sps ∧ s.ppsclient = b.2) :
    s.vkp.stdPps = stdPpsOf active.pps active.sps := by
  obtain ⟨b, hb, he⟩ := h.pps
  rw [(hs b hb).1, stdPpsOf_congr he]

lemma Slots.coherent (hx : Slots env (k, s)) {vkpic : VkPic} (hc : k.current = .decoding p)
    (hv : (s.pic p).userData = some vkpic) (hf : SetsFollow env.oobPicParams (calls s.store.log) p) :
    Coherent env.oobPicParams (calls s.store.log) p (stealBitstream vkpic).data (s.stdSps vkpic) (s.stdPps vkpic) := by
  obtain ⟨l, info, h⟩ := hx.current p vkpic hc hv
  have hmem := mem_activations_of_start h.start
  have hall : ∀ a ∈ activations (calls s.store.log) p, a = info.active := fun a ha => hf.one a ha _ hmem
  have hstart : env.oobPicParams → AnnouncedLast l info.active := fun ho =>
    always_iff.mp (hf.started ho) _ l h.start info (if_pos rfl)
  have hsps : s.stdSps vkpic = stdSpsOf info.active.sps := by
    unfold Decoder.stdSps
    cases hs : vkpic.data.h264.pStdSps with
    | own => exact h.ownSps hs
    | shared => exact (hf.decoded (h.sharedSps hs) _ hmem).spsContents hx.sps
  have hpps : s.stdPps vkpic = stdPpsOf info.active.pps info.active.sps := by
    unfold Decoder.stdPps
    cases hs : vkpic.data.h264.pStdPps with
    | own => exact h.ownPps hs
    | shared => exact (hf.decoded (h.sharedPps hs) _ hmem).ppsContents hx.pps
  have hsub : l ⊆ calls s.store.log := fun e he => h.start.subset (List.mem_cons_of_mem _ he)
  refine ⟨List.ne_nil_of_mem hmem, ?_, ?_, ?_, ?_, ?_, ?_⟩
  · intro a ha
    rw [hall a ha, hsps]
  · intro a ha
    rw [hall a ha, hpps]
  · rw [hsps]
    exact h.spsId.symm
  · rw [hpps]
    exact h.ppsId.symm
  · intro ho a ha
    obtain ⟨b, hb, he⟩ := Option.map_eq_some_iff.mp (hstart ho).sps
    obtain ⟨e, hm, hann⟩ := findSome?_mem hb
    refine ⟨e, hsub hm, ?_⟩
    rw [hall a ha, hann, ← he]
    exact congrArg (fun c => some (b.1, c)) (h.spsObject b hb).symm
  · intro ho a ha
    obtain ⟨b, hb, he⟩ := (hstart ho).pps
    obtain ⟨e, hm, hann⟩ := findSome?_mem hb
    refine ⟨e, hsub hm, b.1, ?_, hall a ha ▸ he⟩
    rw [hann]
    exact congrArg (fun c => some (b.1, c)) (h.ppsObject b hb).symm

lemma Slots.alloc (hx : Slots env (k, s)) (hc : k.current ≠ .decoding p) : Slots env (k, s.allocPicture env p) := by
  cases hr : env.allocPictureBuffer s.store.log with
  | none =>
    rw [allocPicture_none p hr]
    exact hx.tell rfl rfl rfl rfl (fun q vkpic hc hv => hx.later (List.suffix_cons ..) hc hv) (by simp)
  | some pic =>
    rw [allocPicture_some p hr]
    refine hx.tell rfl rfl rfl rfl (fun q vkpic hd hv => ?_) (by simp)
    rw [setVkPic_userData, if_neg] at hv
    · exact hx.later (List.suffix_cons ..) hd hv
    · rintro rfl
      exact hc hd

-- an event that is no call
lemma Slots.emit (hx : Slots env (k, s)) {e : Event} (he : e.isCall = false) : Slots env (k, s.emit e) := by
  have hl : calls (s.emit e).store.log = calls s.store.log := by simp [calls, he]
  refine ⟨?_, ?_, ?_, ?_⟩
  · rw [hl]
    exact hx.sps
  · rw [hl]
    exact hx.pps
  · rw [hl]
    exact hx.current
  · rw [hl]
    exact hx.told

lemma Slots.speaks (hx : Slots env x) (hp : Placed x) (h : Speaks env x y) : Slots env y := by
  cases h with
  | updateSps sps => exact (hx.emit rfl).updateSps sps
  | updatePps pps => exact (hx.emit rfl).updatePps pps
  | parserUpdateSps sps ok hk =>
    exact hx.tell rfl rfl rfl rfl (fun q vkpic hc hv => hx.later (List.suffix_cons ..) hc hv) (by simp)
  | beginSequence sps input =>
    exact hx.tell rfl rfl rfl rfl (fun q vkpic hc hv => hx.later (List.suffix_cons ..) hc hv) (by simp)
  | configure sps hk => exact ⟨hx.sps, hx.pps, hx.current, hx.told⟩
  | rejectSps sps hk => exact ⟨hx.sps, hx.pps, hx.current, hx.told⟩
  | alloc p hm hv => exact hx.alloc fun hc => hp.current_hold (r := .fresh) (by rw [hc]; rfl) rfl hm
  | start p slice vkpic hk hv =>
    refine hx.tell rfl rfl rfl rfl (fun q vkpic' hc hv' => ?_) (by simp)
    cases hc
    rw [Decoder.startPicture, Decoder.pic, Decoder.emit_store, Store.emit_pic, ← Decoder.pic, setVkPic_userData,
      if_pos rfl] at hv'
    cases hv'
    exact ⟨_, _, startedWith_start hx p slice vkpic⟩
  | slice p slice vkpic hk hv =>
    refine hx.tell rfl rfl rfl rfl (fun q vkpic' hc hv' => ?_) (by simp)
    obtain rfl : p = q := by simpa [hk] using hc
    rw [Decoder.decodeSlice, Decoder.pic, Decoder.emit_store, Store.emit_pic, ← Decoder.pic, setVkPic_userData,
      if_pos rfl] at hv'
    cases hv'
    obtain ⟨l, info, h⟩ := hx.current p vkpic hk hv
    exact ⟨l, info, h.mono (List.suffix_cons ..) rfl rfl⟩
  | endPicture p vkpic hk hv hk' hb =>
    refine hx.tell rfl rfl rfl rfl (fun q vkpic' hc => ?_) ?_
    · rcases hk' with ⟨hk', -⟩ | ⟨hk', -⟩ <;> rw [hk'] at hc <;> cases hc
    · rintro q data sps pps ok he hf
      cases he
      exact hx.coherent hk hv hf
  | display p vkpic frame hv hk hb =>
    refine hx.tell rfl rfl rfl rfl (fun q vkpic' hc hv' => ?_) (by simp)
    exact hx.later (List.suffix_cons ..) (hk ▸ hc) hv'

lemma slots_start : Slots env (Phase.idle, Decoder.start env) := by
  refine ⟨?_, ?_, ?_, ?_⟩
  · intro b hb
    cases hb
  · intro b hb
    cases hb
  · intro p vkpic hc
    cases hc
  · intro p data sps pps ok l hl
    cases List.suffix_nil.mp hl

lemma slots_reach (h : ReflTransGen (Act env) (Phase.idle, Decoder.start env) x) : Slots env x := by
  induction h with
  | refl => exact slots_start
  | tail hreach hact ih =>
    rcases hact.speaks with hs | hs
    · exact ih.silent hs
    · exact ih.speaks (sound_start.reach hreach).placed hs

/-- A call of DecodePicture shows the sets that its picture activates when these are one SPS and one
PPS and, if the client keeps the sets, the last ones it was told. -/
theorem sets_coherent (env : Env P) (inputs : List Input) (p : PicId) (data : PictureData) (sps : StdSps)
    (pps : StdPps) (ok : Bool) (l : List Event)
    (hl : .decodePicture p data sps pps ok :: l <:+ clientCalls env inputs)
    (h : SetsFollow env.oobPicParams l p) : Coherent env.oobPicParams l p data sps pps := by
  obtain ⟨k, hk⟩ := reach_final env inputs
  exact (slots_reach hk).told p data sps pps ok l hl h

section Examples

-- two PPSs are announced, the picture activates the first one
def twoPpsScript : Script where
  sps := [Script.progressive]
  pps := [{}, { id := 1 }]
  slices := [{}]

def oobEnv : Env Tables := { twoPpsScript.env with oobPicParams := true }

def twoPpsInputs : List Input :=
  Script.frames [[Script.spsUnit 0, Script.ppsUnit 0, Script.ppsUnit 1, Script.idrUnit 0]]

def ppsIdsAgree : Event → Bool
  | .decodePicture _ data _ pps _ => pps.pps.picParameterSetId = data.h264.picParameterSetId
  | _ => true

theorem lastPps_shown : ¬∀ p data sps pps ok l,
    .decodePicture p data sps pps ok :: l <:+ clientCalls oobEnv twoPpsInputs →
      Coherent oobEnv.oobPicParams l p data sps pps := by
  intro h
  have hall : ∀ e ∈ clientCalls oobEnv twoPpsInputs, ppsIdsAgree e := by
    intro e he
    obtain ⟨m, l, hml⟩ := List.append_of_mem he
    cases e with
    | decodePicture p data sps pps ok =>
      exact decide_eq_true (h p data sps pps ok l (hml ▸ List.suffix_append m _)).ppsIds
    | _ => rfl
  exact absurd hall (by decide +kernel)

def onePpsInputs : List Input := Script.frames [[Script.spsUnit 0, Script.ppsUnit 0, Script.idrUnit 0]]

theorem sets_coherent_onePps :
    ∃ data sps pps, Coherent true (clientCalls oobEnv onePpsInputs).tail 0 data sps pps := by
  have hd : ((clientCalls oobEnv onePpsInputs).head?.bind (decodesOf 0)).isSome := by decide +kernel
  have hf : SetsFollow true (clientCalls oobEnv onePpsInputs).tail 0 := by decide +kernel
  cases hc : clientCalls oobEnv onePpsInputs with
  | nil =>
    rw [hc] at hd
    cases hd
  | cons e l =>
    rw [hc] at hd hf
    cases e with
    | decodePicture p data sps pps ok =>
      obtain rfl : p = 0 := by
        by_contra hne
        simp [decodesOf, hne] at hd
      exact ⟨data, sps, pps, sets_coherent oobEnv onePpsInputs 0 data sps pps ok l (hc ▸ List.suffix_rfl) hf⟩
    | _ => cases hd

end Examples

end VkVideoParser.H264
