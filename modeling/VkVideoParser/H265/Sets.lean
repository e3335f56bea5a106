import VkVideoParser.H265.Announcements
import VkVideoParser.H265.Bitstream
import VkVideoParser.H265.Sequence

/-! The parameter sets that DecodePicture shows, and those that the slices of its picture activate. -/

namespace VkVideoParser.H265

open Execution Relation Histories

variable {P : Type} {env : Env P} {k : Phase} {s : Decoder P} {x y : Phase × Decoder P} {log log' : List Event}
  {p : PicId} {active : Activation} {e : Event}

def Event.announcedVps : Event → Option (GstH265VPS × Option ClientObject)
  | .updateVps vps _ _ _ client => some (vps, client)
  | _ => none

/-- The SPS with the VPS it points to. -/
def Event.announcedSps : Event → Option ((GstH265SPS × Option GstH265VPS) × Option ClientObject)
  | .updateSps sps vps _ _ _ client => some ((sps, vps), client)
  | _ => none

def Event.announcedPps : Event → Option (GstH265PPS × Option ClientObject)
  | .updatePps pps _ _ _ client => some (pps, client)
  | _ => none

/-- The sets announced last, with the objects that the client returned. -/
def lastVps (log : List Event) : Option (GstH265VPS × Option ClientObject) := log.findSome? Event.announcedVps

def lastSps (log : List Event) : Option ((GstH265SPS × Option GstH265VPS) × Option ClientObject) :=
  log.findSome? Event.announcedSps

def lastPps (log : List Event) : Option (GstH265PPS × Option ClientObject) := log.findSome? Event.announcedPps

-- UpdatePictureParameters calls for an SPS, as the element counts them
def spsUpdates (log : List Event) : Nat := log.countP (fun e => e.announcedSps.isSome) % 2 ^ 32

/-- The sets announced last are those of `active`. -/
structure AnnouncedLast (log : List Event) (active : Activation) : Prop where
  vps : ∃ b ∈ lastVps log, active.vps = some b.1
  sps : ∃ b ∈ lastSps log, b.1.1 = active.sps ∧ vpsIdOf active.sps b.1.2 = vpsIdOf active.sps active.vps
  pps : ∃ b ∈ lastPps log, b.1 = active.pps

instance (log : List Event) (active : Activation) : Decidable (AnnouncedLast log active) :=
  decidable_of_iff ((∃ b ∈ lastVps log, active.vps = some b.1) ∧
    (∃ b ∈ lastSps log, b.1.1 = active.sps ∧ vpsIdOf active.sps b.1.2 = vpsIdOf active.sps active.vps) ∧
    ∃ b ∈ lastPps log, b.1 = active.pps) ⟨fun h => ⟨h.1, h.2.1, h.2.2⟩, fun h => ⟨h.vps, h.sps, h.pps⟩⟩

def Event.started : Event → Option (PicId × StartInfo)
  | .startPicture p info => some (p, info)
  | _ => none

/-- Since the SPS announced last no picture put the scaling lists of its PPS in the place of those of the SPS,
which left out nothing that a set before it had put into the slot. -/
def SpsUntouched : List Event → Prop
  | [] => True
  | e :: l =>
    match e.announcedSps with
    | some b => leftover b.1.1 (announcedSlot l) = leftover b.1.1 { picBufMgr := (announcedSlot l).picBufMgr }
    | none => (∀ a ∈ e.started, overridesLists a.2.active = false) ∧ SpsUntouched l

instance decidableSpsUntouched : (log : List Event) → Decidable (SpsUntouched log)
  | [] => .isTrue trivial
  | e :: l => by
    have : Decidable (SpsUntouched l) := decidableSpsUntouched l
    unfold SpsUntouched
    split <;> infer_instance

/-- The client keeps the sets, of which the element counts some. All slices of the picture activate the same
sets and no other ones were announced since, neither as the picture starts nor until it is decoded. -/
structure SetsFollow (oob : Bool) (log : List Event) (p : PicId) : Prop where
  oob : oob
  one : ∀ a ∈ activations log p, ∀ b ∈ activations log p, a = b
  started : Always (fun l e => ∀ a ∈ e.started, a.1 = p → AnnouncedLast l a.2.active ∧ spsUpdates l ≠ 0) log
  decoded : ∀ a ∈ activations log p, AnnouncedLast log a
  untouched : SpsUntouched log

instance (oob : Bool) (log : List Event) (p : PicId) : Decidable (SetsFollow oob log p) :=
  decidable_of_iff (oob ∧ (∀ a ∈ activations log p, ∀ b ∈ activations log p, a = b) ∧
    Always (fun l e => ∀ a ∈ e.started, a.1 = p → AnnouncedLast l a.2.active ∧ spsUpdates l ≠ 0) log ∧
    (∀ a ∈ activations log p, AnnouncedLast log a) ∧ SpsUntouched log)
    ⟨fun ⟨h₁, h₂, h₃, h₄, h₅⟩ => ⟨h₁, h₂, h₃, h₄, h₅⟩, fun h => ⟨h.1, h.2, h.3, h.4, h.5⟩⟩

-- the SPS with the buffering of the VPS it points to
def stdSpsOf (a : Activation) : StdSps := (fillSps a.sps a.vps ((a.vps.map (fillVps · {})).getD {})).stdSps

/-- What DecodePicture shows is what the slices of the picture activate. The ids are numbers of eight bits. -/
structure Coherent (log : List Event) (p : PicId) (data : PictureData) (vps : StdVps) (sps : StdSps) (pps : StdPps) :
    Prop where
  activated : activations log p ≠ []
  vpsContents : ∀ a ∈ activations log p, a.vps.map stdVpsOf = some vps
  spsContents : ∀ a ∈ activations log p, sps = stdSpsOf a
  ppsContents : ∀ a ∈ activations log p, pps = stdPpsOf a.pps
  vpsIds : vps.vps.vpsVideoParameterSetId % 2 ^ 8 = data.hevc.vpsVideoParameterSetId
  spsIds : sps.sps.spsSeqParameterSetId % 2 ^ 8 = data.hevc.seqParameterSetId
  ppsIds : pps.pps.ppsPicParameterSetId = data.hevc.picParameterSetId
  vpsObject : ∀ a ∈ activations log p, ∃ e ∈ log, ∃ vps ∈ a.vps,
    e.announcedVps = some (vps, data.hevc.pVpsClientObject)
  spsObject : ∀ a ∈ activations log p, ∃ e ∈ log, ∃ vps, e.announcedSps = some ((a.sps, vps), data.hevc.pSpsClientObject)
  ppsObject : ∀ a ∈ activations log p, ∃ e ∈ log, e.announcedPps = some (a.pps, data.hevc.pPpsClientObject)

def Event.decodedSets : Event → Option (PicId × PictureData × StdVps × StdSps × StdPps)
  | .decodePicture p data vps sps pps _ => some (p, data, vps, sps, pps)
  | _ => none

def SetsFit (oob : Bool) (log : List Event) (e : Event) : Prop :=
  ∀ a ∈ e.decodedSets, SetsFollow oob log a.1 → Coherent log a.1 a.2.1 a.2.2.1 a.2.2.2.1 a.2.2.2.2

/-- What the picture being decoded was started with. -/
structure StartedWith (oob : Bool) (log : List Event) (p : PicId) (data : PictureData) (l : List Event) (info : StartInfo) :
    Prop where
  start : Event.startPicture p info :: l <:+ log
  vpsId : ∃ vps ∈ info.active.vps, data.hevc.vpsVideoParameterSetId = vps.id % 2 ^ 8
  spsId : data.hevc.seqParameterSetId = info.active.sps.id % 2 ^ 8
  ppsId : data.hevc.picParameterSetId = info.active.pps.id % 2 ^ 8
  vpsObject : ∀ b ∈ lastVps l, data.hevc.pVpsClientObject = b.2
  spsObject : ∀ b ∈ lastSps l, data.hevc.pSpsClientObject = b.2
  ppsObject : ∀ b ∈ lastPps l, data.hevc.pPpsClientObject = b.2
  shared : oob → spsUpdates l ≠ 0 →
    data.hevc.pStdVps = .shared ∧ data.hevc.pStdSps = .shared ∧ data.hevc.pStdPps = .shared

lemma StartedWith.mono {oob : Bool} {data data' : PictureData} {l : List Event} {info : StartInfo}
    (h : StartedWith oob log p data l info) (hl : log <:+ log') (hd : data'.hevc = data.hevc) :
    StartedWith oob log' p data' l info := by
  refine ⟨h.start.trans hl, ?_, ?_, ?_, ?_, ?_, ?_, ?_⟩ <;> rw [hd]
  · exact h.vpsId
  · exact h.spsId
  · exact h.ppsId
  · exact h.vpsObject
  · exact h.spsObject
  · exact h.ppsObject
  · exact h.shared

/-- The slot holds what the log says. -/
structure Holds (vkp : VkH265Picture) (log : List Event) : Prop where
  kept : vkp.kept = (announcedSlot log).kept
  vps : ∀ b ∈ lastVps log, vkp.stdVps = stdVpsOf b.1
  bufMgr : ∀ b ∈ lastVps log, vkp.picBufMgr = fillPicBufMgr b.1
  sps : SpsUntouched log → ∀ b ∈ lastSps log,
    vkp.stdSps = { (fillSps b.1.1 b.1.2 {}).stdSps with picBufMgr := some vkp.picBufMgr }
  pps : ∀ b ∈ lastPps log, vkp.stdPps = stdPpsOf b.1

/-- The element's slot and objects follow the announcements. -/
structure Slots (env : Env P) (x : Phase × Decoder P) : Prop where
  slot : Holds x.2.vkp x.2.store.log
  vpsclient : ∀ b ∈ lastVps x.2.store.log, x.2.vpsclient = b.2
  spsclient : ∀ b ∈ lastSps x.2.store.log, x.2.spsclient = b.2
  ppsclient : ∀ b ∈ lastPps x.2.store.log, x.2.ppsclient = b.2
  count : x.2.spsUpdateCount = spsUpdates x.2.store.log
  current : ∀ p vkpic, x.1.current = .decoding p → (x.2.pic p).userData = some vkpic →
    ∃ l info, StartedWith env.oobPicParams x.2.store.log p vkpic.data l info
  told : Always (SetsFit env.oobPicParams) x.2.store.log

/-- An event that announces no set, starts no picture and decodes none. -/
structure Event.Plain (e : Event) : Prop where
  set : e.announcedSet = none
  vps : e.announcedVps = none
  sps : e.announcedSps = none
  pps : e.announcedPps = none
  started : e.started = none
  decodedSets : e.decodedSets = none

section Plain

variable {vkp : VkH265Picture}

lemma findSome?_cons_none {β : Type} {f : Event → Option β} (h : f e = none) :
    (e :: log).findSome? f = log.findSome? f := by
  rw [List.findSome?_cons, h]

lemma spsUpdates_cons (h : e.announcedSps = none) : spsUpdates (e :: log) = spsUpdates log := by
  simp [spsUpdates, h]

lemma spsUntouched_cons (h : e.announcedSps = none) :
    SpsUntouched (e :: log) ↔ (∀ a ∈ e.started, overridesLists a.2.active = false) ∧ SpsUntouched log := by
  rw [SpsUntouched, h]

-- one more event, which announces no set
lemma Holds.cons (hx : Holds vkp log) (hset : e.announcedSet = none) (hv : e.announcedVps = none)
    (hs : e.announcedSps = none) (hp : e.announcedPps = none) : Holds vkp (e :: log) := by
  refine ⟨?_, ?_, ?_, fun hu => ?_, ?_⟩
  · rw [announcedSlot_cons hset]
    exact hx.kept
  · rw [lastVps, findSome?_cons_none hv]
    exact hx.vps
  · rw [lastVps, findSome?_cons_none hv]
    exact hx.bufMgr
  · rw [lastSps, findSome?_cons_none hs]
    exact hx.sps ((spsUntouched_cons hs).mp hu).2
  · rw [lastPps, findSome?_cons_none hp]
    exact hx.pps

lemma Holds.append (hx : Holds vkp log) {l : List Event} (h : ∀ e ∈ l, e.Plain) : Holds vkp (l ++ log) := by
  induction l with
  | nil => exact hx
  | cons e l ih =>
    have he := h e List.mem_cons_self
    exact (ih fun e he => h e (List.mem_cons_of_mem _ he)).cons he.set he.vps he.sps he.pps

lemma findSome?_append_none {β : Type} {f : Event → Option β} {l : List Event} (h : ∀ e ∈ l, f e = none) :
    (l ++ log).findSome? f = log.findSome? f := by
  rw [List.findSome?_append, List.findSome?_eq_none_iff.mpr h, Option.none_or]

lemma spsUpdates_append {l : List Event} (h : ∀ e ∈ l, e.Plain) : spsUpdates (l ++ log) = spsUpdates log := by
  induction l with
  | nil => rfl
  | cons e l ih =>
    rw [List.cons_append, spsUpdates_cons (h e List.mem_cons_self).sps]
    exact ih fun e he => h e (List.mem_cons_of_mem _ he)

lemma setsFit_append {oob : Bool} {l : List Event} (h : ∀ e ∈ l, e.Plain) (hlog : Always (SetsFit oob) log) :
    Always (SetsFit oob) (l ++ log) := by
  induction l with
  | nil => exact hlog
  | cons e l ih =>
    refine ⟨?_, ih fun e he => h e (List.mem_cons_of_mem _ he)⟩
    intro a ha
    rw [(h e List.mem_cons_self).decodedSets] at ha
    cases ha

end Plain

section Announced

variable {vkp : VkH265Picture} {vps : GstH265VPS} {sps : GstH265SPS} {v : Option GstH265VPS} {pps : GstH265PPS}
  {count : Nat} {ok : Bool} {client : Option ClientObject}

-- an SPS shows the buffering of the slot
lemma stdSps_fillVps (h : vkp.stdSps.sps.pDecPicBufMgr) :
    (fillVps vps vkp).stdSps = { vkp.stdSps with picBufMgr := some (fillPicBufMgr vps) } := by
  have hp : vkp.sps.pDecPicBufMgr = true := h
  change { vkp.stdSps with picBufMgr := pointee vkp.sps.pDecPicBufMgr (fillPicBufMgr vps) } = _
  rw [hp]
  rfl

lemma Holds.updateVps (hx : Holds vkp log) :
    Holds (fillVps vps vkp) (.updateVps vps (fillVps vps vkp).stdVps count ok client :: log) := by
  refine ⟨(Fills.vps vps count ok client vkp).kept hx.kept, ?_, ?_, fun hu b hb => ?_, hx.pps⟩
  · rintro _ ⟨⟩
    rfl
  · rintro _ ⟨⟩
    rfl
  · have hsps := hx.sps hu.2 b hb
    rw [stdSps_fillVps (by rw [hsps]; rfl), hsps]
    rfl

lemma Holds.updateSps (hx : Holds vkp log) :
    Holds (fillSps sps v vkp) (.updateSps sps v (fillSps sps v vkp).stdSps count ok client :: log) := by
  refine ⟨(Fills.sps sps v count ok client vkp).kept hx.kept, hx.vps, hx.bufMgr, fun hu => ?_, hx.pps⟩
  rintro _ ⟨⟩
  have hleft : leftover sps vkp = leftover sps { picBufMgr := vkp.picBufMgr } := by
    have hmgr : vkp.picBufMgr = (announcedSlot log).picBufMgr := congrArg Prod.fst hx.kept
    rw [leftover_congr hx.kept, hmgr]
    exact hu
  exact stdSps_eq_iff.mpr ⟨rfl, hleft⟩

lemma Holds.updatePps (hx : Holds vkp log) :
    Holds (fillPps pps vkp) (.updatePps pps (fillPps pps vkp).stdPps count ok client :: log) := by
  refine ⟨(Fills.pps pps count ok client vkp).kept hx.kept, hx.vps, hx.bufMgr, fun hu => hx.sps hu.2, ?_⟩
  rintro _ ⟨⟩
  rfl

/-- A start leaves all of the slot but the scaling lists of the SPS. -/
lemma Holds.start (hx : Holds s.vkp log) (slice : GstH265Slice) :
    Holds (s.startVkp env slice) (.startPicture p (s.startInfo env p slice) :: log) := by
  have hslot : (s.startVkp env slice).stdVps = s.vkp.stdVps ∧ (s.startVkp env slice).picBufMgr = s.vkp.picBufMgr ∧
      (s.startVkp env slice).stdPps = s.vkp.stdPps := by
    unfold Decoder.startVkp overrideLists
    split
    · exact ⟨rfl, rfl, rfl⟩
    · split <;> exact ⟨rfl, rfl, rfl⟩
  refine ⟨(kept_startVkp slice s).trans (hx.kept.trans ?_), ?_, ?_, fun hu => ?_, ?_⟩
  · rw [announcedSlot_cons rfl]
  · rw [hslot.1]
    exact hx.vps
  · rw [hslot.2.1]
    exact hx.bufMgr
  · have hno : overridesLists (s.activation env slice.header.pps) = false := hu.1 _ rfl
    have hvkp : s.startVkp env slice = s.vkp := by
      unfold Decoder.startVkp
      split
      · rfl
      · rw [overrideLists, hno]
        rfl
    rw [hvkp]
    exact hx.sps hu.2
  · rw [hslot.2.2]
    exact hx.pps

end Announced

section Slots

variable {vkpic : VkPic}

/-- A move that announces no set, starts no picture and decodes none. -/
structure Idle (x y : Phase × Decoder P) : Prop where
  log : ∃ l, y.2.store.log = l ++ x.2.store.log ∧ ∀ e ∈ l, e.Plain
  vkp : y.2.vkp = x.2.vkp
  vpsclient : y.2.vpsclient = x.2.vpsclient
  spsclient : y.2.spsclient = x.2.spsclient
  ppsclient : y.2.ppsclient = x.2.ppsclient
  count : y.2.spsUpdateCount = x.2.spsUpdateCount

/-- The pictures that are being decoded were so before, with the same data of the codec. -/
def KeepsCurrent (x y : Phase × Decoder P) : Prop :=
  ∀ p vkpic, y.1.current = .decoding p → (y.2.pic p).userData = some vkpic →
    ∃ vkpic', x.1.current = .decoding p ∧ (x.2.pic p).userData = some vkpic' ∧ vkpic.data.hevc = vkpic'.data.hevc

lemma keepsCurrent_of_eq (hk : y.1.current = x.1.current) (hu : ∀ q, (y.2.pic q).userData = (x.2.pic q).userData) :
    KeepsCurrent x y := fun p vkpic hp hv => ⟨vkpic, hk ▸ hp, hu p ▸ hv, rfl⟩

lemma keepsCurrent_of_ne (hk : ∀ p, y.1.current ≠ .decoding p) : KeepsCurrent x y :=
  fun p _ hp => absurd hp (hk p)

lemma Slots.current_mono (hx : Slots env x) (hc : KeepsCurrent x y) (hl : x.2.store.log <:+ y.2.store.log) :
    ∀ p vkpic, y.1.current = .decoding p → (y.2.pic p).userData = some vkpic →
      ∃ l info, StartedWith env.oobPicParams y.2.store.log p vkpic.data l info := by
  intro p vkpic hp hv
  obtain ⟨vkpic', hp', hv', hd⟩ := hc p vkpic hp hv
  obtain ⟨l, info, h⟩ := hx.current p vkpic' hp' hv'
  exact ⟨l, info, h.mono hl hd⟩

lemma Slots.idle (hx : Slots env x) (h : Idle x y) (hc : KeepsCurrent x y) : Slots env y := by
  obtain ⟨l, hl, hplain⟩ := h.log
  refine ⟨?_, ?_, ?_, ?_, ?_, hx.current_mono hc ⟨l, hl.symm⟩, ?_⟩
  · rw [h.vkp, hl]
    exact hx.slot.append hplain
  · rw [h.vpsclient, hl, lastVps, findSome?_append_none fun e he => (hplain e he).vps]
    exact hx.vpsclient
  · rw [h.spsclient, hl, lastSps, findSome?_append_none fun e he => (hplain e he).sps]
    exact hx.spsclient
  · rw [h.ppsclient, hl, lastPps, findSome?_append_none fun e he => (hplain e he).pps]
    exact hx.ppsclient
  · rw [h.count, hl, spsUpdates_append hplain]
    exact hx.count
  · rw [hl]
    exact setsFit_append hplain hx.told

lemma idle_keeps {k k' : Phase} {t : Decoder P} (h : Store.Keeps s.store t.store) (hv : t.vkp = s.vkp)
    (h₁ : t.vpsclient = s.vpsclient) (h₂ : t.spsclient = s.spsclient) (h₃ : t.ppsclient = s.ppsclient)
    (h₄ : t.spsUpdateCount = s.spsUpdateCount) : Idle (k, s) (k', t) := by
  obtain ⟨l, hl, hr⟩ := h.log
  refine ⟨⟨l, hl, fun e he => ?_⟩, hv, h₁, h₂, h₃, h₄⟩
  have := hr e he
  cases e <;> first | exact ⟨rfl, rfl, rfl, rfl, rfl, rfl⟩ | cases this

lemma plain_parserResult {log : List Event} (h : e.Plain) : ∃ l, e :: log = l ++ log ∧ ∀ e ∈ l, e.Plain :=
  ⟨[e], rfl, by simpa using h⟩

-- the parser's result stands between the announcement and the log before
lemma Slots.result (hx : Slots env (k, s)) (he : e.Plain) (parser : P) :
    Slots env (k, (s.emit e).setParser parser) :=
  hx.idle ⟨plain_parserResult he, rfl, rfl, rfl, rfl, rfl⟩ (keepsCurrent_of_eq rfl fun _ => rfl)

lemma Slots.updateVps (hx : Slots env (k, s)) (vps : GstH265VPS) : Slots env (k, s.updateVps env vps) := by
  refine ⟨hx.slot.updateVps, ?_, hx.spsclient, hx.ppsclient, hx.count, ?_, ?_, hx.told⟩
  · rintro _ ⟨⟩
    rfl
  · exact hx.current_mono (keepsCurrent_of_eq rfl fun _ => rfl) (List.suffix_cons ..)
  · exact fun a ha => by cases ha

lemma Slots.updateSps (hx : Slots env (k, s)) (sps : GstH265SPS) : Slots env (k, s.updateSps env sps) := by
  refine ⟨hx.slot.updateSps, hx.vpsclient, ?_, hx.ppsclient, ?_, ?_, ?_, hx.told⟩
  · rintro _ ⟨⟩
    rfl
  · have hcount : s.spsUpdateCount = s.store.log.countP (fun e => e.announcedSps.isSome) % 2 ^ 32 := hx.count
    change (s.spsUpdateCount + 1) % 2 ^ 32 = spsUpdates (Event.updateSps .. :: s.store.log)
    rw [spsUpdates, List.countP_cons_of_pos (by rfl), hcount]
    omega
  · exact hx.current_mono (keepsCurrent_of_eq rfl fun _ => rfl) (List.suffix_cons ..)
  · exact fun a ha => by cases ha

lemma Slots.updatePps (hx : Slots env (k, s)) (pps : GstH265PPS) : Slots env (k, s.updatePps env pps) := by
  refine ⟨hx.slot.updatePps, hx.vpsclient, hx.spsclient, ?_, hx.count, ?_, ?_, hx.told⟩
  · rintro _ ⟨⟩
    rfl
  · exact hx.current_mono (keepsCurrent_of_eq rfl fun _ => rfl) (List.suffix_cons ..)
  · exact fun a ha => by cases ha

lemma Slots.start {c : Current} (hx : Slots env (k, s)) (slice : GstH265Slice) {vps : GstH265VPS}
    (hvps : (s.activation env slice.header.pps).vps = some vps) (hc : c = .decoding p ∨ c = .failed p) :
    Slots env (k.setCurrent c, s.startPicture env p slice vps vkpic) := by
  refine ⟨hx.slot.start slice, hx.vpsclient, hx.spsclient, hx.ppsclient, hx.count, ?_, ?_, hx.told⟩
  · intro q v hq hu
    obtain rfl : q = p := by
      have hq : c = .decoding q := hq
      rcases hc with rfl | rfl <;> cases hq
      rfl
    have hu : ((setVkPic q (startVkPic env s q slice vps vkpic) s).pic q).userData = some v := hu
    rw [setVkPic_userData, if_pos rfl] at hu
    cases hu
    refine ⟨s.store.log, s.startInfo env q slice, List.suffix_rfl, ⟨vps, hvps, rfl⟩, rfl, rfl, hx.vpsclient, hx.spsclient,
      hx.ppsclient, fun hoob hcount => ?_⟩
    have hshared : s.paramSource env = .shared := by
      have hc : s.spsUpdateCount ≠ 0 := by
        rw [hx.count]
        exact hcount
      simp [Decoder.paramSource, hoob, hc]
    exact ⟨hshared, hshared, hshared⟩
  · exact fun a ha => by cases ha

lemma exists_announced {β : Type} {f : Event → Option β} {b : β} (h : b ∈ log.findSome? f) :
    ∃ e ∈ log, f e = some b := List.exists_of_findSome?_eq_some h

/-- The slot shows the sets that the picture activates. -/
lemma Holds.coherent {vkp : VkH265Picture} {oob : Bool} {data : PictureData} {l : List Event} {info : StartInfo}
    (hx : Holds vkp log) (h : StartedWith oob log p data l info) (hf : SetsFollow oob log p) :
    Coherent log p data vkp.stdVps vkp.stdSps vkp.stdPps := by
  have hmem : info.active ∈ activations log p :=
    List.mem_filterMap.mpr ⟨_, h.start.subset List.mem_cons_self, if_pos rfl⟩
  have hone : ∀ a ∈ activations log p, a = info.active := fun a ha => hf.one a ha _ hmem
  have hlast := hf.decoded _ hmem
  have hstart := (always_iff.mp hf.started _ _ h.start _ rfl rfl).1
  obtain ⟨b, hb, hvps⟩ := hlast.vps
  obtain ⟨c, hc, hsps, hid⟩ := hlast.sps
  obtain ⟨d, hd, hpps⟩ := hlast.pps
  have hstdVps : vkp.stdVps = stdVpsOf b.1 := hx.vps b hb
  have hstdSps : vkp.stdSps = stdSpsOf info.active := by
    rw [hx.sps hf.untouched c hc, hx.bufMgr b hb, stdSpsOf, hvps, hsps]
    have hfill : (fillSps info.active.sps c.1.2 {}).stdSps = (fillSps info.active.sps (some b.1) {}).stdSps :=
      stdSps_eq_iff.mpr ⟨hvps ▸ hid, rfl⟩
    rw [hfill]
    rfl
  have hstdPps : vkp.stdPps = stdPpsOf info.active.pps := by
    rw [hx.pps d hd, hpps]
  refine ⟨List.ne_nil_of_mem hmem, fun a ha => ?_, fun a ha => ?_, fun a ha => ?_, ?_, ?_, ?_, fun a ha => ?_,
    fun a ha => ?_, fun a ha => ?_⟩
  · rw [hone a ha, hvps, hstdVps]
    rfl
  · rw [hone a ha, hstdSps]
  · rw [hone a ha, hstdPps]
  · obtain ⟨vps, hv, hid⟩ := h.vpsId
    rw [hvps] at hv
    cases hv
    rw [hstdVps, hid]
    rfl
  · rw [hstdSps, h.spsId]
    rfl
  · rw [hstdPps, h.ppsId]
    rfl
  · obtain ⟨b', hb', hv⟩ := hstart.vps
    obtain ⟨e, he, hann⟩ := exists_announced hb'
    refine ⟨e, (h.start.subset (List.mem_cons_of_mem _ he)), b'.1, ?_, ?_⟩
    · rw [hone a ha, hv]
      rfl
    · rw [hann, h.vpsObject b' hb']
  · obtain ⟨b', hb', hv, -⟩ := hstart.sps
    obtain ⟨e, he, hann⟩ := exists_announced hb'
    refine ⟨e, (h.start.subset (List.mem_cons_of_mem _ he)), b'.1.2, ?_⟩
    rw [hann, h.spsObject b' hb', hone a ha, ← hv]
  · obtain ⟨b', hb', hv⟩ := hstart.pps
    obtain ⟨e, he, hann⟩ := exists_announced hb'
    refine ⟨e, (h.start.subset (List.mem_cons_of_mem _ he)), ?_⟩
    rw [hann, h.ppsObject b' hb', hone a ha, ← hv]

lemma Slots.endPicture (hx : Slots env (k, s)) (hk : k.current = .decoding p) (hv : (s.pic p).userData = some vkpic) :
    Slots env ((k.take .ended p).setCurrent (.gone p), s.endPicture env p vkpic) := by
  obtain ⟨l, info, h⟩ := hx.current p vkpic hk hv
  have hslot : Holds s.vkp ((s.endPicture env p vkpic).store.log) := hx.slot.cons rfl rfl rfl rfl
  refine ⟨hslot, hx.vpsclient, hx.spsclient, hx.ppsclient, hx.count, fun q v hq => (by cases hq), ?_, hx.told⟩
  rintro _ ⟨⟩ hf
  have hinfo := (h.mono List.suffix_rfl rfl : StartedWith env.oobPicParams s.store.log p (stealBitstream vkpic).data l info)
  have hshared := hinfo.shared hf.oob (always_iff.mp hf.started _ _ h.start _ rfl rfl).2
  have hc := hx.slot.coherent hinfo hf
  simp only [Decoder.shown]
  rwa [show vkpic.data.hevc.pStdVps = .shared from hshared.1, show vkpic.data.hevc.pStdSps = .shared from hshared.2.1,
    show vkpic.data.hevc.pStdPps = .shared from hshared.2.2]

lemma plain_of_unannounced (h : Unannounced e) : e.Plain := by
  cases h <;> exact ⟨rfl, rfl, rfl, rfl, rfl, rfl⟩

/-- The moves that the slot and the sets shown depend on; all others are idle. -/
inductive SetStep (env : Env P) : Phase × Decoder P → Phase × Decoder P → Prop
  | updateVps {k : Phase} {s : Decoder P} (e : Event) (he : e.Plain) (parser : P) (vps : GstH265VPS) :
    SetStep env (k, s) (k, ((s.emit e).setParser parser).updateVps env vps)
  | updateSps {k : Phase} {s : Decoder P} (e : Event) (he : e.Plain) (parser : P) (sps : GstH265SPS) :
    SetStep env (k, s) (k, ((s.emit e).setParser parser).updateSps env sps)
  | updatePps {k : Phase} {s : Decoder P} (e : Event) (he : e.Plain) (parser : P) (pps : GstH265PPS) :
    SetStep env (k, s) (k, ((s.emit e).setParser parser).updatePps env pps)
  | start {k : Phase} {s : Decoder P} {c : Current} (p : PicId) (slice : GstH265Slice) (vps : GstH265VPS) (vkpic : VkPic)
    (hvps : (s.activation env slice.header.pps).vps = some vps) (hc : c = .decoding p ∨ c = .failed p) :
    SetStep env (k, s) (k.setCurrent c, s.startPicture env p slice vps vkpic)
  | endPicture {k : Phase} {s : Decoder P} (p : PicId) (vkpic : VkPic) (hk : k.current = .decoding p)
    (hv : (s.pic p).userData = some vkpic) :
    SetStep env (k, s) ((k.take .ended p).setCurrent (.gone p), s.endPicture env p vkpic)
  | idle {x y : Phase × Decoder P} (h : Idle x y) (hc : KeepsCurrent x y) : SetStep env x y

-- a change of the store that only drops pictures
lemma setStep_keeps {k' : Phase} {f : Store → Store} (hc : k'.current = k.current) (h : Store.Keeps s.store (f s.store)) :
    SetStep env (k, s) (k', s.mapStore f) :=
  .idle (idle_keeps h rfl rfl rfl rfl rfl) (keepsCurrent_of_eq hc fun q => (h.pic q).userData)

lemma Act.setStep (h : Act env x y) : SetStep env x y := by
  cases h with
  | updateVps c vps => exact .updateVps _ ⟨rfl, rfl, rfl, rfl, rfl, rfl⟩ _ vps
  | updateSps c sps => exact .updateSps _ ⟨rfl, rfl, rfl, rfl, rfl, rfl⟩ _ sps
  | updatePps pps => exact .updatePps _ ⟨rfl, rfl, rfl, rfl, rfl, rfl⟩ _ pps
  | start p slice vps vkpic hk hv hvps hflags hsets hc => exact .start p slice vps vkpic hvps (hc.imp And.left id)
  | endPicture p vkpic hk hv => exact .endPicture p vkpic hk hv
  | parsed parser h =>
    exact .idle ⟨plain_parserResult (plain_of_unannounced h), rfl, rfl, rfl, rfl, rfl⟩ (keepsCurrent_of_eq rfl fun _ => rfl)
  | book h =>
    refine .idle ⟨⟨[], h.log, by simp⟩, h.vkp, h.vpsclient, h.spsclient, h.ppsclient, h.spsUpdateCount⟩ ?_
    exact keepsCurrent_of_eq rfl fun q => by rw [Decoder.pic, Decoder.pic, h.pic]
  | edit p hk hf =>
    exact .idle ⟨⟨[], rfl, by simp⟩, rfl, rfl, rfl, rfl, rfl⟩ (keepsCurrent_of_eq rfl fun q => userData_edit hf p q _)
  | slice p slice vkpic hk hv =>
    refine .idle ⟨plain_parserResult ⟨rfl, rfl, rfl, rfl, rfl, rfl⟩, rfl, rfl, rfl, rfl, rfl⟩ fun q v hq hu => ?_
    have hqp : q = p := by
      have hp : Current.decoding p = Current.decoding q := hk.symm.trans hq
      cases hp
      rfl
    have hu : ((setVkPic p (appendSlice slice vkpic) _).pic q).userData = some v := hu
    rw [setVkPic_userData, if_pos hqp] at hu
    cases hu
    exact ⟨vkpic, hq, hqp ▸ hv, rfl⟩
  | alloc p hk hv =>
    refine .idle ?_ (keepsCurrent_of_ne fun q => ?_)
    · unfold Decoder.allocPicture
      simp only
      split <;> exact ⟨plain_parserResult ⟨rfl, rfl, rfl, rfl, rfl, rfl⟩, rfl, rfl, rfl, rfl, rfl⟩
    · simp [hk]
  | new hk =>
    exact .idle ⟨⟨[], rfl, by simp⟩, rfl, rfl, rfl, rfl, rfl⟩ (keepsCurrent_of_ne fun q => by simp [Phase.setCurrent])
  | adopt p hk | forgetCurrent p hk =>
    exact .idle ⟨⟨[], rfl, by simp⟩, rfl, rfl, rfl, rfl, rfl⟩ (keepsCurrent_of_ne fun q => by simp [Phase.setCurrent])
  | unrefCurrent p hk =>
    refine .idle (idle_keeps (Store.keeps_unref p _) rfl rfl rfl rfl rfl) (keepsCurrent_of_ne fun q => ?_)
    simp [Phase.setCurrent]
  | clearSets =>
    exact .idle (idle_keeps (Store.keeps_unrefAll _ _) rfl rfl rfl rfl rfl)
      (keepsCurrent_of_eq rfl fun q => ((Store.keeps_unrefAll _ _).pic q).userData)
  | deriveSets p pocs =>
    exact .idle (idle_keeps (Store.keeps_deriveAndMarkRps pocs _) rfl rfl rfl rfl rfl)
      (keepsCurrent_of_eq rfl fun q => ((Store.keeps_deriveAndMarkRps pocs _).pic q).userData)
  | markAllNonRef => exact setStep_keeps rfl (Store.keeps_dpbMarkAllNonRef _)
  | deleteUnused => exact setStep_keeps rfl (Store.keeps_dpbDeleteUnused _)
  | add p => exact setStep_keeps rfl (Store.keeps_storePicture p _)
  | bump drain => exact setStep_keeps rfl (Store.keeps_dpbBump drain _)
  | unref p => exact setStep_keeps rfl (Store.keeps_unref p _)
  | dpbClear => exact setStep_keeps rfl (Store.keeps_dpbClear _)
  | removeFrame h =>
    cases h <;> exact .idle ⟨plain_parserResult ⟨rfl, rfl, rfl, rfl, rfl, rfl⟩, rfl, rfl, rfl, rfl, rfl⟩
      (keepsCurrent_of_eq rfl fun _ => rfl)
  | beginSequence | processSps | unhandledNALU | showOrderCount | showBumping | flush | finishFrame | display =>
    exact .idle ⟨plain_parserResult ⟨rfl, rfl, rfl, rfl, rfl, rfl⟩, rfl, rfl, rfl, rfl, rfl⟩
      (keepsCurrent_of_eq rfl fun _ => rfl)
  | _ =>
    exact .idle ⟨⟨[], rfl, by simp⟩, rfl, rfl, rfl, rfl, rfl⟩ (keepsCurrent_of_eq rfl fun _ => rfl)

lemma Act.slots (h : Act env x y) (hx : Slots env x) : Slots env y := by
  cases h.setStep with
  | updateVps e he parser vps => exact (hx.result he parser).updateVps vps
  | updateSps e he parser sps => exact (hx.result he parser).updateSps sps
  | updatePps e he parser pps => exact (hx.result he parser).updatePps pps
  | start p slice vps vkpic hvps hc => exact hx.start slice hvps hc
  | endPicture p vkpic hk hv => exact hx.endPicture hk hv
  | idle h hc => exact hx.idle h hc

lemma slots_start : Slots env (Phase.idle, Decoder.start env) := by
  refine ⟨⟨rfl, ?_, ?_, fun _ => ?_, ?_⟩, ?_, ?_, ?_, rfl, fun _ _ h => (by cases h), trivial⟩ <;> intro b hb <;> cases hb

end Slots

lemma start_dies_iff (p : PicId) (slice : GstH265Slice) :
    vkStartPicture env p slice s = .error .nullPointer s ↔
      (s.pic p).userData = none ∨ (s.activation env slice.header.pps).vps = none := by
  unfold vkStartPicture
  rw [run_bind, run_get]
  cases hv : (s.pic p).userData with
  | none => simp only [hv, deref, valueOr, run_bind, run_throw, true_or]
  | some vkpic =>
    simp only [hv]
    cases hvps : (s.activation env slice.header.pps).vps with
    | none => exact ⟨fun _ => .inr rfl, fun _ => rfl⟩
    | some vps =>
      refine ⟨fun h => ?_, fun h => ?_⟩
      · -- the call of start_picture is in the log
        have hfinal : s.startPicture env p slice vps vkpic = s := by
          have hf := congrArg final h
          rw [final_error] at hf
          refine Eq.trans ?_ hf
          simp only [deref, valueOr, run_bind, run_pure, run_modify]
          split <;> rfl
        have hlog := congrArg (fun t => t.store.log.length) hfinal
        simp [Decoder.startPicture, Decoder.emit, Store.emit, setVkPic, Decoder.modifyPic, Store.modifyPic] at hlog
      · rcases h with h | h <;> cases h

/-- At every DecodePicture call for a picture that follows its parameter sets, these are shown with their ids and
objects. `start_picture` dereferences the VPS that the SPS of the slice points to. -/
theorem activated_sets_shown (env : Env P) (inputs : List Input) :
    Always (SetsFit env.oobPicParams) (final (runInputs env inputs (Decoder.start env))).store.log ∧
      ∀ (s : Decoder P) p slice, vkStartPicture env p slice s = .error .nullPointer s ↔
        (s.pic p).userData = none ∨ (s.activation env slice.header.pps).vps = none := by
  refine ⟨?_, fun s p slice => start_dies_iff p slice⟩
  obtain ⟨k, hk⟩ := reach_final env inputs
  exact (kept (fun _ _ h => h.slots) hk slots_start : Slots env _).told

/-- One picture with its sets. -/
def oneSetScript : Script :=
  { vps := [{}]
    sps := [{ vps := some 0, vuiParametersPresentFlag := true, vuiParams := { hrdParametersPresentFlag := true } }]
    pps := [{}]
    slices := [{ firstSliceSegmentInPicFlag := true }] }

def oneSetEnv (oob : Bool) : Env Tables := { oneSetScript.env with oobPicParams := oob }

def oneSetInputs : List Input :=
  Script.frames [[Script.vpsUnit 0, Script.spsUnit 0, Script.ppsUnit 0, Script.idrUnit 0]]

def oneSetEnd (oob : Bool) : Decoder Tables :=
  final (runInputs (oneSetEnv oob) oneSetInputs (Decoder.start (oneSetEnv oob)))

-- what a coherent history shows of the VPSs
lemma always_vpsContents (h : Always (fun l e => ∀ a ∈ e.decodedSets, Coherent l a.1 a.2.1 a.2.2.1 a.2.2.2.1 a.2.2.2.2) log) :
    Always (fun l e => ∀ a ∈ e.decodedSets, ∀ b ∈ activations l a.1, b.vps.map stdVpsOf = some a.2.2.1) log :=
  h.mono fun _ _ he a ha => (he a ha).vpsContents

theorem oneSet_incoherent :
    ¬Always (fun l e => ∀ a ∈ e.decodedSets, Coherent l a.1 a.2.1 a.2.2.1 a.2.2.2.1 a.2.2.2.2)
      (oneSetEnd false).store.log :=
  mt always_vpsContents (by decide +kernel)

-- with client objects for its sets the same picture follows them
theorem activated_sets_shown_oneSet : ((oneSetEnd true).store.log.any fun e => e.decodedSets.isSome) ∧
    Always (fun l e => ∀ a ∈ e.decodedSets, Coherent l a.1 a.2.1 a.2.2.1 a.2.2.2.1 a.2.2.2.2)
      (oneSetEnd true).store.log := by
  -- over a variable, as Always of a run would be evaluated
  have hshown : ∀ (env : Env Tables) s, s = final (runInputs env oneSetInputs (Decoder.start env)) →
      (s.store.log.any fun e => e.decodedSets.isSome) →
      Always (fun l e => ∀ a ∈ e.decodedSets, SetsFollow env.oobPicParams l a.1) s.store.log →
      (s.store.log.any fun e => e.decodedSets.isSome) ∧
        Always (fun l e => ∀ a ∈ e.decodedSets, Coherent l a.1 a.2.1 a.2.2.1 a.2.2.2.1 a.2.2.2.2) s.store.log := by
    rintro env s rfl hany hfollow
    have hfit := (activated_sets_shown env oneSetInputs).1
    exact ⟨hany, (hfit.and hfollow).mono fun _ _ h a ha => h.1 a ha (h.2 a ha)⟩
  exact hshown (oneSetEnv true) (oneSetEnd true) rfl (by decide +kernel) (by decide +kernel)

end VkVideoParser.H265
