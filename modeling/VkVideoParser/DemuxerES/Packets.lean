import VkVideoParser.Library.Transitions
import VkVideoParser.DemuxerES.Demuxer

/-! The packets that the caller reads are the samples of the appsink, with the streams they belong to. -/

namespace VkVideoParser.DemuxerES

open Transitions

def GstMiniObject.sample? : GstMiniObject → Option GstSample
  | .sample x => some x
  | .event _ => none

def samplesOf (objects : List GstMiniObject) : List GstSample := objects.filterMap GstMiniObject.sample?

-- a sample that a packet can be made of
def GstSample.full (x : GstSample) : Bool := x.buffer.isSome

def fullSamplesOf (objects : List GstMiniObject) : List GstSample := (samplesOf objects).filter GstSample.full

-- the known stream that a stream start is for
def Pulled.started (p : Pulled) : Option GstDemuxerEStream :=
  match p.object with
  | .event (.streamStart streamId) => p.streams.find? fun stream => stream.streamId = some streamId
  | _ => none

-- the stream of the latest start, among objects listed last one first
def latest : List Pulled → Option GstDemuxerEStream
  | [] => none
  | p :: before => p.started.or (latest before)

/-- A sample with the number and the type of its stream. -/
abbrev Delivery := GstSample × Nat × GstDemuxerEStreamType

def deliveryOf (before : List Pulled) (x : GstSample) : Delivery :=
  (x, ((latest before).elim 0 fun stream => stream.id), (latest before).elim .unknown fun stream => stream.type)

def delivered : List Pulled → List Delivery
  | [] => []
  | p :: before => delivered before ++ ((p.object.sample?.filter GstSample.full).map (deliveryOf before)).toList

def GstDemuxerESPacket.delivery (p : GstDemuxerESPacket) : Delivery := (p.sample, p.streamId, p.streamType)

-- the packet shows the buffer of its sample
def GstDemuxerESPacket.Shows (p : GstDemuxerESPacket) : Prop :=
  ∃ b, p.sample.buffer = some b ∧ p.data = b.data ∧ p.dataSize = b.data.length ∧
    p.pts = b.pts.toInt64 ∧ p.dts = b.dts.toInt64 ∧ p.duration = b.duration.toInt64

def GstDemuxerESResult.packet? : GstDemuxerESResult → Option GstDemuxerESPacket
  | .newPacket p | .lastPacket p => some p
  | .noPacket | .error => none

def Caller.hand : Caller → Option GstDemuxerESPacket
  | .lookingAhead p | .settling p => p
  | _ => none

-- the call has taken its sample
def Caller.taken : Caller → Nat
  | .lookingAhead _ | .settling _ => 1
  | _ => 0

-- a call was made and has not returned
def Caller.running : Caller → Nat
  | .called | .reading | .lookingAhead _ | .settling _ => 1
  | _ => 0

lemma Caller.hand_of_taken {c : Caller} (h : c.taken = 0) : c.hand = none := by
  cases c <;> first | rfl | cases h

namespace System

def packets (s : System) : List GstDemuxerESPacket := (s.results.filterMap GstDemuxerESResult.packet?).reverse

-- the calls that did not fail
def reads (s : System) : Nat := s.results.countP fun r => r ≠ .error

def pending (s : System) : List Delivery :=
  ((s.demuxer.pendingSample.filter GstSample.full).map fun x =>
    (x, s.demuxer.currentStreamId, s.demuxer.currentStreamType)).toList

-- the samples that no call has taken
def left (s : System) : Nat := (samplesOf s.objects).length + s.demuxer.pendingSample.toList.length

end System

/-- What was pulled was returned, is in the hand of the running call or pending; every call takes a
sample while there are any. -/
structure Reading (objects : List GstMiniObject) (s : System) : Prop where
  pulled : s.pulled.reverse.map Pulled.object ++ s.objects = objects
  stream : ∀ x, (x, s.demuxer.currentStreamId, s.demuxer.currentStreamType) = deliveryOf s.pulled x
  deliveries : delivered s.pulled =
    s.packets.map GstDemuxerESPacket.delivery ++ (s.caller.hand.map GstDemuxerESPacket.delivery).toList ++ s.pending
  shows : ∀ p, p ∈ s.packets ∨ s.caller.hand = some p → p.Shows
  lookingAhead : ∀ p, s.caller = .lookingAhead p → s.demuxer.pendingSample = none
  progress : (s.left = 0 ∧ s.caller.hand = none) ∨
    s.reads + s.caller.taken + s.left = (samplesOf objects).length
  errors : .error ∈ s.results ∨ s.demuxer.state = .error → s.failed

section Steps

variable {objects rest : List GstMiniObject} {s t : System} {l : Label}

lemma Reading.ofDemuxer (h : Reading objects s) (ho : t.objects = s.objects) (hp : t.pulled = s.pulled)
    (hr : t.results = s.results) (hc : t.caller = s.caller)
    (hd : t.demuxer = { s.demuxer with state := t.demuxer.state, streams := t.demuxer.streams })
    (hf : .error ∈ s.results ∨ t.demuxer.state = .error → t.failed) : Reading objects t := by
  have hpend : t.pending = s.pending := by
    rw [System.pending, hd]
    rfl
  have hpack : t.packets = s.packets := by rw [System.packets, hr, System.packets]
  have hleft : t.left = s.left := by
    rw [System.left, ho, hd]
    rfl
  have hreads : t.reads = s.reads := by rw [System.reads, hr, System.reads]
  constructor
  · rw [hp, ho]
    exact h.pulled
  · rw [hd, hp]
    exact h.stream
  · rw [hp, hpend, hpack, hc]
    exact h.deliveries
  · rw [hpack, hc]
    exact h.shows
  · rw [hc, hd]
    exact h.lookingAhead
  · rw [hleft, hreads, hc]
    exact h.progress
  · rw [hr]
    exact hf

-- a move between two places where nothing is in the hand
lemma Reading.goTo {c : Caller} (h : Reading objects s) (hs : s.caller.taken = 0) (hc : c.taken = 0) :
    Reading objects (s.goTo c) := by
  have hs' := Caller.hand_of_taken hs
  have hc' := Caller.hand_of_taken hc
  refine ⟨h.pulled, h.stream, ?_, ?_, ?_, ?_, h.errors⟩
  · have := h.deliveries
    rw [hs'] at this
    rw [System.goTo, hc']
    exact this
  · rintro p (hp | hp)
    · exact h.shows p (.inl hp)
    · cases hc'.symm.trans hp
  · rintro p rfl
    cases hc
  · refine h.progress.imp (fun hp => ⟨hp.1, hc'⟩) fun hp => ?_
    rw [hs] at hp
    rw [System.goTo, hc]
    exact hp

-- a call in the ERROR state
lemma Reading.fail (h : Reading objects s) (hs : s.caller.taken = 0) (he : s.demuxer.state = .error) :
    Reading objects (s.finish .error) := by
  have hd := h.deliveries
  rw [Caller.hand_of_taken hs] at hd
  refine ⟨h.pulled, h.stream, hd, ?_, (by rintro _ ⟨⟩), ?_, fun _ => h.errors (.inr he)⟩
  · rintro p (hp | hp)
    · exact h.shows p (.inl hp)
    · cases hp
  · refine h.progress.imp (fun hp => ⟨hp.1, rfl⟩) fun hp => ?_
    rw [hs] at hp
    have hreads : (s.finish .error).reads = s.reads := by simp [System.reads, System.finish]
    rw [hreads]
    exact hp

lemma delivered_event {streams : List GstDemuxerEStream} {e : GstEvent} {before : List Pulled} :
    delivered (⟨streams, .event e⟩ :: before) = delivered before := by
  simp [delivered, GstMiniObject.sample?]

lemma delivered_sample {streams : List GstDemuxerEStream} {x : GstSample} {before : List Pulled} :
    delivered (⟨streams, .sample x⟩ :: before) =
      delivered before ++ (((some x).filter GstSample.full).map (deliveryOf before)).toList := rfl

lemma pulled_pull {o : GstMiniObject} (h : s.pulled.reverse.map Pulled.object ++ s.objects = objects)
    (ho : s.objects = o :: rest) :
    ((s.pull o rest).pulled.reverse.map Pulled.object) ++ (s.pull o rest).objects = objects := by
  rw [← h, ho]
  simp [System.pull]

lemma left_event {e : GstEvent} (ho : s.objects = .event e :: rest) : s.left = (s.pull (.event e) rest).left := by
  rw [System.left, ho]
  rfl

lemma left_sample {x : GstSample} (ho : s.objects = .sample x :: rest) :
    s.left = (s.pull (.sample x) rest).left + 1 := by
  rw [System.left, ho]
  exact Nat.add_right_comm _ _ _

lemma handleEvent_pendingSample (d : GstDemuxerES) (e : GstEvent) :
    (d.appsinkHandleEvent e).2.pendingSample = d.pendingSample := by
  cases e with
  | streamStart streamId =>
    simp only [GstDemuxerES.appsinkHandleEvent]
    cases d.findStream streamId <;> rfl
  | streamGroupDone | other => rfl

lemma handleEvent_error (d : GstDemuxerES) (e : GstEvent) (h : (d.appsinkHandleEvent e).2.state = .error) :
    d.state = .error := by
  cases e with
  | streamStart streamId =>
    simp only [GstDemuxerES.appsinkHandleEvent] at h
    cases hf : d.findStream streamId with
    | none =>
      rw [hf] at h
      exact h
    | some stream =>
      rw [hf] at h
      exact h
  | streamGroupDone => cases h
  | other => exact h

-- the current stream is that of the latest start
lemma handleEvent_stream {e : GstEvent}
    (h : ∀ x, (x, s.demuxer.currentStreamId, s.demuxer.currentStreamType) = deliveryOf s.pulled x) (x : GstSample) :
    (x, ((s.pull (.event e) rest).handleEvent e).demuxer.currentStreamId,
      ((s.pull (.event e) rest).handleEvent e).demuxer.currentStreamType) =
      deliveryOf (⟨s.demuxer.streams, .event e⟩ :: s.pulled) x := by
  cases e with
  | streamStart streamId =>
    have hf : (s.pull (.event (.streamStart streamId)) rest).demuxer.findStream streamId =
      (⟨s.demuxer.streams, .event (.streamStart streamId)⟩ : Pulled).started := rfl
    simp only [System.handleEvent, GstDemuxerES.appsinkHandleEvent, hf, deliveryOf, latest]
    cases (⟨s.demuxer.streams, .event (.streamStart streamId)⟩ : Pulled).started with
    | none => exact h x
    | some stream => rfl
  | streamGroupDone | other => exact h x

lemma Reading.event {e : GstEvent} {c : Caller} (h : Reading objects s) (ho : s.objects = .event e :: rest)
    (hn : s.demuxer.pendingSample = none) (hc : c.hand = s.caller.hand) (ht : c.taken = s.caller.taken) :
    Reading objects (((s.pull (.event e) rest).handleEvent e).goTo c) := by
  have hpend : ((s.pull (.event e) rest).handleEvent e).demuxer.pendingSample = none :=
    (handleEvent_pendingSample _ e).trans hn
  refine ⟨pulled_pull h.pulled ho, handleEvent_stream h.stream, ?_, ?_, fun _ _ => hpend, ?_, ?_⟩
  · have hs : s.pending = [] := by simp [System.pending, hn]
    have ht : (((s.pull (.event e) rest).handleEvent e).goTo c).pending = [] := by
      rw [System.pending, System.goTo, hpend]
      rfl
    refine delivered_event.trans (h.deliveries.trans ?_)
    rw [ht, hs, ← hc]
    rfl
  · intro p hp
    refine h.shows p (hp.imp_right fun hp => ?_)
    rw [← hc]
    exact hp
  · have hleft : (((s.pull (.event e) rest).handleEvent e).goTo c).left = s.left := by
      rw [left_event ho, System.left, System.left, System.goTo, hpend, show (s.pull (.event e) rest).demuxer.pendingSample = none from hn]
      rfl
    rw [hleft, System.goTo, hc, ht]
    exact h.progress
  · rintro (hp | hp)
    · exact h.errors (.inl hp)
    · exact h.errors (.inr (handleEvent_error _ e hp))

lemma newPacket_delivery (d : GstDemuxerES) (x : GstSample) :
    ((d.newPacket x).1.map GstDemuxerESPacket.delivery).toList =
      (((some x).filter GstSample.full).map fun x => (x, d.currentStreamId, d.currentStreamType)).toList := by
  cases hb : x.buffer with
  | none =>
    have hx : x.full = false := by simp [GstSample.full, hb]
    simp [GstDemuxerES.newPacket, hb, hx]
  | some b =>
    have hx : x.full = true := by simp [GstSample.full, hb]
    rw [Option.filter_some_pos hx]
    simp [GstDemuxerES.newPacket, hb, GstDemuxerESPacket.delivery, GstDemuxerES.packetOf]

lemma newPacket_shows {d : GstDemuxerES} {x : GstSample} {p : GstDemuxerESPacket} (h : (d.newPacket x).1 = some p) :
    p.Shows := by
  cases hb : x.buffer with
  | none =>
    simp only [GstDemuxerES.newPacket, hb] at h
    cases h
  | some b =>
    simp only [GstDemuxerES.newPacket, hb] at h
    cases h
    exact ⟨b, hb, rfl, rfl, rfl, rfl, rfl⟩

lemma newPacket_demuxer (d : GstDemuxerES) (x : GstSample) :
    (d.newPacket x).2 = { d with packetCounter := (d.newPacket x).2.packetCounter } := by
  unfold GstDemuxerES.newPacket
  split <;> rfl

lemma reading_take {x : GstSample} (hp : s.pulled.reverse.map Pulled.object ++ s.objects = objects)
    (hs : ∀ y, (y, s.demuxer.currentStreamId, s.demuxer.currentStreamType) = deliveryOf s.pulled y)
    (hd : delivered s.pulled = s.packets.map GstDemuxerESPacket.delivery ++
      (((some x).filter GstSample.full).map fun x => (x, s.demuxer.currentStreamId, s.demuxer.currentStreamType)).toList)
    (hshow : ∀ p ∈ s.packets, p.Shows) (hn : s.demuxer.pendingSample = none)
    (hprog : s.reads + 1 + s.left = (samplesOf objects).length)
    (hf : .error ∈ s.results ∨ s.demuxer.state = .error → s.failed) : Reading objects (s.takeSample x) := by
  have hdem := newPacket_demuxer s.demuxer x
  have hnone : (s.takeSample x).demuxer.pendingSample = none := by
    rw [System.takeSample, hdem]
    exact hn
  refine ⟨hp, ?_, ?_, ?_, fun _ _ => hnone, .inr ?_, ?_⟩
  · rw [System.takeSample, hdem]
    exact hs
  · refine hd.trans ?_
    rw [← newPacket_delivery, System.pending, hnone]
    simp only [Option.filter_none, Option.map_none, Option.toList_none, List.append_nil]
    rfl
  · rintro q (hq | hq)
    · exact hshow q hq
    · exact newPacket_shows hq
  · refine Eq.trans ?_ hprog
    rw [System.left, hnone, System.left, hn]
    rfl
  · rw [System.takeSample, hdem]
    exact hf

lemma Reading.read (h : Reading objects s) (hc : s.caller = .reading) : Reading objects s.read := by
  have hhand : s.caller.hand = none := by rw [hc]; rfl
  have htaken : s.caller.taken = 0 := by rw [hc]; rfl
  have hd := h.deliveries
  rw [hhand, Option.map_none, Option.toList_none, List.append_nil] at hd
  have hprog : s.left ≠ 0 → s.reads + s.left = (samplesOf objects).length := fun hne => by
    have := h.progress.resolve_left fun hp => hne hp.1
    rwa [htaken] at this
  unfold System.read
  split
  · rename_i x hx
    have hleft : s.left = (s.mapDemuxer (GstDemuxerES.setPendingSample none)).left + 1 := by
      rw [System.left, hx]
      rfl
    refine reading_take h.pulled h.stream ?_ (fun p hp => h.shows p (.inl hp)) rfl ?_ h.errors
    · rw [System.pending, hx] at hd
      exact hd
    · have := hprog (by omega)
      have hreads : (s.mapDemuxer (GstDemuxerES.setPendingSample none)).reads = s.reads := rfl
      omega
  · rename_i hn
    have hpend : s.pending = [] := by simp [System.pending, hn]
    rw [hpend, List.append_nil] at hd
    split
    · rename_i ho
      have hleft : s.left = 0 := by simp [System.left, ho, hn, samplesOf]
      refine ⟨h.pulled, h.stream, ?_, ?_, fun _ _ => hn, .inl ⟨hleft, rfl⟩, h.errors⟩
      · refine hd.trans ?_
        rw [show (s.goTo (.lookingAhead none)).pending = [] from hpend]
        simp only [Caller.hand, System.goTo, Option.map_none, Option.toList_none, List.append_nil]
        rfl
      · rintro p (hp | hp)
        · exact h.shows p (.inl hp)
        · cases hp
    · rename_i e rest ho
      have := h.event (c := .reading) ho hn (by rw [hc]) (by rw [hc])
      rwa [show ((s.pull (.event e) rest).handleEvent e).goTo .reading = (s.pull (.event e) rest).handleEvent e by
        rw [← hc]; rfl] at this
    · rename_i x rest ho
      have hleft := left_sample ho
      refine reading_take (pulled_pull h.pulled ho) (fun y => (h.stream y).trans ?_) ?_
        (fun p hp => h.shows p (.inl hp)) hn ?_ h.errors
      · rfl
      · refine delivered_sample.trans ?_
        rw [hd, ← funext h.stream]
        rfl
      · have := hprog (by omega)
        have hreads : (s.pull (.sample x) rest).reads = s.reads := rfl
        omega

lemma Reading.lookAhead {p : Option GstDemuxerESPacket} (h : Reading objects s) (hc : s.caller = .lookingAhead p) :
    Reading objects (s.lookAhead p) := by
  have hn := h.lookingAhead p hc
  have hhand : s.caller.hand = p := by rw [hc]; rfl
  have htaken : s.caller.taken = 1 := by rw [hc]; rfl
  unfold System.lookAhead
  split
  · rename_i ho
    refine ⟨h.pulled, h.stream, ?_, ?_, (by rintro _ ⟨⟩), ?_, h.errors⟩
    · refine h.deliveries.trans ?_
      rw [hhand]
      rfl
    · rintro q (hq | hq)
      · exact h.shows q (.inl hq)
      · exact h.shows q (.inr (hhand.trans hq))
    · have := h.progress
      rwa [hhand, htaken] at this
  · rename_i e rest ho
    refine h.event ho hn ?_ ?_
    · rw [hhand]
      split <;> rfl
    · rw [htaken]
      split <;> rfl
  · rename_i x rest ho
    have hleft := left_sample ho
    refine ⟨pulled_pull h.pulled ho, h.stream, ?_, ?_, (by rintro _ ⟨⟩), .inr ?_, h.errors⟩
    · have hpend : s.pending = [] := by simp [System.pending, hn]
      refine delivered_sample.trans ?_
      rw [h.deliveries, hpend, hhand, List.append_nil, ← funext h.stream]
      rfl
    · rintro q (hq | hq)
      · exact h.shows q (.inl hq)
      · exact h.shows q (.inr (hhand.trans hq))
    · have hprog := h.progress.resolve_left fun hp => by omega
      rw [htaken] at hprog
      refine Eq.trans ?_ hprog
      rw [hleft, System.left.eq_1 (s.pull (.sample x) rest), show (s.pull (.sample x) rest).demuxer.pendingSample = none from hn]
      rfl

lemma settle_reads {p : Option GstDemuxerESPacket} : (s.settle p).reads = s.reads + 1 := by
  cases p with
  | none => simp [System.settle, System.finish, System.reads]
  | some p =>
    simp only [System.settle, System.finish, System.reads]
    split <;> simp

lemma settle_packets {p : Option GstDemuxerESPacket} : (s.settle p).packets = s.packets ++ p.toList := by
  cases p with
  | none => simp [System.settle, System.finish, System.packets, List.filterMap_cons, GstDemuxerESResult.packet?]
  | some p =>
    simp only [System.settle, System.finish, System.packets]
    split <;> simp [GstDemuxerESResult.packet?]

lemma settle_error {p : Option GstDemuxerESPacket} (h : .error ∈ (s.settle p).results) : .error ∈ s.results := by
  cases p with
  | none => simpa [System.settle, System.finish] using h
  | some p =>
    simp only [System.settle, System.finish, List.mem_cons] at h
    refine h.resolve_left ?_
    split <;> simp

lemma settle_rest {p : Option GstDemuxerESPacket} : s.settle p = { s with
    caller := .outside, results := (s.settle p).results } := by
  cases p <;> rfl

lemma Reading.settle {p : Option GstDemuxerESPacket} (h : Reading objects s) (hc : s.caller = .settling p) :
    Reading objects (s.settle p) := by
  have hhand : s.caller.hand = p := by rw [hc]; rfl
  have htaken : s.caller.taken = 1 := by rw [hc]; rfl
  have hout : (s.settle p).caller.hand = none := by
    rw [settle_rest]
    rfl
  constructor
  · rw [settle_rest]
    exact h.pulled
  · rw [settle_rest]
    exact h.stream
  · rw [settle_packets, hout, List.map_append, Option.map_none, Option.toList_none, List.append_nil]
    have := h.deliveries
    rw [hhand] at this
    rw [settle_rest]
    refine this.trans ?_
    cases p <;> rfl
  · rintro q (hq | hq)
    · rw [settle_packets, List.mem_append] at hq
      rcases hq with hq | hq
      · exact h.shows q (.inl hq)
      · exact h.shows q (.inr (hhand.trans (by simpa using hq)))
    · cases hout.symm.trans hq
  · rintro q hq
    rw [settle_rest] at hq
    cases hq
  · have hleft : (s.settle p).left = s.left := by
      rw [settle_rest]
      rfl
    have hzero : (s.settle p).caller.taken = 0 := by
      rw [settle_rest]
      rfl
    rw [hleft, hout, settle_reads, hzero]
    refine h.progress.imp (fun hp => ⟨hp.1, rfl⟩) fun hp => ?_
    rw [htaken] at hp
    exact hp
  · rintro (he | he)
    · rw [settle_rest]
      exact h.errors (.inl (settle_error he))
    · rw [settle_rest] at he ⊢
      exact h.errors (.inr he)

lemma Reading.proceed (h : Reading objects s) (ht : s.proceed = some t) : Reading objects t := by
  cases hc : s.caller with
  | starting | null | outside =>
    simp only [System.proceed, hc] at ht
    cases ht
  | waiting =>
    simp only [System.proceed, hc] at ht
    split at ht
    · cases ht
    · cases ht
      exact h.goTo (by rw [hc]; rfl) rfl
  | testing =>
    simp only [System.proceed, hc, Option.some.injEq] at ht
    rw [← ht]
    exact h.goTo (by rw [hc]; rfl) rfl
  | created ready =>
    simp only [System.proceed, hc, Option.some.injEq] at ht
    rw [← ht]
    exact h.goTo (by rw [hc]; rfl) (by split <;> rfl)
  | called =>
    simp only [System.proceed, hc, Option.some.injEq] at ht
    rw [← ht]
    split
    · rename_i he
      exact h.fail (by rw [hc]; rfl) he
    · exact h.goTo (by rw [hc]; rfl) rfl
  | reading =>
    simp only [System.proceed, hc, Option.some.injEq] at ht
    exact ht ▸ h.read hc
  | lookingAhead p =>
    simp only [System.proceed, hc, Option.some.injEq] at ht
    exact ht ▸ h.lookAhead hc
  | settling p =>
    simp only [System.proceed, hc, Option.some.injEq] at ht
    exact ht ▸ h.settle hc

lemma Reading.step (h : Reading objects s) (ht : s.step l = some t) : Reading objects t := by
  unfold System.step at ht
  split at ht
  · cases ht
  cases l with
  | setState ok =>
    simp only at ht
    split at ht
    · rename_i hc
      cases ht
      exact h.goTo (by rw [hc]; rfl) (by split <;> rfl)
    · cases ht
  | call =>
    simp only at ht
    split at ht
    · rename_i hc
      cases ht
      exact h.goTo (by rw [hc]; rfl) rfl
    · cases ht
  | proceed => exact h.proceed ht
  | busError =>
    cases ht
    exact h.ofDemuxer rfl rfl rfl rfl rfl fun _ => rfl
  | busEos =>
    cases ht
    exact h.ofDemuxer rfl rfl rfl rfl rfl fun he => he.elim (fun he => h.errors (.inl he)) (by rintro ⟨⟩)
  | padAdded type streamId =>
    cases ht
    exact h.ofDemuxer rfl rfl rfl rfl rfl h.errors
  | noMorePads =>
    cases ht
    exact h.ofDemuxer rfl rfl rfl rfl rfl h.errors
  | storeReady =>
    simp only at ht
    split at ht
    · cases ht
      exact h.ofDemuxer rfl rfl rfl rfl rfl fun he => he.elim (fun he => h.errors (.inl he)) (by rintro ⟨⟩)
    · cases ht

end Steps

section Answers

variable {s t : System} {l : Label}

-- the calls that were made: those with a result and the one that is running
def System.calls (s : System) : Nat := s.results.length + s.caller.running

lemma calls_finish (r : GstDemuxerESResult) : (s.finish r).calls = s.results.length + 1 := rfl

lemma calls_settle (p : Option GstDemuxerESPacket) : (s.settle p).calls = s.results.length + 1 := by
  cases p <;> exact calls_finish _

lemma calls_read (hc : s.caller = .reading) : s.read.calls = s.results.length + 1 := by
  unfold System.read
  split
  · rfl
  · split
    · rfl
    · rw [System.calls, System.handleEvent, System.pull, hc]
      rfl
    · rfl

lemma calls_lookAhead (p : Option GstDemuxerESPacket) : (s.lookAhead p).calls = s.results.length + 1 := by
  unfold System.lookAhead
  split
  · rfl
  · rw [System.calls, System.goTo]
    split <;> rfl
  · rfl

-- the thread of the caller takes up no call, and answers the one that runs with one result
lemma calls_proceed (ht : s.proceed = some t) : t.calls = s.calls := by
  cases hc : s.caller with
  | starting | null | outside =>
    simp only [System.proceed, hc] at ht
    cases ht
  | waiting =>
    simp only [System.proceed, hc] at ht
    split at ht
    · cases ht
    · cases ht
      rw [System.calls, System.calls, hc]
      rfl
  | testing =>
    simp only [System.proceed, hc, Option.some.injEq] at ht
    rw [← ht, System.calls, System.calls, hc]
    rfl
  | created ready =>
    simp only [System.proceed, hc, Option.some.injEq] at ht
    rw [← ht, System.calls, System.calls, hc]
    cases ready <;> rfl
  | called =>
    simp only [System.proceed, hc, Option.some.injEq] at ht
    rw [← ht, System.calls.eq_1 s, hc]
    split <;> rfl
  | reading =>
    simp only [System.proceed, hc, Option.some.injEq] at ht
    rw [← ht, calls_read hc, System.calls, hc]
    rfl
  | lookingAhead p =>
    simp only [System.proceed, hc, Option.some.injEq] at ht
    rw [← ht, calls_lookAhead p, System.calls, hc]
    rfl
  | settling p =>
    simp only [System.proceed, hc, Option.some.injEq] at ht
    rw [← ht, calls_settle p, System.calls, hc]
    rfl

lemma calls_step (ht : s.step l = some t) : t.calls = s.calls + if l == .call then 1 else 0 := by
  unfold System.step at ht
  split at ht
  · cases ht
  cases l with
  | call =>
    simp only at ht
    split at ht
    · rename_i hc
      cases ht
      rw [System.calls, System.calls, hc]
      rfl
    · cases ht
  | setState ok =>
    simp only at ht
    split at ht
    · rename_i hc
      cases ht
      rw [System.calls, System.calls, hc]
      cases ok <;> rfl
    · cases ht
  | proceed => exact calls_proceed ht
  | storeReady =>
    simp only at ht
    split at ht
    · cases ht
      rfl
    · cases ht
  | busError | busEos | padAdded type streamId | noMorePads =>
    cases ht
    rfl

-- every call has one result, but for the one that is running
lemma calls_answered {objects : List GstMiniObject} {labels : List Label}
    (hrun : run System.step labels (start objects) = some s) :
    labels.count .call = s.results.length + s.caller.running :=
  ((run_counts hrun fun _ _ _ => calls_step).trans (Nat.zero_add _)).symm

end Answers

lemma reading_start (objects : List GstMiniObject) : Reading objects (start objects) := by
  refine ⟨rfl, fun _ => rfl, rfl, ?_, (by rintro _ ⟨⟩), .inr ?_, ?_⟩
  · rintro p (hp | hp) <;> cases hp
  · simp [System.reads, System.left, start, Caller.taken]
  · rintro (hp | hp) <;> cases hp

section Calls

variable {s : System}

/-- The thread of the caller, left alone, comes back from the library. -/
def Returns (s : System) : Prop :=
  ∃ n t, run System.step (List.replicate n .proceed) s = some t ∧ t.caller = .outside

lemma Returns.of_step {t : System} (h : s.step .proceed = some t) (ht : Returns t) : Returns s := by
  obtain ⟨n, u, hu, hc⟩ := ht
  exact ⟨n + 1, u, run_cons.mpr ⟨t, h, hu⟩, hc⟩

lemma settling_returns {p : Option GstDemuxerESPacket} (hc : s.caller = .settling p) : Returns s := by
  refine .of_step (t := s.settle p) ?_ ⟨0, _, rfl, ?_⟩
  · simp [System.step, System.proceed, hc]
  · cases p <;> rfl

-- the appsink has an object less with every turn
lemma lookingAhead_returns {p : Option GstDemuxerESPacket} (hc : s.caller = .lookingAhead p) : Returns s := by
  generalize ho : s.objects = objects
  induction objects generalizing s with
  | nil =>
    refine .of_step (t := s.lookAhead p) (by simp [System.step, System.proceed, hc]) (settling_returns (p := p) ?_)
    simp [System.lookAhead, ho, System.goTo]
  | cons o rest ih =>
    have hstep : s.step .proceed = some (s.lookAhead p) := by simp [System.step, System.proceed, hc]
    refine .of_step hstep ?_
    cases o with
    | sample x =>
      refine settling_returns (p := p) ?_
      simp [System.lookAhead, ho, System.goTo]
    | event e =>
      cases hb : (s.demuxer.appsinkHandleEvent e).1 with
      | true =>
        refine settling_returns (p := p) ?_
        simp [System.lookAhead, ho, System.goTo, hb]
      | false =>
        refine ih ?_ ?_
        · simp [System.lookAhead, ho, System.goTo, hb]
        · simp [System.lookAhead, ho, System.goTo, System.handleEvent, System.pull]

lemma reading_returns (hc : s.caller = .reading) : Returns s := by
  generalize ho : s.objects = objects
  induction objects generalizing s with
  | nil =>
    refine .of_step (t := s.read) (by simp [System.step, System.proceed, hc]) ?_
    unfold System.read
    split
    · exact lookingAhead_returns rfl
    · rw [ho]
      exact lookingAhead_returns rfl
  | cons o rest ih =>
    refine .of_step (t := s.read) (by simp [System.step, System.proceed, hc]) ?_
    unfold System.read
    split
    · exact lookingAhead_returns rfl
    · rw [ho]
      cases o with
      | sample x => exact lookingAhead_returns rfl
      | event e => exact ih hc rfl

def Caller.inRead : Caller → Prop
  | .called | .reading | .lookingAhead _ | .settling _ => True
  | _ => False

lemma inRead_returns (h : s.caller.inRead) : Returns s := by
  cases hc : s.caller with
  | called =>
    have hstep : s.step .proceed = some (if s.demuxer.state = .error then s.finish .error else s.goTo .reading) := by
      simp [System.step, System.proceed, hc]
    refine .of_step hstep ?_
    split
    · exact ⟨0, _, rfl, rfl⟩
    · exact reading_returns rfl
  | reading => exact reading_returns hc
  | lookingAhead p => exact lookingAhead_returns hc
  | settling p => exact settling_returns hc
  | starting | waiting | testing | created | null | outside =>
    rw [hc] at h
    exact h.elim

end Calls

/-- Every call that was made has its result, but for the one that is running. The packets returned are
the samples of the appsink in their order, one for each call that did not fail, each with the stream that
started last before it; what is not returned is in the hand of the running call, parked or yet to come. -/
structure Delivers (objects : List GstMiniObject) (labels : List Label) (s : System) : Prop where
  consumed : s.pulled.reverse.map Pulled.object ++ s.objects = objects
  calls : labels.count .call = s.results.length + s.caller.running
  kept : samplesOf objects = s.packets.map GstDemuxerESPacket.sample ++
    ((s.caller.hand.map GstDemuxerESPacket.sample).toList ++ s.pending.map Prod.fst ++ samplesOf s.objects)
  samples : s.packets.map GstDemuxerESPacket.sample = (samplesOf objects).take s.reads
  streams : s.packets.map GstDemuxerESPacket.delivery <+: delivered s.pulled
  shows : ∀ p ∈ s.packets, p.Shows
  errors : .error ∈ s.results → s.failed
  returns : s.caller.inRead → Returns s

lemma delivered_samples (l : List Pulled) :
    (delivered l).map Prod.fst = fullSamplesOf (l.reverse.map Pulled.object) := by
  induction l with
  | nil => rfl
  | cons p before ih =>
    rw [delivered, List.map_append, ih]
    cases h : p.object.sample? with
    | none => simp [fullSamplesOf, samplesOf, h]
    | some x =>
      cases hx : x.full with
      | true => simp [fullSamplesOf, samplesOf, h, hx, deliveryOf]
      | false => simp [fullSamplesOf, samplesOf, h, hx]

-- the samples that can become packets are in packets, at hand, or still to come
lemma Reading.split {objects : List GstMiniObject} {s : System} (h : Reading objects s) :
    fullSamplesOf objects = s.packets.map GstDemuxerESPacket.sample ++
      ((s.caller.hand.map GstDemuxerESPacket.sample).toList ++ s.pending.map Prod.fst ++ fullSamplesOf s.objects) := by
  have hall : fullSamplesOf objects = (delivered s.pulled).map Prod.fst ++ fullSamplesOf s.objects := by
    rw [delivered_samples, ← h.pulled]
    simp [fullSamplesOf, samplesOf]
  have hhand : ((s.caller.hand.map GstDemuxerESPacket.delivery).toList.map Prod.fst) =
      (s.caller.hand.map GstDemuxerESPacket.sample).toList := by
    cases s.caller.hand <;> rfl
  rw [hall, h.deliveries]
  simp only [List.map_append, List.map_map, hhand, List.append_assoc]
  rfl

lemma reads_eq (s : System) : s.reads = s.packets.length + s.results.count .noPacket := by
  rw [System.reads, System.packets, List.length_reverse]
  induction s.results with
  | nil => rfl
  | cons r l ih =>
    rw [List.countP_cons, List.count_cons, List.filterMap_cons, ih]
    cases r with
    | newPacket p | lastPacket p => simp [GstDemuxerESResult.packet?, Nat.add_right_comm]
    | noPacket => simp [GstDemuxerESResult.packet?, Nat.add_assoc]
    | error => simp [GstDemuxerESResult.packet?]

-- when as many calls were made as there are samples, none is left
lemma Reading.all {objects : List GstMiniObject} {s : System} (h : Reading objects s)
    (hle : (samplesOf objects).length ≤ s.reads) : s.packets.map GstDemuxerESPacket.sample = fullSamplesOf objects := by
  have hdone : s.left = 0 ∧ s.caller.hand = none := by
    rcases h.progress with hp | hp
    · exact hp
    · exact ⟨by omega, Caller.hand_of_taken (by omega)⟩
  obtain ⟨ho, hn⟩ : (samplesOf s.objects).length = 0 ∧ s.demuxer.pendingSample.toList.length = 0 := by
    have := hdone.1
    unfold System.left at this
    omega
  have hpend : s.pending = [] := by
    rw [System.pending, show s.demuxer.pendingSample = none by simpa using hn]
    rfl
  rw [h.split, hdone.2, hpend, fullSamplesOf, List.length_eq_zero_iff.mp ho]
  simp

lemma fullSamplesOf_eq {objects : List GstMiniObject} (h : ∀ x, .sample x ∈ objects → x.buffer.isSome) :
    fullSamplesOf objects = samplesOf objects := by
  refine List.filter_eq_self.mpr fun x hx => ?_
  obtain ⟨o, ho, hs⟩ := List.mem_filterMap.mp hx
  cases o with
  | event e => cases hs
  | sample y =>
    cases hs
    exact h x ho

lemma Reading.kept {objects : List GstMiniObject} {s : System} (h : Reading objects s)
    (hbuf : ∀ x, .sample x ∈ objects → x.buffer.isSome) :
    samplesOf objects = s.packets.map GstDemuxerESPacket.sample ++
      ((s.caller.hand.map GstDemuxerESPacket.sample).toList ++ s.pending.map Prod.fst ++ samplesOf s.objects) := by
  have hrest : ∀ x, .sample x ∈ s.objects → x.buffer.isSome := fun x hx =>
    hbuf x (h.pulled ▸ List.mem_append_right _ hx)
  rw [← fullSamplesOf_eq hbuf, ← fullSamplesOf_eq hrest]
  exact h.split

lemma Reading.samples {objects : List GstMiniObject} {s : System} (h : Reading objects s)
    (hbuf : ∀ x, .sample x ∈ objects → x.buffer.isSome) :
    s.packets.map GstDemuxerESPacket.sample = (samplesOf objects).take s.reads := by
  by_cases hle : (samplesOf objects).length ≤ s.reads
  · rw [h.all hle, List.take_of_length_le hle, fullSamplesOf_eq hbuf]
  · have hfull := h.split
    rw [fullSamplesOf_eq hbuf] at hfull
    have hlen : s.reads = (s.packets.map GstDemuxerESPacket.sample).length := by
      have hcount := congrArg List.length hfull
      have hreads := reads_eq s
      have hobj : (fullSamplesOf s.objects).length ≤ (samplesOf s.objects).length := List.length_filter_le _ _
      have hpend : s.pending.length ≤ s.demuxer.pendingSample.toList.length := by
        unfold System.pending
        cases hp : s.demuxer.pendingSample with
        | none => simp
        | some x => cases x.full <;> simp
      have hhand : (s.caller.hand.map GstDemuxerESPacket.sample).toList.length ≤ s.caller.taken := by
        cases hc : s.caller with
        | lookingAhead p | settling p => cases p <;> simp [Caller.hand, Caller.taken]
        | _ => simp [Caller.hand]
      simp only [List.length_append, List.length_map] at hcount ⊢
      rcases h.progress with ⟨hl, hh⟩ | hp
      · unfold System.left at hl
        rw [hh, Option.map_none, Option.toList_none, List.length_nil] at hcount
        omega
      · unfold System.left at hp
        omega
    rw [hfull, hlen, List.take_left']
    rfl

/-- Every call of `gst_demuxer_es_read_packet` returns, and as long as no ERROR is stored, the packets
are the samples in order, with their streams. -/
theorem packets_delivered (objects : List GstMiniObject) (labels : List Label) (s : System)
    (hbuf : ∀ x, .sample x ∈ objects → x.buffer.isSome)
    (hrun : run System.step labels (start objects) = some s) : Delivers objects labels s := by
  have h : Reading objects s := run_keeps hrun (fun _ _ _ ht h => h.step ht) (reading_start objects)
  refine ⟨h.pulled, calls_answered hrun, h.kept hbuf, h.samples hbuf, ?_, fun p hp => h.shows p (.inl hp), fun he =>
    h.errors (.inl he), inRead_returns⟩
  rw [h.deliveries, List.append_assoc]
  exact List.prefix_append _ _

-- two streams, an event in a row and a sample that is parked
def twoStreams : List GstMiniObject :=
  [.event (.streamStart "v"), .event .other, .sample ⟨some { data := [1] }⟩, .sample ⟨some { data := [2] }⟩,
    .event (.streamStart "a"), .event .streamGroupDone, .sample ⟨some { data := [3] }⟩]

def createdWithTwo : List Label :=
  [.setState true, .padAdded .video (some "v"), .padAdded .audio (some "a"), .noMorePads, .storeReady,
    .proceed, .proceed, .proceed]

-- a call that takes `n` steps
def readIn (n : Nat) : List Label := .call :: List.replicate n .proceed

theorem packets_delivered_twoStreams : ∃ s, run System.step
    (createdWithTwo ++ readIn 6 ++ readIn 4 ++ readIn 5) (start twoStreams) = some s ∧
    Delivers twoStreams (createdWithTwo ++ readIn 6 ++ readIn 4 ++ readIn 5) s := by
  have hrun : (run System.step (createdWithTwo ++ readIn 6 ++ readIn 4 ++ readIn 5) (start twoStreams)).isSome := by
    decide +kernel
  refine ⟨_, (Option.some_get hrun).symm, packets_delivered twoStreams _ _ ?_ (Option.some_get hrun).symm⟩
  intro x hx
  simp only [twoStreams, List.mem_cons, reduceCtorEq, GstMiniObject.sample.injEq, List.not_mem_nil, or_false,
    false_or] at hx
  rcases hx with rfl | rfl | rfl <;> rfl

end VkVideoParser.DemuxerES
