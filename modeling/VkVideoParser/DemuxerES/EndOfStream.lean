import VkVideoParser.DemuxerES.Packets

/-! The end of the stream is signalled in the stream, by every group of streams, and on the bus. The
last packet is told from the others when the signals come in time. -/

namespace VkVideoParser.DemuxerES

open Transitions Histories

variable {objects : List GstMiniObject} {s t : System} {l : Label}

def Caller.pulls : Caller → Bool
  | .reading | .lookingAhead _ => true
  | _ => false

def Caller.settles : Caller → Bool
  | .settling p => p.isSome
  | _ => false

namespace System

-- the packets that are still to be returned
def outstanding (s : System) : Nat :=
  s.caller.hand.toList.length + s.pending.length + (fullSamplesOf s.objects).length

-- the step handles an EOS message or a STREAM_GROUP_DONE
def signalsEos (s : System) : Label → Bool
  | .busEos => true
  | .proceed => s.caller.pulls && s.demuxer.pendingSample.isNone &&
      decide (s.objects.head? = some (.event .streamGroupDone))
  | _ => false

end System

/-- The signals of the end come when one packet is left at most, and before its state is tested; the
callback stores no READY over them. -/
structure EosInTime (s : System) (l : Label) : Prop where
  notEarly : s.signalsEos l → s.outstanding ≤ 1
  notLate : l = .proceed → s.caller.settles → s.outstanding = 1 → s.signalled
  notUndone : l = .storeReady → s.signalled = false

section Steps

lemma handleEvent_state {d : GstDemuxerES} {e : GstEvent} (h : e ≠ .streamGroupDone) :
    (d.appsinkHandleEvent e).2.state = d.state := by
  cases e with
  | streamStart streamId =>
    simp only [GstDemuxerES.appsinkHandleEvent]
    cases d.findStream streamId <;> rfl
  | streamGroupDone => exact absurd rfl h
  | other => rfl

lemma newPacket_state (d : GstDemuxerES) (x : GstSample) : (d.newPacket x).2.state = d.state := by
  unfold GstDemuxerES.newPacket
  split <;> rfl

/-- What a step does to the state word, and to the notes of signals and errors. -/
inductive Stores (s : System) : Label → System → Prop
  | nothing {l : Label} {t : System} (hs : t.demuxer.state = s.demuxer.state) (h : t.signalled = s.signalled)
    (hf : t.failed = s.failed) : Stores s l t
  | eos {l : Label} {t : System} (hl : s.signalsEos l) (hs : t.demuxer.state = .eos) (h : t.signalled)
    (hf : t.failed = s.failed) : Stores s l t
  | ready {t : System} (hs : t.demuxer.state = .ready) (h : t.signalled = s.signalled)
    (hf : t.failed = s.failed) : Stores s .storeReady t
  | error {t : System} (hs : t.demuxer.state = .error) (h : t.signalled = s.signalled) (hf : t.failed)
    (hc : t.caller = s.caller) : Stores s .busError t

-- pulling an event and handling it, wherever the caller goes then
lemma stores_event {e : GstEvent} {rest : List GstMiniObject} {c : Caller} (ho : s.objects = .event e :: rest)
    (hc : s.caller.pulls) (hn : s.demuxer.pendingSample = none) :
    Stores s .proceed (((s.pull (.event e) rest).handleEvent e).goTo c) := by
  by_cases he : e = .streamGroupDone
  · subst he
    refine .eos ?_ rfl ?_ rfl
    · simp [System.signalsEos, hc, hn, ho]
    · simp [System.handleEvent, System.goTo]
  · refine .nothing (handleEvent_state he) ?_ rfl
    simp [System.handleEvent, System.goTo, System.pull, he]

lemma stores_read (hc : s.caller = .reading) : Stores s .proceed s.read := by
  unfold System.read
  split
  · exact .nothing (newPacket_state _ _) rfl rfl
  · rename_i hn
    split
    · exact .nothing rfl rfl rfl
    · rename_i e rest ho
      have := stores_event (c := .reading) ho (by rw [hc]; rfl) hn
      rwa [show ((s.pull (.event e) rest).handleEvent e).goTo .reading = (s.pull (.event e) rest).handleEvent e by
        rw [← hc]; rfl] at this
    · exact .nothing (newPacket_state _ _) rfl rfl

lemma stores_lookAhead {p : Option GstDemuxerESPacket} (hc : s.caller = .lookingAhead p)
    (hn : s.demuxer.pendingSample = none) : Stores s .proceed (s.lookAhead p) := by
  unfold System.lookAhead
  split
  · exact .nothing rfl rfl rfl
  · rename_i e rest ho
    exact stores_event ho (by rw [hc]; rfl) hn
  · exact .nothing rfl rfl rfl

lemma stores_settle (p : Option GstDemuxerESPacket) : Stores s .proceed (s.settle p) := by
  cases p <;> exact .nothing rfl rfl rfl

lemma Reading.stores (h : Reading objects s) (ht : s.step l = some t) : Stores s l t := by
  unfold System.step at ht
  split at ht
  · cases ht
  cases l with
  | proceed =>
    simp only [System.proceed] at ht
    cases hc : s.caller with
    | starting | null | outside =>
      rw [hc] at ht
      cases ht
    | waiting =>
      simp only [hc] at ht
      split at ht
      · cases ht
      · cases ht
        exact .nothing rfl rfl rfl
    | called =>
      simp only [hc, Option.some.injEq] at ht
      rw [← ht]
      split <;> exact .nothing rfl rfl rfl
    | reading =>
      simp only [hc, Option.some.injEq] at ht
      exact ht ▸ stores_read hc
    | lookingAhead p =>
      simp only [hc, Option.some.injEq] at ht
      exact ht ▸ stores_lookAhead hc (h.lookingAhead p hc)
    | settling p =>
      simp only [hc, Option.some.injEq] at ht
      exact ht ▸ stores_settle p
    | testing | created ready =>
      simp only [hc, Option.some.injEq] at ht
      rw [← ht]
      exact .nothing rfl rfl rfl
  | setState ok | call =>
    simp only at ht
    split at ht
    · cases ht
      exact .nothing rfl rfl rfl
    · cases ht
  | busError =>
    cases ht
    exact .error rfl rfl rfl rfl
  | busEos =>
    cases ht
    exact .eos rfl rfl rfl rfl
  | padAdded | noMorePads =>
    cases ht
    exact .nothing rfl rfl rfl
  | storeReady =>
    simp only at ht
    split at ht
    · cases ht
      exact .ready rfl rfl rfl
    · cases ht

/-- What a step adds to the results. -/
inductive Answers (s : System) (l : Label) (t : System) : Prop
  | nothing (h : t.results = s.results)
  | failed (hl : l = .proceed) (hc : s.caller = .called) (he : s.demuxer.state = .error) (ht : t = s.finish .error)
  | settled (p : Option GstDemuxerESPacket) (hl : l = .proceed) (hc : s.caller = .settling p) (ht : t = s.settle p)

lemma results_read : s.read.results = s.results := by
  unfold System.read
  split
  · rfl
  · split <;> rfl

lemma results_lookAhead (p : Option GstDemuxerESPacket) : (s.lookAhead p).results = s.results := by
  unfold System.lookAhead
  split <;> rfl

lemma answers (ht : s.step l = some t) : Answers s l t := by
  unfold System.step at ht
  split at ht
  · cases ht
  cases l with
  | proceed =>
    simp only [System.proceed] at ht
    cases hc : s.caller with
    | starting | null | outside =>
      rw [hc] at ht
      cases ht
    | waiting =>
      simp only [hc] at ht
      split at ht
      · cases ht
      · cases ht
        exact .nothing rfl
    | called =>
      simp only [hc, Option.some.injEq] at ht
      split at ht
      · rename_i he
        exact .failed rfl hc he ht.symm
      · exact .nothing (ht ▸ rfl)
    | reading =>
      simp only [hc, Option.some.injEq] at ht
      exact .nothing (ht ▸ results_read)
    | lookingAhead p =>
      simp only [hc, Option.some.injEq] at ht
      exact .nothing (ht ▸ results_lookAhead p)
    | settling p =>
      simp only [hc, Option.some.injEq] at ht
      exact .settled p rfl hc ht.symm
    | testing | created ready =>
      simp only [hc, Option.some.injEq] at ht
      exact .nothing (ht ▸ rfl)
  | setState ok | call | storeReady =>
    simp only at ht
    split at ht
    · cases ht
      exact .nothing rfl
    · cases ht
  | busError | busEos | padAdded | noMorePads =>
    cases ht
    exact .nothing rfl

end Steps

lemma Reading.total (h : Reading objects s) :
    (fullSamplesOf objects).length = s.packets.length + s.outstanding := by
  rw [h.split]
  simp only [List.length_append, List.length_map, Option.length_toList, Option.isSome_map, System.outstanding]

lemma packets_le (ht : s.step l = some t) : s.packets.length ≤ t.packets.length := by
  cases answers ht with
  | nothing h => rw [System.packets, System.packets, h]
  | failed hl hc he ht =>
    rw [ht]
    exact le_rfl
  | settled p hl hc ht =>
    rw [ht, settle_packets, List.length_append]
    exact Nat.le_add_right _ _

-- the packets among some results
def countPackets (results : List GstDemuxerESResult) : Nat := (results.filterMap GstDemuxerESResult.packet?).length

/-- Of `n` packets the last one is marked as such, and no other. -/
def MarksLast (n : Nat) (before : List GstDemuxerESResult) (r : GstDemuxerESResult) : Prop :=
  ∀ p, (r = .lastPacket p → countPackets before + 1 = n) ∧ (r = .newPacket p → countPackets before + 1 ≠ n)

/-- What the signals of the end have done so far. -/
structure Timely (objects : List GstMiniObject) (s : System) : Prop where
  reading : Reading objects s
  sound : s.failed = false
  state : s.demuxer.state = .eos ↔ s.signalled
  few : s.signalled → s.outstanding ≤ 1
  marked : Always (MarksLast (fullSamplesOf objects).length) s.results

lemma timely_start (objects : List GstMiniObject) : Timely objects (start objects) :=
  ⟨reading_start objects, rfl, by simp [start], by simp [start], trivial⟩

lemma Timely.marks (h : Timely objects s) {p : GstDemuxerESPacket} (hc : s.caller = .settling (some p))
    (hlate : s.outstanding = 1 → s.signalled) :
    MarksLast (fullSamplesOf objects).length s.results
      (if s.demuxer.state = .eos then .lastPacket p else .newPacket p) := by
  have htotal := h.reading.total
  have hcount : s.packets.length = countPackets s.results := by
    rw [System.packets, List.length_reverse, countPackets]
  have hpos : 1 ≤ s.outstanding := by
    rw [System.outstanding, hc, Nat.add_assoc]
    exact Nat.le_add_right _ _
  rintro q
  constructor
  · intro hq
    split at hq
    · rename_i he
      have := h.few (h.state.mp he)
      omega
    · cases hq
  · intro hq hlast
    split at hq
    · cases hq
    · rename_i he
      exact he (h.state.mpr (hlate (by omega)))

lemma Timely.step (h : Timely objects s)
    (hgood : EosInTime s l) (hl : l ≠ .busError) (ht : s.step l = some t) : Timely objects t := by
  have hr := h.reading.step ht
  have hle : t.outstanding ≤ s.outstanding := by
    have h₁ := h.reading.total
    have h₂ := hr.total
    have h₃ := packets_le ht
    omega
  refine ⟨hr, ?_, ?_, ?_, ?_⟩
  · cases h.reading.stores ht with
    | nothing _ _ hf | ready _ _ hf => exact hf.trans h.sound
    | eos _ _ _ hf => exact hf.trans h.sound
    | error => exact absurd rfl hl
  · cases h.reading.stores ht with
    | nothing hs hsig =>
      rw [hs, hsig]
      exact h.state
    | eos hsig hs hset =>
      rw [hs, hset]
      simp
    | ready hs hsig =>
      rw [hs, hsig, hgood.notUndone rfl]
      simp
    | error => exact absurd rfl hl
  · intro hset
    cases h.reading.stores ht with
    | nothing hs hsig => exact hle.trans (h.few (hsig.symm.trans hset))
    | eos hsig => exact hle.trans (hgood.notEarly hsig)
    | ready hs hsig => exact hle.trans (h.few (hsig.symm.trans hset))
    | error => exact absurd rfl hl
  · cases answers ht with
    | nothing hres =>
      rw [hres]
      exact h.marked
    | failed _ _ _ ht =>
      rw [ht]
      exact ⟨by simp [MarksLast], h.marked⟩
    | settled p hl hc ht =>
      rw [ht]
      cases p with
      | none => exact ⟨by simp [MarksLast], h.marked⟩
      | some p =>
        refine ⟨h.marks hc fun hone => hgood.notLate hl ?_ hone, h.marked⟩
        rw [hc]
        rfl

/-- LAST_PACKET marks the final packet and no other, a call that is made returns with one result, and the
loop that waits for the mark has read every packet when it sees it, and does see it once it has made as many
calls as there are samples. -/
structure EndsWithLast (objects : List GstMiniObject) (labels : List Label) (s : System) : Prop where
  marked : Always (MarksLast (fullSamplesOf objects).length) s.results
  returns : s.caller.inRead → Returns s
  calls : labels.count .call = s.results.length + s.caller.running
  complete : ∀ p, .lastPacket p ∈ s.results → s.packets.map GstDemuxerESPacket.sample = fullSamplesOf objects
  stops : fullSamplesOf objects ≠ [] → (samplesOf objects).length ≤ s.results.length → ∃ p, .lastPacket p ∈ s.results

-- among `n` packets or more there is an `n`th
lemma exists_packet {n : Nat} {results : List GstDemuxerESResult} (hn : n < countPackets results) :
    ∃ before r p, r :: before <:+ results ∧ r.packet? = some p ∧ countPackets before = n := by
  induction results with
  | nil => cases hn
  | cons r l ih =>
    by_cases hl : n < countPackets l
    · obtain ⟨before, r', p, hs, hp, hc⟩ := ih hl
      exact ⟨before, r', p, hs.trans (List.suffix_cons r l), hp, hc⟩
    · cases hp : r.packet? with
      | none =>
        rw [countPackets, List.filterMap_cons_none hp] at hn
        exact absurd hn hl
      | some p =>
        rw [countPackets, List.filterMap_cons_some hp, List.length_cons] at hn
        exact ⟨l, r, p, List.suffix_rfl, hp, le_antisymm (Nat.not_lt.mp hl) (Nat.lt_succ_iff.mp hn)⟩

lemma countPackets_le {l l' : List GstDemuxerESResult} (h : l <:+ l') : countPackets l ≤ countPackets l' :=
  (h.sublist.filterMap _).length_le

-- no error was stored, so no call failed
lemma Timely.reads (h : Timely objects s) : s.reads = s.results.length := by
  refine List.countP_eq_length.mpr fun r hr => decide_eq_true ?_
  rintro rfl
  exact Bool.false_ne_true (h.sound.symm.trans (h.reading.errors (.inl hr)))

lemma Timely.ends {labels : List Label} (h : Timely objects s)
    (hcalls : labels.count .call = s.results.length + s.caller.running) : EndsWithLast objects labels s := by
  have hcount : s.packets.length = countPackets s.results := by
    rw [System.packets, List.length_reverse, countPackets]
  refine ⟨h.marked, inRead_returns, hcalls, fun p hp => ?_, fun hne hle => ?_⟩
  · obtain ⟨before, after, hs⟩ := List.append_of_mem hp
    have hsuffix : .lastPacket p :: after <:+ s.results := ⟨before, hs.symm⟩
    have hlast := ((always_iff.mp h.marked _ _ hsuffix) p).1 rfl
    have hmore : countPackets (.lastPacket p :: after) ≤ countPackets s.results := countPackets_le hsuffix
    have hone : countPackets (.lastPacket p :: after) = countPackets after + 1 := rfl
    have htotal := h.reading.total
    refine List.IsPrefix.eq_of_length ?_ (by rw [List.length_map]; omega)
    rw [h.reading.split]
    exact List.prefix_append _ _
  · have hall : (fullSamplesOf objects).length = s.packets.length := by
      rw [← h.reading.all (hle.trans_eq h.reads.symm), List.length_map]
    have hpos := List.length_pos_iff.mpr hne
    obtain ⟨before, r, p, hsuffix, hp, hc⟩ :=
      exists_packet (n := (fullSamplesOf objects).length - 1) (by omega : _ < countPackets s.results)
    have hmark := (always_iff.mp h.marked _ _ hsuffix) p
    refine ⟨p, hsuffix.subset ?_⟩
    cases r with
    | lastPacket q =>
      cases hp
      exact List.mem_cons_self
    | newPacket q =>
      cases hp
      exact absurd (by omega) (hmark.2 rfl)
    | noPacket | error => cases hp

/-- Without errors, and with the signals in time, the final packet alone is returned as the last. -/
theorem last_packet_last (objects : List GstMiniObject) (labels : List Label) (s : System)
    (herr : .busError ∉ labels)
    (hgood : Along System.step EosInTime labels (start objects))
    (hrun : run System.step labels (start objects) = some s) : EndsWithLast objects labels s := by
  have hgood' := hgood.and_of_mem (p := fun l => l ≠ .busError) fun l hl he => herr (he ▸ hl)
  exact (hgood'.keeps hrun (fun s l t hg ht h => h.step hg.1 hg.2 ht) (timely_start objects)).ends
    (calls_answered hrun)

instance : Decidable (EosInTime s l) :=
  decidable_of_iff ((s.signalsEos l → s.outstanding ≤ 1) ∧
      (l = .proceed → s.caller.settles → s.outstanding = 1 → s.signalled) ∧ (l = .storeReady → s.signalled = false))
    ⟨fun h => ⟨h.1, h.2.1, h.2.2⟩, fun h => ⟨h.notEarly, h.notLate, h.notUndone⟩⟩

def someSample (n : UInt8) : GstMiniObject := .sample ⟨some { data := [n] }⟩

def oneGroup : List GstMiniObject :=
  [.event (.streamStart "v"), someSample 1, someSample 2, .event .streamGroupDone]

theorem last_packet_last_oneGroup : ∃ s, run System.step (createdWithTwo ++ readIn 5 ++ readIn 4) (start oneGroup) =
    some s ∧ EndsWithLast oneGroup (createdWithTwo ++ readIn 5 ++ readIn 4) s := by
  have hrun : (run System.step (createdWithTwo ++ readIn 5 ++ readIn 4) (start oneGroup)).isSome := by
    decide +kernel
  refine ⟨_, (Option.some_get hrun).symm, last_packet_last oneGroup _ _ (by decide +kernel) (by decide +kernel)
    (Option.some_get hrun).symm⟩

-- two streams that end one after the other
def twoGroups : List GstMiniObject :=
  [.event (.streamStart "v"), someSample 1, .event .streamGroupDone, .event (.streamStart "a"), someSample 2,
    .event .streamGroupDone]

def firstOfTwo : GstDemuxerESPacket where
  sample := ⟨some { data := [1] }⟩
  streamType := .video
  streamId := 0
  packetNumber := 0
  pts := 0
  dts := 0
  duration := 0
  data := [1]
  dataSize := 1

def firstOfTwoEnd : System := (run System.step (createdWithTwo ++ readIn 5) (start twoGroups)).getD (start [])

theorem last_packet_early : run System.step (createdWithTwo ++ readIn 5) (start twoGroups) = some firstOfTwoEnd ∧
    ¬EndsWithLast twoGroups (createdWithTwo ++ readIn 5) firstOfTwoEnd := by
  refine ⟨by decide +kernel, fun h => ?_⟩
  have hlast : .lastPacket firstOfTwo ∈ firstOfTwoEnd.results := by decide +kernel
  exact absurd (h.complete firstOfTwo hlast) (by decide +kernel)

end VkVideoParser.DemuxerES
