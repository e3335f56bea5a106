import VkVideoParser.H265.Shown
import VkVideoParser.H265.Script

/-! The limits for a bump. Two of them are read from the active SPS, that for the latency was kept when an SPS was
processed. -/

namespace VkVideoParser.H265

open Execution Relation Histories

variable {P : Type} {env : Env P} {s t : Decoder P} {x y : Phase × Decoder P} {log : List Event}

/-- The SPS limits the latency of its highest sub-layer. -/
def limitsLatency (sps : GstH265SPS) : Bool := highest sps sps.maxLatencyIncreasePlus1 ≠ 0

-- SpsMaxLatencyPictures; 0 stands for no limit
def spsMaxLatencyPictures (sps : GstH265SPS) : Nat :=
  if limitsLatency sps then highest sps sps.maxNumReorderPics + highest sps sps.maxLatencyIncreasePlus1 - 1 else 0

/-- The SPS processed last of those that limit the latency. -/
def latestLimited : List Event → Option GstH265SPS
  | [] => none
  | .processSps sps :: l => if limitsLatency sps then some sps else latestLimited l
  | _ :: l => latestLimited l

-- the limit as a guint32
def keptLatency (log : List Event) : Nat := ((latestLimited log).map fun sps => spsMaxLatencyPictures sps % 2 ^ 32).getD 0

lemma latestLimited_cons {e : Event} (he : e.isShown = false) : latestLimited (e :: log) = latestLimited log := by
  cases e <;> first | rfl | cases he

lemma setLatency_spsMaxLatencyPictures (sps : GstH265SPS) (s : Decoder P) :
    (s.setLatency sps).spsMaxLatencyPictures =
      if limitsLatency sps then spsMaxLatencyPictures sps % 2 ^ 32 else s.spsMaxLatencyPictures := by
  unfold Decoder.setLatency spsMaxLatencyPictures limitsLatency
  by_cases h : highest sps sps.maxLatencyIncreasePlus1 = 0
  · simp [h]
  · simp only [ne_eq, h, not_false_eq_true, if_true, decide_true]
    omega

/-- The limits looked at are those of the active SPS, that for the latency the one kept last. -/
def KeptLimits (log : List Event) : Event → Prop
  | .bumping info => ∃ sps, info.sps = some sps ∧ info.maxNumReorderPics = highest sps sps.maxNumReorderPics ∧
      info.maxDecPicBuffering = info.site.maxDecPicBuffering sps ∧ info.maxLatencyIncrease = keptLatency log
  | _ => True

structure Limited (s : Decoder P) : Prop where
  latency : s.spsMaxLatencyPictures = keptLatency s.store.log
  looks : Always KeptLimits s.store.log

lemma Shows.limited (h : Shows env s t) (hs : Limited s) : Limited t := by
  cases h with
  | quiet h =>
    refine ⟨h.spsMaxLatencyPictures.trans (hs.latency.trans ?_), h.always (fun e _ he => ?_) hs.looks⟩
    · exact (h.read fun e l he => by rw [keptLatency, latestLimited_cons he, keptLatency]).symm
    · cases e <;> trivial
  | count h => exact ⟨hs.latency, trivial, hs.looks⟩
  | @process sps n h =>
    refine ⟨?_, trivial, hs.looks⟩
    have hn : n = (s.setLatency sps).spsMaxLatencyPictures := by rw [h]; rfl
    change n = ((if limitsLatency sps then some sps else latestLimited s.store.log).map _).getD 0
    rw [hn, setLatency_spsMaxLatencyPictures]
    split
    · rfl
    · exact hs.latency
  | look h =>
    obtain ⟨sps, hsps, hreorder, hbuffering⟩ := h
    exact ⟨hs.latency, ⟨sps, hsps, hreorder, hbuffering, hs.latency⟩, hs.looks⟩

/-- The latency limit is that of the active SPS. -/
def LatencyFits (log : List Event) (sps : GstH265SPS) : Prop :=
  match latestLimited log with
  | some sps' => spsMaxLatencyPictures sps' % 2 ^ 32 = spsMaxLatencyPictures sps
  | none => spsMaxLatencyPictures sps = 0

/-- In every run the limits for reordering and buffering are those of the active SPS, and so is that for the latency
exactly when the SPS processed last of those that limit it has the same limit. -/
theorem bumping_limits_iff (env : Env P) (inputs : List Input) :
    Always (fun log e => ∀ info, e = .bumping info → ∃ sps, info.sps = some sps ∧
      info.maxNumReorderPics = highest sps sps.maxNumReorderPics ∧
      info.maxDecPicBuffering = info.site.maxDecPicBuffering sps ∧
      (info.maxLatencyIncrease = spsMaxLatencyPictures sps ↔ LatencyFits log sps))
      (final (runInputs env inputs (Decoder.start env))).store.log := by
  obtain ⟨k, hk⟩ := reach_final env inputs
  have hlimited : Limited (k, final (runInputs env inputs (Decoder.start env))).2 :=
    kept (I := fun x : Phase × Decoder P => Limited x.2) (fun _ _ h => h.shows.limited) hk ⟨rfl, trivial⟩
  refine hlimited.looks.mono ?_
  rintro log _ h info rfl
  obtain ⟨sps, hsps, hreorder, hbuffering, hlatency⟩ := h
  refine ⟨sps, hsps, hreorder, hbuffering, ?_⟩
  rw [hlatency, keptLatency, LatencyFits]
  cases latestLimited log with
  | none => exact eq_comm
  | some sps' => exact Iff.rfl

section Examples

-- whether the active SPS limits the latency, and the limit looked at
def latencies (log : List Event) : List (Option Bool × Nat) := log.filterMap fun
  | .bumping info => some (info.sps.map limitsLatency, info.maxLatencyIncrease)
  | _ => none

def limitedSps : GstH265SPS := { id := 1, vps := some 0, maxLatencyIncreasePlus1 := [5] }

def unlimitedSps : GstH265SPS := { vps := some 0, maxLatencyIncreasePlus1 := [0] }

def latencyScript : Script where
  vps := [{}]
  sps := [unlimitedSps, limitedSps]
  pps := [{}]
  slices := [{ firstSliceSegmentInPicFlag := true }]

-- the same IDR picture with the same sets, once after an SPS that no slice activates
def latencyEnd (sets : List GstH265NalUnit) : Decoder Tables :=
  final (runInputs latencyScript.env
    (Script.frames [Script.vpsUnit 0 :: sets ++ [Script.ppsUnit 0, Script.idrUnit 0]]) (Decoder.start latencyScript.env))

theorem bumping_staleLimit :
    latencies (latencyEnd [Script.spsUnit 0]).store.log = List.replicate 3 (some false, 0) ∧
      latencies (latencyEnd [Script.spsUnit 1, Script.spsUnit 0]).store.log = List.replicate 3 (some false, 4) := by
  decide +kernel

end Examples

end VkVideoParser.H265
