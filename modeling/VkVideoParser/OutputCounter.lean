import VkVideoParser.H264.OutputCount
import VkVideoParser.H264.Script
import VkVideoParser.H265.RandomAccess

/-! The counters of the pictures that are to be output, in both decoders. -/

namespace VkVideoParser

open Execution Relation

namespace H265.Store

variable {a : Store} {l : List PicId}

/-- What the counter says of the next bump, and of the decision to make one. -/
structure CountsOutput (a : Store) (drain : Bool) (maxNumReorderPics maxLatencyIncrease maxDecPicBuffering : Nat) : Prop where
  counted : a.dpb.numOutputNeeded = a.dpb.picList.countP fun q => (a.pic q).neededForOutput
  nonneg : 0 ≤ a.dpb.numOutputNeeded
  found : (a.dpbBump drain).1 ≠ none ↔ 0 < a.dpb.numOutputNeeded
  bumped : 0 ≤ (a.dpbBump drain).2.dpb.numOutputNeeded
  needsBump : a.dpbNeedsBump maxNumReorderPics maxLatencyIncrease maxDecPicBuffering ≠ .error .assertion

lemma Stocked.nonneg (h : Stocked l a) : 0 ≤ a.dpb.numOutputNeeded := by
  rw [h.count]
  exact Int.natCast_nonneg _

lemma Stocked.found (h : Stocked l a) (drain : Bool) : (a.dpbBump drain).1 ≠ none ↔ 0 < a.dpb.numOutputNeeded := by
  rw [h.count, Int.natCast_pos, List.countP_pos_iff]
  constructor
  · intro hb
    obtain ⟨p, hp⟩ := Option.ne_none_iff_exists'.mp hb
    obtain ⟨i, hbumped⟩ := bumped_of_some hp
    exact ⟨p, List.mem_of_getElem? hbumped.lowest.place, hbumped.lowest.waiting⟩
  · rintro ⟨p, hp, hw⟩ hb
    rw [none_waits (bump_eq_none hb).1 p hp] at hw
    cases hw

lemma needsBump_ok {n l d : Nat} (h : 0 ≤ a.dpb.numOutputNeeded) : a.dpbNeedsBump n l d ≠ .error .assertion := by
  unfold dpbNeedsBump
  rw [if_neg (Int.not_lt.mpr h)]
  split_ifs <;> simp

lemma Stocked.countsOutput (h : Stocked l a) (drain : Bool) (n m d : Nat) : a.CountsOutput drain n m d := by
  refine ⟨h.count, h.nonneg, h.found drain, ?_, needsBump_ok h.nonneg⟩
  cases hb : (a.dpbBump drain).1 with
  | none => rw [(bump_eq_none hb).2]; exact h.nonneg
  | some p =>
    obtain ⟨i, hbumped⟩ := bumped_of_some hb
    exact (h.bumped hbumped (keeps_dpbBump drain a).next).nonneg

end H265.Store

/-- In every state of a run the counters say how many frames wait, so that a bump finds one when there is one, and of
the assertions only the one about the last order count can fail. -/
theorem outputCounters {P Q : Type} (env : H264.Env P) (env' : H265.Env Q) (x : H264.Phase × H264.Decoder P)
    (z : H265.Phase × H265.Decoder Q) (hx : ReflTransGen (H264.Act env) (H264.Phase.idle, H264.Decoder.start env) x)
    (hz : ReflTransGen (H265.Act env') (H265.Phase.idle, H265.Decoder.start env') z) (drain : Bool)
    (toInsert : Option H264.Picture) (mode : H264.BumpMode) (maxNumReorderPics maxLatencyIncrease maxDecPicBuffering : Nat) :
    x.2.store.OutputCounted drain ∧
      (x.2.store.CountsOutput drain toInsert mode ↔ ¬x.2.store.LastCountFull mode) ∧
      z.2.store.CountsOutput drain maxNumReorderPics maxLatencyIncrease maxDecPicBuffering := by
  have hcount := H264.tallied_reach hx
  exact ⟨hcount.outputCounted drain, hcount.countsOutput_iff,
    H265.Store.Stocked.countsOutput (H265.stocked_of_reach hz) drain _ _ _⟩

section Examples

open H264

-- the pictures after the first one are no references, and have the greatest order count
def fullScript : Script where
  sps := [{ Script.progressive with picOrderCntType := 1 }]
  pps := [{}]
  slices := [{}, { frameNum := 1, deltaPicOrderCnt0 := int32Max }]

def fullInputs : List Input :=
  Script.frames [[Script.spsUnit 0, Script.ppsUnit 0, Script.idrUnit 0], [Script.sliceUnit 1 0], [Script.sliceUnit 1 0]]

def fullEnd : H264.Decoder Tables := final (runInputs fullScript.env fullInputs (Decoder.start fullScript.env))

def nextFull : Picture := { picOrderCnt := int32Max }

theorem outputCounters_bumped : fullEnd.store.OutputCounted true ∧
    H265.waitingEnd.store.CountsOutput true 2 0 0 := by
  obtain ⟨k, hk⟩ := H264.reach_final fullScript.env fullInputs
  obtain ⟨k', hk'⟩ := H265.reach_final H265.waitingScript.env H265.waitingInputs
  have h := outputCounters fullScript.env H265.waitingScript.env _ _ hk hk' true none .normalLatency 2 0 0
  exact ⟨h.1, h.2.2⟩

-- the picture output last was one of them, and so is the one that waits; the next one is not survived
theorem outputCounter_full :
    fullEnd.store.dpbNeedsBump (some nextFull) (getBumpLevel fullScript.env fullEnd) = .error .assertion ∧
      completed (runInputs fullScript.env fullInputs (Decoder.start fullScript.env)) = true ∧
      completed (runInputs fullScript.env (fullInputs ++ [.handleFrame [Script.sliceUnit 1 0] 1])
        (Decoder.start fullScript.env)) = false := by
  decide +kernel

end Examples

end VkVideoParser
