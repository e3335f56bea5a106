import VkVideoParser.H264.Announcements
import VkVideoParser.H264.Bitstream
import VkVideoParser.H264.Sequence
import VkVideoParser.H265.Announcements
import VkVideoParser.H265.Bitstream
import VkVideoParser.H265.Sequence

/-! What holds of both decoders: the announcements, and the slices that DecodePicture is given. -/

namespace VkVideoParser

open Execution Histories

/-- The H.264 decoder announces the sets that are parsed, once and in order, and no other. So does the
H.265 decoder if and only if no VPS or PPS in the stream failed and the codec data had no PPS. -/
theorem announcements_traced {P P' : Type} (env : H264.Env P) (env' : H265.Env P') (inputs : List H264.Input)
    (inputs' : List H265.Input) :
    H264.announcedSets (final (H264.runInputs env inputs (H264.Decoder.start env))).store.log =
        H264.parsedSets (final (H264.runInputs env inputs (H264.Decoder.start env))).store.log ∧
      (H265.announcedSets (final (H265.runInputs env' inputs' (H265.Decoder.start env'))).store.log =
          H265.parsedSets (final (H265.runInputs env' inputs' (H265.Decoder.start env'))).store.log ↔
        ∀ e ∈ (final (H265.runInputs env' inputs' (H265.Decoder.start env'))).store.log, e.announcedRight) :=
  ⟨H264.announced_parsed env inputs, H265.announced_parsed env' inputs'⟩

namespace H265

/-- One frame with a PPS that the parser does not read. -/
def failedPpsEnd : Decoder Tables :=
  final (runInputs (Script.env {}) (Script.frames [[Script.ppsUnit 0]]) (Decoder.start (Script.env {})))

theorem failedPps_announced : announcedSets failedPpsEnd.store.log ≠ parsedSets failedPpsEnd.store.log := by
  decide +kernel

end H265

/-- What the H.264 decoder shows of a set does not depend on the run. What the H.265 decoder shows of a VPS or
PPS does not either; two runs show the same of an SPS if and only if it finds the same in the slot. -/
theorem announcements_independent {P P' : Type} (env₁ env₂ : H264.Env P) (env₁' env₂' : H265.Env P')
    (inputs₁ inputs₂ : List H264.Input) (inputs₁' inputs₂' : List H265.Input) :
    Always (fun _ e => Always (fun _ e' => H264.SameShown e e')
        (final (H264.runInputs env₂ inputs₂ (H264.Decoder.start env₂))).store.log)
      (final (H264.runInputs env₁ inputs₁ (H264.Decoder.start env₁))).store.log ∧
    Always (fun l e => Always (fun l' e' => H265.SameShown e e' ↔ H265.FindsSame l e l' e')
        (final (H265.runInputs env₂' inputs₂' (H265.Decoder.start env₂'))).store.log)
      (final (H265.runInputs env₁' inputs₁' (H265.Decoder.start env₁'))).store.log := by
  refine ⟨(H264.always_showsSet env₁ inputs₁).mono fun l e h => ?_, (H265.always_showsSet env₁' inputs₁').mono fun l e h => ?_⟩
  · exact (H264.always_showsSet env₂ inputs₂).mono fun l' e' h' => h.same h'
  · exact (H265.always_showsSet env₂' inputs₂').mono fun l' e' h' => h.same_iff h'

namespace H265

/-- A VPS, one with other buffering limits, and an SPS. -/
def bufferingScript : Script :=
  { vps := [{ maxDecPicBufferingMinus1 := [1] }, { maxDecPicBufferingMinus1 := [4] }]
    sps := [{ vps := some 0 }] }

def bufferingEnd (vps : Nat) : Decoder Tables :=
  final (runInputs bufferingScript.env (Script.frames [[Script.vpsUnit vps, Script.spsUnit 0]])
    (Decoder.start bufferingScript.env))

theorem buffering_shows : ¬Always (fun _ e => Always (fun _ e' => SameShown e e') (bufferingEnd 1).store.log)
    (bufferingEnd 0).store.log := by
  decide +kernel

end H265

/-- At every DecodePicture call of either decoder for a picture that follows its sequence, the sequence begun last
describes the SPS that the picture activates. -/
theorem sequences_agree {P P' : Type} (env : H264.Env P) (env' : H265.Env P') (inputs : List H264.Input)
    (inputs' : List H265.Input) :
    Always H264.SequenceFits (H264.clientCalls env inputs) ∧
      Always H265.SequenceFits (final (H265.runInputs env' inputs' (H265.Decoder.start env'))).store.log :=
  ⟨H264.always_sequenceFits env inputs, H265.always_sequenceFits env' inputs'⟩

namespace H264

/-- The picture activates the first of two SPSs. -/
def twoSpsScript : Script :=
  { sps := [Script.progressive, { Script.progressive with id := 1, width := 2 * Script.progressive.width }]
    pps := [{}]
    slices := [{}] }

def twoSpsInputs (sets : List GstH264NalUnit) : List Input :=
  Script.frames [sets ++ [Script.ppsUnit 0, Script.idrUnit 0]]

def twoSpsEnd (sets : List GstH264NalUnit) : Decoder Tables :=
  final (runInputs twoSpsScript.env (twoSpsInputs sets) (Decoder.start twoSpsScript.env))

theorem twoSps_disagree : ¬Always (fun l e => ∀ p ∈ e.decodedPicture, SequenceAgrees l p)
    (calls (twoSpsEnd [Script.spsUnit 0, Script.spsUnit 1]).store.log) := by
  decide +kernel

def lastSpsEnd : Decoder Tables := twoSpsEnd [Script.spsUnit 1, Script.spsUnit 0]

end H264

namespace H265

/-- The picture activates the second of two SPSs. -/
def twoSpsScript : Script where
  vps := [{}]
  sps := [{ vps := some 0, width := 32, height := 16 }, { vps := some 0, width := 16, height := 16 }]
  pps := [{}]
  slices := [{ firstSliceSegmentInPicFlag := true }]

def twoSpsInputs : List Input :=
  Script.frames [[Script.vpsUnit 0, Script.spsUnit 0, Script.spsUnit 1, Script.ppsUnit 0, Script.idrUnit 0]]

def twoSpsEnd : Decoder Tables := final (runInputs twoSpsScript.env twoSpsInputs (Decoder.start twoSpsScript.env))

end H265

-- a picture follows the sequence of the SPS received last
theorem sequences_agree_lastSps :
    (H264.lastSpsEnd.store.log.any fun e => e.decodedPicture.isSome) ∧
    (H265.twoSpsEnd.store.log.any fun e => e.decodedPicture.isSome) ∧
    Always (fun l e => ∀ p ∈ e.decodedPicture, H264.SequenceAgrees l p) (H264.calls H264.lastSpsEnd.store.log) ∧
    Always (fun l e => ∀ p ∈ e.decodedPicture, H265.SequenceAgrees l p) H265.twoSpsEnd.store.log := by
  -- over variables, as Always of a run would be evaluated
  have hagree : ∀ (env : H264.Env H264.Tables) (env' : H265.Env H265.Tables) inputs inputs' s s',
      s = final (H264.runInputs env inputs (H264.Decoder.start env)) →
      s' = final (H265.runInputs env' inputs' (H265.Decoder.start env')) →
      Always (fun l e => ∀ p ∈ e.decodedPicture, H264.SequenceFollows l p) (H264.calls s.store.log) →
      Always (fun l e => ∀ p ∈ e.decodedPicture, H265.SequenceFollows l p) s'.store.log →
      Always (fun l e => ∀ p ∈ e.decodedPicture, H264.SequenceAgrees l p) (H264.calls s.store.log) ∧
        Always (fun l e => ∀ p ∈ e.decodedPicture, H265.SequenceAgrees l p) s'.store.log := by
    rintro env env' inputs inputs' s s' rfl rfl hfollow hfollow'
    have hfits := sequences_agree env env' inputs inputs'
    refine ⟨(hfits.1.and hfollow).mono fun _ _ h p hp => ?_, (hfits.2.and hfollow').mono fun _ _ h p hp => ?_⟩
    · exact h.1 p hp (h.2 p hp)
    · exact h.1 p hp (h.2 p hp)
  refine ⟨by decide +kernel, by decide +kernel, ?_⟩
  exact hagree H264.twoSpsScript.env H265.twoSpsScript.env
    (H264.twoSpsInputs [H264.Script.spsUnit 1, H264.Script.spsUnit 0]) H265.twoSpsInputs H264.lastSpsEnd H265.twoSpsEnd
    rfl rfl (by decide +kernel) (by decide +kernel)

/-- At every DecodePicture call of either decoder, the data are the slices of the picture, each behind a start
code, and the offsets cut them apart. -/
theorem slices_assembled {P P' : Type} (env : H264.Env P) (env' : H265.Env P') (inputs : List H264.Input)
    (inputs' : List H265.Input) :
    Always H264.ShowsSlices (H264.clientCalls env inputs) ∧
      Always H265.ShowsSlices (final (H265.runInputs env' inputs' (H265.Decoder.start env'))).store.log :=
  ⟨H264.slices_shown env inputs, H265.slices_shown env' inputs'⟩

end VkVideoParser
