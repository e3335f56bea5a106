import VkVideoParser.H264.Calls
import VkVideoParser.H264.Script
import VkVideoParser.H265.Bitstream

/-! The timestamps of the pictures that are displayed. They count from the number that a frame got when it was
handed in, in decoding order. -/

namespace VkVideoParser

open Execution Relation

/-- Where a frame begins when the frames are shown as they were handed in, in nanoseconds, a number of 64 bits. -/
def VideoCodecFrame.begins (frame : VideoCodecFrame) : Nat := frame.systemFrameNumber * frame.duration % 2 ^ 64

/-- A call of DisplayPicture, with the frame it is for. -/
structure Display where
  picture : PicId
  frame : VideoCodecFrame
  timestamp : Nat
  deriving DecidableEq

def Display.Timed (a : Display) : Prop := a.timestamp = a.frame.begins / 100

/-- The timestamps of the calls, newest first, increase strictly. -/
def Increasing (displays : List Display) : Prop := displays.Pairwise fun b a => a.timestamp < b.timestamp

instance (displays : List Display) : Decidable (Increasing displays) := inferInstanceAs (Decidable (List.Pairwise ..))

/-- The frames that are displayed later were handed in later. -/
def InDecodingOrder (displays : List Display) : Prop :=
  displays.Pairwise fun b a => a.frame.systemFrameNumber < b.frame.systemFrameNumber

/-- The frames have the duration `d` and begin at a number of 64 bits. -/
def OfDuration (d : Nat) (displays : List Display) : Prop :=
  ∀ a ∈ displays, a.frame.duration = d ∧ a.frame.systemFrameNumber * d < 2 ^ 64

/-- When the timestamps of frames of one duration increase. Whatever the duration, they are then displayed in decoding
order. This is enough when a frame lasts a tick of the timestamps, 100 ns, or more; a tick has to begin between two
shorter ones. -/
structure TimestampsFollow (displays : List Display) : Prop where
  necessary : ∀ d, OfDuration d displays → Increasing displays → InDecodingOrder displays
  numbers : ∀ d, 100 ≤ d → OfDuration d displays → (Increasing displays ↔ InDecodingOrder displays)
  short : ∀ d, OfDuration d displays → (Increasing displays ↔ displays.Pairwise fun b a =>
    ∃ tick, a.frame.systemFrameNumber * d < 100 * tick ∧ 100 * tick ≤ b.frame.systemFrameNumber * d)

variable {a b : Display} {displays : List Display} {d : Nat}

lemma Display.Timed.eq (ha : a.Timed) (hd : a.frame.duration = d ∧ a.frame.systemFrameNumber * d < 2 ^ 64) :
    a.timestamp = a.frame.systemFrameNumber * d / 100 := by
  rw [show a.timestamp = _ from ha, VideoCodecFrame.begins, hd.1, Nat.mod_eq_of_lt hd.2]

lemma Display.Timed.lt_iff (ha : a.Timed) (hb : b.Timed) (hd : OfDuration d displays) (hma : a ∈ displays)
    (hmb : b ∈ displays) : a.timestamp < b.timestamp ↔
      ∃ tick, a.frame.systemFrameNumber * d < 100 * tick ∧ 100 * tick ≤ b.frame.systemFrameNumber * d := by
  rw [ha.eq (hd a hma), hb.eq (hd b hmb)]
  constructor
  · intro h
    exact ⟨b.frame.systemFrameNumber * d / 100, by omega, by omega⟩
  · rintro ⟨tick, hbefore, hafter⟩
    omega

-- from one frame to the next there is a tick
lemma exists_tick {n m : Nat} (hd : 100 ≤ d) (h : n < m) : ∃ tick, n * d < 100 * tick ∧ 100 * tick ≤ m * d := by
  have hstep : (n + 1) * d ≤ m * d := Nat.mul_le_mul_right d h
  rw [Nat.add_mul, Nat.one_mul] at hstep
  exact ⟨m * d / 100, by omega, by omega⟩

lemma timestampsFollow (h : ∀ a ∈ displays, a.Timed) : TimestampsFollow displays := by
  have hshort : ∀ d, OfDuration d displays → (Increasing displays ↔ displays.Pairwise fun b a =>
      ∃ tick, a.frame.systemFrameNumber * d < 100 * tick ∧ 100 * tick ≤ b.frame.systemFrameNumber * d) :=
    fun d hd => List.Pairwise.iff_of_mem fun hb ha => (h _ ha).lt_iff (h _ hb) hd ha hb
  have hnecessary : ∀ d, OfDuration d displays → Increasing displays → InDecodingOrder displays := by
    intro d hd hinc
    refine ((hshort d hd).mp hinc).imp ?_
    rintro b a ⟨tick, hbefore, hafter⟩
    exact Nat.lt_of_mul_lt_mul_right (hbefore.trans_le hafter)
  refine ⟨hnecessary, fun d htick hd => ⟨hnecessary d hd, fun hnum => ?_⟩, hshort⟩
  exact (hshort d hd).mpr (hnum.imp fun hlt => exists_tick htick hlt)

namespace H264

variable {P : Type} {env : Env P} {x y : Phase × Decoder P}

def Event.display : Event → Option Display
  | .displayPicture p _ frame timestamp _ => some ⟨p, frame, timestamp⟩
  | _ => none

lemma Act.timed (h : Act env x y) (hx : ∀ a ∈ (calls x.2.store.log).filterMap Event.display, a.Timed) :
    ∀ a ∈ (calls y.2.store.log).filterMap Event.display, a.Timed := by
  have hcall : ∀ e : Event, calls y.2.store.log = e :: calls x.2.store.log → e.display = none →
      ∀ a ∈ (calls y.2.store.log).filterMap Event.display, a.Timed := by
    intro e hl he
    rw [hl, List.filterMap_cons_none he]
    exact hx
  rcases h.speaks with hs | hs
  · rw [hs.calls]
    exact hx
  · cases hs with
    | display p vkpic frame hv hk hb hf =>
      rename_i k s k'
      intro a ha
      rcases List.mem_cons.mp ha with rfl | ha
      · change (s.pic p).systemFrameNumber * frame.duration % 2 ^ 64 / 100 = _
        rw [← getFrame_number hf]
        rfl
      · exact hx a ha
    | alloc p hp hv =>
      rename_i k s
      refine hcall (.allocPictureBuffer p (env.allocPictureBuffer s.store.log) s.allocInfo) ?_ rfl
      unfold Decoder.allocPicture
      simp only
      split <;> rfl
    | configure | rejectSps => exact hx
    | _ => exact hcall _ rfl rfl

lemma displays_timed (env : Env P) (inputs : List Input) :
    ∀ a ∈ (clientCalls env inputs).filterMap Event.display, a.Timed := by
  obtain ⟨k, hk⟩ := reach_final env inputs
  exact kept (I := fun x : Phase × Decoder P => ∀ a ∈ (calls x.2.store.log).filterMap Event.display, a.Timed)
    (fun _ _ h => h.timed) hk (by intro a ha; cases ha)

end H264

namespace H265

variable {P : Type} {env : Env P} {x y : Phase × Decoder P}

def Event.display : Event → Option Display
  | .displayPicture p _ frame timestamp _ => some ⟨p, frame, timestamp⟩
  | _ => none

lemma Store.Keeps.shows {a b : Store} (h : Store.Keeps a b) :
    b.log.filterMap Event.display = a.log.filterMap Event.display := by
  obtain ⟨l, hl, hr⟩ := h.log
  have hnil : l.filterMap Event.display = [] := by
    refine List.filterMap_eq_nil_iff.mpr fun e he => ?_
    have := hr e he
    cases e <;> first | rfl | cases this
  rw [hl, List.filterMap_append, hnil, List.nil_append]

lemma Act.timed (h : Act env x y) (hx : ∀ a ∈ x.2.store.log.filterMap Event.display, a.Timed) :
    ∀ a ∈ y.2.store.log.filterMap Event.display, a.Timed := by
  have hkeeps : Store.Keeps x.2.store y.2.store → ∀ a ∈ y.2.store.log.filterMap Event.display, a.Timed := by
    intro hs
    rw [hs.shows]
    exact hx
  cases h with
  | display p vkpic frame hp hv hf =>
    rename_i k s
    intro a ha
    rcases List.mem_cons.mp ha with rfl | ha
    · change (s.pic p).systemFrameNumber * frame.duration % 2 ^ 64 / 100 = _
      rw [← getFrame_number hf]
      rfl
    · exact hx a ha
  | book h =>
    rw [h.log]
    exact hx
  | parsed parser h => cases h <;> exact hx
  | removeFrame h => cases h <;> exact hx
  | alloc p hk hv =>
    rw [allocPicture_log]
    exact hx
  | unref p | unrefCurrent p => exact hkeeps (Store.keeps_unref p _)
  | clearSets => exact hkeeps (Store.keeps_unrefAll _ _)
  | deriveSets p pocs => exact hkeeps (Store.keeps_deriveAndMarkRps pocs _)
  | markAllNonRef => exact hkeeps (Store.keeps_dpbMarkAllNonRef _)
  | deleteUnused => exact hkeeps (Store.keeps_dpbDeleteUnused _)
  | add p => exact hkeeps (Store.keeps_storePicture p _)
  | bump drain => exact hkeeps (Store.keeps_dpbBump drain _)
  | dpbClear => exact hkeeps (Store.keeps_dpbClear _)
  | _ => exact hx

lemma displays_timed (env : Env P) (inputs : List Input) :
    ∀ a ∈ (final (runInputs env inputs (Decoder.start env))).store.log.filterMap Event.display, a.Timed := by
  obtain ⟨k, hk⟩ := reach_final env inputs
  exact kept (I := fun x : Phase × Decoder P => ∀ a ∈ x.2.store.log.filterMap Event.display, a.Timed)
    (fun _ _ h => h.timed) hk (by intro a ha; cases ha)

end H265

/-- In every run of either decoder, with frames of one duration of 100 ns or more, the timestamps of the DisplayPicture
calls increase exactly when the frames displayed later were handed in later. -/
theorem timestamps_follow {P P' : Type} (env : H264.Env P) (env' : H265.Env P') (inputs : List H264.Input)
    (inputs' : List H265.Input) :
    TimestampsFollow ((H264.clientCalls env inputs).filterMap H264.Event.display) ∧
      TimestampsFollow
        ((final (H265.runInputs env' inputs' (H265.Decoder.start env'))).store.log.filterMap H265.Event.display) :=
  ⟨timestampsFollow (H264.displays_timed env inputs), timestampsFollow (H265.displays_timed env' inputs')⟩

section Examples

-- an IDR picture, a picture that refers to it and one between them in display order
def reorderedScript : H264.Script where
  sps := [H264.Script.progressive]
  pps := [{}]
  slices := [{}, { frameNum := 1, picOrderCntLsb := 8 }, { frameNum := 2, picOrderCntLsb := 4 }]

def reorderedInputs : List H264.Input :=
  [.setFormat {} false none,
    .handleFrame [H264.Script.spsUnit 0, H264.Script.ppsUnit 0, H264.Script.idrUnit 0] 40000000,
    .handleFrame [H264.Script.sliceUnit 1] 40000000, .handleFrame [H264.Script.sliceUnit 2 0] 40000000, .drain]

def reorderedCalls : List H264.Event := H264.clientCalls reorderedScript.env reorderedInputs

def reorderedDisplays : List Display := reorderedCalls.filterMap H264.Event.display

-- the order counts of the pictures that are displayed, last first
def reorderedPocs : List Int := reorderedDisplays.flatMap fun a => reorderedCalls.filterMap fun
  | .decodePicture p data .. => if p = a.picture then some data.pictureOrderCount else none
  | _ => none

theorem timestamps_reordered : reorderedDisplays.length = 3 ∧ reorderedPocs.Pairwise (fun b a => a < b) ∧
    (∀ a ∈ reorderedDisplays, a.frame.duration = 40000000) ∧ ¬Increasing reorderedDisplays := by decide +kernel

end Examples

end VkVideoParser
