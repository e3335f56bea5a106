import VkVideoParser.H264.Balance

/-! The end of a run: the element is stopped, and every buffer has gone back to the client. -/

namespace VkVideoParser.H264

open Execution Relation Counting

variable {P : Type} {env : Env P} {k : Phase} {s t : Decoder P} {x y : Phase × Decoder P}
  {log : List Event} {p q : PicId} {v : VkPicIf}

/-- A run of the element up to its disposal. -/
def runAndStop (env : Env P) (inputs : List Input) : DecoderM P Unit := do
  runInputs env inputs
  stop

/-- What is known of the pictures and their references at any time. -/
structure Kept (x : Phase × Decoder P) : Prop where
  balanced : Balanced x
  placed : Placed x
  buffers : Buffers x

lemma Act.kept (h : Act env x y) (hx : Kept x) : Kept y where
  balanced := h.balanced hx.balanced hx.placed hx.buffers
  placed := h.placed hx.placed
  buffers := h.speaks.elim hx.buffers.silent (hx.buffers.speaks hx.placed)

lemma kept_reach (h : ReflTransGen (Act env) (Phase.idle, Decoder.start env) x) : Kept x :=
  ⟨balanced_reach h, (sound_start.reach h).placed, buffers_reach h⟩

-- the flush of the clearing is for the proof only
lemma Kept.setFlushing (hx : Kept (k, s)) (b : Bool) : Kept (k.setFlushing b, s) where
  balanced := ⟨hx.balanced.covered, hx.balanced.exact, hx.balanced.lost, hx.balanced.failed, hx.balanced.gap,
    hx.balanced.settled⟩
  placed := ⟨hx.placed.once, hx.placed.below⟩
  buffers := ⟨hx.buffers.owned, hx.buffers.fresh, hx.buffers.current, hx.buffers.carried⟩

lemma clear_moves (hk : k.flushing) :
    Moves (Act env) k (do onStore Store.dpbClear; clearLastField) s fun _ k' s' => k' = k ∧ DpbEmpty s' := by
  refine onStore_bind k (.dpbClear (.inr hk)) (clearLastField_moves.mono ?_)
  rintro _ k' s' ⟨rfl, hs, hl, -⟩
  exact ⟨rfl, by rw [hs.dpb]; exact dpbClear_picList _, hl⟩

lemma Kept.afterStop (env : Env P) (hx : Kept (Phase.idle, s)) (h : stop s = .ok () t) :
    ∃ u : Decoder P, Kept (Phase.idle.setFlushing true, u) ∧ DpbEmpty u ∧ u.store = t.store := by
  have hm : Moves (Act env) (Phase.idle.setFlushing true) (do onStore Store.dpbClear; clearLastField) s _ :=
    clear_moves rfl
  have hstop : stop s = ((do onStore Store.dpbClear; clearLastField) >>= fun _ => modify Decoder.forgetSequence) s := by
    unfold stop
    rw [bind_assoc]
  rw [hstop] at h
  obtain ⟨_, u, hu, hf⟩ := bind_eq_ok h
  unfold Moves at hm
  rw [hu] at hm
  obtain ⟨k', hk', rfl, hempty⟩ := hm
  refine ⟨u, Execution.kept (fun _ _ h => h.kept) hk' (hx.setFlushing true), hempty, ?_⟩
  cases hf
  rfl

/-- With nothing left in the DPB and nothing under way, a picture has no reference but a leaked one. -/
lemma refcount_of_empty (hs : DpbEmpty s) :
    ((s.store.pic q).refcount : Int) = excess (Phase.idle.setFlushing true, s) q := by
  unfold excess Store.surplus claims
  rw [hs.1, hs.2]
  simp [Phase.idle, Phase.setFlushing, Current.place]

lemma Kept.released (hx : Kept (Phase.idle.setFlushing true, s)) (hs : DpbEmpty s)
    (hg : Given (calls s.store.log) p v) (hf : ¬decodeFailed (calls s.store.log) p) : releases s.store.log p = [v] := by
  have hb : (s.pic p).userData.map VkPic.pic = some v := (hx.buffers.owned p v).mp hg
  have h0 : (s.store.pic p).refcount = 0 := by
    rcases hx.balanced.exact p with he | ⟨-, ⟨hu, -⟩ | hd⟩
    · have := refcount_of_empty hs (q := p)
      omega
    · have hu : (s.pic p).userData = none := hu
      rw [hu] at hb
      cases hb
    · exact absurd hd hf
  rw [hx.balanced.settled p, Store.freed, if_pos h0]
  exact congrArg Option.toList hb

lemma Kept.leaks (hx : Kept (Phase.idle.setFlushing true, s)) (hs : DpbEmpty s)
    (hf : decodeFailed (calls s.store.log) p) :
    (∃ v, Given (calls s.store.log) p v) ∧ releases s.store.log p = [] := by
  constructor
  · obtain ⟨data, sps, pps, he⟩ := hf
    obtain ⟨v, -, hg⟩ := hx.buffers.carried _ he
    exact ⟨v, hg⟩
  · have hne : (s.store.pic p).refcount ≠ 0 := by
      rcases hx.balanced.failed p hf with hc | hpos
      · cases hc
      · have := refcount_of_empty hs (q := p)
        omega
    rw [hx.balanced.settled p, Store.freed_of_ne hne]
    rfl

/-- Release is called exactly once for every buffer the client gave. -/
def AllReleased (log : List Event) : Prop := ∀ p v, Given log p v → releases log p = [v]

/-- When the element is disposed of, every buffer was released once if and only if DecodePicture never
returned false. -/
theorem buffers_released (env : Env P) (inputs : List Input) (t : Decoder P)
    (h : runAndStop env inputs (Decoder.start env) = .ok () t) :
    AllReleased t.store.log ↔ ∀ p, ¬decodeFailed t.store.log p := by
  obtain ⟨_, s, hrun, hstop⟩ := bind_eq_ok h
  obtain ⟨u, hx, hu, hst⟩ := (kept_reach (reach_done hrun)).afterStop env hstop
  rw [← hst]
  have hcalls : ∀ p, decodeFailed u.store.log p ↔ decodeFailed (calls u.store.log) p := fun p =>
    exists_congr fun _ => exists_congr fun _ => exists_congr fun _ => (mem_calls rfl).symm
  constructor
  · intro hall p hf
    obtain ⟨⟨v, hg⟩, hr⟩ := hx.leaks hu ((hcalls p).mp hf)
    rw [hall p v (given_calls.mp hg)] at hr
    cases hr
  · intro hno p v hg
    exact hx.released hu (given_calls.mpr hg) fun hf => hno p ((hcalls p).mpr hf)

section Examples

def oneFrameInputs : List Input :=
  Script.frames [[Script.spsUnit 0, Script.ppsUnit 0, Script.idrUnit 0]] ++ [.drain]

def oneFrameScript : Script := { sps := [Script.progressive], pps := [{}], slices := [{}] }

-- a client whose decoder rejects every picture
def rejectingEnv : Env Tables := { oneFrameScript.env with decodePicture := fun _ _ => false }

def rejectedEnd : Decoder Tables := final (runAndStop rejectingEnv oneFrameInputs (Decoder.start rejectingEnv))

def givenTo (p : PicId) : Event → Option VkPicIf
  | .allocPictureBuffer q pic _ => if q = p then pic else none
  | _ => none

lemma given_of_mem {v : VkPicIf} (h : v ∈ log.filterMap (givenTo p)) : Given log p v := by
  obtain ⟨e, he, hv⟩ := List.mem_filterMap.mp h
  cases e with
  | allocPictureBuffer q pic info =>
    simp only [givenTo] at hv
    split at hv
    · rename_i hq
      exact ⟨info, by rw [← hv, ← hq]; exact he⟩
    · cases hv
  | _ => cases hv

theorem buffers_leak : runAndStop rejectingEnv oneFrameInputs (Decoder.start rejectingEnv) = .ok () rejectedEnd ∧
    ¬AllReleased rejectedEnd.store.log := by
  refine ⟨eq_ok_of_completed (by decide +kernel), fun h => ?_⟩
  have hg : ∃ v ∈ rejectedEnd.store.log.filterMap (givenTo 0), releases rejectedEnd.store.log 0 ≠ [v] := by
    decide +kernel
  obtain ⟨v, hv, hne⟩ := hg
  exact hne (h 0 v (given_of_mem hv))

def oneFrameEnd : Decoder Tables :=
  final (runAndStop oneFrameScript.env oneFrameInputs (Decoder.start oneFrameScript.env))

def accepted : Event → Bool
  | .decodePicture _ _ _ _ ok => ok
  | _ => true

theorem buffers_released_oneFrame : AllReleased oneFrameEnd.store.log := by
  refine (buffers_released oneFrameScript.env oneFrameInputs oneFrameEnd
    (eq_ok_of_completed (by decide +kernel))).mpr ?_
  rintro p ⟨data, sps, pps, he⟩
  have hall : oneFrameEnd.store.log.all accepted := by decide +kernel
  exact absurd (List.all_eq_true.mp hall _ he) (by simp [accepted])

end Examples

end VkVideoParser.H264
