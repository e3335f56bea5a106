import VkVideoParser.H264.Logs
import VkVideoParser.H264.Runs.Inputs
import VkVideoParser.H264.Script

/-! The cached field, and the assertions that there is none. A first field is held back by the structure
of the picture that a slice activates, the assertions follow the SPS received last. -/

namespace VkVideoParser.H264

open Execution Relation

variable {P : Type} {env : Env P} {s : Decoder P} {x y : Phase × Decoder P} {p q : PicId}

/-- A cached field is a first field without a second one, of a DPB of fields, and no assertion that there is
none has failed. -/
structure LastFieldSound (s : Decoder P) : Prop where
  cached : ∀ q, s.lastField = some q →
    s.store.dpb.interlaced ∧ (s.pic q).secondField = false ∧ (s.pic q).otherField = none
  unfailed : ∀ e ∈ s.store.log, e.isLastFieldNotNull = false

def Event.placed : Event → Option DpbInfo
  | .placing info => some info
  | _ => none

/-- The states of the DPB to which a finished picture comes. -/
def placings (log : List Event) : List DpbInfo := log.filterMap Event.placed

/-- Fields are held back only while the SPS received last is interlaced. -/
def HoldsBackFields (log : List Event) : Prop := ∀ info ∈ placings log, info.holdsBack → info.interlaced

instance (log : List Event) : Decidable (HoldsBackFields log) :=
  inferInstanceAs (Decidable (∀ info ∈ placings log, info.holdsBack → info.interlaced))

lemma HoldsBackFields.mono {log log' : List Event} (h : HoldsBackFields log') (hl : log ⊆ log') :
    HoldsBackFields log := fun info hi => h info (List.filterMap_subset _ hl hi)

/-- The picture is begun, and finish_picture may have taken it. -/
def Current.begun (c : Current) (p : PicId) : Prop :=
  (∃ slice, c = .filled p slice ∨ c = .clearing p slice) ∨ c = .decoding p ∨ c = .gone p

/-- A frame is begun with no field cached, and none is cached while it is current. -/
structure Uncached (x : Phase × Decoder P) : Prop where
  starting : ∀ p slice, x.1.current = .starting p slice → sliceField slice.header = .frame → x.2.lastField = none
  begun : ∀ p, x.1.current.begun p → (x.2.pic p).isFrame → x.2.lastField = none
  gone : ∀ p, x.1.current = .gone p → p < x.2.store.next ∧ (.fresh, p) ∉ x.1.hold

lemma Current.begun.eq {c : Current} (h : c.begun p) (hq : c = .gone q) : p = q := by
  subst hq
  rcases h with ⟨slice, h | h⟩ | h | h <;> cases h
  rfl

lemma Current.begun.not_starts {c : Current} (h : c.begun p) : ¬c.starts q := by
  rintro ⟨slice, rfl⟩
  rcases h with ⟨slice, h | h⟩ | h | h <;> cases h

/-- How the current picture came to be begun. -/
lemma Act.begun_of (h : Act env x y) (hy : y.1.current.begun p) : x.1.current.begun p ∨
    ∃ slice, x.1.current = .starting p slice ∧ y.2 = x.2 ∧ FromSlice slice (x.2.pic p) := by
  cases h with
  | fill q slice hk hs =>
    rcases hy with ⟨slice', h | h⟩ | h | h <;> cases h
    exact .inr ⟨slice, hk, rfl, hs⟩
  | clear q slice hk =>
    rcases hy with ⟨slice', h | h⟩ | h | h <;> cases h
    exact .inl (.inl ⟨slice, .inl hk⟩)
  | start q slice vkpic hk =>
    rcases hy with ⟨slice', h | h⟩ | h | h <;> cases h
    exact .inl (.inl ⟨slice, hk⟩)
  | endPicture q vkpic hk =>
    rcases hy with ⟨slice', h | h⟩ | h | h <;> cases h
    exact .inl (.inr (.inl hk))
  | adopt | losePicture | unrefCurrent | forgetCurrent =>
    rcases hy with ⟨slice', h | h⟩ | h | h <;> cases h
  | _ => exact .inl hy

lemma Act.gone_of (h : Act env x y) (hy : y.1.current = .gone p) :
    x.1.current = .gone p ∨ (x.1.current = .decoding p ∧ y.1.hold = (.ended, p) :: x.1.hold) := by
  cases h with
  | endPicture q vkpic hk =>
    cases hy
    exact .inr ⟨hk, rfl⟩
  | adopt | fill | clear | start | losePicture | unrefCurrent | forgetCurrent => cases hy
  | _ => exact .inl hy

lemma Act.interlaced (h : Act env x y) : y.2.store.dpb.interlaced = x.2.store.dpb.interlaced ∨
    y.2.lastField = none := by
  cases h with
  | configure sps hs => exact .inr hs.2
  | book h => exact .inl h.interlaced
  | number h | mark p hp hk h => exact .inl (congrArg Dpb.interlaced h.dpb)
  | alloc p hp => exact .inl (congrArg Dpb.interlaced (allocPicture_dpb p))
  | unref p hp | unrefCurrent p hk | unrefLast p hp =>
    exact .inl (congrArg Dpb.interlaced (Store.sameShape_unref _ _).dpb)
  | deleteUnused => exact .inl Store.shrinks_dpbDeleteUnused.interlaced
  | bump drain p h => exact .inl Store.shrinks_dpbBump.interlaced
  | dpbClear h => exact .inl Store.shrinks_dpbClear.interlaced
  | add p hp hr | addLast p q hp hr => exact .inl (Store.dpbAdd_interlaced _ _)
  | removeFrame h => cases h <;> exact .inl rfl
  | _ => exact .inl rfl

lemma Placed.current_made (hx : Placed x) (hc : x.1.current.place = some p) :
    p < x.2.store.next ∧ (.fresh, p) ∉ x.1.hold := by
  have hp : 0 < places x p := by
    unfold places
    rw [hc, Counting.slot_some, Counting.isAt_self]
    omega
  exact ⟨hx.below p (.inl hp), hx.current_hold hc rfl⟩

section Preservation

variable (h : Act env x y) (hx : Placed x) (hu : Uncached x)

include h hu

lemma Uncached.starting_step {slice : GstH264Slice} (hc : y.1.current = .starting p slice)
    (hf : sliceField slice.header = .frame) : y.2.lastField = none := by
  rcases h.starting_of hc with hcx | ⟨-, -, -, -, hlast, hnone, -⟩
  · have hl := hu.starting p slice hcx hf
    cases hy : y.2.lastField with
    | none => rfl
    | some q =>
      rcases h.lastField hy with hq | ⟨-, -, -, -, -, hg, -⟩
      · cases hl.symm.trans hq
      · cases hcx.symm.trans hg
  · exact hlast.trans (hnone hf)

include hx

lemma Uncached.gone_step (hc : y.1.current = .gone p) : p < y.2.store.next ∧ (.fresh, p) ∉ y.1.hold := by
  rcases h.gone_of hc with hg | ⟨hd, hhold⟩
  · obtain ⟨hn, hf⟩ := hu.gone p hg
    refine ⟨hn.trans_le h.next_le, fun hm => ?_⟩
    rcases h.fresh_of hm with hm | rfl
    · exact hf hm
    · exact lt_irrefl _ hn
  · obtain ⟨hn, hf⟩ := hx.current_made (p := p) (by rw [hd]; rfl)
    refine ⟨hn.trans_le h.next_le, fun hm => ?_⟩
    rw [hhold] at hm
    rcases List.mem_cons.mp hm with hm | hm
    · cases hm
    · exact hf hm

-- a picture that is begun becomes no frame
lemma Uncached.frame_of (hb : x.1.current.begun p) (hf : (y.2.pic p).isFrame) : (x.2.pic p).isFrame := by
  have hsteady : p < x.2.store.next ∧ (.fresh, p) ∉ x.1.hold := by
    rcases id hb with ⟨slice, hc | hc⟩ | hc | hc
    · exact hx.current_made (by rw [hc]; rfl)
    · exact hx.current_made (by rw [hc]; rfl)
    · exact hx.current_made (by rw [hc]; rfl)
    · exact hu.gone p hc
  have hsame : (y.2.pic p).field = (x.2.pic p).field → (x.2.pic p).isFrame := fun he => by
    simpa [Picture.isFrame, he] using hf
  cases h.relinks hx p with
  | same hs => exact hsame hs.field
  | made hq => exact absurd hsteady.1 (by rw [hq]; exact lt_irrefl _)
  | begun hst => exact absurd hst hb.not_starts
  | second hm | half _ _ _ _ hm => exact absurd hm hsteady.2
  | halved _ _ hframe => simp [Picture.isFrame, hframe]
  | linked _ _ _ _ _ hs => exact hsame hs

lemma Uncached.begun_step (hb : y.1.current.begun p) (hf : (y.2.pic p).isFrame) : y.2.lastField = none := by
  rcases h.begun_of hb with hbx | ⟨slice, hst, he, hfrom⟩
  · have hfx := hu.frame_of h hx hbx hf
    cases hy : y.2.lastField with
    | none => rfl
    | some q =>
      rcases h.lastField hy with hq | ⟨-, -, hframe, -, -, hg, -⟩
      · cases (hu.begun p hbx hfx).symm.trans hq
      · obtain rfl := hbx.eq hg
        cases hframe.symm.trans hfx
  · rw [he] at hf ⊢
    refine hu.starting p slice hst ?_
    rw [← hfrom.field]
    simpa [Picture.isFrame] using hf

lemma Act.keepsUncached : Uncached y where
  starting _ _ hc hf := hu.starting_step h hc hf
  begun _ hb hf := hu.begun_step h hx hb hf
  gone _ hc := hu.gone_step h hx hc

end Preservation

lemma uncached_start : Uncached (Phase.idle, Decoder.start env) where
  starting _ _ _ _ := rfl
  begun _ _ _ := rfl
  gone _ hc := by cases hc

lemma uncached_reach (h : ReflTransGen (Act env) (Phase.idle, Decoder.start env) x) : Uncached x := by
  induction h with
  | refl => exact uncached_start
  | tail hreach hact ih => exact hact.keepsUncached (sound_start.reach hreach).placed ih

lemma LastFieldSound.step (h : Act env x y) (hu : Uncached x) (hl : Linked y) (hh : HoldsBackFields y.2.store.log)
    (hx : LastFieldSound x.2) : LastFieldSound y.2 := by
  obtain ⟨l, hlog, hfail⟩ := h.log_append
  refine ⟨fun q hq => ?_, fun e he => ?_⟩
  · obtain ⟨hs, ho, -⟩ := hl.last q hq
    refine ⟨?_, hs, ho⟩
    rcases h.interlaced with hi | hnone
    · rw [hi]
      rcases h.lastField hq with hqx | ⟨-, -, -, -, -, -, -, info, hinfo, hback, hsame⟩
      · exact (hx.cached q hqx).1
      · rw [← hsame]
        refine hh info (List.mem_filterMap.mpr ⟨.placing info, ?_, rfl⟩) hback
        rw [hlog]
        exact List.mem_append_right _ hinfo
    · cases hnone.symm.trans hq
  · rw [hlog] at he
    rcases List.mem_append.mp he with he | he
    · by_contra hf
      obtain ⟨q, hq, hwhy⟩ := hfail ⟨e, he, by simpa using hf⟩
      rcases hwhy with hi | ⟨p, hc, hframe⟩
      · cases hi.symm.trans (hx.cached q hq).1
      · cases (hu.begun p (.inr (.inr hc)) hframe).symm.trans hq
    · exact hx.unfailed e he

lemma lastFieldSound_reach (h : ReflTransGen (Act env) (Phase.idle, Decoder.start env) x)
    (hh : HoldsBackFields x.2.store.log) : LastFieldSound x.2 := by
  induction h with
  | refl => exact ⟨fun _ hq => (by cases hq), fun _ he => by cases he⟩
  | tail hreach hact ih =>
    obtain ⟨l, hlog, -⟩ := hact.log_append
    have hx := ih (hh.mono (by rw [hlog]; exact List.subset_append_right ..))
    exact LastFieldSound.step hact (uncached_reach hreach) (linked_reach (hreach.tail hact)) hh hx

/-- The cached field is sound in every run that holds fields back only while the SPS received last is
interlaced. -/
theorem lastField_sound (env : Env P) (inputs : List Input)
    (h : HoldsBackFields (final (runInputs env inputs (Decoder.start env))).store.log) :
    LastFieldSound (final (runInputs env inputs (Decoder.start env))) := by
  obtain ⟨k, hk⟩ := reach_final env inputs
  exact lastFieldSound_reach hk h

section Examples

def oneFrame (sps : GstH264SPS) : GstH264SPS :=
  { sps with
    numRefFrames := 1
    vuiParametersPresentFlag := true
    vuiParameters := { bitstreamRestrictionFlag := true, maxDecFrameBuffering := 1 } }

-- the PPS activates the interlaced SPS, the progressive one is received last
def spliceScript : Script where
  sps := [oneFrame Script.interlaced, { oneFrame Script.progressive with id := 1 }]
  pps := [{}]
  slices := [{}, { frameNum := 1, fieldPicFlag := true, picOrderCntLsb := 4 }]

def spliceInputs (sets : List GstH264NalUnit) : List Input :=
  Script.frames [sets ++ [Script.ppsUnit 0, Script.idrUnit 0], [Script.sliceUnit 1 0], [Script.sliceUnit 1 0]]

def spliceEnd (sets : List GstH264NalUnit) : Decoder Tables :=
  final (runInputs spliceScript.env (spliceInputs sets) (Decoder.start spliceScript.env))

theorem splice_aborts : (spliceEnd [Script.spsUnit 0, Script.spsUnit 1]).store.dpb.interlaced = false ∧
    (spliceEnd [Script.spsUnit 0, Script.spsUnit 1]).lastField = some 1 ∧
    ¬LastFieldSound (spliceEnd [Script.spsUnit 0, Script.spsUnit 1]) :=
  ⟨by decide +kernel, by decide +kernel, fun h => absurd h.unfailed (by decide +kernel)⟩

-- without the progressive SPS the second field of that parity replaces the cached one
theorem lastField_sound_replaced : (spliceEnd [Script.spsUnit 0]).lastField = some 3 ∧
    LastFieldSound (spliceEnd [Script.spsUnit 0]) :=
  ⟨by decide +kernel, lastField_sound spliceScript.env (spliceInputs [Script.spsUnit 0]) (by decide +kernel)⟩

end Examples

end VkVideoParser.H264
