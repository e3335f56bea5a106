import VkVideoParser.H265.Script
import VkVideoParser.H265.Sets
import VkVideoParser.H265.Started

/-! The scaling lists that a consumer finds at DecodePicture. With client objects for the sets they are in one place
for all pictures, which the SPSs and the pictures with lists of their PPS write. -/

namespace VkVideoParser.H265

open Execution Relation Histories

variable {P : Type} {env : Env P} {s : Decoder P} {x y : Phase × Decoder P} {log : List Event} {p : PicId} {e : Event}
  {slice : GstH265Slice} {vps : GstH265VPS} {v : VkPic} {active : Activation} {default : GstH265ScalingList}
  {vkp : VkH265Picture}

/-- The lists of the PPS, or those of the SPS when it points to none. -/
def effectiveLists (sps : StdSps) (pps : StdPps) : Option StdVideoH265ScalingLists := pps.scalingLists.or sps.scalingLists

/-- H.265, 7.4.3.3 and 7.4.5: the lists that a picture is scaled with, `default` those to be inferred. -/
def wantedLists (default : GstH265ScalingList) (active : Activation) : Option StdVideoH265ScalingLists :=
  if active.pps.scalingListDataPresentFlag then some (fillScalingList active.pps.scalingList)
  else if !active.sps.scalingListEnabledFlag then none
  else if active.sps.scalingListDataPresentFlag then some (fillScalingList active.sps.scalingList)
  else some (fillScalingList default)

/-- The parser gives the default lists to a PPS without data. -/
def DefaultFilled (default : GstH265ScalingList) (active : Activation) : Prop :=
  active.sps.scalingListEnabledFlag → active.pps.scalingListDataPresentFlag = false → active.pps.scalingList = default

instance (default : GstH265ScalingList) (active : Activation) : Decidable (DefaultFilled default active) :=
  inferInstanceAs (Decidable (_ → _ → _))

def listsOfSps (sps : GstH265SPS) : Option StdVideoH265ScalingLists :=
  pointee sps.scalingListEnabledFlag (fillScalingList sps.scalingList)

def listsOfPps (pps : GstH265PPS) : Option StdVideoH265ScalingLists :=
  pointee pps.scalingListDataPresentFlag (fillScalingList pps.scalingList)

/-- The lists of the PPS announced last. -/
def announcedLists (log : List Event) : Option StdVideoH265ScalingLists := (lastPps log).bind fun b => listsOfPps b.1

/-- What the common place of the lists of the SPS holds after these calls. -/
def listsPlace (oob : Bool) : List Event → Option StdVideoH265ScalingLists
  | [] => none
  | e :: l =>
    match e.announcedSps, e.started with
    | some b, _ => listsOfSps b.1.1
    | none, some a =>
      if oob && spsUpdates l ≠ 0 && overridesLists a.2.active then some (fillScalingList a.2.active.pps.scalingList)
      else listsPlace oob l
    | none, none => listsPlace oob l

/-- Where the sets have client objects: the PPS announced last has the lists wanted, or it has none and the picture
writes the common place, or finds the lists of its SPS there. -/
def ListsFollow (default : GstH265ScalingList) (oob : Bool) (log : List Event) (active : Activation) : Prop :=
  oob ∧ spsUpdates log ≠ 0 →
    match announcedLists log with
    | some lists => wantedLists default active = some lists
    | none => overridesLists active ∨ listsPlace oob log = listsOfSps active.sps

lemma wantedLists_of_overrides (h : overridesLists active) (hd : DefaultFilled default active) :
    wantedLists default active = some (fillScalingList active.pps.scalingList) := by
  unfold wantedLists
  by_cases hpps : active.pps.scalingListDataPresentFlag
  · rw [if_pos hpps]
  · have hsps : active.sps.scalingListEnabledFlag ∧ active.sps.scalingListDataPresentFlag = false := by
      simpa [overridesLists, hpps] using h
    rw [if_neg hpps, hsps.1, hsps.2, hd hsps.1 (by simpa using hpps)]
    rfl

lemma wantedLists_of_not_overrides (h : overridesLists active = false) :
    wantedLists default active = listsOfSps active.sps := by
  simp only [overridesLists, Bool.or_eq_false_iff] at h
  unfold wantedLists listsOfSps
  rw [h.1]
  cases henabled : active.sps.scalingListEnabledFlag with
  | false => rfl
  | true =>
    have hdata : active.sps.scalingListDataPresentFlag = true := by simpa [henabled] using h.2
    rw [hdata]
    rfl

lemma overrideLists_sps : (overrideLists active vkp).stdSps.scalingLists =
    if overridesLists active then some (fillScalingList active.pps.scalingList) else vkp.stdSps.scalingLists := by
  unfold overrideLists
  split <;> rfl

lemma overrideLists_pps : (overrideLists active vkp).stdPps = vkp.stdPps := by
  unfold overrideLists
  split <;> rfl

section Place

/-- The two places of the element's slot hold what the calls say. -/
structure ListsHeld (env : Env P) (x : Phase × Decoder P) : Prop where
  sps : x.2.vkp.stdSps.scalingLists = listsPlace env.oobPicParams x.2.store.log
  pps : x.2.vkp.stdPps.scalingLists = announcedLists x.2.store.log

lemma listsPlace_plain {oob : Bool} {l : List Event} (h : ∀ e ∈ l, e.Plain) :
    listsPlace oob (l ++ log) = listsPlace oob log := by
  induction l with
  | nil => rfl
  | cons e l ih =>
    have he := h e List.mem_cons_self
    rw [List.cons_append, listsPlace, he.sps, he.started]
    exact ih fun e he => h e (List.mem_cons_of_mem _ he)

lemma announcedLists_plain {l : List Event} (h : ∀ e ∈ l, e.Plain) :
    announcedLists (l ++ log) = announcedLists log := by
  rw [announcedLists, lastPps, findSome?_append_none fun e he => (h e he).pps]
  rfl

lemma ListsHeld.idle (hx : ListsHeld env x) (h : Idle x y) : ListsHeld env y := by
  obtain ⟨l, hl, hplain⟩ := h.log
  refine ⟨?_, ?_⟩
  · rw [h.vkp, hl, listsPlace_plain hplain]
    exact hx.sps
  · rw [h.vkp, hl, announcedLists_plain hplain]
    exact hx.pps

lemma paramSource_eq (hx : Slots env x) : x.2.paramSource env =
    if env.oobPicParams ∧ spsUpdates x.2.store.log ≠ 0 then .shared else .own := by
  rw [Decoder.paramSource, hx.count]
  cases env.oobPicParams <;> by_cases h : spsUpdates x.2.store.log = 0 <;> simp [h]

lemma ListsHeld.start {k : Phase} {c : Current} (hx : ListsHeld env (k, s)) (hslots : Slots env (k, s)) :
    ListsHeld env (k.setCurrent c, s.startPicture env p slice vps v) := by
  have hsource : s.paramSource env = _ := paramSource_eq hslots
  have hplace : listsPlace env.oobPicParams (s.startPicture env p slice vps v).store.log =
      if env.oobPicParams && spsUpdates s.store.log ≠ 0 && overridesLists (s.activation env slice.header.pps) then
        some (fillScalingList (s.activation env slice.header.pps).pps.scalingList)
      else listsPlace env.oobPicParams s.store.log := rfl
  refine ⟨?_, ?_⟩
  · rw [hplace]
    change (s.startVkp env slice).stdSps.scalingLists = _
    rw [Decoder.startVkp, hsource]
    by_cases h : env.oobPicParams ∧ spsUpdates s.store.log ≠ 0
    · rw [if_pos h, overrideLists_sps, show s.vkp.stdSps.scalingLists = _ from hx.sps]
      simp [h.1, h.2]
    · rw [if_neg h, if_neg (fun hc => h (by simpa using (Bool.and_eq_true_iff.mp hc).1))]
      exact hx.sps
  · change (s.startVkp env slice).stdPps.scalingLists = announcedLists s.store.log
    rw [Decoder.startVkp, hsource]
    split
    · exact hx.pps
    · rw [overrideLists_pps]
      exact hx.pps

lemma Act.listsHeld (h : Act env x y) (hslots : Slots env x) (hx : ListsHeld env x) : ListsHeld env y := by
  have hone : ∀ {e : Event}, e.Plain → ∀ a ∈ [e], a.Plain := fun he => by simpa using he
  cases h.setStep with
  | idle h hc => exact hx.idle h
  | start p slice vps vkpic hvps hc => exact hx.start hslots
  | endPicture p vkpic hk hv => exact ⟨hx.sps, hx.pps⟩
  | updateVps e he parser vps =>
    exact ⟨hx.sps.trans (listsPlace_plain (hone he)).symm, hx.pps.trans (announcedLists_plain (hone he)).symm⟩
  | updateSps e he parser sps =>
    exact ⟨rfl, hx.pps.trans (announcedLists_plain (hone he)).symm⟩
  | updatePps e he parser pps =>
    exact ⟨hx.sps.trans (listsPlace_plain (hone he)).symm, rfl⟩

lemma listsHeld_reach (h : ReflTransGen (Act env) (Phase.idle, Decoder.start env) x) : Slots env x ∧ ListsHeld env x :=
  kept (I := fun x => Slots env x ∧ ListsHeld env x) (fun _ _ h hx => ⟨h.slots hx.1, h.listsHeld hx.1 hx.2⟩) h
    ⟨slots_start, rfl, rfl⟩

end Place

lemma startVkpShown_shared (h : s.paramSource env = .shared) : startVkpShown env s p slice vps v =
    overrideLists (s.activation env slice.header.pps) s.vkp := by
  simp only [startVkpShown, h, Decoder.startVkp]

lemma startVkpShown_own (h : s.paramSource env = .own) : startVkpShown env s p slice vps v =
    overrideLists (s.activation env slice.header.pps) (fillPps (s.activation env slice.header.pps).pps
      (fillSps (s.activation env slice.header.pps).sps (s.activation env slice.header.pps).vps v.vkp)) := by
  simp only [startVkpShown, h, startVkPic]

lemma Shown.listsFollow {d : DecodeCall} (h : Shown env log d s slice vps v)
    (hd : DefaultFilled default (s.activation env slice.header.pps)) :
    effectiveLists d.sps d.pps = wantedLists default (s.activation env slice.header.pps) ↔
      ListsFollow default env.oobPicParams s.store.log (s.activation env slice.header.pps) := by
  obtain ⟨k, hreach, -⟩ := h.reach
  obtain ⟨hslots, hsps, hpps⟩ := listsHeld_reach hreach
  have hsource : s.paramSource env = _ := paramSource_eq hslots
  rw [effectiveLists, h.sps, h.pps]
  generalize hact : s.activation env slice.header.pps = active at hd
  by_cases hshared : env.oobPicParams ∧ spsUpdates s.store.log ≠ 0
  · rw [if_pos hshared] at hsource
    rw [startVkpShown_shared hsource, hact, overrideLists_pps, overrideLists_sps, show s.vkp.stdSps.scalingLists = _ from hsps,
      show s.vkp.stdPps.scalingLists = _ from hpps]
    change (announcedLists s.store.log).or _ = _ ↔ (_ → _)
    cases announcedLists s.store.log with
    | some lists => exact ⟨fun h _ => h.symm, fun h => (h hshared).symm⟩
    | none =>
      by_cases ho : overridesLists active
      · rw [if_pos ho, wantedLists_of_overrides ho hd]
        exact ⟨fun _ _ => .inl ho, fun _ => rfl⟩
      · rw [if_neg ho, wantedLists_of_not_overrides (by simpa using ho)]
        exact ⟨fun h _ => .inr h, fun h => (h hshared).resolve_left ho⟩
  · rw [if_neg hshared] at hsource
    rw [startVkpShown_own hsource, hact, overrideLists_pps, overrideLists_sps]
    refine ⟨fun _ hs => absurd hs hshared, fun _ => ?_⟩
    change (listsOfPps active.pps).or (if overridesLists active then _ else listsOfSps active.sps) = _
    by_cases ho : overridesLists active
    · rw [if_pos ho, wantedLists_of_overrides ho hd, listsOfPps]
      cases active.pps.scalingListDataPresentFlag <;> rfl
    · have hdata : active.pps.scalingListDataPresentFlag = false := by
        by_contra hdata
        exact ho (by simp [overridesLists, hdata])
      rw [if_neg ho, wantedLists_of_not_overrides (by simpa using ho), listsOfPps, hdata]
      rfl

/-- In every run the lists in effect at DecodePicture are those of the sets of the picture exactly when the common
places follow them. -/
theorem scalingLists_effective (default : GstH265ScalingList) (env : Env P) (inputs : List Input) :
    Always (fun l e => ∀ d ∈ e.decodeCall, ∀ a ∈ startOf d.picture l, DefaultFilled default a.1.active →
        (effectiveLists d.sps d.pps = wantedLists default a.1.active ↔
          ListsFollow default env.oobPicParams a.2 a.1.active))
      (final (runInputs env inputs (Decoder.start env))).store.log := by
  refine always_shown env inputs fun l d s slice vps v _ h a ha hd => ?_
  cases h.start.symm.trans ha
  exact h.listsFollow hd

section Examples

-- an SPS with lists, a PPS with others and a PPS without
def matrixScript : Script where
  vps := [{}]
  sps := [{ vps := some 0, scalingListEnabledFlag := true, scalingListDataPresentFlag := true,
            scalingList := { scalingLists4x4 := [[1]] } }]
  pps := [{ scalingListDataPresentFlag := true, scalingList := { scalingLists4x4 := [[2]] } }, { id := 1 }]
  slices := [{ firstSliceSegmentInPicFlag := true }, { firstSliceSegmentInPicFlag := true, pps := 1 }]

def matrixLog (oob : Bool) : List Event :=
  let env := { matrixScript.env with oobPicParams := oob }
  final (runInputs env (Script.frames
    [[Script.vpsUnit 0, Script.spsUnit 0, Script.ppsUnit 0, Script.ppsUnit 1, Script.idrUnit 0], [Script.idrUnit 1]])
    (Decoder.start env)) |>.store.log

-- the second picture is scaled with the lists that the first one took from its PPS
theorem scalingLists_left : ¬Always (fun l e => ∀ d ∈ e.decodeCall, ∀ a ∈ startOf d.picture l,
    DefaultFilled {} a.1.active → effectiveLists d.sps d.pps = wantedLists {} a.1.active) (matrixLog true) := by
  decide +kernel

end Examples

end VkVideoParser.H265
