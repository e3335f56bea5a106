import VkVideoParser.H264.Calls
import VkVideoParser.H264.Script
import VkVideoParser.Library.Histories

/-! The parameter sets that the parser reads, those that are announced to the client, and what a set
leaves behind that is rejected after it was read. -/

namespace VkVideoParser.H264

open Execution Relation

variable {P : Type} {env : Env P} {k : Phase} {s t : Decoder P} {x y : Phase × Decoder P}

inductive ParameterSet
  | sps (sps : GstH264SPS)
  | pps (pps : GstH264PPS)
  deriving DecidableEq

def Event.parsedSet : Event → Option ParameterSet
  | .parserParseSps result => result.map .sps
  | .parserParsePps result => result.map .pps
  | _ => none

def Event.announcedSet : Event → Option ParameterSet
  | .updateSps sps .. => some (.sps sps)
  | .updatePps active .. => some (.pps active.pps)
  | _ => none

def Event.isParserResult : Event → Bool
  | .parserParseSps _ | .parserParsePps _ => true
  | _ => false

/-- The sets that the parser parsed with success, and those that UpdatePictureParameters was called
for, newest first. Each comes with the number of its NAL unit, of all that the parser was given. -/
def parsedSets (log : List Event) : List (Nat × ParameterSet) :=
  Histories.numbered Event.isParserResult Event.parsedSet log

def announcedSets (log : List Event) : List (Nat × ParameterSet) :=
  Histories.numbered Event.isParserResult Event.announcedSet log

section Trace

/-- No parameter set is read or announced. -/
def AddsNoSet (log log' : List Event) : Prop :=
  ∃ l, log' = l ++ log ∧ ∀ e ∈ l, e.isParserResult = false ∧ e.parsedSet = none ∧ e.announcedSet = none

lemma addsNoSet_of_eq {log log' : List Event} (h : log' = log) : AddsNoSet log log' := ⟨[], h, by simp⟩

lemma addsNoSet_cons {e : Event} (h : e.isParserResult = false ∧ e.parsedSet = none ∧ e.announcedSet = none)
    (log : List Event) : AddsNoSet log (e :: log) := ⟨[e], rfl, by simpa using h⟩

lemma Store.OnlyReleases.addsNoSet {a b : Store} (h : Store.OnlyReleases a b) : AddsNoSet a.log b.log := by
  obtain ⟨l, hl, hr⟩ := h
  refine ⟨l, hl, fun e he => ?_⟩
  have := hr e he
  cases e <;> first | exact ⟨rfl, rfl, rfl⟩ | cases this

/-- A move announces no set, or the parser failed, or a set is parsed and announced at once. -/
lemma Act.sets (h : Act env x y) :
    AddsNoSet x.2.store.log y.2.store.log ∨
      (∃ e : Event, y.2.store.log = e :: x.2.store.log ∧ e.isParserResult ∧ e.parsedSet = none ∧ e.announcedSet = none) ∨
      ∃ (e u : Event) (set : ParameterSet), y.2.store.log = u :: e :: x.2.store.log ∧ e.isParserResult ∧
        e.parsedSet = some set ∧ e.announcedSet = none ∧ u.isParserResult = false ∧ u.parsedSet = none ∧
        u.announcedSet = some set := by
  cases h with
  | updateSps sps => exact .inr (.inr ⟨_, _, .sps sps, rfl, rfl, rfl, rfl, rfl, rfl, rfl⟩)
  | updatePps pps => exact .inr (.inr ⟨_, _, .pps pps, rfl, rfl, rfl, rfl, rfl, rfl, rfl⟩)
  | parserParseSps | parserParsePps => exact .inr (.inl ⟨_, rfl, rfl, rfl, rfl⟩)
  | book h => exact .inl (addsNoSet_of_eq h.log)
  | number h | mark p hp hk h => exact .inl (addsNoSet_of_eq h.log)
  | unref p hp | unrefCurrent p hk | unrefLast p hp => exact .inl (Store.onlyReleases_unref _ _).addsNoSet
  | deleteUnused => exact .inl (Store.onlyReleases_dpbDeleteUnused _).addsNoSet
  | bump drain p hp => exact .inl (Store.onlyReleases_dpbBump _ _).addsNoSet
  | dpbClear hp => exact .inl (Store.onlyReleases_dpbClear _).addsNoSet
  | add p hp hr | addLast p q hp hr =>
    obtain ⟨info, hlog⟩ := Store.addPicture_log _ _
    exact .inl ⟨[.storing info], hlog, by simp [Event.isParserResult, Event.parsedSet, Event.announcedSet]⟩
  | alloc p hp =>
    left
    unfold Decoder.allocPicture
    simp only
    split <;> exact addsNoSet_cons ⟨rfl, rfl, rfl⟩ _
  | removeFrame h => cases h <;> exact .inl (addsNoSet_cons ⟨rfl, rfl, rfl⟩ _)
  | parserUpdateSps | beginSequence | unhandledNALU | lastFieldNotNull | showRemoving | showPlacing
  | rememberRef | rememberPicture | showOrderCount | showBumping | flush
  | finishFrame | start | slice | endPicture | losePicture | display =>
    exact .inl (addsNoSet_cons ⟨rfl, rfl, rfl⟩ _)
  | _ => exact .inl (addsNoSet_of_eq rfl)

lemma announced_of_reach (h : ReflTransGen (Act env) (Phase.idle, Decoder.start env) x) :
    parsedSets x.2.store.log = announcedSets x.2.store.log := by
  unfold parsedSets announcedSets
  induction h with
  | refl => rfl
  | tail _ hact ih =>
    rcases hact.sets with ⟨l, hl, h⟩ | ⟨e, hl, hm, hp, ha⟩ | ⟨e, u, set, hl, hm, hp, ha, hmu, hpu, hau⟩
    · rw [hl]
      exact (Histories.numbered_eq_append (fun e he => (h e he).1) (fun e he => (h e he).2.1) fun e he => (h e he).2.2).mpr ih
    · rw [hl]
      exact (Histories.numbered_eq_cons hm ha).mpr ⟨hp, ih⟩
    · rw [hl]
      exact (Histories.numbered_eq_cons_cons hm hmu hpu ha hau (.inr hp)).mpr ⟨hp, ih⟩

/-- Whatever the NAL units, in the stream or in the codec data, every set that is parsed is announced,
once and in order, and no other. -/
lemma announced_parsed (env : Env P) (inputs : List Input) :
    announcedSets (final (runInputs env inputs (Decoder.start env))).store.log =
      parsedSets (final (runInputs env inputs (Decoder.start env))).store.log := by
  obtain ⟨k, hk⟩ := reach_final env inputs
  exact (announced_of_reach hk).symm

end Trace

section Contents

def Event.shownSps : Event → Option (GstH264SPS × StdSps)
  | .updateSps sps set .. => some (sps, set)
  | _ => none

/-- The PPS comes with the SPS it points to. -/
def Event.shownPps : Event → Option (Activation × StdPps)
  | .updatePps active set .. => some (active, set)
  | _ => none

/-- An announcement shows the set. -/
structure Event.ShowsSet (e : Event) : Prop where
  sps : ∀ a ∈ e.shownSps, a.2 = stdSpsOf a.1
  pps : ∀ a ∈ e.shownPps, a.2 = stdPpsOf a.1.pps a.1.sps

lemma showsSet_of_other {e : Event} (h : e.announcedSet = none) : e.ShowsSet := by
  cases e with
  | updateSps | updatePps => cases h
  | _ => exact ⟨by simp [Event.shownSps], by simp [Event.shownPps]⟩

lemma showsSet_updateSps (sps : GstH264SPS) (vkp : VkH264Picture) {count : Nat} {ok : Bool}
    {client : Option ClientObject} {w h m : Nat} {i : Bool} :
    (Event.updateSps sps (fillSps sps vkp).stdSps count ok client w h m i).ShowsSet :=
  ⟨by simp [Event.shownSps, stdSps_fillSps], by simp [Event.shownPps]⟩

lemma showsSet_updatePps (active : Activation) (vkp : VkH264Picture) {count : Nat} {ok : Bool}
    {client : Option ClientObject} :
    (Event.updatePps active (fillPps active.pps active.sps vkp).stdPps count ok client).ShowsSet :=
  ⟨by simp [Event.shownSps], by simp [Event.shownPps, stdPps_fillPps]⟩

lemma Speaks.showsSet (h : Speaks env x y) (hx : ∀ e ∈ H264.calls x.2.store.log, e.ShowsSet) :
    ∀ e ∈ H264.calls y.2.store.log, e.ShowsSet := by
  have hcons : ∀ e : Event, e.ShowsSet → H264.calls y.2.store.log = e :: H264.calls x.2.store.log →
      ∀ e ∈ H264.calls y.2.store.log, e.ShowsSet := by
    intro e he hl
    rw [hl, List.forall_mem_cons]
    exact ⟨he, hx⟩
  cases h with
  | configure | rejectSps => exact hx
  | updateSps sps => exact hcons _ (showsSet_updateSps sps _) rfl
  | updatePps pps => exact hcons _ (showsSet_updatePps _ _) rfl
  | alloc p hp hv =>
    rename_i k s
    cases hr : env.allocPictureBuffer s.store.log with
    | none => exact hcons _ (showsSet_of_other rfl) (by rw [allocPicture_none p hr]; rfl)
    | some pic => exact hcons _ (showsSet_of_other rfl) (by rw [allocPicture_some p hr]; rfl)
  | _ => exact hcons _ (showsSet_of_other rfl) rfl

lemma announcements_shown (env : Env P) (inputs : List Input) :
    ∀ e ∈ clientCalls env inputs, e.ShowsSet := by
  obtain ⟨k, hk⟩ := reach_final env inputs
  refine kept (I := fun x : Phase × Decoder P => ∀ e ∈ calls x.2.store.log, e.ShowsSet) (fun x y h hx => ?_) hk ?_
  · rcases h.speaks with hs | hs
    · rw [hs.calls]
      exact hx
    · exact hs.showsSet hx
  · exact fun e he => by cases he

/-- The same set is shown in the same way. A PPS is taken with the id of the SPS it points to. -/
structure SameShown (e e' : Event) : Prop where
  sps : ∀ a ∈ e.shownSps, ∀ b ∈ e'.shownSps, a.1 = b.1 → a.2 = b.2
  pps : ∀ a ∈ e.shownPps, ∀ b ∈ e'.shownPps, a.1.pps = b.1.pps → a.1.sps.id = b.1.sps.id → a.2 = b.2

lemma Event.ShowsSet.same {e e' : Event} (h : e.ShowsSet) (h' : e'.ShowsSet) : SameShown e e' := by
  refine ⟨fun a ha b hb hab => ?_, fun a ha b hb hpps hid => ?_⟩
  · rw [h.sps a ha, h'.sps b hb, hab]
  · rw [h.pps a ha, h'.pps b hb]
    simp only [stdPpsOf, VkH264Picture.stdPps, fillPps, fillStdPps, hpps, hid]

lemma always_showsSet (env : Env P) (inputs : List Input) :
    Histories.Always (fun _ e => e.ShowsSet) (final (runInputs env inputs (Decoder.start env))).store.log := by
  refine Histories.always_iff.mpr fun e l hl => ?_
  cases hc : e.isCall with
  | true => exact announcements_shown env inputs e ((mem_calls hc).mpr (hl.mem List.mem_cons_self))
  | false =>
    refine showsSet_of_other ?_
    cases e <;> first | rfl | cases hc

end Contents

section Rejection

lemma Act.calls_suffix (h : Act env x y) : calls x.2.store.log <:+ calls y.2.store.log := by
  rcases h.speaks with hs | hs
  · rw [hs.calls]
  · rcases hs.calls with he | ⟨e, he⟩
    · rw [he]
    · rw [he]
      exact List.suffix_cons _ _

lemma calls_suffix_of_reach (h : ReflTransGen (Act env) x y) : calls x.2.store.log <:+ calls y.2.store.log := by
  induction h with
  | refl => exact List.suffix_rfl
  | tail _ hact ih => exact ih.trans hact.calls_suffix

/-- The sequence that is set up and the stored pictures are as before. -/
structure SequenceKept (s t : Decoder P) : Prop where
  width : t.width = s.width
  height : t.height = s.height
  profileIdc : t.profileIdc = s.profileIdc
  dpb : t.store.dpb = s.store.dpb
  pic : ∀ q ∈ s.store.dpb.picList, t.pic q = s.pic q

/-- The element's slot and its counters are as before too, and the client was told nothing. -/
structure Untouched (s t : Decoder P) : Prop extends SequenceKept s t where
  vkp : t.vkp = s.vkp
  spsUpdateCount : t.spsUpdateCount = s.spsUpdateCount
  ppsUpdateCount : t.ppsUpdateCount = s.ppsUpdateCount
  calls : calls t.store.log = calls s.store.log

/-- The sequence is as before, and the client was told one set. -/
structure OnlyAnnounced (s t : Decoder P) (set : ParameterSet) : Prop extends SequenceKept s t where
  calls : ∃ e : Event, e.announcedSet = some set ∧ calls t.store.log = e :: calls s.store.log

/-- What makes process_sps refuse an SPS before it changes anything: an unknown level, or too many
frames to be reordered in the sequence that is set up already. -/
def refusedAtOnce (s : Decoder P) (sps : GstH264SPS) : Prop :=
  maxDpbMbs sps = 0 ∨ (sameSequence s sps ∧ sps.vuiParametersPresentFlag ∧ sps.vuiParameters.bitstreamRestrictionFlag ∧
    s.store.dpb.maxNumFrames < sps.vuiParameters.numReorderFrames)

lemma SequenceKept.of_store {s t : Decoder P} (h : (t.width, t.height, t.profileIdc) = (s.width, s.height, s.profileIdc))
    (hd : t.store.dpb = s.store.dpb) (hp : t.store.pic = s.store.pic) : SequenceKept s t := by
  simp only [Prod.mk.injEq] at h
  exact ⟨h.1, h.2.1, h.2.2, hd, fun q _ => congrFun hp q⟩

lemma updateMaxNumReorderFrames_refused {sps : GstH264SPS} (hvui : sps.vuiParametersPresentFlag)
    (hrestr : sps.vuiParameters.bitstreamRestrictionFlag)
    (hmax : s.store.dpb.maxNumFrames < sps.vuiParameters.numReorderFrames) :
    updateMaxNumReorderFrames env sps s = .ok false s := by
  unfold updateMaxNumReorderFrames
  rw [run_bind, run_get]
  simp only [hvui, hrestr, hmax, Bool.and_self, if_true, run_pure]

lemma processSps_refused {sps : GstH264SPS} {ret : GstFlowReturn} (h : refusedAtOnce s sps)
    (hp : processSps env sps s = .ok ret t) : ret = .error ∧ t = s := by
  unfold processSps at hp
  split at hp
  · cases hp
    exact ⟨rfl, rfl⟩
  · rename_i hlevel
    obtain ⟨hsame, hvui, hrestr, hmax⟩ := h.resolve_left hlevel
    split at hp
    · cases hp
    · have hchange : changeSequenceIfNew env sps s = .ok .ok s := by
        unfold changeSequenceIfNew
        rw [run_bind, run_get]
        simp only [hsame, if_true, run_pure]
      rw [run_bind, hchange] at hp
      simp only [ne_eq, not_true_eq_false, if_false] at hp
      rw [run_bind, updateMaxNumReorderFrames_refused hvui hrestr hmax] at hp
      cases hp
      exact ⟨rfl, rfl⟩

lemma vkUpdateSps_announces (sps : GstH264SPS) :
    OnlyAnnounced s ((s.emit (.parserParseSps (some sps))).updateSps env sps) (.sps sps) :=
  ⟨.of_store rfl rfl rfl, _, rfl, rfl⟩

lemma vkUpdatePps_announces (pps : GstH264PPS) :
    OnlyAnnounced s ((s.emit (.parserParsePps (some pps))).updatePps env pps) (.pps pps) :=
  ⟨.of_store rfl rfl rfl, _, rfl, rfl⟩

lemma parseSps_unread {nalu : GstH264NalUnit} {ret : GstFlowReturn} (h : parseSps env nalu s = .ok ret t)
    (hn : env.parser.parseSps nalu = none) : Untouched s t := by
  unfold parseSps at h
  rw [hn] at h
  cases h
  exact ⟨.of_store rfl rfl rfl, rfl, rfl, rfl, rfl⟩

lemma parseSps_refused {nalu : GstH264NalUnit} {ret : GstFlowReturn} {sps : GstH264SPS}
    (h : parseSps env nalu s = .ok ret t) (hn : env.parser.parseSps nalu = some sps)
    (hr : refusedAtOnce s sps) : OnlyAnnounced s t (.sps sps) := by
  unfold parseSps at h
  rw [hn] at h
  obtain ⟨r, u, hu, h⟩ := bind_eq_ok (show (processSps env sps >>= _)
    ((s.emit (.parserParseSps (some sps))).updateSps env sps) = _ from h)
  have hr : refusedAtOnce ((s.emit (.parserParseSps (some sps))).updateSps env sps) sps := hr
  obtain ⟨rfl, rfl⟩ := processSps_refused hr hu
  cases h
  exact vkUpdateSps_announces sps

lemma parseSps_announced {nalu : GstH264NalUnit} {ret : GstFlowReturn} {sps : GstH264SPS}
    (h : parseSps env nalu s = .ok ret t) (hn : env.parser.parseSps nalu = some sps) :
    ∃ e : Event, e.announcedSet = some (.sps sps) ∧ e :: calls s.store.log <:+ calls t.store.log := by
  unfold parseSps at h
  rw [hn] at h
  obtain ⟨r, u, hu, h⟩ := bind_eq_ok (show (processSps env sps >>= _)
    ((s.emit (.parserParseSps (some sps))).updateSps env sps) = _ from h)
  have hannounced : OnlyAnnounced s ((s.emit (.parserParseSps (some sps))).updateSps env sps) (.sps sps) :=
    vkUpdateSps_announces sps
  obtain ⟨e, he, hcalls⟩ := hannounced.calls
  have hsuffix : calls ((s.emit (.parserParseSps (some sps))).updateSps env sps).store.log <:+ calls u.store.log := by
    have hm : Moves (Act env) .idle (processSps env sps) ((s.emit (.parserParseSps (some sps))).updateSps env sps) _ :=
      processSps_moves sps rfl
    unfold Moves at hm
    rw [hu] at hm
    obtain ⟨k', hk, -⟩ := hm
    exact calls_suffix_of_reach hk
  refine ⟨e, he, (hcalls ▸ hsuffix).trans ?_⟩
  split at h
  · cases h
    exact List.suffix_rfl
  · rw [run_bind, run_get] at h
    cases hp : env.parser.updateSps u.parser sps with
    | none =>
      simp only [hp] at h
      cases h
      exact List.suffix_cons _ _
    | some parser =>
      simp only [hp] at h
      cases h
      exact List.suffix_cons _ _

lemma parsePps_unread {nalu : GstH264NalUnit} {ret : GstFlowReturn} (h : parsePps env nalu s = .ok ret t)
    (hn : env.parser.parsePps s.parser nalu = none) : Untouched s t := by
  unfold parsePps at h
  rw [run_bind, run_get] at h
  simp only [hn] at h
  cases h
  exact ⟨.of_store rfl rfl rfl, rfl, rfl, rfl, rfl⟩

-- what gst_h264_decoder_parse_pps does once the PPS is announced
def storePps (env : Env P) (pps : GstH264PPS) : DecoderM P GstFlowReturn := do
  if 0 < pps.numSliceGroupsMinus1 then return .error
  else
    match env.parser.updatePps (← get).parser pps with
    | none => return .error
    | some parser => do
      modify (Decoder.setParser parser)
      return .ok

lemma parsePps_refused {nalu : GstH264NalUnit} {ret : GstFlowReturn} {pps : GstH264PPS}
    (h : parsePps env nalu s = .ok ret t) (hret : ret ≠ .ok) (hn : env.parser.parsePps s.parser nalu = some pps) :
    OnlyAnnounced s t (.pps pps) := by
  unfold parsePps at h
  rw [run_bind, run_get] at h
  simp only [hn] at h
  have h : storePps env pps ((s.emit (.parserParsePps (some pps))).updatePps env pps) = .ok ret t := h
  unfold storePps at h
  split at h
  · cases h
    exact vkUpdatePps_announces pps
  · rw [run_bind, run_get] at h
    cases hu : env.parser.updatePps ((s.emit (.parserParsePps (some pps))).updatePps env pps).parser pps with
    | none =>
      simp only [hu] at h
      cases h
      exact vkUpdatePps_announces pps
    | some parser =>
      simp only [hu] at h
      cases h
      exact absurd rfl hret

/-- A NAL unit that the parser does not read changes nothing. A set that is read but rejected was
announced first; nothing else comes of a PPS, nor of an SPS that is refused at once. -/
theorem rejected_set (env : Env P) (s t : Decoder P) (nalu : GstH264NalUnit) (ret : GstFlowReturn)
    (hret : ret ≠ .ok) :
    (parseSps env nalu s = .ok ret t →
      (env.parser.parseSps nalu = none → Untouched s t) ∧
        ∀ sps, env.parser.parseSps nalu = some sps →
          (∃ e : Event, e.announcedSet = some (.sps sps) ∧ e :: calls s.store.log <:+ calls t.store.log) ∧
            (refusedAtOnce s sps → OnlyAnnounced s t (.sps sps))) ∧
    (parsePps env nalu s = .ok ret t →
      (env.parser.parsePps s.parser nalu = none → Untouched s t) ∧
        ∀ pps, env.parser.parsePps s.parser nalu = some pps → OnlyAnnounced s t (.pps pps)) :=
  ⟨fun h => ⟨parseSps_unread h, fun _ hsps => ⟨parseSps_announced h hsps, parseSps_refused h hsps⟩⟩,
    fun h => ⟨parsePps_unread h, fun _ hpps => parsePps_refused h hret hpps⟩⟩

section Examples

/-- A picture with its sets, and a second PPS with slice groups. -/
def groupsScript : Script where
  sps := [Script.progressive]
  pps := [{}, { id := 1, numSliceGroupsMinus1 := 1 }]
  slices := [{}]

-- the picture is stored, its sequence begun
def groupsStart : Decoder Tables := final (runInputs groupsScript.env
  (Script.frames [[Script.spsUnit 0, Script.ppsUnit 0, Script.idrUnit 0]]) (Decoder.start groupsScript.env))

theorem rejectedPps_announced :
    ¬∀ ret, parsePps groupsScript.env (Script.ppsUnit 1) groupsStart =
        .ok ret (final (parsePps groupsScript.env (Script.ppsUnit 1) groupsStart)) →
      ret ≠ .ok → Untouched groupsStart (final (parsePps groupsScript.env (Script.ppsUnit 1) groupsStart)) := by
  intro h
  exact absurd (h .error rfl (by simp)).ppsUpdateCount (by decide +kernel)

theorem rejected_set_groups :
    groupsStart.store.dpb.picList = [0] ∧ (groupsStart.sps groupsScript.env).isSome ∧
      OnlyAnnounced groupsStart (final (parsePps groupsScript.env (Script.ppsUnit 1) groupsStart))
        (.pps { id := 1, numSliceGroupsMinus1 := 1 }) :=
  ⟨by decide +kernel, by decide +kernel,
    ((rejected_set groupsScript.env groupsStart _ (Script.ppsUnit 1) .error (by simp)).2 rfl).2 _ rfl⟩

end Examples

end Rejection

end VkVideoParser.H264
