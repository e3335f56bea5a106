import VkVideoParser.H265.Runs
import VkVideoParser.H265.Script
import VkVideoParser.Library.Histories

/-! The parameter sets that the parser reads and those that are announced to the client. -/

namespace VkVideoParser.H265

open Execution Relation Histories

variable {P : Type} {env : Env P} {s : Decoder P} {x y : Phase × Decoder P}

inductive ParameterSet
  | vps (vps : GstH265VPS)
  | sps (sps : GstH265SPS)
  | pps (pps : GstH265PPS)
  deriving DecidableEq

def Event.isParserResult : Event → Bool
  | .parserParseVps .. | .parserParseSps .. | .parserParsePps .. => true
  | _ => false

def Event.parsedSet : Event → Option ParameterSet
  | .parserParseVps _ true vps => some (.vps vps)
  | .parserParseSps _ result => result.map .sps
  | .parserParsePps _ true pps => some (.pps pps)
  | _ => none

def Event.announcedSet : Event → Option ParameterSet
  | .updateVps vps .. => some (.vps vps)
  | .updateSps sps .. => some (.sps sps)
  | .updatePps pps .. => some (.pps pps)
  | _ => none

/-- The sets that the parser parsed with success, and those that UpdatePictureParameters was called
for, newest first. Each comes with the number of its NAL unit, of all that the parser was given. -/
def parsedSets (log : List Event) : List (Nat × ParameterSet) := numbered Event.isParserResult Event.parsedSet log

def announcedSets (log : List Event) : List (Nat × ParameterSet) :=
  numbered Event.isParserResult Event.announcedSet log

/-- The result is announced as it should: a VPS or PPS in the stream did not fail, and a PPS of the
codec data did. -/
def Event.announcedRight : Event → Bool
  | .parserParseVps .inBand ok _ | .parserParsePps .inBand ok _ => ok
  | .parserParsePps .codecData ok _ => !ok
  | _ => true

/-- No parameter set is read or announced. -/
def AddsNoSet (log log' : List Event) : Prop :=
  ∃ l, log' = l ++ log ∧ ∀ e ∈ l, e.isParserResult = false ∧ e.parsedSet = none ∧ e.announcedSet = none

lemma addsNoSet_of_eq {log log' : List Event} (h : log' = log) : AddsNoSet log log' := ⟨[], h, by simp⟩

lemma addsNoSet_cons {e : Event} (h : e.isParserResult = false ∧ e.parsedSet = none ∧ e.announcedSet = none)
    (log : List Event) : AddsNoSet log (e :: log) := ⟨[e], rfl, by simpa using h⟩

lemma Store.Keeps.addsNoSet {a b : Store} (h : Store.Keeps a b) : AddsNoSet a.log b.log := by
  obtain ⟨l, hl, hr⟩ := h.log
  refine ⟨l, hl, fun e he => ?_⟩
  have := hr e he
  cases e <;> first | exact ⟨rfl, rfl, rfl⟩ | cases this

lemma announcedRight_of_other {e : Event} (h : e.isParserResult = false) : e.announcedRight := by
  cases e <;> first | rfl | cases h

/-- The result `e` of the parser is announced by `u`, right or not. -/
structure Announces (e u : Event) (set : ParameterSet) : Prop where
  result : e.isParserResult
  parsed : e.parsedSet = none ∨ e.parsedSet = some set
  right : e.announcedRight ↔ e.parsedSet = some set
  later : e.announcedSet = none
  other : u.isParserResult = false
  unparsed : u.parsedSet = none
  announced : u.announcedSet = some set

/-- An announcement fills the slot and shows what it holds then. -/
inductive Fills : Event → VkH265Picture → VkH265Picture → Prop
  | vps (vps : GstH265VPS) (count : Nat) (ok : Bool) (client : Option ClientObject) (vkp : VkH265Picture) :
    Fills (.updateVps vps (fillVps vps vkp).stdVps count ok client) vkp (fillVps vps vkp)
  | sps (sps : GstH265SPS) (v : Option GstH265VPS) (count : Nat) (ok : Bool) (client : Option ClientObject)
    (vkp : VkH265Picture) : Fills (.updateSps sps v (fillSps sps v vkp).stdSps count ok client) vkp (fillSps sps v vkp)
  | pps (pps : GstH265PPS) (count : Nat) (ok : Bool) (client : Option ClientObject) (vkp : VkH265Picture) :
    Fills (.updatePps pps (fillPps pps vkp).stdPps count ok client) vkp (fillPps pps vkp)

lemma kept_startVkp (slice : GstH265Slice) (s : Decoder P) : (s.startVkp env slice).kept = s.vkp.kept := by
  unfold Decoder.startVkp overrideLists
  split
  · rfl
  · split <;> rfl

lemma Unannounced.right {e : Event} (h : Unannounced e) :
    e.isParserResult ∧ e.announcedSet = none ∧ (e.announcedRight ↔ e.parsedSet = none) := by
  cases h with
  | vps vps => exact ⟨rfl, rfl, by simp [Event.announcedRight, Event.parsedSet]⟩
  | sps carrier => exact ⟨rfl, rfl, by simp [Event.announcedRight, Event.parsedSet]⟩
  | pps ok pps => cases ok <;> exact ⟨rfl, rfl, by simp [Event.announcedRight, Event.parsedSet]⟩

/-- A move announces no set, or the parser's result is not announced, or it is at once. -/
lemma Act.sets (h : Act env x y) :
    (AddsNoSet x.2.store.log y.2.store.log ∧ y.2.vkp.kept = x.2.vkp.kept) ∨
      (∃ e, y.2.store.log = e :: x.2.store.log ∧ Unannounced e ∧ y.2.vkp.kept = x.2.vkp.kept) ∨
      ∃ e u set, y.2.store.log = u :: e :: x.2.store.log ∧ Announces e u set ∧ Fills u x.2.vkp y.2.vkp := by
  cases h with
  | parsed parser h => exact .inr (.inl ⟨_, rfl, h, rfl⟩)
  | @updateVps k s ok c vps nalu parser hk hparse hc =>
    refine .inr (.inr ⟨.parserParseVps c ok vps, _, .vps vps, rfl, ⟨rfl, ?_, ?_, rfl, rfl, rfl, rfl⟩, .vps vps _ _ _ _⟩)
    · cases ok <;> simp [Event.parsedSet]
    · cases c <;> cases ok <;> simp [Event.parsedSet, Event.announcedRight] at hc ⊢
  | updateSps c sps nalu parser =>
    refine .inr (.inr ⟨.parserParseSps c (some sps), _, .sps sps, rfl, ⟨rfl, .inr rfl, ?_, rfl, rfl, rfl, rfl⟩, .sps sps _ _ _ _ _⟩)
    simp [Event.parsedSet, Event.announcedRight]
  | @updatePps k s ok pps nalu parser =>
    refine .inr (.inr ⟨.parserParsePps .inBand ok pps, _, .pps pps, rfl, ⟨rfl, ?_, ?_, rfl, rfl, rfl, rfl⟩, .pps pps _ _ _ _⟩)
    · cases ok <;> simp [Event.parsedSet]
    · cases ok <;> simp [Event.parsedSet, Event.announcedRight]
  | book h => exact .inl ⟨addsNoSet_of_eq h.log, congrArg VkH265Picture.kept h.vkp⟩
  | unref p hp hr => exact .inl ⟨(Store.keeps_unref _ _).addsNoSet, rfl⟩
  | unrefCurrent p hk => exact .inl ⟨(Store.keeps_unref _ _).addsNoSet, rfl⟩
  | clearSets => exact .inl ⟨(Store.keeps_unrefAll _ _).addsNoSet, rfl⟩
  | deriveSets p pocs hk hs => exact .inl ⟨(Store.keeps_deriveAndMarkRps pocs _).addsNoSet, rfl⟩
  | markAllNonRef => exact .inl ⟨(Store.keeps_dpbMarkAllNonRef _).addsNoSet, rfl⟩
  | deleteUnused => exact .inl ⟨(Store.keeps_dpbDeleteUnused _).addsNoSet, rfl⟩
  | add p hp => exact .inl ⟨(Store.keeps_storePicture p _).addsNoSet, rfl⟩
  | bump drain p hp => exact .inl ⟨(Store.keeps_dpbBump drain _).addsNoSet, rfl⟩
  | dpbClear hp => exact .inl ⟨(Store.keeps_dpbClear _).addsNoSet, rfl⟩
  | alloc p hk hv =>
    left
    unfold Decoder.allocPicture
    simp only
    split <;> exact ⟨addsNoSet_cons ⟨rfl, rfl, rfl⟩ _, rfl⟩
  | start p slice => exact .inl ⟨addsNoSet_cons ⟨rfl, rfl, rfl⟩ _, kept_startVkp slice _⟩
  | removeFrame h => cases h <;> exact .inl ⟨addsNoSet_cons ⟨rfl, rfl, rfl⟩ _, rfl⟩
  | beginSequence | processSps | unhandledNALU | showOrderCount | showBumping | flush | finishFrame | slice | endPicture | display =>
    exact .inl ⟨addsNoSet_cons ⟨rfl, rfl, rfl⟩ _, rfl⟩
  | _ => exact .inl ⟨addsNoSet_of_eq rfl, rfl⟩

lemma announced_of_reach (h : ReflTransGen (Act env) (Phase.idle, Decoder.start env) x) :
    parsedSets x.2.store.log = announcedSets x.2.store.log ↔ ∀ e ∈ x.2.store.log, e.announcedRight := by
  unfold parsedSets announcedSets
  induction h with
  | refl => exact ⟨fun _ => by simp [Decoder.start], fun _ => rfl⟩
  | tail _ hact ih =>
    rcases hact.sets with ⟨⟨l, hl, h⟩, -⟩ | ⟨e, hl, he, -⟩ | ⟨e, u, set, hl, h, -⟩
    · rw [hl, numbered_eq_append (fun e he => (h e he).1) (fun e he => (h e he).2.1) fun e he => (h e he).2.2, ih,
        List.forall_mem_append]
      exact ⟨fun h' => ⟨fun e he => announcedRight_of_other (h e he).1, h'⟩, fun h' => h'.2⟩
    · obtain ⟨hresult, hlater, hright⟩ := he.right
      rw [hl, numbered_eq_cons hresult hlater, ih, List.forall_mem_cons, hright]
    · rw [hl, numbered_eq_cons_cons h.result h.other h.unparsed h.later h.announced h.parsed, ih, List.forall_mem_cons,
        List.forall_mem_cons, h.right]
      exact ⟨fun h' => ⟨announcedRight_of_other h.other, h'⟩, fun h' => h'.2⟩

/-- Every set that is parsed is announced, once and in order, and no other, if and only if no VPS or PPS in
the stream failed and the codec data had no PPS that is one. -/
lemma announced_parsed (env : Env P) (inputs : List Input) :
    announcedSets (final (runInputs env inputs (Decoder.start env))).store.log =
        parsedSets (final (runInputs env inputs (Decoder.start env))).store.log ↔
      ∀ e ∈ (final (runInputs env inputs (Decoder.start env))).store.log, e.announcedRight := by
  obtain ⟨k, hk⟩ := reach_final env inputs
  rw [eq_comm]
  exact announced_of_reach hk

section Slot

def ParameterSet.picBufMgr : ParameterSet → Option StdVideoH265DecPicBufMgr
  | .vps a => some (fillPicBufMgr a)
  | _ => none

def ParameterSet.vui : ParameterSet → Option StdVideoH265SequenceParameterSetVui
  | .sps a => pointee a.vuiParametersPresentFlag (fillVui a.vuiParams)
  | _ => none

def ParameterSet.hrd : ParameterSet → Option StdVideoH265HrdParameters
  | .sps a =>
    pointee (a.vuiParametersPresentFlag && a.vuiParams.hrdParametersPresentFlag) (fillHrd a.vuiParams.hrdParams)
  | _ => none

/-- What the announced sets leave in the slot for the next one: the buffering of the last VPS and the last VUI
and HRD that an SPS carried. -/
def announcedSlot (log : List Event) : VkH265Picture where
  picBufMgr := (log.findSome? fun e => e.announcedSet.bind ParameterSet.picBufMgr).getD {}
  vui := (log.findSome? fun e => e.announcedSet.bind ParameterSet.vui).getD {}
  hrd := (log.findSome? fun e => e.announcedSet.bind ParameterSet.hrd).getD {}

def Event.shownVps : Event → Option (GstH265VPS × StdVps)
  | .updateVps vps set .. => some (vps, set)
  | _ => none

/-- The SPS with the VPS it points to. -/
def Event.shownSps : Event → Option (GstH265SPS × Option GstH265VPS × StdSps)
  | .updateSps sps vps set .. => some (sps, vps, set)
  | _ => none

def Event.shownPps : Event → Option (GstH265PPS × StdPps)
  | .updatePps pps set .. => some (pps, set)
  | _ => none

/-- An announcement shows the set, and of an SPS also what `slot` held. -/
structure Event.ShowsSet (slot : VkH265Picture) (e : Event) : Prop where
  vps : ∀ x ∈ e.shownVps, x.2 = stdVpsOf x.1
  sps : ∀ x ∈ e.shownSps, x.2.2 = (fillSps x.1 x.2.1 slot).stdSps
  pps : ∀ x ∈ e.shownPps, x.2 = stdPpsOf x.1

variable {log : List Event} {e u : Event}

lemma announcedSlot_cons (h : e.announcedSet = none) : announcedSlot (e :: log) = announcedSlot log := by
  simp only [announcedSlot, List.findSome?_cons, h, Option.bind_none]

lemma announcedSlot_append {l : List Event} (h : ∀ e ∈ l, e.announcedSet = none) :
    announcedSlot (l ++ log) = announcedSlot log := by
  induction l with
  | nil => rfl
  | cons e l ih =>
    rw [List.cons_append, announcedSlot_cons (h e List.mem_cons_self), ih fun e he => h e (List.mem_cons_of_mem _ he)]

lemma showsSet_of_other {slot : VkH265Picture} (h : e.announcedSet = none) : e.ShowsSet slot := by
  cases e with
  | updateVps | updateSps | updatePps => cases h
  | _ => exact ⟨by simp [Event.shownVps], by simp [Event.shownSps], by simp [Event.shownPps]⟩

lemma Fills.kept {a b : VkH265Picture} (h : Fills u a b) (ha : a.kept = (announcedSlot log).kept) :
    b.kept = (announcedSlot (u :: log)).kept := by
  cases h with
  | vps vps =>
    rw [kept_fillVps, ha]
    rfl
  | pps pps =>
    rw [kept_fillPps, ha]
    rfl
  | sps sps v =>
    simp only [VkH265Picture.kept, Prod.mk.injEq] at ha
    simp only [VkH265Picture.kept, fillSps, ha.1, ha.2.1, ha.2.2, announcedSlot, List.findSome?_cons,
      Event.announcedSet, Option.bind_some, ParameterSet.picBufMgr, ParameterSet.vui, ParameterSet.hrd]
    cases sps.vuiParametersPresentFlag <;> cases sps.vuiParams.hrdParametersPresentFlag <;> simp [pointee]

lemma Fills.showsSet {a b : VkH265Picture} (h : Fills u a b) (ha : a.kept = (announcedSlot log).kept) :
    u.ShowsSet (announcedSlot log) := by
  cases h with
  | vps vps => exact ⟨by simp [Event.shownVps, stdVps_fillVps], by simp [Event.shownSps], by simp [Event.shownPps]⟩
  | sps sps v =>
    refine ⟨by simp [Event.shownVps], ?_, by simp [Event.shownPps]⟩
    rintro _ ⟨⟩
    exact stdSps_congr ha
  | pps pps => exact ⟨by simp [Event.shownVps], by simp [Event.shownSps], by simp [Event.shownPps, stdPps_fillPps]⟩

/-- The slot follows the announced sets, and so does what they show. -/
structure SlotFollows (x : Phase × Decoder P) : Prop where
  slot : x.2.vkp.kept = (announcedSlot x.2.store.log).kept
  told : Always (fun l e => e.ShowsSet (announcedSlot l)) x.2.store.log

lemma slotFollows_of_reach (h : ReflTransGen (Act env) (Phase.idle, Decoder.start env) x) : SlotFollows x := by
  induction h with
  | refl => exact ⟨rfl, trivial⟩
  | tail _ hact ih =>
    rcases hact.sets with ⟨⟨l, hl, h⟩, hkept⟩ | ⟨e, hl, he, hkept⟩ | ⟨e, u, set, hl, h, hfills⟩
    · refine ⟨?_, ?_⟩
      · rw [hl, announcedSlot_append fun e he => (h e he).2.2, hkept, ih.slot]
      · rw [hl]
        clear hl
        induction l with
        | nil => exact ih.told
        | cons e l ihl =>
          exact ⟨showsSet_of_other (h e List.mem_cons_self).2.2, ihl fun e he => h e (List.mem_cons_of_mem _ he)⟩
    · refine ⟨?_, ?_⟩
      · rw [hl, announcedSlot_cons he.right.2.1, hkept, ih.slot]
      · rw [hl]
        exact ⟨showsSet_of_other he.right.2.1, ih.told⟩
    · have hslot := ih.slot.trans (congrArg VkH265Picture.kept (announcedSlot_cons h.later).symm)
      refine ⟨?_, ?_⟩
      · rw [hl]
        exact hfills.kept hslot
      · rw [hl]
        exact ⟨hfills.showsSet hslot, showsSet_of_other h.later, ih.told⟩

lemma always_showsSet (env : Env P) (inputs : List Input) :
    Always (fun l e => e.ShowsSet (announcedSlot l)) (final (runInputs env inputs (Decoder.start env))).store.log := by
  obtain ⟨k, hk⟩ := reach_final env inputs
  exact (slotFollows_of_reach hk).told

/-- The same set is shown in the same way. -/
structure SameShown (e e' : Event) : Prop where
  vps : ∀ a ∈ e.shownVps, ∀ b ∈ e'.shownVps, a.1 = b.1 → a.2 = b.2
  sps : ∀ a ∈ e.shownSps, ∀ b ∈ e'.shownSps, a.1 = b.1 → a.2.2 = b.2.2
  pps : ∀ a ∈ e.shownPps, ∀ b ∈ e'.shownPps, a.1 = b.1 → a.2 = b.2

instance (e e' : Event) : Decidable (SameShown e e') :=
  decidable_of_iff ((∀ a ∈ e.shownVps, ∀ b ∈ e'.shownVps, a.1 = b.1 → a.2 = b.2) ∧
    (∀ a ∈ e.shownSps, ∀ b ∈ e'.shownSps, a.1 = b.1 → a.2.2 = b.2.2) ∧
    (∀ a ∈ e.shownPps, ∀ b ∈ e'.shownPps, a.1 = b.1 → a.2 = b.2))
    ⟨fun h => ⟨h.1, h.2.1, h.2.2⟩, fun h => ⟨h.vps, h.sps, h.pps⟩⟩

/-- An SPS announced by `e` after `l` and by `e'` after `l'` finds in the slot the same of what it leaves out,
and a VPS with the same id. -/
def FindsSame (l : List Event) (e : Event) (l' : List Event) (e' : Event) : Prop :=
  ∀ a ∈ e.shownSps, ∀ b ∈ e'.shownSps, a.1 = b.1 →
    vpsIdOf a.1 a.2.1 = vpsIdOf b.1 b.2.1 ∧ leftover a.1 (announcedSlot l) = leftover a.1 (announcedSlot l')

lemma Event.ShowsSet.same_iff {l l' : List Event} {e e' : Event} (h : e.ShowsSet (announcedSlot l))
    (h' : e'.ShowsSet (announcedSlot l')) : SameShown e e' ↔ FindsSame l e l' e' := by
  have hiff : ∀ a ∈ e.shownSps, ∀ b ∈ e'.shownSps, a.1 = b.1 → (a.2.2 = b.2.2 ↔
      vpsIdOf a.1 a.2.1 = vpsIdOf b.1 b.2.1 ∧ leftover a.1 (announcedSlot l) = leftover a.1 (announcedSlot l')) := by
    intro a ha b hb hab
    rw [h.sps a ha, h'.sps b hb, ← hab, stdSps_eq_iff]
  refine ⟨fun hs a ha b hb hab => (hiff a ha b hb hab).mp (hs.sps a ha b hb hab), fun hs => ?_⟩
  refine ⟨fun a ha b hb hab => ?_, fun a ha b hb hab => (hiff a ha b hb hab).mpr (hs a ha b hb hab), fun a ha b hb hab => ?_⟩
  · rw [h.vps a ha, h'.vps b hb, hab]
  · rw [h.pps a ha, h'.pps b hb, hab]

end Slot

end VkVideoParser.H265
