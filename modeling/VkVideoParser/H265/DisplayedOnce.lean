import VkVideoParser.Library.Ledger
import VkVideoParser.H265.RandomAccess

/-! Every picture is decoded once and displayed at most once, and that after it was decoded. -/

namespace VkVideoParser.H265

open Execution Ledger Relation

variable {P : Type} {env : Env P} {k : Phase} {s t : Decoder P} {x y : Phase × Decoder P} {p q : PicId}

/-- A picture is opened when it is decoded and closed when it is displayed. -/
def Event.entry : Event → Option (Entry PicId)
  | .decodePicture p .. => some (.opened p)
  | .displayPicture p .. => some (.closed p)
  | _ => none

def entries (log : List Event) : List (Entry PicId) := log.filterMap Event.entry

def Role.due : Role × PicId → Option PicId
  | (.ended, p) | (.output, p) => some p
  | _ => none

def Store.waiting (a : Store) : List PicId := a.dpb.picList.filter a.waits

/-- The decoded pictures that may come to be displayed. -/
def due (x : Phase × Decoder P) : List PicId := x.1.hold.filterMap Role.due ++ x.2.store.waiting

structure DisplaysOnce (x : Phase × Decoder P) : Prop where
  valid : Valid (entries x.2.store.log)
  awaited : (due x).Subperm (live (entries x.2.store.log))
  made : ∀ p, .opened p ∈ entries x.2.store.log → p < x.2.store.next
  coming : ∀ p ∈ x.1.current.coming, .opened p ∉ entries x.2.store.log

lemma entries_keeps {a b : Store} (h : Store.Keeps a b) : entries b.log = entries a.log := by
  obtain ⟨l, hl, hr⟩ := h.log
  have hnil : l.filterMap Event.entry = [] := List.filterMap_eq_nil_iff.mpr fun e he => by
    have := hr e he
    cases e with
    | release | storing => rfl
    | _ => cases this
  rw [entries, hl, List.filterMap_append, hnil]
  rfl

lemma due_drop {r : Role} (hp : (r, p) ∈ k.hold) (s : Decoder P) :
    ((Role.due (r, p)).toList ++ due (k.drop r p, s)).Perm (due (k, s)) := by
  have hhold : ((Role.due (r, p)).toList ++ (k.hold.erase (r, p)).filterMap Role.due).Perm
      (k.hold.filterMap Role.due) := by
    have hperm := (List.perm_cons_erase hp).symm.filterMap Role.due
    rw [List.filterMap_cons] at hperm
    cases hr : Role.due (r, p) with
    | none | some q =>
      rw [hr] at hperm
      exact hperm
  rw [due, ← List.append_assoc]
  exact hhold.append_right _

-- a picture that is no longer held
lemma due_subperm {r : Role} (hp : (r, p) ∈ k.hold) (s : Decoder P) : (due (k.drop r p, s)).Subperm (due (k, s)) :=
  (List.sublist_append_right _ _).subperm.trans (due_drop hp s).subperm

lemma waiting_sameNeeds {a b : Store} (h : Store.SameNeeds a b) : b.waiting = a.waiting := by
  rw [Store.waiting, h.dpb, h.waits]
  rfl

-- nothing is decoded or displayed, and no more are due
lemma DisplaysOnce.quiet (hx : DisplaysOnce x) (hl : entries y.2.store.log = entries x.2.store.log)
    (hd : (due y).Subperm (due x)) (hn : x.2.store.next ≤ y.2.store.next)
    (hc : ∀ p ∈ y.1.current.coming, p ∈ x.1.current.coming ∨ x.2.store.next ≤ p) : DisplaysOnce y := by
  refine ⟨hl ▸ hx.valid, hl ▸ hd.trans hx.awaited, fun p hp => (hx.made p (hl ▸ hp)).trans_le hn, fun p hp ho => ?_⟩
  rcases hc p hp with hp | hp
  · exact hx.coming p hp (hl ▸ ho)
  · exact absurd (hx.made p (hl ▸ ho)) (Nat.not_lt.mpr hp)

-- a change of the store by which no more pictures wait
lemma DisplaysOnce.store {k' : Phase} (hx : DisplaysOnce (k, s)) (hl : entries t.store.log = entries s.store.log)
    (hw : t.store.waiting.Subperm s.store.waiting) (hn : s.store.next ≤ t.store.next) (hh : k'.hold = k.hold)
    (hc : k'.current.coming.Sublist k.current.coming) : DisplaysOnce (k', t) := by
  refine hx.quiet hl ?_ hn fun p hp => .inl (hc.subset hp)
  rw [due, hh]
  exact (List.subperm_append_left _).mpr hw

lemma DisplaysOnce.keeps (hx : DisplaysOnce (k, s)) (hs : Store.SameNeeds s.store t.store)
    (hk : Store.Keeps s.store t.store) : DisplaysOnce (k, t) :=
  hx.store (entries_keeps hk) (List.Perm.of_eq (waiting_sameNeeds hs)).subperm (Nat.le_of_eq hk.next.symm) rfl (.refl _)

lemma waiting_modifyPic {f : Picture → Picture} (hf : ∀ x, (f x).neededForOutput = x.neededForOutput) (p : PicId)
    (a : Store) : (a.modifyPic p f).waiting = a.waiting := waiting_sameNeeds (Store.sameNeeds_modifyPic hf p a)

lemma waiting_deleteUnused (a : Store) : a.dpbDeleteUnused.waiting = a.waiting := by
  rw [Store.waiting, Store.dpbDeleteUnused_picList, Store.dpbDeleteUnused_waits, List.filter_filter]
  refine List.filter_congr fun q _ => ?_
  rw [Store.waits, Store.unused]
  cases (a.pic q).neededForOutput <;> rfl

-- the picture that is output no longer waits
lemma waiting_bump {drain : Bool} {i : Nat} {a b : Store} (h : Store.Bumped drain i p a b) :
    (p :: b.waiting).Subperm a.waiting := by
  have hp : b.waits p = false := by rw [h.waits, Function.update_self]
  have hle : ∀ q, b.waits q → a.waits q := fun q hq => by
    rw [h.waits, Function.update_apply] at hq
    split at hq
    · cases hq
    · exact hq
  have hrest : b.waiting.Subperm ((Store.removeIndexFast a.dpb.picList i).filter b.waits) := by
    have hall := h.perm.filter b.waits
    rw [List.filter_cons_of_neg (by rw [hp]; exact Bool.false_ne_true)] at hall
    rw [Store.waiting, h.picList]
    split
    · exact .refl _
    · exact hall.symm.subperm
  have hfront := h.perm.filter a.waits
  rw [List.filter_cons_of_pos h.lowest.waiting] at hfront
  refine (List.subperm_cons p |>.mpr ?_).trans hfront.subperm
  exact hrest.trans (List.monotone_filter_right _ hle).subperm

lemma waiting_storePicture {a : Store} (hp : p ∉ a.dpb.picList) :
    (a.storePicture p).waiting = a.waiting ++ if (a.pic p).outputFlag then [p] else [] := by
  have hold : a.dpb.picList.filter (Function.update a.waits p (a.pic p).outputFlag) = a.waiting :=
    List.filter_congr fun q hq => Function.update_of_ne (fun hqp : q = p => hp (hqp ▸ hq)) _ _
  have hw : (a.storePicture p).waits = Function.update a.waits p (a.pic p).outputFlag := Store.dpbAdd_waits p (a.emit _)
  have hl : (a.storePicture p).dpb.picList = a.dpb.picList ++ [p] := Store.dpbAdd_picList p (a.emit _)
  rw [Store.waiting, hl, hw, List.filter_append, hold, List.filter_singleton, Function.update_self, cond_eq_ite]

lemma waiting_setVkPic (p : PicId) (vkpic : VkPic) (s : Decoder P) : (setVkPic p vkpic s).store.waiting = s.store.waiting :=
  waiting_modifyPic (f := fun x => { x with userData := some vkpic }) (fun _ => rfl) p s.store

lemma DisplaysOnce.decoded {vkpic : VkPic} (hx : DisplaysOnce (k, s)) (hs : StockedIn (k, s))
    (hk : k.current = .decoding p) :
    DisplaysOnce ((k.take .ended p).setCurrent (.gone p), s.endPicture env p vkpic) := by
  have hp : p ∈ k.current.coming := by rw [hk]; exact List.mem_singleton_self p
  have hw : (s.endPicture env p vkpic).store.waiting = s.store.waiting := waiting_setVkPic p (stealBitstream vkpic) s
  refine ⟨⟨hx.coming p hp, hx.valid⟩, ?_, fun q hq => ?_, fun q hq => by cases hq⟩
  · refine (List.subperm_cons p).mpr ?_
    show (k.hold.filterMap Role.due ++ (s.endPicture env p vkpic).store.waiting).Subperm _
    rw [hw]
    exact hx.awaited
  · rcases List.mem_cons.mp hq with hq | hq
    · cases hq
      exact hs.made p (List.mem_append_left _ (List.mem_append_left _ hp))
    · exact hx.made q hq

lemma DisplaysOnce.displayed {vkpic : VkPic} {frame : VideoCodecFrame} (hx : DisplaysOnce (k, s))
    (hp : (.output, p) ∈ k.hold) :
    DisplaysOnce ((k.turn .output .loose p).take .shown p, s.displayPicture env p vkpic frame) := by
  have hdue : (p :: due (k.drop .output p, s)).Subperm (live (entries s.store.log)) :=
    (due_drop hp s).subperm.trans hx.awaited
  refine ⟨⟨hdue.subset List.mem_cons_self, hx.valid⟩, ?_, fun q hq => ?_, fun q hq ho => ?_⟩
  · have hrest := hdue.erase p
    rwa [List.erase_cons_head] at hrest
  · exact hx.made q ((List.mem_cons.mp hq).resolve_left (by simp))
  · exact hx.coming q hq ((List.mem_cons.mp ho).resolve_left (by simp))

lemma DisplaysOnce.drop {r : Role} {t : Decoder P} (hx : DisplaysOnce (k, s)) (hp : (r, p) ∈ k.hold)
    (hl : entries t.store.log = entries s.store.log) (hw : t.store.waiting.Subperm s.store.waiting)
    (hn : s.store.next ≤ t.store.next) : DisplaysOnce (k.drop r p, t) := by
  refine hx.quiet hl (.trans ?_ (due_subperm hp s)) hn fun p hp => .inl hp
  exact (List.subperm_append_left _).mpr hw

lemma Act.displaysOnce (h : Act env x y) (hs : StockedIn x) (hx : DisplaysOnce x) : DisplaysOnce y := by
  cases h with
  | book h =>
    refine hx.store (congrArg entries h.log) ?_ (Nat.le_of_eq h.next.symm) rfl (.refl _)
    unfold Store.waiting Store.waits
    rw [h.dpb, h.pic]
  | new hk =>
    rename_i k s
    refine hx.quiet rfl ?_ (Nat.le_succ _) fun p hp => .inr (List.mem_singleton.mp hp).ge
    have hold : ∀ q ∈ s.store.dpb.picList, q ≠ s.store.next := fun q hq =>
      Nat.ne_of_lt (hs.made q (List.mem_append_right _ hq))
    refine (List.subperm_append_left _).mpr (List.Perm.subperm (.of_eq (List.filter_congr fun q hq => ?_)))
    simp [Store.waits, Decoder.mapStore, Store.pictureNew, Function.update_of_ne (hold q hq)]
  | edit p hk hf =>
    exact hx.store rfl (List.Perm.of_eq (waiting_modifyPic hf.neededForOutput p _)).subperm (Nat.le_refl _) rfl
      (.refl _)
  | adopt p hk =>
    refine hx.store rfl (.refl _) (Nat.le_refl _) rfl ?_
    rw [hk]
    exact .refl _
  | alloc p hk hv =>
    unfold Decoder.allocPicture
    simp only
    split
    · exact hx.store rfl (.refl _) (Nat.le_refl _) rfl (.refl _)
    · exact hx.store rfl (List.Perm.of_eq (waiting_setVkPic p _ _)).subperm (Nat.le_refl _) rfl (.refl _)
  | markAllNonRef p hk => exact hx.keeps (Store.sameNeeds_dpbMarkAllNonRef _) (Store.keeps_dpbMarkAllNonRef _)
  | clearSets p hk => exact hx.keeps (Store.sameNeeds_unrefAll _ _) (Store.keeps_unrefAll _ _)
  | deriveSets p pocs hk hsets =>
    exact hx.keeps (Store.sameNeeds_deriveAndMarkRps pocs _) (Store.keeps_deriveAndMarkRps pocs _)
  | start p slice vps vkpic hk hv hvps hflags hsets hc =>
    refine hx.store rfl (List.Perm.of_eq (waiting_setVkPic p _ _)).subperm (Nat.le_refl _) rfl ?_
    rw [hk]
    rcases hc with ⟨rfl, -⟩ | rfl <;> exact .refl _
  | slice p slice vkpic hk hv =>
    exact hx.store rfl (List.Perm.of_eq (waiting_setVkPic p _ _)).subperm (Nat.le_refl _)
      rfl (.refl _)
  | endPicture p vkpic hk hv => exact hx.decoded hs hk
  | unrefCurrent p hk =>
    rename_i k s
    have hunref := hx.keeps (t := s.mapStore (Store.unref p)) (Store.sameNeeds_unref p _) (Store.keeps_unref p _)
    exact hunref.store rfl (.refl _) (Nat.le_refl _) rfl (List.nil_sublist _)
  | forgetCurrent p hk => exact hx.store rfl (.refl _) (Nat.le_refl _) rfl (List.nil_sublist _)
  | deleteUnused =>
    exact hx.store (entries_keeps (Store.keeps_dpbDeleteUnused _)) (List.Perm.of_eq (waiting_deleteUnused _)).subperm
      (Nat.le_of_eq (Store.keeps_dpbDeleteUnused _).next.symm) rfl (.refl _)
  | add p hp =>
    rename_i k s
    refine hx.quiet (entries_keeps (Store.keeps_storePicture p _)) ?_
      (Nat.le_of_eq (Store.keeps_storePicture p _).next.symm)
      fun p hp => .inl hp
    have hnew : p ∉ s.store.dpb.picList := fun hm => List.disjoint_of_nodup_append hs.apart
      (List.mem_append_right _ (List.mem_filterMap.mpr ⟨_, hp, rfl⟩)) hm
    refine .trans ((List.subperm_append_left _).mpr ?_) (List.perm_middle.subperm.trans (due_drop hp s).subperm)
    rw [Decoder.mapStore, waiting_storePicture hnew]
    split
    · exact List.perm_append_comm.subperm
    · exact (List.append_nil _).symm ▸ (List.sublist_cons_self p _).subperm
  | bump drain p h =>
    obtain ⟨i, hb⟩ := Store.bumped_of_some h
    refine hx.quiet (entries_keeps (Store.keeps_dpbBump drain _)) ?_
      (Nat.le_of_eq (Store.keeps_dpbBump drain _).next.symm)
      fun p hp => .inl hp
    refine .trans ?_ ((List.subperm_append_left _).mpr (waiting_bump hb))
    exact List.perm_middle.symm.subperm
  | display p vkpic frame hp hv hf => exact hx.displayed hp
  | unref p hp hr =>
    exact hx.drop hp (entries_keeps (Store.keeps_unref p _))
      (List.Perm.of_eq (waiting_sameNeeds (Store.sameNeeds_unref p _))).subperm
      (Nat.le_of_eq (Store.keeps_unref p _).next.symm)
  | finishFrame p flow hp | forgetShown p hp => exact hx.drop hp rfl (.refl _) (Nat.le_refl _)
  | dpbClear h =>
    rename_i k s
    refine hx.store (entries_keeps (Store.keeps_dpbClear _)) ?_ (Nat.le_of_eq (Store.keeps_dpbClear _).next.symm) rfl
      (.refl _)
    have hnil : s.store.dpbClear.waiting = [] := by rw [Store.waiting, Store.dpbClear_picList, List.filter_nil]
    exact hnil ▸ List.nil_subperm
  | parsed parser h => cases h <;> exact hx.store rfl (.refl _) (Nat.le_refl _) rfl (.refl _)
  | removeFrame h => cases h <;> exact hx.store rfl (.refl _) (Nat.le_refl _) rfl (.refl _)
  | _ => exact hx.store rfl (.refl _) (Nat.le_refl _) rfl (.refl _)

lemma displaysOnce_start : DisplaysOnce (Phase.idle, Decoder.start env) where
  valid := trivial
  awaited := .refl _
  made _ hp := by cases hp
  coming _ hp := by cases hp

lemma displaysOnce_reach (h : ReflTransGen (Act env) (Phase.idle, Decoder.start env) x) : DisplaysOnce x := by
  induction h with
  | refl => exact displaysOnce_start
  | tail hreach hact ih => exact hact.displaysOnce (stocked_of_reach hreach) ih

/-- In every run, whatever the client and the parser reply, DecodePicture is called once for a picture and DisplayPicture
at most once, after it. -/
theorem pictures_displayedOnce (env : Env P) (inputs : List Input) :
    Valid (entries (final (runInputs env inputs (Decoder.start env))).store.log) := by
  obtain ⟨k, hk⟩ := reach_final env inputs
  exact (displaysOnce_reach hk).valid

end VkVideoParser.H265
