import VkVideoParser.H264.Links

/-! The log of calls. Whatever drops references only adds releases to it. -/

namespace VkVideoParser.H264

open Execution Relation

variable {P : Type} {env : Env P} {k k' : Phase} {s t : Decoder P} {x y : Phase × Decoder P}

def Event.isLastFieldNotNull : Event → Bool
  | .lastFieldNotNull => true
  | _ => false

def Event.isRelease : Event → Bool
  | .release _ _ => true
  | _ => false

namespace Store

variable {a b c : Store} {p : PicId}

def OnlyReleases (a b : Store) : Prop := ∃ l, b.log = l ++ a.log ∧ ∀ e ∈ l, e.isRelease

lemma OnlyReleases.of_log (h : b.log = a.log) : OnlyReleases a b := ⟨[], h, by simp⟩

lemma OnlyReleases.trans (h : OnlyReleases a b) (h' : OnlyReleases b c) : OnlyReleases a c := by
  obtain ⟨l, hl, hr⟩ := h
  obtain ⟨l', hl', hr'⟩ := h'
  refine ⟨l' ++ l, by rw [hl', hl, List.append_assoc], fun e he => ?_⟩
  rcases List.mem_append.mp he with he | he
  · exact hr' e he
  · exact hr e he

lemma OnlyReleases.log_subset (h : OnlyReleases a b) : a.log ⊆ b.log := by
  obtain ⟨l, hl, -⟩ := h
  rw [hl]
  exact List.subset_append_right l a.log

lemma OnlyReleases.filterMap {β : Type} (h : OnlyReleases a b) {f : Event → Option β}
    (hf : ∀ p v, f (.release p v) = none) : b.log.filterMap f = a.log.filterMap f := by
  obtain ⟨l, hl, hr⟩ := h
  have hnil : l.filterMap f = [] := by
    refine List.filterMap_eq_nil_iff.mpr fun e he => ?_
    have := hr e he
    cases e <;> first | exact hf _ _ | cases this
  rw [hl, List.filterMap_append, hnil, List.nil_append]

lemma onlyReleases_vkPicFree (p : PicId) (a : Store) : OnlyReleases a (a.vkPicFree p) := by
  unfold vkPicFree
  split
  · exact ⟨[_], rfl, by simp [Event.isRelease]⟩
  · exact .of_log rfl

lemma onlyReleases_unref (p : PicId) (a : Store) : OnlyReleases a (a.unref p) := by
  unfold unref
  split
  · exact .of_log rfl
  · exact (onlyReleases_vkPicFree p _ : OnlyReleases (a.modifyPic p _) _)
  · exact .of_log rfl

lemma onlyReleases_unrefAll (l : List PicId) (a : Store) : OnlyReleases a (a.unrefAll l) := by
  induction l generalizing a with
  | nil => exact .of_log rfl
  | cons p l ih => exact (onlyReleases_unref p a).trans (ih _)

lemma onlyReleases_dpbClear (a : Store) : OnlyReleases a a.dpbClear :=
  (onlyReleases_unrefAll _ _ : OnlyReleases (a.setPicList []) _)

lemma onlyReleases_dpbDeleteUnused (a : Store) : OnlyReleases a a.dpbDeleteUnused :=
  (onlyReleases_unrefAll _ _ : OnlyReleases (a.setPicList _) _)

lemma bumpRef_log (p : PicId) (a : Store) : (a.bumpRef p).log = a.log := by
  unfold bumpRef
  simp only
  split <;> rfl

lemma onlyReleases_bumpRemove (drain : Bool) (i : Nat) (p : PicId) (a : Store) :
    OnlyReleases a (a.bumpRemove drain i p) := by
  unfold bumpRemove
  split
  · exact (onlyReleases_unref _ _ : OnlyReleases (a.setPicList _) _)
  · exact .of_log rfl

lemma onlyReleases_bumpOtherField (p : PicId) (a : Store) : OnlyReleases a (a.bumpOtherField p) := by
  unfold bumpOtherField
  split
  · exact .of_log rfl
  · rename_i q _
    simp only
    split
    · refine OnlyReleases.trans (.of_log (touch_log q a)) (onlyReleases_unref q (setPicList _ _))
    · exact .of_log (touch_log q a)

lemma onlyReleases_dpbBump (drain : Bool) (a : Store) : OnlyReleases a (a.dpbBump drain).2 := by
  cases h : a.dpbGetLowestOutputNeededPicture with
  | none =>
    unfold dpbBump
    rw [h]
    exact .of_log rfl
  | some i =>
    rw [bump_some h]
    exact ((OnlyReleases.of_log (bumpRef_log i.2 a)).trans (onlyReleases_bumpRemove ..)).trans
      (onlyReleases_bumpOtherField i.2 _)

end Store

/-- What a move adds to the log. -/
lemma Act.log_append (h : Act env x y) : ∃ l, y.2.store.log = l ++ x.2.store.log ∧
    ((∃ e ∈ l, e.isLastFieldNotNull) → ∃ q, x.2.lastField = some q ∧
      (x.2.store.dpb.interlaced = false ∨ ∃ p, x.1.current = .gone p ∧ (x.2.pic p).isFrame)) := by
  have hreleases : Store.OnlyReleases x.2.store y.2.store → ∃ l, y.2.store.log = l ++ x.2.store.log ∧
      ((∃ e ∈ l, e.isLastFieldNotNull) → ∃ q, x.2.lastField = some q ∧
        (x.2.store.dpb.interlaced = false ∨ ∃ p, x.1.current = .gone p ∧ (x.2.pic p).isFrame)) := by
    rintro ⟨l, hl, hr⟩
    refine ⟨l, hl, fun ⟨e, he, hf⟩ => ?_⟩
    have hrel := hr e he
    cases e with
    | release => cases hf
    | _ => cases hrel
  cases h with
  | lastFieldNotNull hl hwhy => exact ⟨[_], rfl, fun _ => ⟨_, hl, hwhy⟩⟩
  | book h => exact hreleases (.of_log h.log)
  | number h | mark p hp hk h => exact hreleases (.of_log h.log)
  | unref p hp | unrefCurrent p hk | unrefLast p hp => exact hreleases (Store.onlyReleases_unref _ _)
  | deleteUnused => exact hreleases (Store.onlyReleases_dpbDeleteUnused _)
  | bump drain p hp => exact hreleases (Store.onlyReleases_dpbBump _ _)
  | dpbClear hp => exact hreleases (Store.onlyReleases_dpbClear _)
  | add p hp hr | addLast p q hp hr =>
    obtain ⟨info, hlog⟩ := Store.addPicture_log _ _
    exact ⟨[_], hlog, by simp [Event.isLastFieldNotNull]⟩
  | alloc p hp hv =>
    rename_i k s
    refine ⟨[.allocPictureBuffer p (env.allocPictureBuffer s.store.log) s.allocInfo], ?_, ?_⟩
    · unfold Decoder.allocPicture
      simp only
      split <;> rfl
    · simp [Event.isLastFieldNotNull]
  | removeFrame h => cases h <;> exact ⟨[_], rfl, by simp [Event.isLastFieldNotNull]⟩
  | updateSps sps | updatePps pps => exact ⟨[_, _], rfl, by simp [Event.isLastFieldNotNull]⟩
  | parserParseSps | parserParsePps | parserUpdateSps | beginSequence | unhandledNALU | showRemoving | showPlacing
  | rememberRef | rememberPicture | showOrderCount | showBumping | flush | finishFrame | start | slice | endPicture | losePicture | display =>
    exact ⟨[_], rfl, by simp [Event.isLastFieldNotNull]⟩
  | _ => exact hreleases (.of_log rfl)

lemma Act.log_suffix (h : Act env x y) : x.2.store.log <:+ y.2.store.log := by
  obtain ⟨l, hl, -⟩ := h.log_append
  exact ⟨l, hl.symm⟩

lemma log_suffix_of_reach (h : ReflTransGen (Act env) x y) : x.2.store.log <:+ y.2.store.log := by
  induction h with
  | refl => exact List.suffix_refl _
  | tail _ hact ih => exact ih.trans hact.log_suffix

end VkVideoParser.H264
