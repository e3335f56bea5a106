import VkVideoParser.Client
import VkVideoParser.Library.Histories
import Mathlib.Tactic.Common

/-! The sequences that an element begins and the SPSs that it stores for pictures to activate. -/

namespace VkVideoParser

open Histories

inductive SequenceEvent (σ : Type)
  | begun (info : SequenceInfo) (sps : σ)
  | stored (sps : σ)

namespace SequenceEvent

variable {ε σ κ : Type}

def sps : SequenceEvent σ → σ
  | begun _ sps => sps
  | stored sps => sps

def begunSequence : SequenceEvent σ → Option (SequenceInfo × σ)
  | begun info sps => some (info, sps)
  | stored _ => none

def storedSps : SequenceEvent σ → Option σ
  | begun _ _ => none
  | stored sps => some sps

variable (f : ε → Option (SequenceEvent σ)) (key : σ → κ) {log : List ε}

/-- The SPS with which a sequence was begun or that was stored last. -/
def latestSps (log : List ε) : Option σ := log.findSome? fun e => (f e).map sps

def lastSequence (log : List ε) : Option (SequenceInfo × σ) := log.findSome? fun e => (f e).bind begunSequence

/-- Every SPS that is stored has the key of the one before it. -/
def StoredLike (log : List ε) : Prop :=
  Always (fun l e => ∀ s ∈ (f e).bind storedSps, (latestSps f l).map key = some (key s)) log

/-- Since the sequence was begun, no SPS is stored whose key differs from that of the one before it. -/
def KeepsKey : List ε → Prop
  | [] => True
  | e :: l =>
    match f e with
    | some (.begun _ _) => True
    | some (.stored s) => (∀ prev ∈ latestSps f l, key prev = key s) ∧ KeepsKey l
    | none => KeepsKey l

instance decidableKeepsKey [DecidableEq κ] : (log : List ε) → Decidable (KeepsKey f key log)
  | [] => .isTrue trivial
  | e :: l => by
    have : Decidable (KeepsKey f key l) := decidableKeepsKey l
    unfold KeepsKey
    split <;> infer_instance

variable {f key}

lemma latestSps_cons_none {e : ε} (h : f e = none) : latestSps f (e :: log) = latestSps f log := by
  rw [latestSps, List.findSome?_cons, h]
  rfl

lemma StoredLike.previous {e : ε} {l : List ε} {s : σ} (h : StoredLike f key (e :: l)) (he : f e = some (.stored s)) :
    ∃ prev, latestSps f l = some prev ∧ key prev = key s :=
  Option.map_eq_some_iff.mp (h.1 s (by rw [he]; rfl))

-- the sequence begun last has the key of the SPS processed last
lemma StoredLike.lastSequence (h : StoredLike f key log) {s : σ} (hs : latestSps f log = some s) :
    ∃ b, lastSequence f log = some b ∧ key b.2 = key s := by
  induction log generalizing s with
  | nil => cases hs
  | cons e l ih =>
    unfold latestSps at hs
    unfold SequenceEvent.lastSequence
    rw [List.findSome?_cons] at hs ⊢
    cases he : f e with
    | none =>
      rw [he] at hs
      exact ih h.2 hs
    | some event =>
      rw [he] at hs
      cases event with
      | begun info s' =>
        obtain rfl : s' = s := Option.some.inj hs
        exact ⟨(info, s'), rfl, rfl⟩
      | stored s' =>
        obtain rfl : s' = s := Option.some.inj hs
        obtain ⟨prev, hp, hk⟩ := h.previous he
        obtain ⟨b, hb, hbk⟩ := ih h.2 hp
        exact ⟨b, hb, hbk.trans hk⟩

lemma KeepsKey.lastSequence {κ' : Type} {key' : σ → κ'} (hkeep : KeepsKey f key' log) (h : StoredLike f key log) {s : σ}
    (hs : latestSps f log = some s) : ∃ b, SequenceEvent.lastSequence f log = some b ∧ key' b.2 = key' s := by
  induction log generalizing s with
  | nil => cases hs
  | cons e l ih =>
    unfold KeepsKey at hkeep
    unfold latestSps at hs
    unfold SequenceEvent.lastSequence
    rw [List.findSome?_cons] at hs ⊢
    cases he : f e with
    | none =>
      rw [he] at hs hkeep
      exact ih hkeep h.2 hs
    | some event =>
      rw [he] at hs hkeep
      cases event with
      | begun info s' =>
        obtain rfl : s' = s := Option.some.inj hs
        exact ⟨(info, s'), rfl, rfl⟩
      | stored s' =>
        obtain rfl : s' = s := Option.some.inj hs
        obtain ⟨prev, hp, -⟩ := h.previous he
        obtain ⟨b, hb, hbk⟩ := ih hkeep.2 h.2 hp
        exact ⟨b, hb, hbk.trans (hkeep.1 prev hp)⟩

section Activated

variable (f key) {κ' : Type} (format : σ → κ') (describes : SequenceInfo → σ → Prop)

/-- The sequence begun last describes the SPSs that slices activate. -/
def Agrees (active : List σ) (log : List ε) : Prop :=
  ∃ b ∈ SequenceEvent.lastSequence f log, ∀ s ∈ active, describes b.1 s

instance [∀ info s, Decidable (describes info s)] (active : List σ) (log : List ε) :
    Decidable (Agrees f describes active log) :=
  inferInstanceAs (Decidable (∃ b ∈ SequenceEvent.lastSequence f log, ∀ s ∈ active, describes b.1 s))

/-- The SPSs that slices activate are like the one processed last, which differs in the format from none before
it since the sequence was begun. -/
structure Follows (active : List σ) (log : List ε) : Prop where
  keeps : KeepsKey f format log
  latest : ∃ last ∈ latestSps f log, ∀ s ∈ active, key s = key last ∧ format s = format last

instance [DecidableEq κ] [DecidableEq κ'] (active : List σ) (log : List ε) : Decidable (Follows f key format active log) :=
  decidable_of_iff (KeepsKey f format log ∧ ∃ last ∈ latestSps f log, ∀ s ∈ active, key s = key last ∧ format s = format last)
    ⟨fun h => ⟨h.1, h.2⟩, fun h => ⟨h.1, h.2⟩⟩

variable {f key format describes}

lemma mem_of_lastSequence {b : SequenceInfo × σ} (h : SequenceEvent.lastSequence f log = some b) :
    ∃ e ∈ log, f e = some (.begun b.1 b.2) := by
  obtain ⟨e, he, hb⟩ := List.exists_of_findSome?_eq_some h
  obtain ⟨event, hf, hs⟩ := Option.bind_eq_some_iff.mp hb
  cases event with
  | begun info sps =>
    cases hs
    exact ⟨e, he, hf⟩
  | stored sps => cases hs

lemma Follows.agrees {active : List σ} (h : Follows f key format active log) (hs : StoredLike f key log)
    (hd : ∀ e ∈ log, ∀ info s, f e = some (.begun info s) → describes info s)
    (hcongr : ∀ info s s', describes info s → key s = key s' → format s = format s' → describes info s') :
    Agrees f describes active log := by
  obtain ⟨last, hlast, hact⟩ := h.latest
  obtain ⟨b, hb, hkey⟩ := hs.lastSequence hlast
  obtain ⟨b', hb', hformat⟩ := h.keeps.lastSequence hs hlast
  obtain rfl : b = b' := Option.some.inj (hb.symm.trans hb')
  obtain ⟨e, he, hbegun⟩ := mem_of_lastSequence hb
  refine ⟨b, hb, fun s hm => hcongr _ _ _ (hd e he _ _ hbegun) ?_ ?_⟩
  · exact hkey.trans (hact s hm).1.symm
  · exact hformat.trans (hact s hm).2.symm

end Activated

end SequenceEvent

end VkVideoParser
