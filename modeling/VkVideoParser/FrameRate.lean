import VkVideoParser.H264.Script
import VkVideoParser.H265.Script
import Mathlib.Data.Nat.Bitwise
import Mathlib.Tactic.Common

/-! The frame rate that BeginSequence announces, 18 bits of numerator over 14 bits of denominator. -/

namespace VkVideoParser

open Execution

variable {n d rate : Nat}

def decodeFramerate (rate : Nat) : Nat × Nat := (rate / 2 ^ 14, rate % 2 ^ 14)

/-- The turns of pack_framerate, until both numbers fit. -/
inductive Reduces : Nat × Nat → Nat × Nat → Prop
  | fits {n d : Nat} (hn : n < 2 ^ 18) (hd : d < 2 ^ 14) : Reduces (n, d) (n, d)
  | turn {n d : Nat} {p : Nat × Nat} (h : 2 ^ 18 ≤ n ∨ 2 ^ 14 ≤ d) (hr : Reduces (packFramerateStep n d) p) :
    Reduces (n, d) p

namespace Reduces

variable {p q : Nat × Nat}

lemma unique (h : Reduces p q) {q' : Nat × Nat} (h' : Reduces p q') : q = q' := by
  induction h with
  | fits hn hd =>
    cases h' with
    | fits => rfl
    | turn h => omega
  | turn h hr ih =>
    cases h' with
    | fits => omega
    | turn _ hr' => exact ih hr'

lemma fst_lt (h : Reduces p q) : q.1 < 2 ^ 18 := by
  induction h with
  | fits hn => exact hn
  | turn _ _ ih => exact ih

lemma snd_lt (h : Reduces p q) : q.2 < 2 ^ 14 := by
  induction h with
  | fits _ hd => exact hd
  | turn _ _ ih => exact ih

end Reduces

lemma packFramerateStep_le {k l : Nat} (hn : n ≤ 2 ^ (k + 1)) (hd : d ≤ 2 ^ (l + 1)) (hn' : n < 2 ^ 31) (hd' : d < 2 ^ 31) :
    (packFramerateStep n d).1 ≤ 2 ^ k ∧ (packFramerateStep n d).2 ≤ 2 ^ l := by
  rw [pow_succ] at hn hd
  unfold packFramerateStep
  split_ifs
  all_goals dsimp only; omega

lemma packFramerateStep_lt (hn : n < 2 ^ 31) (hd : d < 2 ^ 31) :
    (packFramerateStep n d).1 < 2 ^ 31 ∧ (packFramerateStep n d).2 < 2 ^ 31 := by
  unfold packFramerateStep
  split_ifs
  all_goals dsimp only; omega

-- a turn makes neither number zero, nor one that is zero another
lemma packFramerateStep_eq_zero (hn : n < 2 ^ 31) (hd : d < 2 ^ 31) :
    ((packFramerateStep n d).1 = 0 ↔ n = 0) ∧ ((packFramerateStep n d).2 = 0 ↔ d = 0) := by
  unfold packFramerateStep
  split_ifs
  all_goals dsimp only; omega

lemma packFramerateLoop_reduces {fuel : Nat} (hn : n ≤ 2 ^ (fuel + 17)) (hd : d ≤ 2 ^ (fuel + 13)) (hn' : n < 2 ^ 31)
    (hd' : d < 2 ^ 31) : Reduces (n, d) (packFramerateLoop fuel n d) := by
  induction fuel generalizing n d with
  | zero => exact .fits (by omega) (by omega)
  | succ fuel ih =>
    rw [packFramerateLoop]
    split
    · rename_i h
      have hle := packFramerateStep_le (k := fuel + 17) (l := fuel + 13) (by rwa [Nat.add_right_comm] at hn)
        (by rwa [Nat.add_right_comm] at hd) hn' hd'
      have hlt := packFramerateStep_lt hn' hd'
      exact .turn h (ih hle.1 hle.2 hlt.1 hlt.2)
    · exact .fits (by omega) (by omega)

-- the sum may wrap in the first turn only, and what it leaves is 0
lemma packFramerateStep_lt_half (hn : n < 2 ^ 32) (hd : d < 2 ^ 32) :
    (packFramerateStep n d).1 < 2 ^ 31 ∧ (packFramerateStep n d).2 < 2 ^ 31 := by
  unfold packFramerateStep
  split_ifs
  all_goals dsimp only; omega

lemma reduces_packFramerateLoop (hn : n < 2 ^ 32) (hd : d < 2 ^ 32) : Reduces (n, d) (packFramerateLoop 64 n d) := by
  rw [packFramerateLoop]
  split
  · rename_i h
    have hlt := packFramerateStep_lt_half hn hd
    exact .turn h (packFramerateLoop_reduces (hlt.1.le.trans (by decide)) (hlt.2.le.trans (by decide)) hlt.1 hlt.2)
  · exact .fits (by omega) (by omega)

lemma Reduces.pos {p q : Nat × Nat} (h : Reduces p q) (hn : p.1 < 2 ^ 31) (hd : p.2 < 2 ^ 31) (hn' : 0 < p.1)
    (hd' : 0 < p.2) : 0 < q.1 ∧ 0 < q.2 := by
  induction h with
  | fits => exact ⟨hn', hd'⟩
  | turn _ _ ih =>
    have hlt := packFramerateStep_lt hn hd
    have hzero := packFramerateStep_eq_zero hn hd
    refine ih hlt.1 hlt.2 (Nat.pos_of_ne_zero fun h => ?_) (Nat.pos_of_ne_zero fun h => ?_)
    · exact Nat.ne_of_gt hn' (hzero.1.mp h)
    · exact Nat.ne_of_gt hd' (hzero.2.mp h)

lemma Reduces.eq_zero {p q : Nat × Nat} (h : Reduces p q) (hn : p.1 < 2 ^ 31) (hd : p.2 < 2 ^ 31) :
    q = (0, 0) ↔ p = (0, 0) := by
  induction h with
  | fits => rfl
  | turn _ _ ih =>
    have hlt := packFramerateStep_lt hn hd
    have hzero := packFramerateStep_eq_zero hn hd
    rw [ih hlt.1 hlt.2, Prod.ext_iff, Prod.ext_iff]
    exact and_congr hzero.1 hzero.2

lemma decode_makeFramerate (hn : n < 2 ^ 18) (hd : d < 2 ^ 14) : decodeFramerate (makeFramerate n d) = (n, d) := by
  have h : makeFramerate n d = n * 2 ^ 14 + d := by
    rw [makeFramerate, Nat.mod_eq_of_lt (by omega), mul_comm, Nat.two_pow_add_eq_or_of_lt hd]
  rw [decodeFramerate, h]
  exact Prod.ext (by dsimp only; omega) (by dsimp only; omega)

lemma mul_two_pow_and_eq_zero {k : Nat} (hd : d < 2 ^ k) : n * 2 ^ k &&& d = 0 := by
  refine Nat.eq_of_testBit_eq fun i => ?_
  rw [Nat.testBit_and, Nat.zero_testBit]
  by_cases hi : i < k
  · rw [Nat.testBit_mul_two_pow, decide_eq_false (Nat.not_le.mpr hi), Bool.false_and, Bool.false_and]
  · have hbit : d.testBit i = false := Nat.testBit_lt_two_pow (hd.trans_le (Nat.pow_le_pow_right (by decide) (by omega)))
    rw [hbit, Bool.and_false]

/-- The loop ends for every two words, with numbers that fit, and the word packed of them decodes to them. Two numbers
that fit are left alone, and of two that are positive as a gint neither becomes zero. -/
theorem packFramerate_reduces (n d : Nat) (hn : n < 2 ^ 32) (hd : d < 2 ^ 32) :
    ∃ n' d', Reduces (n, d) (n', d') ∧ n' < 2 ^ 18 ∧ d' < 2 ^ 14 ∧ packFramerate n d = makeFramerate n' d' ∧
      n' * 2 ^ 14 &&& d' = 0 ∧ decodeFramerate (packFramerate n d) = (n', d') ∧
      (n < 2 ^ 18 → d < 2 ^ 14 → (n', d') = (n, d)) ∧
      (0 < n → n < 2 ^ 31 → 0 < d → d < 2 ^ 31 → n' ≠ 0 ∧ d' ≠ 0) := by
  have hloop := reduces_packFramerateLoop hn hd
  refine ⟨_, _, hloop, hloop.fst_lt, hloop.snd_lt, rfl, ?_, decode_makeFramerate hloop.fst_lt hloop.snd_lt, ?_, ?_⟩
  · exact mul_two_pow_and_eq_zero hloop.snd_lt
  · exact fun hn hd => hloop.unique (.fits hn hd)
  · intro hn' hn hd' hd
    have hpos := hloop.pos hn hd hn' hd'
    exact ⟨Nat.ne_of_gt hpos.1, Nat.ne_of_gt hpos.2⟩

theorem packFramerate_reduces_odd :
    ∃ n' d', Reduces (2 ^ 31 - 1, 1001) (n', d') ∧ n' < 2 ^ 18 ∧ d' < 2 ^ 14 ∧
      packFramerate (2 ^ 31 - 1) 1001 = makeFramerate n' d' ∧ n' * 2 ^ 14 &&& d' = 0 ∧
      decodeFramerate (packFramerate (2 ^ 31 - 1) 1001) = (n', d') ∧
      (2 ^ 31 - 1 < 2 ^ 18 → 1001 < 2 ^ 14 → (n', d') = (2 ^ 31 - 1, 1001)) ∧
      (0 < 2 ^ 31 - 1 → 2 ^ 31 - 1 < 2 ^ 31 → 0 < 1001 → 1001 < 2 ^ 31 → n' ≠ 0 ∧ d' ≠ 0) :=
  packFramerate_reduces (2 ^ 31 - 1) 1001 (by decide) (by decide)

lemma decode_injective : Function.Injective decodeFramerate := fun a b h => by
  obtain ⟨hn, hd⟩ := Prod.mk.inj h
  omega

/-- The rate decodes to `n / d`, or to what the reduction makes of it. -/
structure AnnouncesRate (rate n d : Nat) : Prop where
  exact_of_fits : 1 ≤ n → n < 2 ^ 18 → 1 ≤ d → d < 2 ^ 14 → decodeFramerate rate = (n, d)
  reduced : Reduces (n, d) (decodeFramerate rate)

lemma announcesRate_iff (hn : n < 2 ^ 31) (hd : d < 2 ^ 31) : AnnouncesRate rate n d ↔ rate = packFramerate n d := by
  have hloop := reduces_packFramerateLoop (hn.trans (by decide)) (hd.trans (by decide))
  have hpack : decodeFramerate (packFramerate n d) = packFramerateLoop 64 n d :=
    decode_makeFramerate hloop.fst_lt hloop.snd_lt
  constructor
  · intro h
    exact decode_injective ((h.reduced.unique hloop).trans hpack.symm)
  · rintro rfl
    rw [← hpack] at hloop
    exact ⟨fun _ hn _ hd => hloop.unique (.fits hn hd), hloop⟩

lemma packFramerate_lt (hn : n < 2 ^ 31) (hd : d < 2 ^ 31) : packFramerate n d < 2 ^ 32 :=
  Nat.or_lt_two_pow (Nat.mod_lt _ (by omega))
    ((reduces_packFramerateLoop (hn.trans (by decide)) (hd.trans (by decide))).snd_lt.trans (by omega))

lemma packFramerate_eq_zero (hn : n < 2 ^ 31) (hd : d < 2 ^ 31) : packFramerate n d = 0 ↔ n = 0 ∧ d = 0 := by
  have hloop := reduces_packFramerateLoop (hn.trans (by decide)) (hd.trans (by decide))
  have hpack : decodeFramerate (packFramerate n d) = packFramerateLoop 64 n d :=
    decode_makeFramerate hloop.fst_lt hloop.snd_lt
  rw [← decode_injective.eq_iff, hpack, show decodeFramerate 0 = (0, 0) from rfl, hloop.eq_zero hn hd, Prod.mk.injEq]

-- 999 is odd
lemma times_thousand {x : Nat} (h : x < 2 ^ 32) : x * 1000 % 2 ^ 32 = x ↔ x = 0 := by omega

/-- Of a rate `n / d` of the caps, BeginSequence of the H.264 element announces a thousand times the packed word,
which decodes to the reduced rate only when that is zero; the H.265 element announces the packed word. -/
theorem frameRate_announced {P P' : Type} (env : H264.Env P) (env' : H265.Env P') (s : H264.Decoder P)
    (s' : H265.Decoder P') (sps : H264.GstH264SPS) (sps' : H265.GstH265SPS) (maxDpbSize maxDpbSize' : Nat)
    (input : InputState) (hs : s.inputState = some input) (hs' : s'.inputState = some input) (hn : input.fpsN < 2 ^ 31)
    (hd : input.fpsD < 2 ^ 31) :
    (∃ info, (final (H264.newSequence env sps maxDpbSize s)).store.log = .beginSequence info sps :: s.store.log ∧
        (AnnouncesRate info.frameRate input.fpsN input.fpsD ↔ input.fpsN = 0 ∧ input.fpsD = 0)) ∧
      ∃ info, (final (H265.newSequence env' sps' maxDpbSize' s')).store.log = .beginSequence info sps' :: s'.store.log ∧
        AnnouncesRate info.frameRate input.fpsN input.fpsD := by
  constructor
  · have h : H264.newSequence env sps maxDpbSize s =
        .ok .ok (s.beginSequence env sps (H264.sequenceInfo env sps maxDpbSize input)) := by
      change (H264.deref s.inputState >>= _) s = _
      rw [hs]
      rfl
    refine ⟨H264.sequenceInfo env sps maxDpbSize input, by rw [h]; rfl, ?_⟩
    rw [announcesRate_iff hn hd, ← packFramerate_eq_zero hn hd]
    exact times_thousand (packFramerate_lt hn hd)
  · have h : H265.newSequence env' sps' maxDpbSize' s' =
        .ok .ok (s'.beginSequence env' sps' (H265.sequenceInfo env' sps' (s'.vpsOf env' sps') maxDpbSize' input)) := by
      change (H265.deref s'.inputState >>= _) s' = _
      rw [hs']
      rfl
    refine ⟨H265.sequenceInfo env' sps' (s'.vpsOf env' sps') maxDpbSize' input, by rw [h]; rfl, ?_⟩
    exact (announcesRate_iff hn hd).mpr rfl

section Examples

/-- Caps of twenty-five frames a second. -/
def palInput : InputState := { fpsN := 25, fpsD := 1 }

def palDecoder : H264.Decoder H264.Tables := { parser := {}, inputState := some palInput }

def palDecoder' : H265.Decoder H265.Tables := { parser := {}, inputState := some palInput }

def emptyScript : H264.Script := { sps := [], pps := [], slices := [] }

theorem frameRate_announced_pal :
    (∃ info, (final (H264.newSequence emptyScript.env {} 1 palDecoder)).store.log = [.beginSequence info {}] ∧
        (AnnouncesRate info.frameRate 25 1 ↔ 25 = 0 ∧ 1 = 0)) ∧
      ∃ info, (final (H265.newSequence (H265.Script.env {}) {} 1 palDecoder')).store.log = [.beginSequence info {}] ∧
        AnnouncesRate info.frameRate 25 1 :=
  frameRate_announced emptyScript.env (H265.Script.env {}) palDecoder palDecoder' {} {} 1 1 palInput rfl rfl (by decide)
    (by decide)

def announcedRates (log : List H264.Event) : List Nat :=
  log.filterMap fun
    | .beginSequence info _ => some info.frameRate
    | _ => none

def palSequences : List H264.Event := (final (H264.newSequence emptyScript.env {} 1 palDecoder)).store.log

theorem frameRate_multiplied : ∃ rate ∈ announcedRates palSequences, ¬AnnouncesRate rate palInput.fpsN palInput.fpsD := by
  refine ⟨409601000, by decide +kernel, fun h => ?_⟩
  have hr := h.exact_of_fits (by decide) (by decide) (by decide) (by decide)
  exact absurd hr (by decide)

end Examples

end VkVideoParser
