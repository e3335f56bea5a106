import Mathlib.Order.Monotone.Basic
import VkVideoParser.Library.Loops
import VkVideoParser.H264.ParameterSets

/-! The slice group map of gstvkh264dec.cpp, which no picture gets while parse_pps rejects the PPS. Its counters are
bytes. -/

namespace VkVideoParser.H264

open Loops

-- `ret[i] = group`, within the bytes that were allocated
def setUnit (i group : Nat) (ret : List Nat) : Option (List Nat) := if i < ret.length then some (ret.set i group) else none

-- ret[start + i] = group (i); i++ with a byte for i
def unitStep (start : Nat) (group : Nat → Option Nat) (s : Nat × List Nat) : Option (Nat × List Nat) := do
  let ret ← setUnit (start + s.1) (← group s.1) s.2
  return ((s.1 + 1) % 2 ^ 8, ret)

-- for (i = 0; i <= last; i++)
def fillUnits (fuel last : Nat) (group : Nat → Option Nat) (ret : List Nat) : Option (List Nat) :=
  (whileLoop (fun s : Nat × List Nat => s.1 ≤ last) (unitStep 0 group) fuel (0, ret)).map Prod.snd

-- the loop over k
def fillRun (fuel last i j run : Nat) (ret : List Nat) : Option (List Nat) :=
  (whileLoop (fun s : Nat × List Nat => s.1 ≤ run ∧ i + s.1 ≤ last) (unitStep i fun _ => some j) fuel (0, ret)).map Prod.snd

-- i, j and the map
abbrev RunState := Nat × Nat × List Nat

def runStep (pps : GstH264PPS) (fuel : Nat) (s : RunState) : Option RunState := do
  let run ← pps.runLengthMinus1[s.2.1]?
  let ret ← fillRun fuel pps.picSizeInMapUnitsMinus1 s.1 s.2.1 run s.2.2
  return ((s.1 + (run + 1)) % 2 ^ 8, (s.2.1 + 1) % 2 ^ 8, ret)

-- the loop over j, from its start
def fillRuns (pps : GstH264PPS) (fuel : Nat) (s : Nat × List Nat) : Option (Nat × List Nat) :=
  (whileLoop (fun s : RunState => s.2.1 ≤ pps.numSliceGroupsMinus1 ∧ s.1 ≤ pps.picSizeInMapUnitsMinus1)
    (runStep pps fuel) fuel (s.1, 0, s.2)).map fun s => (s.1, s.2.2)

def interleavedMap (pps : GstH264PPS) (fuel : Nat) (ret : List Nat) : Option (List Nat) := do
  let s ← fillRuns pps fuel (0, ret)
  let s ← whileLoop (fun s : Nat × List Nat => s.1 ≤ pps.picSizeInMapUnitsMinus1) (fillRuns pps fuel) fuel s
  return s.2

-- the two loops over a rectangle: words bound them, their counters are bytes
def fillRow (fuel xtl xbr start group : Nat) (ret : List Nat) : Option (List Nat) :=
  (whileLoop (fun s : Nat × List Nat => s.1 < xbr) (unitStep start fun _ => some group) fuel (xtl % 2 ^ 8, ret)).map Prod.snd

def fillRectangle (pps : GstH264PPS) (width fuel i : Nat) (ret : List Nat) : Option (List Nat) := do
  guard (width ≠ 0)
  let topLeft ← pps.topLeft[i]?
  let bottomRight ← pps.bottomRight[i]?
  let s ← whileLoop (fun s : Nat × List Nat => s.1 < bottomRight / width)
    (fun s => do
      let ret ← fillRow fuel (topLeft % width) (bottomRight % width) (s.1 * width) i s.2
      return ((s.1 + 1) % 2 ^ 8, ret)) fuel (topLeft / width % 2 ^ 8, ret)
  return s.2

-- the byte i counts down and is never negative
def foregroundMap (pps : GstH264PPS) (width fuel : Nat) (ret : List Nat) : Option (List Nat) := do
  let ret ← fillUnits fuel pps.picSizeInMapUnitsMinus1 (fun _ => some (pps.numSliceGroupsMinus1 % 2 ^ 8)) ret
  let s ← whileLoop (fun _ => true)
    (fun s : Nat × List Nat => do
      let ret ← fillRectangle pps width fuel s.1 s.2
      return ((s.1 + 2 ^ 8 - 1) % 2 ^ 8, ret)) fuel ((pps.numSliceGroupsMinus1 + 2 ^ 32 - 1) % 2 ^ 8, ret)
  return s.2

def dispersedGroup (pps : GstH264PPS) (width i : Nat) : Nat :=
  (i % width + i / width * (pps.numSliceGroupsMinus1 + 1) / 2) % (pps.numSliceGroupsMinus1 + 1)

-- get_slice_group_map, each of its loops with `fuel` turns
def getSliceGroupMap (fuel : Nat) (pps : GstH264PPS) (sps : GstH264SPS) : Option (List Nat) :=
  let last := pps.picSizeInMapUnitsMinus1
  let width := (sps.picWidthInMbsMinus1 + 1) % 2 ^ 32
  let ret := List.replicate ((last + 1) % 2 ^ 32) 0
  if pps.numSliceGroupsMinus1 = 0 then some ret
  else
    match pps.sliceGroupMapType with
    | 0 => interleavedMap pps fuel ret
    | 1 => fillUnits fuel last (fun i => if width = 0 then none else some (dispersedGroup pps width i)) ret
    | 2 => foregroundMap pps width fuel ret
    | 6 => fillUnits fuel last (fun i => pps.sliceGroupId[i]?) ret
    | _ => some ret

variable {pps : GstH264PPS} {sps : GstH264SPS} {fuel last i j run l : Nat} {ret map : List Nat} {s t : RunState}

/-- The first `l` runs from that of the group `j` on are as long as that. -/
def runsLength (pps : GstH264PPS) (j : Nat) : Nat → Nat
  | 0 => 0
  | l + 1 => runsLength pps j l + (pps.runLengthMinus1.getD ((j + l) % (pps.numSliceGroupsMinus1 + 1)) 0 + 1)

def GstH264SPS.picWidthInMbs (sps : GstH264SPS) : Nat := sps.picWidthInMbsMinus1 + 1

/-- The unit `i` lies in the rectangle of the group `g`. -/
def inRectangle (pps : GstH264PPS) (sps : GstH264SPS) (g i : Nat) : Prop :=
  let topLeft := pps.topLeft.getD g 0
  let bottomRight := pps.bottomRight.getD g 0
  let w := sps.picWidthInMbs
  topLeft / w ≤ i / w ∧ i / w ≤ bottomRight / w ∧ topLeft % w ≤ i % w ∧ i % w ≤ bottomRight % w

instance (g i : Nat) : Decidable (inRectangle pps sps g i) := by
  unfold inRectangle
  infer_instance

def foregroundGroup (pps : GstH264PPS) (sps : GstH264SPS) (i : Nat) : Nat :=
  ((List.range pps.numSliceGroupsMinus1).find? fun g => inRectangle pps sps g i).getD pps.numSliceGroupsMinus1

/-- The map of clause 8.2.2, of every unit its group; of the type 0 the `l`-th run is that of the group
`l % (n + 1)`. -/
structure IsSliceGroupMap (pps : GstH264PPS) (sps : GstH264SPS) (map : List Nat) : Prop where
  length : map.length = pps.picSizeInMapUnitsMinus1 + 1
  interleaved : pps.sliceGroupMapType = 0 → ∀ l i, runsLength pps 0 l ≤ i → i < runsLength pps 0 (l + 1) →
    i ≤ pps.picSizeInMapUnitsMinus1 → map[i]? = some (l % (pps.numSliceGroupsMinus1 + 1))
  dispersed : pps.sliceGroupMapType = 1 → ∀ i ≤ pps.picSizeInMapUnitsMinus1,
    map[i]? = some (dispersedGroup pps sps.picWidthInMbs i)
  foreground : pps.sliceGroupMapType = 2 → ∀ i ≤ pps.picSizeInMapUnitsMinus1, map[i]? = some (foregroundGroup pps sps i)
  explicit : pps.sliceGroupMapType = 6 → ∀ i ≤ pps.picSizeInMapUnitsMinus1, map[i]? = pps.sliceGroupId[i]?

/-- The fields of the PPS are consistent with one another and with the SPS. -/
structure GroupsConsistent (pps : GstH264PPS) (sps : GstH264SPS) : Prop where
  groups : 1 ≤ pps.numSliceGroupsMinus1 ∧ pps.numSliceGroupsMinus1 ≤ 7
  arrays : pps.runLengthMinus1.length = 8 ∧ pps.topLeft.length = 8 ∧ pps.bottomRight.length = 8
  size : pps.picSizeInMapUnitsMinus1 + 1 < 2 ^ 32
  width : sps.picWidthInMbs < 2 ^ 32
  runs : pps.sliceGroupMapType = 0 → ∀ g ≤ pps.numSliceGroupsMinus1,
    pps.runLengthMinus1.getD g 0 ≤ pps.picSizeInMapUnitsMinus1
  rectangles : pps.sliceGroupMapType = 2 → ∀ g < pps.numSliceGroupsMinus1,
    pps.topLeft.getD g 0 / sps.picWidthInMbs ≤ pps.bottomRight.getD g 0 / sps.picWidthInMbs ∧
    pps.topLeft.getD g 0 % sps.picWidthInMbs ≤ pps.bottomRight.getD g 0 % sps.picWidthInMbs ∧
    pps.bottomRight.getD g 0 ≤ pps.picSizeInMapUnitsMinus1
  ids : pps.sliceGroupMapType = 6 → pps.sliceGroupId.length = pps.picSizeInMapUnitsMinus1 + 1 ∧
    ∀ g ∈ pps.sliceGroupId, g ≤ pps.numSliceGroupsMinus1

/-- No counter passes a byte: there are at most 255 units, and a run that starts in the picture ends before the
unit 255. -/
def FitsBytes (pps : GstH264PPS) : Prop :=
  match pps.sliceGroupMapType with
  | 0 => ∀ l, runsLength pps 0 l ≤ pps.picSizeInMapUnitsMinus1 → runsLength pps 0 (l + 1) < 2 ^ 8
  | 2 => False
  | _ => pps.picSizeInMapUnitsMinus1 + 1 < 2 ^ 8

lemma setUnit_some {i g : Nat} (h : i < ret.length) : setUnit i g ret = some (ret.set i g) := if_pos h

lemma setUnit_eq_some {i g : Nat} (h : setUnit i g ret = some map) : i < ret.length ∧ map = ret.set i g := by
  unfold setUnit at h
  split at h
  · exact ⟨‹_›, (Option.some.inj h).symm⟩
  · cases h

lemma unitStep_some {g : Nat} {group : Nat → Option Nat} {s : Nat × List Nat} (start : Nat) (hg : group s.1 = some g)
    (hi : start + s.1 < s.2.length) :
    unitStep start group s = some ((s.1 + 1) % 2 ^ 8, s.2.set (start + s.1) g) := by
  rw [unitStep, hg]
  exact (congrArg (Option.bind · _) (setUnit_some hi)).trans rfl

lemma unitStep_eq_some {start : Nat} {group : Nat → Option Nat} {s t : Nat × List Nat} (h : unitStep start group s = some t) :
    start + s.1 < s.2.length ∧ ∃ g, group s.1 = some g ∧ t = ((s.1 + 1) % 2 ^ 8, s.2.set (start + s.1) g) := by
  obtain ⟨g, hg, h⟩ := Option.bind_eq_some_iff.mp h
  obtain ⟨ret', hset, h⟩ := Option.bind_eq_some_iff.mp h
  obtain ⟨hlt, rfl⟩ := setUnit_eq_some hset
  exact ⟨hlt, g, hg, (Option.some.inj h).symm⟩

section Units

variable {group : Nat → Option Nat} {start bound : Nat} {s t : Nat × List Nat}

/-- Of the units from `start` on, the first `s.1` ones have their groups, and the others are as they were. -/
structure FilledTo (start bound : Nat) (group : Nat → Option Nat) (ret : List Nat) (s : Nat × List Nat) : Prop where
  bounded : s.1 ≤ bound
  length : s.2.length = ret.length
  units : ∀ i < s.1, s.2[start + i]? = group i
  others : ∀ i, i < start ∨ start + s.1 ≤ i → s.2[i]? = ret[i]?

lemma filledTo_zero : FilledTo start bound group ret (0, ret) :=
  ⟨Nat.zero_le _, rfl, fun i hi => absurd hi (Nat.not_lt_zero i), fun _ _ => rfl⟩

lemma FilledTo.step (hs : FilledTo start bound group ret s) (hbound : bound < 2 ^ 8) (hc : s.1 < bound)
    (h : unitStep start group s = some t) : FilledTo start bound group ret t ∧ t.1 = s.1 + 1 := by
  obtain ⟨hlt, g, hg, rfl⟩ := unitStep_eq_some h
  have hnext : (s.1 + 1) % 2 ^ 8 = s.1 + 1 := Nat.mod_eq_of_lt (by omega)
  refine ⟨⟨?_, ?_, fun i hi => ?_, fun i hi => ?_⟩, hnext⟩
  · simp only [hnext]
    omega
  · rw [List.length_set]
    exact hs.length
  · simp only [hnext] at hi
    rw [List.getElem?_set]
    by_cases his : s.1 = i
    · rw [if_pos (by omega), if_pos hlt, ← his]
      exact hg.symm
    · rw [if_neg (by omega)]
      exact hs.units i (by omega)
  · simp only [hnext] at hi
    rw [List.getElem?_set_ne (by omega)]
    exact hs.others i (by omega)

lemma FilledTo.turn (hs : FilledTo start bound group ret s) (hbound : bound < 2 ^ 8) (hret : start + bound ≤ ret.length)
    (hgroup : ∀ i < bound, ∃ g, group i = some g) (hc : s.1 < bound) :
    ∃ t, unitStep start group s = some t ∧ FilledTo start bound group ret t ∧ bound - t.1 < bound - s.1 := by
  obtain ⟨g, hg⟩ := hgroup s.1 hc
  have hstep := unitStep_some start hg (by rw [hs.length]; omega)
  obtain ⟨hnext, hone⟩ := hs.step hbound hc hstep
  exact ⟨_, hstep, hnext, by omega⟩

lemma fillUnits_forever (h : 2 ^ 8 ≤ last + 1) : fillUnits fuel last group ret = none := by
  rw [fillUnits, whileLoop_forever (I := fun s => s.1 < 2 ^ 8) (fun s hs => ?_) (fun s t hs hst => ?_) (Nat.two_pow_pos 8)]
  · rfl
  · exact decide_eq_true (by omega)
  · obtain ⟨-, g, -, rfl⟩ := unitStep_eq_some hst
    exact Nat.mod_lt _ (by decide)

lemma fillUnits_iff (hret : ret.length = last + 1) (hgroup : ∀ i < last + 1, ∃ g, group i = some g) :
    (∃ fuel map, fillUnits fuel last group ret = some map ∧ map.length = last + 1 ∧ ∀ i ≤ last, map[i]? = group i) ↔
      last + 1 < 2 ^ 8 := by
  constructor
  · rintro ⟨fuel, map, h, -⟩
    by_contra hlast
    rw [fillUnits_forever (by omega)] at h
    cases h
  · intro hlast
    have hstart : FilledTo 0 (last + 1) group ret (0, ret) := filledTo_zero
    have hreturns : ∃ s, whileLoop (fun s : Nat × List Nat => s.1 ≤ last) (unitStep 0 group) (last + 2) (0, ret) = some s :=
      whileLoop_returns (I := FilledTo 0 (last + 1) group ret) (fun s => last + 1 - s.1)
        (fun s hs hc => hs.turn hlast (by omega) hgroup (Nat.lt_succ_of_le (of_decide_eq_true hc))) hstart (Nat.lt_succ_self _)
    obtain ⟨s, hs⟩ := hreturns
    obtain ⟨hfilled, hc⟩ := whileLoop_keeps
      (fun s t hs hc h => (hs.step hlast (Nat.lt_succ_of_le (of_decide_eq_true hc)) h).1) hs hstart
    refine ⟨last + 2, s.2, by rw [fillUnits, hs]; rfl, hfilled.length.trans hret, fun i hi => ?_⟩
    have := hfilled.units i (lt_of_le_of_lt hi (Nat.lt_of_not_le (of_decide_eq_false hc)))
    rwa [Nat.zero_add] at this

lemma fillRun_spec (hlast : last + 1 < 2 ^ 8) (hret : ret.length = last + 1) (hi : i ≤ last) :
    (∀ fuel map, fillRun fuel last i j run ret = some map → map.length = ret.length ∧
      (∀ x, i ≤ x → x ≤ i + run → x ≤ last → map[x]? = some j) ∧ ∀ x < i, map[x]? = ret[x]?) ∧
    ∀ fuel, last + 1 < fuel → ∃ map, fillRun fuel last i j run ret = some map := by
  have hbound : min (run + 1) (last + 1 - i) < 2 ^ 8 := by omega
  have hturn : ∀ s : Nat × List Nat, decide (s.1 ≤ run ∧ i + s.1 ≤ last) → s.1 < min (run + 1) (last + 1 - i) := fun s hc => by
    have := of_decide_eq_true hc
    omega
  constructor
  · intro fuel map h
    obtain ⟨s, hs, rfl⟩ := Option.map_eq_some_iff.mp h
    obtain ⟨hfilled, hc⟩ := whileLoop_keeps (I := FilledTo i (min (run + 1) (last + 1 - i)) (fun _ => some j) ret)
      (fun s t hs hc h => (hs.step hbound (hturn s hc) h).1) hs filledTo_zero
    refine ⟨hfilled.length, fun x hx hrun hlast => ?_, fun x hx => hfilled.others x (.inl hx)⟩
    have hdone : ¬(s.1 ≤ run ∧ i + s.1 ≤ last) := of_decide_eq_false hc
    have := hfilled.units (x - i) (by omega)
    rwa [Nat.add_sub_cancel' hx] at this
  · intro fuel hfuel
    have hreturns := whileLoop_returns (I := FilledTo i (min (run + 1) (last + 1 - i)) (fun _ => some j) ret)
      (fun s => min (run + 1) (last + 1 - i) - s.1)
      (fun s hs hc => hs.turn hbound (by omega) (fun _ _ => ⟨j, rfl⟩) (hturn s hc)) filledTo_zero (by omega : _ < fuel)
    obtain ⟨s, hs⟩ := hreturns
    exact ⟨s.2, by rw [fillRun, hs]; rfl⟩

end Units

section Runs

variable {i₀ j₀ n : Nat}

lemma runsLength_mono : Monotone (runsLength pps j₀) := monotone_nat_of_le_succ fun _ => Nat.le_add_right _ _

/-- `n` runs, the first one of the group `j₀`, are laid from the unit `i₀` up to `i`. -/
structure Laid (pps : GstH264PPS) (i₀ j₀ n i : Nat) (ret : List Nat) : Prop where
  next : i = i₀ + runsLength pps j₀ n
  byte : i < 2 ^ 8
  length : ret.length = pps.picSizeInMapUnitsMinus1 + 1
  runs : ∀ l < n, ∀ x, i₀ + runsLength pps j₀ l ≤ x → x < i₀ + runsLength pps j₀ (l + 1) →
    x ≤ pps.picSizeInMapUnitsMinus1 → ret[x]? = some ((j₀ + l) % (pps.numSliceGroupsMinus1 + 1))

/-- What the loops over runs rely on; runs may be laid from the units and groups of `origin`. -/
structure Layable (pps : GstH264PPS) (origin : Nat → Nat → Prop) : Prop where
  groups : pps.numSliceGroupsMinus1 < pps.runLengthMinus1.length
  few : pps.numSliceGroupsMinus1 + 1 < 2 ^ 8
  units : pps.picSizeInMapUnitsMinus1 + 1 < 2 ^ 8
  runs : ∀ g ≤ pps.numSliceGroupsMinus1, pps.runLengthMinus1.getD g 0 ≤ pps.picSizeInMapUnitsMinus1
  wraps : ∀ i₀ j₀ n, origin i₀ j₀ → i₀ + runsLength pps j₀ n ≤ pps.picSizeInMapUnitsMinus1 →
    i₀ + runsLength pps j₀ (n + 1) < 2 ^ 8 ∨ ∀ i ≤ pps.picSizeInMapUnitsMinus1, ∀ j, origin i j

variable {origin : Nat → Nat → Prop}

/-- In the loop over j: the group of the next run is that of the counter. -/
def InRuns (pps : GstH264PPS) (origin : Nat → Nat → Prop) (s : RunState) : Prop :=
  s.2.1 ≤ pps.numSliceGroupsMinus1 + 1 ∧ ∃ i₀ j₀ n, origin i₀ j₀ ∧ Laid pps i₀ j₀ n s.1 s.2.2 ∧
    (j₀ + n) % (pps.numSliceGroupsMinus1 + 1) = s.2.1 % (pps.numSliceGroupsMinus1 + 1)

lemma runStep_eq_some (h : runStep pps fuel s = some t) : ∃ run ret, pps.runLengthMinus1[s.2.1]? = some run ∧
    fillRun fuel pps.picSizeInMapUnitsMinus1 s.1 s.2.1 run s.2.2 = some ret ∧
      t = ((s.1 + (run + 1)) % 2 ^ 8, (s.2.1 + 1) % 2 ^ 8, ret) := by
  obtain ⟨run, hrun, h⟩ := Option.bind_eq_some_iff.mp h
  obtain ⟨ret, hret, h⟩ := Option.bind_eq_some_iff.mp h
  exact ⟨run, ret, hrun, hret, (Option.some.inj h).symm⟩

lemma InRuns.step (hp : Layable pps origin) (hs : InRuns pps origin s) (hj : s.2.1 ≤ pps.numSliceGroupsMinus1)
    (hi : s.1 ≤ pps.picSizeInMapUnitsMinus1) (h : runStep pps fuel s = some t) :
    InRuns pps origin t ∧ t.2.1 = s.2.1 + 1 := by
  obtain ⟨run, ret, hrun, hret, rfl⟩ := runStep_eq_some h
  obtain ⟨-, i₀, j₀, n, horigin, hlaid, hgroup⟩ := hs
  have hfew := hp.few
  have hunits := hp.units
  have hj' : (s.2.1 + 1) % 2 ^ 8 = s.2.1 + 1 := Nat.mod_eq_of_lt (by omega)
  rw [Nat.mod_eq_of_lt (Nat.lt_succ_of_le hj)] at hgroup
  have hlen : pps.runLengthMinus1.getD s.2.1 0 = run := by rw [List.getD_eq_getElem?_getD, hrun, Option.getD_some]
  have hle : run ≤ pps.picSizeInMapUnitsMinus1 := hlen ▸ hp.runs _ hj
  have hnext : i₀ + runsLength pps j₀ (n + 1) = s.1 + (run + 1) := by
    rw [runsLength, hgroup, hlen, hlaid.next, Nat.add_assoc]
  obtain ⟨hlength, hpaint, hkeep⟩ := (fillRun_spec hunits hlaid.length hi).1 fuel ret hret
  refine ⟨⟨?_, ?_⟩, hj'⟩
  · simp only [hj']
    omega
  simp only [hj']
  have hsucc : (j₀ + (n + 1)) % (pps.numSliceGroupsMinus1 + 1) = (s.2.1 + 1) % (pps.numSliceGroupsMinus1 + 1) := by
    rw [← Nat.add_assoc, ← Nat.mod_add_mod, hgroup]
  rcases Nat.lt_or_ge (s.1 + (run + 1)) (2 ^ 8) with hlt | hge
  · rw [Nat.mod_eq_of_lt hlt]
    refine ⟨i₀, j₀, n + 1, horigin, ⟨hnext.symm, hlt, hlength.trans hlaid.length, fun l hl x hx hx' hx'' => ?_⟩, hsucc⟩
    rcases Nat.lt_succ_iff_lt_or_eq.mp hl with hl | rfl
    · have : i₀ + runsLength pps j₀ (l + 1) ≤ s.1 := hlaid.next ▸ Nat.add_le_add_left (runsLength_mono hl) i₀
      rw [hkeep x (by omega)]
      exact hlaid.runs l hl x hx hx' hx''
    · rw [hpaint x (hlaid.next ▸ hx) (by omega) hx'', hgroup]
  · have hwrap : (s.1 + (run + 1)) % 2 ^ 8 ≤ pps.picSizeInMapUnitsMinus1 := by omega
    have hany := (hp.wraps i₀ j₀ n horigin (hlaid.next ▸ hi)).resolve_left (by omega)
    refine ⟨_, s.2.1 + 1, 0, hany _ hwrap _, ⟨rfl, Nat.mod_lt _ (by decide), hlength.trans hlaid.length, fun l hl => ?_⟩, rfl⟩
    exact absurd hl (Nat.not_lt_zero l)

/-- Before the loop over j: the next run is that of the group 0, if there is one. -/
def AtRuns (pps : GstH264PPS) (origin : Nat → Nat → Prop) (s : Nat × List Nat) : Prop :=
  ∃ i₀ j₀ n, origin i₀ j₀ ∧ Laid pps i₀ j₀ n s.1 s.2 ∧
    (s.1 ≤ pps.picSizeInMapUnitsMinus1 → (j₀ + n) % (pps.numSliceGroupsMinus1 + 1) = 0)

variable {u v : Nat × List Nat}

lemma AtRuns.inRuns (hu : AtRuns pps origin u) (hi : u.1 ≤ pps.picSizeInMapUnitsMinus1) :
    InRuns pps origin (u.1, 0, u.2) := by
  obtain ⟨i₀, j₀, n, horigin, hlaid, hgroup⟩ := hu
  exact ⟨Nat.zero_le _, i₀, j₀, n, horigin, hlaid, (hgroup hi).trans (Nat.zero_mod _).symm⟩

lemma AtRuns.filled (hp : Layable pps origin) (hu : AtRuns pps origin u) (hi : u.1 ≤ pps.picSizeInMapUnitsMinus1)
    (h : fillRuns pps fuel u = some v) : AtRuns pps origin v := by
  obtain ⟨s, hs, rfl⟩ := Option.map_eq_some_iff.mp h
  obtain ⟨⟨hj, i₀, j₀, n, horigin, hlaid, hgroup⟩, hc⟩ := whileLoop_keeps (I := InRuns pps origin)
    (fun s t hs hc h => (hs.step hp (of_decide_eq_true hc).1 (of_decide_eq_true hc).2 h).1) hs (hu.inRuns hi)
  refine ⟨i₀, j₀, n, horigin, hlaid, fun hi => ?_⟩
  have hend : s.2.1 = pps.numSliceGroupsMinus1 + 1 := by
    have hc : ¬(s.2.1 ≤ pps.numSliceGroupsMinus1 ∧ s.1 ≤ pps.picSizeInMapUnitsMinus1) := of_decide_eq_false hc
    have hi : s.1 ≤ pps.picSizeInMapUnitsMinus1 := hi
    omega
  rw [hgroup, hend, Nat.mod_self]

lemma atRuns_start (h : origin 0 0) (hret : ret.length = pps.picSizeInMapUnitsMinus1 + 1) : AtRuns pps origin (0, ret) :=
  ⟨0, 0, 0, h, ⟨rfl, Nat.two_pow_pos 8, hret, fun l hl => absurd hl (Nat.not_lt_zero l)⟩, fun _ => Nat.zero_mod _⟩

lemma laid_of_interleavedMap (hp : Layable pps origin) (horigin : origin 0 0)
    (hret : ret.length = pps.picSizeInMapUnitsMinus1 + 1) (h : interleavedMap pps fuel ret = some map) :
    ∃ i₀ j₀ n i, origin i₀ j₀ ∧ Laid pps i₀ j₀ n i map ∧ pps.picSizeInMapUnitsMinus1 < i := by
  obtain ⟨u, hu, h⟩ := Option.bind_eq_some_iff.mp h
  obtain ⟨v, hv, h⟩ := Option.bind_eq_some_iff.mp h
  obtain rfl := Option.some.inj h
  have hstart := atRuns_start horigin hret
  obtain ⟨⟨i₀, j₀, n, horigin, hlaid, -⟩, hc⟩ := whileLoop_keeps (I := AtRuns pps origin)
    (fun s t hs hc h => hs.filled hp (of_decide_eq_true hc) h) hv (hstart.filled hp (Nat.zero_le _) hu)
  exact ⟨i₀, j₀, n, v.1, horigin, hlaid, Nat.lt_of_not_le (of_decide_eq_false hc)⟩

/-- Runs that fit are laid one after another from the unit 0. -/
def fromZero (i₀ j₀ : Nat) : Prop := i₀ = 0 ∧ j₀ = 0

lemma InRuns.advances (hp : Layable pps fromZero) (hs : InRuns pps fromZero s) (hj : s.2.1 ≤ pps.numSliceGroupsMinus1)
    (hi : s.1 ≤ pps.picSizeInMapUnitsMinus1) (hfuel : pps.picSizeInMapUnitsMinus1 + 1 < fuel) :
    ∃ t, runStep pps fuel s = some t ∧ s.1 < t.1 := by
  obtain ⟨-, i₀, j₀, n, horigin, hlaid, hgroup⟩ := hs
  rw [Nat.mod_eq_of_lt (Nat.lt_succ_of_le hj)] at hgroup
  have hrun : pps.runLengthMinus1[s.2.1]? = some (pps.runLengthMinus1.getD s.2.1 0) := by
    have hlt : s.2.1 < pps.runLengthMinus1.length := lt_of_le_of_lt hj hp.groups
    rw [List.getD_eq_getElem?_getD, List.getElem?_eq_getElem hlt, Option.getD_some]
  obtain ⟨ret, hret⟩ : ∃ ret, fillRun fuel pps.picSizeInMapUnitsMinus1 s.1 s.2.1 (pps.runLengthMinus1.getD s.2.1 0) s.2.2 =
      some ret := (fillRun_spec hp.units hlaid.length hi).2 fuel hfuel
  refine ⟨((s.1 + (pps.runLengthMinus1.getD s.2.1 0 + 1)) % 2 ^ 8, (s.2.1 + 1) % 2 ^ 8, ret), ?_, ?_⟩
  · rw [runStep, hrun]
    exact (congrArg (Option.bind · _) hret).trans rfl
  · have hlt : s.1 + (pps.runLengthMinus1.getD s.2.1 0 + 1) < 2 ^ 8 := by
      rcases hp.wraps i₀ j₀ n horigin (hlaid.next ▸ hi) with h | h
      · rwa [runsLength, hgroup, ← Nat.add_assoc, ← hlaid.next] at h
      · exact absurd (h 0 (Nat.zero_le _) 1).2 Nat.one_ne_zero
    simp only [Nat.mod_eq_of_lt hlt]
    omega

/-- In the loop over j, which began at the unit `i`: the first turn passes it. -/
def Passing (pps : GstH264PPS) (i : Nat) (s : RunState) : Prop :=
  InRuns pps fromZero s ∧ (s.2.1 = 0 ∧ s.1 = i ∨ i < s.1)

lemma Passing.step (hp : Layable pps fromZero) (hs : Passing pps i s) (hj : s.2.1 ≤ pps.numSliceGroupsMinus1)
    (hi : s.1 ≤ pps.picSizeInMapUnitsMinus1) (hfuel : pps.picSizeInMapUnitsMinus1 + 1 < fuel) :
    ∃ t, runStep pps fuel s = some t ∧ Passing pps i t ∧ t.2.1 = s.2.1 + 1 := by
  obtain ⟨t, ht, hlt⟩ := hs.1.advances hp hj hi hfuel
  obtain ⟨hruns, hone⟩ := hs.1.step hp hj hi ht
  have := hs.2
  exact ⟨t, ht, ⟨hruns, .inr (by omega)⟩, hone⟩

lemma AtRuns.advances (hp : Layable pps fromZero) (hu : AtRuns pps fromZero u) (hi : u.1 ≤ pps.picSizeInMapUnitsMinus1)
    (hfuel : pps.picSizeInMapUnitsMinus1 + 1 < fuel) (hfuel' : pps.numSliceGroupsMinus1 + 1 < fuel) :
    ∃ v, fillRuns pps fuel u = some v ∧ u.1 < v.1 := by
  have hstart : Passing pps u.1 (u.1, 0, u.2) := ⟨hu.inRuns hi, .inl ⟨rfl, rfl⟩⟩
  have hreturns : ∃ s, whileLoop (fun s : RunState => s.2.1 ≤ pps.numSliceGroupsMinus1 ∧ s.1 ≤ pps.picSizeInMapUnitsMinus1)
      (runStep pps fuel) fuel (u.1, 0, u.2) = some s := by
    refine whileLoop_returns (I := Passing pps u.1) (fun s => pps.numSliceGroupsMinus1 + 1 - s.2.1) (fun s hs hc => ?_)
      hstart hfuel'
    obtain ⟨hj, hi⟩ := of_decide_eq_true hc
    obtain ⟨t, ht, hpass, hone⟩ := hs.step hp hj hi hfuel
    exact ⟨t, ht, hpass, by omega⟩
  obtain ⟨s, hs⟩ := hreturns
  refine ⟨(s.1, s.2.2), by rw [fillRuns, hs]; rfl, ?_⟩
  have hkeeps : ∀ s t : RunState, Passing pps u.1 s →
      decide (s.2.1 ≤ pps.numSliceGroupsMinus1 ∧ s.1 ≤ pps.picSizeInMapUnitsMinus1) → runStep pps fuel s = some t →
      Passing pps u.1 t := by
    intro s t hs hc h
    obtain ⟨hj, hi⟩ := of_decide_eq_true hc
    obtain ⟨t', ht', hpass, -⟩ := hs.step hp hj hi hfuel
    exact Option.some.inj (h.symm.trans ht') ▸ hpass
  obtain ⟨⟨-, hmoved⟩, hc⟩ := whileLoop_keeps hkeeps hs hstart
  have hc : ¬(s.2.1 ≤ pps.numSliceGroupsMinus1 ∧ s.1 ≤ pps.picSizeInMapUnitsMinus1) := of_decide_eq_false hc
  simp only
  omega

lemma interleavedMap_returns (hp : Layable pps fromZero) (hret : ret.length = pps.picSizeInMapUnitsMinus1 + 1) :
    ∃ fuel map, interleavedMap pps fuel ret = some map := by
  have hstart : AtRuns pps fromZero (0, ret) := atRuns_start ⟨rfl, rfl⟩ hret
  obtain ⟨fuel, hfuel, hfuel'⟩ : ∃ fuel, pps.picSizeInMapUnitsMinus1 + 1 < fuel ∧ pps.numSliceGroupsMinus1 + 1 < fuel :=
    ⟨pps.picSizeInMapUnitsMinus1 + pps.numSliceGroupsMinus1 + 2, by omega, by omega⟩
  obtain ⟨u, hu, -⟩ := hstart.advances hp (Nat.zero_le _) hfuel hfuel'
  have hreturns : ∃ v, whileLoop (fun s : Nat × List Nat => s.1 ≤ pps.picSizeInMapUnitsMinus1) (fillRuns pps fuel) fuel u =
      some v := by
    refine whileLoop_returns (I := AtRuns pps fromZero) (fun s => pps.picSizeInMapUnitsMinus1 + 1 - s.1) (fun s hs hc => ?_)
      (hstart.filled hp (Nat.zero_le _) hu) (by omega)
    have hi : s.1 ≤ pps.picSizeInMapUnitsMinus1 := of_decide_eq_true hc
    obtain ⟨t, ht, hlt⟩ := hs.advances hp hi hfuel hfuel'
    exact ⟨t, ht, hs.filled hp hi ht, by omega⟩
  obtain ⟨v, hv⟩ := hreturns
  refine ⟨fuel, v.2, ?_⟩
  rw [interleavedMap, hu]
  exact (congrArg (Option.bind · _) hv).trans rfl

-- the last counter passes the picture, and is a byte
lemma units_of_interleavedMap (h : interleavedMap pps fuel ret = some map) : pps.picSizeInMapUnitsMinus1 + 1 < 2 ^ 8 := by
  have hruns : ∀ u v : Nat × List Nat, u.1 < 2 ^ 8 → fillRuns pps fuel u = some v → v.1 < 2 ^ 8 := by
    intro u v hu h
    obtain ⟨s, hs, rfl⟩ := Option.map_eq_some_iff.mp h
    refine (whileLoop_keeps (I := fun s : RunState => s.1 < 2 ^ 8) (fun s t hs hc h => ?_) hs hu).1
    obtain ⟨run, ret, -, -, rfl⟩ := runStep_eq_some h
    exact Nat.mod_lt _ (by decide)
  obtain ⟨u, hu, h⟩ := Option.bind_eq_some_iff.mp h
  obtain ⟨v, hv, -⟩ := Option.bind_eq_some_iff.mp h
  obtain ⟨hbyte, hc⟩ := whileLoop_keeps (I := fun s : Nat × List Nat => s.1 < 2 ^ 8) (fun s t hs _ h => hruns s t hs h) hv
    (hruns _ u (Nat.two_pow_pos 8) hu)
  have hc : ¬v.1 ≤ pps.picSizeInMapUnitsMinus1 := of_decide_eq_false hc
  omega

lemma exists_run (x : Nat) : ∃ m, runsLength pps 0 m ≤ x ∧ x < runsLength pps 0 (m + 1) := by
  induction x with
  | zero => exact ⟨0, le_rfl, Nat.succ_pos _⟩
  | succ x ih =>
    obtain ⟨m, hm, hx⟩ := ih
    rcases Nat.lt_or_ge (x + 1) (runsLength pps 0 (m + 1)) with hlt | hge
    · exact ⟨m, by omega, hlt⟩
    · refine ⟨m + 1, hge, ?_⟩
      rw [runsLength]
      omega

-- runs that begin with the same group are equally long
lemma runsLength_add {m : Nat} (h : m % (pps.numSliceGroupsMinus1 + 1) = j₀ % (pps.numSliceGroupsMinus1 + 1)) (l : Nat) :
    runsLength pps 0 (m + l) = runsLength pps 0 m + runsLength pps j₀ l := by
  induction l with
  | zero => rfl
  | succ l ih =>
    have hgroup : (0 + (m + l)) % (pps.numSliceGroupsMinus1 + 1) = (j₀ + l) % (pps.numSliceGroupsMinus1 + 1) := by
      rw [Nat.zero_add, ← Nat.mod_add_mod, h, Nat.mod_add_mod]
    rw [← Nat.add_assoc m l 1, runsLength, runsLength, ih, hgroup, Nat.add_assoc]

lemma succ_group_ne {m : Nat} (hn : 1 ≤ pps.numSliceGroupsMinus1) :
    (m + 1) % (pps.numSliceGroupsMinus1 + 1) ≠ m % (pps.numSliceGroupsMinus1 + 1) := by
  have hlt : m % (pps.numSliceGroupsMinus1 + 1) < pps.numSliceGroupsMinus1 + 1 := Nat.mod_lt _ (Nat.succ_pos _)
  rw [← Nat.mod_add_mod]
  rcases Nat.lt_succ_iff_lt_or_eq.mp hlt with hlt | heq
  · rw [Nat.mod_eq_of_lt (by omega)]
    exact Nat.succ_ne_self _
  · rw [heq, Nat.mod_self]
    omega

/-- Runs laid up to the end of the picture that are those of the map fit into bytes. -/
lemma Laid.fits (h : Laid pps i₀ j₀ n i map) (hi₀ : i₀ ≤ pps.picSizeInMapUnitsMinus1) (hi : pps.picSizeInMapUnitsMinus1 < i)
    (hn : 1 ≤ pps.numSliceGroupsMinus1)
    (hmap : ∀ l x, runsLength pps 0 l ≤ x → x < runsLength pps 0 (l + 1) → x ≤ pps.picSizeInMapUnitsMinus1 →
      map[x]? = some (l % (pps.numSliceGroupsMinus1 + 1))) :
    ∀ l, runsLength pps 0 l ≤ pps.picSizeInMapUnitsMinus1 → runsLength pps 0 (l + 1) < 2 ^ 8 := by
  -- it is enough that a run ends past the picture, and within a byte
  have hend : ∀ m, pps.picSizeInMapUnitsMinus1 < runsLength pps 0 m → runsLength pps 0 m ≤ i →
      ∀ l, runsLength pps 0 l ≤ pps.picSizeInMapUnitsMinus1 → runsLength pps 0 (l + 1) < 2 ^ 8 := by
    intro m hm hle l hl
    have hlt : l < m := by
      by_contra hge
      exact absurd (runsLength_mono (Nat.le_of_not_lt hge)) (Nat.not_le.mpr (hl.trans_lt hm))
    exact ((runsLength_mono hlt).trans hle).trans_lt h.byte
  have hpos : 0 < n := by
    by_contra hzero
    have hnext := h.next
    rw [Nat.eq_zero_of_not_pos hzero, runsLength] at hnext
    omega
  obtain ⟨m, hm, hlt⟩ : ∃ m, runsLength pps 0 m ≤ i₀ ∧ i₀ < runsLength pps 0 (m + 1) := exists_run i₀
  have hfirst := fun x hx hx' => h.runs 0 hpos x hx hx'
  have hgroup : m % (pps.numSliceGroupsMinus1 + 1) = j₀ % (pps.numSliceGroupsMinus1 + 1) := by
    have hlaid := hfirst i₀ le_rfl (Nat.lt_add_of_pos_right (Nat.succ_pos _)) hi₀
    exact Option.some.inj ((hmap m i₀ hm hlt hi₀).symm.trans hlaid)
  have hrun := runsLength_add hgroup 1
  have hone : i₀ + runsLength pps j₀ 1 ≤ i := h.next ▸ Nat.add_le_add_left (runsLength_mono hpos) i₀
  rcases Nat.eq_or_lt_of_le hm with heq | hgt
  · refine hend (m + n) ?_ ?_
    · rw [runsLength_add hgroup, heq, ← h.next]
      exact hi
    · rw [runsLength_add hgroup, heq, ← h.next]
  · refine hend (m + 1) (Nat.lt_of_not_le fun hle => ?_) (by omega)
    have hlaid := hfirst (runsLength pps 0 (m + 1)) hlt.le (hrun ▸ Nat.add_lt_add_right hgt _) hle
    have hwant := hmap (m + 1) (runsLength pps 0 (m + 1)) le_rfl (Nat.lt_add_of_pos_right (Nat.succ_pos _)) hle
    exact succ_group_ne hn (hgroup ▸ Option.some.inj (hwant.symm.trans hlaid))

lemma interleavedMap_iff (hgroups : pps.numSliceGroupsMinus1 < pps.runLengthMinus1.length) (hn : 1 ≤ pps.numSliceGroupsMinus1)
    (hfew : pps.numSliceGroupsMinus1 + 1 < 2 ^ 8)
    (hruns : ∀ g ≤ pps.numSliceGroupsMinus1, pps.runLengthMinus1.getD g 0 ≤ pps.picSizeInMapUnitsMinus1)
    (hret : ret.length = pps.picSizeInMapUnitsMinus1 + 1) :
    (∃ fuel map, interleavedMap pps fuel ret = some map ∧ map.length = pps.picSizeInMapUnitsMinus1 + 1 ∧
      ∀ l x, runsLength pps 0 l ≤ x → x < runsLength pps 0 (l + 1) → x ≤ pps.picSizeInMapUnitsMinus1 →
        map[x]? = some (l % (pps.numSliceGroupsMinus1 + 1))) ↔
      ∀ l, runsLength pps 0 l ≤ pps.picSizeInMapUnitsMinus1 → runsLength pps 0 (l + 1) < 2 ^ 8 := by
  constructor
  · rintro ⟨fuel, map, h, -, hmap⟩
    have hp : Layable pps fun i₀ _ => i₀ ≤ pps.picSizeInMapUnitsMinus1 :=
      ⟨hgroups, hfew, units_of_interleavedMap h, hruns, fun _ _ _ _ _ => .inr fun _ hi _ => hi⟩
    obtain ⟨i₀, j₀, n, i, hi₀, hlaid, hi⟩ := laid_of_interleavedMap hp (Nat.zero_le _) hret h
    exact hlaid.fits hi₀ hi hn hmap
  · intro hfits
    have hunits : pps.picSizeInMapUnitsMinus1 + 1 < 2 ^ 8 := by
      obtain ⟨m, hm, hlt⟩ : ∃ m, runsLength pps 0 m ≤ pps.picSizeInMapUnitsMinus1 ∧
          pps.picSizeInMapUnitsMinus1 < runsLength pps 0 (m + 1) := exists_run _
      have := hfits m hm
      omega
    have hp : Layable pps fromZero := by
      refine ⟨hgroups, hfew, hunits, hruns, ?_⟩
      rintro _ _ n ⟨rfl, rfl⟩ hn
      rw [Nat.zero_add] at hn ⊢
      exact .inl (hfits n hn)
    obtain ⟨fuel, map, h⟩ := interleavedMap_returns hp hret
    obtain ⟨_, _, n, i, ⟨rfl, rfl⟩, hlaid, hi⟩ := laid_of_interleavedMap hp ⟨rfl, rfl⟩ hret h
    refine ⟨fuel, map, h, hlaid.length, fun l x hx hx' hx'' => ?_⟩
    have hl : l < n := by
      by_contra hge
      have hle : runsLength pps 0 n ≤ runsLength pps 0 l := runsLength_mono (Nat.le_of_not_lt hge)
      have hnext := hlaid.next
      omega
    have := hlaid.runs l hl x (by omega) (by omega) hx''
    rwa [Nat.zero_add] at this

end Runs

lemma foregroundMap_eq_none (width : Nat) : foregroundMap pps width fuel ret = none := by
  cases h : foregroundMap pps width fuel ret with
  | none => rfl
  | some map =>
    obtain ⟨u, -, h⟩ := Option.bind_eq_some_iff.mp h
    obtain ⟨v, hv, -⟩ := Option.bind_eq_some_iff.mp h
    rw [whileLoop_forever (I := fun _ => True) (fun _ _ => rfl) (fun _ _ _ _ => trivial) trivial] at hv
    cases hv

lemma getSliceGroupMap_eq (h : GroupsConsistent pps sps) (fuel : Nat) : getSliceGroupMap fuel pps sps =
    let ret := List.replicate (pps.picSizeInMapUnitsMinus1 + 1) 0
    match pps.sliceGroupMapType with
    | 0 => interleavedMap pps fuel ret
    | 1 => fillUnits fuel pps.picSizeInMapUnitsMinus1 (fun i => some (dispersedGroup pps sps.picWidthInMbs i)) ret
    | 2 => foregroundMap pps sps.picWidthInMbs fuel ret
    | 6 => fillUnits fuel pps.picSizeInMapUnitsMinus1 (fun i => pps.sliceGroupId[i]?) ret
    | _ => some ret := by
  have hnot : ¬pps.numSliceGroupsMinus1 = 0 := Nat.ne_of_gt h.groups.1
  have hwidth : (sps.picWidthInMbsMinus1 + 1) % 2 ^ 32 = sps.picWidthInMbs := Nat.mod_eq_of_lt h.width
  have hpos : ¬sps.picWidthInMbs = 0 := Nat.succ_ne_zero _
  simp only [getSliceGroupMap, Nat.mod_eq_of_lt h.size, hwidth, if_neg hnot, if_neg hpos]

/-- For every PPS with slice groups of the types 0, 1, 2 or 6, get_slice_group_map returns the map of the standard exactly
when its counters fit into bytes; with rectangles it never returns. -/
theorem sliceGroupMap_iff (pps : GstH264PPS) (sps : GstH264SPS) (h : GroupsConsistent pps sps)
    (htype : pps.sliceGroupMapType ∈ [0, 1, 2, 6]) :
    (∃ fuel map, getSliceGroupMap fuel pps sps = some map ∧ IsSliceGroupMap pps sps map) ↔ FitsBytes pps := by
  have hret : (List.replicate (pps.picSizeInMapUnitsMinus1 + 1) 0).length = pps.picSizeInMapUnitsMinus1 + 1 :=
    List.length_replicate
  have hother : ∀ {m n : Nat} {p : Prop}, pps.sliceGroupMapType = m → m ≠ n → pps.sliceGroupMapType = n → p :=
    fun hm hne hn => absurd (hm.symm.trans hn) hne
  simp only [List.mem_cons, List.not_mem_nil, or_false] at htype
  rcases htype with ht | ht | ht | ht
  · have hmap : ∀ map, IsSliceGroupMap pps sps map ↔ map.length = pps.picSizeInMapUnitsMinus1 + 1 ∧
        ∀ l i, runsLength pps 0 l ≤ i → i < runsLength pps 0 (l + 1) → i ≤ pps.picSizeInMapUnitsMinus1 →
          map[i]? = some (l % (pps.numSliceGroupsMinus1 + 1)) := fun map =>
      ⟨fun hm => ⟨hm.length, hm.interleaved ht⟩, fun hm => ⟨hm.1, fun _ => hm.2, hother ht (by decide),
        hother ht (by decide), hother ht (by decide)⟩⟩
    have hgroups := h.groups
    have harray := h.arrays.1
    simp only [getSliceGroupMap_eq h, FitsBytes, hmap, ht]
    exact interleavedMap_iff (by omega) hgroups.1 (by omega) (h.runs ht) hret
  · have hmap : ∀ map, IsSliceGroupMap pps sps map ↔ map.length = pps.picSizeInMapUnitsMinus1 + 1 ∧
        ∀ i ≤ pps.picSizeInMapUnitsMinus1, map[i]? = some (dispersedGroup pps sps.picWidthInMbs i) := fun map =>
      ⟨fun hm => ⟨hm.length, hm.dispersed ht⟩, fun hm => ⟨hm.1, hother ht (by decide), fun _ => hm.2,
        hother ht (by decide), hother ht (by decide)⟩⟩
    simp only [getSliceGroupMap_eq h, FitsBytes, hmap, ht]
    exact fillUnits_iff hret fun i _ => ⟨_, rfl⟩
  · simp only [getSliceGroupMap_eq h, FitsBytes, ht, foregroundMap_eq_none]
    exact iff_of_false (fun ⟨_, _, h, _⟩ => nomatch h) id
  · have hmap : ∀ map, IsSliceGroupMap pps sps map ↔ map.length = pps.picSizeInMapUnitsMinus1 + 1 ∧
        ∀ i ≤ pps.picSizeInMapUnitsMinus1, map[i]? = pps.sliceGroupId[i]? := fun map =>
      ⟨fun hm => ⟨hm.length, hm.explicit ht⟩, fun hm => ⟨hm.1, hother ht (by decide), hother ht (by decide),
        hother ht (by decide), fun _ => hm.2⟩⟩
    simp only [getSliceGroupMap_eq h, FitsBytes, hmap, ht]
    refine fillUnits_iff hret fun i hi => ⟨_, List.getElem?_eq_getElem ?_⟩
    rw [(h.ids ht).1]
    exact hi

section Examples

/-- Four macroblocks in two rows, the first row a rectangle of its own. -/
def rectanglePps : GstH264PPS where
  numSliceGroupsMinus1 := 1
  sliceGroupMapType := 2
  bottomRight := [1, 0, 0, 0, 0, 0, 0, 0]
  picSizeInMapUnitsMinus1 := 3

def twoByTwo : GstH264SPS := { picWidthInMbsMinus1 := 1 }

def rowsPps : GstH264PPS where
  numSliceGroupsMinus1 := 1
  runLengthMinus1 := [1, 0, 0, 0, 0, 0, 0, 0]
  picSizeInMapUnitsMinus1 := 3

theorem sliceGroupMap_rectangle : GroupsConsistent rectanglePps twoByTwo ∧
    ¬∃ fuel map, getSliceGroupMap fuel rectanglePps twoByTwo = some map ∧ IsSliceGroupMap rectanglePps twoByTwo map := by
  have h : GroupsConsistent rectanglePps twoByTwo :=
    ⟨by decide, by decide, by decide, by decide, by decide, by decide, by decide⟩
  refine ⟨h, ?_⟩
  rintro ⟨fuel, map, hmap, -⟩
  have hnone : foregroundMap rectanglePps twoByTwo.picWidthInMbs fuel (List.replicate 4 0) = some map :=
    (getSliceGroupMap_eq h fuel).symm.trans hmap
  rw [foregroundMap_eq_none] at hnone
  cases hnone

theorem sliceGroupMap_iff_rows :
    (∃ fuel map, getSliceGroupMap fuel rowsPps twoByTwo = some map ∧ IsSliceGroupMap rowsPps twoByTwo map) ↔
      FitsBytes rowsPps :=
  sliceGroupMap_iff rowsPps twoByTwo ⟨by decide, by decide, by decide, by decide, by decide, by decide, by decide⟩
    (by decide)

end Examples

end VkVideoParser.H264
