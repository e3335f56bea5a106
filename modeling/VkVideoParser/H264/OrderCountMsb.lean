import VkVideoParser.Library.LowBits
import VkVideoParser.H264.Remembered
import VkVideoParser.H264.Script

/-! The order counts of type 0 of a run are recovered from their low bits. -/

namespace VkVideoParser.H264

open Execution Relation Histories LowBits

variable {P : Type} {env : Env P} {s : Decoder P} {log : List Event} {info : OrderInfo} {m : Int}

-- what 8.2.1.1 takes from the last reference
def Picture.prevMsb (r : Picture) : Int := if r.memMgmt5 then 0 else r.picOrderCntMsb

def Picture.prevLsb (r : Picture) : Int :=
  if r.memMgmt5 then if r.field ≠ .bottomField then r.topFieldOrderCnt else 0 else r.picOrderCntLsb

namespace OrderInfo

def lsb (info : OrderInfo) : Int := info.picture.picOrderCntLsb

def maxLsb (info : OrderInfo) : Int := 2 ^ (info.sps.log2MaxPicOrderCntLsbMinus4 + 4)

def isType0 (info : OrderInfo) : Bool := info.picture.picOrderCntType = 0

-- the order count that the intended one lies near
def prevCount (info : OrderInfo) (log : List Event) : Int :=
  if info.picture.idr then 0 else (lastReference log).prevMsb + (lastReference log).prevLsb

lemma maxLsb_even (info : OrderInfo) : 2 ∣ info.maxLsb ∧ 0 < info.maxLsb := by
  unfold maxLsb
  exact ⟨Dvd.intro_left _ (pow_succ 2 _).symm, pow_pos (by decide) _⟩

end OrderInfo

/-- A picture is counted from the last reference, an IDR picture from none, and so are the pictures after an MMCO 5. -/
def refLinks : Event → Carry (List OrderInfo)
  | .orderCount info => .take fun l => info :: if info.picture.idr then [] else l
  | .reference x => .keep fun l => if x.memMgmt5 then [] else l
  | _ => .pass

def countedChain (log : List Event) : List OrderInfo := (carried refLinks [] log).1

/-- The references counted one from another, up to the last one. -/
def refChain (log : List Event) : List OrderInfo := (carried refLinks [] log).2

/-- These are of type 0, and their low bits are those of order counts with one modulus `m`. -/
def LowBitsOf (m : Int) (log : List Event) : Prop :=
  ∀ a ∈ refChain log, a.isType0 ∧ a.maxLsb = m ∧ 0 ≤ a.lsb ∧ a.lsb < m

lemma prevPicOrderCnt_eq {r : Picture} (x : Picture) (hr : s.prevRef = r.asRef) :
    prevPicOrderCnt s x = (if x.idr then 0 else r.prevMsb, if x.idr then 0 else r.prevLsb) := by
  simp only [Decoder.prevRef, Picture.asRef, Prod.mk.injEq] at hr
  obtain ⟨hm, ht, hmsb, hlsb, hf⟩ := hr
  unfold prevPicOrderCnt Picture.prevMsb Picture.prevLsb
  rw [hm, ht, hmsb, hlsb, hf]
  cases x.idr with
  | true => rfl
  | false =>
    cases r.memMgmt5 with
    | true => simp only [Bool.false_eq_true, if_false, if_true]; split <;> rfl
    | false => rfl

lemma poc0_msb (s : Decoder P) (sps : GstH264SPS) (x : Picture) :
    (setPicOrderCnt (calculatePoc0 s sps x)).picOrderCntMsb =
      highPart (2 ^ (sps.log2MaxPicOrderCntLsbMinus4 + 4)) (prevPicOrderCnt s x).1 (prevPicOrderCnt s x).2
        x.picOrderCntLsb := by
  cases hf : x.field <;> simp only [calculatePoc0, setPicOrderCnt, hf] <;> rfl

lemma CountedAfter.msb (h : CountedAfter P log info) (h0 : info.isType0) : info.picture.picOrderCntMsb =
    highPart info.maxLsb (if info.picture.idr then 0 else (lastReference log).prevMsb)
      (if info.picture.idr then 0 else (lastReference log).prevLsb) info.lsb := by
  obtain ⟨s, hr, -, -, hc⟩ := h.counted
  have h0 : info.picture.picOrderCntType = 0 := by simpa [OrderInfo.isType0] using h0
  rw [Counted, h0] at hc
  have hmsb := poc0_msb s info.sps info.picture
  rw [hc, prevPicOrderCnt_eq _ hr] at hmsb
  exact hmsb

lemma countedChain_orderCount : countedChain (.orderCount info :: log) =
    info :: if info.picture.idr then [] else refChain log := rfl

lemma refChain_reference {x : Picture} (h : x.memMgmt5 = false) : refChain (.reference x :: log) = countedChain log := by
  simp [refChain, carried, refLinks, h, countedChain]

lemma noPicture_prevMsb : noPicture.prevMsb = 0 := rfl

lemma mem_countedChain (h : lastCount log = some info) : info ∈ countedChain log := by
  induction log with
  | nil => cases h
  | cons e l ih =>
    cases e with
    | orderCount info' =>
      cases h
      exact List.mem_cons_self
    | _ => exact ih h

lemma dvd_chains (hlog : Always (InOrder P) log) :
    (∀ info, lastCount log = some info → (∀ a ∈ countedChain log, a.isType0 ∧ a.maxLsb = m) →
      m ∣ info.picture.picOrderCntMsb) ∧
    ((∀ a ∈ refChain log, a.isType0 ∧ a.maxLsb = m) → m ∣ (lastReference log).prevMsb) := by
  induction log with
  | nil =>
    refine ⟨fun _ h => (by cases h), fun _ => ?_⟩
    rw [lastReference, noPicture_prevMsb]
    exact Int.dvd_zero m
  | cons e l ih =>
    obtain ⟨hcount, href⟩ := ih hlog.2
    cases e with
    | orderCount info =>
      refine ⟨fun info' he hm => ?_, href⟩
      cases he
      have hcounted : CountedAfter P l info := hlog.1
      obtain ⟨h0, hmax⟩ := hm info List.mem_cons_self
      rw [hcounted.msb h0, hmax]
      cases hi : info.picture.idr with
      | true => exact dvd_highPart (Int.dvd_zero m)
      | false =>
        refine dvd_highPart (href fun a ha => hm a ?_)
        rw [countedChain_orderCount, hi]
        exact List.mem_cons_of_mem _ ha
    | reference x =>
      refine ⟨hcount, fun hm => ?_⟩
      obtain ⟨info, hl, hf, -⟩ := hlog.1
      change m ∣ x.prevMsb
      unfold Picture.prevMsb
      cases h5 : x.memMgmt5 with
      | true => exact Int.dvd_zero m
      | false =>
        rw [if_neg Bool.false_ne_true, hf.picOrderCntMsb]
        exact hcount info hl fun a ha => hm a (refChain_reference h5 ▸ ha)
    | _ => exact ⟨hcount, href⟩

lemma lastReference_counted (hlog : Always (InOrder P) log) :
    lastReference log = noPicture ∨ (Settled (lastReference log) ∧
      ((lastReference log).memMgmt5 ∨ ∃ a ∈ refChain log, (lastReference log).picOrderCntLsb = a.lsb)) := by
  induction log with
  | nil => exact .inl rfl
  | cons e l ih =>
    cases e with
    | reference x =>
      obtain ⟨info, hl, hf, -, -, hs⟩ := hlog.1
      refine .inr ⟨hf.settled hs, ?_⟩
      cases h5 : x.memMgmt5 with
      | true => exact .inl h5
      | false => exact .inr ⟨info, refChain_reference h5 ▸ mem_countedChain hl, hf.picOrderCntLsb⟩
    | _ => exact ih hlog.2

lemma Settled.prevLsb_nonneg {x : Picture} (h : Settled x) (h5 : x.memMgmt5) : 0 ≤ x.prevLsb := by
  rw [Picture.prevLsb, if_pos h5]
  split
  · exact h.top h5 ‹_›
  · exact le_rfl

-- only after an MMCO 5 the low bits are out of range, and then not below it
lemma prevLsb_range (hm : 0 < m) (hlog : Always (InOrder P) log) (hbits : LowBitsOf m log)
    (h5 : (lastReference log).memMgmt5 → 2 * (lastReference log).prevLsb < 3 * m) :
    0 ≤ (lastReference log).prevLsb ∧ 2 * (lastReference log).prevLsb < 3 * m := by
  rcases lastReference_counted hlog with h | ⟨hs, h | ⟨a, ha, hlsb⟩⟩
  · rw [h]
    simp only [Picture.prevLsb, noPicture]
    exact ⟨le_rfl, by omega⟩
  · exact ⟨hs.prevLsb_nonneg h, h5 h⟩
  · by_cases hx : (lastReference log).memMgmt5
    · exact ⟨hs.prevLsb_nonneg hx, h5 hx⟩
    · obtain ⟨-, -, hge, hlt⟩ := hbits a ha
      rw [Picture.prevLsb, if_neg hx, hlsb]
      exact ⟨hge, by omega⟩

/-- The order count `q` has the low bits of the picture, and lies at most half their range away from the last one. -/
def OrderInfo.admits (info : OrderInfo) (log : List Event) (q : Int) : Prop :=
  -(info.maxLsb / 2) < q - info.prevCount log ∧ q - info.prevCount log ≤ info.maxLsb / 2 ∧ info.lsb = q % info.maxLsb

instance (log : List Event) (q : Int) : Decidable (info.admits log q) := inferInstanceAs (Decidable (_ ∧ _))

instance (m : Int) (log : List Event) : Decidable (LowBitsOf m log) :=
  inferInstanceAs (Decidable (∀ a ∈ refChain log, a.isType0 ∧ a.maxLsb = m ∧ 0 ≤ a.lsb ∧ a.lsb < m))

theorem picOrderCntMsb_recovered (env : Env P) (inputs : List Input) :
    Always (fun log e => ∀ info, e = .orderCount info → info.isType0 →
      (info.picture.idr = false → LowBitsOf info.maxLsb log ∧
        ((lastReference log).memMgmt5 → 2 * (lastReference log).prevLsb < 3 * info.maxLsb)) →
      ∀ q, info.admits log q → info.picture.picOrderCntMsb + info.picture.picOrderCntLsb = q)
      (final (runInputs env inputs (Decoder.start env))).store.log := by
  refine always_iff.mpr fun e log hl info he h0 hcond q hq => ?_
  subst he
  obtain ⟨hcounted, hlog⟩ := (inOrder_final env inputs).suffix hl
  obtain ⟨hlt, hle, hlsb⟩ := hq
  obtain ⟨heven, hpos⟩ := info.maxLsb_even
  have hcounted : CountedAfter P log info := hcounted
  rw [hcounted.msb h0]
  unfold OrderInfo.prevCount at hlt hle
  cases hi : info.picture.idr with
  | true =>
    rw [hi, if_pos rfl] at hlt hle
    exact highPart_add heven hpos (Int.dvd_zero _) (by simp only [if_true]; omega) hlsb (by simp only [if_true]; omega)
  | false =>
    obtain ⟨hbits, h5⟩ := hcond hi
    have hrange := prevLsb_range hpos hlog hbits h5
    have hdvd := (dvd_chains hlog).2 fun a ha => ⟨(hbits a ha).1, (hbits a ha).2.1⟩
    rw [hi, if_neg Bool.false_ne_true] at hlt hle
    simp only [Bool.false_eq_true, if_false]
    exact highPart_add heven hpos hdvd (by omega) hlsb (by omega)

section Examples

def RoundTripsAt (q : Int) (log : List Event) : Event → Prop
  | .orderCount info => info.isType0 → info.admits log q → info.picture.picOrderCntMsb + info.picture.picOrderCntLsb = q
  | _ => True

instance (q : Int) (log : List Event) : DecidablePred (RoundTripsAt q log)
  | .orderCount _ => inferInstanceAs (Decidable (_ → _ → _))
  | .beginSequence .. | .updateSps .. | .updatePps .. | .parserParseSps .. | .parserParsePps .. |
    .parserUpdateSps .. | .allocPictureBuffer .. | .startPicture .. | .decodeSlice .. | .decodePicture .. |
    .displayPicture .. | .release .. | .unhandledNALU .. | .finishFrame .. | .releaseFrame .. | .dropFrame .. |
    .flush | .lastFieldNotNull | .removing .. | .placing .. | .storing .. | .bumping .. |
    .reference .. => .isTrue trivial

def RoundTrips (log : List Event) (e : Event) : Prop := ∀ q, RoundTripsAt q log e

lemma not_roundTrips {q : Int} (h : ¬Always (RoundTripsAt q) log) : ¬Always RoundTrips log :=
  fun ha => h (ha.mono fun _ _ hq => hq q)

-- an MMCO 5 moves the order counts 0 and -24 of the fields of a frame to 24 and 0
def resetScript : Script where
  sps := [Script.progressive]
  pps := [{}]
  slices := [{}, {
    frameNum := 1
    deltaPicOrderCntBottom := -24
    decRefPicMarking := { adaptiveRefPicMarkingModeFlag := true, refPicMarking := [{ memoryManagementControlOperation := 5 }] } }]

def resetEnd : Decoder Tables :=
  final (runInputs resetScript.env (Script.frames [[Script.spsUnit 0, Script.ppsUnit 0, Script.idrUnit 0],
    [Script.sliceUnit 1], [Script.sliceUnit 0]]) (Decoder.start resetScript.env))

def risingInputs : List Input := Script.frames
  [[Script.spsUnit 0, Script.ppsUnit 0, Script.idrUnit 0], [Script.sliceUnit 1], [Script.sliceUnit 2]]

-- the order counts 0, 8 and 16 with four low bits
def risingScript : Script where
  sps := [Script.progressive]
  pps := [{}]
  slices := [{}, { frameNum := 1, picOrderCntLsb := 8 }, { frameNum := 2 }]

def risingEnd : Decoder Tables := final (runInputs risingScript.env risingInputs (Decoder.start risingScript.env))

theorem picOrderCntMsb_recovered_rising : ∃ a ∈ newest Event.countedOrder risingEnd.store.log, a.1.picture.idr = false ∧
    LowBitsOf a.1.maxLsb a.2 ∧ a.1.admits a.2 16 ∧ a.1.picture.picOrderCntMsb + a.1.picture.picOrderCntLsb = 16 := by
  have hrecovered : ∀ (env : Env Tables) s, s = final (runInputs env risingInputs (Decoder.start env)) →
      ∀ a ∈ newest Event.countedOrder s.store.log, a.1.isType0 → LowBitsOf a.1.maxLsb a.2 →
        (lastReference a.2).memMgmt5 = false → a.1.admits a.2 16 →
          a.1.picture.picOrderCntMsb + a.1.picture.picOrderCntLsb = 16 := by
    rintro env s rfl a ha h0 hbits h5 hq
    obtain ⟨e, he, h⟩ := (picOrderCntMsb_recovered env risingInputs).newest ha
    exact h a.1 (eq_orderCount he) h0 (fun _ => ⟨hbits, fun h5' => absurd (h5.symm.trans h5') (by simp)⟩) 16 hq
  have hrun : ∃ a ∈ newest Event.countedOrder risingEnd.store.log, a.1.picture.idr = false ∧ a.1.isType0 ∧
      LowBitsOf a.1.maxLsb a.2 ∧ (lastReference a.2).memMgmt5 = false ∧ a.1.admits a.2 16 := by decide +kernel
  obtain ⟨a, ha, hidr, h0, hbits, h5, hq⟩ := hrun
  exact ⟨a, ha, hidr, hbits, hq, hrecovered risingScript.env risingEnd rfl a ha h0 hbits h5 hq⟩

-- the order counts 0, 8 and 16 with four low bits, then 18 with five
def widerScript : Script where
  sps := [Script.progressive, { Script.progressive with id := 1, log2MaxPicOrderCntLsbMinus4 := 1 }]
  pps := [{}, { id := 1, sequence := 1 }]
  slices := [{}, { frameNum := 1, picOrderCntLsb := 8 }, { frameNum := 2 }, { frameNum := 3, picOrderCntLsb := 18, pps := 1 }]

def widerEnd : Decoder Tables :=
  final (runInputs widerScript.env (Script.frames
    [[Script.spsUnit 0, Script.spsUnit 1, Script.ppsUnit 0, Script.ppsUnit 1, Script.idrUnit 0], [Script.sliceUnit 1],
      [Script.sliceUnit 2], [Script.sliceUnit 3]]) (Decoder.start widerScript.env))

theorem picOrderCntMsb_lost : ¬Always RoundTrips resetEnd.store.log ∧ ¬Always RoundTrips widerEnd.store.log :=
  ⟨not_roundTrips (q := 32) (by decide +kernel), not_roundTrips (q := 18) (by decide +kernel)⟩

end Examples

end VkVideoParser.H264
