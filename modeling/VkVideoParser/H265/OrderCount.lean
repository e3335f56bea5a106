import VkVideoParser.Library.LowBits
import VkVideoParser.H265.Shown
import VkVideoParser.H265.Script

/-! The order counts of a run are recovered from their low bits. -/

namespace VkVideoParser.H265

open Execution Relation Histories LowBits

variable {P : Type} {env : Env P} {s t : Decoder P} {log : List Event} {info : OrderInfo}

-- the pictures of a sub-layer that no picture of the same sub-layer refers to
def GstH265NalUnitType.isSubLayerNonRef : GstH265NalUnitType → Bool
  | .trailN | .tsaN | .stsaN | .radlN | .raslN => true
  | _ => false

namespace OrderInfo

def isIdr (info : OrderInfo) : Bool := info.slice.nalu.type.isIdr

def lsb (info : OrderInfo) : Int := info.slice.header.picOrderCntLsb

def maxLsb (info : OrderInfo) : Int := maxPicOrderCntLsb info.sps

/-- An IRAP picture with NoRaslOutputFlag. -/
def randomAccess (info : OrderInfo) : Bool := info.slice.nalu.type.isIrap && info.picture.noRaslOutputFlag

/-- A picture with TemporalId 0 that is not RASL, RADL or a sub-layer non-reference picture. -/
def isTid0 (info : OrderInfo) : Bool :=
  info.slice.nalu.temporalIdPlus1 = 1 && !info.slice.nalu.type.isRasl && !info.slice.nalu.type.isRadl &&
    !info.slice.nalu.type.isSubLayerNonRef

/-- The pictures whose order count the next ones go by. -/
def anchors (info : OrderInfo) : Bool := info.isIdr || info.isTid0

lemma keepsPoc_eq (info : OrderInfo) : keepsPoc info.slice.nalu = info.isTid0 := by
  have htype : info.slice.nalu.type.isRef = !info.slice.nalu.type.isSubLayerNonRef := by
    cases info.slice.nalu.type <;> rfl
  rw [keepsPoc, htype, isTid0]

end OrderInfo

/-- The anchors since the last one at random access, newest first. -/
def anchorsOf : List Event → List OrderInfo
  | [] => []
  | .orderCount info :: l =>
    if info.anchors then info :: (if info.isIdr || info.randomAccess then [] else anchorsOf l) else anchorsOf l
  | _ :: l => anchorsOf l

/-- The order count of the last anchor, 0 before the first one. -/
def anchorCount (log : List Event) : Int := ((anchorsOf log).head?.map fun info => info.picture.picOrderCnt).getD 0

def anchorLsb (log : List Event) : Int :=
  ((anchorsOf log).head?.map fun info => if info.isTid0 then info.lsb else 0).getD 0

def anchorMsb (log : List Event) : Int :=
  ((anchorsOf log).head?.map fun info => if info.isIdr then 0 else info.picture.picOrderCnt - info.lsb).getD 0

lemma anchorsOf_cons {e : Event} (he : e.isShown = false) : anchorsOf (e :: log) = anchorsOf log := by
  cases e <;> first | rfl | cases he

/-- An order count is what the low bits and the last anchor give. -/
def CountsFrom (log : List Event) : Event → Prop
  | .orderCount info => info.picture.picOrderCnt =
      if info.isIdr then 0
      else (if info.randomAccess then 0 else highPart info.maxLsb (anchorMsb log) (anchorLsb log) info.lsb) + info.lsb
  | _ => True

/-- What the decoder keeps of the order counts is that of the last anchor. -/
structure Anchored (s : Decoder P) : Prop where
  lsb : s.prevTid0PicPocLsb = anchorLsb s.store.log
  msb : s.prevTid0PicPocMsb = anchorMsb s.store.log
  counts : Always CountsFrom s.store.log

lemma Counted.countsFrom {msb : Int} (h : Counted s info msb) (hs : Anchored s) :
    CountsFrom s.store.log (.orderCount info) ∧
      (info.isIdr = false → info.picture.picOrderCnt - info.lsb = msb) := by
  have hmsb := h.msb_eq
  rw [hs.lsb, hs.msb] at hmsb
  have hpoc := h.picOrderCnt
  refine ⟨?_, fun hidr => ?_⟩
  · rw [hmsb] at hpoc
    exact hpoc
  · rw [hpoc, if_neg (by simpa [OrderInfo.isIdr] using hidr)]
    exact Int.add_sub_cancel msb _

lemma anchored_noteOrder {msb : Int} (h : Counted s info msb) (hs : Anchored s) :
    Anchored ((s.emit (.orderCount info)).noteOrder info msb) := by
  obtain ⟨hcounts, hmsb⟩ := h.countsFrom hs
  have hlsb' : ((s.emit (.orderCount info)).noteOrder info msb).prevTid0PicPocLsb =
      if info.isTid0 then info.lsb else if info.isIdr then 0 else anchorLsb s.store.log := by
    rw [← info.keepsPoc_eq, ← hs.lsb]
    rfl
  have hmsb' : ((s.emit (.orderCount info)).noteOrder info msb).prevTid0PicPocMsb =
      if info.isIdr then 0 else if info.isTid0 then msb else anchorMsb s.store.log := by
    rw [← info.keepsPoc_eq, ← hs.msb]
    rfl
  refine ⟨hlsb'.trans ?_, hmsb'.trans ?_, hcounts, hs.counts⟩
  · change _ = anchorLsb (.orderCount info :: s.store.log)
    cases hi : info.isIdr <;> cases ht : info.isTid0 <;>
      simp [anchorLsb, anchorsOf, OrderInfo.anchors, hi, ht]
  · change _ = anchorMsb (.orderCount info :: s.store.log)
    cases hi : info.isIdr <;> cases ht : info.isTid0 <;>
      simp [anchorMsb, anchorsOf, OrderInfo.anchors, hi, ht]
    exact (hmsb hi).symm

lemma Shows.anchored (h : Shows env s t) (hs : Anchored s) : Anchored t := by
  cases h with
  | quiet h =>
    refine ⟨h.prevTid0PicPocLsb.trans (hs.lsb.trans ?_), h.prevTid0PicPocMsb.trans (hs.msb.trans ?_), ?_⟩
    · exact (h.read fun e l he => by rw [anchorLsb, anchorsOf_cons he, anchorLsb]).symm
    · exact (h.read fun e l he => by rw [anchorMsb, anchorsOf_cons he, anchorMsb]).symm
    · refine h.always (fun e _ _ => ?_) hs.counts
      cases e <;> trivial
  | count h => exact anchored_noteOrder h hs
  | process h => exact ⟨hs.lsb, hs.msb, trivial, hs.counts⟩
  | look h => exact ⟨hs.lsb, hs.msb, trivial, hs.counts⟩

/-- The low bits of the anchors are those of order counts with one modulus `m`, those of an IDR picture are 0. -/
def LowBitsOf (m : Int) (log : List Event) : Prop :=
  ∀ a ∈ anchorsOf log, a.maxLsb = m ∧ 0 ≤ a.lsb ∧ a.lsb < m ∧ (a.isIdr → a.lsb = 0)

instance (m : Int) (log : List Event) : Decidable (LowBitsOf m log) :=
  inferInstanceAs (Decidable (∀ a ∈ anchorsOf log, a.maxLsb = m ∧ 0 ≤ a.lsb ∧ a.lsb < m ∧ (a.isIdr → a.lsb = 0)))

lemma anchorsOf_of_anchors (h : info.anchors) :
    anchorsOf (.orderCount info :: log) = info :: (if info.isIdr || info.randomAccess then [] else anchorsOf log) := by
  rw [anchorsOf, if_pos h]

lemma anchorsOf_of_not (h : info.anchors = false) : anchorsOf (.orderCount info :: log) = anchorsOf log := by
  rw [anchorsOf, if_neg (by simp [h])]

-- an anchor was counted after some part of the log
lemma counted_of_mem_anchorsOf {a : OrderInfo} (ha : a ∈ anchorsOf log) :
    a.anchors ∧ ∃ l, .orderCount a :: l <:+ log := by
  induction log with
  | nil => cases ha
  | cons e l ih =>
    have hrest : a ∈ anchorsOf l → a.anchors ∧ ∃ l', .orderCount a :: l' <:+ e :: l := fun ha => by
      obtain ⟨hanchor, l', hl'⟩ := ih ha
      exact ⟨hanchor, l', hl'.trans (List.suffix_cons e l)⟩
    cases e with
    | orderCount info =>
      by_cases hanchor : info.anchors
      · rw [anchorsOf_of_anchors hanchor] at ha
        rcases List.mem_cons.mp ha with rfl | ha
        · exact ⟨hanchor, l, List.suffix_rfl⟩
        · split at ha
          · cases ha
          · exact hrest ha
      · rw [anchorsOf_of_not (by simpa using hanchor)] at ha
        exact hrest ha
    | _ => exact hrest ha

lemma picOrderCnt_of_isIdr (hlog : Always CountsFrom log) {a : OrderInfo} (ha : a ∈ anchorsOf log) (hi : a.isIdr) :
    a.picture.picOrderCnt = 0 := by
  obtain ⟨-, l, hl⟩ := counted_of_mem_anchorsOf ha
  exact (hlog.suffix hl).1.trans (if_pos hi)

/-- The order count of the last anchor is made of what the decoder keeps of it. -/
lemma anchorMsb_add_anchorLsb {m : Int} (hlog : Always CountsFrom log) (hbits : LowBitsOf m log) :
    anchorMsb log + anchorLsb log = anchorCount log := by
  unfold anchorMsb anchorLsb anchorCount
  unfold LowBitsOf at hbits
  cases hl : anchorsOf log with
  | nil => rfl
  | cons a l =>
    have ha : a ∈ anchorsOf log := hl ▸ List.mem_cons_self
    obtain ⟨-, -, -, hzero⟩ := hbits a ha
    obtain ⟨hanchor, -⟩ := counted_of_mem_anchorsOf ha
    simp only [List.head?_cons, Option.map_some, Option.getD_some]
    cases hi : a.isIdr with
    | true =>
      rw [picOrderCnt_of_isIdr hlog ha hi, hzero hi]
      simp
    | false =>
      have htid : a.isTid0 := by simpa [OrderInfo.anchors, hi] using hanchor
      rw [if_pos htid, if_neg (by simp)]
      exact Int.sub_add_cancel _ _

lemma dvd_anchorMsb {m : Int} (hlog : Always CountsFrom log) (hbits : LowBitsOf m log) : m ∣ anchorMsb log := by
  induction log with
  | nil => exact Int.dvd_zero m
  | cons e l ih =>
    cases e with
    | orderCount info =>
      by_cases hanchor : info.anchors
      · have hl : anchorsOf (.orderCount info :: l) = _ := anchorsOf_of_anchors hanchor
        have hcount : CountsFrom l (.orderCount info) := hlog.1
        simp only [anchorMsb, hl, List.head?_cons, Option.map_some, Option.getD_some]
        split
        · exact Int.dvd_zero m
        · rename_i hidr
          rw [CountsFrom, if_neg hidr] at hcount
          rw [hcount, Int.add_sub_cancel]
          split
          · exact Int.dvd_zero m
          · rename_i hra
            rw [(hbits info (hl ▸ List.mem_cons_self)).1]
            refine dvd_highPart (ih hlog.2 fun a ha => hbits a ?_)
            rw [hl, if_neg (by simp [hidr, hra])]
            exact List.mem_cons_of_mem _ ha
      · have hl : anchorsOf (.orderCount info :: l) = anchorsOf l := anchorsOf_of_not (by simpa using hanchor)
        simp only [LowBitsOf, anchorMsb, hl] at hbits ⊢
        exact ih hlog.2 hbits
    | _ => exact ih hlog.2 hbits

lemma anchorLsb_range {m : Int} (hm : 0 < m) (hbits : LowBitsOf m log) : 0 ≤ anchorLsb log ∧ anchorLsb log < m := by
  unfold anchorLsb
  cases hl : anchorsOf log with
  | nil => exact ⟨le_rfl, hm⟩
  | cons a l =>
    obtain ⟨-, hrange⟩ := hbits a (hl ▸ List.mem_cons_self)
    simp only [List.head?_cons, Option.map_some, Option.getD_some]
    split
    · exact ⟨hrange.1, hrange.2.1⟩
    · exact ⟨le_rfl, hm⟩

lemma OrderInfo.maxLsb_even (info : OrderInfo) : 2 ∣ info.maxLsb ∧ 0 < info.maxLsb := by
  unfold maxLsb maxPicOrderCntLsb
  exact ⟨Dvd.intro_left _ (pow_succ 2 _).symm, pow_pos (by decide) _⟩

/-- In every run an IDR picture has the order count 0, an IRAP picture with NoRaslOutputFlag that of its low bits, and
every other picture the one near that of the last anchor, when the anchors have the same number of low bits. -/
theorem picOrderCnt_recovered (env : Env P) (inputs : List Input) :
    Always (fun log e => ∀ info, e = .orderCount info →
      (info.isIdr → info.picture.picOrderCnt = 0) ∧
      (info.isIdr = false → info.randomAccess → info.picture.picOrderCnt = info.lsb) ∧
      (info.isIdr = false → info.randomAccess = false → LowBitsOf info.maxLsb log → ∀ q,
        -(info.maxLsb / 2) < q - anchorCount log → q - anchorCount log ≤ info.maxLsb / 2 →
          info.lsb = q % info.maxLsb → info.picture.picOrderCnt = q))
      (final (runInputs env inputs (Decoder.start env))).store.log := by
  obtain ⟨k, hk⟩ := reach_final env inputs
  have hanchored : Anchored (k, final (runInputs env inputs (Decoder.start env))).2 :=
    kept (I := fun x : Phase × Decoder P => Anchored x.2) (fun _ _ h => h.shows.anchored) hk ⟨rfl, rfl, trivial⟩
  refine always_iff.mpr fun e log hl info he => ?_
  subst he
  obtain ⟨hcount, hlog⟩ := hanchored.counts.suffix hl
  rw [CountsFrom] at hcount
  refine ⟨fun hidr => hcount.trans (if_pos hidr), fun hidr hra => ?_, fun hidr hra hbits q hlt hle hlsb => ?_⟩
  · rw [hcount, if_neg (by simp [hidr]), if_pos hra, Int.zero_add]
  · obtain ⟨heven, hpos⟩ := info.maxLsb_even
    have hsum := anchorMsb_add_anchorLsb hlog hbits
    have hrange := anchorLsb_range hpos hbits
    rw [hcount, if_neg (by simp [hidr]), if_neg (by simp [hra])]
    exact highPart_add heven hpos (dvd_anchorMsb hlog hbits) (by omega) hlsb (by omega)

section Examples

def Event.countedOrder : Event → Option OrderInfo
  | .orderCount info => some info
  | _ => none

lemma eq_orderCount {e : Event} (h : e.countedOrder = some info) : e = .orderCount info := by
  cases e <;> cases h
  rfl

-- the order counts 0, 8 and 16 with four low bits
def risingScript : Script where
  vps := [{}]
  sps := [{ vps := some 0 }]
  pps := [{}]
  slices := [0, 8].map fun lsb => { firstSliceSegmentInPicFlag := true, picOrderCntLsb := lsb }

def risingInputs : List Input := Script.frames
  [[Script.vpsUnit 0, Script.spsUnit 0, Script.ppsUnit 0, Script.idrUnit 0], [Script.trailUnit 1], [Script.trailUnit 0]]

def risingEnd : Decoder Tables := final (runInputs risingScript.env risingInputs (Decoder.start risingScript.env))

theorem picOrderCnt_recovered_rising : ∃ a ∈ newest Event.countedOrder risingEnd.store.log,
    anchorCount a.2 = 8 ∧ LowBitsOf a.1.maxLsb a.2 ∧ a.1.lsb = 16 % a.1.maxLsb ∧ a.1.picture.picOrderCnt = 16 := by
  have hrecovered : ∀ (env : Env Tables) s, s = final (runInputs env risingInputs (Decoder.start env)) →
      ∀ a ∈ newest Event.countedOrder s.store.log, a.1.isIdr = false → a.1.randomAccess = false →
        LowBitsOf a.1.maxLsb a.2 → -(a.1.maxLsb / 2) < 16 - anchorCount a.2 → 16 - anchorCount a.2 ≤ a.1.maxLsb / 2 →
          a.1.lsb = 16 % a.1.maxLsb → a.1.picture.picOrderCnt = 16 := by
    rintro env s rfl a ha hidr hra hbits hlt hle hlsb
    obtain ⟨e, he, h⟩ := (picOrderCnt_recovered env risingInputs).newest ha
    exact (h a.1 (eq_orderCount he)).2.2 hidr hra hbits 16 hlt hle hlsb
  have hrun : ∃ a ∈ newest Event.countedOrder risingEnd.store.log, a.1.isIdr = false ∧ a.1.randomAccess = false ∧
      LowBitsOf a.1.maxLsb a.2 ∧ anchorCount a.2 = 8 ∧ a.1.maxLsb = 16 ∧ a.1.lsb = 0 := by decide +kernel
  obtain ⟨a, ha, hidr, hra, hbits, hcount, hmax, hlsb⟩ := hrun
  have hmod : a.1.lsb = 16 % a.1.maxLsb := by
    rw [hlsb, hmax]
    rfl
  exact ⟨a, ha, hcount, hbits, hmod, hrecovered risingScript.env risingEnd rfl a ha hidr hra hbits
    (by rw [hcount, hmax]; decide) (by rw [hcount, hmax]; decide) hmod⟩

/-- The order count of the last picture with TemporalId 0 that others may refer to, IDR or not. -/
def tid0Count : List Event → Int
  | [] => 0
  | .orderCount info :: l => if info.isTid0 then info.picture.picOrderCnt else tid0Count l
  | _ :: l => tid0Count l

/-- The order count `q` has the low bits of the picture and lies near that of the picture before it. -/
def OrderInfo.admits (info : OrderInfo) (log : List Event) (q : Int) : Prop :=
  info.isIdr = false ∧ info.randomAccess = false ∧ -(info.maxLsb / 2) < q - tid0Count log ∧
    q - tid0Count log ≤ info.maxLsb / 2 ∧ info.lsb = q % info.maxLsb

instance (log : List Event) (q : Int) : Decidable (info.admits log q) := inferInstanceAs (Decidable (_ ∧ _))

def RoundTrips (log : List Event) (e : Event) : Prop :=
  ∀ info, e = .orderCount info → ∀ q, info.admits log q → info.picture.picOrderCnt = q

def breaksAt (q : Int) : List Event → Bool
  | [] => false
  | .orderCount info :: l => decide (info.admits l q ∧ info.picture.picOrderCnt ≠ q) || breaksAt q l
  | _ :: l => breaksAt q l

lemma not_roundTrips {q : Int} (h : breaksAt q log) : ¬Always RoundTrips log := by
  intro hlog
  induction log with
  | nil => cases h
  | cons e l ih =>
    cases e with
    | orderCount info =>
      rw [breaksAt, Bool.or_eq_true] at h
      rcases h with h | h
      · obtain ⟨hadmits, hne⟩ := of_decide_eq_true h
        exact hne (hlog.1 info rfl q hadmits)
      · exact ih h hlog.2
    | _ => exact ih h hlog.2

-- the order counts 0 and 8, then an IDR picture of a higher sub-layer, then 12
def layerScript : Script where
  vps := [{}]
  sps := [{ vps := some 0 }]
  pps := [{}]
  slices := [0, 8, 12].map fun lsb => { firstSliceSegmentInPicFlag := true, picOrderCntLsb := lsb }

def layerEnd : Decoder Tables :=
  final (runInputs layerScript.env (Script.frames
    [[Script.vpsUnit 0, Script.spsUnit 0, Script.ppsUnit 0, Script.idrUnit 0], [Script.trailUnit 1],
      [{ Script.idrUnit 0 with temporalIdPlus1 := 2 }], [Script.trailUnit 2]]) (Decoder.start layerScript.env))

-- the order counts 0, 8 and 16 with four low bits, then 18 with five
def widerScript : Script where
  vps := [{}]
  sps := [{ vps := some 0 }, { id := 1, vps := some 0, log2MaxPicOrderCntLsbMinus4 := 1 }]
  pps := [{}, { id := 1, sps := 1 }]
  slices := [{ firstSliceSegmentInPicFlag := true }, { firstSliceSegmentInPicFlag := true, picOrderCntLsb := 8 },
    { firstSliceSegmentInPicFlag := true, picOrderCntLsb := 18, pps := 1 }]

def widerEnd : Decoder Tables :=
  final (runInputs widerScript.env (Script.frames
    [[Script.vpsUnit 0, Script.spsUnit 0, Script.spsUnit 1, Script.ppsUnit 0, Script.ppsUnit 1, Script.idrUnit 0],
      [Script.trailUnit 1], [Script.trailUnit 0], [Script.trailUnit 2]]) (Decoder.start widerScript.env))

theorem picOrderCnt_lost : ¬Always RoundTrips layerEnd.store.log ∧ ¬Always RoundTrips widerEnd.store.log :=
  ⟨not_roundTrips (q := 12) (by decide +kernel), not_roundTrips (q := 18) (by decide +kernel)⟩

end Examples

end VkVideoParser.H265
