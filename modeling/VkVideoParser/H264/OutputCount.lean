import VkVideoParser.H264.FirstFields

/-! The counter of the frames that wait for output counts what gst_h264_dpb_get_lowest_output_needed_picture takes. -/

namespace VkVideoParser.H264

open Execution Relation Counting

variable {P : Type} {env : Env P} {k : Phase} {s : Decoder P} {x y : Phase × Decoder P} {p q : PicId}

namespace Store

variable {a : Store} {drain : Bool}

-- the frames and field pairs that can be output next
def outputs (a : Store) : Nat := a.dpb.picList.countP fun q => waitsForOutput (a.pic q)

def Tallied (a : Store) : Prop := a.dpb.numOutputNeeded = a.outputs

/-- The stored second fields are no frames. -/
def SecondFields (a : Store) : Prop := ∀ p ∈ a.dpb.picList, (a.pic p).secondField → (a.pic p).field ≠ .frame

lemma waits_of_second {b : Picture} (hs : b.secondField) (hf : b.field ≠ .frame) : waitsForOutput b = false := by
  simp [waitsForOutput, Picture.isFrame, hs, hf]

lemma Tallied.dpbDeleteUnused (h : a.Tallied) (hn : a.dpb.picList.Nodup) : a.dpbDeleteUnused.Tallied := by
  have hd : a.dpbDeleteUnused.dpb = (a.setPicList (a.dpb.picList.filter fun p => !a.unused p)).dpb :=
    (sameShape_unrefAll _ _).dpb
  have hlist : a.dpbDeleteUnused.dpb.picList = a.dpb.picList.filter fun p => !a.unused p := by
    rw [hd]
    rfl
  have hcount : a.dpbDeleteUnused.dpb.numOutputNeeded = a.dpb.numOutputNeeded := by
    rw [hd]
    rfl
  unfold Tallied outputs at h ⊢
  simp only [hcount, hlist, (dpbDeleteUnused_sameOutput a _).waits, h]
  refine congrArg Nat.cast (countP_sublist List.filter_sublist hn fun q hq hw => ?_).symm
  refine List.mem_filter.mpr ⟨hq, ?_⟩
  simp only [waitsForOutput, Bool.and_eq_true] at hw
  simp [Store.unused, hw.1]

lemma tallied_dpbClear (a : Store) : a.dpbClear.Tallied := by
  rw [Tallied, outputs, dpbClear_picList]
  rfl

-- of the fields of the frame that is output only the first one waits
lemma Tallied.dpbBump (h : a.Tallied) (hp : a.Paired) (hs : a.SecondFields) (hb : (a.dpbBump drain).1 = some p) :
    (a.dpbBump drain).2.Tallied := by
  obtain ⟨i, hi⟩ := bump_eq_some hb
  obtain ⟨hat, hw⟩ := lowest_spec hi
  have hm := List.mem_of_getElem? hat
  obtain ⟨hnum, hkept⟩ := dpbBump_dpb hb
  have hgone : ∀ q, (q = p ∨ (a.pic p).otherField = some q) → waitsForOutput ((a.dpbBump drain).2.pic q) = false := by
    intro q hq
    rw [waitsForOutput, dpbBump_needed hb, if_pos hq, Bool.false_and]
  -- the other field of the frame does not wait
  have hother : ∀ q ∈ a.dpb.picList, (a.pic p).otherField = some q → waitsForOutput (a.pic q) = false := by
    intro q hq ho
    have hfirst : (a.pic p).secondField = false := by
      by_contra hsec
      rw [waits_of_second (by simpa using hsec) (hs p hm (by simpa using hsec))] at hw
      cases hw
    have hsec : (a.pic q).secondField = true := by rw [hp.second p hm q ho, hfirst]; rfl
    exact waits_of_second hsec (hs q hq hsec)
  have hsame : ∀ q ∈ a.dpb.picList, q ≠ p →
      waitsForOutput ((a.dpbBump drain).2.pic q) = waitsForOutput (a.pic q) := by
    intro q hq hne
    by_cases ho : (a.pic p).otherField = some q
    · rw [hgone q (.inr ho), hother q hq ho]
    · exact (dpbBump_sameOutput hb hne ho).waits
  have hsub : (a.dpbBump drain).2.dpb.picList.countP (fun q => waitsForOutput ((a.dpbBump drain).2.pic q)) =
      a.dpb.picList.countP fun q => waitsForOutput ((a.dpbBump drain).2.pic q) := by
    refine countP_sublist shrinks_dpbBump.picList hp.nodup fun q hq hwq => ?_
    by_cases hq' : q = p ∨ (a.pic p).otherField = some q
    · rw [hgone q hq'] at hwq
      cases hwq
    · exact hkept q hq (not_or.mp hq').1 (not_or.mp hq').2
  have hone := countP_succ hp.nodup hm hw (hgone p (.inl rfl)) hsame
  unfold Tallied outputs at h ⊢
  rw [hnum, h, hsub]
  omega

end Store

/-- What storing a picture finds of the frame that it belongs to. -/
structure Fits (a : Store) (p : PicId) : Prop where
  fresh : p ∉ a.dpb.picList
  frame : (a.pic p).secondField → (a.pic p).field ≠ .frame
  first : (a.pic p).secondField = false → (a.pic p).otherField = none
  second : (a.pic p).secondField → ∃ q ∈ a.dpb.picList, (a.pic p).otherField = some q ∧ Lone (a.pic q) ∧
    (a.pic q).neededForOutput = !(a.pic p).nonexisting

lemma Arrives.fits (ha : Arrives x p) (hx : Placed x) (hl : Linked x) (hff : FirstFields x) : Fits x.2.store p := by
  have hplace : 0 < places x p ∧ p ∉ x.2.store.dpb.picList ∧ (x.2.pic p).secondField = false ∨
      ∃ r : Role, r.stored ∧ (r, p) ∈ x.1.hold := by
    cases ha with
    | held hp hr => exact .inr ⟨_, hr, hp⟩
    | last hp hr hlast =>
      exact .inl ⟨places_of_lastField hlast, fun hm => hx.not_last_of_stored hm hlast, (hl.last p hlast).1⟩
  rcases hplace with ⟨hpos, hm, hs⟩ | ⟨r, hr, hp⟩
  · have hno : ¬(x.2.store.pic p).secondField := fun h => by cases hs.symm.trans h
    exact ⟨hm, fun h => absurd h hno, hl.unstored_alone hpos hm, fun h => absurd h hno⟩
  · have hm := hx.not_stored (flight_of_hold hp hr.owns)
    refine ⟨hm, fun hs => ?_, hl.alone p (flight_of_hold hp hr.owns), fun hs => ?_⟩
    · obtain ⟨q, ho⟩ := hl.named p hs
      have hopp := (hl.opposite p q (places_of_hold hx hp hr.owns) hs ho).resolve_left
        (hx.not_fresh hp hr.owns (by rcases hr with rfl | rfl | rfl <;> simp))
      exact (hopp.resolve_left (hx.not_starts hp hr.owns)).left
    · obtain ⟨q, ho⟩ := hl.named p hs
      obtain ⟨hq, hlone, hneeded⟩ := hff.beside hx hl ha ⟨hs, ho⟩
      exact ⟨q, hq, ho, hlone, hneeded⟩

namespace Store

variable {a : Store}

-- a frame that is stored waits by itself, a first field waits for its second one
lemma dpbAdd_waits (hf : Fits a p) :
    waitsForOutput ((a.dpbAdd p).pic p) = (!(a.pic p).nonexisting && (a.pic p).isFrame) := by
  obtain ⟨b, o, hpic⟩ := (adds_dpbAdd p a).pic p
  have hneeded := dpbAdd_needed p p a
  have hother := dpbAdd_otherField p p a
  rw [if_pos rfl] at hneeded
  cases hs : (a.pic p).secondField with
  | true =>
    have hframe : (a.pic p).isFrame = false := by simpa [Picture.isFrame] using hf.frame hs
    rw [waits_of_second (by rw [hpic]; exact hs) (by rw [hpic]; exact hf.frame hs), hframe, Bool.and_false]
  | false =>
    rw [hs, hf.first hs] at hother
    have hframe : ((a.dpbAdd p).pic p).isFrame = (a.pic p).isFrame := by rw [hpic]; rfl
    rw [waitsForOutput, hneeded, hother, hframe]
    simp

-- the first field of the frame waits from now on, when the frame is one to be output
lemma dpbAdd_first_waits (hs : (a.pic p).secondField) (ho : (a.pic p).otherField = some q)
    (hlone : Lone (a.pic q)) (hneeded : (a.pic q).neededForOutput = !(a.pic p).nonexisting) (hq : q ≠ p) :
    waitsForOutput ((a.dpbAdd p).pic q) = !(a.pic p).nonexisting := by
  obtain ⟨b, o, hpic⟩ := (adds_dpbAdd p a).pic q
  have hsec : ((a.dpbAdd p).pic q).secondField = false := by rw [hpic]; exact hlone.secondField
  rw [waitsForOutput, dpbAdd_needed, if_neg hq, hneeded, dpbAdd_otherField, if_pos ⟨hs, ho⟩, hsec]
  simp

lemma Tallied.dpbAdd (h : a.Tallied) (hn : a.dpb.picList.Nodup) (hf : Fits a p) : (a.dpbAdd p).Tallied := by
  have hne : ∀ q ∈ a.dpb.picList, q ≠ p := fun q hq he => hf.fresh (he ▸ hq)
  unfold Tallied outputs at h ⊢
  rw [dpbAdd_numOutputNeeded, dpbAdd_picList, List.countP_append, List.countP_singleton, dpbAdd_waits hf, h]
  cases hs : (a.pic p).secondField with
  | false =>
    have hrest : (a.dpb.picList.countP fun q => waitsForOutput ((a.dpbAdd p).pic q)) =
        a.dpb.picList.countP fun q => waitsForOutput (a.pic q) :=
      List.countP_congr fun q hq => by
        rw [(dpbAdd_sameOutput (hne q hq) fun hlink => by cases hs.symm.trans hlink.1).waits]
    rw [hrest, countsForOutput, hs, Bool.or_false]
    split <;> simp
  | true =>
    obtain ⟨q, hq, ho, hlone, hneeded⟩ := hf.second hs
    have hwaits := dpbAdd_first_waits hs ho hlone hneeded (hne q hq)
    have hrest : ∀ b ∈ a.dpb.picList, b ≠ q → waitsForOutput (a.pic b) = waitsForOutput ((a.dpbAdd p).pic b) :=
      fun b hb hbq => (dpbAdd_sameOutput (hne b hb) fun hlink =>
        hbq (Option.some.inj (ho.symm.trans hlink.2)).symm).waits.symm
    have hframe : (a.pic p).isFrame = false := by simpa [Picture.isFrame] using hf.frame hs
    rw [countsForOutput, hs, hframe]
    cases hmissing : (a.pic p).nonexisting with
    | true =>
      rw [hmissing] at hwaits
      have hsame : (a.dpb.picList.countP fun q => waitsForOutput ((a.dpbAdd p).pic q)) =
          a.dpb.picList.countP fun q => waitsForOutput (a.pic q) :=
        List.countP_congr fun b hb => by
          by_cases hbq : b = q
          · rw [hbq, hwaits, hlone.not_waiting]
            rfl
          · rw [hrest b hb hbq]
      rw [hsame]
      simp
    | false =>
      rw [hmissing] at hwaits
      have hone := countP_succ hn hq hwaits hlone.not_waiting hrest
      rw [← hone]
      simp

end Store

lemma Linked.secondFields (hl : Linked x) (hx : Placed x) : x.2.store.SecondFields := by
  intro p hm hs
  obtain ⟨q, ho⟩ := hl.named p hs
  have hc := committed_of_stored hx hm
  rcases hl.opposite p q hc.1 hs ho with hf | hst | hopp
  · exact absurd hf hc.2
  · exact absurd hm (hx.not_stored (.inr (.inl hst.place)))
  · exact hopp.left

lemma tallied_reach (h : ReflTransGen (Act env) (Phase.idle, Decoder.start env) x) : x.2.store.Tallied := by
  induction h with
  | refl => rfl
  | @tail x y hreach hact ih =>
    have hs := sound_start.reach hreach
    have hp := paired_reach hreach
    cases hact.restocks hs.placed with
    | kept hl hn hsame =>
      rw [Store.Tallied, Store.outputs, hn, hl, ih]
      exact congrArg Nat.cast (List.countP_congr fun q hq => iff_of_eq (congrArg (· = true) (hsame q hq).waits.symm))
    | stored ha hstore =>
      rw [hstore]
      exact ih.dpbAdd hp.nodup (ha.fits hs.placed hs.links (firstFields_reach hreach))
    | deleted hstore => exact hstore ▸ ih.dpbDeleteUnused hp.nodup
    | bumped hb hstore => exact hstore ▸ ih.dpbBump hp (hs.links.secondFields hs.placed) hb
    | cleared hstore => exact hstore ▸ Store.tallied_dpbClear _

/-- What the counter says of the next bump, which finds a picture unless it is 0 and leaves it without a sign. -/
structure Store.OutputCounted (a : Store) (drain : Bool) : Prop where
  counted : a.dpb.numOutputNeeded = a.outputs
  nonneg : 0 ≤ a.dpb.numOutputNeeded
  found : (a.dpbBump drain).1 ≠ none ↔ 0 < a.dpb.numOutputNeeded
  bumped : 0 ≤ (a.dpbBump drain).2.dpb.numOutputNeeded

structure Store.CountsOutput (a : Store) (drain : Bool) (toInsert : Option Picture) (mode : BumpMode) : Prop
    extends a.OutputCounted drain where
  needsBump : a.dpbNeedsBump toInsert mode ≠ .error .assertion

/-- The assertion about the last order count is reached, and that count is the greatest. -/
def Store.LastCountFull (a : Store) (mode : BumpMode) : Prop :=
  mode ≠ .normalLatency ∧ a.dpb.interlaced = false ∧ a.dpbHasEmptyFrameBuffer ∧ a.dpb.lastOutputNonRef ∧
    int32Max ≤ a.dpb.lastOutputPoc ∧ ∃ i p, a.dpbGetLowestOutputNeededPicture = some (i, p) ∧ (a.pic p).refPic = false

namespace Store

variable {a : Store} {drain : Bool} {toInsert : Option Picture} {mode : BumpMode}

lemma needsBump_asserts (h : 0 ≤ a.dpb.numOutputNeeded) :
    a.dpbNeedsBump toInsert mode = .error .assertion ↔ a.LastCountFull mode := by
  unfold dpbNeedsBump LastCountFull
  rw [if_neg (Int.not_lt.mpr h)]
  cases hl : a.dpbGetLowestOutputNeededPicture with
  | none => simp
  | some r =>
    obtain ⟨i, p⟩ := r
    simp only [Option.some.injEq, Prod.mk.injEq]
    have hex : (∃ i' p', (i = i' ∧ p = p') ∧ (a.pic p').refPic = false) ↔ (a.pic p).refPic = false :=
      ⟨fun ⟨_, _, ⟨_, hp⟩, hr⟩ => hp ▸ hr, fun hr => ⟨i, p, ⟨rfl, rfl⟩, hr⟩⟩
    rw [hex]
    split_ifs with hearly hnon hfull hreorder
    · refine iff_of_false (by simp) ?_
      rintro ⟨hm, hi, hroom, -⟩
      rcases hearly with he | he | he
      · exact hm he
      · exact Bool.false_ne_true (hi.symm.trans he)
      · simp [hroom] at he
    · refine iff_of_false (by simp) fun hc => ?_
      exact absurd hc.2.2.2.2.1 (Int.not_le.mpr hfull)
    · simp only [not_or, Bool.not_eq_true, Bool.not_eq_false'] at hearly
      simp only [Bool.not_eq_true'] at hnon
      exact iff_of_true rfl ⟨hearly.1, hearly.2.1, hearly.2.2, hnon.1, Int.not_lt.mp hfull, hnon.2⟩
    · refine iff_of_false (by simp) fun hc => hnon ⟨hc.2.2.2.1, by simp [hc.2.2.2.2.2]⟩
    · refine iff_of_false (by simp) fun hc => hnon ⟨hc.2.2.2.1, by simp [hc.2.2.2.2.2]⟩

lemma Tallied.found (h : a.Tallied) : (a.dpbBump drain).1 ≠ none ↔ 0 < a.dpb.numOutputNeeded := by
  rw [h, Int.natCast_pos, outputs, List.countP_pos_iff]
  constructor
  · intro hb
    obtain ⟨p, hp⟩ := Option.ne_none_iff_exists'.mp hb
    obtain ⟨i, hi⟩ := bump_eq_some hp
    obtain ⟨hat, hw⟩ := lowest_spec hi
    exact ⟨p, List.mem_of_getElem? hat, hw⟩
  · rintro ⟨p, hp, hw⟩ hb
    rw [lowest_none_iff.mp (bump_eq_none hb).1 p hp] at hw
    cases hw

lemma Tallied.outputCounted (h : a.Tallied) (drain : Bool) : a.OutputCounted drain := by
  have hnonneg : 0 ≤ a.dpb.numOutputNeeded := by
    rw [h]
    exact Int.natCast_nonneg _
  refine ⟨h, hnonneg, h.found, ?_⟩
  cases hb : (a.dpbBump drain).1 with
  | none => rwa [(bump_eq_none hb).2]
  | some p =>
    have hpos := h.found.mp (by rw [hb]; simp : (a.dpbBump drain).1 ≠ none)
    rw [(dpbBump_dpb hb).1]
    omega

lemma Tallied.countsOutput_iff (h : a.Tallied) : a.CountsOutput drain toInsert mode ↔ ¬a.LastCountFull mode := by
  have hasserts : a.dpbNeedsBump toInsert mode = .error .assertion ↔ a.LastCountFull mode :=
    needsBump_asserts (h.outputCounted drain).nonneg
  rw [← hasserts]
  exact ⟨CountsOutput.needsBump, fun hn => ⟨h.outputCounted drain, hn⟩⟩

end Store

end VkVideoParser.H264
