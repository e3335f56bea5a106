import VkVideoParser.H264.Buffers
import VkVideoParser.H264.DisplayedOnce

/-! The references that `dpb[]` is to list, each by an entry that names its buffer. A stored picture has one
unless it was missing in the stream or is a second field. -/

namespace VkVideoParser.H264

open Execution Relation

variable {P : Type} {env : Env P} {x y : Phase × Decoder P} {p q : PicId} {log : List Event}

/-- A stored frame or complementary pair: its frame or first field, or a second field that the first
one has left behind. -/
def isUnit (stored : List Stored) (u : Stored) : Bool :=
  !u.2.1.secondField || !stored.any fun v => u.2.1.otherField = some v.1

-- a pair is marked as its first marked field is
def unitMark (u : Stored) : PictureReference :=
  if u.2.1.ref ≠ .none then u.2.1.ref else (u.2.2.map Picture.ref).getD .none

def wanted (stored : List Stored) (mark : PictureReference) : List Stored :=
  stored.filter fun u => isUnit stored u && !u.2.1.nonexisting && decide (unitMark u = mark)

/-- The references in the order that `dpb[]` is to have. -/
def wantedRefs (stored : List Stored) : List Stored := wanted stored .shortTerm ++ wanted stored .longTerm

/-- The entry is that of the reference: it names its buffer, with the number that slices use for it and its kind. -/
structure EntryFor (u : Stored) (e : DpbEntry) : Prop where
  backed : u.2.1.userData.isSome
  pPicBuf : e.pPicBuf = u.2.1.userData.map VkPic.pic
  frameIdx : e.frameIdx = if unitMark u = .longTerm then u.2.1.longTermPicNum else u.2.1.picNum
  isLongTerm : e.isLongTerm = decide (unitMark u = .longTerm)
  existing : e.notExisting = false
  used : e.usedForReference ≠ 0

instance (u : Stored) (e : DpbEntry) : Decidable (EntryFor u e) :=
  decidable_of_iff (u.2.1.userData.isSome ∧ e.pPicBuf = u.2.1.userData.map VkPic.pic ∧
      (e.frameIdx = if unitMark u = .longTerm then u.2.1.longTermPicNum else u.2.1.picNum) ∧
      e.isLongTerm = decide (unitMark u = .longTerm) ∧ e.notExisting = false ∧ e.usedForReference ≠ 0)
    ⟨fun h => ⟨h.1, h.2.1, h.2.2.1, h.2.2.2.1, h.2.2.2.2.1, h.2.2.2.2.2⟩,
      fun h => ⟨h.backed, h.pPicBuf, h.frameIdx, h.isLongTerm, h.existing, h.used⟩⟩

/-- Every reference stands in `dpb[]` once, in order, under its own entry, and nothing else does. -/
structure RefsListed (info : StartInfo) : Prop where
  entries : info.dpb = (wantedRefs info.stored).map entryOf ++
    List.replicate (17 - (wantedRefs info.stored).length) ({} : DpbEntry)
  named : ∀ u ∈ wantedRefs info.stored, EntryFor u (entryOf u)
  fits : (wantedRefs info.stored).length ≤ 17
  once : ((wantedRefs info.stored).map Prod.fst).Nodup

instance (info : StartInfo) : Decidable (RefsListed info) :=
  decidable_of_iff (info.dpb = (wantedRefs info.stored).map entryOf ++
      List.replicate (17 - (wantedRefs info.stored).length) ({} : DpbEntry) ∧
    (∀ u ∈ wantedRefs info.stored, EntryFor u (entryOf u)) ∧
    (wantedRefs info.stored).length ≤ 17 ∧ ((wantedRefs info.stored).map Prod.fst).Nodup)
    ⟨fun h => ⟨h.1, h.2.1, h.2.2.1, h.2.2.2⟩, fun h => ⟨h.entries, h.named, h.fits, h.once⟩⟩

/-- References of which start_picture loses none: no pair is marked by its second field only, no
missing frame is long-term, no long-term reference follows a short-term one. -/
structure RefsPlain (stored : List Stored) : Prop where
  firstMarked : ∀ u ∈ stored, isUnit stored u → u.2.1.nonexisting = false → unitMark u ≠ .none →
    u.2.1.secondField = false ∧ u.2.1.isRef
  missing : ∀ u ∈ stored, u.2.1.secondField = false → u.2.1.nonexisting → u.2.1.ref ≠ .longTerm
  oneKind : wanted stored .shortTerm = [] ∨ wanted stored .longTerm = []
  fits : (wantedRefs stored).length ≤ 17

instance (stored : List Stored) : Decidable (RefsPlain stored) :=
  decidable_of_iff ((∀ u ∈ stored, isUnit stored u → u.2.1.nonexisting = false → unitMark u ≠ .none →
      u.2.1.secondField = false ∧ u.2.1.isRef) ∧
    (∀ u ∈ stored, u.2.1.secondField = false → u.2.1.nonexisting → u.2.1.ref ≠ .longTerm) ∧
    (wanted stored .shortTerm = [] ∨ wanted stored .longTerm = []) ∧ (wantedRefs stored).length ≤ 17)
    ⟨fun h => ⟨h.1, h.2.1, h.2.2.1, h.2.2.2⟩, fun h => ⟨h.firstMarked, h.missing, h.oneKind, h.fits⟩⟩

section Backed

/-- Every picture that is stored was decoded, completes a field or was missing. -/
def Accounted (x : Phase × Decoder P) : Prop := ∀ q ∈ x.2.store.dpb.picList, entered x q ∨ (x.2.pic q).nonexisting

-- a picture that comes to be stored without having been decoded was missing
lemma Arrives.accounted (ha : Arrives x p) (hff : FirstFields x) (hf : FramesShown x) :
    entered x p ∨ (x.2.pic p).nonexisting := by
  cases ha with
  | held hp hr hroom hlast hhalf hfirst hmissing =>
    rcases hr with rfl | rfl | rfl
    · exact .inr (hmissing rfl)
    · exact .inl (.inl (hff.half p hp))
    · exact .inl (hf.held .settled p (by simp [Role.decoded]) hp)
  | last hp hr hl => exact .inl (hf.last p hl)

lemma Act.accounted (h : Act env x y) (hx : Placed x) (hff : FirstFields x) (hf : FramesShown x) (ha : Accounted x) :
    Accounted y := by
  have hkept : ∀ q, q < x.2.store.next → (y.2.pic q).nonexisting = (x.2.pic q).nonexisting →
      (entered x q ∨ (x.2.pic q).nonexisting) → entered y q ∨ (y.2.pic q).nonexisting := fun q hq hn hd =>
    hd.imp (fun he => entered_step h hx he hq) fun he => hn.trans he
  have hbelow : ∀ q ∈ x.2.store.dpb.picList, q < x.2.store.next := fun q hq => hx.below q (.inl (places_of_mem hq))
  intro q hq
  cases h.restocks hx with
  | kept hl hn hs =>
    rw [hl] at hq
    exact hkept q (hbelow q hq) (hs q hq).nonexisting (ha q hq)
  | @stored p harr hs =>
    have hn : (y.2.pic q).nonexisting = (x.2.pic q).nonexisting := by
      rw [Decoder.pic, Decoder.pic, hs, Store.addPicture_pic, Store.dpbAdd_nonexisting]
    rw [hs, Store.addPicture_dpb, Store.dpbAdd_picList] at hq
    rcases List.mem_append.mp hq with hq | hq
    · exact hkept q (hbelow q hq) hn (ha q hq)
    · rw [List.mem_singleton] at hq
      subst hq
      exact hkept q (harr.below hx) hn (harr.accounted hff hf)
  | deleted hs =>
    rw [hs] at hq
    have hq := Store.shrinks_dpbDeleteUnused.picList.subset hq
    refine hkept q (hbelow q hq) ?_ (ha q hq)
    rw [Decoder.pic, Decoder.pic, hs]
    exact Store.shrinks_dpbDeleteUnused.nonexisting q
  | @bumped drain p hb hs =>
    rw [hs] at hq
    have hq := Store.shrinks_dpbBump.picList.subset hq
    refine hkept q (hbelow q hq) ?_ (ha q hq)
    rw [Decoder.pic, Decoder.pic, hs]
    exact Store.shrinks_dpbBump.nonexisting q
  | cleared hs =>
    rw [hs, Store.dpbClear_picList] at hq
    cases hq

lemma accounted_reach (h : ReflTransGen (Act env) (Phase.idle, Decoder.start env) x) : Accounted x := by
  induction h with
  | refl => intro q hq; cases hq
  | tail hreach hact ih =>
    exact hact.accounted (sound_start.reach hreach).placed (firstFields_reach hreach) (framesShown_reach hreach) ih

lemma decoded_of_opened (h : .opened p ∈ entries log) : ∃ data sps pps ok, Event.decodePicture p data sps pps ok ∈
    log := by
  induction log with
  | nil => cases h
  | cons e l ih =>
    rcases List.mem_append.mp h with h | h
    · cases e with
      | decodePicture a data sps pps ok =>
        cases hf : firstField l a with
        | none =>
          simp only [Event.entry, hf, Option.elim_none, Option.toList_some, List.mem_singleton,
            Ledger.Entry.opened.injEq] at h
          subst h
          exact ⟨data, sps, pps, ok, List.mem_cons_self⟩
        | some b => simp [Event.entry, hf] at h
      | displayPicture => simp [Event.entry] at h
      | _ => cases h
    · obtain ⟨data, sps, pps, ok, hm⟩ := ih h
      exact ⟨data, sps, pps, ok, List.mem_cons_of_mem _ hm⟩

-- a first field or frame that was decoded keeps the buffer that it was decoded into
lemma Buffers.backed (hb : Buffers x) (he : entered x p) (hs : (x.2.pic p).secondField = false) :
    (x.2.pic p).userData.isSome := by
  obtain ⟨data, sps, pps, ok, hm⟩ := decoded_of_opened (he.resolve_left (by rw [hs]; exact Bool.false_ne_true))
  obtain ⟨v, -, hv⟩ := hb.carried _ hm
  have hbuf := (hb.owned p v).mp hv
  rw [bufferOf] at hbuf
  cases hu : (x.2.pic p).userData with
  | none =>
    rw [hu] at hbuf
    cases hbuf
  | some vkpic => rfl

/-- The frames and first fields that were not missing have buffers. -/
def Backed (info : StartInfo) : Prop :=
  ∀ u ∈ info.stored, u.2.1.secondField = false → u.2.1.nonexisting = false → u.2.1.userData.isSome

lemma backed_all {info : StartInfo} (h : ReflTransGen (Act env) (Phase.idle, Decoder.start env) x)
    (hi : info ∈ startInfos x.2.store.log) : Backed info := by
  refine startInfos_all (fun y hreach p slice _ _ u hu hs hn => ?_) h hi
  obtain ⟨q, hq, rfl⟩ := List.mem_map.mp hu
  have he := (accounted_reach hreach q hq).resolve_right (by rw [show (y.2.pic q).nonexisting = false from hn]; simp)
  exact (buffers_reach hreach).backed he hs

end Backed

section Plain

variable {stored : List Stored}

lemma unitMark_of_ref {u : Stored} (h : u.2.1.ref ≠ .none) : unitMark u = u.2.1.ref := if_pos h

lemma isUnit_of_first {u : Stored} (h : u.2.1.secondField = false) : isUnit stored u := by
  rw [isUnit, h]
  rfl

-- a reference that start_picture looks at is wanted, and the other way round
lemma looked_iff (h : RefsPlain stored) {u : Stored} (hu : u ∈ stored) (mark : PictureReference) (hm : mark ≠ .none) :
    (u.2.1.secondField = false ∧ u.2.1.ref = mark ∧ u.2.1.nonexisting = false) ↔
      (isUnit stored u ∧ u.2.1.nonexisting = false ∧ unitMark u = mark) := by
  constructor
  · rintro ⟨hsec, rfl, hnon⟩
    exact ⟨isUnit_of_first hsec, hnon, unitMark_of_ref hm⟩
  · rintro ⟨hunit, hnon, rfl⟩
    obtain ⟨hsec, href⟩ := h.firstMarked u hu hunit hnon hm
    exact ⟨hsec, (unitMark_of_ref (by simpa [Picture.isRef] using href)).symm, hnon⟩

lemma collected_eq (h : RefsPlain stored) : collected stored = wantedRefs stored := by
  have hshort : (stored.filter fun u =>
      !u.2.1.secondField && decide (u.2.1.ref = .shortTerm) && !u.2.1.nonexisting) = wanted stored .shortTerm := by
    refine List.filter_congr fun u hu => Bool.eq_iff_iff.mpr ?_
    simpa [and_assoc] using looked_iff h hu .shortTerm (by simp)
  have hlong : (stored.filter fun u =>
      !u.2.1.secondField && decide (u.2.1.ref = .longTerm)) = wanted stored .longTerm := by
    refine List.filter_congr fun u hu => Bool.eq_iff_iff.mpr ?_
    have hl := looked_iff h hu .longTerm (by simp)
    have hmiss := h.missing u hu
    simp only [Bool.and_eq_true, Bool.not_eq_true', decide_eq_true_eq] at hl ⊢
    rw [and_assoc, ← hl]
    refine ⟨fun ⟨hsec, href⟩ => ⟨hsec, href, ?_⟩, fun ⟨hsec, href, _⟩ => ⟨hsec, href⟩⟩
    by_contra hnon
    exact hmiss hsec (by simpa using hnon) href
  have hfits := h.fits
  simp only [collected, hshort, hlong, wantedRefs, List.length_append] at hfits ⊢
  rcases h.oneKind with hs | hl
  · simp only [hs, List.length_nil, Nat.zero_add] at hfits
    simp [hs, hfits]
  · simp only [hl, List.length_nil, Nat.add_zero] at hfits
    simp [hl, hfits]

lemma wantedRefs_nodup (h : (stored.map Prod.fst).Nodup) : ((wantedRefs stored).map Prod.fst).Nodup := by
  have hsub : ∀ mark, ((wanted stored mark).map Prod.fst).Nodup := fun mark =>
    (List.Sublist.map _ List.filter_sublist).nodup h
  rw [wantedRefs, List.map_append]
  refine List.Nodup.append (hsub _) (hsub _) fun q hq hq' => ?_
  obtain ⟨u, hu, rfl⟩ := List.mem_map.mp hq
  obtain ⟨v, hv, huv⟩ := List.mem_map.mp hq'
  obtain rfl : v = u := List.inj_on_of_nodup_map h (List.mem_of_mem_filter hv) (List.mem_of_mem_filter hu) huv
  simp only [wanted, List.mem_filter, Bool.and_eq_true, decide_eq_true_eq] at hu hv
  rw [hu.2.2] at hv
  cases hv.2.2

lemma mem_wantedRefs {u : Stored} (hu : u ∈ wantedRefs stored) :
    u ∈ stored ∧ isUnit stored u ∧ u.2.1.nonexisting = false ∧ unitMark u ≠ .none := by
  rcases List.mem_append.mp hu with hu | hu
  all_goals
    obtain ⟨hmem, hw⟩ := List.mem_filter.mp hu
    simp only [Bool.and_eq_true, Bool.not_eq_true', decide_eq_true_eq] at hw
    exact ⟨hmem, hw.1.1, hw.1.2, by simp [hw.2]⟩

lemma entryFor_entryOf {u : Stored} (hv : u.2.1.userData.isSome) (hm : unitMark u = u.2.1.ref)
    (hn : u.2.1.nonexisting = false) : EntryFor u (entryOf u) := by
  obtain ⟨vkpic, hv⟩ := Option.isSome_iff_exists.mp hv
  rcases u with ⟨q, x, y⟩
  simp only at hv hm hn
  constructor
  · rw [hv]
    rfl
  all_goals
    simp only [entryOf, fillDbpEntry, hv, hm, hn]
    cases x.field <;> cases y <;> simp

lemma refsListed_of_plain {info : StartInfo} (hc : Collects info) (hb : Backed info) (h : RefsPlain info.stored) :
    RefsListed info := by
  refine ⟨collected_eq h ▸ hc.entries, fun u hu => ?_, h.fits, wantedRefs_nodup hc.once⟩
  obtain ⟨hmem, hunit, hn, hmark⟩ := mem_wantedRefs hu
  obtain ⟨hsec, href⟩ := h.firstMarked u hmem hunit hn hmark
  exact entryFor_entryOf (hb u hmem hsec hn) (unitMark_of_ref (by simpa [Picture.isRef] using href)) hn

end Plain

/-- Every picture of every run starts with its references in `dpb[]` when these are plain. -/
theorem references_listed (env : Env P) (inputs : List Input) (info : StartInfo)
    (hi : info ∈ startInfos (final (runInputs env inputs (Decoder.start env))).store.log)
    (h : RefsPlain info.stored) : RefsListed info := by
  obtain ⟨k, hk⟩ := reach_final env inputs
  exact refsListed_of_plain (collects_all hk hi) (backed_all hk hi) h

section Examples

-- an IDR picture kept as a long-term reference, then short-term ones
def longTermScript : Script where
  sps := [Script.progressive]
  pps := [{}]
  slices := [{ decRefPicMarking := { longTermReferenceFlag := true } }, { frameNum := 1, picOrderCntLsb := 2 },
    { frameNum := 2, picOrderCntLsb := 4 }]

def longTermInputs : List Input := Script.frames
  [[Script.spsUnit 0, Script.ppsUnit 0, Script.idrUnit 0], [Script.sliceUnit 1], [Script.sliceUnit 2]]

def longTermStarts : List StartInfo :=
  startInfos (final (runInputs longTermScript.env longTermInputs (Decoder.start longTermScript.env))).store.log

-- the third picture has a short-term reference too, and the long-term one is gone
theorem longTerm_lost : ¬∀ info ∈ longTermStarts, RefsListed info := by decide +kernel

-- the second picture has the long-term reference alone
def longTermSecond : StartInfo := longTermStarts.get ⟨1, by decide +kernel⟩

theorem references_listed_second : (wantedRefs longTermSecond.stored).length = 1 ∧ RefsListed longTermSecond :=
  ⟨by decide +kernel,
    references_listed longTermScript.env longTermInputs longTermSecond (List.get_mem ..) (by decide +kernel)⟩

end Examples

end VkVideoParser.H264
