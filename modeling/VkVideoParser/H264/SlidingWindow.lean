import VkVideoParser.H264.FrameMarking
import VkVideoParser.Library.Lowest

/-! The sliding window: how many frames and pairs it leaves marked. -/

namespace VkVideoParser.H264

open Execution Relation Counting Lowest

namespace Store

variable {a b : Store} {p q v : PicId} {n : Nat}

/-- The stored field that the picture makes a frame with. -/
def partner (a : Store) (p : PicId) : Option PicId := (a.pic p).otherField.filter (· ∈ a.dpb.picList)

/-- The picture that stands for its frame or pair: the first field, when it is stored. -/
def opensUnit (a : Store) (p : PicId) : Bool := !(a.pic p).secondField || (a.partner p).isNone

def marksUnit (a : Store) (p : PicId) : Bool := (a.pic p).isRef || (a.partner p).any fun q => (a.pic q).isRef

/-- The stored frames and pairs of which a field is marked as used for reference. -/
def refUnits (a : Store) : Nat := a.dpb.picList.countP fun p => a.opensUnit p && a.marksUnit p

section Lowest

-- the picture with the lowest FrameNumWrap, as gst_h264_dpb_get_lowest_frame_num_short_ref looks for it
-- one turn of gst_h264_dpb_get_lowest_frame_num_short_ref
def lowerFrameNum (a : Store) (ret : Option PicId) (p : PicId) : Option PicId :=
  if (a.pic p).ref = .shortTerm then
    match ret with
    | none => some p
    | some q => if (a.pic p).frameNumWrap < (a.pic q).frameNumWrap then some p else ret
  else ret

lemma lowestFrameNum_eq (a : Store) : a.dpbGetLowestFrameNumShortRef =
    (lowestFrom (fun p => decide ((a.pic p).ref = .shortTerm)) (fun p => (a.pic p).frameNumWrap) 0 a.dpb.picList none).map
      (·.2) := by
  have h : ∀ (l : List PicId) (i : Nat) (ret : Option (Nat × PicId)),
      l.foldl a.lowerFrameNum (ret.map (·.2)) =
      (lowestFrom (fun p => decide ((a.pic p).ref = .shortTerm)) (fun p => (a.pic p).frameNumWrap) i l ret).map (·.2) := by
    intro l
    induction l with
    | nil => exact fun i ret => rfl
    | cons p l ih =>
      intro i ret
      rw [List.foldl_cons, lowestFrom, ← ih]
      congr 1
      unfold lowerFrameNum pick
      by_cases hr : (a.pic p).ref = .shortTerm
      · cases ret with
        | none => simp [hr]
        | some r =>
          simp only [hr, if_true, decide_true, Option.map_some]
          split_ifs <;> rfl
      · simp [hr]
  exact h a.dpb.picList 0 none

lemma lowestFrameNum_spec (h : a.dpbGetLowestFrameNumShortRef = some v) :
    v ∈ a.dpb.picList ∧ (a.pic v).ref = .shortTerm ∧
      ∀ q ∈ a.dpb.picList, (a.pic q).ref = .shortTerm → (a.pic v).frameNumWrap ≤ (a.pic q).frameNumWrap := by
  rw [lowestFrameNum_eq, Option.map_eq_some_iff] at h
  obtain ⟨⟨i, w⟩, hw, rfl⟩ := h
  have hfound : Found (fun p => decide ((a.pic p).ref = .shortTerm)) (fun p => (a.pic p).frameNumWrap) a.dpb.picList
    (lowestFrom (fun p => decide ((a.pic p).ref = .shortTerm)) (fun p => (a.pic p).frameNumWrap) 0 a.dpb.picList none) :=
    found_lowestFrom _
  rw [hw] at hfound
  have hl : IsLowest _ _ _ i w := hfound
  exact ⟨hl.mem, by simpa using hl.waiting, fun q hq hr => hl.le q hq (by simpa using hr)⟩

end Lowest

section Units

lemma partner_eq_some : a.partner p = some q ↔ (a.pic p).otherField = some q ∧ q ∈ a.dpb.picList := by
  simp [partner, Option.filter_eq_some_iff]

lemma Paired.partner (hp : a.Paired) (hmem : p ∈ a.dpb.picList) (h : a.partner p = some q) :
    a.partner q = some p ∧ (a.pic q).secondField = !(a.pic p).secondField := by
  obtain ⟨ho, hq⟩ := partner_eq_some.mp h
  exact ⟨partner_eq_some.mpr ⟨hp.back p hmem q ho hq, hmem⟩, hp.second p hmem q ho⟩

-- every stored picture belongs to a unit
lemma exists_opensUnit (hp : a.Paired) (hmem : p ∈ a.dpb.picList) :
    ∃ h ∈ a.dpb.picList, a.opensUnit h ∧ (h = p ∨ a.partner h = some p) := by
  cases hs : a.opensUnit p with
  | true => exact ⟨p, hmem, hs, .inl rfl⟩
  | false =>
    simp only [opensUnit, Bool.or_eq_false_iff, Bool.not_eq_false', Option.isNone_eq_false_iff] at hs
    obtain ⟨q, hq⟩ := Option.isSome_iff_exists.mp hs.2
    obtain ⟨hb, hsec⟩ := hp.partner hmem hq
    exact ⟨q, (partner_eq_some.mp hq).2, by simp [opensUnit, hsec, hs.1], .inr hb⟩

lemma partner_of_roles (h : SameRoles a b) : b.partner = a.partner := by
  funext p
  unfold partner
  rw [(h.role p).otherField, h.dpb]

lemma opensUnit_of_roles (h : SameRoles a b) : b.opensUnit = a.opensUnit := by
  funext p
  unfold opensUnit
  rw [(h.role p).secondField, partner_of_roles h]

lemma first_of_opensUnit (h : a.opensUnit p) (hq : a.partner p = some q) : (a.pic p).secondField = false := by
  simpa [opensUnit, hq] using h

-- a picture belongs to one unit
lemma opensUnit_unique {x y : PicId} (hp : a.Paired) (hv : v ∈ a.dpb.picList) (hx : x ∈ a.dpb.picList)
    (hy : y ∈ a.dpb.picList) (hox : a.opensUnit x) (hoy : a.opensUnit y) (hhx : Hit a v x) (hhy : Hit a v y) : x = y := by
  have hno : ∀ {z}, z ∈ a.dpb.picList → a.opensUnit v → a.opensUnit z → (a.pic v).otherField ≠ some z := by
    intro z hz hov hoz ho
    have hvz : a.partner v = some z := partner_eq_some.mpr ⟨ho, hz⟩
    obtain ⟨hzv, hsec⟩ := hp.partner hv hvz
    rw [first_of_opensUnit hoz hzv, first_of_opensUnit hov hvz] at hsec
    cases hsec
  rcases hhx with rfl | hhx <;> rcases hhy with rfl | hhy
  · rfl
  · exact absurd hhy (hno hy hox hoy)
  · exact absurd hhx (hno hx hoy hox)
  · exact Option.some.inj (hhx.symm.trans hhy)

-- the unit of a marked picture counts, until both its fields are unmarked
lemma refUnits_unmark (hp : a.Paired) (hv : v ∈ a.dpb.picList) (hr : (a.pic v).isRef) :
    (a.setReference v .none true).refUnits + 1 = a.refUnits := by
  have hroles : SameRoles a (a.setReference v .none true) :=
    (marks_setReference (R := fun _ => True) v .none true a).toSameRoles
  have href : ∀ f, Hit a v f → ((a.setReference v .none true).pic f).isRef = false := fun f hf => by
    rw [Picture.isRef, setReference_ref, if_pos (hf.imp_right fun h => ⟨rfl, h⟩)]
    rfl
  have hmiss : ∀ f, ¬Hit a v f → ((a.setReference v .none true).pic f).isRef = (a.pic f).isRef := fun f hf => by
    rw [Picture.isRef, setReference_ref, if_neg fun h => hf (h.imp_right And.right)]
    rfl
  obtain ⟨u, hu, hopen, huv⟩ := exists_opensUnit hp hv
  have hhit : Hit a v u := by
    rcases huv with rfl | huv
    · exact .inl rfl
    · exact .inr (partner_eq_some.mp (hp.partner hu huv).1).1
  unfold refUnits
  rw [hroles.dpb, opensUnit_of_roles hroles]
  refine countP_succ hp.nodup hu ?_ ?_ fun x hx hne => ?_
  · rw [hopen, Bool.true_and]
    rcases huv with rfl | huv
    · simp [marksUnit, hr]
    · simp [marksUnit, huv, hr]
  · have hpartner : ∀ q, a.partner u = some q → ((a.setReference v .none true).pic q).isRef = false := fun q hq =>
      href q (StoredFrame.hit ⟨hu, (partner_eq_some.mp hq).2, (partner_eq_some.mp hq).1⟩ hp hv hhit)
    rw [hopen, Bool.true_and, marksUnit, href u hhit, Bool.false_or, partner_of_roles hroles, Option.any_eq_false]
    simpa using hpartner
  · cases hox : a.opensUnit x with
    | false => rfl
    | true =>
      -- another unit
      have hx' : ¬Hit a v x := fun h => hne (opensUnit_unique hp hv hx hu hox hopen h hhit)
      have hpartner : ∀ q, a.partner x = some q → ((a.setReference v .none true).pic q).isRef = (a.pic q).isRef := fun q hq =>
        hmiss q fun h => hx' ((StoredFrame.hit_iff ⟨hx, (partner_eq_some.mp hq).2, (partner_eq_some.mp hq).1⟩ hp hv).mpr h)
      rw [Bool.true_and, Bool.true_and, marksUnit, marksUnit, hmiss x hx', partner_of_roles hroles]
      cases hq : a.partner x with
      | none => rfl
      | some q => simp [hpartner q hq]

-- the code counts the units whose first field, or frame, is marked
lemma dpbNumRefFrames_le (a : Store) : a.dpbNumRefFrames ≤ a.refUnits := by
  refine List.countP_mono_left fun p _ h => ?_
  simp only [Bool.and_eq_true, Bool.not_eq_true'] at h
  simp [opensUnit, marksUnit, h.1, h.2]

/-- Every marked unit is marked in its first field. -/
def FirstsMarked (a : Store) : Prop :=
  ∀ p ∈ a.dpb.picList, a.opensUnit p → a.marksUnit p → (a.pic p).secondField = false ∧ (a.pic p).isRef

instance (a : Store) : Decidable a.FirstsMarked :=
  inferInstanceAs (Decidable (∀ p ∈ a.dpb.picList, a.opensUnit p → a.marksUnit p →
    (a.pic p).secondField = false ∧ (a.pic p).isRef))

lemma refUnits_le_iff (a : Store) : a.refUnits ≤ a.dpbNumRefFrames ↔ a.FirstsMarked := by
  refine ⟨fun h p hp ho hm => ?_, fun h => List.countP_mono_left fun p hp hu => ?_⟩
  · by_contra hn
    refine absurd h (Nat.not_le.mpr (countP_lt (fun x _ hx => ?_) hp (by simp [ho, hm]) ?_))
    · simp only [Bool.and_eq_true, Bool.not_eq_true'] at hx
      simp [opensUnit, marksUnit, hx.1, hx.2]
    · cases hs : (a.pic p).secondField <;> simp_all
  · simp only [Bool.and_eq_true] at hu
    obtain ⟨hs, hr⟩ := h p hp hu.1 hu.2
    simp [hs, hr]

end Units

-- every turn of the window leaves one unit less
lemma slidingWindowLoop_refUnits (hp : a.Paired) (h : (a.slidingWindowLoop n).1 = true) :
    (a.slidingWindowLoop n).2.refUnits + n = a.refUnits := by
  induction n generalizing a with
  | zero => rfl
  | succ n ih =>
    rw [slidingWindowLoop] at h ⊢
    cases hv : a.dpbGetLowestFrameNumShortRef with
    | none =>
      rw [hv] at h
      cases h
    | some v =>
      rw [hv] at h
      obtain ⟨hmem, hr, -⟩ := lowestFrameNum_spec hv
      have hunmark := refUnits_unmark hp hmem (by simp [Picture.isRef, hr])
      have hroles := (marks_setReference (R := fun _ => True) v .none true a).toSameRoles
      have ih := ih (hp.of_roles hroles) h
      simp only at ih ⊢
      omega

end Store

/-- The sliding window makes room for a picture just when the marked units that it does not count, those marked in
the second field only, are none, or there was room before. -/
theorem sliding_window_post {P : Type} (env : Env P) (k : Phase) (s : Decoder P) (sps : GstH264SPS) (p : PicId)
    (hreach : ReflTransGen (Act env) (Phase.idle, Decoder.start env) (k, s)) (hp : (s.pic p).secondField = false)
    (hret : (s.store.slidingWindowPictureMarking (some sps) p).1 = true) :
    (s.store.slidingWindowPictureMarking (some sps) p).2.refUnits < max 1 sps.numRefFrames ↔
      s.store.refUnits < max 1 sps.numRefFrames ∨ s.store.FirstsMarked := by
  have hpair : s.store.Paired := paired_reach hreach
  have heq : s.store.slidingWindowPictureMarking (some sps) p =
      s.store.slidingWindowLoop (s.store.dpbNumRefFrames + 1 - max 1 sps.numRefFrames) := by
    unfold Store.slidingWindowPictureMarking
    rw [if_neg (by simpa [Decoder.pic] using hp)]
  rw [heq] at hret ⊢
  have hloop := Store.slidingWindowLoop_refUnits hpair hret
  have hle := s.store.dpbNumRefFrames_le
  rw [← Store.refUnits_le_iff]
  omega

-- a sequence of one reference frame; the first field of the first one is unmarked alone
def halfScript : Script where
  sps := [{ Script.interlaced with numRefFrames := 1 }]
  pps := [{}]
  slices := [{}, {
    fieldPicFlag := true
    frameNum := 1
    decRefPicMarking := {
      adaptiveRefPicMarkingModeFlag := true
      refPicMarking := [{ memoryManagementControlOperation := 1, differenceOfPicNumsMinus1 := 2 }] } }]

def halfInputs : List Input :=
  Script.frames [[Script.spsUnit 0, Script.ppsUnit 0, Script.idrUnit 0], [Script.sliceUnit 1]]

def halfEnd (n : Nat) : Decoder Tables := final (runInputs halfScript.env (halfInputs.take n) (Decoder.start halfScript.env))

def halfSps : GstH264SPS := { Script.interlaced with numRefFrames := 1 }

theorem sliding_window_post_frame :
    ((halfEnd 2).store.slidingWindowPictureMarking (some halfSps) (halfEnd 2).store.next).2.refUnits < 1 := by
  obtain ⟨k, hk⟩ := reach_final halfScript.env (halfInputs.take 2)
  exact (sliding_window_post halfScript.env k (halfEnd 2) halfSps (halfEnd 2).store.next hk (by decide +kernel)
    (by decide +kernel)).mpr (.inr (by decide +kernel))

theorem sliding_window_half :
    ((halfEnd 3).store.slidingWindowPictureMarking (some halfSps) (halfEnd 3).store.next).1 = true ∧
      ¬((halfEnd 3).store.slidingWindowPictureMarking (some halfSps) (halfEnd 3).store.next).2.refUnits < 1 := by
  decide +kernel

end VkVideoParser.H264
