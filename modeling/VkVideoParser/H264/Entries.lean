import VkVideoParser.H264.Links
import VkVideoParser.H264.References

/-! The fields that an entry of `dpb[]` shows: which of them are used for reference, and their order
counts. -/

namespace VkVideoParser.H264

open Execution Relation

variable {P : Type} {env : Env P} {s : Decoder P} {x : Phase × Decoder P} {u : Stored} {y : Picture}

/-- The picture is the field `f`, or a frame. -/
def covers (f : PictureField) (x : Picture) : Bool := decide (x.field = .frame) || decide (x.field = f)

/-- The field `f` of a stored frame, pair or lone field. -/
def fieldOf (f : PictureField) (u : Stored) : Option Picture :=
  if covers f u.2.1 then some u.2.1 else u.2.2.filter (covers f)

def fieldMarked (f : PictureField) (u : Stored) : Bool := (fieldOf f u).any Picture.isRef

-- 1 the top field, 2 the bottom field, 3 both
def markedFields (u : Stored) : Nat :=
  (fieldMarked .topField u).toNat + 2 * (fieldMarked .bottomField u).toNat

/-- The entry says which fields are marked and what their order counts are. -/
structure ShowsFields (u : Stored) (e : DpbEntry) : Prop where
  usedForReference : e.usedForReference = markedFields u
  top : e.fieldOrderCnt0 = ((fieldOf .topField u).map Picture.topFieldOrderCnt).getD 0
  bottom : e.fieldOrderCnt1 = ((fieldOf .bottomField u).map Picture.bottomFieldOrderCnt).getD 0

instance (u : Stored) (e : DpbEntry) : Decidable (ShowsFields u e) :=
  decidable_of_iff (e.usedForReference = markedFields u ∧
    e.fieldOrderCnt0 = ((fieldOf .topField u).map Picture.topFieldOrderCnt).getD 0 ∧
    e.fieldOrderCnt1 = ((fieldOf .bottomField u).map Picture.bottomFieldOrderCnt).getD 0)
    ⟨fun h => ⟨h.1, h.2.1, h.2.2⟩, fun h => ⟨h.usedForReference, h.top, h.bottom⟩⟩

/-- The picture has a buffer, is no lone top field, and both fields of a pair are marked. -/
structure MarkedWhole (u : Stored) : Prop where
  buffer : u.2.1.userData.isSome
  notLoneTop : u.2.1.field = .topField → u.2.2.isSome
  both : ∀ y, u.2.2 = some y → y.isRef

/-- A first field names the other field of its frame. -/
def FieldsPaired (stored : List Stored) : Prop :=
  ∀ u ∈ stored, u.2.1.secondField = false → ∀ y, u.2.2 = some y → Opposite y u.2.1

lemma fieldsPaired_startInfo (hl : Linked x) (p : PicId) (slice : GstH264Slice) :
    FieldsPaired (x.2.startInfo env p slice).stored := by
  intro u hu hs y hy
  obtain ⟨q, -, rfl⟩ := List.mem_map.mp hu
  obtain ⟨r, hr, rfl⟩ := Option.map_eq_some_iff.mp hy
  exact (hl.back q r hs hr).1

-- every picture that start_picture looks at is a first field or a frame, and marked
lemma mem_collected {stored : List Stored} (hu : u ∈ collected stored) :
    u ∈ stored ∧ u.2.1.secondField = false ∧ u.2.1.isRef := by
  rcases List.mem_append.mp hu with h | h
  · have h := List.mem_filter.mp (List.mem_of_mem_take h)
    simp only [Bool.and_eq_true, Bool.not_eq_true', decide_eq_true_eq] at h
    exact ⟨h.1, h.2.1.1, by simp [Picture.isRef, h.2.1.2]⟩
  · have h := List.mem_filter.mp (List.mem_of_mem_drop (List.mem_of_mem_take h))
    simp only [Bool.and_eq_true, Bool.not_eq_true', decide_eq_true_eq] at h
    exact ⟨h.1, h.2.1, by simp [Picture.isRef, h.2.2]⟩

section Entry

variable (hm : u.2.1.isRef)

include hm

lemma not_shown_without_buffer (h : u.2.1.userData = none) : ¬ShowsFields u (entryOf u) := by
  intro hs
  have hused := hs.usedForReference
  have hfield : fieldMarked .topField u ∨ fieldMarked .bottomField u := by
    cases hf : u.2.1.field <;> simp [fieldMarked, fieldOf, covers, hf, hm]
  simp only [entryOf, fillDbpEntry, h, markedFields] at hused
  rcases hfield with hf | hf
  · simp only [hf, Bool.toNat_true] at hused
    omega
  · simp only [hf, Bool.toNat_true] at hused
    omega

lemma shows_frame {vkpic : VkPic} (hv : u.2.1.userData = some vkpic) (hf : u.2.1.field = .frame) :
    ShowsFields u (entryOf u) := by
  refine ⟨?_, ?_, ?_⟩ <;>
  simp [entryOf, fillDbpEntry, hv, hf, markedFields, fieldMarked, fieldOf, covers, hm]

lemma shows_lone {vkpic : VkPic} (hv : u.2.1.userData = some vkpic) (hf : u.2.1.field ≠ .frame) (ho : u.2.2 = none) :
    ShowsFields u (entryOf u) ↔ u.2.1.field ≠ .topField := by
  cases hfield : u.2.1.field with
  | frame => exact absurd hfield hf
  | topField =>
    refine ⟨fun hs => ?_, fun hs => absurd rfl hs⟩
    have hused := hs.usedForReference
    simp [entryOf, fillDbpEntry, hv, hfield, ho, markedFields, fieldMarked, fieldOf, covers, hm] at hused
  | bottomField =>
    refine iff_of_true ⟨?_, ?_, ?_⟩ (by simp) <;>
    simp [entryOf, fillDbpEntry, hv, hfield, ho, markedFields, fieldMarked, fieldOf, covers, hm]

lemma shows_pair {vkpic : VkPic} (hv : u.2.1.userData = some vkpic) (ho : u.2.2 = some y) (h : Opposite y u.2.1) :
    ShowsFields u (entryOf u) ↔ y.isRef := by
  obtain ⟨hy, hu, hne⟩ := h
  have hcounts : entryOf u = { entryOf u with
      usedForReference := 3
      fieldOrderCnt0 := ((fieldOf .topField u).map Picture.topFieldOrderCnt).getD 0
      fieldOrderCnt1 := ((fieldOf .bottomField u).map Picture.bottomFieldOrderCnt).getD 0 } := by
    cases hfu : u.2.1.field <;> cases hfy : y.field <;>
    simp_all [entryOf, fillDbpEntry, fieldOf, covers, Option.filter]
  have hmarked : markedFields u = 3 ↔ y.isRef := by
    cases hfu : u.2.1.field <;> cases hfy : y.field <;> cases hr : y.isRef <;>
    simp_all [markedFields, fieldMarked, fieldOf, covers, Option.filter]
  rw [← hmarked, hcounts]
  exact ⟨fun hs => hs.usedForReference.symm, fun he => ⟨he.symm, rfl, rfl⟩⟩

-- when the entry of a marked picture says what is marked
lemma shows_iff (hp : ∀ y, u.2.2 = some y → Opposite y u.2.1) : ShowsFields u (entryOf u) ↔ MarkedWhole u := by
  cases hv : u.2.1.userData with
  | none =>
    refine iff_of_false (not_shown_without_buffer hm hv) fun h => ?_
    have hb := h.buffer
    rw [hv] at hb
    cases hb
  | some vkpic =>
    have hbuffer : u.2.1.userData.isSome := by rw [hv]; rfl
    cases ho : u.2.2 with
    | some y =>
      rw [shows_pair hm hv ho (hp y ho)]
      refine ⟨fun hr => ⟨hbuffer, fun _ => by rw [ho]; rfl, fun z hz => ?_⟩, fun h => h.both y ho⟩
      cases ho.symm.trans hz
      exact hr
    | none =>
      have hwhole : MarkedWhole u ↔ u.2.1.field ≠ .topField := by
        refine ⟨fun h ht => ?_, fun ht => ⟨hbuffer, fun h => absurd h ht, fun z hz => ?_⟩⟩
        · have hother := h.notLoneTop ht
          rw [ho] at hother
          cases hother
        · cases ho.symm.trans hz
      rw [hwhole]
      by_cases hf : u.2.1.field = .frame
      · exact iff_of_true (shows_frame hm hv hf) (by simp [hf])
      · exact shows_lone hm hv hf ho

end Entry

/-- Every entry that start_picture fills shows the marked fields and the order counts exactly when the
picture has a buffer, is no lone top field and is marked in both fields when it has both. -/
theorem entries_marked (env : Env P) (inputs : List Input) (info : StartInfo)
    (hi : info ∈ startInfos (final (runInputs env inputs (Decoder.start env))).store.log) (i : Nat) (u : Stored)
    (hu : (collected info.stored)[i]? = some u) :
    ∃ e, info.dpb[i]? = some e ∧ (ShowsFields u e ↔ MarkedWhole u) := by
  obtain ⟨k, hk⟩ := reach_final env inputs
  have hpaired : FieldsPaired info.stored :=
    startInfos_all (Q := fun info => FieldsPaired info.stored)
      (fun _ hreach p slice _ _ => fieldsPaired_startInfo (linked_reach hreach) p slice) hk hi
  obtain ⟨hstored, hsec, hm⟩ := mem_collected (List.mem_of_getElem? hu)
  exact ⟨entryOf u, (collects_all hk hi).entry hu, shows_iff hm (hpaired u hstored hsec)⟩

section Examples

-- an IDR picture of one top field, then a frame
def loneTopScript : Script where
  sps := [Script.interlaced]
  pps := [{}]
  slices := [{ fieldPicFlag := true }, { frameNum := 1, picOrderCntLsb := 4 }]

def loneTopInputs : List Input := Script.frames
  [[Script.spsUnit 0, Script.ppsUnit 0, Script.idrUnit 0], [Script.sliceUnit 1]]

def loneTopStarts : List StartInfo :=
  startInfos (final (runInputs loneTopScript.env loneTopInputs (Decoder.start loneTopScript.env))).store.log

-- the top field is shown as a bottom field
theorem loneTop_mismarked : ¬∀ info ∈ loneTopStarts, ∀ u ∈ (collected info.stored).zip info.dpb,
    ShowsFields u.1 u.2 := by decide +kernel

def loneTopSecond : StartInfo := loneTopStarts.get ⟨0, by decide +kernel⟩

theorem entries_marked_second : ∃ e, loneTopSecond.dpb[0]? = some e ∧
    (ShowsFields ((collected loneTopSecond.stored).get ⟨0, by decide +kernel⟩) e ↔
      MarkedWhole ((collected loneTopSecond.stored).get ⟨0, by decide +kernel⟩)) :=
  entries_marked loneTopScript.env loneTopInputs loneTopSecond (List.get_mem ..) 0 _ (List.getElem?_eq_getElem _)

end Examples

end VkVideoParser.H264
