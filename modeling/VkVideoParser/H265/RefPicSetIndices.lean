import VkVideoParser.H265.RefPicArrays
import Mathlib.Data.List.Nodup

/-! The places of the pictures of the sets among the references that DecodePicture is given. Missing pictures are
passed over, so that the entries behind them stand too early and the last ones name the first reference. -/

namespace VkVideoParser.H265

open Execution Relation Histories

variable {P : Type} {env : Env P} {s : Decoder P} {log : List Event} {p q : PicId} {slice : GstH265Slice}
  {active : Activation} {vps : GstH265VPS} {source : ParamSource} {set : List (Option PicId)} {x : Picture} {i k : Nat}

/-- The entry `k` of the three arrays is that of a picture stored in the DPB. -/
def HevcPictureData.Describes (hevc : HevcPictureData) (info : StartInfo) (k : Nat) (q : PicId) : Prop :=
  ∃ x ∈ info.stored.lookup q, (x.userData.map VkPic.pic).isSome ∧ hevc.refPics[k]? = some (x.userData.map VkPic.pic) ∧
    hevc.picOrderCntVal[k]? = some x.picOrderCnt ∧ hevc.isLongTerm[k]? = some x.longTerm

/-- The array of eight places has one of the picture at its position, and none of a picture where one is missing. -/
def EntryRight (hevc : HevcPictureData) (info : StartInfo) (indices : List Nat) : Option PicId × Nat → Prop
  | (some q, i) => ∃ k ∈ (indices.take 8)[i]?, hevc.Describes info k q
  | (none, i) => ∀ k ∈ (indices.take 8)[i]?, hevc.refPics.getD k none = none

/-- The three arrays of places are right for every picture of the sets. -/
structure IndicesRight (hevc : HevcPictureData) (info : StartInfo) : Prop where
  before : ∀ a ∈ info.refPicSets.stCurrBefore.zipIdx, EntryRight hevc info hevc.refPicSetStCurrBefore a
  after : ∀ a ∈ info.refPicSets.stCurrAfter.zipIdx, EntryRight hevc info hevc.refPicSetStCurrAfter a
  longTerm : ∀ a ∈ info.refPicSets.ltCurr.zipIdx, EntryRight hevc info hevc.refPicSetLtCurr a

def StartInfo.DistinctPocs (info : StartInfo) : Prop := (info.listed.map fun a => a.2.picOrderCnt).Nodup

/-- The first eight pictures of a set are there, and none behind them. No more are named than are stored, but for the
first reference. -/
def StartInfo.Leading (info : StartInfo) (set : List (Option PicId)) : Prop :=
  ∀ a ∈ set.zipIdx, (a.1.isSome ↔ a.2 < 8) ∧
    ∀ q ∈ a.1, a.2 < info.listed.length ∨ info.listed.head?.map Prod.fst = some q

def StartInfo.NoneMissing (info : StartInfo) : Prop :=
  info.listed = [] ∨ ∀ set ∈ info.refPicSets.current, info.Leading set

section Decidable

variable (hevc : HevcPictureData) (info : StartInfo)

instance (k : Nat) (q : PicId) : Decidable (hevc.Describes info k q) :=
  inferInstanceAs (Decidable (∃ x ∈ info.stored.lookup q, _))

instance (indices : List Nat) : (a : Option PicId × Nat) → Decidable (EntryRight hevc info indices a)
  | (some q, i) => inferInstanceAs (Decidable (∃ k ∈ (indices.take 8)[i]?, hevc.Describes info k q))
  | (none, i) => inferInstanceAs (Decidable (∀ k ∈ (indices.take 8)[i]?, hevc.refPics.getD k none = none))

instance : Decidable (IndicesRight hevc info) :=
  decidable_of_iff (_ ∧ _ ∧ _) ⟨fun h => ⟨h.1, h.2.1, h.2.2⟩, fun h => ⟨h.before, h.after, h.longTerm⟩⟩

instance : Decidable info.DistinctPocs := inferInstanceAs (Decidable (List.Nodup _))

end Decidable

section Lists

variable {α β : Type} {l : List α}

lemma padTo_getElem? (n : Nat) (a : α) (l : List α) (i : Nat) :
    (padTo n a l)[i]? = if i < l.length then l[i]? else if i < n then some a else none := by
  rw [padTo, List.getElem?_append]
  split_ifs with hl hn
  · rfl
  · rw [List.getElem?_replicate, if_pos (by omega)]
  · rw [List.getElem?_replicate, if_neg (by omega)]

-- where nothing is missing up to a position, nothing has moved there
lemma present_getElem? {m : List (Option α)} (h : ∀ j ≤ i, m[j]? ≠ some none) : (m.filterMap id)[i]? = m[i]?.join := by
  induction m generalizing i with
  | nil => rfl
  | cons o m ih =>
    cases o with
    | none => exact absurd rfl (h 0 (Nat.zero_le i))
    | some a =>
      cases i with
      | zero => rfl
      | succ i => exact ih fun j hj => h (j + 1) (Nat.succ_le_succ hj)

-- a list with none of its elements there from a place on
lemma length_present_le {n : Nat} {m : List (Option α)} (h : ∀ a ∈ m.zipIdx, a.1.isSome → a.2 < n) :
    (m.filterMap id).length ≤ n := by
  have hbehind : (m.drop n).filterMap id = [] := by
    refine List.filterMap_eq_nil_iff.mpr fun o ho => Option.eq_none_iff_forall_ne_some.mpr ?_
    rintro a rfl
    obtain ⟨j, hj⟩ := List.mem_iff_getElem?.mp ho
    rw [List.getElem?_drop] at hj
    exact absurd (h (some a, n + j) (List.mk_mem_zipIdx_iff_getElem?.mpr hj) rfl) (by simp)
  rw [← List.take_append_drop n m, List.filterMap_append, hbehind, List.append_nil]
  exact (List.length_filterMap_le _ _).trans (List.length_take_le _ _)

-- the first entry of `PicOrderCntVal` for a picture
def refPicIndex (pocs : List Int) (poc : Int) : Nat := (pocs.findIdx? fun x => x = poc).getD 0

-- among distinct order counts the one of a picture leads back to it
lemma refPicIndex_getElem? {f : α → Int} (hd : (l.map f).Nodup) {a : α} (ha : a ∈ l) :
    l[refPicIndex (l.map f) (f a)]? = some a := by
  have hsome : ((l.map f).findIdx? fun x => x = f a).isSome := by
    rw [List.findIdx?_isSome, List.any_eq_true]
    exact ⟨f a, List.mem_map_of_mem ha, by simp⟩
  obtain ⟨n, hn⟩ := Option.isSome_iff_exists.mp hsome
  obtain ⟨hlt, hval, -⟩ := List.findIdx?_eq_some_iff_getElem.mp hn
  have hlt : n < l.length := by simpa using hlt
  have hval : f l[n] = f a := by simpa using hval
  have heq : l[n] = a := List.inj_on_of_nodup_map hd (List.getElem_mem hlt) ha hval
  rw [refPicIndex, hn, Option.getD_some, List.getElem?_eq_getElem hlt, heq]

end Lists

section Arrays

/-- The order counts of the references. -/
def Decoder.listedPocs (s : Decoder P) : List Int := s.store.listedRefs.map fun q => (s.pic q).picOrderCnt

lemma take_listedRefs (hs : Listable s) : s.store.listedRefs.take 16 = s.store.listedRefs :=
  List.take_of_length_le (by simpa [tooManyRefs] using hs.few)

lemma describes_iff (hs : Listable s) (hd : s.listedPocs.Nodup) (hq : q ∈ s.store.listedRefs) :
    (hevcPictureData s x slice active vps source).Describes (s.startInfo env p slice) k q ↔
      s.store.listedRefs[k]? = some q := by
  have hbuf := hs.buffers q hq
  simp only [HevcPictureData.Describes, lookup_startInfo hq, hevcPictureData, take_listedRefs hs, padTo_getElem?,
    Option.mem_some_iff, exists_eq_left', List.length_map, Option.isSome_map, hbuf, true_and]
  constructor
  · rintro ⟨hpic, hpoc, -⟩
    by_cases hk : k < s.store.listedRefs.length
    · rw [if_pos hk, List.getElem?_map, List.getElem?_eq_getElem hk] at hpoc
      have heq : s.store.listedRefs[k] = q :=
        List.inj_on_of_nodup_map hd (List.getElem_mem hk) hq (Option.some.inj hpoc)
      rw [List.getElem?_eq_getElem hk, heq]
    · rw [if_neg hk] at hpic
      obtain ⟨v, hv⟩ := Option.isSome_iff_exists.mp hbuf
      rw [hv] at hpic
      split at hpic <;> cases hpic
  · intro hk
    have hlt : k < s.store.listedRefs.length := (List.getElem?_eq_some_iff.mp hk).1
    simp only [if_pos hlt, List.getElem?_map, hk]
    exact ⟨rfl, rfl, rfl⟩

lemma noPicture_iff (hs : Listable s) :
    (hevcPictureData s x slice active vps source).refPics.getD k none = none ↔ s.store.listedRefs.length ≤ k := by
  simp only [hevcPictureData, take_listedRefs hs, List.getD_eq_getElem?_getD, padTo_getElem?, List.length_map]
  constructor
  · intro h
    by_contra hk
    have hlt : k < s.store.listedRefs.length := by omega
    obtain ⟨v, hv⟩ := Option.isSome_iff_exists.mp (hs.buffers _ (List.getElem_mem hlt))
    rw [if_pos hlt, List.getElem?_map, List.getElem?_eq_getElem hlt, Option.map_some, hv] at h
    cases h
  · intro h
    rw [if_neg (by omega)]
    split <;> rfl

/-- What the loop over a set writes, entry by entry. -/
def Decoder.setIndices (s : Decoder P) (set : List (Option PicId)) : List Nat :=
  ((set.filterMap id).take s.listedPocs.length).map fun q => refPicIndex s.listedPocs (s.pic q).picOrderCnt

lemma length_setIndices_le : (s.setIndices set).length ≤ (set.filterMap id).length := by
  rw [Decoder.setIndices, List.length_map]
  exact List.length_take_le' _ _

lemma refPicSetWrites_eq (hset : ∀ q ∈ set.filterMap id, q ∈ s.store.listedRefs) :
    refPicSetWrites s s.listedPocs set = (s.setIndices set).zipIdx := by
  refine Writes.compact_of_found (fun q hq => ?_) 0
  rw [List.findIdx?_isSome, List.any_eq_true]
  exact ⟨_, List.mem_map_of_mem (hset q hq), by simp⟩

/-- An array of eight entries, filled from its beginning. -/
def FilledWith (values indices : List Nat) : Prop := ∀ i < 8, (indices.take 8)[i]? = some (values[i]?.getD 0)

lemma filled_getElem?_of_le {indices : List Nat} (hi : 8 ≤ i) : (indices.take 8)[i]? = none :=
  List.getElem?_eq_none ((List.length_take_le _ _).trans hi)

/-- Loops that stay in their arrays fill them. -/
lemma filled_arrays (hs : Listable s)
    (hset : ∀ set ∈ s.refPicSets.current, ∀ q ∈ set.filterMap id, q ∈ s.store.listedRefs)
    (hfit : ∀ set ∈ s.refPicSets.current, (s.setIndices set).length ≤ 8) :
    FilledWith (s.setIndices s.refPicSets.stCurrBefore)
        (hevcPictureData s x slice active vps source).refPicSetStCurrBefore ∧
      FilledWith (s.setIndices s.refPicSets.stCurrAfter)
        (hevcPictureData s x slice active vps source).refPicSetStCurrAfter ∧
      FilledWith (s.setIndices s.refPicSets.ltCurr) (hevcPictureData s x slice active vps source).refPicSetLtCurr := by
  have hb : s.refPicSets.stCurrBefore ∈ s.refPicSets.current := List.mem_cons_self
  have ha : s.refPicSets.stCurrAfter ∈ s.refPicSets.current := List.mem_cons_of_mem _ List.mem_cons_self
  have hl : s.refPicSets.ltCurr ∈ s.refPicSets.current :=
    List.mem_cons_of_mem _ (List.mem_cons_of_mem _ List.mem_cons_self)
  have hpocs : ((s.store.listedRefs.take 16).map fun q => (s.pic q).picOrderCnt) = s.listedPocs := by
    rw [take_listedRefs hs]
    rfl
  have hfb := hfit _ hb
  have hfa := hfit _ ha
  have hfl := hfit _ hl
  have hbytes : ∀ j < 24, (refPicSetBytes s s.listedPocs (fieldsBehind active vps))[j]? =
      some ((if j < 8 then (s.setIndices s.refPicSets.stCurrBefore)[j]?
        else if j < 16 then (s.setIndices s.refPicSets.stCurrAfter)[j - 8]?
        else (s.setIndices s.refPicSets.ltCurr)[j - 16]?).getD 0) := by
    intro j hj
    have hlen : (List.replicate 24 0 ++ fieldsBehind active vps).length = 28 := rfl
    have hzero : (List.replicate 24 0 ++ fieldsBehind active vps)[j]? = some 0 := by
      rw [List.getElem?_append_left (by simpa using hj), List.getElem?_replicate, if_pos hj]
    rw [refPicSetBytes, refPicSetWrites_eq (hset _ hb), refPicSetWrites_eq (hset _ ha), refPicSetWrites_eq (hset _ hl)]
    simp only [Writes.into_zipIdx_getElem?, Writes.length_into, hlen, hzero, Nat.add_zero, Nat.zero_add, Nat.sub_zero]
    grind
  simp only [FilledWith, hevcPictureData, hs.few, Bool.false_eq_true, if_false, hpocs]
  refine ⟨fun i hi => ?_, fun i hi => ?_, fun i hi => ?_⟩
  · rw [List.take_take, Nat.min_self, List.getElem?_take_of_lt hi, hbytes i (by omega), if_pos hi]
  · rw [List.take_take, Nat.min_self, List.getElem?_take_of_lt hi, List.getElem?_drop, hbytes (8 + i) (by omega),
      if_neg (by omega), if_pos (by omega), Nat.add_sub_cancel_left]
  · rw [List.take_take, Nat.min_self, List.getElem?_take_of_lt hi, List.getElem?_drop, hbytes (16 + i) (by omega),
      if_neg (by omega), if_neg (by omega), Nat.add_sub_cancel_left]

end Arrays

section Entries

lemma mem_of_position {m : List (Option PicId)} (h : m[i]? = some (some q)) : q ∈ m.filterMap id :=
  List.mem_filterMap.mpr ⟨some q, List.mem_of_getElem? h, rfl⟩

lemma leading_present (h : (s.startInfo env p slice).Leading set) {j : Nat} (hj : j < 8) : set[j]? ≠ some none := by
  intro hnone
  exact absurd ((h (none, j) (List.mk_mem_zipIdx_iff_getElem?.mpr hnone)).1.mpr hj) (by simp)

lemma head?_listed : (s.startInfo env p slice).listed.head?.map Prod.fst = s.store.listedRefs.head? := by
  rw [listed_startInfo, List.head?_map, Option.map_map]
  exact congrFun Option.map_id _

variable {indices : List Nat}

/-- The entry of a picture that leads, and that of no picture behind. -/
lemma entryRight_of_leading (hs : Listable s) (hd : s.listedPocs.Nodup) (hfill : FilledWith (s.setIndices set) indices)
    (hset : ∀ q ∈ set.filterMap id, q ∈ s.store.listedRefs) (h : (s.startInfo env p slice).Leading set)
      {a : Option PicId × Nat} (ha : a ∈ set.zipIdx) :
    EntryRight (hevcPictureData s x slice active vps source) (s.startInfo env p slice) indices a := by
  obtain ⟨o, i⟩ := a
  obtain ⟨hpres, hfew⟩ := h _ ha
  have hget : set[i]? = some o := List.mk_mem_zipIdx_iff_getElem?.mp ha
  cases o with
  | none =>
    intro k hk
    have hi : 8 ≤ i := by
      by_contra hi
      exact absurd (hpres.mpr (by simpa using hi)) (by simp)
    rw [filled_getElem?_of_le hi] at hk
    cases hk
  | some q =>
    have hi : i < 8 := hpres.mp rfl
    have hq : q ∈ s.store.listedRefs := hset q (mem_of_position hget)
    have hkeep : (set.filterMap id)[i]? = some q := by
      rw [present_getElem? fun j hj => leading_present h (hj.trans_lt hi), hget]
      rfl
    refine ⟨_, hfill i hi, (describes_iff hs hd hq).mpr ?_⟩
    have hlen : s.listedPocs.length = s.store.listedRefs.length := List.length_map _
    rw [Decoder.setIndices, List.getElem?_map]
    by_cases hlt : i < s.store.listedRefs.length
    · rw [List.getElem?_take_of_lt (hlen ▸ hlt), hkeep]
      exact refPicIndex_getElem? hd hq
    · rw [List.getElem?_eq_none ((List.length_take_le _ _).trans (by omega))]
      rcases hfew q rfl with hlt' | hhead
      · exact absurd (length_listed ▸ hlt') hlt
      · rw [head?_listed] at hhead
        rw [← hhead]
        exact List.head?_eq_getElem?.symm

/-- With a reference stored every entry of the array names one. -/
lemma names_of_lt (hd : s.listedPocs.Nodup) (hfill : FilledWith (s.setIndices set) indices)
    (hset : ∀ q ∈ set.filterMap id, q ∈ s.store.listedRefs) (hne : s.store.listedRefs ≠ []) (hi : i < 8)
    (hk : k ∈ (indices.take 8)[i]?) : k < s.store.listedRefs.length := by
  rw [hfill i hi, Decoder.setIndices, List.getElem?_map] at hk
  cases hk
  cases hq : ((set.filterMap id).take s.listedPocs.length)[i]? with
  | none => exact List.length_pos_of_ne_nil hne
  | some q =>
    have hmem := hset q (List.mem_of_mem_take (List.mem_of_getElem? hq))
    exact (List.getElem?_eq_some_iff.mp (refPicIndex_getElem? hd hmem)).1

lemma leading_of_entryRight (hs : Listable s) (hd : s.listedPocs.Nodup) (hfill : FilledWith (s.setIndices set) indices)
    (hset : ∀ q ∈ set.filterMap id, q ∈ s.store.listedRefs) (hne : s.store.listedRefs ≠ [])
    (h : ∀ a ∈ set.zipIdx, EntryRight (hevcPictureData s x slice active vps source) (s.startInfo env p slice)
      indices a) : (s.startInfo env p slice).Leading set := by
  have hpres : ∀ i o, set[i]? = some o → (o.isSome ↔ i < 8) := by
    intro i o hget
    have hentry := h (o, i) (List.mk_mem_zipIdx_iff_getElem?.mpr hget)
    cases o with
    | none =>
      refine ⟨fun hf => absurd hf (by simp), fun hi => ?_⟩
      have hk := hfill i hi
      have hlt := names_of_lt hd hfill hset hne hi hk
      have hnone := (noPicture_iff hs).mp (hentry _ hk)
      omega
    | some q =>
      obtain ⟨k, hk, -⟩ := hentry
      refine ⟨fun _ => ?_, fun _ => rfl⟩
      by_contra hi
      rw [filled_getElem?_of_le (by omega)] at hk
      cases hk
  rintro ⟨o, i⟩ ha
  have hget : set[i]? = some o := List.mk_mem_zipIdx_iff_getElem?.mp ha
  refine ⟨hpres i o hget, ?_⟩
  rintro q ⟨⟩
  have hi : i < 8 := (hpres i _ hget).mp rfl
  have hq : q ∈ s.store.listedRefs := hset q (mem_of_position hget)
  obtain ⟨k, hk, hdesc⟩ := h _ ha
  have hname := (describes_iff hs hd hq).mp hdesc
  rw [hfill i hi, Decoder.setIndices, List.getElem?_map] at hk
  cases hk
  have hlen : s.listedPocs.length = s.store.listedRefs.length := List.length_map _
  by_cases hlt : i < s.store.listedRefs.length
  · exact .inl (length_listed ▸ hlt)
  · rw [List.getElem?_eq_none ((List.length_take_le _ _).trans (by omega))] at hname
    rw [head?_listed, ← hname]
    exact .inr List.head?_eq_getElem?

/-- The array of a set is right exactly when nothing of it is missing. -/
lemma entries_iff (hs : Listable s) (hd : s.listedPocs.Nodup) (hfill : FilledWith (s.setIndices set) indices)
    (hset : ∀ q ∈ set.filterMap id, q ∈ s.store.listedRefs) :
    (∀ a ∈ set.zipIdx, EntryRight (hevcPictureData s x slice active vps source) (s.startInfo env p slice)
      indices a) ↔ s.store.listedRefs = [] ∨ (s.startInfo env p slice).Leading set := by
  by_cases hnil : s.store.listedRefs = []
  · refine ⟨fun _ => .inl hnil, fun _ => ?_⟩
    rintro ⟨o, i⟩ ha
    cases o with
    | none => exact fun k _ => (noPicture_iff hs).mpr (by simp [hnil])
    | some q =>
      have hq := hset q (mem_of_position (List.mk_mem_zipIdx_iff_getElem?.mp ha))
      rw [hnil] at hq
      cases hq
  · rw [or_iff_right hnil]
    exact ⟨leading_of_entryRight hs hd hfill hset hnil, fun h a ha => entryRight_of_leading hs hd hfill hset h ha⟩

end Entries

-- an array that is right has the pictures of its set at the first eight positions
lemma few_of_right {hevc : HevcPictureData} {info : StartInfo} {indices : List Nat}
    (h : ∀ a ∈ set.zipIdx, EntryRight hevc info indices a) : (set.filterMap id).length ≤ 8 := by
  refine length_present_le fun a ha hsome => ?_
  obtain ⟨o, i⟩ := a
  cases o with
  | none => cases hsome
  | some q =>
    obtain ⟨k, hk, -⟩ := h _ ha
    by_contra hi
    rw [filled_getElem?_of_le (Nat.le_of_not_lt hi)] at hk
    cases hk

-- nor has a set more of them that leads
lemma few_of_noneMissing (h : (s.startInfo env p slice).NoneMissing) (hset : set ∈ s.refPicSets.current) :
    (s.setIndices set).length ≤ 8 := by
  rcases h with hnil | hlead
  · rw [listed_startInfo, List.map_eq_nil_iff] at hnil
    rw [Decoder.setIndices, Decoder.listedPocs, hnil]
    exact Nat.zero_le 8
  · exact length_setIndices_le.trans (length_present_le fun a ha hsome => ((hlead set hset a ha).1.mp hsome))

lemma noneMissing_iff : (s.startInfo env p slice).NoneMissing ↔
    ∀ set ∈ s.refPicSets.current, s.store.listedRefs = [] ∨ (s.startInfo env p slice).Leading set := by
  rw [StartInfo.NoneMissing, listed_startInfo, List.map_eq_nil_iff]
  by_cases hl : s.store.listedRefs = []
  · simp only [hl, true_or, implies_true]
  · simp only [hl, false_or]
    rfl

lemma indicesRight_iff (hs : Listable s) (hd : s.listedPocs.Nodup) (hlisted : SetsListed s) :
    IndicesRight (hevcPictureData s x slice active vps source) (s.startInfo env p slice) ↔
      (s.startInfo env p slice).NoneMissing := by
  have hset : ∀ set ∈ s.refPicSets.current, ∀ q ∈ set.filterMap id, q ∈ s.store.listedRefs :=
    fun set hm q hq => hlisted q (mem_pictures_of_current hm hq)
  have hcurrent : ∀ {C : List (Option PicId) → Prop}, (∀ set ∈ s.refPicSets.current, C set) ↔
      C s.refPicSets.stCurrBefore ∧ C s.refPicSets.stCurrAfter ∧ C s.refPicSets.ltCurr := by
    intro C
    simp only [RefPicSets.current, List.forall_mem_cons, List.not_mem_nil, false_implies, implies_true, and_true]
  -- once the loops stay in their arrays, the arrays are those of the sets
  have hiff : (∀ set ∈ s.refPicSets.current, (s.setIndices set).length ≤ 8) →
      (IndicesRight (hevcPictureData s x slice active vps source) (s.startInfo env p slice) ↔
        (s.startInfo env p slice).NoneMissing) := by
    intro hfit
    obtain ⟨hb, ha, hl⟩ : FilledWith (s.setIndices s.refPicSets.stCurrBefore)
        (hevcPictureData s x slice active vps source).refPicSetStCurrBefore ∧ _ ∧ _ := filled_arrays hs hset hfit
    obtain ⟨hsb, hsa, hsl⟩ := hcurrent.mp hset
    rw [noneMissing_iff, hcurrent, ← entries_iff hs hd hb hsb, ← entries_iff hs hd ha hsa, ← entries_iff hs hd hl hsl]
    exact ⟨fun h => ⟨h.before, h.after, h.longTerm⟩, fun h => ⟨h.1, h.2.1, h.2.2⟩⟩
  constructor
  · intro h
    refine (hiff (hcurrent.mpr ⟨?_, ?_, ?_⟩)).mp h
    · exact length_setIndices_le.trans (few_of_right h.before)
    · exact length_setIndices_le.trans (few_of_right h.after)
    · exact length_setIndices_le.trans (few_of_right h.longTerm)
  · intro h
    exact (hiff fun set hm => few_of_noneMissing h hm).mpr h

/-- At every DecodePicture call, the order counts of the references being distinct, the places of the pictures of the
sets are right exactly when none of these pictures is missing. -/
theorem refPicSets_indexed (env : Env P) (inputs : List Input) :
    Always (fun l e => ∀ d ∈ e.decodeCall, ∀ a ∈ startOf d.picture l, a.1.DistinctPocs →
        (IndicesRight d.data.hevc a.1 ↔ a.1.NoneMissing))
      (final (runInputs env inputs (Decoder.start env))).store.log := by
  refine always_shown env inputs fun l d s slice vps v _ h a ha hd => ?_
  cases h.start.symm.trans ha
  have hevc : d.data.hevc = hevcPictureData s (s.pic d.picture) slice (s.activation env slice.header.pps) vps
      (s.paramSource env) := congrArg PictureData.hevc h.data
  have hd : s.listedPocs.Nodup := by
    rw [StartInfo.DistinctPocs, listed_startInfo, List.map_map] at hd
    exact hd
  rw [hevc]
  exact indicesRight_iff h.listable hd h.setsListed

section Examples

-- the slice names the order counts 1 and 0, of which there is only the second
def lossScript : Script where
  vps := [{}]
  sps := [{ vps := some 0 }]
  pps := [{}]
  slices := [{ firstSliceSegmentInPicFlag := true },
    { firstSliceSegmentInPicFlag := true, picOrderCntLsb := 2,
      shortTermRefPicSets := { negativePics := [⟨-1, true⟩, ⟨-2, true⟩] } }]

def lossLog : List Event :=
  (final (runInputs lossScript.env (Script.frames
    [[Script.vpsUnit 0, Script.spsUnit 0, Script.ppsUnit 0, Script.idrUnit 0], [Script.trailUnit 1]])
    (Decoder.start lossScript.env))).store.log

theorem refPicSets_shifted : ¬Always (fun l e => ∀ d ∈ e.decodeCall, ∀ a ∈ startOf d.picture l, a.1.DistinctPocs →
    IndicesRight d.data.hevc a.1) lossLog := by decide +kernel

end Examples

end VkVideoParser.H265
