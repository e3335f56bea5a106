import Mathlib.Data.Int.Order.Basic
import Mathlib.Data.List.Nodup
import Mathlib.Data.List.Perm.Subperm
import VkVideoParser.Library.Lowest
import VkVideoParser.Library.Reordering
import VkVideoParser.H265.Moves

/-! What is in the DPB: every picture once, and as many that wait as are counted. -/

namespace VkVideoParser.H265

open Lowest Reordering

variable {P : Type} {env : Env P} {k : Phase} {s t : Decoder P} {x y : Phase × Decoder P} {p q : PicId}

-- the last entry replaces the one removed
lemma removeIndexFast_perm {l : List PicId} {i : Nat} (h : l[i]? = some p) :
    (p :: Store.removeIndexFast l i).Perm l := by
  rcases List.eq_nil_or_concat l with rfl | ⟨l, q, rfl⟩
  · cases h
  rw [List.concat_eq_append] at h ⊢
  obtain ⟨hi, hp⟩ := List.getElem?_eq_some_iff.mp h
  have hlast : Store.removeIndexFast (l ++ [q]) i = ((l ++ [q]).set i q).dropLast := by
    rw [Store.removeIndexFast, List.getLast?_concat]
  rw [hlast]
  by_cases hlt : i < l.length
  · rw [List.getElem_append_left hlt] at hp
    rw [List.set_append_left i q hlt, List.dropLast_concat]
    have hset : (l.set i q).Perm (q :: l.eraseIdx i) := List.set_perm_cons_eraseIdx hlt q
    have herase : (p :: l.eraseIdx i).Perm l := hp ▸ List.getElem_cons_eraseIdx_perm hlt
    calc (p :: l.set i q).Perm (p :: q :: l.eraseIdx i) := hset.cons p
      _ |>.Perm (q :: p :: l.eraseIdx i) := .swap q p _
      _ |>.Perm (q :: l) := herase.cons q
      _ |>.Perm (l ++ [q]) := (List.perm_append_singleton q l).symm
  · obtain rfl : i = l.length := by
      rw [List.length_append, List.length_singleton] at hi
      omega
    rw [List.getElem_concat_length rfl] at hp
    rw [List.set_append_right _ q (Nat.le_refl _), Nat.sub_self, List.set_cons_zero, List.dropLast_concat, hp]
    exact (List.perm_append_singleton p l).symm

lemma nodup_of_subperm {l l' : List PicId} (h : l'.Subperm l) (hl : l.Nodup) : l'.Nodup := by
  obtain ⟨m, hm, hsub⟩ := h
  exact hm.nodup_iff.mp (hl.sublist hsub)

-- an IRAP picture with NoRaslOutputFlag begins a coded video sequence
def StoreInfo.opening (info : StoreInfo) : Opening :=
  if info.picture.intraPicFlag && info.picture.noRaslOutputFlag then
    if info.stored.any fun x => x.neededForOutput then .dirty else .clean
  else .none

/-- What the events say of the pictures that come to the DPB, and of those that leave it for the reordering. -/
def Event.step : Event → Option (Step Int)
  | .storing info => some (.come info.opening info.picture.outputFlag info.picture.picOrderCnt)
  | .bumping info => if info.forReorder then info.lowest.map fun x => .take info.maxNumReorderPics x.picOrderCnt else none
  | _ => none

def steps (log : List Event) : List (Step Int) := log.filterMap Event.step

namespace Store

variable {a b c : Store}

def waits (a : Store) (q : PicId) : Bool := (a.pic q).neededForOutput

def poc (a : Store) (q : PicId) : Int := (a.pic q).picOrderCnt

lemma lowest_eq (a : Store) :
    a.dpbGetLowestOutputNeededPicture = lowestFrom a.waits a.poc 0 a.dpb.picList none := by
  have hfrom : ∀ (l : List PicId) (i : Nat) (o : Option (Nat × PicId)),
      lowestOutputNeededFrom a.pic i l o = lowestFrom a.waits a.poc i l o := by
    intro l
    induction l with
    | nil => exact fun _ _ => rfl
    | cons q l ih =>
      intro i o
      refine (ih (i + 1) _).trans (congrArg (lowestFrom a.waits a.poc (i + 1) l) ?_)
      cases o <;> rfl
  exact hfrom _ 0 none

lemma isLowest {i : Nat} (h : a.dpbGetLowestOutputNeededPicture = some (i, p)) :
    IsLowest a.waits a.poc a.dpb.picList i p := by
  have : Found a.waits a.poc a.dpb.picList _ := found_lowestFrom a.dpb.picList
  rw [← lowest_eq, h] at this
  exact this

lemma none_waits (h : a.dpbGetLowestOutputNeededPicture = none) : ∀ q ∈ a.dpb.picList, a.waits q = false := by
  have : Found a.waits a.poc a.dpb.picList _ := found_lowestFrom a.dpb.picList
  rw [← lowest_eq, h] at this
  exact this

/-- Both stores have the same DPB, the same pictures wait, and nothing was said of the DPB. -/
structure SameNeeds (a b : Store) : Prop where
  dpb : b.dpb = a.dpb
  waits : b.waits = a.waits
  steps : steps b.log = steps a.log

lemma SameNeeds.refl (a : Store) : SameNeeds a a := ⟨rfl, rfl, rfl⟩

lemma SameNeeds.trans (h : SameNeeds a b) (h' : SameNeeds b c) : SameNeeds a c :=
  ⟨h'.dpb.trans h.dpb, h'.waits.trans h.waits, h'.steps.trans h.steps⟩

lemma sameNeeds_modifyPic {f : Picture → Picture} (hf : ∀ x, (f x).neededForOutput = x.neededForOutput) (p : PicId)
    (a : Store) : SameNeeds a (a.modifyPic p f) := by
  refine ⟨rfl, funext fun q => ?_, rfl⟩
  rw [waits, modifyPic_pic]
  split
  · rename_i hq
    rw [hf, hq]
    rfl
  · rfl

lemma sameNeeds_foldl {f : PicId → Store → Store} (h : ∀ p a, SameNeeds a (f p a)) (l : List PicId) (a : Store) :
    SameNeeds a (l.foldl (fun s p => f p s) a) := by
  induction l generalizing a with
  | nil => exact .refl a
  | cons p l ih => exact (h p a).trans (ih _)

lemma vkPicFree_steps (p : PicId) (a : Store) : H265.steps (a.vkPicFree p).log = H265.steps a.log := by
  unfold vkPicFree
  split <;> rfl

lemma unref_steps (p : PicId) (a : Store) : H265.steps (a.unref p).log = H265.steps a.log := by
  unfold unref
  split
  · rfl
  · exact vkPicFree_steps p _
  · rfl

lemma sameNeeds_unref (p : PicId) (a : Store) : SameNeeds a (a.unref p) := by
  refine ⟨unref_dpb p a, ?_, unref_steps p a⟩
  unfold unref
  split
  · rfl
  · have hfree : ∀ b : Store, (b.vkPicFree p).waits = b.waits := fun b => by
      funext q
      rw [waits, vkPicFree_pic]
      rfl
    rw [hfree]
    exact (sameNeeds_modifyPic (f := fun x => { x with refcount := 0 }) (fun _ => rfl) p a).waits
  · rename_i n _
    exact (sameNeeds_modifyPic (f := fun x => { x with refcount := n + 1 }) (fun _ => rfl) p a).waits

lemma sameNeeds_unrefAll (l : List PicId) (a : Store) : SameNeeds a (a.unrefAll l) :=
  sameNeeds_foldl sameNeeds_unref l a

lemma sameNeeds_dpbMarkAllNonRef (a : Store) : SameNeeds a a.dpbMarkAllNonRef :=
  sameNeeds_foldl (f := setRef false) (sameNeeds_modifyPic fun _ => rfl) _ a

lemma sameNeeds_deriveAndMarkRps (pocs : RefPocs) (a : Store) : SameNeeds a (a.deriveAndMarkRps pocs).2 := by
  have href := fun l a => sameNeeds_foldl (f := ref) (sameNeeds_modifyPic fun _ => rfl) l a
  have hlong := fun l a => sameNeeds_foldl (f := setLongTerm) (sameNeeds_modifyPic fun _ => rfl) l a
  have hdrop := fun l a => sameNeeds_foldl (f := dropRef) (sameNeeds_modifyPic fun _ => rfl) l a
  exact (((href _ a).trans (hlong _ _)).trans (href _ _)).trans (hdrop _ _)

lemma waits_modifyPic {f : Picture → Picture} {o : Bool} (hf : ∀ x, (f x).neededForOutput = o) (p : PicId) (a : Store) :
    (a.modifyPic p f).waits = Function.update a.waits p o := by
  funext q
  rw [waits, modifyPic_pic, Function.update_apply]
  split
  · exact hf _
  · rfl

lemma dpbDeleteUnused_picList (a : Store) : a.dpbDeleteUnused.dpb.picList = a.dpb.picList.filter fun p => !a.unused p :=
  congrArg Dpb.picList (unrefAll_dpb _ _)

lemma dpbDeleteUnused_waits (a : Store) : a.dpbDeleteUnused.waits = a.waits := (sameNeeds_unrefAll _ _).waits

lemma bumpCount_spec (p : PicId) (a : Store) : (a.bumpCount p).dpb.numOutputNeeded = a.dpb.numOutputNeeded - 1 ∧
    (a.bumpCount p).waits = Function.update a.waits p false := by
  have hwaits : (((a.ref p).setNeeded p false).addOutputNeeded (-1)).waits = Function.update a.waits p false := by
    refine (waits_modifyPic (f := fun x => { x with neededForOutput := false }) (fun _ => rfl) p (a.ref p)).trans ?_
    exact congrArg (Function.update · p false) (sameNeeds_modifyPic (f := fun x => { x with refcount := x.refcount + 1 })
      (fun _ => rfl) p a).waits
  unfold bumpCount
  simp only
  split <;> exact ⟨rfl, hwaits⟩

lemma bumpRemove_picList (drain : Bool) (i : Nat) (p : PicId) (a : Store) :
    (a.bumpRemove drain i p).dpb.picList =
      if !(a.pic p).ref || drain then removeIndexFast a.dpb.picList i else a.dpb.picList := by
  unfold bumpRemove
  split
  · rw [unref_dpb]
    rfl
  · rfl

lemma bumpRemove_spec (drain : Bool) (i : Nat) (p : PicId) (a : Store) :
    (a.bumpRemove drain i p).dpb.numOutputNeeded = a.dpb.numOutputNeeded ∧ (a.bumpRemove drain i p).waits = a.waits := by
  unfold bumpRemove
  split
  · rw [unref_dpb, (sameNeeds_unref p _).waits]
    exact ⟨rfl, rfl⟩
  · exact ⟨rfl, rfl⟩

lemma bump_steps (drain : Bool) (i : Nat) (p : PicId) (a : Store) :
    H265.steps (bumpRemove drain i p (a.bumpCount p)).log = H265.steps a.log := by
  have hcount : H265.steps (a.bumpCount p).log = H265.steps a.log := by
    unfold bumpCount
    simp only
    split <;> rfl
  unfold bumpRemove
  split
  · exact (unref_steps p _).trans hcount
  · exact hcount

/-- A bump takes the lowest picture that waits, and removes it unless it is a reference that may stay. -/
structure Bumped (drain : Bool) (i : Nat) (p : PicId) (a b : Store) : Prop where
  lowest : IsLowest a.waits a.poc a.dpb.picList i p
  picList : b.dpb.picList = if !(a.pic p).ref || drain then removeIndexFast a.dpb.picList i else a.dpb.picList
  waits : b.waits = Function.update a.waits p false
  numOutputNeeded : b.dpb.numOutputNeeded = a.dpb.numOutputNeeded - 1
  steps : H265.steps b.log = H265.steps a.log
  ref : ∀ q, (b.pic q).ref = (a.pic q).ref

lemma bumped {drain : Bool} {i : Nat} (h : a.dpbGetLowestOutputNeededPicture = some (i, p)) :
    Bumped drain i p a (a.dpbBump drain).2 := by
  have hcount := bumpCount_spec p a
  have hremove := bumpRemove_spec drain i p (a.bumpCount p)
  rw [bump_some h]
  refine ⟨isLowest h, ?_, hremove.2.trans hcount.2, hremove.1.trans hcount.1, ?_, fun q => ?_⟩
  · rw [bumpRemove_picList, bumpCount_ref, bumpCount_picList]
  · exact bump_steps drain i p a
  · refine Eq.trans ?_ (bumpCount_ref p q a)
    show ((bumpRemove drain i p (a.bumpCount p)).pic q).ref = _
    unfold bumpRemove
    split
    · exact ref_unref p q _
    · rfl

lemma bumped_of_some {drain : Bool} (h : (a.dpbBump drain).1 = some p) : ∃ i, Bumped drain i p a (a.dpbBump drain).2 := by
  cases hl : a.dpbGetLowestOutputNeededPicture with
  | none =>
    rw [dpbBump, hl] at h
    cases h
  | some r =>
    obtain ⟨i, q⟩ := r
    rw [bump_some hl] at h
    obtain rfl : q = p := Option.some.inj h
    exact ⟨i, bumped hl⟩

/-- What is left but for the picture that was taken. -/
lemma Bumped.perm {drain : Bool} {i : Nat} (h : Bumped drain i p a b) :
    (p :: removeIndexFast a.dpb.picList i).Perm a.dpb.picList := removeIndexFast_perm h.lowest.place

lemma Bumped.subperm {drain : Bool} {i : Nat} (h : Bumped drain i p a b) : b.dpb.picList.Subperm a.dpb.picList := by
  rw [h.picList]
  split
  · exact (List.sublist_cons_self p _).subperm.trans h.perm.subperm
  · exact List.Subperm.refl _

lemma Bumped.count {drain : Bool} {i : Nat} (h : Bumped drain i p a b) (hnodup : a.dpb.picList.Nodup) :
    b.dpb.picList.countP b.waits + 1 = a.dpb.picList.countP a.waits := by
  have hp : p ∉ removeIndexFast a.dpb.picList i := (List.nodup_cons.mp (h.perm.nodup_iff.mpr hnodup)).1
  have hrest : (removeIndexFast a.dpb.picList i).countP b.waits = (removeIndexFast a.dpb.picList i).countP a.waits := by
    refine List.countP_congr fun q hq => ?_
    rw [h.waits, Function.update_of_ne (fun hqp : q = p => hp (hqp ▸ hq))]
  have hwhole : a.dpb.picList.countP a.waits = (removeIndexFast a.dpb.picList i).countP a.waits + 1 := by
    rw [← h.perm.countP_eq, List.countP_cons_of_pos h.lowest.waiting]
  have hsame : a.dpb.picList.countP b.waits = (removeIndexFast a.dpb.picList i).countP b.waits := by
    rw [← h.perm.countP_eq, List.countP_cons_of_neg]
    rw [h.waits, Function.update_self]
    exact Bool.false_ne_true
  rw [hwhole, h.picList, ← hrest]
  split
  · rfl
  · rw [hsame]

lemma markForOutput_spec (p : PicId) (a : Store) :
    (a.markForOutput p).dpb.picList = a.dpb.picList ∧
      (a.markForOutput p).waits = Function.update a.waits p (a.pic p).outputFlag ∧
      (a.markForOutput p).dpb.numOutputNeeded = a.dpb.numOutputNeeded + if (a.pic p).outputFlag then 1 else 0 := by
  unfold markForOutput
  split
  · rename_i ho
    have hcount := sameNeeds_foldl (f := fun q a => a.modifyPic q countLatency)
      (sameNeeds_modifyPic fun x => by unfold countLatency; split <;> rfl) a.dpb.picList a
    have hset := waits_modifyPic (f := fun x => { x with neededForOutput := true }) (fun _ => rfl) p
      ((a.dpb.picList.foldl (fun s q => s.modifyPic q countLatency) a).addOutputNeeded 1)
    generalize a.dpb.picList.foldl (fun s q => s.modifyPic q countLatency) a = c at hcount hset
    have hpics : ((c.addOutputNeeded 1).setNeeded p true).dpb.picList = c.dpb.picList := rfl
    have hn : ((c.addOutputNeeded 1).setNeeded p true).dpb.numOutputNeeded = c.dpb.numOutputNeeded + 1 := rfl
    rw [ho, ← hcount.waits]
    exact ⟨hpics.trans (congrArg Dpb.picList hcount.dpb), hset,
      hn.trans (congrArg (fun d => Dpb.numOutputNeeded d + 1) hcount.dpb)⟩
  · rename_i ho
    rw [Bool.not_eq_true] at ho
    rw [ho]
    exact ⟨rfl, waits_modifyPic (fun _ => rfl) p a, (Int.add_zero _).symm⟩

lemma markForOutput_steps (p : PicId) (a : Store) : H265.steps (a.markForOutput p).log = H265.steps a.log := by
  unfold markForOutput
  split
  · exact (sameNeeds_foldl (f := fun q a => a.modifyPic q countLatency)
      (sameNeeds_modifyPic fun x => by unfold countLatency; split <;> rfl) a.dpb.picList a).steps
  · rfl

/-- The pictures of `coming` and those stored are different, and as many are counted as wait. -/
structure IsStock (coming : List PicId) (dpb : Dpb) (waits : PicId → Bool) (next : PicId) : Prop where
  apart : (coming ++ dpb.picList).Nodup
  made : ∀ q ∈ coming ++ dpb.picList, q < next
  count : dpb.numOutputNeeded = dpb.picList.countP waits

abbrev Stocked (coming : List PicId) (a : Store) : Prop := IsStock coming a.dpb a.waits a.next

variable {l : List PicId}

lemma Stocked.nodup (h : Stocked l a) : a.dpb.picList.Nodup := List.Nodup.of_append_right h.apart

lemma Stocked.sameNeeds (h : Stocked l a) (hs : SameNeeds a b) (hn : b.next = a.next) : Stocked l b := by
  refine ⟨?_, ?_, ?_⟩
  · rw [hs.dpb]
    exact h.apart
  · rw [hs.dpb, hn]
    exact h.made
  · rw [hs.dpb, hs.waits]
    exact h.count

lemma Stocked.keeps (h : Stocked l a) (hs : SameNeeds a b) (hk : Keeps a b) : Stocked l b := h.sameNeeds hs hk.next

-- fewer pictures, and fewer to come
lemma Stocked.subperm {l' : List PicId} (h : Stocked l a) (hl : (l' ++ b.dpb.picList).Subperm (l ++ a.dpb.picList))
    (hn : a.next ≤ b.next) (hc : b.dpb.numOutputNeeded = b.dpb.picList.countP b.waits) : Stocked l' b :=
  ⟨nodup_of_subperm hl h.apart, fun q hq => Nat.lt_of_lt_of_le (h.made q (hl.subset hq)) hn, hc⟩

lemma Stocked.bumped {drain : Bool} {i : Nat} (h : Stocked l a) (hb : Bumped drain i p a b) (hn : b.next = a.next) :
    Stocked l b := by
  refine h.subperm ((List.subperm_append_left l).mpr hb.subperm) (Nat.le_of_eq hn.symm) ?_
  rw [hb.numOutputNeeded, h.count, ← hb.count h.nodup]
  push_cast
  omega

lemma Stocked.dpbDeleteUnused (h : Stocked l a) : Stocked l a.dpbDeleteUnused := by
  refine h.subperm ?_ (Nat.le_of_eq (keeps_dpbDeleteUnused a).next.symm) ?_
  · rw [dpbDeleteUnused_picList]
    exact (List.subperm_append_left l).mpr List.filter_sublist.subperm
  · have hcount : a.dpbDeleteUnused.dpb.numOutputNeeded = a.dpb.numOutputNeeded := by
      rw [Store.dpbDeleteUnused, unrefAll_dpb]
      rfl
    rw [hcount, dpbDeleteUnused_picList, dpbDeleteUnused_waits, List.countP_filter, h.count]
    refine congrArg _ (List.countP_congr fun q _ => ?_)
    simp only [unused, Store.waits]
    cases (a.pic q).neededForOutput <;> simp

lemma Stocked.dpbClear (h : Stocked l a) : Stocked l a.dpbClear := by
  have hnil := dpbClear_picList a
  refine h.subperm ?_ (Nat.le_of_eq (keeps_dpbClear a).next.symm) ?_
  · rw [hnil, List.append_nil]
    exact (List.sublist_append_left l _).subperm
  · rw [hnil]
    rfl

lemma dpbAdd_picList (p : PicId) (a : Store) : (a.dpbAdd p).dpb.picList = a.dpb.picList ++ [p] :=
  congrArg (· ++ [p]) (markForOutput_spec p a).1

lemma dpbAdd_waits (p : PicId) (a : Store) :
    (a.dpbAdd p).waits = Function.update a.waits p (a.pic p).outputFlag := by
  refine Eq.trans ?_ (markForOutput_spec p a).2.1
  exact (sameNeeds_modifyPic (f := fun x => { x with ref := true, longTerm := false }) (fun _ => rfl) p
    (a.markForOutput p)).waits

lemma Stocked.notMem (h : Stocked (p :: l) a) : p ∉ a.dpb.picList := fun hp =>
  List.disjoint_of_nodup_append h.apart List.mem_cons_self hp

lemma Stocked.dpbAdd (h : Stocked (p :: l) a) : Stocked l (a.dpbAdd p) := by
  have hpics := dpbAdd_picList p a
  have hw := dpbAdd_waits p a
  refine h.subperm ?_ (Nat.le_of_eq (keeps_dpbAdd p a).next.symm) ?_
  · rw [hpics, ← List.append_assoc]
    exact (List.perm_append_singleton p _).subperm
  · have hold : a.dpb.picList.countP (a.dpbAdd p).waits = a.dpb.picList.countP a.waits := by
      refine List.countP_congr fun q hq => ?_
      rw [hw, Function.update_of_ne (fun hqp : q = p => h.notMem (hqp ▸ hq))]
    have hn : (a.dpbAdd p).dpb.numOutputNeeded = a.dpb.numOutputNeeded + if (a.pic p).outputFlag then 1 else 0 :=
      (markForOutput_spec p a).2.2
    rw [hn, h.count, hpics, List.countP_append, hold, List.countP_singleton, hw, Function.update_self]
    split <;> simp

lemma Stocked.storePicture (h : Stocked (p :: l) a) : Stocked l (a.storePicture p) :=
  Stocked.dpbAdd (a := a.emit _) ⟨h.apart, h.made, h.count⟩

end Store

def Current.coming : Current → List PicId
  | .made p | .starting p | .decoding p | .failed p => [p]
  | .none | .gone _ => []

def Role.coming : Role × PicId → Option PicId
  | (.ended, p) => some p
  | _ => none

/-- The current picture, and those that finish_picture is to store. -/
def Phase.coming (k : Phase) : List PicId := k.current.coming ++ k.hold.filterMap Role.coming

lemma coming_drop {r : Role} (h : (r, p) ∈ k.hold) :
    ((Role.coming (r, p)).toList ++ (k.drop r p).coming).Perm k.coming := by
  have hhold : ((Role.coming (r, p)).toList ++ (k.hold.erase (r, p)).filterMap Role.coming).Perm
      (k.hold.filterMap Role.coming) := by
    have := (List.perm_cons_erase h).symm.filterMap Role.coming
    rw [List.filterMap_cons] at this
    cases hr : Role.coming (r, p) with
    | none =>
      rw [hr] at this
      exact this
    | some q =>
      rw [hr] at this
      exact this
  refine .trans ?_ (hhold.append_left k.current.coming)
  rw [← List.append_assoc, Phase.coming, ← List.append_assoc]
  exact List.perm_append_comm.append_right _

def StockedIn (x : Phase × Decoder P) : Prop := x.2.store.Stocked x.1.coming

variable {a b : Store}

lemma Store.Stocked.drop {r : Role} (h : a.Stocked k.coming) (hp : (r, p) ∈ k.hold) (hr : Role.coming (r, p) = none)
    (hs : Store.SameNeeds a b) (hn : b.next = a.next) : b.Stocked (k.drop r p).coming := by
  have hperm := coming_drop hp
  rw [hr] at hperm
  exact (h.sameNeeds hs hn).subperm (hperm.append_right _).subperm (Nat.le_refl _) (h.sameNeeds hs hn).count

lemma stocked_unref {r : Role} (h : StockedIn (k, s)) (hp : (r, p) ∈ k.hold) (hr : Role.coming (r, p) = none) (q : PicId) :
    StockedIn (k.drop r p, s.mapStore (Store.unref q)) :=
  Store.Stocked.drop h hp hr (Store.sameNeeds_unref q _) (Store.keeps_unref q _).next

-- the user data of a picture says nothing about its output
lemma stocked_setVkPic (h : StockedIn (k, s)) (p : PicId) (vkpic : VkPic) : StockedIn (k, setVkPic p vkpic s) :=
  Store.Stocked.sameNeeds h
    (Store.sameNeeds_modifyPic (f := fun x => { x with userData := some vkpic }) (fun _ => rfl) p s.store) rfl

lemma StockedIn.coming {k' : Phase} (h : StockedIn (k, s)) (hk : k'.coming.Sublist k.coming) : StockedIn (k', s) :=
  Store.Stocked.subperm h (hk.append_right _).subperm (Nat.le_refl _) h.count

lemma Act.stocked (h : Act env x y) (hx : StockedIn x) : StockedIn y := by
  cases h with
  | book h =>
    refine Store.Stocked.sameNeeds hx ⟨h.dpb, ?_, congrArg H265.steps h.log⟩ h.next
    unfold Store.waits
    rw [h.pic]
  | new hk =>
    rename_i k s
    have hx : Store.Stocked k.coming s.store := hx
    have hold : ∀ q ∈ k.coming ++ s.store.dpb.picList, q ≠ s.store.next := fun q hq => Nat.ne_of_lt (hx.made q hq)
    have hcoming : (k.setCurrent (.made s.store.next)).coming = s.store.next :: k.coming := by
      rw [Phase.coming, Phase.coming, hk]
      rfl
    refine ⟨?_, ?_, ?_⟩
    · rw [hcoming]
      exact List.nodup_cons.mpr ⟨fun hq => hold _ hq rfl, hx.apart⟩
    · rw [hcoming]
      rintro q (_ | ⟨_, hq⟩)
      · exact Nat.lt_succ_self _
      · exact Nat.lt_succ_of_lt (hx.made q hq)
    · refine hx.count.trans (congrArg _ (List.countP_congr fun q hq => ?_))
      have hne := hold q (List.mem_append_right _ hq)
      simp [Store.waits, Decoder.mapStore, Store.pictureNew, Function.update_of_ne hne]
  | edit p hk hf =>
    exact Store.Stocked.sameNeeds hx (Store.sameNeeds_modifyPic hf.neededForOutput p _) rfl
  | adopt p hk =>
    refine StockedIn.coming hx ?_
    rw [Phase.coming, Phase.coming, hk]
    exact List.Sublist.refl _
  | forgetCurrent p hk => exact StockedIn.coming hx (List.sublist_append_right _ _)
  | endPicture p vkpic hk hv =>
    refine StockedIn.coming (stocked_setVkPic hx p _) ?_
    rw [Phase.coming, Phase.coming, hk]
    exact List.Sublist.refl _
  | alloc p hk hv =>
    unfold Decoder.allocPicture
    simp only
    split
    · exact hx
    · exact stocked_setVkPic hx p _
  | markAllNonRef p hk =>
    exact Store.Stocked.keeps hx (Store.sameNeeds_dpbMarkAllNonRef _) (Store.keeps_dpbMarkAllNonRef _)
  | clearSets p hk => exact Store.Stocked.keeps hx (Store.sameNeeds_unrefAll _ _) (Store.keeps_unrefAll _ _)
  | deriveSets p pocs hk hs =>
    exact Store.Stocked.keeps hx (Store.sameNeeds_deriveAndMarkRps pocs _) (Store.keeps_deriveAndMarkRps pocs _)
  | start p slice vps vkpic hk hv hvps hflags hsets hc =>
    refine StockedIn.coming (stocked_setVkPic hx p _) ?_
    rw [Phase.coming, Phase.coming, hk]
    rcases hc with ⟨rfl, -⟩ | rfl <;> exact List.Sublist.refl _
  | slice p slice vkpic hk hv => exact stocked_setVkPic hx p _
  | unrefCurrent p hk =>
    have hunref := Store.Stocked.sameNeeds hx (Store.sameNeeds_unref p _) (Store.keeps_unref p _).next
    exact StockedIn.coming hunref (List.sublist_append_right _ _)
  | deleteUnused => exact Store.Stocked.dpbDeleteUnused hx
  | add p hp =>
    have hperm : (p :: _).Perm _ := coming_drop hp
    refine Store.Stocked.storePicture (Store.Stocked.subperm hx (hperm.append_right _).subperm (Nat.le_refl _) ?_)
    exact hx.count
  | bump drain p h =>
    obtain ⟨i, hb⟩ := Store.bumped_of_some h
    exact Store.Stocked.bumped hx hb (Store.keeps_dpbBump drain _).next
  | display p vkpic frame hp hv hf => exact Store.Stocked.drop hx hp rfl ⟨rfl, rfl, rfl⟩ rfl
  | configure sps hk => exact ⟨hx.apart, hx.made, hx.count⟩
  | unref p hp hr => exact stocked_unref hx hp (by rcases hr with rfl | rfl <;> rfl) p
  | dpbClear h => exact Store.Stocked.dpbClear hx
  | finishFrame p flow hp => exact Store.Stocked.drop hx hp rfl ⟨rfl, rfl, rfl⟩ rfl
  | forgetShown p hp => exact Store.Stocked.drop hx hp rfl ⟨rfl, rfl, rfl⟩ rfl
  | _ => exact hx

end VkVideoParser.H265
