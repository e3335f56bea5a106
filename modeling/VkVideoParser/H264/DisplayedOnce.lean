import VkVideoParser.Library.Ledger
import VkVideoParser.H264.OutputCount
import VkVideoParser.H264.Started

/-! Every frame is displayed at most once, by its first field, and nothing of it is decoded afterwards. -/

namespace VkVideoParser.H264

open Execution Relation Counting Ledger

variable {P : Type} {env : Env P} {k : Phase} {s t : Decoder P} {x y : Phase × Decoder P} {p q : PicId}
  {log : List Event}

section Chances

/-- The chances to be displayed that its role gives to a picture. -/
def Role.chances : Role → Nat
  | .output => 1
  | r => r.owns

def Store.neededAt (a : Store) (q : PicId) : Nat := if q ∈ a.dpb.picList ∧ (a.pic q).neededForOutput then 1 else 0

def chances (x : Phase × Decoder P) (q : PicId) : Nat :=
  x.2.store.neededAt q + slot x.2.lastField q + slot x.1.current.place q + weigh Role.chances x.1.hold q

lemma neededAt_congr {a b : Store} (hl : b.dpb.picList = a.dpb.picList)
    (hp : ∀ q ∈ a.dpb.picList, (b.pic q).neededForOutput = (a.pic q).neededForOutput) (q : PicId) :
    b.neededAt q = a.neededAt q := by
  unfold Store.neededAt
  rw [hl]
  by_cases hq : q ∈ a.dpb.picList
  · rw [hp q hq]
  · simp [hq]

lemma neededAt_shrinks {a b : Store} (h : Store.Shrinks a b) (q : PicId) : b.neededAt q ≤ a.neededAt q := by
  unfold Store.neededAt
  obtain ⟨_, _, _, _, hq, hn⟩ := h.pic q
  split
  · rename_i hb
    rw [if_pos ⟨h.picList.subset hb.1, hn (by rw [hq] at hb; exact hb.2)⟩]
  · exact Nat.zero_le _

lemma neededAt_addPicture (p q : PicId) (a : Store) : (a.addPicture p).neededAt q ≤ a.neededAt q + isAt p q := by
  by_cases hq : p = q
  · rw [hq, isAt_self, Store.neededAt]
    split <;> omega
  · have hne : q ≠ p := Ne.symm hq
    simp [Store.neededAt, Store.dpbAdd_picList, Store.dpbAdd_needed, hne]

-- the picture that is output is no longer needed
lemma neededAt_dpbBump {a : Store} {drain : Bool} (h : (a.dpbBump drain).1 = some p) (q : PicId) :
    (a.dpbBump drain).2.neededAt q + isAt p q ≤ a.neededAt q := by
  by_cases hq : p = q
  · subst hq
    obtain ⟨i, hi⟩ := Store.bump_eq_some h
    obtain ⟨hat, hw⟩ := Store.lowest_spec hi
    simp only [Store.waitsForOutput, Bool.and_eq_true] at hw
    have hafter : (a.dpbBump drain).2.neededAt p = 0 := if_neg fun hb => by
      rw [Store.dpbBump_needed h, if_pos (.inl rfl)] at hb
      cases hb.2
    rw [hafter, isAt_self, Store.neededAt, if_pos ⟨List.mem_of_getElem? hat, hw.1⟩]
  · rw [isAt_of_ne hq]
    exact neededAt_shrinks Store.shrinks_dpbBump q

lemma neededAt_modifyPic {f : Picture → Picture} (hf : ∀ x, (f x).neededForOutput = x.neededForOutput) (p q : PicId)
    (a : Store) :
    (a.modifyPic p f).neededAt q = a.neededAt q := by
  refine neededAt_congr (a := a) (b := a.modifyPic p f) rfl (fun r _ => ?_) q
  rw [Store.modifyPic_pic]
  split
  · rename_i hr
    rw [hf, hr]
  · rfl

lemma neededAt_setVkPic (p q : PicId) (vkpic : VkPic) (s : Decoder P) :
    (setVkPic p vkpic s).store.neededAt q = s.store.neededAt q :=
  neededAt_modifyPic (f := fun x => { x with userData := some vkpic }) (fun _ => rfl) p q s.store

lemma chances_congr (hn : y.2.store.neededAt q = x.2.store.neededAt q) (hl : y.2.lastField = x.2.lastField)
    (hc : y.1.current.place = x.1.current.place) (hh : y.1.hold = x.1.hold) : chances y q = chances x q := by
  simp only [chances, hn, hl, hc, hh]

lemma chances_turn {r : Role} (r' : Role) (q : PicId) (hp : (r, p) ∈ k.hold) (hr : r'.chances ≤ r.chances)
    (hn : t.store.neededAt q = s.store.neededAt q) (hl : t.lastField = s.lastField) :
    chances (k.turn r r' p, t) q ≤ chances (k, s) q := by
  have := weigh_turn (w := Role.chances) hp r' q
  have := Nat.mul_le_mul_right (isAt p q) hr
  simp only [chances, Phase.current_turn, hn, hl] at this ⊢
  omega

lemma chances_drop {r : Role} (q : PicId) (hp : (r, p) ∈ k.hold)
    (hn : t.store.neededAt q ≤ s.store.neededAt q + r.chances * isAt p q)
    (hl : t.lastField = s.lastField) : chances (k.drop r p, t) q ≤ chances (k, s) q := by
  have := weigh_erase (w := Role.chances) hp q
  simp only [chances, Phase.current_drop, Phase.hold_drop, hl]
  omega

lemma Role.stored.chances {r : Role} (h : r.stored) : r.chances = 1 := by
  rcases h with rfl | rfl | rfl <;> rfl

end Chances

-- of the moves only a new picture gets a chance
lemma Act.chances_le (h : Act env x y) (hx : Placed x) (q : PicId) :
    chances y q ≤ chances x q ∨ (q = x.2.store.next ∧ chances y q ≤ chances x q + 1) := by
  cases h with
  | new r hr =>
    rename_i k s
    have hw : r.chances = 1 := by rcases hr with rfl | rfl <;> rfl
    have hn : s.store.pictureNew.2.neededAt q = s.store.neededAt q := by
      refine neededAt_congr (a := s.store) (b := s.store.pictureNew.2) rfl (fun p hp => ?_) q
      have hne : p ≠ s.store.next := (hx.below p (.inl (places_of_mem hp))).ne
      simp [Store.pictureNew, hne]
    by_cases hq : s.store.next = q
    · refine .inr ⟨hq.symm, ?_⟩
      simp [chances, hn, hw, hq]
      omega
    · left
      simp [chances, hn, isAt_of_ne hq]
  | book h =>
    exact .inl (le_of_eq (chances_congr (neededAt_congr h.picList (fun q _ => by rw [h.pic]) q) h.lastField rfl rfl))
  | number h | mark p hp hk h =>
    exact .inl (le_of_eq (chances_congr
      (neededAt_congr (congrArg Dpb.picList h.dpb) (fun q _ => (h.role q).neededForOutput) q)
      rfl rfl rfl))
  | alloc p hp =>
    refine .inl (le_of_eq (chances_congr ?_ (allocPicture_lastField p) rfl rfl))
    unfold Decoder.allocPicture
    simp only
    split
    · rfl
    · exact neededAt_setVkPic p q _ _
  | edit p hp hf | editLost p hk hf =>
    exact .inl (le_of_eq (chances_congr (neededAt_modifyPic hf.neededForOutput p q _) rfl rfl rfl))
  | linkSecond p p' =>
    exact .inl (le_of_eq (chances_congr (neededAt_modifyPic (f := linkSecondField p) (fun _ => rfl) p' q _) rfl rfl
      rfl))
  | link p p' =>
    exact .inl (le_of_eq (chances_congr (neededAt_modifyPic (f := linkField p) (fun _ => rfl) p' q _) rfl rfl rfl))
  | fill p slice hk | clear p slice hk =>
    refine .inl (le_of_eq (chances_congr rfl rfl ?_ rfl))
    rw [hk]
    rfl
  | start p slice vkpic hk =>
    rename_i k s _ _ _
    refine .inl (le_of_eq (chances_congr (neededAt_setVkPic p q (startVkPic env s p slice vkpic) s) rfl ?_ rfl))
    rcases hk with hk | hk <;> rw [hk] <;> rfl
  | slice p slice vkpic hk =>
    rename_i k s _
    exact .inl (le_of_eq (chances_congr (neededAt_setVkPic p q (appendSlice slice vkpic) s) rfl rfl rfl))
  | endPicture p vkpic hk | losePicture p vkpic hk =>
    left
    rename_i k s _ _
    have hn : (s.endPicture env p vkpic).store.neededAt q = s.store.neededAt q := neededAt_setVkPic p q _ s
    have hl : (s.endPicture env p vkpic).lastField = s.lastField := rfl
    simp [chances, hn, hl, Current.place, Role.chances, Role.owns, hk]
    try omega
  | unrefCurrent p hk | unrefLast p hk =>
    left
    rename_i k s
    have hn : (s.store.unref p).neededAt q ≤ s.store.neededAt q :=
      neededAt_shrinks (Store.sameShape_unref p _).shrinks q
    simp [chances, Current.place]
    omega
  | forgetCurrent hk =>
    left
    simp [chances, Current.place]
  | finishFrame p flow hp | forgetShown p hp | leak p hp => exact .inl (chances_drop q hp (Nat.le_add_right ..) rfl)
  | unref p hp =>
    refine .inl (chances_drop q hp ?_ rfl)
    exact (neededAt_shrinks (Store.sameShape_unref p _).shrinks q).trans (Nat.le_add_right ..)
  | keep p hp | borrow p hp =>
    left
    have hn := fun a => neededAt_shrinks (Store.sameShape_ref p a).shrinks q
    simp [chances, Role.chances, Role.owns]
    exact hn _
  | takeLast p q' hp hs hpq hl =>
    left
    simp [chances, Role.chances, hl]
    omega
  | bump drain p h =>
    left
    rename_i k s
    have hn := neededAt_dpbBump h q
    simp [chances, Role.chances]
    omega
  | deleteUnused =>
    left
    rename_i k s
    have hn := neededAt_shrinks (Store.shrinks_dpbDeleteUnused (s := s.store)) q
    simp only [chances, Decoder.mapStore_store, Decoder.mapStore_lastField]
    omega
  | dpbClear h =>
    left
    rename_i k s
    have hn := neededAt_shrinks (Store.shrinks_dpbClear (s := s.store)) q
    simp only [chances, Decoder.mapStore_store, Decoder.mapStore_lastField]
    omega
  | beginMarking q' hq | endMarking q' hq | skipMarking q' hq | settle q' hq | direct q' hq =>
    exact .inl (chances_turn _ q hq (by decide) rfl rfl)
  | doom q' hq => exact .inl (chances_turn _ q hq (Nat.zero_le _) rfl rfl)
  | splitPair p q' hp hr hq =>
    rename_i k s r _ _ _ _ _ _
    have hn : (s.splitPair p q').store.neededAt q = s.store.neededAt q := by
      refine neededAt_congr (a := s.store) (b := (s.splitPair p q').store) rfl (fun r _ => ?_) q
      refine splitPair_keeps (g := Picture.neededForOutput) (fun _ _ => rfl) (fun x => ?_) (fun _ _ => rfl) p q' s r
      unfold splitFirst
      split <;> rfl
    exact .inl (chances_turn _ q hq (by decide) hn rfl)
  | display p vkpic frame hp hv hf =>
    left
    rename_i k s
    have hn : (s.displayPicture env p vkpic frame).store.neededAt q = s.store.neededAt q := rfl
    have hl : (s.displayPicture env p vkpic frame).lastField = s.lastField := rfl
    have := weigh_erase (w := Role.chances) hp q
    simp [chances, hn, hl, Role.chances, Role.owns] at this ⊢
    omega
  | adopt p hp hk =>
    left
    have := weigh_erase (w := Role.chances) hp q
    simp [chances, hk, Current.place, Role.chances, Role.owns] at this ⊢
    omega
  | add p hp hr =>
    refine .inl (chances_drop q hp ?_ rfl)
    rw [hr.chances, Nat.one_mul]
    exact neededAt_addPicture p q _
  | addLast p q' hp hr hl =>
    left
    rename_i k s r _ _ _
    have hn := neededAt_addPicture q' q s.store
    simp [chances, hl]
    omega
  | cache p hp hf hs hl => 
    left
    have := weigh_erase (w := Role.chances) hp q
    simp [chances, hl, Role.chances, Role.owns] at this ⊢
    omega
  | _ => exact .inl le_rfl

section Entries

/-- The field that a started picture completes. -/
def StartInfo.first (info : StartInfo) : Option PicId := if info.secondField then info.otherField else none

def firstField (log : List Event) (p : PicId) : Option PicId := (starts log p).head?.bind StartInfo.first

/-- A frame is opened as it is decoded, or its first field, used as its second field is, and closed as it is displayed. -/
def Event.entry (log : List Event) : Event → Option (Entry PicId)
  | .decodePicture p .. => some ((firstField log p).elim (.opened p) .used)
  | .displayPicture p .. => some (.closed p)
  | _ => none

def entries : List Event → List (Entry PicId)
  | [] => []
  | e :: l => (e.entry l).toList ++ entries l

/-- What a move enters. -/
inductive Enters (env : Env P) (x y : Phase × Decoder P) : Prop
  | quiet (h : entries (calls y.2.store.log) = entries (calls x.2.store.log))
  | decoded {p : PicId} {vkpic : VkPic} (hk : x.1.current = .decoding p)
    (hy : y.1.current = .gone p ∨ y.1.current = .lost p)
    (hs : y.2 = x.2.endPicture env p vkpic) 
  | displayed {p : PicId} {vkpic : VkPic} {frame : VideoCodecFrame} (hp : (.output, p) ∈ x.1.hold)
    (hv : (x.2.pic p).userData = some vkpic)
      (hy : y = ((x.1.turn .output .loose p).take .shown p, x.2.displayPicture env p vkpic frame))

lemma Act.enters (h : Act env x y) : Enters env x y := by
  cases h with
  | endPicture p vkpic hk => exact .decoded hk (.inl rfl) rfl
  | losePicture p vkpic hk => exact .decoded hk (.inr rfl) rfl
  | display p vkpic frame hp hv hf => exact .displayed hp hv rfl
  | book h => exact .quiet (by rw [h.log])
  | number h | mark p hp hk h => exact .quiet (congrArg (entries ∘ calls) h.log)
  | unref p hp | unrefCurrent p hp | unrefLast p hp =>
    exact .quiet (congrArg entries (calls_releases (Store.onlyReleases_unref _ _)))
  | deleteUnused => exact .quiet (congrArg entries (calls_releases (Store.onlyReleases_dpbDeleteUnused _)))
  | dpbClear h => exact .quiet (congrArg entries (calls_releases (Store.onlyReleases_dpbClear _)))
  | bump drain p h => exact .quiet (congrArg entries (calls_releases (Store.onlyReleases_dpbBump drain _)))
  | add p hp | addLast p q hp => exact .quiet (congrArg entries (calls_addPicture _ _))
  | alloc p hp hv =>
    refine .quiet ?_
    unfold Decoder.allocPicture
    simp only
    split <;> rfl
  | removeFrame h => cases h <;> exact .quiet rfl
  | _ => exact .quiet rfl

lemma entries_endPicture (p : PicId) (vkpic : VkPic) (s : Decoder P) :
    entries (calls (s.endPicture env p vkpic).store.log) =
    (firstField (calls s.store.log) p).elim (.opened p) .used :: entries (calls s.store.log) := rfl

lemma Act.ended_of (h : Act env x y) (hm : (.ended, p) ∈ y.1.hold) :
    (.ended, p) ∈ x.1.hold ∨ (x.1.current = .decoding p ∧ ∃ vkpic, y.2 = x.2.endPicture env p vkpic) := by
  cases h with
  | endPicture q vkpic hk =>
    simp only [Phase.setCurrent, Phase.take, List.mem_cons, Prod.mk.injEq, true_and] at hm
    rcases hm with rfl | hm
    · exact .inr ⟨hk, vkpic, rfl⟩
    · exact .inl hm
  | new r hr =>
    simp only [Phase.hold_take, List.mem_cons, Prod.mk.injEq] at hm
    rcases hm with ⟨rfl, -⟩ | hm
    · rcases hr with hr | hr <;> cases hr
    · exact .inl hm
  | bump | borrow | takeLast | keep =>
    simp only [Phase.hold_take, List.mem_cons, Prod.mk.injEq, reduceCtorEq, false_and, false_or] at hm
    exact .inl hm
  | beginMarking | endMarking | skipMarking | settle | direct | doom | splitPair =>
    simp only [Phase.hold_setDone, Phase.hold_turn, List.mem_cons, Prod.mk.injEq, reduceCtorEq, false_and,
      false_or] at hm
    exact .inl (List.mem_of_mem_erase hm)
  | display =>
    simp only [Phase.hold_take, Phase.hold_turn, List.mem_cons, Prod.mk.injEq, reduceCtorEq, false_and, false_or] at hm
    exact .inl (List.mem_of_mem_erase hm)
  | finishFrame | forgetShown | unref | leak | adopt | add | cache => exact .inl (List.mem_of_mem_erase hm)
  | _ => exact .inl hm

lemma Act.output_of (h : Act env x y) (hm : (.output, q) ∈ y.1.hold) : (.output, q) ∈ x.1.hold ∨
    (q ∈ x.2.store.dpb.picList ∧ Store.waitsForOutput (x.2.pic q)) ∨
    (x.2.lastField = some q ∧ ∃ p, (.settled, p) ∈ x.1.hold ∧ Names x p q) ∨
    ((.settled, q) ∈ x.1.hold ∧ (x.2.pic q).isFrame) := by
  cases h with
  | bump drain p hp =>
    simp only [Phase.hold_take, List.mem_cons, Prod.mk.injEq, true_and] at hm
    rcases hm with rfl | hm
    · obtain ⟨i, hi⟩ := Store.bump_eq_some hp
      obtain ⟨hat, hw⟩ := Store.lowest_spec hi
      exact .inr (.inl ⟨List.mem_of_getElem? hat, hw⟩)
    · exact .inl hm
  | takeLast p q' hp hs hpq hl =>
    simp only [Phase.hold_take, List.mem_cons, Prod.mk.injEq, true_and] at hm
    rcases hm with rfl | hm
    · exact .inr (.inr (.inl ⟨hl, p, hp, hs, hpq⟩))
    · exact .inl hm
  | direct p hp hf =>
    simp only [Phase.hold_turn, List.mem_cons, Prod.mk.injEq, true_and] at hm
    rcases hm with rfl | hm
    · exact .inr (.inr (.inr ⟨hp, hf⟩))
    · exact .inl (List.mem_of_mem_erase hm)
  | new r hr =>
    simp only [Phase.hold_take, List.mem_cons, Prod.mk.injEq] at hm
    rcases hm with ⟨rfl, -⟩ | hm
    · rcases hr with hr | hr <;> cases hr
    · exact .inl hm
  | borrow | keep =>
    simp only [Phase.hold_take, List.mem_cons, Prod.mk.injEq, reduceCtorEq, false_and, false_or] at hm
    exact .inl hm
  | endPicture =>
    simp only [Phase.setCurrent, Phase.take, List.mem_cons, Prod.mk.injEq, reduceCtorEq, false_and, false_or] at hm
    exact .inl hm
  | beginMarking | endMarking | skipMarking | settle | doom | splitPair =>
    simp only [Phase.hold_setDone, Phase.hold_turn, List.mem_cons, Prod.mk.injEq, reduceCtorEq, false_and,
      false_or] at hm
    exact .inl (List.mem_of_mem_erase hm)
  | display =>
    simp only [Phase.hold_take, Phase.hold_turn, List.mem_cons, Prod.mk.injEq, reduceCtorEq, false_and, false_or] at hm
    exact .inl (List.mem_of_mem_erase hm)
  | finishFrame | forgetShown | unref | leak | adopt | add | cache => exact .inl (List.mem_of_mem_erase hm)
  | _ => exact .inl hm

lemma firstField_cons_of_none {e : Event} (h : startsOf p e = none) : firstField (e :: log) p = firstField log p := by
  rw [firstField, starts_cons_of_none h]
  rfl

/-- The field that the picture completes, if it is a second one. -/
def firstOf (a : Picture) : Option PicId := if a.secondField then a.otherField else none

-- how the current picture came to be decoded, and what was told of it
lemma Act.firstField_of (h : Act env x y) (hy : y.1.current = .decoding p) :
    (x.1.current = .decoding p ∧ firstField (calls y.2.store.log) p = firstField (calls x.2.store.log) p) ∨
      (firstField (calls y.2.store.log) p = firstOf (y.2.pic p)) := by
  rcases h.speaks with hs | hs
  · exact .inl ⟨hs.decoding p hy, by rw [hs.calls]⟩
  · cases hs with
    | @start k s _ slice vkpic hk hv =>
      cases hy
      have hfield := setVkPic_sameField p p (startVkPic env s p slice vkpic) s
      have hnew : firstField (calls (s.startPicture env p slice vkpic).store.log) p = firstOf (s.pic p) := by
        show ((starts (.startPicture p (s.startInfo env p slice) :: calls s.store.log) p).head?.bind _) = _
        rw [starts_cons_start]
        rfl
      right
      rw [hnew, firstOf, ← hfield.secondField, ← hfield.otherField]
      rfl
    | alloc q hq hv =>
      refine .inl ⟨hy, ?_⟩
      unfold Decoder.allocPicture
      simp only
      split <;> exact firstField_cons_of_none rfl
    | endPicture q vkpic hk hv hk' hb => rcases hk' with ⟨hk', -⟩ | ⟨hk', -⟩ <;> cases hk'.symm.trans hy
    | display q vkpic frame hv hk hb hf => exact .inl ⟨hk.symm.trans hy, firstField_cons_of_none rfl⟩
    | configure | rejectSps => exact .inl ⟨hy, rfl⟩
    | _ => exact .inl ⟨hy, firstField_cons_of_none rfl⟩

end Entries

/-- The picture was decoded, or it is a second field. -/
def entered (x : Phase × Decoder P) (p : PicId) : Prop :=
  (x.2.pic p).secondField ∨ .opened p ∈ entries (calls x.2.store.log)

structure FramesShown (x : Phase × Decoder P) : Prop where
  valid : Valid (entries (calls x.2.store.log))
  made : ∀ p, .opened p ∈ entries (calls x.2.store.log) → p < x.2.store.next
  once : ∀ p, chances x p ≤ 1
  spent : ∀ p, .closed p ∈ entries (calls x.2.store.log) → chances x p = 0
  undecoded : ∀ p, (.fresh, p) ∈ x.1.hold ∨ (x.1.current.place = some p ∧ x.1.current ≠ .lost p) →
    .opened p ∉ entries (calls x.2.store.log)
  started : ∀ p, x.1.current = .decoding p → firstField (calls x.2.store.log) p = firstOf (x.2.pic p)
  held : ∀ r p, r.decoded → (r, p) ∈ x.1.hold → entered x p
  last : ∀ p, x.2.lastField = some p → entered x p
  stored : ∀ p ∈ x.2.store.dpb.picList, entered x p ∨ (x.2.pic p).userData = none
  lone : ∀ p ∈ x.2.store.dpb.picList, Lone (x.2.pic p) → entered x p ∨ (x.2.pic p).nonexisting
  output : ∀ p, (.output, p) ∈ x.1.hold → (x.2.pic p).secondField = false ∧ (entered x p ∨ (x.2.pic p).userData = none)
  first : ∀ p q, x.1.current.place = some p → x.1.current ≠ .lost p → Names x p q →
    .opened q ∈ entries (calls x.2.store.log) ∧ .closed q ∉ entries (calls x.2.store.log) ∧ (.output, q) ∉ x.1.hold

lemma chances_known (h : 0 < chances x q) : known x q := by
  by_cases hs : q ∈ x.2.store.dpb.picList
  · exact .inl (places_of_mem hs)
  · have h0 : x.2.store.neededAt q = 0 := if_neg fun hn => hs hn.1
    by_cases hl : slot x.2.lastField q = 0
    · by_cases hc : slot x.1.current.place q = 0
      · obtain ⟨r, hr, -⟩ := exists_of_weigh_ne (w := Role.chances) (l := x.1.hold) (b := q)
          (by unfold chances at h; omega)
        exact .inr ⟨r, hr⟩
      · exact .inl (by unfold places; omega)
    · exact .inl (by unfold places; omega)

lemma chances_of_hold {r : Role} (h : (r, q) ∈ x.1.hold) : r.chances ≤ chances x q := by
  have := le_weigh (w := Role.chances) h
  unfold chances
  omega

-- a picture that comes to be stored was decoded, is the other half of a frame, or was missing
lemma Arrives.below (ha : Arrives x p) (hx : Placed x) : p < x.2.store.next := by
  cases ha with
  | held hp hr => exact hx.flight_below hp
  | last hp hr hl => exact hx.below p (.inl (places_of_lastField hl))

lemma FramesShown.arrives (hf : FramesShown x) (hff : FirstFields x) (ha : Arrives x p) :
    entered x p ∨ (.gap, p) ∈ x.1.hold := by
  cases ha with
  | held hp hr =>
    rcases hr with rfl | rfl | rfl
    · exact .inr hp
    · exact .inl (.inl (hff.half p hp))
    · exact .inl (hf.held .settled p (by simp [Role.decoded]) hp)
  | last hp hr hl => exact .inl (hf.last p hl)

-- what a field that a new one completes is like
lemma FramesShown.begins (hf : FramesShown x) (hx : Placed x) (hl : Linked x) (hff : FirstFields x)
    (hh : ∀ {r : Role} {a : PicId}, r ≠ .fresh → (r, a) ∉ x.1.hold) (hb : BeginsPair x.2 q) :
    .opened q ∈ entries (calls x.2.store.log) ∧ 0 < chances x q ∧
      (q ∈ x.2.store.dpb.picList → Store.waitsForOutput (x.2.pic q) = false) := by
  obtain ⟨hsec, -, hframe⟩ := BeginsPair.spec (k := x.1) hl hx hb
  have hopen : entered x q → .opened q ∈ entries (calls x.2.store.log) := fun he =>
    he.resolve_left (by rw [hsec]; exact Bool.false_ne_true)
  rcases prevField_mem hb.prevField with hlast | ⟨hm, -, ho⟩
  · refine ⟨hopen (hf.last q hlast), ?_, fun hm => absurd hlast (hx.not_last_of_stored hm)⟩
    rw [chances, hlast, slot_some, isAt_self]
    omega
  · have hlone : Lone (x.2.pic q) := ⟨hsec, hframe, ho⟩
    have hexists : (x.2.pic q).nonexisting = false := by
      by_contra hn
      obtain ⟨a, ha, -⟩ := hff.missing q hm hlone (by simpa using hn)
      exact hh (by simp) ha
    have hneeded : (x.2.pic q).neededForOutput = true := by rw [hff.needed q hm hlone, hexists]; rfl
    have hone : x.2.store.neededAt q = 1 := if_pos ⟨hm, hneeded⟩
    refine ⟨hopen ((hf.lone q hm hlone).resolve_right (by rw [hexists]; exact Bool.false_ne_true)), ?_, fun _ =>
      hlone.not_waiting⟩
    unfold chances
    omega

section Preservation

variable (h : Act env x y) (hx : Placed x) (hf : FramesShown x)

include h

lemma entries_subset : entries (calls x.2.store.log) ⊆ entries (calls y.2.store.log) := by
  cases h.enters with
  | quiet hl => exact hl ▸ List.Subset.refl _
  | decoded hk hy hs =>
    rw [hs]
    exact List.subset_cons_self _ _
  | displayed hp hv hy =>
    rw [hy]
    exact List.subset_cons_self _ _

-- what is entered last
lemma opened_of (ho : .opened p ∈ entries (calls y.2.store.log)) :
    .opened p ∈ entries (calls x.2.store.log) ∨
      (x.1.current = .decoding p ∧ (y.1.current = .gone p ∨ y.1.current = .lost p)) := by
  cases h.enters with
  | quiet he => exact .inl (he ▸ ho)
  | @decoded a vkpic hk hy hs =>
    rw [hs, entries_endPicture] at ho
    refine (List.mem_cons.mp ho).symm.imp_right fun ho => ?_
    cases hfirst : firstField (calls x.2.store.log) a with
    | none =>
      rw [hfirst] at ho
      cases ho
      exact ⟨hk, hy⟩
    | some q =>
      rw [hfirst] at ho
      cases ho
  | displayed hp hv hy =>
    rw [hy] at ho
    exact .inl ((List.mem_cons.mp ho).resolve_left (by simp))

lemma FramesShown.closed_of (hf : FramesShown x) (hc : .closed p ∈ entries (calls y.2.store.log)) :
    .closed p ∈ entries (calls x.2.store.log) ∨ ((.output, p) ∈ x.1.hold ∧ chances y p = 0) := by
  cases h.enters with
  | quiet he => exact .inl (he ▸ hc)
  | @decoded a vkpic hk hy hs =>
    rw [hs, entries_endPicture] at hc
    refine .inl ((List.mem_cons.mp hc).resolve_left fun hc => ?_)
    cases hfirst : firstField (calls x.2.store.log) a with
    | none | some q =>
      rw [hfirst] at hc
      cases hc
  | @displayed a vkpic frame hp hv hy =>
    rw [hy] at hc
    rcases List.mem_cons.mp hc with hc | hc
    · cases hc
      have hone := hf.once p
      have hpos := weigh_erase (w := Role.chances) hp p
      refine .inr ⟨hp, ?_⟩
      have hn : (x.2.displayPicture env p vkpic frame).store.neededAt p = x.2.store.neededAt p := rfl
      have hlast : (x.2.displayPicture env p vkpic frame).lastField = x.2.lastField := rfl
      rw [hy]
      simp [chances, hn, hlast, Role.chances, Role.owns] at hone hpos ⊢
      omega
    · exact .inl hc

lemma FramesShown.valid_step (hf : FramesShown x) (hl : Linked x) : Valid (entries (calls y.2.store.log)) := by
  cases h.enters with
  | quiet he => exact he ▸ hf.valid
  | @decoded a vkpic hk hy hs =>
    rw [hs, entries_endPicture]
    refine ⟨?_, hf.valid⟩
    have hplace : x.1.current.place = some a := by rw [hk]; rfl
    have hne : x.1.current ≠ .lost a := by rw [hk]; simp
    rw [hf.started a hk, firstOf]
    split
    · rename_i hsec
      obtain ⟨q, hq⟩ := hl.named a hsec
      rw [hq]
      obtain ⟨ho, hclosed, -⟩ := hf.first a q hplace hne ⟨hsec, hq⟩
      exact hf.valid.mem_live ho hclosed
    · exact hf.undecoded a (.inr ⟨hplace, hne⟩)
  | @displayed a vkpic frame hp hv hy =>
    rw [hy]
    refine ⟨?_, hf.valid⟩
    obtain ⟨hsec, he⟩ := hf.output a hp
    have hent := he.resolve_right (by rw [hv]; simp)
    refine hf.valid.mem_live (hent.resolve_left (by rw [hsec]; exact Bool.false_ne_true)) fun hclosed => ?_
    have h1 : 1 ≤ chances x a := chances_of_hold hp
    rw [hf.spent a hclosed] at h1
    exact absurd h1 (Nat.not_succ_le_zero 0)

include hx

lemma entered_step (he : entered x p) (hp : p < x.2.store.next) : entered y p := by
  refine he.imp (fun hs => ?_) fun ho => entries_subset h ho
  cases h.relinks hx p with
  | same hsame => exact hsame.secondField.trans hs
  | made hn => exact absurd hp (hn ▸ lt_irrefl _)
  | begun _ hs' | halved _ _ _ hs' => exact hs'.trans hs
  | second _ _ hs' | half _ _ _ _ _ _ _ hs' => exact hs'
  | linked _ _ _ hs' => exact hs'.trans hs

include hf

lemma FramesShown.once_step (p : PicId) : chances y p ≤ 1 := by
  rcases h.chances_le hx p with hle | ⟨rfl, hle⟩
  · exact hle.trans (hf.once p)
  · have h0 : ¬0 < chances x x.2.store.next := fun hpos => absurd (hx.below _ (chances_known hpos)) (lt_irrefl _)
    omega

lemma FramesShown.made_step (ho : .opened p ∈ entries (calls y.2.store.log)) : p < y.2.store.next := by
  rcases opened_of h ho with ho | ⟨hk, -⟩
  · exact (hf.made p ho).trans_le h.next_le
  · exact (hx.below p (.inl (by rw [places, hk]; simp [Current.place]))).trans_le h.next_le

lemma FramesShown.spent_step (hc : .closed p ∈ entries (calls y.2.store.log)) : chances y p = 0 := by
  rcases hf.closed_of h hc with hc | ⟨-, h0⟩
  · have h0 := hf.spent p hc
    rcases h.chances_le hx p with hle | ⟨rfl, -⟩
    · omega
    · exact absurd (hf.made _ (hf.valid.opened_of_closed hc)) (lt_irrefl _)
  · exact h0

lemma FramesShown.undecoded_step
    (hp : (.fresh, p) ∈ y.1.hold ∨ (y.1.current.place = some p ∧ y.1.current ≠ .lost p)) :
    .opened p ∉ entries (calls y.2.store.log) := by
  intro ho
  rcases opened_of h ho with ho | ⟨hk, hy⟩
  · rcases hp with hp | ⟨hp, hne⟩
    · rcases h.fresh_of hp with hp | rfl
      · exact hf.undecoded p (.inl hp) ho
      · exact lt_irrefl _ (hf.made _ ho)
    · rcases h.place_of hp with hc | hm
      · refine hf.undecoded p (.inr ⟨hc, fun hlost => ?_⟩) ho
        rcases h.lost_left hx hlost with hlost | h0
        · exact hne hlost
        · rw [places, hp, slot_some, isAt_self] at h0
          omega
      · exact hf.undecoded p (.inl hm) ho
  · rcases hp with hp | ⟨hp, hne⟩
    · rcases h.fresh_of hp with hp | rfl
      · exact hx.current_hold (by rw [hk]; rfl) rfl hp
      · exact absurd (hx.below _ (.inl (by rw [places, hk]; simp [Current.place]))) (lt_irrefl _)
    · rcases hy with hy | hy
      · rw [hy] at hp
        cases hp
      · exact hne hy

lemma FramesShown.started_step (hl : Linked x) (hk : y.1.current = .decoding p) :
    firstField (calls y.2.store.log) p = firstOf (y.2.pic p) := by
  rcases h.firstField_of hk with ⟨hkx, hlog⟩ | hnew
  · have hno : ∀ {r : Role}, r.owns = 1 → (r, p) ∉ x.1.hold := fun hr => hx.current_hold (by rw [hkx]; rfl) hr
    rw [hlog, hf.started p hkx, firstOf, firstOf]
    cases h.relinks hx p with
    | same hsame => rw [hsame.secondField, hsame.otherField]
    | made hn => exact absurd (hx.below p (.inl (by rw [places, hkx]; simp [Current.place]))) (hn ▸ lt_irrefl _)
    | begun _ hs ho | halved _ _ _ hs ho => rw [hs, ho]
    | second hm | half _ _ _ _ hm => exact absurd hm (hno rfl)
    | linked hs ho _ hsec =>
      rw [hsec, (hl.pair _ p hs ho).1]
      rfl
  · exact hnew

lemma entered_endPicture {vkpic : VkPic} (hk : x.1.current = .decoding p) (hs : y.2 = x.2.endPicture env p vkpic) :
    entered y p := by
  by_cases hsec : (x.2.pic p).secondField
  · exact entered_step h hx (.inl hsec) (hx.below p (.inl (by rw [places, hk]; simp [Current.place])))
  · right
    rw [hs, entries_endPicture, hf.started p hk, firstOf, if_neg hsec]
    exact List.mem_cons_self

lemma FramesShown.held_step {r : Role} (hr : r.decoded) (hm : (r, p) ∈ y.1.hold) : entered y p := by
  have hkeep : ∀ r', r'.decoded → (r', p) ∈ x.1.hold → entered y p := fun r' hr' hm' =>
    entered_step h hx (hf.held r' p hr' hm') (hx.flight_below hm')
  rcases h.hold_of hm with hm | ⟨hr', -⟩ | ⟨rfl, -⟩ | ⟨r', ht, hm'⟩ | h0
  · exact hkeep r hr hm
  · rcases hr with rfl | rfl | rfl | rfl <;> rcases hr' with hr' | hr' <;> cases hr'
  · rcases h.ended_of hm with hm | ⟨hk, vkpic, hs⟩
    · exact hkeep _ hr hm
    · exact entered_endPicture h hx hf hk hs
  · cases ht with
    | begin => exact hkeep .ended (.inl rfl) hm'
    | skip => exact hkeep .ended (.inl rfl) hm'
    | finish => exact hkeep .marking (.inr (.inl rfl)) hm'
    | settle => exact hkeep .marked (.inr (.inr (.inl rfl))) hm'
    | split => simp [Role.decoded] at hr
  · rw [hr.owns] at h0
    cases h0

lemma FramesShown.last_step (hl : y.2.lastField = some p) : entered y p := by
  rcases h.lastField hl with hl | ⟨hm, -⟩
  · exact entered_step h hx (hf.last p hl) (hx.below p (.inl (places_of_lastField hl)))
  · exact entered_step h hx (hf.held .settled p (by simp [Role.decoded]) hm) (hx.flight_below hm)

lemma FramesShown.stored_step (hff : FirstFields x) (hb : Balanced x) (hm : p ∈ y.2.store.dpb.picList) :
    entered y p ∨ (y.2.pic p).userData = none := by
  have hkept : p ∈ x.2.store.dpb.picList → entered y p ∨ (y.2.pic p).userData = none := fun hm => by
    refine (hf.stored p hm).imp (fun he => entered_step h hx he (hx.below p (.inl (places_of_mem hm)))) fun hu => ?_
    exact h.userData_none hu fun hfresh => hx.not_stored (flight_of_hold hfresh rfl) hm
  cases h.restocks hx with
  | kept hl => exact hkept (hl ▸ hm)
  | @stored a ha hs =>
    rw [hs, Store.addPicture_dpb, Store.dpbAdd_picList] at hm
    rcases List.mem_append.mp hm with hm | hm
    · exact hkept hm
    · obtain rfl := List.mem_singleton.mp hm
      rcases hf.arrives hff ha with he | hg
      · exact .inl (entered_step h hx he (ha.below hx))
      · exact .inr (h.userData_none (hb.gap p hg) (hx.not_fresh hg rfl (by simp)))
  | deleted hs =>
    rw [hs] at hm
    exact hkept (Store.shrinks_dpbDeleteUnused.picList.subset hm)
  | bumped hb hs =>
    rw [hs] at hm
    exact hkept (Store.shrinks_dpbBump.picList.subset hm)
  | cleared hs =>
    rw [hs, Store.dpbClear_picList] at hm
    cases hm

lemma FramesShown.lone_step (hff : FirstFields x) (hp : x.2.store.Paired) (hm : p ∈ y.2.store.dpb.picList)
    (ho : Lone (y.2.pic p)) :
    entered y p ∨ (y.2.pic p).nonexisting := by
  rcases (h.restocks hx).lone hp hm ho with ⟨hm, hs⟩ | ⟨ha, hs⟩
  · refine (hf.lone p hm (hs.toSameField.lone ho)).imp
      (fun he => entered_step h hx he (hx.below p (.inl (places_of_mem hm)))) fun hn => hs.nonexisting.trans hn
  · rcases hf.arrives hff ha with he | hg
    · exact .inl (entered_step h hx he (ha.below hx))
    · right
      obtain ⟨b, o, hpic⟩ := (Store.adds_dpbAdd p x.2.store).pic p
      rw [Decoder.pic, hs, Store.addPicture_pic, hpic] at ho ⊢
      exact ((hff.gap p hg).resolve_left ho.field).2

lemma FramesShown.output_step (hl : Linked x) (hm : (.output, p) ∈ y.1.hold) :
    (y.2.pic p).secondField = false ∧ (entered y p ∨ (y.2.pic p).userData = none) := by
  have hkept : (x.2.pic p).secondField = false → entered x p ∨ (x.2.pic p).userData = none → (.fresh, p) ∉ x.1.hold →
      p < x.2.store.next → (y.2.pic p).secondField = false ∧ (entered y p ∨ (y.2.pic p).userData = none) :=
    fun hs he hfresh hlt => ⟨h.second_steady hx hs hfresh,
      he.imp (fun he => entered_step h hx he hlt) fun hu => h.userData_none hu hfresh⟩
  rcases h.output_of hm with hm | ⟨hm, hw⟩ | ⟨hlast, -⟩ | ⟨hm, hframe⟩
  · obtain ⟨hs, he⟩ := hf.output p hm
    exact hkept hs he (fun hfresh => (hl.output p hm).1 (flight_of_hold hfresh rfl)) (hx.flight_below hm)
  · refine hkept ?_ (hf.stored p hm) (fun hfresh => hx.not_stored (flight_of_hold hfresh rfl) hm)
      (hx.below p (.inl (places_of_mem hm)))
    by_contra hs
    have hs : (x.2.pic p).secondField = true := by simpa using hs
    have hframe := hl.secondFields hx p hm hs
    rw [Store.waits_of_second hs hframe] at hw
    cases hw
  · exact hkept (hl.last p hlast).1 (.inl (hf.last p hlast))
      (fun hfresh => hx.not_last (flight_of_hold hfresh rfl) hlast)
      (hx.below p (.inl (places_of_lastField hlast)))
  · exact hkept (hl.frame_first hx (.inr rfl) hm (by simpa [Picture.isFrame] using hframe))
      (.inl (hf.held .settled p (by simp [Role.decoded]) hm))
      (hx.not_fresh hm rfl (by simp)) (hx.flight_below hm)

-- a first field whose second one is decoded stands by itself, in the DPB or as the cached field
lemma FramesShown.first_step (hl : Linked x) (hm : Mated x) (hff : FirstFields x) (hc : y.1.current.place = some p)
    (hne : y.1.current ≠ .lost p) (hn : Names y p q) : .opened q ∈ entries (calls y.2.store.log) ∧
      .closed q ∉ entries (calls y.2.store.log) ∧ (.output, q) ∉ y.1.hold := by
  have hy := h.placed hx
  have hpy : 0 < places y p := by rw [places, hc, slot_some, isAt_self]; omega
  -- what is left is that the first field is not output
  have hshow : .opened q ∈ entries (calls x.2.store.log) → .closed q ∉ entries (calls x.2.store.log) →
      (.output, q) ∉ x.1.hold → (.output, q) ∉ y.1.hold → .opened q ∈ entries (calls y.2.store.log) ∧
      .closed q ∉ entries (calls y.2.store.log) ∧ (.output, q) ∉ y.1.hold := fun ho hclosed hout hout' =>
    ⟨entries_subset h ho, fun hc => (hf.closed_of h hc).elim hclosed fun hc => hout hc.1, hout'⟩
  rcases Commits.of_step h hx hl ⟨hpy, hy.current_hold hc rfl⟩ hn with ⟨⟨hpx, hfresh⟩, hnx⟩ | ⟨hh, hk, hst, hb⟩ |
    ⟨-, -, -, -, -, hp', -⟩
  · have hcx : x.1.current.place = some p := (h.place_of hc).resolve_right hfresh
    have hnex : x.1.current ≠ .lost p := fun hlost => (h.lost_left hx hlost).elim hne fun h0 => by omega
    obtain ⟨ho, hclosed, hout⟩ := hf.first p q hcx hnex hnx
    have hframe : (x.2.pic q).field ≠ .frame := by
      rcases hl.opposite p q hpx hnx.secondField hnx.otherField with hm | ⟨slice, hst⟩ | hopp
      · exact absurd hm hfresh
      · exact (hl.starting p slice q hst hnx.secondField hnx.otherField).1
      · exact hopp.right
    refine hshow ho hclosed hout fun hm' => ?_
    rcases h.output_of hm' with hm' | ⟨hst, hw⟩ | ⟨-, p', hp', hn'⟩ | ⟨-, hf'⟩
    · exact hout hm'
    · have hnone := hff.free p q (.inr (.inl hcx)) hfresh hnx hst
      simp [Store.waitsForOutput, Picture.isFrame, hframe, hnone] at hw
    · have hc' : committed x p' := committed_of_hold hx hp' rfl (by simp)
      obtain rfl := hm.sole p p' q ⟨hpx, hfresh⟩ hc' hnx hn'
      exact hx.current_hold hcx rfl hp'
    · exact hframe (by simpa [Picture.isFrame] using hf')
  · have hnot : ∀ {r : Role} {a : PicId}, r ≠ .fresh → (r, a) ∉ x.1.hold := fun hr hm => by
      rw [hh, List.mem_singleton, Prod.mk.injEq] at hm
      exact hr hm.1
    obtain ⟨ho, hpos, hw⟩ := hf.begins hx hl hff hnot hb
    refine hshow ho (fun hclosed => ?_) (hnot (by simp)) fun hm' => ?_
    · rw [hf.spent q hclosed] at hpos
      exact lt_irrefl 0 hpos
    · rcases h.output_of hm' with hm' | ⟨hst, hw'⟩ | ⟨-, p', hp', -⟩ | ⟨hm', -⟩
      · exact hnot (by simp) hm'
      · rw [hw hst] at hw'
        cases hw'
      · exact hnot (by simp) hp'
      · exact hnot (by simp) hm'
  · exact absurd hp' (hy.current_hold hc rfl)

end Preservation

lemma Act.framesShown (h : Act env x y) (hs : Sound x) (hm : Mated x) (hff : FirstFields x) (hb : Balanced x)
    (hp : x.2.store.Paired) (hf : FramesShown x) : FramesShown y where
  valid := hf.valid_step h hs.links
  made _ ho := hf.made_step h hs.placed ho
  once := hf.once_step h hs.placed
  spent _ hc := hf.spent_step h hs.placed hc
  undecoded _ hp := hf.undecoded_step h hs.placed hp
  started _ hk := hf.started_step h hs.placed hs.links hk
  held _ _ hr hm := hf.held_step h hs.placed hr hm
  last _ hl := hf.last_step h hs.placed hl
  stored _ hm := hf.stored_step h hs.placed hff hb hm
  lone _ hm ho := hf.lone_step h hs.placed hff hp hm ho
  output _ hm := hf.output_step h hs.placed hs.links hm
  first _ _ hc hne hn := hf.first_step h hs.placed hs.links hm hff hc hne hn

lemma framesShown_start : FramesShown (Phase.idle, Decoder.start env) where
  valid := trivial
  made _ ho := by cases ho
  once _ := Nat.zero_le _
  spent _ hc := by cases hc
  undecoded _ hp := by rcases hp with hp | ⟨hp, -⟩ <;> cases hp
  started _ hk := by cases hk
  held _ _ _ hm := by cases hm
  last _ hl := by cases hl
  stored _ hm := by cases hm
  lone _ hm := by cases hm
  output _ hm := by cases hm
  first _ _ hc := by cases hc

lemma framesShown_reach (h : ReflTransGen (Act env) (Phase.idle, Decoder.start env) x) : FramesShown x := by
  induction h with
  | refl => exact framesShown_start
  | tail hreach hact ih =>
    exact hact.framesShown (sound_start.reach hreach) (mated_reach hreach) (firstFields_reach hreach)
      (balanced_reach hreach)
      (paired_reach hreach) ih

/-- In every run a frame is decoded before it is displayed, both fields of it if there are two, and displayed at most
once, as its first field; no second field is displayed, and none is decoded after its frame was displayed. -/
theorem frames_displayedOnce (env : Env P) (inputs : List Input) : Valid (entries (clientCalls env inputs)) := by
  obtain ⟨k, hk⟩ := reach_final env inputs
  exact (framesShown_reach hk).valid

end VkVideoParser.H264
