import VkVideoParser.H264.Started

/-! The flags of a picture that DecodePicture is given: those of the fields and of the scan, whose source is
set when a picture is output, and that of an intra picture. -/

namespace VkVideoParser.H264

open Execution Relation Histories

variable {P : Type} {env : Env P} {k : Phase} {s : Decoder P} {x y : Phase × Decoder P} {log : List Event}
  {p q : PicId} {data : PictureData}

lemma Store.SameShape.bufferFlags {a b : Store} (h : Store.SameShape a b) (q : PicId) :
    (b.pic q).bufferFlags = (a.pic q).bufferFlags := by
  obtain ⟨n, hn⟩ := h.pic q
  rw [hn]
  rfl

lemma Store.Adds.bufferFlags {a b : Store} (h : Store.Adds p a b) (q : PicId) :
    (b.pic q).bufferFlags = (a.pic q).bufferFlags := by
  obtain ⟨_, _, hn⟩ := h.pic q
  rw [hn]
  rfl

lemma bufferFlags_modifyPic {f : Picture → Picture} (hf : ∀ x, (f x).bufferFlags = x.bufferFlags) (p q : PicId)
    (a : Store) : ((a.modifyPic p f).pic q).bufferFlags = (a.pic q).bufferFlags := by
  rw [Store.modifyPic_pic]
  split
  · rename_i hq
    rw [hf, hq]
  · rfl

lemma setVkPic_bufferFlags (p q : PicId) (vkpic : VkPic) (s : Decoder P) :
    ((setVkPic p vkpic s).pic q).bufferFlags = (s.pic q).bufferFlags :=
  bufferFlags_modifyPic (f := fun x => { x with userData := some vkpic }) (fun _ => rfl) p q s.store

lemma bufferFlags_splitFirst (x : Picture) : (splitFirst x).bufferFlags = x.bufferFlags := by
  unfold splitFirst
  split <;> rfl

lemma Store.dpbClear_bufferFlags (q : PicId) (a : Store) : (a.dpbClear.pic q).bufferFlags = (a.pic q).bufferFlags :=
  (Store.sameShape_unrefAll a.dpb.picList (a.setPicList [])).bufferFlags q

lemma Store.dpbDeleteUnused_bufferFlags (q : PicId) (a : Store) :
    (a.dpbDeleteUnused.pic q).bufferFlags = (a.pic q).bufferFlags :=
  (Store.sameShape_unrefAll (a.dpb.picList.filter a.unused) (a.setPicList _)).bufferFlags q

lemma Store.setNeeded_bufferFlags (p q : PicId) (needed : Bool) (a : Store) :
    ((a.setNeeded p needed).pic q).bufferFlags = (a.pic q).bufferFlags :=
  bufferFlags_modifyPic (f := fun x => { x with neededForOutput := needed }) (fun _ => rfl) p q a

lemma Store.bumpRef_bufferFlags (p q : PicId) (a : Store) : ((a.bumpRef p).pic q).bufferFlags = (a.pic q).bufferFlags := by
  have h : ((((a.ref p).setNeeded p false).addOutputNeeded (-1)).pic q).bufferFlags = (a.pic q).bufferFlags :=
    (Store.setNeeded_bufferFlags p q false (a.ref p)).trans ((Store.sameShape_ref p a).bufferFlags q)
  unfold Store.bumpRef
  simp only
  split <;> exact h

lemma Store.bumpRemove_bufferFlags (drain : Bool) (i : Nat) (p q : PicId) (a : Store) :
    ((a.bumpRemove drain i p).pic q).bufferFlags = (a.pic q).bufferFlags := by
  unfold Store.bumpRemove
  split
  · exact (Store.sameShape_unref p _).bufferFlags q
  · rfl

lemma Store.bumpOtherField_bufferFlags (h : q ≠ p) (a : Store) :
    ((a.bumpOtherField p).pic q).bufferFlags = (a.pic q).bufferFlags := by
  unfold Store.bumpOtherField
  split
  · rfl
  · rename_i r _
    have hset : (((a.touch r).setNeeded r false).pic q).bufferFlags = (a.pic q).bufferFlags :=
      (Store.setNeeded_bufferFlags r q false (a.touch r)).trans ((Store.sameShape_touch r a).bufferFlags q)
    simp only
    split
    · refine ((Store.sameShape_unref r _).bufferFlags q).trans ?_
      rw [Store.setPicList_pic, Store.modifyPic_pic, if_neg h]
      exact hset
    · rw [Store.modifyPic_pic, if_neg h]
      exact hset

-- a bump flags the picture that is output
lemma Store.dpbBump_bufferFlags {drain : Bool} {a : Store} (hp : (a.dpbBump drain).1 = some p) (h : q ≠ p) :
    ((a.dpbBump drain).2.pic q).bufferFlags = (a.pic q).bufferFlags := by
  obtain ⟨i, hi⟩ := Store.bump_eq_some hp
  rw [Store.bump_some hi]
  refine (Store.bumpOtherField_bufferFlags h _).trans ?_
  rw [Store.bumpRemove_bufferFlags, Store.bumpRef_bufferFlags]

-- only the output of a stored picture sets its flags
lemma Act.bufferFlags (h : Act env x y) (hq : q ∉ x.2.store.dpb.picList) :
    (y.2.pic q).bufferFlags = (x.2.pic q).bufferFlags ∨ (y.2.pic q).bufferFlags = (false, false) := by
  cases h with
  | new r hr =>
    rename_i k s
    by_cases hn : q = s.store.next
    · exact .inr (by simp [Decoder.pic, Store.pictureNew, hn, Picture.bufferFlags])
    · exact .inl (by simp [Decoder.pic, Store.pictureNew, hn])
  | book h => exact .inl (by rw [Decoder.pic, Decoder.pic, h.pic])
  | number h | mark p hp hk h => exact .inl (h.role q).bufferFlags
  | edit p hp hf | editLost p hk hf => exact .inl (bufferFlags_modifyPic hf.bufferFlags p q _)
  | linkSecond p p' => exact .inl (bufferFlags_modifyPic (f := linkSecondField p) (fun _ => rfl) p' q _)
  | link p p' => exact .inl (bufferFlags_modifyPic (f := linkField p) (fun _ => rfl) p' q _)
  | splitPair p p' =>
    exact .inl (splitPair_keeps (g := Picture.bufferFlags) (fun _ _ => rfl) bufferFlags_splitFirst (fun _ _ => rfl) p p' _ q)
  | start p slice vkpic | slice p slice vkpic | endPicture p vkpic | losePicture p vkpic =>
    exact .inl (setVkPic_bufferFlags p q _ _)
  | alloc p hp =>
    left
    unfold Decoder.allocPicture
    simp only
    split
    · rfl
    · exact setVkPic_bufferFlags p q _ _
  | borrow p hp | keep p hp => exact .inl ((Store.sameShape_ref _ _).bufferFlags q)
  | unref p hp | unrefCurrent p hp | unrefLast p hp => exact .inl ((Store.sameShape_unref _ _).bufferFlags q)
  | deleteUnused => exact .inl (Store.dpbDeleteUnused_bufferFlags q _)
  | dpbClear h => exact .inl (Store.dpbClear_bufferFlags q _)
  | bump drain p h =>
    refine .inl (Store.dpbBump_bufferFlags h fun hqp => hq ?_)
    obtain ⟨i, hi⟩ := Store.bump_eq_some h
    exact hqp ▸ List.mem_of_getElem? (Store.lowest_spec hi).1
  | add p hp hr | addLast p p' hp hr => exact .inl ((Store.adds_dpbAdd _ _).bufferFlags q)
  | removeFrame h => cases h <;> exact .inl rfl
  | _ => exact .inl rfl

/-- A picture on its way to the DPB has no flags. -/
def Unflagged (x : Phase × Decoder P) : Prop := ∀ q, flight x q → (x.2.pic q).bufferFlags = (false, false)

lemma unflagged_reach (h : ReflTransGen (Act env) (Phase.idle, Decoder.start env) x) : Unflagged x := by
  induction h with
  | refl => exact fun q _ => rfl
  | tail hreach hact ih =>
    intro q hq
    have hflight := hact.flight hq
    rcases hact.bufferFlags ((sound_start.reach hreach).placed.not_stored hflight) with he | he
    · rw [he, ih q hflight]
    · exact he

section Starting

variable {slice : GstH264Slice} {v : VkPic}

lemma Starting.sound (h : Starting env p s slice v) : ∃ k, Sound (k, s) ∧ Linked (k, s) ∧ Unflagged (k, s) ∧
    k.current.filledBy p slice := by
  obtain ⟨k, hreach, hk⟩ := h.reach
  exact ⟨k, sound_start.reach hreach, linked_reach hreach, unflagged_reach hreach, hk⟩

lemma Starting.bufferFlags (h : Starting env p s slice v) : (s.pic p).bufferFlags = (false, false) := by
  obtain ⟨k, -, -, hflags, hk⟩ := h.sound
  exact hflags p (.inr (.inl hk.place))

-- a frame is no second field
lemma Starting.secondField (h : Starting env p s slice v) (hf : slice.header.fieldPicFlag = false) :
    (s.pic p).secondField = false := by
  obtain ⟨k, hsound, hlinked, -, hk⟩ := h.sound
  by_contra hsec
  have hsec : (s.pic p).secondField := by simpa using hsec
  obtain ⟨q, hq⟩ := hlinked.named p hsec
  have hplace : 0 < places (k, s) p := by simp [places, hk.place]
  rcases hlinked.opposite p q hplace hsec hq with hfresh | hstarts | hopp
  · exact hsound.placed.current_hold (r := .fresh) hk.place rfl hfresh
  · exact hk.not_between ⟨p, .inl hstarts⟩
  · refine hopp.left ((hsound.told p slice hk).field.trans ?_)
    rw [sliceField, hf]
    rfl

end Starting

-- what DecodePicture was given for the field that a second one completes
def firstFieldData (log : List Event) (p : PicId) : Option PictureData :=
  ((starts log p).head?.bind StartInfo.otherField).bind fun q => (decodes log q).head?

/-- The order count of the top field, of two fields, is the lower one. -/
def topIsFirst (data first : PictureData) : Prop :=
  if data.bottomFieldFlag then first.pictureOrderCount < data.pictureOrderCount
  else data.pictureOrderCount < first.pictureOrderCount

/-- A field is not said to be progressive, its parity is that of the slice, and a second field says whether the
top field is the first one. -/
structure FieldFlags (log : List Event) (p : PicId) (data : PictureData) : Prop where
  progressive : data.fieldPicFlag → data.progressiveFrame = false
  bottom : data.fieldPicFlag → ∀ info ∈ (starts log p).head?,
    data.bottomFieldFlag = info.slice.header.bottomFieldFlag
  topFirst : data.secondField → ∀ first ∈ firstFieldData log p, (data.topFieldFirst ↔ topIsFirst data first)

instance (data first : PictureData) : Decidable (topIsFirst data first) := by unfold topIsFirst; infer_instance

instance (log : List Event) (p : PicId) (data : PictureData) : Decidable (FieldFlags log p data) :=
  decidable_of_iff ((data.fieldPicFlag → data.progressiveFrame = false) ∧
    (data.fieldPicFlag → ∀ info ∈ (starts log p).head?, data.bottomFieldFlag = info.slice.header.bottomFieldFlag) ∧
    (data.secondField → ∀ first ∈ firstFieldData log p, (data.topFieldFirst ↔ topIsFirst data first)))
    ⟨fun h => ⟨h.1, h.2.1, h.2.2⟩, fun h => ⟨h.1, h.2, h.3⟩⟩

/-- The slice that starts the picture is one of a frame. -/
def IsFrame (log : List Event) (p : PicId) : Prop :=
  ∀ info ∈ (starts log p).head?, info.slice.header.fieldPicFlag = false

lemma Shown.fieldFlags {d : DecodeCall} {slice : GstH264Slice} {v : VkPic} (h : Shown env log d s slice v) :
    FieldFlags log d.picture d.data ↔ IsFrame log d.picture := by
  have hfield : d.data.settled.fieldPicFlag = slice.header.fieldPicFlag := by rw [h.data]; rfl
  have hprog : d.data.settled.progressiveFrame = true := by
    rw [h.data]
    change (!(s.pic d.picture).bufferFlagInterlaced) = true
    rw [show (s.pic d.picture).bufferFlagInterlaced = false from congrArg Prod.fst h.bufferFlags]
    rfl
  constructor
  · intro hflags info hi
    cases h.start.symm.trans hi
    by_contra hf
    have hf : slice.header.fieldPicFlag = true := Bool.of_not_eq_false hf
    have hf' : d.data.fieldPicFlag = true := hfield.trans hf
    exact absurd ((hflags.progressive hf').symm.trans hprog) (by decide)
  · intro hframe
    have hslice : slice.header.fieldPicFlag = false := hframe _ h.start
    have hf : d.data.fieldPicFlag = false := hfield.trans hslice
    refine ⟨fun h' => absurd (hf.symm.trans h') (by decide), fun h' => absurd (hf.symm.trans h') (by decide), fun hsec => ?_⟩
    have hno : d.data.settled.secondField = false := by
      rw [h.data]
      exact h.secondField hslice
    exact absurd (hno.symm.trans hsec) (by decide)

lemma always_fieldFlags (env : Env P) (inputs : List Input) :
    Always (fun l e => ∀ d ∈ e.decodeCall, FieldFlags l d.picture d.data ↔ IsFrame l d.picture)
      (clientCalls env inputs) :=
  always_shown env inputs fun _ _ _ _ _ _ h => h.fieldFlags

def isIntra (slice : GstH264Slice) : Bool := isISlice slice.header || isSiSlice slice.header

def sliceOf (p : PicId) : Event → Option GstH264Slice
  | .decodeSlice q slice _ => if q = p then some slice else none
  | _ => none

/-- The slice that starts a picture, and those that decode_slice has got since. -/
def slicesOf (log : List Event) (p : PicId) : List GstH264Slice :=
  ((starts log p).head?.map StartInfo.slice).toList ++
    ((log.takeWhile fun e => !e.starts p).filterMap (sliceOf p)).reverse

/-- The slices of an intra picture, and of no other, are I and SI slices. -/
def IntraFlag (log : List Event) (p : PicId) (data : PictureData) : Prop :=
  data.intraPicFlag ↔ ∀ slice ∈ slicesOf log p, isIntra slice

instance (log : List Event) (p : PicId) (data : PictureData) : Decidable (IntraFlag log p data) :=
  inferInstanceAs (Decidable (_ ↔ _))

/-- When the slice that starts the picture is intra, so are the others. -/
def FirstDecides (log : List Event) (p : PicId) : Prop :=
  ∀ info ∈ (starts log p).head?, isIntra info.slice → ∀ slice ∈ slicesOf log p, isIntra slice

lemma mem_slicesOf {info : StartInfo} (h : (starts log p).head? = some info) : info.slice ∈ slicesOf log p := by
  rw [slicesOf, h]
  exact List.mem_append_left _ (List.mem_singleton_self _)

/-- The flag that DecodePicture is given is that of all slices exactly when no other slice follows a first one
that is intra. -/
theorem intraFlag_iff (env : Env P) (inputs : List Input) :
    Always (fun l e => ∀ d ∈ e.decodeCall, IntraFlag l d.picture d.data ↔ FirstDecides l d.picture)
      (clientCalls env inputs) := by
  refine always_shown env inputs fun l d s slice v _ h => ?_
  have hflag : d.data.settled.intraPicFlag = isIntra slice := by rw [h.data]; rfl
  have hmem : slice ∈ slicesOf l d.picture := mem_slicesOf h.start
  have hhead : ∀ info ∈ (starts l d.picture).head?, info.slice = slice := fun info hi => by
    cases h.start.symm.trans hi
    rfl
  constructor
  · intro hall info hi hintra
    refine hall.mp (hflag.trans ?_)
    rw [← hhead info hi, hintra]
  · intro hfirst
    refine ⟨fun hintra => hfirst _ h.start (hflag.symm.trans hintra), fun hall => hflag.trans (hall slice hmem)⟩

section Examples

-- an I slice, then a P slice
def refreshScript : Script where
  sps := [{ Script.progressive with width := 32 }]
  pps := [{}]
  slices := [{ type := 2 }, { type := 0, firstMbInSlice := 1 }, { type := 2, firstMbInSlice := 1 }]

def refreshCalls (second : Nat) : List Event :=
  clientCalls refreshScript.env
    (Script.frames [[Script.spsUnit 0, Script.ppsUnit 0, Script.idrUnit 0, Script.idrUnit second]])

theorem intraFlag_of_first : ¬Always (fun l e => ∀ d ∈ e.decodeCall, IntraFlag l d.picture d.data) (refreshCalls 1) := by
  decide +kernel

-- two I slices
example : Always (fun l e => ∀ d ∈ e.decodeCall, IntraFlag l d.picture d.data) (refreshCalls 2) := by
  decide +kernel

end Examples

end VkVideoParser.H264
