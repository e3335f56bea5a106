import VkVideoParser.H264.PictureFlags
import VkVideoParser.H265.Started

/-! The field and scan flags of the pictures that are decoded. They are read as a picture starts; the H.264 decoder
writes them as it is output, and that of H.265 never says of a field that it is interlaced. -/

namespace VkVideoParser

open Execution Histories

namespace H265

variable {P : Type} {env : Env P} {s : Decoder P} {log : List Event} {p : PicId} {data : PictureData}

-- H.265, table D.2
def GstH265SEIPicStructType.isBottomField : GstH265SEIPicStructType → Bool
  | .bottomField | .bottomPairedPreviousTop | .bottomPairedNextTop => true
  | _ => false

def GstH265SEIPicStructType.isFieldPair : GstH265SEIPicStructType → Bool
  | .topBottom | .bottomTop => true
  | _ => false

/-- A field is not said to be progressive, and its parity is that of the timing of the picture. -/
structure FieldFlags (log : List Event) (p : PicId) (data : PictureData) : Prop where
  progressive : data.fieldPicFlag → data.progressiveFrame = false
  bottom : data.fieldPicFlag → ∀ a ∈ startOf p log, data.bottomFieldFlag = a.1.picture.picStruct.isBottomField

/-- The active SPS has no fields for pictures, or it has, other than the SPS received last, and the timing of the
picture is that of a frame of two fields. -/
def PairOrFrame (log : List Event) (p : PicId) : Prop :=
  ∀ a ∈ startOf p log, fieldSeqFlagOf a.1.active.sps = false ∨ (a.1.fieldSeqFlag = false ∧ a.1.picture.picStruct.isFieldPair)

-- a picture that is flagged interlaced is a frame of two fields
lemma Flagged.flags {x : Picture} (h : Flagged s x) :
    (x.bufferFlagInterlaced ↔ s.fieldSeqFlag = false ∧ x.picStruct.isFieldPair) ∧
      (x.bufferFlagInterlaced → x.bufferFlagOnefield = x.picStruct.isBottomField) := by
  have hi : x.bufferFlagInterlaced = (setBufferFlags s.fieldSeqFlag { picStruct := x.picStruct }).bufferFlagInterlaced :=
    congrArg Prod.fst h
  have ho : x.bufferFlagOnefield = (setBufferFlags s.fieldSeqFlag { picStruct := x.picStruct }).bufferFlagOnefield :=
    congrArg (fun a => a.2.2) h
  rw [hi, ho]
  cases s.fieldSeqFlag <;> cases x.picStruct <;> decide

lemma Shown.fieldFlags {d : DecodeCall} {slice : GstH265Slice} {vps : GstH265VPS} {v : VkPic}
    (h : Shown env log d s slice vps v) : FieldFlags log d.picture d.data ↔ PairOrFrame log d.picture := by
  have hfield : d.data.settled.fieldPicFlag = fieldSeqFlagOf (s.activation env slice.header.pps).sps := by rw [h.data]; rfl
  have hprog : d.data.settled.progressiveFrame = !(s.pic d.picture).bufferFlagInterlaced := by rw [h.data]; rfl
  have hbottom : d.data.settled.bottomFieldFlag = (s.pic d.picture).bufferFlagOnefield := by rw [h.data]; rfl
  have hflags := h.flagged.flags
  constructor
  · intro hx a ha
    cases h.start.symm.trans ha
    by_cases hf : fieldSeqFlagOf (s.activation env slice.header.pps).sps = false
    · exact .inl hf
    · have hf' : d.data.fieldPicFlag = true := hfield.trans (by simpa using hf)
      have hint := hprog.symm.trans (hx.progressive hf')
      exact .inr (hflags.1.mp (by simpa using hint))
  · intro hx
    rcases hx _ h.start with hf | hpair
    · have hf' : d.data.fieldPicFlag = false := hfield.trans hf
      exact ⟨fun h' => absurd (hf'.symm.trans h') (by decide), fun h' => absurd (hf'.symm.trans h') (by decide)⟩
    · have hint : (s.pic d.picture).bufferFlagInterlaced = true := hflags.1.mpr hpair
      refine ⟨fun _ => hprog.trans (by rw [hint]; rfl), fun _ a ha => ?_⟩
      cases h.start.symm.trans ha
      exact hbottom.trans (hflags.2 hint)

lemma always_fieldFlags (env : Env P) (inputs : List Input) :
    Always (fun l e => ∀ d ∈ e.decodeCall, FieldFlags l d.picture d.data ↔ PairOrFrame l d.picture)
      (final (runInputs env inputs (Decoder.start env))).store.log :=
  always_shown env inputs fun _ _ _ _ _ _ _ h => h.fieldFlags

end H265

/-- In every run the flags of a field are right exactly when it is none: an H.264 frame, or in H.265 a picture of a
sequence of frames, or a frame of two fields. -/
theorem fieldFlags_iff {P P' : Type} (env : H264.Env P) (env' : H265.Env P') (inputs : List H264.Input)
    (inputs' : List H265.Input) :
    Always (fun l e => ∀ d ∈ e.decodeCall, H264.FieldFlags l d.picture d.data ↔ H264.IsFrame l d.picture)
        (H264.clientCalls env inputs) ∧
      Always (fun l e => ∀ d ∈ e.decodeCall, H265.FieldFlags l d.picture d.data ↔ H265.PairOrFrame l d.picture)
        (final (H265.runInputs env' inputs' (H265.Decoder.start env'))).store.log :=
  ⟨H264.always_fieldFlags env inputs, H265.always_fieldFlags env' inputs'⟩

section Examples

-- a frame of two fields, the top field first
def fieldPairScript : H264.Script where
  sps := [H264.Script.interlaced]
  pps := [{}]
  slices := [{ fieldPicFlag := true }, { fieldPicFlag := true, bottomFieldFlag := true, picOrderCntLsb := 1 }]

def fieldPairCalls : List H264.Event :=
  H264.clientCalls fieldPairScript.env
    (H264.Script.frames [[H264.Script.spsUnit 0, H264.Script.ppsUnit 0, H264.Script.idrUnit 0, H264.Script.sliceUnit 1]])

theorem fields_progressive :
    ¬Always (fun l e => ∀ d ∈ e.decodeCall, H264.FieldFlags l d.picture d.data) fieldPairCalls := by decide +kernel

end Examples

end VkVideoParser
