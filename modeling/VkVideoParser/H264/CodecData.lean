import VkVideoParser.Library.Framing
import VkVideoParser.H264.Script

/-! The parameter sets of an avcC record are decoded like the same NAL units in the stream. -/

namespace VkVideoParser.H264

open Execution Framing

variable {P : Type} {env : Env P} {s : Decoder P}

/-- An AVC decoder configuration record: its first five bytes, the SPSs and the PPSs, and what a high profile adds. -/
structure AvcConfiguration where
  profileIndication : UInt8
  profileCompatibility : UInt8
  levelIndication : UInt8
  lengthSizeMinusOne : Fin 4
  sps : List (List UInt8)
  pps : List (List UInt8)
  extension : List UInt8
  sps_lt : sps.length < 32
  pps_lt : pps.length < 256
  units_lt : ∀ a ∈ sps ++ pps, 1 ≤ a.length ∧ a.length < 256 ^ 2

namespace AvcConfiguration

variable (c : AvcConfiguration)

-- the reserved bits are ones
def spsPart : List UInt8 :=
  [1, c.profileIndication, c.profileCompatibility, c.levelIndication, UInt8.ofNat (252 + c.lengthSizeMinusOne),
    UInt8.ofNat (224 + c.sps.length)]

def bytes : List UInt8 :=
  c.spsPart ++ c.sps.flatMap (unit 2) ++ UInt8.ofNat c.pps.length :: (c.pps.flatMap (unit 2) ++ c.extension)

end AvcConfiguration

lemma decodeNals_append (l m : List GstH264NalUnit) : decodeNals env (l ++ m) =
    (decodeNals env l >>= fun ret => if ret ≠ .ok then return ret else decodeNals env m) := by
  induction l with
  | nil => simp [decodeNals]
  | cons nalu l ih =>
    simp only [List.cons_append, decodeNals, ih, bind_assoc]
    refine bind_congr fun ret => ?_
    by_cases h : ret = .ok <;> simp [h]

-- a loop over the sets of the record that goes on where the last one ends
lemma parseCodecDataSets_bind {parse : GstH264NalUnit → DecoderM P GstFlowReturn} {data : List UInt8} {α : Type}
    {l : List GstH264NalUnit} {off stop : Nat}
      (hl : Found (fun off => env.parser.identifyNaluAvc data off 2) off l stop)
    (hparse : ∀ nalu ∈ l, parse nalu = decodeNal env nalu) (f : GstFlowReturn × Nat → DecoderM P α)
    (hf : ∀ ret off, ret ≠ .ok → f (ret, off) = f (ret, stop)) :
    (parseCodecDataSets env parse data l.length off >>= f) = (decodeNals env l >>= fun ret => f (ret, stop)) := by
  induction hl with
  | nil => simp [parseCodecDataSets, decodeNals]
  | cons hfind _ ih =>
    rename_i nalu off next stop l hl
    simp only [List.length_cons, parseCodecDataSets, hfind, decodeNals, hparse nalu List.mem_cons_self, bind_assoc]
    refine bind_congr fun ret => ?_
    by_cases h : ret = .ok
    · simpa [h] using ih (fun nalu hn => hparse nalu (List.mem_cons_of_mem _ hn)) hf
    · simp [h, hf ret off h]

variable {content : List UInt8 → GstH264NalUnit}

namespace AvcConfiguration

variable (c : AvcConfiguration) {identify : List UInt8 → Nat → Nat → Option (GstH264NalUnit × Nat)}

/-- Where the SPSs end and the number of the PPSs stands. -/
def spsEnd : Nat := (c.spsPart ++ c.sps.flatMap (unit 2)).length

lemma bytes_getElem? {i : Nat} (h : i < 6) : c.bytes[i]? = c.spsPart[i]? := by
  rw [bytes, List.append_assoc, List.getElem?_append_left (by simpa [spsPart] using h)]

lemma bytes_spsEnd : c.bytes[c.spsEnd]? = some (UInt8.ofNat c.pps.length) := by
  rw [bytes, spsEnd, List.getElem?_append_right le_rfl, Nat.sub_self, List.getElem?_cons_zero]

lemma spsEnd_lt : c.spsEnd < c.bytes.length := (List.getElem?_eq_some_iff.mp c.bytes_spsEnd).1

lemma found_sps (h : Splits 2 (c.sps ++ c.pps) content identify) :
    Found (fun off => identify c.bytes off 2) 6 (c.sps.map content) c.spsEnd := by
  have hfound := (h.mono (List.subset_append_left ..)).found c.spsPart
    (UInt8.ofNat c.pps.length :: (c.pps.flatMap (unit 2) ++ c.extension))
  rwa [← List.length_append] at hfound

lemma found_pps (h : Splits 2 (c.sps ++ c.pps) content identify) : ∃ stop,
    Found (fun off => identify c.bytes off 2) (c.spsEnd + 1) (c.pps.map content) stop := by
  have hfound := (h.mono (List.subset_append_right ..)).found
    (c.spsPart ++ c.sps.flatMap (unit 2) ++ [UInt8.ofNat c.pps.length]) c.extension
  have hdata : c.spsPart ++ c.sps.flatMap (unit 2) ++ [UInt8.ofNat c.pps.length] ++ c.pps.flatMap (unit 2) ++
      c.extension =
      c.bytes := by simp [bytes]
  have hstart : (c.spsPart ++ c.sps.flatMap (unit 2) ++ [UInt8.ofNat c.pps.length]).length = c.spsEnd + 1 := by
    rw [List.length_append, spsEnd, List.length_singleton]
  rw [hdata, hstart] at hfound
  exact ⟨_, hfound⟩

end AvcConfiguration

/-- The sets of an avcC record are decoded in its order, up to the first that fails, like NAL units of the stream. -/
theorem parseCodecData_avcC (c : AvcConfiguration)
    (hsplit : Splits 2 (c.sps ++ c.pps) content env.parser.identifyNaluAvc)
    (hsps : ∀ a ∈ c.sps, (content a).type = .sps) (hpps : ∀ a ∈ c.pps, (content a).type = .pps) :
    parseCodecData env c.bytes = (do
      modify fun s => { s with nalLengthSize := c.lengthSizeMinusOne + 1 }
      decodeNals env ((c.sps ++ c.pps).map content)) := by
  have hbyte : ∀ i < 6, c.bytes.getD i 0 = c.spsPart.getD i 0 := fun i hi => by
    rw [List.getD_eq_getElem?_getD, c.bytes_getElem? hi, List.getD_eq_getElem?_getD]
  have hsize : ¬c.bytes.length < 7 := by
    have := c.spsEnd_lt
    rw [AvcConfiguration.spsEnd, List.length_append] at this
    exact Nat.not_lt.mpr (Nat.lt_of_le_of_lt (Nat.le_add_right 6 _) this)
  have h0 : c.bytes.getD 0 0 = 1 := hbyte 0 (by omega)
  have h4 : (c.bytes.getD 4 0).toNat % 4 + 1 = c.lengthSizeMinusOne + 1 := by
    rw [hbyte 4 (by omega)]
    simp [AvcConfiguration.spsPart]
    omega
  have h5 : (c.bytes.getD 5 0).toNat % 32 = (c.sps.map content).length := by
    have := c.sps_lt
    rw [hbyte 5 (by omega)]
    simp [AvcConfiguration.spsPart]
    omega
  have hcount : (c.bytes.getD c.spsEnd 0).toNat = (c.pps.map content).length := by
    have := c.pps_lt
    rw [List.getD_eq_getElem?_getD, c.bytes_spsEnd]
    simp
    omega
  obtain ⟨stop, hfound⟩ := c.found_pps hsplit
  have hparseSps : ∀ nalu ∈ c.sps.map content, parseSps env nalu = decodeNal env nalu := by
    simp only [List.forall_mem_map]
    intro a ha
    rw [decodeNal, hsps a ha]
  have hparsePps : ∀ nalu ∈ c.pps.map content, parsePps env nalu = decodeNal env nalu := by
    simp only [List.forall_mem_map]
    intro a ha
    rw [decodeNal, hpps a ha]
  rw [parseCodecData, if_neg hsize, if_neg (by rw [h0]; decide), h4, h5, List.map_append, decodeNals_append]
  refine bind_congr fun _ => ?_
  rw [parseCodecDataSets_bind (c.found_sps hsplit) hparseSps _ (fun ret off h => by simp [h])]
  refine bind_congr fun ret => ?_
  by_cases h : ret = .ok
  · simp only [h, ne_eq, not_true_eq_false, if_false, if_neg (Nat.not_le.mpr c.spsEnd_lt), hcount]
    rw [parseCodecDataSets_bind hfound hparsePps _ (fun _ _ _ => rfl)]
    exact bind_pure _
  · simp [h]

section Examples

-- the type is in the low bits of the header
def setOf (a : List UInt8) : GstH264NalUnit :=
  { type := if (a.headD 0).toNat % 32 = 7 then .sps else if (a.headD 0).toNat % 32 = 8 then .pps else .other
    data := a.tail }

def avcScript : Script where
  sps := [Script.progressive]
  pps := [{ id := 0 }, { id := 1 }]
  slices := []

def avcEnv : Env Tables :=
  { avcScript.env with parser := { avcScript.parser with identifyNaluAvc := findUnit 1 setOf } }

def avcRecord : AvcConfiguration where
  profileIndication := 77
  profileCompatibility := 0
  levelIndication := 40
  lengthSizeMinusOne := 3
  sps := [[0x67, 0]]
  pps := [[0x68, 0], [0x68, 1]]
  extension := []
  sps_lt := by decide
  pps_lt := by decide
  units_lt := by decide

theorem parseCodecData_avcC_two : parseCodecData avcEnv avcRecord.bytes = (do
    modify fun s => { s with nalLengthSize := 4 }
    decodeNals avcEnv [setOf [0x67, 0], setOf [0x68, 0], setOf [0x68, 1]]) :=
  parseCodecData_avcC avcRecord (findUnit_splits setOf avcRecord.units_lt) (by decide) (by decide)

end Examples

end VkVideoParser.H264
