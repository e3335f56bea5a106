import VkVideoParser.Library.Framing
import VkVideoParser.H265.Script

/-! The NAL units of an hvcC record are parsed array after array, and what follows the last array is asked for. -/

namespace VkVideoParser.H265

open Execution Framing

variable {P : Type} {env : Env P} {s : Decoder P}

/-- The NAL units of one type. -/
structure HvcArray where
  completenessAndType : UInt8
  nalus : List (List UInt8)
  nalus_lt : nalus.length < 256 ^ 2
  units_lt : ∀ a ∈ nalus, 2 ≤ a.length ∧ a.length < 256 ^ 2

def HvcArray.bytes (a : HvcArray) : List UInt8 :=
  a.completenessAndType :: bigEndian 2 a.nalus.length ++ a.nalus.flatMap (unit 2)

/-- An HEVC decoder configuration record: its version, the twenty bytes on profile, level and format, the byte that
ends with the size of a length, and the arrays. -/
structure HvcConfiguration where
  version : UInt8
  format : List UInt8
  temporalLayers : UInt8
  arrays : List HvcArray
  version_le : version = 0 ∨ version = 1
  format_length : format.length = 20
  arrays_lt : arrays.length < 256

namespace HvcConfiguration

variable (c : HvcConfiguration)

def header : List UInt8 := c.version :: c.format ++ [c.temporalLayers, UInt8.ofNat c.arrays.length]

def bytes : List UInt8 := c.header ++ c.arrays.flatMap HvcArray.bytes

def nalus : List (List UInt8) := c.arrays.flatMap HvcArray.nalus

end HvcConfiguration

/-- The NAL units of the codec data, up to the first that fails. -/
def parseEach (env : Env P) : List GstH265NalUnit → DecoderM P GstFlowReturn
  | [] => return .ok
  | nalu :: nalus => do
    let ret ← parseCodecDataNalu env nalu
    if ret ≠ .ok then return ret else parseEach env nalus

lemma parseEach_append (l m : List GstH265NalUnit) : parseEach env (l ++ m) =
    (parseEach env l >>= fun ret => if ret ≠ .ok then return ret else parseEach env m) := by
  induction l with
  | nil => simp [parseEach]
  | cons nalu l ih =>
    simp only [List.cons_append, parseEach, ih, bind_assoc]
    refine bind_congr fun ret => ?_
    by_cases h : ret = .ok <;> simp [h]

variable {content : List UInt8 → GstH265NalUnit}

-- the loop over an array goes on where its last NAL unit ends
lemma parseCodecDataNalus_bind {data : List UInt8} {α : Type} {l : List GstH265NalUnit} {off stop : Nat}
    (hl : Found (fun off => env.parser.identifyNaluHevc data off 2) off l stop) (f : GstFlowReturn × Nat → DecoderM P α)
    (hf : ∀ ret off, ret ≠ .ok → f (ret, off) = f (ret, stop)) :
    (parseCodecDataNalus env data l.length off >>= f) = (parseEach env l >>= fun ret => f (ret, stop)) := by
  induction hl with
  | nil => simp [parseCodecDataNalus, parseEach]
  | cons hfind _ ih =>
    rename_i nalu off next stop l hl
    simp only [List.length_cons, parseCodecDataNalus, hfind, parseEach, bind_assoc]
    refine bind_congr fun ret => ?_
    by_cases h : ret = .ok
    · simpa [h] using ih hf
    · simp [h, hf ret off h]

/-- What the parsing of the arrays ends with: the header of the last one must not be the end of the record. -/
def lastFilled : List HvcArray → GstFlowReturn
  | [] => .ok
  | [a] => if a.nalus = [] then .error else .ok
  | _ :: a :: l => lastFilled (a :: l)

namespace HvcArray

variable (a : HvcArray) {pre rest : List UInt8}

def head : List UInt8 := [a.completenessAndType, UInt8.ofNat (a.nalus.length / 256), UInt8.ofNat a.nalus.length]

lemma length_head : a.head.length = 3 := rfl

lemma bytes_eq : a.bytes = a.head ++ a.nalus.flatMap (unit 2) := rfl

lemma count : ((pre ++ (a.bytes ++ rest)).getD (pre.length + 1) 0).toNat * 2 ^ 8 +
    ((pre ++ (a.bytes ++ rest)).getD (pre.length + 2) 0).toNat = a.nalus.length := by
  have hlt := a.nalus_lt
  have hget : ∀ i < 3, (pre ++ (a.bytes ++ rest)).getD (pre.length + i) 0 = a.head.getD i 0 := fun i hi => by
    rw [List.getD_eq_getElem?_getD, List.getElem?_append_right (Nat.le_add_right ..), Nat.add_sub_cancel_left, bytes_eq,
      List.append_assoc, List.getElem?_append_left hi, List.getD_eq_getElem?_getD]
  rw [hget 1 (by omega), hget 2 (by omega)]
  simp [head]
  omega

lemma found {identify : List UInt8 → Nat → Nat → Option (GstH265NalUnit × Nat)}
    (h : Splits 2 a.nalus content identify) :
    Found (fun off => identify (pre ++ (a.bytes ++ rest)) off 2) (pre.length + 3) (a.nalus.map content)
      (pre ++ a.bytes).length := by
  have hfound := h.found (pre ++ a.head) rest
  have hdata : pre ++ a.head ++ a.nalus.flatMap (unit 2) ++ rest = pre ++ (a.bytes ++ rest) := by simp [bytes_eq]
  have hend : (pre ++ a.head).length + (a.nalus.flatMap (unit 2)).length = (pre ++ a.bytes).length := by
    rw [bytes_eq, ← List.append_assoc, @List.length_append _ (pre ++ a.head)]
  rw [hdata, hend, List.length_append] at hfound
  exact hfound

lemma le_length_bytes : 3 ≤ a.bytes.length := by
  rw [bytes_eq, List.length_append, length_head]
  exact Nat.le_add_right ..

-- the record ends with the header of an array that is empty
lemma length_bytes_le : a.bytes.length ≤ 3 ↔ a.nalus = [] := by
  rw [bytes_eq, List.length_append, length_head]
  cases h : a.nalus with
  | nil => exact ⟨fun _ => rfl, fun _ => le_rfl⟩
  | cons b l =>
    rw [List.flatMap_cons, List.length_append, length_unit]
    exact ⟨fun hle => absurd hle (by omega), fun hnil => absurd hnil (List.cons_ne_nil b l)⟩

end HvcArray

lemma parseCodecDataArrays_eq (l : List HvcArray)
    (hsplit : Splits 2 (l.flatMap HvcArray.nalus) content env.parser.identifyNaluHevc) (pre : List UInt8) :
    parseCodecDataArrays env (pre ++ l.flatMap HvcArray.bytes) l.length pre.length = (do
      let ret ← parseEach env ((l.flatMap HvcArray.nalus).map content)
      if ret ≠ .ok then return ret else return lastFilled l) := by
  induction l generalizing pre with
  | nil => simp [parseCodecDataArrays, parseEach, lastFilled]
  | cons a l ih =>
    have hshort : (pre ++ (a.bytes ++ l.flatMap HvcArray.bytes)).length ≤ pre.length + 3 ↔ a.nalus = [] ∧ l = [] := by
      rw [← a.length_bytes_le]
      cases l with
      | nil => simp
      | cons b l =>
        have ha := a.le_length_bytes
        have hb := b.le_length_bytes
        simp only [List.flatMap_cons, List.length_append, reduceCtorEq, and_false, iff_false]
        omega
    rw [List.flatMap_cons, List.length_cons, parseCodecDataArrays]
    by_cases hend : a.nalus = [] ∧ l = []
    · obtain ⟨hnil, rfl⟩ := hend
      rw [if_pos (hshort.mpr ⟨hnil, rfl⟩)]
      simp [hnil, parseEach, lastFilled]
    · have hlast : lastFilled (a :: l) = lastFilled l := by
        cases l with
        | nil => simpa [lastFilled] using hend
        | cons b l => rfl
      rw [if_neg (mt hshort.mp hend), a.count, ← List.length_map (f := content),
        parseCodecDataNalus_bind (a.found (hsplit.mono (List.subset_append_left ..))) _
          (fun ret off h => by simp [h]), List.flatMap_cons, List.map_append,
        parseEach_append, bind_assoc, hlast]
      refine bind_congr fun ret => ?_
      by_cases h : ret = .ok
      · simpa [h] using ih (hsplit.mono (List.subset_append_right ..)) (pre ++ a.bytes)
      · simp [h]

/-- The NAL units of an hvcC record are parsed in its order, up to the first that fails; where none fails, a last array
without NAL units is an error. -/
theorem parseCodecData_hvcC (c : HvcConfiguration)
    (hsplit : Splits 2 c.nalus content env.parser.identifyNaluHevc) :
    parseCodecData env c.bytes = (do
      modify fun s => { s with nalLengthSize := c.temporalLayers.toNat % 4 + 1 }
      let ret ← parseEach env (c.nalus.map content)
      if ret ≠ .ok then return ret else return lastFilled c.arrays) := by
  have hlen : c.header.length = 23 := by simp [HvcConfiguration.header, c.format_length]
  have hbyte : ∀ i < 23, c.bytes.getD i 0 = c.header.getD i 0 := fun i hi => by
    rw [List.getD_eq_getElem?_getD, HvcConfiguration.bytes, List.getElem?_append_left (hlen ▸ hi),
      List.getD_eq_getElem?_getD]
  have hsize : ¬c.bytes.length < 23 := by simp [HvcConfiguration.bytes, hlen]
  have h0 : ¬(c.bytes.getD 0 0 ≠ 0 ∧ c.bytes.getD 0 0 ≠ 1) := by
    rw [hbyte 0 (by omega)]
    rcases c.version_le with h | h <;> simp [HvcConfiguration.header, h]
  have hformat : ∀ j, c.header.getD (21 + j) 0 = [c.temporalLayers, UInt8.ofNat c.arrays.length].getD j 0 := fun j => by
    have hj : (c.version :: c.format).length ≤ 21 + j := by simp [c.format_length]
    rw [List.getD_eq_getElem?_getD, HvcConfiguration.header, List.getElem?_append_right hj, List.getD_eq_getElem?_getD]
    simp [c.format_length]
  have h21 : c.bytes.getD 21 0 = c.temporalLayers := (hbyte 21 (by omega)).trans (hformat 0)
  have h22 : (c.bytes.getD 22 0).toNat = c.arrays.length := by
    have := c.arrays_lt
    rw [hbyte 22 (by omega), hformat 1]
    simp
    omega
  rw [parseCodecData, if_neg hsize, if_neg h0, h21, h22]
  refine bind_congr fun _ => ?_
  exact hlen ▸ parseCodecDataArrays_eq c.arrays hsplit c.header

section Examples

-- the type is in the first byte of the header
def setOf (a : List UInt8) : GstH265NalUnit :=
  { type := if (a.headD 0).toNat / 2 = 32 then .vps else if (a.headD 0).toNat / 2 = 33 then .sps else .pps
    data := a.drop 2 }

def hvcScript : Script where
  vps := [{}]
  sps := [{}]

def hvcEnv : Env Tables :=
  { hvcScript.env with parser := { hvcScript.parser with identifyNaluHevc := findUnit 2 setOf } }

def hvcArray (header : UInt8) (i : UInt8) : HvcArray where
  completenessAndType := header / 2
  nalus := [[header, 1, i]]
  nalus_lt := by simp
  units_lt := by simp

-- the array of the PPSs is empty
def hvcRecord : HvcConfiguration where
  version := 1
  format := List.replicate 20 0
  temporalLayers := 3
  arrays := [hvcArray 64 0, hvcArray 66 0, ⟨34, [], by decide, by decide⟩]
  version_le := .inr rfl
  format_length := rfl
  arrays_lt := by decide

theorem parseCodecData_hvcC_three : parseCodecData hvcEnv hvcRecord.bytes = (do
    modify fun s => { s with nalLengthSize := 4 }
    let ret ← parseEach hvcEnv [setOf [64, 1, 0], setOf [66, 1, 0]]
    if ret ≠ .ok then return ret else return .error) :=
  parseCodecData_hvcC hvcRecord (findUnit_splits setOf (by decide))

end Examples

end VkVideoParser.H265
