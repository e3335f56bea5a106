import VkVideoParser.Library.Pieces

/-! The buffer in which an element gathers the slices of a picture. -/

namespace VkVideoParser

open Pieces

def startCode : List UInt8 := [0, 0, 1]

/-- What an element holds of a picture after these slices: the buffer, their number and their offsets, with
that of the next one. -/
structure Gathers (nalus : List (List UInt8)) (bitstream : List UInt8) (count : Nat) (sliceOffsets : List Nat) :
    Prop where
  bitstream : bitstream = join startCode nalus
  count : count = nalus.length % 2 ^ 32
  offsets : sliceOffsets = (offsets startCode 0 nalus).map (· % 2 ^ 32)

/-- What DecodePicture is given is these slices, each behind a start code. Cutting the buffer at the offsets
and its end, and dropping the start codes, gives them back. -/
structure Assembled (nalus : List (List UInt8)) (data : List UInt8) (len count : Nat) (sliceOffsets : List Nat) :
    Prop where
  bytes : data = nalus.flatMap fun nalu => startCode ++ nalu
  dataLen : len = data.length
  numSlices : count = nalus.length
  begins : ∀ i < nalus.length, sliceOffsets[i]? = some ((nalus.take i).map fun nalu => 3 + nalu.length).sum
  pieces : (cut data (sliceOffsets.take nalus.length ++ [data.length])).map (List.drop 3) = nalus

variable {nalus : List (List UInt8)} {bitstream : List UInt8} {count : Nat} {sliceOffsets : List Nat}

lemma gathers_nil : Gathers [] [] 0 [0] := ⟨rfl, rfl, rfl⟩

lemma getLastD_map_mod {l : List Nat} (m : Nat) : (l.map (· % m)).getLastD 0 = l.getLastD 0 % m := by
  rw [List.getLastD_eq_getLast?, List.getLastD_eq_getLast?, List.getLast?_map]
  cases l.getLast? with
  | none => exact (Nat.zero_mod m).symm
  | some n => rfl

lemma Gathers.append (h : Gathers nalus bitstream count sliceOffsets) (nalu : List UInt8) :
    Gathers (nalus ++ [nalu]) (bitstream ++ [0, 0, 1] ++ nalu) ((count + 1) % 2 ^ 32)
      (sliceOffsets ++ [(sliceOffsets.getLastD 0 + nalu.length + 3) % 2 ^ 32]) := by
  refine ⟨?_, ?_, ?_⟩
  · rw [h.bitstream, join_append_singleton]
    rfl
  · rw [h.count, List.length_append, List.length_singleton, Nat.mod_add_mod]
  · have hlast : (sliceOffsets.getLastD 0 + nalu.length + 3) % 2 ^ 32 =
        (0 + size startCode (nalus ++ [nalu])) % 2 ^ 32 := by
      have hsize : size startCode (nalus ++ [nalu]) = size startCode nalus + (3 + nalu.length) := size_append_singleton
      rw [h.offsets, getLastD_map_mod, offsets_getLastD, hsize]
      omega
    rw [offsets_append_singleton, List.map_append, ← h.offsets, hlast]
    rfl

lemma length_le_size : nalus.length ≤ size startCode nalus := by
  induction nalus with
  | nil => exact Nat.le_refl 0
  | cons nalu nalus ih =>
    have hcode : startCode.length = 3 := rfl
    rw [List.length_cons, size_cons]
    omega

lemma join_eq_flatMap : join startCode nalus = nalus.flatMap fun nalu => startCode ++ nalu := by
  induction nalus with
  | nil => rfl
  | cons nalu nalus ih => rw [join, ih, List.flatMap_cons]

lemma Gathers.assembled (h : Gathers nalus bitstream count sliceOffsets) (hsize : size startCode nalus < 2 ^ 32) :
    Assembled nalus bitstream (bitstream.length % 2 ^ 32) count sliceOffsets := by
  have hoffsets : sliceOffsets = Pieces.offsets startCode 0 nalus := by
    rw [h.offsets]
    refine map_mod_of_lt fun i hi => ?_
    have hle := offsets_le hi
    omega
  refine ⟨h.bitstream.trans join_eq_flatMap, ?_, ?_, fun i hi => ?_, ?_⟩
  · rw [h.bitstream, length_join, Nat.mod_eq_of_lt hsize]
  · rw [h.count, Nat.mod_eq_of_lt (Nat.lt_of_le_of_lt length_le_size hsize)]
  · rw [hoffsets, offsets_getElem? (Nat.le_of_lt hi), Nat.zero_add]
    rfl
  · have hcut : (cut (join startCode nalus) (Pieces.offsets startCode 0 nalus)).map (List.drop startCode.length) = nalus :=
      cut_join
    rw [h.bitstream, hoffsets, length_join, offsets_take]
    exact hcut

end VkVideoParser
