import VkVideoParser.H265.Decoder

/-! A parser that reads from a NAL unit the place of its set or slice header in a script, and a client
that has a new buffer for every picture and never fails. The slot of a set is its id. -/

namespace VkVideoParser.H265

structure Script where
  vps : List GstH265VPS := []
  sps : List GstH265SPS := []
  pps : List GstH265PPS := []
  slices : List GstH265SliceHdr := []

/-- The sets stored by the parser, those stored last first. -/
structure Tables where
  vps : List GstH265VPS := []
  sps : List GstH265SPS := []
  pps : List GstH265PPS := []

namespace Script

def index (nalu : GstH265NalUnit) : Nat := (nalu.data.getD 0 0).toNat

def parser (t : Script) : GstH265Parser Tables where
  init := {}
  parseVps tables nalu :=
    match t.vps[index nalu]? with
    | some vps => (true, vps, { tables with vps := vps :: tables.vps })
    | none => (false, {}, tables)
  parseSps tables nalu :=
    match t.sps[index nalu]? with
    | some sps => (some sps, { tables with sps := sps :: tables.sps })
    | none => (none, tables)
  parsePps tables nalu :=
    match t.pps[index nalu]? with
    | some pps => (true, pps, { tables with pps := pps :: tables.pps })
    | none => (false, {}, tables)
  parseSliceHdr _ nalu := t.slices[index nalu]?
  parseSei _ _ := []
  identifyNaluHevc _ _ _ := none
  vps tables id := (tables.vps.find? fun vps => vps.id = id).getD {}
  sps tables id := (tables.sps.find? fun sps => sps.id = id).getD {}
  pps tables id := (tables.pps.find? fun pps => pps.id = id).getD {}

def env (t : Script) : Env Tables where
  parser := t.parser
  beginSequence _ _ := 0
  updateVps log _ _ := (true, some log.length)
  updateSps log _ _ := (true, some log.length)
  updatePps log _ _ := (true, some log.length)
  allocPictureBuffer log := some log.length
  decodePicture _ _ := true
  displayPicture _ _ _ := true
  finishFrame _ _ := .ok
  videoDecoderError _ := .error
  calculateDisplayRatio _ _ _ _ := none

def vpsUnit (i : Nat) : GstH265NalUnit := { type := .vps, data := [UInt8.ofNat i] }

def spsUnit (i : Nat) : GstH265NalUnit := { type := .sps, data := [UInt8.ofNat i] }

def ppsUnit (i : Nat) : GstH265NalUnit := { type := .pps, data := [UInt8.ofNat i] }

def idrUnit (i : Nat) : GstH265NalUnit := { type := .idrWRadl, data := [UInt8.ofNat i] }

def trailUnit (i : Nat) : GstH265NalUnit := { type := .trailR, data := [UInt8.ofNat i] }

-- one frame for each list of NAL units
def frames (l : List (List GstH265NalUnit)) : List Input :=
  .setFormat {} none :: l.map fun nalus => .handleFrame nalus 1

end Script

end VkVideoParser.H265
