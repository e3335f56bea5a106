import VkVideoParser.H264.Decoder

/-! A parser that reads from a NAL unit the place of its set or slice header in a script, and a client
that has a new buffer for every picture and never fails. -/

namespace VkVideoParser.H264

structure Script where
  sps : List GstH264SPS
  pps : List GstH264PPS
  slices : List GstH264SliceHdr

/-- The sets stored by the parser, those stored last first. -/
structure Tables where
  sps : List GstH264SPS := []
  pps : List GstH264PPS := []

namespace Script

def index (nalu : GstH264NalUnit) : Nat := (nalu.data.getD 0 0).toNat

def parser (t : Script) : GstH264NalParser Tables where
  init := {}
  parseSps nalu := t.sps[index nalu]?
  updateSps tables sps := some { tables with sps := sps :: tables.sps }
  parsePps _ nalu := t.pps[index nalu]?
  updatePps tables pps := some { tables with pps := pps :: tables.pps }
  parseSliceHdr _ nalu := t.slices[index nalu]?
  identifyNaluAvc _ _ _ := none
  sps tables id := (tables.sps.find? fun sps => sps.id = id).getD {}
  pps tables id := (tables.pps.find? fun pps => pps.id = id).getD {}

def env (t : Script) : Env Tables where
  parser := t.parser
  beginSequence _ _ := 0
  updateSps log _ _ := (true, some log.length)
  updatePps log _ _ := (true, some log.length)
  allocPictureBuffer log := some log.length
  decodePicture _ _ := true
  displayPicture _ _ _ := true
  finishFrame _ _ := .ok
  videoDecoderError _ := .error
  calculateDisplayRatio _ _ _ _ := none

def spsUnit (i : Nat) : GstH264NalUnit := { type := .sps, data := [UInt8.ofNat i] }

def ppsUnit (i : Nat) : GstH264NalUnit := { type := .pps, data := [UInt8.ofNat i] }

def idrUnit (i : Nat) : GstH264NalUnit :=
  { type := .sliceIdr, idrPicFlag := true, refIdc := 1, data := [UInt8.ofNat i] }

def sliceUnit (i : Nat) (refIdc : Nat := 1) : GstH264NalUnit := { type := .slice, refIdc, data := [UInt8.ofNat i] }

-- one frame for each list of NAL units
def frames (l : List (List GstH264NalUnit)) : List Input :=
  .setFormat {} false none :: l.map fun nalus => .handleFrame nalus 1

-- a progressive and an interlaced sequence of one macroblock row
def progressive : GstH264SPS :=
  { levelIdc := 40, profileIdc := 77, width := 16, height := 16, numRefFrames := 2, frameMbsOnlyFlag := true }

def interlaced : GstH264SPS := { progressive with frameMbsOnlyFlag := false }

end Script

end VkVideoParser.H264
