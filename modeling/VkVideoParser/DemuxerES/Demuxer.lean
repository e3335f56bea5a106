import Mathlib.Data.List.Basic

/-! The demuxer of gstdemuxeres.c with the threads that share it: its caller, the bus and the
streaming threads of the pipeline. A label names an atomic step; an event of the appsink is pulled
and handled in one, since no other thread sees the queue. -/

namespace VkVideoParser.DemuxerES

inductive GstDemuxerESState
  | idle | error | ready | eos
  deriving DecidableEq, Repr

inductive GstDemuxerEStreamType
  | unknown | video | audio | text | data
  deriving DecidableEq, Repr

structure GstDemuxerEStream where
  type : GstDemuxerEStreamType
  id : Nat
  streamId : Option String
  deriving DecidableEq, Repr

structure GstBuffer where
  pts : UInt64 := 0
  dts : UInt64 := 0
  duration : UInt64 := 0
  data : List UInt8 := []
  deriving DecidableEq, Repr

structure GstSample where
  buffer : Option GstBuffer
  deriving DecidableEq, Repr

inductive GstEvent
  | streamStart (streamId : String)
  | streamGroupDone
  | other
  deriving DecidableEq, Repr

/-- What the appsink delivers. -/
inductive GstMiniObject
  | event (event : GstEvent)
  | sample (sample : GstSample)
  deriving DecidableEq, Repr

structure GstDemuxerESPacket where
  sample : GstSample
  streamType : GstDemuxerEStreamType
  streamId : Nat
  packetNumber : UInt32
  pts : Int64
  dts : Int64
  duration : Int64
  data : List UInt8
  dataSize : Nat
  deriving DecidableEq, Repr

/-- What `gst_demuxer_es_read_packet` returns, with the packet it hands out. -/
inductive GstDemuxerESResult
  | newPacket (packet : GstDemuxerESPacket)
  | lastPacket (packet : GstDemuxerESPacket)
  | noPacket
  | error
  deriving DecidableEq, Repr

structure GstDemuxerES where
  state : GstDemuxerESState := .idle
  streams : List GstDemuxerEStream := []
  currentStreamId : Nat := 0
  currentStreamType : GstDemuxerEStreamType := .unknown
  pendingSample : Option GstSample := none
  packetCounter : UInt32 := 0
  deriving DecidableEq, Repr

namespace GstDemuxerES

def setDemuxerState (state : GstDemuxerESState) (d : GstDemuxerES) : GstDemuxerES := { d with state }

def findStream (streamId : String) (d : GstDemuxerES) : Option GstDemuxerEStream :=
  d.streams.find? fun stream => stream.streamId = some streamId

def setCurrentStream (stream : GstDemuxerEStream) (d : GstDemuxerES) : GstDemuxerES :=
  { d with currentStreamId := stream.id, currentStreamType := stream.type }

-- appsink_handle_event: whether the event is one that the look-ahead stops at
def appsinkHandleEvent (d : GstDemuxerES) : GstEvent → Bool × GstDemuxerES
  | .streamStart streamId => (true, (d.findStream streamId).elim d fun stream => d.setCurrentStream stream)
  | .streamGroupDone => (true, d.setDemuxerState .eos)
  | .other => (false, d)

def setPendingSample (sample : Option GstSample) (d : GstDemuxerES) : GstDemuxerES :=
  { d with pendingSample := sample }

def packetOf (d : GstDemuxerES) (sample : GstSample) (buffer : GstBuffer) : GstDemuxerESPacket where
  sample := sample
  streamType := d.currentStreamType
  streamId := d.currentStreamId
  packetNumber := d.packetCounter
  pts := buffer.pts.toInt64
  dts := buffer.dts.toInt64
  duration := buffer.duration.toInt64
  data := buffer.data
  dataSize := buffer.data.length

-- the packet of a sample, if it has a buffer
def newPacket (d : GstDemuxerES) (sample : GstSample) : Option GstDemuxerESPacket × GstDemuxerES :=
  match sample.buffer with
  | some buffer => (some (d.packetOf sample buffer), { d with packetCounter := d.packetCounter + 1 })
  | none => (none, d)

-- gst_parse_stream_create, appended to the streams
def appendStream (type : GstDemuxerEStreamType) (streamId : Option String) (d : GstDemuxerES) : GstDemuxerES :=
  { d with streams := d.streams ++ [{ type, id := d.streams.length, streamId }] }

end GstDemuxerES

/-- Where the thread of the caller stands: in `gst_demuxer_es_new` up to `created`, which returns the
demuxer or null, outside of the library, or in `gst_demuxer_es_read_packet`. -/
inductive Caller
  | starting
  | waiting
  | testing
  | created (ready : Bool)
  | null
  | outside
  | called
  | reading
  | lookingAhead (packet : Option GstDemuxerESPacket)
  | settling (packet : Option GstDemuxerESPacket)
  deriving DecidableEq, Repr

/-- An object that was pulled, and the streams known by then. -/
structure Pulled where
  streams : List GstDemuxerEStream
  object : GstMiniObject
  deriving DecidableEq, Repr

/-- `objects` are yet to be delivered, `idleSeen` says that the no-more-pads callback is about to
store READY; `results` and `pulled` list the last one first. The proofs alone see what was pulled,
whether an end of stream was signalled and whether an error was stored. -/
structure System where
  demuxer : GstDemuxerES := {}
  objects : List GstMiniObject
  idleSeen : Bool := false
  caller : Caller := .starting
  results : List GstDemuxerESResult := []
  pulled : List Pulled := []
  signalled : Bool := false
  failed : Bool := false
  deriving DecidableEq, Repr

inductive Label
  | setState (ok : Bool)
  | call
  | proceed
  | busError
  | busEos
  | padAdded (type : GstDemuxerEStreamType) (streamId : Option String)
  | noMorePads
  | storeReady
  deriving DecidableEq, Repr

namespace System

def goTo (c : Caller) (s : System) : System := { s with caller := c }

def mapDemuxer (f : GstDemuxerES → GstDemuxerES) (s : System) : System := { s with demuxer := f s.demuxer }

def finish (r : GstDemuxerESResult) (s : System) : System := { s with caller := .outside, results := r :: s.results }

-- gst_app_sink_try_pull_object
def pull (object : GstMiniObject) (rest : List GstMiniObject) (s : System) : System :=
  { s with objects := rest, pulled := ⟨s.demuxer.streams, object⟩ :: s.pulled }

def handleEvent (event : GstEvent) (s : System) : System :=
  { s with demuxer := (s.demuxer.appsinkHandleEvent event).2
           signalled := s.signalled || decide (event = .streamGroupDone) }

-- the first sample becomes a packet
def takeSample (sample : GstSample) (s : System) : System :=
  { s with demuxer := (s.demuxer.newPacket sample).2, caller := .lookingAhead (s.demuxer.newPacket sample).1 }

-- the first half of appsink_read_packet
def read (s : System) : System :=
  match s.demuxer.pendingSample with
  | some sample => (s.mapDemuxer (GstDemuxerES.setPendingSample none)).takeSample sample
  | none =>
    match s.objects with
    | [] => s.goTo (.lookingAhead none)
    | .event event :: rest => (s.pull (.event event) rest).handleEvent event
    | .sample sample :: rest => (s.pull (.sample sample) rest).takeSample sample

-- the second half: up to a stream start, the end of the stream or a sample
def lookAhead (packet : Option GstDemuxerESPacket) (s : System) : System :=
  match s.objects with
  | [] => s.goTo (.settling packet)
  | .event event :: rest =>
    ((s.pull (.event event) rest).handleEvent event).goTo
      (if (s.demuxer.appsinkHandleEvent event).1 then .settling packet else .lookingAhead packet)
  | .sample sample :: rest =>
    ((s.pull (.sample sample) rest).mapDemuxer (GstDemuxerES.setPendingSample (some sample))).goTo (.settling packet)

-- the end of gst_demuxer_es_read_packet
def settle (packet : Option GstDemuxerESPacket) (s : System) : System :=
  match packet with
  | none => s.finish .noPacket
  | some packet => s.finish (if s.demuxer.state = .eos then .lastPacket packet else .newPacket packet)

-- the next step of the caller's thread
def proceed (s : System) : Option System :=
  match s.caller with
  | .waiting => if s.demuxer.state = .idle then none else some (s.goTo .testing)
  | .testing => some (s.goTo (.created (s.demuxer.state = .ready ∨ s.demuxer.state = .eos)))
  | .created ready => some (s.goTo (if ready then .outside else .null))
  | .called => some (if s.demuxer.state = .error then s.finish .error else s.goTo .reading)
  | .reading => some s.read
  | .lookingAhead packet => some (s.lookAhead packet)
  | .settling packet => some (s.settle packet)
  | .starting | .null | .outside => none

-- a demuxer that was not created is torn down, with its threads
def step (s : System) (l : Label) : Option System :=
  if s.caller = .null then none
  else
    match l with
    | .setState ok => if s.caller = .starting then some (s.goTo (if ok then .waiting else .null)) else none
    | .call => if s.caller = .outside then some (s.goTo .called) else none
    | .proceed => s.proceed
    | .busError => some { s.mapDemuxer (GstDemuxerES.setDemuxerState .error) with failed := true }
    | .busEos => some { s.mapDemuxer (GstDemuxerES.setDemuxerState .eos) with signalled := true }
    | .padAdded type streamId => some (s.mapDemuxer (GstDemuxerES.appendStream type streamId))
    | .noMorePads => some { s with idleSeen := s.idleSeen || decide (s.demuxer.state = .idle) }
    | .storeReady =>
      if s.idleSeen then some { s.mapDemuxer (GstDemuxerES.setDemuxerState .ready) with idleSeen := false } else none

end System

def start (objects : List GstMiniObject) : System := { objects }

end VkVideoParser.DemuxerES
