import VkVideoParser.Client
import VkVideoParser.Library.Ends
import VkVideoParser.Library.Ledger
import VkVideoParser.Library.Transitions

/-! The parser object that the client holds, and the harness and the bus it pushes its data into. -/

namespace VkVideoParser.ParserObject

open Execution Histories Ledger Transitions

inductive VkVideoCodecOperation
  | decodeH264
  | decodeH265
  | other
  deriving DecidableEq, Repr

inductive VkResult
  | success
  | errorInitializationFailed
  deriving DecidableEq, Repr

-- VK_MAKE_VIDEO_STD_VERSION(0, 9, 7)
def nvVulkanVideoParserApiVersion : UInt32 := (0 : UInt32) <<< 22 ||| (9 : UInt32) <<< 12 ||| 7

structure VkParserInitDecodeParameters where
  interfaceVersion : UInt32 := nvVulkanVideoParserApiVersion
  pClient : Bool := true
  deriving DecidableEq, Repr

structure VkParserBitstreamPacket where
  nDataLength : Int
  bEOS : Bool
  deriving DecidableEq, Repr

-- what GStreamer answers in the course of one call
structure Answers where
  initCheck : Bool := true
  elementMade : Bool := true
  linked : Bool := true
  memdup : Bool := true
  push : GstFlowReturn := .ok
  pushEvent : Bool := true
  deriving DecidableEq, Repr

inductive Resource
  | harness (n : Nat)
  | bus (n : Nat)
  deriving DecidableEq, Repr

-- the constructor sets neither member: `none` until Build has
structure GstVkVideoParser where
  codec : VkVideoCodecOperation
  parser : Option Resource := none
  bus : Option Resource := none
  deriving DecidableEq, Repr

structure GstVkVideoDecoderParser where
  refCount : BitVec 32 := 1
  codec : VkVideoCodecOperation
  parser : Option GstVkVideoParser := none
  deriving DecidableEq, Repr

structure Client where
  object : Option GstVkVideoDecoderParser
  made : Nat := 0
  log : List (Entry Resource) := []
  deriving DecidableEq, Repr

inductive ParserFault
  | nullPointer
  | indeterminatePointer
  | assertion
  | deleted
  deriving DecidableEq, Repr

abbrev ParserM := EStateM ParserFault Client

def create (kind : Nat → Resource) : ParserM Resource := do
  let r := kind (← get).made
  modify fun c => { c with made := c.made + 1, log := .opened r :: c.log }
  return r

-- a call on a member that Build sets
def onMember (entry : Resource → Entry Resource) : Option Resource → ParserM Unit
  | none => throw .indeterminatePointer
  | some r => modify fun c => { c with log := entry r :: c.log }

namespace GstVkVideoParser

def build (a : Answers) (p : GstVkVideoParser) : ParserM (GstVkVideoParser × Bool) :=
  if p.codec = .other then return (p, false)
  -- g_assert (decoder)
  else if !a.elementMade then throw .assertion
  else if !a.linked then return (p, false)
  else do
    let harness ← create .harness
    let bus ← create .bus
    return ({ p with parser := some harness, bus := some bus }, true)

-- also the draining of the bus in the destructor
def processMessages (p : GstVkVideoParser) : ParserM Unit := onMember .used p.bus

def delete (p : GstVkVideoParser) : ParserM Unit := do
  onMember .closed p.parser
  p.processMessages
  onMember .closed p.bus

def pushBuffer (a : Answers) (p : GstVkVideoParser) : ParserM GstFlowReturn := do
  onMember .used p.parser
  if a.push ≠ .ok ∧ a.push ≠ .eos then return a.push
  p.processMessages
  return a.push

def eos (a : Answers) (p : GstVkVideoParser) : ParserM GstFlowReturn := do
  onMember .used p.parser
  if !a.pushEvent then return .error
  p.processMessages
  return .eos

end GstVkVideoParser

def object : ParserM GstVkVideoDecoderParser := do
  match (← get).object with
  | some o => return o
  | none => throw .deleted

def setObject (o : GstVkVideoDecoderParser) : ParserM Unit := modify fun c => { c with object := some o }

def memberParser : ParserM GstVkVideoParser := do
  match (← object).parser with
  | some p => return p
  | none => throw .nullPointer

def parserInitialize (params : Option VkParserInitDecodeParameters) (a : Answers) : ParserM VkResult := do
  match params with
  | none => return .errorInitializationFailed
  | some params =>
    if params.interfaceVersion ≠ nvVulkanVideoParserApiVersion then return .errorInitializationFailed
    if !params.pClient then return .errorInitializationFailed
    if !a.initCheck then return .errorInitializationFailed
    let o ← object
    let (p, built) ← GstVkVideoParser.build a { codec := o.codec }
    setObject { o with parser := some p }
    return if built then .success else .errorInitializationFailed

def deInitialize : ParserM Bool := do
  let o ← object
  match o.parser with
  | none => return true
  | some p =>
    p.delete
    setObject { o with parser := none }
    return true

/-- The call's result, and what `parsed` points to when the caller gave it. -/
def parseByteStream (packet : VkParserBitstreamPacket) (parsed : Option Int) (a : Answers) :
    ParserM (Bool × Option Int) := do
  let failed := (false, parsed.map fun _ => 0)
  if packet.nDataLength ≠ 0 then
    if !a.memdup then return failed
    let p ← memberParser
    if (← p.pushBuffer a) ≠ .ok then return failed
  if packet.bEOS then
    let p ← memberParser
    if (← p.eos a) ≠ .eos then return failed
  return (true, parsed.map fun _ => packet.nDataLength)

def addRef : ParserM (BitVec 32) := do
  let o ← object
  setObject { o with refCount := o.refCount + 1 }
  return o.refCount + 1

def release : ParserM (BitVec 32) := do
  let o ← object
  setObject { o with refCount := o.refCount - 1 }
  if o.refCount - 1 = 0 then
    discard deInitialize
    modify fun c => { c with object := none }
    return 0
  return o.refCount - 1

inductive Call
  | parserInitialize (params : Option VkParserInitDecodeParameters) (a : Answers)
  | deInitialize
  | parseByteStream (packet : VkParserBitstreamPacket) (parsed : Option Int) (a : Answers)
  | addRef
  | release
  deriving DecidableEq, Repr

inductive Reply
  | result (r : VkResult)
  | done (b : Bool)
  | parsed (b : Bool) (parsed : Option Int)
  | count (n : BitVec 32)
  deriving DecidableEq, Repr

def perform : Call → ParserM Reply
  | .parserInitialize params a => .result <$> parserInitialize params a
  | .deInitialize => .done <$> deInitialize
  | .parseByteStream packet parsed a => do
    let (b, n) ← parseByteStream packet parsed a
    return .parsed b n
  | .addRef => .count <$> addRef
  | .release => .count <$> release

-- nothing is called on an object that is deleted
def step (c : Client) (call : Call) : Option Client :=
  match c.object, perform call c with
  | some _, .ok _ c' => some c'
  | _, _ => none

-- CreateVulkanVideoDecodeParser
def start (codec : VkVideoCodecOperation) : Client where
  object := some { codec }

def GstVkVideoParser.members (p : GstVkVideoParser) : List Resource := p.parser.toList ++ p.bus.toList

namespace Client

def parser (c : Client) : Option GstVkVideoParser := c.object.bind (·.parser)

def held (c : Client) : List Resource := (c.parser.map (·.members)).getD []

def isBuilt (c : Client) : Bool := (c.parser.bind (·.parser)).isSome

def isHalfBuilt (c : Client) : Bool := c.parser.isSome && !c.isBuilt

end Client

/-- What Initialize checks before it makes a parser. -/
def passesChecks (params : Option VkParserInitDecodeParameters) (a : Answers) : Bool :=
  match params with
  | none => false
  | some params => params.interfaceVersion = nvVulkanVideoParserApiVersion && params.pClient && a.initCheck

def Careful (c : Client) : Call → Prop
  | .parserInitialize params a => passesChecks params a → c.isBuilt = false
  | .deInitialize => c.isHalfBuilt = false
  | .parseByteStream packet _ a => c.isBuilt ∨ packet.nDataLength ≠ 0 ∧ a.memdup = false
  | .addRef => True
  | .release => c.object.map (·.refCount) = some 1 → c.isHalfBuilt = false

/-- Every harness and bus that Build made is held by the object or was torn down once, and nothing else is
used or torn down. -/
structure Kept (c : Client) : Prop where
  held : ∀ r ∈ c.held, .opened r ∈ c.log ∧ .closed r ∉ c.log
  once : ∀ r, .opened r ∈ c.log → r ∉ c.held → c.log.count (.closed r) = 1
  never : ∀ r, .opened r ∉ c.log → .closed r ∉ c.log
  inTime : Always (fun l e => ∀ r, e = .used r ∨ e = .closed r → .opened r ∈ l ∧ .closed r ∉ l) c.log

def Answered (c : Client) : Call → Reply → Prop
  | .parseByteStream packet parsed _, .parsed b n =>
    (b → c.isBuilt) ∧ n = parsed.map fun _ => if b then packet.nDataLength else 0
  | .parseByteStream .., _ => False
  | _, _ => True

/-- The call returns, unless an assertion on GStreamer's side ends the program. -/
def Returns (c : Client) (call : Call) : Prop :=
  match perform call c with
  | .ok reply _ => Answered c call reply
  | .error e _ => e = .assertion

def Resource.number : Resource → Nat
  | .harness n | .bus n => n

/-- Build sets both members or neither. -/
def GstVkVideoParser.Whole (p : GstVkVideoParser) : Prop :=
  (p.parser = none ∧ p.bus = none) ∨ ∃ m n, p.parser = some (.harness m) ∧ p.bus = some (.bus n)

/-- What is live by the log is the list `rs`. -/
structure Books (c : Client) (rs : List Resource) : Prop where
  valid : Valid c.log
  live : (live c.log).Perm rs
  fresh : ∀ r, .opened r ∈ c.log → r.number < c.made

structure Sound (c : Client) : Prop where
  books : Books c c.held
  whole : ∀ p, c.parser = some p → p.Whole

variable {c c' : Client} {r : Resource} {rs rs' : List Resource} {F : ParserFault → Prop} {p : GstVkVideoParser}
  {o : GstVkVideoDecoderParser} {a : Answers} {call : Call} {codec : VkVideoCodecOperation}

lemma object_bind {α : Type} {f : GstVkVideoDecoderParser → ParserM α} {Q : α → Client → Prop}
    (ho : c.object = some o) (h : EndsBy F (f o) c Q) : EndsBy F (object >>= f) c Q := by
  have hr : object c = .ok o c := by simp [object, run_bind, ho]
  unfold EndsBy at h ⊢
  rw [run_bind, hr]
  exact h

lemma memberParser_bind {α : Type} {f : GstVkVideoParser → ParserM α} {Q : α → Client → Prop}
    (ho : c.object = some o) (hp : o.parser = some p) (h : EndsBy F (f p) c Q) : EndsBy F (memberParser >>= f) c Q := by
  have hr : memberParser c = .ok p c := by simp [memberParser, object, run_bind, ho, hp]
  unfold EndsBy at h ⊢
  rw [run_bind, hr]
  exact h

namespace Books

lemma perm (h : Books c rs) (hp : rs.Perm rs') : Books c rs' := ⟨h.valid, h.live.trans hp, h.fresh⟩

lemma of_eq (h : Books c rs) (hl : c'.log = c.log) (hm : c'.made = c.made) : Books c' rs :=
  ⟨hl ▸ h.valid, hl ▸ h.live, by rw [hl, hm]; exact h.fresh⟩

lemma create (h : Books c rs) {kind : Nat → Resource} (hk : ∀ n, (kind n).number = n) :
    EndsBy F (create kind) c fun r c' => (∃ n, r = kind n) ∧ Books c' (r :: rs) ∧ c'.object = c.object := by
  have hnew : .opened (kind c.made) ∉ c.log := fun hm => by
    have := h.fresh _ hm
    rw [hk] at this
    omega
  refine ⟨⟨c.made, rfl⟩, ⟨⟨hnew, h.valid⟩, h.live.cons _, fun r hr => ?_⟩, rfl⟩
  rcases List.mem_cons.mp hr with hr | hr
  · cases hr
    rw [hk]
    exact Nat.lt_succ_self _
  · exact (h.fresh r hr).trans (Nat.lt_succ_self _)

lemma used (h : Books c rs) (hr : r ∈ rs) :
    EndsBy F (onMember .used (some r)) c fun _ c' => Books c' rs ∧ c'.object = c.object := by
  refine ⟨⟨⟨h.live.mem_iff.mpr hr, h.valid⟩, h.live, fun q hq => ?_⟩, rfl⟩
  exact h.fresh q ((List.mem_cons.mp hq).resolve_left (by simp))

lemma closed (h : Books c (r :: rs)) :
    EndsBy F (onMember .closed (some r)) c fun _ c' => Books c' rs ∧ c'.object = c.object := by
  refine ⟨⟨⟨h.live.mem_iff.mpr List.mem_cons_self, h.valid⟩, ?_, fun q hq => ?_⟩, rfl⟩
  · simpa using h.live.erase r
  · exact h.fresh q ((List.mem_cons.mp hq).resolve_left (by simp))

lemma kept (h : Books c c.held) : Kept c where
  held r hr :=
    have hl := h.live.mem_iff.mpr hr
    ⟨opened_of_mem_live hl, h.valid.not_closed hl⟩
  once r hr hn := h.valid.closed_once hr fun hl => hn (h.live.mem_iff.mp hl)
  never r hn hr := hn (h.valid.opened_of_closed hr)
  inTime := by
    refine always_iff.mpr fun e l hl r hr => ?_
    have hv := h.valid.suffix hl
    have hlive : r ∈ Ledger.live l := by rcases hr with rfl | rfl <;> exact hv.1
    exact ⟨opened_of_mem_live hlive, Valid.not_closed hv.2 hlive⟩

end Books

namespace GstVkVideoParser

lemma build_ends (h : Books c []) : EndsBy (· = .assertion) (build a { codec }) c fun q c' =>
    q.1.Whole ∧ Books c' q.1.members ∧ c'.object = c.object := by
  unfold build
  refine EndsBy.ite (fun _ => .pure ⟨.inl ⟨rfl, rfl⟩, h, rfl⟩) fun _ => ?_
  refine EndsBy.ite (fun _ => .throw rfl) fun _ => ?_
  refine EndsBy.ite (fun _ => .pure ⟨.inl ⟨rfl, rfl⟩, h, rfl⟩) fun _ => ?_
  refine EndsBy.bind (h.create fun _ => rfl) ?_
  rintro _ c₁ ⟨⟨m, rfl⟩, h₁, ho₁⟩
  refine EndsBy.bind (h₁.create fun _ => rfl) ?_
  rintro _ c₂ ⟨⟨n, rfl⟩, h₂, ho₂⟩
  exact .pure ⟨.inr ⟨m, n, rfl, rfl⟩, h₂.perm (.swap ..), ho₂.trans ho₁⟩

variable {m n : Nat} (hp : p.parser = some (.harness m)) (hb : p.bus = some (.bus n)) (h : Books c p.members)

include hp hb

lemma members_eq : p.members = [.harness m, .bus n] := by
  rw [members, hp, hb]
  rfl

include h

lemma processMessages_ends : EndsBy F p.processMessages c fun _ c' => Books c' p.members ∧ c'.object = c.object := by
  unfold processMessages
  rw [hb]
  exact h.used (by simp [members_eq hp hb])

lemma delete_ends : EndsBy F p.delete c fun _ c' => Books c' [] ∧ c'.object = c.object := by
  rw [members_eq hp hb] at h
  unfold delete processMessages
  rw [hp, hb]
  refine EndsBy.bind h.closed ?_
  rintro - c₁ ⟨h₁, ho₁⟩
  refine EndsBy.bind (h₁.used List.mem_cons_self) ?_
  rintro - c₂ ⟨h₂, ho₂⟩
  refine h₂.closed.mono ?_
  rintro - c₃ ⟨h₃, ho₃⟩
  exact ⟨h₃, ho₃.trans (ho₂.trans ho₁)⟩

lemma pushBuffer_ends : EndsBy F (p.pushBuffer a) c fun _ c' => Books c' p.members ∧ c'.object = c.object := by
  unfold pushBuffer
  rw [hp]
  refine EndsBy.bind (h.used (by simp [members_eq hp hb])) ?_
  rintro - c₁ ⟨h₁, ho₁⟩
  refine EndsBy.ite (fun _ => .pure ⟨h₁, ho₁⟩) fun _ => ?_
  refine EndsBy.bind (processMessages_ends hp hb h₁) ?_
  rintro - c₂ ⟨h₂, ho₂⟩
  exact .pure ⟨h₂, ho₂.trans ho₁⟩

lemma eos_ends : EndsBy F (p.eos a) c fun _ c' => Books c' p.members ∧ c'.object = c.object := by
  unfold eos
  rw [hp]
  refine EndsBy.bind (h.used (by simp [members_eq hp hb])) ?_
  rintro - c₁ ⟨h₁, ho₁⟩
  refine EndsBy.ite (fun _ => .pure ⟨h₁, ho₁⟩) fun _ => ?_
  refine EndsBy.bind (processMessages_ends hp hb h₁) ?_
  rintro - c₂ ⟨h₂, ho₂⟩
  exact .pure ⟨h₂, ho₂.trans ho₁⟩

end GstVkVideoParser

namespace Sound

lemma held_eq (ho : c.object = some o) (hp : o.parser = some p) : c.held = p.members := by
  simp [Client.held, Client.parser, ho, hp]

lemma held_of_none (ho : c.object = some o) (hp : o.parser = none) : c.held = [] := by
  simp [Client.held, Client.parser, ho, hp]

lemma put (hb : Books c rs) (hw : ∀ p, o.parser = some p → p.Whole ∧ p.members = rs) (hn : o.parser = none → rs = []) :
    Sound { c with object := some o } := by
  have heq : Client.held { c with object := some o } = rs := by
    cases hp : o.parser with
    | none => rw [held_of_none rfl hp, hn hp]
    | some p => rw [held_eq rfl hp, (hw p hp).2]
  exact ⟨by rw [heq]; exact hb.of_eq rfl rfl, fun p hp => (hw p hp).1⟩

lemma start (codec : VkVideoCodecOperation) : Sound (start codec) :=
  ⟨⟨trivial, .refl _, fun r hr => by cases hr⟩, fun p hp => by cases hp⟩

lemma setCount (h : Sound c) (ho : c.object = some o) (k : BitVec 32) :
    Sound { c with object := some { o with refCount := k } } := by
  refine put h.books (fun p hp => ⟨h.whole p ?_, (held_eq ho hp).symm⟩) fun hp => held_of_none ho hp
  simp [Client.parser, ho]
  exact hp

-- the parser that is there was built
lemma built_or_closed (h : Sound c) (ho : c.object = some o) (hp : o.parser = some p) :
    (c.isBuilt = false ∧ c.isHalfBuilt = true ∧ p.members = []) ∨
      c.isBuilt = true ∧ ∃ m n, p.parser = some (.harness m) ∧ p.bus = some (.bus n) := by
  have hparser : c.parser = some p := by simp [Client.parser, ho, hp]
  rcases h.whole p hparser with ⟨h₁, h₂⟩ | ⟨m, n, h₁, h₂⟩
  · left
    simp [Client.isBuilt, Client.isHalfBuilt, hparser, h₁, h₂, GstVkVideoParser.members]
  · exact .inr ⟨by simp [Client.isBuilt, hparser, h₁], m, n, h₁, h₂⟩

lemma parserInitialize_ends {params : Option VkParserInitDecodeParameters} (h : Sound c) (ho : c.object = some o)
    (hc : Careful c (.parserInitialize params a)) :
    EndsBy (· = .assertion) (parserInitialize params a) c fun _ c' => Sound c' := by
  unfold parserInitialize
  cases params with
  | none => exact .pure h
  | some params =>
    refine EndsBy.ite (fun _ => .pure h) fun hv => ?_
    refine EndsBy.ite (fun _ => .pure h) fun hcl => ?_
    refine EndsBy.ite (fun _ => .pure h) fun hi => ?_
    have hnot := hc (by simp_all [passesChecks])
    have hheld : c.held = [] := by
      cases hp : o.parser with
      | none => exact held_of_none ho hp
      | some p =>
        rcases h.built_or_closed ho hp with ⟨-, -, hm⟩ | ⟨hb, -⟩
        · rw [held_eq ho hp, hm]
        · rw [hnot] at hb
          cases hb
    have hbooks := h.books
    rw [hheld] at hbooks
    refine object_bind ho ?_
    refine EndsBy.bind (GstVkVideoParser.build_ends hbooks) ?_
    rintro ⟨p, built⟩ c₁ ⟨hw, hb, -⟩
    refine EndsBy.bind (EndsBy.modify (Q := fun _ c' => Sound c') (put hb ?_ ?_)) fun _ _ hs => .pure hs
    · rintro _ ⟨⟩
      exact ⟨hw, rfl⟩
    · exact fun hn => by cases hn

lemma deInitialize_ends (h : Sound c) (ho : c.object = some o) (hc : c.isHalfBuilt = false) :
    EndsBy F deInitialize c fun _ c' => Books c' [] ∧ Sound c' := by
  unfold deInitialize
  refine object_bind ho ?_
  cases hp : o.parser with
  | none =>
    have hb := h.books
    rw [held_of_none ho hp] at hb
    exact .pure ⟨hb, h⟩
  | some p =>
    have hb := h.books
    rw [held_eq ho hp] at hb
    rcases h.built_or_closed ho hp with ⟨-, hhalf, -⟩ | ⟨-, m, n, hm, hn⟩
    · rw [hc] at hhalf
      cases hhalf
    · refine EndsBy.bind (GstVkVideoParser.delete_ends hm hn hb) ?_
      rintro - c₁ ⟨h₁, -⟩
      refine EndsBy.bind (EndsBy.modify (Q := fun _ c' => Books c' [] ∧ Sound c') ⟨h₁.of_eq rfl rfl, put h₁ ?_ ?_⟩)
        fun _ _ hs => .pure hs
      · exact fun p hp => by cases hp
      · exact fun _ => rfl

lemma addRef_ends (h : Sound c) (ho : c.object = some o) : EndsBy F addRef c fun _ c' => Sound c' := by
  unfold addRef
  refine object_bind ho ?_
  refine EndsBy.bind (EndsBy.modify (Q := fun _ c' => Sound c') (h.setCount ho _)) fun _ _ hs => .pure hs

lemma release_ends (h : Sound c) (ho : c.object = some o) (hc : Careful c .release) :
    EndsBy F release c fun _ c' => Sound c' := by
  unfold release
  refine object_bind ho ?_
  refine EndsBy.bind (EndsBy.modify (Q := fun _ c' => c' = { c with object := some { o with refCount := o.refCount - 1 } })
    rfl) ?_
  rintro - _ rfl
  refine EndsBy.ite (fun hz => ?_) fun _ => .pure (h.setCount ho _)
  have hone : o.refCount = 1 := by
    rw [BitVec.sub_eq_iff_eq_add] at hz
    simpa using hz
  have hhalf := hc (by simp [ho, hone])
  refine EndsBy.bind (EndsBy.map (R := fun _ c' => Books c' []) ((h.setCount ho _).deInitialize_ends rfl ?_)
    fun _ _ hs => hs.1) ?_
  · simpa [Client.isHalfBuilt, Client.isBuilt, Client.parser, ho] using hhalf
  · rintro - c₁ hb
    refine EndsBy.bind (EndsBy.modify (Q := fun _ c' => Sound c') ⟨hb.of_eq rfl rfl, fun p hp => by cases hp⟩)
      fun _ _ hs => .pure hs

-- a call that leaves the object as it is
lemma again (h : Sound c) (ho : c.object = some o) (hp : o.parser = some p) (hb : Books c' p.members)
    (ho' : c'.object = c.object) : Sound c' := by
  have hparser : c'.parser = c.parser := by rw [Client.parser, Client.parser, ho']
  refine ⟨?_, fun p hp => h.whole p (hparser ▸ hp)⟩
  rw [held_eq (ho'.trans ho) hp]
  exact hb

variable {packet : VkParserBitstreamPacket} {parsed : Option Int}

lemma eos_ends {m n : Nat} (h : Sound c) (ho : c.object = some o) (hp : o.parser = some p)
    (hm : p.parser = some (.harness m)) (hn : p.bus = some (.bus n)) :
    EndsBy F (do
      if packet.bEOS then
        let p ← memberParser
        if (← p.eos a) ≠ .eos then return (false, parsed.map fun _ => 0)
      return (true, parsed.map fun _ => packet.nDataLength)) c fun out c' =>
      Sound c' ∧ out.2 = parsed.map fun _ => if out.1 then packet.nDataLength else 0 := by
  refine EndsBy.ite (fun _ => memberParser_bind ho hp ?_) fun _ => .pure ⟨h, rfl⟩
  refine EndsBy.bind (GstVkVideoParser.eos_ends hm hn (held_eq ho hp ▸ h.books)) ?_
  rintro flow c₁ ⟨h₁, ho₁⟩
  have hs := h.again ho hp h₁ ho₁
  exact EndsBy.ite (fun _ => .pure ⟨hs, rfl⟩) fun _ => .pure ⟨hs, rfl⟩

lemma parseByteStream_ends (h : Sound c) (ho : c.object = some o) (hc : Careful c (.parseByteStream packet parsed a)) :
    EndsBy F (parseByteStream packet parsed a) c fun out c' =>
      Sound c' ∧ (out.1 → c.isBuilt) ∧ out.2 = parsed.map fun _ => if out.1 then packet.nDataLength else 0 := by
  by_cases hb : c.isBuilt
  · obtain ⟨p, hp, m, n, hm, hn⟩ : ∃ p, o.parser = some p ∧ ∃ m n, p.parser = some (.harness m) ∧ p.bus = some (.bus n) := by
      cases hp : o.parser with
      | none => simp [Client.isBuilt, Client.parser, ho, hp] at hb
      | some p =>
        rcases h.built_or_closed ho hp with ⟨hf, -⟩ | ⟨-, hmn⟩
        · rw [hf] at hb
          cases hb
        · exact ⟨p, rfl, hmn⟩
    refine EndsBy.mono (Q := fun out c' =>
      Sound c' ∧ out.2 = parsed.map fun _ => if out.1 then packet.nDataLength else 0) ?_ fun out c' hq => ⟨hq.1, fun _ => hb, hq.2⟩
    unfold parseByteStream
    refine EndsBy.ite (fun _ => EndsBy.ite (fun _ => .pure ⟨h, rfl⟩) fun _ => memberParser_bind ho hp ?_) fun _ =>
      h.eos_ends ho hp hm hn
    refine EndsBy.bind (GstVkVideoParser.pushBuffer_ends hm hn (held_eq ho hp ▸ h.books)) ?_
    rintro flow c₁ ⟨h₁, ho₁⟩
    have hs := h.again ho hp h₁ ho₁
    exact EndsBy.ite (fun _ => .pure ⟨hs, rfl⟩) fun _ => hs.eos_ends (ho₁.trans ho) hp hm hn
  · obtain ⟨hlen, hdup⟩ := hc.resolve_left hb
    unfold parseByteStream
    refine EndsBy.ite (fun _ => EndsBy.ite (fun _ => .pure ⟨h, by simp, rfl⟩) fun hn => ?_) fun hn => absurd hlen hn
    simp [hdup] at hn

lemma perform_ends (h : Sound c) (ho : c.object = some o) (hc : Careful c call) :
    EndsBy (· = .assertion) (perform call) c fun reply c' => Sound c' ∧ Answered c call reply := by
  cases call with
  | parserInitialize params a => exact (h.parserInitialize_ends ho hc).map fun _ _ hs => ⟨hs, trivial⟩
  | deInitialize => exact (h.deInitialize_ends ho hc).map fun _ _ hs => ⟨hs.2, trivial⟩
  | parseByteStream packet parsed a =>
    exact (h.parseByteStream_ends ho hc).bind fun _ _ hs => .pure ⟨hs.1, hs.2.1, hs.2.2⟩
  | addRef => exact (h.addRef_ends ho).map fun _ _ hs => ⟨hs, trivial⟩
  | release => exact (h.release_ends ho hc).map fun _ _ hs => ⟨hs, trivial⟩

lemma step (h : Sound c) (hc : Careful c call) (hs : step c call = some c') : Sound c' := by
  unfold ParserObject.step at hs
  cases ho : c.object with
  | none =>
    rw [ho] at hs
    cases hs
  | some o =>
    have hends := h.perform_ends ho hc
    unfold EndsBy at hends
    cases hr : perform call c with
    | ok reply c₁ =>
      rw [hr] at hends
      rw [ho, hr] at hs
      cases hs
      exact hends.1
    | error e c₁ =>
      rw [ho, hr] at hs
      cases hs

end Sound

/-- While the calls are careful, what Build made is kept until it is torn down, once, and every call answers as
it should. -/
theorem lifecycle (codec : VkVideoCodecOperation) (calls : List Call) (c : Client)
    (hgood : Along step Careful calls (start codec)) (hrun : run step calls (start codec) = some c) :
    Kept c ∧ ∀ call, c.object.isSome → Careful c call → Returns c call := by
  have hs : Sound c := hgood.keeps hrun (fun _ _ _ hc ht hs => hs.step hc ht) (.start codec)
  refine ⟨hs.books.kept, fun call hobj hc => ?_⟩
  obtain ⟨o, ho⟩ := Option.isSome_iff_exists.mp hobj
  have hends := hs.perform_ends ho hc
  unfold EndsBy at hends
  unfold Returns
  cases hr : perform call c with
  | ok reply c₁ =>
    rw [hr] at hends
    exact hends.2
  | error e c₁ =>
    rw [hr] at hends
    exact hends

instance decidableCareful (c : Client) : (call : Call) → Decidable (Careful c call)
  | .parserInitialize params a => inferInstanceAs (Decidable (passesChecks params a → c.isBuilt = false))
  | .deInitialize => inferInstanceAs (Decidable (c.isHalfBuilt = false))
  | .parseByteStream packet _ a => inferInstanceAs (Decidable (c.isBuilt ∨ packet.nDataLength ≠ 0 ∧ a.memdup = false))
  | .addRef => .isTrue trivial
  | .release => inferInstanceAs (Decidable (c.object.map (·.refCount) = some 1 → c.isHalfBuilt = false))

def twoSessions : List Call :=
  [.parserInitialize none {}, .parserInitialize (some {}) {}, .addRef, .parseByteStream ⟨4, false⟩ (some 0) {}, .release,
    .parseByteStream ⟨0, true⟩ none {}, .deInitialize, .deInitialize, .parserInitialize (some {}) {},
    .parseByteStream ⟨4, true⟩ (some 0) { push := .error }]

def twoSessionsEnd : Client := (run step twoSessions (start .decodeH265)).getD (start .decodeH265)

theorem lifecycle_twoSessions : Kept twoSessionsEnd ∧ Returns twoSessionsEnd .release := by
  have h := lifecycle .decodeH265 twoSessions twoSessionsEnd (by decide +kernel) (by decide +kernel)
  exact ⟨h.1, h.2 .release (by decide +kernel) (by decide +kernel)⟩

-- an unsupported codec, a client that tries again, a client that does not initialise
theorem lifecycle_broken :
    (∃ c, run step [.parserInitialize (some {}) {}] (start .other) = some c ∧ ¬Returns c .release) ∧
      (∃ c, run step [.parserInitialize (some {}) {}, .parserInitialize (some {}) {}] (start .decodeH264) = some c ∧
        ¬Kept c) ∧
      ¬Returns (start .decodeH264) (.parseByteStream ⟨4, false⟩ (some 0) {}) ∧
      ¬Returns (start .decodeH264) (.parseByteStream ⟨0, false⟩ (some 0) {}) := by
  refine ⟨⟨_, rfl, fun h => ?_⟩, ⟨_, rfl, fun h => ?_⟩, fun h => ?_, fun h => ?_⟩
  · cases h
  · have hone := h.once (.harness 0) (by decide) (by decide)
    exact absurd hone (by decide)
  · cases h
  · exact absurd (h.1 rfl) (by decide)

end VkVideoParser.ParserObject
