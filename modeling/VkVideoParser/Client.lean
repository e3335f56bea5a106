import Mathlib.Algebra.Order.Ring.Int
import Mathlib.Data.List.Basic

/-! What both elements share with the outside: the flow values of the base class, the ways a
call can die, the picture objects of the client and the sequence information it is given. -/

namespace VkVideoParser

abbrev VkPicIf := Nat

abbrev ClientObject := Nat

abbrev PicId := Nat

inductive GstFlowReturn
  | ok
  | notLinked
  | flushing
  | eos
  | notNegotiated
  | error
  deriving DecidableEq, Repr

-- UPDATE_FLOW_RETURN: only a flow that is still OK takes the new value
def GstFlowReturn.update (ret newRet : GstFlowReturn) : GstFlowReturn :=
  if ret = .ok then newRet else ret

@[simp] lemma GstFlowReturn.update_ok (r : GstFlowReturn) : GstFlowReturn.update .ok r = r := rfl

lemma GstFlowReturn.update_of_ne {r : GstFlowReturn} (h : r ≠ .ok) (r' : GstFlowReturn) :
    r.update r' = r := if_neg h

@[simp] lemma GstFlowReturn.update_eq_ok {r r' : GstFlowReturn} :
    r.update r' = .ok ↔ r = .ok ∧ r' = .ok := by
  by_cases h : r = .ok <;> simp [GstFlowReturn.update, h]

def int8 (n : Int) : Int := (n + 2 ^ 7) % 2 ^ 8 - 2 ^ 7

def int32Max : Int := 2 ^ 31 - 1

def int32Min : Int := -2 ^ 31

def int32 (n : Int) : Int := (n + 2 ^ 31) % 2 ^ 32 - 2 ^ 31

inductive Fault
  | nullPointer
  | assertion
  | useAfterFree
  | divisionByZero
  deriving DecidableEq, Repr

/-- `GstVideoCodecFrame`: the number the base class gives it and its duration. -/
structure VideoCodecFrame where
  systemFrameNumber : Nat
  duration : Nat := 0
  deriving DecidableEq, Repr

structure InputState where
  scalable : Bool := false
  fpsN : Nat := 0
  fpsD : Nat := 1
  parN : Nat := 1
  parD : Nat := 1

inductive VideoCodec
  | h264
  | h265
  deriving DecidableEq, Repr

structure SequenceInfo where
  eCodec : VideoCodec
  isSVC : Bool := false
  frameRate : Nat := 0
  bProgSeq : Bool := false
  nDisplayWidth : Nat := 0
  nDisplayHeight : Nat := 0
  nCodedWidth : Nat := 0
  nCodedHeight : Nat := 0
  nMaxWidth : Nat := 0
  nMaxHeight : Nat := 0
  nChromaFormat : Nat := 0
  uBitDepthLumaMinus8 : Nat := 0
  uBitDepthChromaMinus8 : Nat := 0
  uVideoFullRange : Bool := false
  lBitrate : Nat := 0
  lDARWidth : Nat := 0
  lDARHeight : Nat := 0
  lVideoFormat : Nat := 0
  lColorPrimaries : Nat := 0
  lTransferCharacteristics : Nat := 0
  lMatrixCoefficients : Nat := 0
  cbSequenceHeader : Nat := 0
  nMinNumDecodeSurfaces : Nat := 0
  codecProfile : Nat := 0

-- what a pointer to a parameter set points into: the picture's own copy or the element's slot
inductive ParamSource
  | own | shared
  deriving DecidableEq, Repr

def pointee {α : Type} (pointer : Bool) (a : α) : Option α := if pointer then some a else none

lemma pointee_ite {α : Type} (b : Bool) (a a' : α) : pointee b (if b then a else a') = pointee b a := by
  cases b <;> rfl

-- one turn of the loop; `numerator + 1` is a 32-bit sum
def packFramerateStep (numerator denominator : Nat) : Nat × Nat :=
  if numerator % 5 = 0 ∧ denominator % 5 = 0 then (numerator / 5, denominator / 5)
  else if (numerator ||| denominator) % 2 = 1 ∧ numerator % 3 = 0 ∧ denominator % 3 = 0 then
    (numerator / 3, denominator / 3)
  else ((numerator + 1) % 2 ^ 32 / 2, (denominator + 1) % 2 ^ 32 / 2)

def packFramerateLoop : Nat → Nat → Nat → Nat × Nat
  | 0, numerator, denominator => (numerator, denominator)
  | fuel + 1, numerator, denominator =>
    if 2 ^ 18 ≤ numerator ∨ 2 ^ 14 ≤ denominator then
      let (n, d) := packFramerateStep numerator denominator
      packFramerateLoop fuel n d
    else (numerator, denominator)

def makeFramerate (numerator denominator : Nat) : Nat :=
  numerator * 2 ^ 14 % 2 ^ 32 ||| denominator

-- every turn at least halves the half that is too large, so 64 turns are enough
def packFramerate (numerator denominator : Nat) : Nat :=
  let (n, d) := packFramerateLoop 64 numerator denominator
  makeFramerate n d

end VkVideoParser
