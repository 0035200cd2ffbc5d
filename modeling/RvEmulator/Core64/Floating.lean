/-! Floating-point operations (`core64/src/floating.cpp`). The arithmetic itself
is Berkeley SoftFloat, which is not part of the repository: a call is a function
of the rounding mode and the operands, with the exception flags it raises. -/

namespace RvEmulator.Core64

/-- A SoftFloat call's value and the exception flags left by it. -/
structure SoftFloatResult (w : Nat) where
  value : BitVec w
  exceptionFlags : BitVec 8

/-- The SoftFloat functions in use. The rounding mode is `softfloat_roundingMode`;
comparisons are called with it set to zero. -/
class SoftFloat where
  f32Add : BitVec 8 → BitVec 32 → BitVec 32 → SoftFloatResult 32
  f32Sub : BitVec 8 → BitVec 32 → BitVec 32 → SoftFloatResult 32
  f32Mul : BitVec 8 → BitVec 32 → BitVec 32 → SoftFloatResult 32
  f32Div : BitVec 8 → BitVec 32 → BitVec 32 → SoftFloatResult 32
  f32Sqrt : BitVec 8 → BitVec 32 → SoftFloatResult 32
  f32MulAdd : BitVec 8 → BitVec 32 → BitVec 32 → BitVec 32 → SoftFloatResult 32
  f64Add : BitVec 8 → BitVec 64 → BitVec 64 → SoftFloatResult 64
  f64Sub : BitVec 8 → BitVec 64 → BitVec 64 → SoftFloatResult 64
  f64Mul : BitVec 8 → BitVec 64 → BitVec 64 → SoftFloatResult 64
  f64Div : BitVec 8 → BitVec 64 → BitVec 64 → SoftFloatResult 64
  f64Sqrt : BitVec 8 → BitVec 64 → SoftFloatResult 64
  f64MulAdd : BitVec 8 → BitVec 64 → BitVec 64 → BitVec 64 → SoftFloatResult 64
  f32Eq : BitVec 32 → BitVec 32 → SoftFloatResult 1
  f32Lt : BitVec 32 → BitVec 32 → SoftFloatResult 1
  f32Le : BitVec 32 → BitVec 32 → SoftFloatResult 1
  f64Eq : BitVec 64 → BitVec 64 → SoftFloatResult 1
  f64Lt : BitVec 64 → BitVec 64 → SoftFloatResult 1
  f64Le : BitVec 64 → BitVec 64 → SoftFloatResult 1
  f64ToF32 : BitVec 8 → BitVec 64 → SoftFloatResult 32
  f32ToF64 : BitVec 8 → BitVec 32 → SoftFloatResult 64
  f32ToUi32 : BitVec 8 → BitVec 32 → SoftFloatResult 32
  f32ToI32 : BitVec 8 → BitVec 32 → SoftFloatResult 32
  f32ToUi64 : BitVec 8 → BitVec 32 → SoftFloatResult 64
  f32ToI64 : BitVec 8 → BitVec 32 → SoftFloatResult 64
  f64ToUi32 : BitVec 8 → BitVec 64 → SoftFloatResult 32
  f64ToI32 : BitVec 8 → BitVec 64 → SoftFloatResult 32
  f64ToUi64 : BitVec 8 → BitVec 64 → SoftFloatResult 64
  f64ToI64 : BitVec 8 → BitVec 64 → SoftFloatResult 64
  ui32ToF32 : BitVec 8 → BitVec 32 → SoftFloatResult 32
  i32ToF32 : BitVec 8 → BitVec 32 → SoftFloatResult 32
  ui64ToF32 : BitVec 8 → BitVec 64 → SoftFloatResult 32
  i64ToF32 : BitVec 8 → BitVec 64 → SoftFloatResult 32
  ui32ToF64 : BitVec 8 → BitVec 32 → SoftFloatResult 64
  i32ToF64 : BitVec 8 → BitVec 32 → SoftFloatResult 64
  ui64ToF64 : BitVec 8 → BitVec 64 → SoftFloatResult 64
  i64ToF64 : BitVec 8 → BitVec 64 → SoftFloatResult 64

deriving instance Inhabited for SoftFloatResult, SoftFloat

/-- For programs that execute no floating-point instruction, any SoftFloat will do. -/
@[reducible] def SoftFloat.unused : SoftFloat := default

inductive FloatingFormat where
  | single | double
deriving DecidableEq, Repr

inductive FloatingArithmeticOperation where
  | add | subtract | multiply | divide | squareRoot
  | multiplyAdd | multiplySubtract | negatedMultiplyAdd | negatedMultiplySubtract
deriving DecidableEq, Repr

inductive FloatingSignOperation where
  | copy | negate | exclusiveOr
deriving DecidableEq, Repr

inductive FloatingMinMaxOperation where
  | minimum | maximum
deriving DecidableEq, Repr

inductive FloatingComparisonOperation where
  | equal | lessThan | lessOrEqual
deriving DecidableEq, Repr

inductive FloatingIntegerWidth where
  | word | long
deriving DecidableEq, Repr

/-- A value for a register and the flags to accrue. `FloatingIntegerResult` has
the same fields. -/
structure FloatingResult where
  value : BitVec 64 := 0
  exceptionFlags : BitVec 8 := 0
deriving DecidableEq

def singleNanBox : BitVec 64 := 0xFFFFFFFF00000000
def canonicalNan32 : BitVec 32 := 0x7FC00000
def canonicalNan64 : BitVec 64 := 0x7FF8000000000000

def unboxSingle (value : BitVec 64) : BitVec 32 :=
  if (value &&& singleNanBox) = singleNanBox then value.setWidth 32 else canonicalNan32

def boxSingle (value : BitVec 32) : BitVec 64 := singleNanBox ||| value.setWidth 64

namespace Floating

def finish32 (result : SoftFloatResult 32) : FloatingResult :=
  { value := boxSingle result.value, exceptionFlags := result.exceptionFlags }

def finish64 (result : SoftFloatResult 64) : FloatingResult :=
  { value := result.value, exceptionFlags := result.exceptionFlags }

def isNan32 (value : BitVec 32) : Bool :=
  (value &&& 0x7F800000) == 0x7F800000 && (value &&& 0x007FFFFF) != 0

def isSignalingNan32 (value : BitVec 32) : Bool :=
  isNan32 value && (value &&& 0x00400000) == 0

def isNan64 (value : BitVec 64) : Bool :=
  (value &&& 0x7FF0000000000000) == 0x7FF0000000000000 && (value &&& 0x000FFFFFFFFFFFFF) != 0

def isSignalingNan64 (value : BitVec 64) : Bool :=
  isNan64 value && (value &&& 0x0008000000000000) == 0

def less32 (first second : BitVec 32) : Bool :=
  let firstNegative := first >>> 31 != 0
  let secondNegative := second >>> 31 != 0
  if firstNegative != secondNegative then firstNegative
  else
    let firstMagnitude := first &&& 0x7FFFFFFF
    let secondMagnitude := second &&& 0x7FFFFFFF
    if firstNegative then firstMagnitude > secondMagnitude else firstMagnitude < secondMagnitude

def less64 (first second : BitVec 64) : Bool :=
  let firstNegative := first >>> 63 != 0
  let secondNegative := second >>> 63 != 0
  if firstNegative != secondNegative then firstNegative
  else
    let firstMagnitude := first &&& 0x7FFFFFFFFFFFFFFF
    let secondMagnitude := second &&& 0x7FFFFFFFFFFFFFFF
    if firstNegative then firstMagnitude > secondMagnitude else firstMagnitude < secondMagnitude

def signExtendWordResult (value : BitVec 32) : BitVec 64 :=
  if (value &&& 0x80000000) ≠ 0 then 0xFFFFFFFF00000000 ||| value.setWidth 64
  else value.setWidth 64

end Floating

open Floating

/-- The rounding mode of an instruction: its own, or the dynamic one of `fcsr`.
`none` where the source returns false. -/
def resolveRoundingMode (encodedRoundingMode fcsr : BitVec 8) : Option (BitVec 8) :=
  let mode := if encodedRoundingMode = 7 then (fcsr >>> 5) &&& 0x7 else encodedRoundingMode
  if mode > 4 then none else some mode

section

variable [SoftFloat]

def floatingArithmetic32 (operation : FloatingArithmeticOperation) (roundingMode : BitVec 8)
    (first second third : BitVec 32) : SoftFloatResult 32 :=
  match operation with
  | .add => SoftFloat.f32Add roundingMode first second
  | .subtract => SoftFloat.f32Sub roundingMode first second
  | .multiply => SoftFloat.f32Mul roundingMode first second
  | .divide => SoftFloat.f32Div roundingMode first second
  | .squareRoot => SoftFloat.f32Sqrt roundingMode first
  | .multiplyAdd => SoftFloat.f32MulAdd roundingMode first second third
  | .multiplySubtract => SoftFloat.f32MulAdd roundingMode first second (third ^^^ 0x80000000)
  | .negatedMultiplyAdd => SoftFloat.f32MulAdd roundingMode (first ^^^ 0x80000000) second third
  | .negatedMultiplySubtract =>
    SoftFloat.f32MulAdd roundingMode (first ^^^ 0x80000000) second (third ^^^ 0x80000000)

def floatingArithmetic64 (operation : FloatingArithmeticOperation) (roundingMode : BitVec 8)
    (first second third : BitVec 64) : SoftFloatResult 64 :=
  match operation with
  | .add => SoftFloat.f64Add roundingMode first second
  | .subtract => SoftFloat.f64Sub roundingMode first second
  | .multiply => SoftFloat.f64Mul roundingMode first second
  | .divide => SoftFloat.f64Div roundingMode first second
  | .squareRoot => SoftFloat.f64Sqrt roundingMode first
  | .multiplyAdd => SoftFloat.f64MulAdd roundingMode first second third
  | .multiplySubtract =>
    SoftFloat.f64MulAdd roundingMode first second (third ^^^ 0x8000000000000000)
  | .negatedMultiplyAdd =>
    SoftFloat.f64MulAdd roundingMode (first ^^^ 0x8000000000000000) second third
  | .negatedMultiplySubtract =>
    SoftFloat.f64MulAdd roundingMode (first ^^^ 0x8000000000000000) second
      (third ^^^ 0x8000000000000000)

def floatingArithmetic (format : FloatingFormat) (operation : FloatingArithmeticOperation)
    (roundingMode : BitVec 8) (first second third : BitVec 64) : FloatingResult :=
  match format with
  | .single => finish32 (floatingArithmetic32 operation roundingMode (unboxSingle first)
      (unboxSingle second) (unboxSingle third))
  | .double => finish64 (floatingArithmetic64 operation roundingMode first second third)

def floatingSignInjection (format : FloatingFormat) (operation : FloatingSignOperation)
    (first second : BitVec 64) : BitVec 64 :=
  match format with
  | .single =>
    let firstValue := unboxSingle first
    let secondValue := unboxSingle second
    let sign : BitVec 32 :=
      match operation with
      | .copy => secondValue &&& 0x80000000
      | .negate => (secondValue &&& 0x80000000) ^^^ 0x80000000
      | .exclusiveOr => (firstValue ^^^ secondValue) &&& 0x80000000
    boxSingle ((firstValue &&& 0x7FFFFFFF) ||| sign)
  | .double =>
    let sign : BitVec 64 :=
      match operation with
      | .copy => second &&& 0x8000000000000000
      | .negate => (second &&& 0x8000000000000000) ^^^ 0x8000000000000000
      | .exclusiveOr => (first ^^^ second) &&& 0x8000000000000000
    (first &&& 0x7FFFFFFFFFFFFFFF) ||| sign

def floatingMinMax32 (operation : FloatingMinMaxOperation) (first second : BitVec 32) :
    FloatingResult :=
  let flags : BitVec 8 := if isSignalingNan32 first || isSignalingNan32 second then 0x10 else 0
  if isNan32 first && isNan32 second then
    { value := boxSingle canonicalNan32, exceptionFlags := flags }
  else if isNan32 first then { value := boxSingle second, exceptionFlags := flags }
  else if isNan32 second then { value := boxSingle first, exceptionFlags := flags }
  else if (first &&& 0x7FFFFFFF) = 0 ∧ (second &&& 0x7FFFFFFF) = 0 then
    { value := boxSingle (if operation = .minimum then first ||| second else first &&& second) }
  else
    let firstIsLess := less32 first second
    { value := boxSingle
        (if operation = .minimum then (if firstIsLess then first else second)
         else (if firstIsLess then second else first)) }

def floatingMinMax64 (operation : FloatingMinMaxOperation) (first second : BitVec 64) :
    FloatingResult :=
  let flags : BitVec 8 := if isSignalingNan64 first || isSignalingNan64 second then 0x10 else 0
  if isNan64 first && isNan64 second then
    { value := canonicalNan64, exceptionFlags := flags }
  else if isNan64 first then { value := second, exceptionFlags := flags }
  else if isNan64 second then { value := first, exceptionFlags := flags }
  else if (first &&& 0x7FFFFFFFFFFFFFFF) = 0 ∧ (second &&& 0x7FFFFFFFFFFFFFFF) = 0 then
    { value := if operation = .minimum then first ||| second else first &&& second }
  else
    let firstIsLess := less64 first second
    { value :=
        if operation = .minimum then (if firstIsLess then first else second)
        else (if firstIsLess then second else first) }

def floatingMinMax (format : FloatingFormat) (operation : FloatingMinMaxOperation)
    (first second : BitVec 64) : FloatingResult :=
  match format with
  | .single => floatingMinMax32 operation (unboxSingle first) (unboxSingle second)
  | .double => floatingMinMax64 operation first second

def floatingCompare (format : FloatingFormat) (operation : FloatingComparisonOperation)
    (first second : BitVec 64) : FloatingResult :=
  let result : SoftFloatResult 1 :=
    match format, operation with
    | .single, .equal => SoftFloat.f32Eq (unboxSingle first) (unboxSingle second)
    | .single, .lessThan => SoftFloat.f32Lt (unboxSingle first) (unboxSingle second)
    | .single, .lessOrEqual => SoftFloat.f32Le (unboxSingle first) (unboxSingle second)
    | .double, .equal => SoftFloat.f64Eq first second
    | .double, .lessThan => SoftFloat.f64Lt first second
    | .double, .lessOrEqual => SoftFloat.f64Le first second
  { value := result.value.setWidth 64, exceptionFlags := result.exceptionFlags }

/-- The class bit of a number with the given sign, exponent and fraction tests. -/
def classBit (negative infiniteExponent zeroExponent zeroFraction signaling : Bool) : BitVec 16 :=
  if infiniteExponent then
    if zeroFraction then 1#16 <<< (if negative then 0 else 7)
    else 1#16 <<< (if signaling then 8 else 9)
  else if zeroExponent then
    1#16 <<< (if zeroFraction then (if negative then 3 else 4) else (if negative then 2 else 5))
  else 1#16 <<< (if negative then 1 else 6)

def floatingClassify (format : FloatingFormat) (value : BitVec 64) : BitVec 16 :=
  match format with
  | .single =>
    let bits := unboxSingle value
    let exponent := (bits >>> 23) &&& 0xFF
    classBit (bits >>> 31 != 0) (exponent == 0xFF) (exponent == 0) ((bits &&& 0x7FFFFF) == 0)
      (isSignalingNan32 bits)
  | .double =>
    let exponent := (value >>> 52) &&& 0x7FF
    classBit (value >>> 63 != 0) (exponent == 0x7FF) (exponent == 0)
      ((value &&& 0xFFFFFFFFFFFFF) == 0) (isSignalingNan64 value)

def floatingConvertFormat (destinationFormat : FloatingFormat) (roundingMode : BitVec 8)
    (source : BitVec 64) : FloatingResult :=
  match destinationFormat with
  | .single => finish32 (SoftFloat.f64ToF32 roundingMode source)
  | .double => finish64 (SoftFloat.f32ToF64 roundingMode (unboxSingle source))

/-- A 32-bit integer result, sign-extended whatever its signedness. -/
def wordResult (result : SoftFloatResult 32) : FloatingResult :=
  { value := signExtendWordResult result.value, exceptionFlags := result.exceptionFlags }

def floatingToInteger (sourceFormat : FloatingFormat) (width : FloatingIntegerWidth)
    (unsignedInteger : Bool) (roundingMode : BitVec 8) (source : BitVec 64) : FloatingResult :=
  match sourceFormat, width, unsignedInteger with
  | .single, .word, true => wordResult (SoftFloat.f32ToUi32 roundingMode (unboxSingle source))
  | .single, .word, false => wordResult (SoftFloat.f32ToI32 roundingMode (unboxSingle source))
  | .single, .long, true => finish64 (SoftFloat.f32ToUi64 roundingMode (unboxSingle source))
  | .single, .long, false => finish64 (SoftFloat.f32ToI64 roundingMode (unboxSingle source))
  | .double, .word, true => wordResult (SoftFloat.f64ToUi32 roundingMode source)
  | .double, .word, false => wordResult (SoftFloat.f64ToI32 roundingMode source)
  | .double, .long, true => finish64 (SoftFloat.f64ToUi64 roundingMode source)
  | .double, .long, false => finish64 (SoftFloat.f64ToI64 roundingMode source)

def integerToFloating (destinationFormat : FloatingFormat) (width : FloatingIntegerWidth)
    (unsignedInteger : Bool) (roundingMode : BitVec 8) (source : BitVec 64) : FloatingResult :=
  match destinationFormat, width, unsignedInteger with
  | .single, .word, true => finish32 (SoftFloat.ui32ToF32 roundingMode (source.setWidth 32))
  | .single, .word, false => finish32 (SoftFloat.i32ToF32 roundingMode (source.setWidth 32))
  | .single, .long, true => finish32 (SoftFloat.ui64ToF32 roundingMode source)
  | .single, .long, false => finish32 (SoftFloat.i64ToF32 roundingMode source)
  | .double, .word, true => finish64 (SoftFloat.ui32ToF64 roundingMode (source.setWidth 32))
  | .double, .word, false => finish64 (SoftFloat.i32ToF64 roundingMode (source.setWidth 32))
  | .double, .long, true => finish64 (SoftFloat.ui64ToF64 roundingMode source)
  | .double, .long, false => finish64 (SoftFloat.i64ToF64 roundingMode source)

end

end RvEmulator.Core64
