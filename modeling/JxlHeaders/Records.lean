import JxlHeaders.Encodings

/-!
# The records under the frame header

The tags, the pass structure, blending info, the restoration filter and the table of
contents, each with its default and its decoder, field by field with the coder,
condition and default of its attributes.
-/

namespace JxlHeaders

/-! ## Tags -/

inductive FrameType where
  | regularFrame
  | lfFrame
  | referenceOnly
  | skipProgressive
  deriving DecidableEq, Repr

def FrameType.fromU32 (u : UInt32) : Option FrameType :=
  match u.toNat with
  | 0 => some .regularFrame
  | 1 => some .lfFrame
  | 2 => some .referenceOnly
  | 3 => some .skipProgressive
  | _ => none

def FrameType.read : Prog FrameType := readEnum enumCoder FrameType.fromU32 "FrameType"

inductive Encoding where
  | varDCT
  | modular
  deriving DecidableEq, Repr

def Encoding.fromU32 (u : UInt32) : Option Encoding :=
  match u.toNat with
  | 0 => some .varDCT
  | 1 => some .modular
  | _ => none

def Encoding.coder : U32Coder := .direct (.bits 1)

def Encoding.read : Prog Encoding := readEnum Encoding.coder Encoding.fromU32 "Encoding"

inductive BlendingMode where
  | replace
  | add
  | blend
  | alphaWeightedAdd
  | mul
  deriving DecidableEq, Repr

def BlendingMode.fromU32 (u : UInt32) : Option BlendingMode :=
  match u.toNat with
  | 0 => some .replace
  | 1 => some .add
  | 2 => some .blend
  | 3 => some .alphaWeightedAdd
  | 4 => some .mul
  | _ => none

def BlendingMode.coder : U32Coder := .select (.val 0) (.val 1) (.val 2) (.bitsOffset 2 3)

def BlendingMode.read : Prog BlendingMode :=
  readEnum BlendingMode.coder BlendingMode.fromU32 "BlendingMode"

def Flags.useLfFrame : UInt64 := 0x20

/-! ## Passes -/

structure Passes where
  numPasses : UInt32
  numDs : UInt32
  shift : List UInt32
  downsample : List UInt32
  lastPass : List UInt32
  deriving DecidableEq, Repr

def Passes.default : Passes := ⟨1, 0, [], [], []⟩

def Passes.numPassesCoder : U32Coder := .select (.val 1) (.val 2) (.val 3) (.bitsOffset 3 4)

def Passes.numDsCoder : U32Coder := .select (.val 0) (.val 1) (.val 2) (.bitsOffset 1 3)

def Passes.downsampleCoder : U32Coder := .select (.val 1) (.val 2) (.val 4) (.val 8)

def Passes.lastPassCoder : U32Coder := .select (.val 0) (.val 1) (.val 2) (.bits 3)

def Passes.read : Prog Passes := do
  let numPasses ← Passes.numPassesCoder.read
  let numDs ← readDefaulted (numPasses != 1) 0 Passes.numDsCoder.read
  let shift ← readDefaultedElement (numPasses != 1) (numPasses - 1).toNat 0
    (U32Coder.direct (.bits 2)).read
  let downsample ← readDefaultedElement (numPasses != 1) numDs.toNat 1
    Passes.downsampleCoder.read
  let lastPass ← readDefaultedElement (numPasses != 1) numDs.toNat 0 Passes.lastPassCoder.read
  pure { numPasses, numDs, shift, downsample, lastPass }

/-! ## Blending info -/

structure BlendingInfoNonserialized where
  numExtraChannels : UInt32
  haveCrop : Bool
  x0 : Int
  y0 : Int
  width : UInt32
  height : UInt32
  imgWidth : UInt32
  imgHeight : UInt32
  deriving DecidableEq, Repr

/-- Whether the crop covers the canvas, compared in `i64` as the source does. -/
def fullFrame (haveCrop : Bool) (x0 y0 : Int) (width height imgWidth imgHeight : UInt32) : Bool :=
  !haveCrop || (x0 == 0 && y0 == 0 && decide ((width.toNat : Int) + x0 ≥ imgWidth.toNat) &&
    decide ((height.toNat : Int) + y0 ≥ imgHeight.toNat))

structure BlendingInfo where
  mode : BlendingMode
  alphaChannel : UInt32
  clamp : Bool
  source : UInt32
  deriving DecidableEq, Repr

def BlendingInfo.default : BlendingInfo := ⟨.replace, 0, false, 0⟩

def BlendingInfo.alphaChannelCoder : U32Coder :=
  .select (.val 0) (.val 1) (.val 2) (.bitsOffset 3 3)

def BlendingInfo.sourceCoder : U32Coder := .select (.val 0) (.val 1) (.val 2) (.val 3)

def BlendingInfo.read (ns : BlendingInfoNonserialized) : Prog BlendingInfo := do
  let mode ← BlendingMode.read
  let alphaChannel ← readDefaulted
    (decide (ns.numExtraChannels > 0) && (mode == .blend || mode == .alphaWeightedAdd)) 0
    BlendingInfo.alphaChannelCoder.read
  let clamp ← readDefaulted
    (decide (ns.numExtraChannels > 0) && (mode == .blend || mode == .alphaWeightedAdd || mode == .mul))
    false readBool
  let source ← readDefaulted
    (mode != .replace && !fullFrame ns.haveCrop ns.x0 ns.y0 ns.width ns.height ns.imgWidth ns.imgHeight)
    0 BlendingInfo.sourceCoder.read
  pure { mode, alphaChannel, clamp, source }

/-! ## Restoration filter -/

structure RestorationFilterNonserialized where
  encoding : Encoding
  deriving DecidableEq, Repr

structure RestorationFilter where
  allDefault : Bool
  gab : Bool
  gabCustom : Bool
  gabXWeight1 : F32
  gabXWeight2 : F32
  gabYWeight1 : F32
  gabYWeight2 : F32
  gabBWeight1 : F32
  gabBWeight2 : F32
  epfIters : UInt32
  epfSharpCustom : Bool
  epfSharpLut : Mathlib.Vector F32 8
  epfWeightCustom : Bool
  epfChannelScale : Mathlib.Vector F32 3
  epfPass1Zeroflush : F32
  epfPass2Zeroflush : F32
  epfSigmaCustom : Bool
  epfQuantMul : F32
  epfPass0SigmaScale : F32
  epfPass2SigmaScale : F32
  epfBorderSadMul : F32
  epfSigmaForModular : F32
  extensions : Extensions
  deriving DecidableEq

namespace RestorationFilter

def gabWeight1Default : F32 := ⟨0x3DEBDE00⟩
def gabWeight2Default : F32 := ⟨0x3D7ADFCE⟩

def epfSharpLutDefault : Mathlib.Vector F32 8 :=
  ⟨[⟨0⟩, ⟨0x3E124925⟩, ⟨0x3E924925⟩, ⟨0x3EDB6DB7⟩, ⟨0x3F124925⟩, ⟨0x3F36DB6E⟩, ⟨0x3F5B6DB7⟩,
    ⟨0x3F800000⟩], rfl⟩

def epfChannelScaleDefault : Mathlib.Vector F32 3 := ⟨[⟨0x42200000⟩, ⟨0x40A00000⟩, ⟨0x40600000⟩], rfl⟩

/-- The floats are the nearest `f32`s of the source's literals. -/
def default : RestorationFilter where
  allDefault := true
  gab := true
  gabCustom := false
  gabXWeight1 := gabWeight1Default
  gabXWeight2 := gabWeight2Default
  gabYWeight1 := gabWeight1Default
  gabYWeight2 := gabWeight2Default
  gabBWeight1 := gabWeight1Default
  gabBWeight2 := gabWeight2Default
  epfIters := 2
  epfSharpCustom := false
  epfSharpLut := epfSharpLutDefault
  epfWeightCustom := false
  epfChannelScale := epfChannelScaleDefault
  epfPass1Zeroflush := ⟨0x3EE66666⟩
  epfPass2Zeroflush := ⟨0x3F19999A⟩
  epfSigmaCustom := false
  epfQuantMul := ⟨0x3EEB851F⟩
  epfPass0SigmaScale := ⟨0x3F666666⟩
  epfPass2SigmaScale := ⟨0x40D00000⟩
  epfBorderSadMul := ⟨0x3F2AAAAB⟩
  epfSigmaForModular := ⟨0x3F800000⟩
  extensions := {}

def read (ns : RestorationFilterNonserialized) : Prog RestorationFilter := do
  let allDefault ← readBool
  let gab ← readDefaulted (!allDefault) true readBool
  let gabCustom ← readDefaulted (!allDefault && gab) false readBool
  let gabXWeight1 ← readDefaulted (!allDefault && gabCustom) gabWeight1Default readF32
  let gabXWeight2 ← readDefaulted (!allDefault && gabCustom) gabWeight2Default readF32
  let gabYWeight1 ← readDefaulted (!allDefault && gabCustom) gabWeight1Default readF32
  let gabYWeight2 ← readDefaulted (!allDefault && gabCustom) gabWeight2Default readF32
  let gabBWeight1 ← readDefaulted (!allDefault && gabCustom) gabWeight1Default readF32
  let gabBWeight2 ← readDefaulted (!allDefault && gabCustom) gabWeight2Default readF32
  let epfIters ← readDefaulted (!allDefault) 2 (U32Coder.direct (.bits 2)).read
  let epfSharpCustom ← readDefaulted
    (!allDefault && (decide (epfIters > 0) && ns.encoding == .varDCT)) false readBool
  let epfSharpLut ← readDefaulted (!allDefault && epfSharpCustom) epfSharpLutDefault
    (readArray readF32 8)
  let epfWeightCustom ← readDefaulted (!allDefault && decide (epfIters > 0)) false readBool
  let epfChannelScale ← readDefaulted (!allDefault && epfWeightCustom) epfChannelScaleDefault
    (readArray readF32 3)
  let epfPass1Zeroflush ← readDefaulted (!allDefault && epfWeightCustom) ⟨0x3EE66666⟩ readF32
  let epfPass2Zeroflush ← readDefaulted (!allDefault && epfWeightCustom) ⟨0x3F19999A⟩ readF32
  let epfSigmaCustom ← readDefaulted (!allDefault && decide (epfIters > 0)) false readBool
  let epfQuantMul ← readDefaulted (!allDefault && (epfSigmaCustom && ns.encoding == .varDCT))
    ⟨0x3EEB851F⟩ readF32
  let epfPass0SigmaScale ← readDefaulted (!allDefault && epfSigmaCustom) ⟨0x3F666666⟩ readF32
  let epfPass2SigmaScale ← readDefaulted (!allDefault && epfSigmaCustom) ⟨0x40D00000⟩ readF32
  let epfBorderSadMul ← readDefaulted (!allDefault && epfSigmaCustom) ⟨0x3F2AAAAB⟩ readF32
  let epfSigmaForModular ← readDefaulted
    (!allDefault && (decide (epfIters > 0) && ns.encoding == .modular)) ⟨0x3F800000⟩ readF32
  let extensions ← readDefaulted (!allDefault) {} Extensions.read
  pure ⟨allDefault, gab, gabCustom, gabXWeight1, gabXWeight2, gabYWeight1, gabYWeight2,
    gabBWeight1, gabBWeight2, epfIters, epfSharpCustom, epfSharpLut, epfWeightCustom,
    epfChannelScale, epfPass1Zeroflush, epfPass2Zeroflush, epfSigmaCustom, epfQuantMul,
    epfPass0SigmaScale, epfPass2SigmaScale, epfBorderSadMul, epfSigmaForModular, extensions⟩

end RestorationFilter

/-! ## Table of contents -/

structure Permutation where
  deriving DecidableEq, Repr

def Permutation.read : Prog Permutation := pure {}

structure TocNonserialized where
  permuted : Bool
  numEntries : UInt32
  entries : List UInt32
  deriving DecidableEq, Repr

structure Toc where
  permuted : Bool
  permutation : Permutation
  entries : List UInt32
  deriving DecidableEq, Repr

def tocEntryCoder : U32Coder :=
  .select (.bits 10) (.bitsOffset 14 1024) (.bitsOffset 22 17408) (.bitsOffset 30 4211712)

def Toc.read (ns : TocNonserialized) : Prog Toc := do
  let permuted ← readBool
  let permutation ← readDefaulted permuted {} Permutation.read
  let entries ← readVector tocEntryCoder.read ns.numEntries.toNat
  pure { permuted, permutation, entries }

end JxlHeaders
