import JxlHeaders.Records

/-!
# The frame header

Its context, its fields in wire order, the validation that runs after the last field
(`FrameHeader.check`), and the TOC count it predicts (`FrameHeader.numTocEntries`).
-/

namespace JxlHeaders

/-- Modelled from the spec: of an extra channel's descriptor, not under src/, the
frame header uses only the dimension shift. -/
structure ExtraChannelInfo where
  dimShift : UInt32
  deriving DecidableEq, Repr

structure FrameHeaderNonserialized where
  xybEncoded : Bool
  numExtraChannels : UInt32
  extraChannelInfo : List ExtraChannelInfo
  haveAnimation : Bool
  haveTimecode : Bool
  imgWidth : UInt32
  imgHeight : UInt32
  deriving DecidableEq, Repr

structure FrameHeader where
  allDefault : Bool
  frameType : FrameType
  encoding : Encoding
  flags : UInt64
  doYCbCr : Bool
  jpegUpsampling : Mathlib.Vector UInt32 3
  upsampling : UInt32
  ecUpsampling : List UInt32
  groupSizeShift : UInt32
  xQmScale : UInt32
  bQmScale : UInt32
  passes : Passes
  lfLevel : UInt32
  haveCrop : Bool
  x0 : Int
  y0 : Int
  width : UInt32
  height : UInt32
  blendingInfo : BlendingInfo
  ecBlendingInfo : List BlendingInfo
  duration : UInt32
  timecode : UInt32
  isLast : Bool
  saveAsReference : UInt32
  saveBeforeCt : Bool
  name : String
  restorationFilter : RestorationFilter
  extensions : Extensions
  deriving DecidableEq

namespace FrameHeader

def cropCoder : U32Coder :=
  .select (.bits 8) (.bitsOffset 11 256) (.bitsOffset 14 2304) (.bitsOffset 30 18688)

def upsamplingCoder : U32Coder := .select (.val 1) (.val 2) (.val 4) (.val 8)

def lfLevelCoder : U32Coder := .select (.val 1) (.val 2) (.val 3) (.val 4)

def durationCoder : U32Coder := .select (.val 0) (.val 1) (.bits 8) (.bits 32)

def readFields (ns : FrameHeaderNonserialized) : Prog FrameHeader := do
  let allDefault ← readBool
  let frameType ← readDefaulted (!allDefault) .regularFrame FrameType.read
  let encoding ← readDefaulted (!allDefault) .varDCT Encoding.read
  let flags ← readDefaulted (!allDefault) 0 readU64
  let doYCbCr ← readDefaulted (!allDefault && !ns.xybEncoded) false readBool
  let jpegUpsampling ← readDefaulted (!allDefault && (doYCbCr && flags &&& Flags.useLfFrame == 0))
    ⟨[0, 0, 0], rfl⟩ (readArray (U32Coder.direct (.bits 2)).read 3)
  let upsampling ← readDefaulted (!allDefault && flags &&& Flags.useLfFrame == 0) 1
    upsamplingCoder.read
  let ecUpsampling ← readDefaultedElement (!allDefault && flags &&& Flags.useLfFrame == 0)
    ns.numExtraChannels.toNat 1 upsamplingCoder.read
  let groupSizeShift ← readDefaulted (!allDefault && encoding == .modular) 1
    (U32Coder.direct (.bits 2)).read
  let xQmScale ← readDefaulted (!allDefault && (encoding == .varDCT && ns.xybEncoded)) 3
    (U32Coder.direct (.bits 3)).read
  let bQmScale ← readDefaulted (!allDefault && (encoding == .varDCT && ns.xybEncoded)) 2
    (U32Coder.direct (.bits 3)).read
  let passes ← readDefaulted (!allDefault && frameType != .referenceOnly) Passes.default
    Passes.read
  let lfLevel ← readDefaulted (!allDefault && frameType == .lfFrame) 0
    lfLevelCoder.read
  let haveCrop ← readDefaulted (!allDefault && frameType != .lfFrame) false readBool
  let x0 ← readDefaulted (!allDefault && (haveCrop && frameType != .referenceOnly)) 0
    (readI32 cropCoder)
  let y0 ← readDefaulted (!allDefault && (haveCrop && frameType != .referenceOnly)) 0
    (readI32 cropCoder)
  let width ← readDefaulted (!allDefault && haveCrop) 0 cropCoder.read
  let height ← readDefaulted (!allDefault && haveCrop) 0 cropCoder.read
  let blendingNs : BlendingInfoNonserialized :=
    ⟨ns.numExtraChannels, haveCrop, x0, y0, width, height, ns.imgWidth, ns.imgHeight⟩
  let blendingInfo ← readDefaulted
    (!allDefault && (frameType == .regularFrame || frameType == .skipProgressive))
    BlendingInfo.default (BlendingInfo.read blendingNs)
  let ecBlendingInfo ← readDefaultedElement (!allDefault) ns.numExtraChannels.toNat
    BlendingInfo.default (BlendingInfo.read blendingNs)
  let duration ← readDefaulted
    (!allDefault && ((frameType == .regularFrame || frameType == .skipProgressive) &&
      ns.haveAnimation)) 0
    durationCoder.read
  let timecode ← readDefaulted
    (!allDefault && ((frameType == .regularFrame || frameType == .skipProgressive) &&
      ns.haveTimecode)) 0
    (U32Coder.direct (.bits 32)).read
  let isLast ← readDefaulted
    (!allDefault && (frameType == .regularFrame || frameType == .skipProgressive))
    (frameType == .regularFrame) readBool
  let saveAsReference ← readDefaulted (!allDefault && (frameType != .lfFrame && !isLast)) 0
    (U32Coder.direct (.bits 2)).read
  let saveBeforeCt ← readDefaulted (!allDefault && frameType != .lfFrame)
    (!fullFrame haveCrop x0 y0 width height ns.imgWidth ns.imgHeight &&
      (frameType == .regularFrame || frameType == .skipProgressive) &&
      blendingInfo.mode == .replace && (duration == 0 || saveAsReference != 0) && !isLast)
    readBool
  let name ← readDefaulted (!allDefault) "" readString
  let restorationFilter ← readDefaulted (!allDefault) RestorationFilter.default
    (RestorationFilter.read ⟨encoding⟩)
  let extensions ← readDefaulted (!allDefault) {} Extensions.read
  pure ⟨allDefault, frameType, encoding, flags, doYCbCr, jpegUpsampling, upsampling,
    ecUpsampling, groupSizeShift, xQmScale, bQmScale, passes, lfLevel, haveCrop, x0, y0, width,
    height, blendingInfo, ecBlendingInfo, duration, timecode, isLast, saveAsReference,
    saveBeforeCt, name, restorationFilter, extensions⟩

def ecUpsamplingRejected (upsampling : UInt32) (c : ExtraChannelInfo × UInt32) : Bool :=
  c.2 <<< c.1.dimShift < upsampling || c.2 > 8

def check (h : FrameHeader) (ns : FrameHeaderNonserialized) : Except Error Unit := do
  if h.upsampling > 1 then
    match (ns.extraChannelInfo.zip h.ecUpsampling).find? (ecUpsamplingRejected h.upsampling) with
    | some (info, upsampling) => throw (.invalidEcUpsampling h.upsampling info.dimShift upsampling)
    | none => pure ()
  if h.passes.numDs ≥ h.passes.numPasses then
    throw (.numPassesTooLarge h.passes.numDs h.passes.numPasses)
  pure ()

/-- `#[aligned]` moves to a byte boundary first, `#[validate]` runs `check` last. -/
def read (ns : FrameHeaderNonserialized) : Prog FrameHeader := do
  jumpToByteBoundary
  let h ← readFields ns
  liftExcept (h.check ns)
  pure h

/-- The header of the `all_default` shortcut, its defaults computed over the context. -/
def defaults (ns : FrameHeaderNonserialized) : FrameHeader :=
  ⟨true, .regularFrame, .varDCT, 0, false, ⟨[0, 0, 0], rfl⟩, 1,
    List.replicate ns.numExtraChannels.toNat 1, 1, 3, 2, Passes.default, 0, false, 0, 0, 0, 0,
    BlendingInfo.default, List.replicate ns.numExtraChannels.toNat BlendingInfo.default, 0, 0, true,
    0, false, "", RestorationFilter.default, {}⟩

/-! ## TOC size -/

def hShift : List UInt32 := [0, 1, 1, 0]
def vShift : List UInt32 := [0, 1, 0, 1]

/-- `none` for a zero divisor, where `u32::div_ceil` panics. -/
def divCeil (a b : UInt32) : Option UInt32 :=
  if b = 0 then none else some (if a % b > 0 then a / b + 1 else a / b)

/-- `none` for an entry past the end of `H_SHIFT`, where indexing panics. -/
def maxShifts (jpegUpsampling : List UInt32) : Option (UInt32 × UInt32) :=
  jpegUpsampling.foldlM (fun (maxhs, maxvs) ch => do
    let hs ← hShift[ch.toNat]?
    let vs ← vShift[ch.toNat]?
    pure (max maxhs hs, max maxvs vs)) (0, 0)

/-- In the `u32` arithmetic of a release build; `none` where the source panics. -/
def numTocEntries (h : FrameHeader) : Option UInt32 := do
  let groupDim : UInt32 := 256
  let blockDim : UInt32 := 8
  let (maxhs, maxvs) ← maxShifts h.jpegUpsampling.toList
  let xsizeBlocks := (← divCeil h.width (blockDim <<< maxhs)) <<< maxhs
  let ysizeBlocks := (← divCeil h.height (blockDim <<< maxvs)) <<< maxvs
  let groupDim := (groupDim >>> 1) <<< h.groupSizeShift
  let xsizeGroups ← divCeil h.width groupDim
  let ysizeGroups ← divCeil h.height groupDim
  let xsizeDcGroups ← divCeil xsizeBlocks groupDim
  let ysizeDcGroups ← divCeil ysizeBlocks groupDim
  let numGroups := xsizeGroups * ysizeGroups
  let numDcGroups := xsizeDcGroups * ysizeDcGroups
  if numGroups == 1 && h.passes.numPasses == 1 then pure 1 else pure (2 + numDcGroups)

end FrameHeader

end JxlHeaders
