import JxlHeaders.Image

/-!
# The command-line driver

`jxl_cli`'s `main` reads a file, decodes it with the `jxl` crate's streaming decoder and
writes the image and its ICC profiles. The decoder, the allocator, the encoders and the
file system are not in this source tree: they are the fields of an `Env`. The driver's
loops have no bound of their own, so they run on fuel.
-/

namespace JxlHeaders.Cli

inductive Msg where
  | failedToWriteIcc (path : String)
  | outputFormatNotSupported (path : String)
  | failedToWriteImage (path : String)
  | sourceFileTruncated
  | failedToReadSource (path : String)
  | failedToDecode (path : String)
  deriving DecidableEq, Repr

/-- `debug` is the `{:?}` form of a path. -/
def Msg.text (debug : String → String) : Msg → String
  | .failedToWriteIcc path => "Failed to write ICC profile to " ++ debug path
  | .outputFormatNotSupported path => "Output format " ++ debug path ++ " not supported"
  | .failedToWriteImage path => "Failed to write decoded image to " ++ debug path
  | .sourceFileTruncated => "Source file truncated"
  | .failedToReadSource path => "Failed to read source image from " ++ debug path
  | .failedToDecode path => "Failed to decode image from " ++ debug path

/-- An eyre report: an error converted by `?`, an `eyre!` message, or a `wrap_err_with`. -/
inductive Report (E : Type) where
  | error (e : E)
  | msg (m : Msg)
  | wrap (context : Msg) (cause : Report E)

inductive Run (E α : Type) where
  | ok (a : α)
  | err (r : Report E)
  | panic
  | outOfFuel

namespace Run

variable {E α β : Type}

def bind : Run E α → (α → Run E β) → Run E β
  | ok a, f => f a
  | err r, _ => err r
  | panic, _ => panic
  | outOfFuel, _ => outOfFuel

instance : Monad (Run E) where
  pure := ok
  bind := bind

@[simp] theorem pure_eq (a : α) : (pure a : Run E α) = ok a := rfl
@[simp] theorem ok_bind (a : α) (f : α → Run E β) : (ok a >>= f) = f a := rfl
@[simp] theorem err_bind (r : Report E) (f : α → Run E β) : (err r >>= f) = err r := rfl
@[simp] theorem panic_bind (f : α → Run E β) : (panic >>= f) = panic := rfl
@[simp] theorem outOfFuel_bind (f : α → Run E β) : (outOfFuel >>= f) = outOfFuel := rfl

def wrapErr (context : Msg) : Run E α → Run E α
  | err r => err (.wrap context r)
  | r => r

def ofExcept : Except (Report E) α → Run E α
  | .ok a => ok a
  | .error r => err r

end Run

def wrapErr {E α : Type} (context : Msg) : Except (Report E) α → Except (Report E) α
  | .ok a => .ok a
  | .error r => .error (.wrap context r)

/-! ## The decoder's interface -/

inductive ProcessingResult (D R : Type) where
  | complete (result : R)
  | needsMoreInput (fallback : D)

/-- A `process` call: its result and how many bytes of the input it consumed. -/
abbrev Process (E D R : Type) := D → List UInt8 → Except E (ProcessingResult D R × Nat)

structure DecoderOptions where
  xybOutputLinear : Bool
  renderSpotColors : Bool
  deriving DecidableEq, Repr

structure BasicInfo (B : Type) where
  size : Nat × Nat
  extraChannels : Nat
  bitDepth : B

structure ImageFrame where
  channels : List (Image Float)

structure ImageData (P B : Type) where
  size : Nat × Nat
  frames : List ImageFrame
  embeddedProfile : P
  outputProfile : P
  originalBitDepth : B

/-- Everything the driver calls that is not in this source tree. -/
structure Env where
  Error : Type
  Initialized : Type
  WithImageInfo : Type
  WithFrameInfo : Type
  ColorProfile : Type
  BitDepth : Type
  Disk : Type
  new : DecoderOptions → Initialized
  processInitialized : Process Error Initialized WithImageInfo
  processWithImageInfo : Process Error WithImageInfo WithFrameInfo
  /-- `process(&mut input, &mut output_bufs)` of a decoder with frame info: besides the
  result and the bytes consumed, the samples it writes, as the new value of sample
  `(x, y)` of buffer `i` from its old value. -/
  processWithFrameInfo : WithFrameInfo → List UInt8 → List (Image Float) →
    Except Error (ProcessingResult WithFrameInfo WithImageInfo × Nat ×
      (Nat → Nat → Nat → Float → Float))
  embeddedColorProfile : WithImageInfo → ColorProfile
  outputColorProfile : WithImageInfo → ColorProfile
  basicInfo : WithImageInfo → BasicInfo BitDepth
  /-- `current_pixel_format().color_type == JxlColorType::Grayscale`. -/
  isGrayscale : WithImageInfo → Bool
  hasMoreFrames : WithImageInfo → Bool
  asIcc : ColorProfile → List UInt8
  bitsPerSample : BitDepth → Nat
  imageNewError : Nat × Nat → Option Error
  toExr : ImageData ColorProfile BitDepth → Nat → ColorProfile → Except Error (List UInt8)
  toPpmAs8bit : Image Float → Image Float → Image Float → List UInt8
  toPgmAs8bit : Image Float → List UInt8
  toNumpy : ImageData ColorProfile BitDepth → Except Error (List UInt8)
  toPng : ImageData ColorProfile BitDepth → Nat → ColorProfile → Except Error (List UInt8)
  fileOpen : Disk → String → Option Error
  readToEnd : Disk → String → Except Error (List UInt8)
  write : Disk → String → List UInt8 → Disk × Option Error

/-! ## `decode_jxl` -/

/-- On `NeedsMoreInput` the fallback is called again on what is left of the input;
an error of `process` is `.unwrap()`'s panic. -/
def processLoop {E D R : Type} (process : Process E D R) :
    Nat → D → List UInt8 → Run E (R × List UInt8)
  | 0, _, _ => .outOfFuel
  | fuel + 1, decoder, input =>
    match process decoder input with
    | .error _ => .panic
    | .ok (.complete result, n) => .ok (result, input.drop n)
    | .ok (.needsMoreInput fallback, n) =>
      if (input.drop n).isEmpty then .err (.msg .sourceFileTruncated)
      else processLoop process fuel fallback (input.drop n)

section

variable (env : Env)

def imageNew (size : Nat × Nat) : Run env.Error (Image Float) :=
  match env.imageNewError size with
  | some e => .err (.error e)
  | none => .ok (Image.new size 0)

def imageNews (size : Nat × Nat) : Nat → Run env.Error (List (Image Float))
  | 0 => pure []
  | n + 1 => do
    let img ← imageNew env size
    let rest ← imageNews size n
    pure (img :: rest)

def planesFromInterleaved (interleaved : Image Float) : Run env.Error (List (Image Float)) := do
  let size := (interleaved.xsize / 3, interleaved.ysize)
  let rImage ← imageNew env size
  let gImage ← imageNew env size
  let bImage ← imageNew env size
  pure [rImage.update fun x y _ => interleaved.get (3 * x) y,
    gImage.update fun x y _ => interleaved.get (3 * x + 1) y,
    bImage.update fun x y _ => interleaved.get (3 * x + 2) y]

def processWithBuffers : Process env.Error (env.WithFrameInfo × List (Image Float))
    (env.WithImageInfo × List (Image Float)) := fun (decoder, bufs) input =>
  match env.processWithFrameInfo decoder input bufs with
  | .error e => .error e
  | .ok (result, n, writes) =>
    let bufs := bufs.mapIdx fun i img => img.update (writes i)
    match result with
    | .complete next => .ok (.complete (next, bufs), n)
    | .needsMoreInput fallback => .ok (.needsMoreInput (fallback, bufs), n)

/-- The buffers of a grayscale frame; otherwise the planes of the first, interleaved,
buffer and then the others. -/
def frameChannels (grayscale : Bool) (outputs : List (Image Float)) :
    Run env.Error (List (Image Float)) :=
  if grayscale then pure outputs
  else match outputs with
    | [] => .panic
    | interleaved :: rest => do
      let rgbChannels ← planesFromInterleaved env interleaved
      pure (rgbChannels ++ rest)

def decodeFrame (fuel : Nat) (grayscale : Bool) (samplesPerPixel extraChannels : Nat)
    (size : Nat × Nat) (decoder : env.WithImageInfo) (input : List UInt8) :
    Run env.Error (env.WithImageInfo × List (Image Float) × List UInt8) := do
  let (frameInfo, input) ← processLoop env.processWithImageInfo fuel decoder input
  let first ← imageNew env (size.1 * samplesPerPixel, size.2)
  let extras ← imageNews env size extraChannels
  let ((decoder, outputs), input) ←
    processLoop (processWithBuffers env) fuel (frameInfo, first :: extras) input
  let channels ← frameChannels env grayscale outputs
  pure (decoder, channels, input)

def framesLoop (fuel : Nat) (grayscale : Bool) (samplesPerPixel extraChannels : Nat) :
    Nat → env.WithImageInfo → List UInt8 → ImageData env.ColorProfile env.BitDepth →
      Run env.Error (ImageData env.ColorProfile env.BitDepth)
  | 0, _, _, _ => .outOfFuel
  | k + 1, decoder, input, imageData => do
    let (decoder, channels, input) ←
      decodeFrame env fuel grayscale samplesPerPixel extraChannels imageData.size decoder input
    let imageData := { imageData with frames := imageData.frames ++ [⟨channels⟩] }
    if !env.hasMoreFrames decoder then pure imageData
    else framesLoop fuel grayscale samplesPerPixel extraChannels k decoder input imageData

/-- `decode_jxl`, without the elapsed time it also returns. -/
def decodeJxl (fuel : Nat) (inputBytes : List UInt8) (options : DecoderOptions) :
    Run env.Error (ImageData env.ColorProfile env.BitDepth) := do
  let (decoder, input) ← processLoop env.processInitialized fuel (env.new options) inputBytes
  let info := env.basicInfo decoder
  let grayscale := env.isGrayscale decoder
  let samplesPerPixel := if grayscale then 1 else 3
  framesLoop env fuel grayscale samplesPerPixel info.extraChannels fuel decoder input
    { size := info.size, frames := [], embeddedProfile := env.embeddedColorProfile decoder,
      outputProfile := env.outputColorProfile decoder, originalBitDepth := info.bitDepth }

/-! ## Writing the outputs -/

/-- `str::ends_with`, on the characters of the strings. -/
def endsWith (s suffix : String) : Bool := suffix.data.isSuffixOf s.data

def fsWrite (disk : env.Disk) (path : String) (bytes : List UInt8) :
    Except (Report env.Error) Unit × env.Disk :=
  match env.write disk path bytes with
  | (disk, none) => (.ok (), disk)
  | (disk, some e) => (.error (.error e), disk)

def saveIcc (iccBytes : List UInt8) (iccFilename : Option String) (disk : env.Disk) :
    Except (Report env.Error) Unit × env.Disk :=
  match iccFilename with
  | none => (.ok (), disk)
  | some path =>
    let (result, disk) := fsWrite env disk path iccBytes
    (wrapErr (.failedToWriteIcc path) result, disk)

def outputBytes (imageData : ImageData env.ColorProfile env.BitDepth) (bitDepth : Nat)
    (colorProfile : env.ColorProfile) (fnStr : String) : Except (Report env.Error) (List UInt8) :=
  if endsWith fnStr ".exr" then (env.toExr imageData bitDepth colorProfile).mapError .error
  else if endsWith fnStr ".ppm" then
    .ok (match imageData.frames with
      | [frame] => match frame.channels with
        | [r, g, b] => env.toPpmAs8bit r g b
        | _ => []
      | _ => [])
  else if endsWith fnStr ".pgm" then
    .ok (match imageData.frames with
      | [frame] => match frame.channels with
        | [g] => env.toPgmAs8bit g
        | _ => []
      | _ => [])
  else if endsWith fnStr ".npy" then (env.toNumpy imageData).mapError .error
  else if endsWith fnStr ".png" then (env.toPng imageData bitDepth colorProfile).mapError .error
  else .ok []

def saveImage (imageData : ImageData env.ColorProfile env.BitDepth) (bitDepth : Nat)
    (colorProfile : env.ColorProfile) (outputFilename : String) (disk : env.Disk) :
    Except (Report env.Error) Unit × env.Disk :=
  match outputBytes env imageData bitDepth colorProfile outputFilename with
  | .error r => (.error r, disk)
  | .ok bytes =>
    if bytes.isEmpty then (.error (.msg (.outputFormatNotSupported outputFilename)), disk)
    else
      let (result, disk) := fsWrite env disk outputFilename bytes
      (wrapErr (.failedToWriteImage outputFilename) result, disk)

end

/-! ## `main` -/

structure Opt where
  input : String
  output : Option String
  speedtest : Bool
  numReps : Nat
  iccOut : Option String
  originalIccOut : Option String
  overrideBitdepth : Option Nat

/-- What `main` prints; the timings of the speed report are not modelled. -/
inductive Line (E : Type) where
  /-- `Decoded {} pixels in {} seconds: {} pixels/s`. -/
  | decoded (numPixels : Nat)
  /-- `Decoded {} pixels in {} seconds (mean of {} reps): {} pixels/s`. -/
  | decodedMean (numPixels numReps : Nat)
  /-- `Failed to save original ICC profile: {err}`. -/
  | failedToSaveOriginalIcc (err : Report E)
  /-- `Failed to save data ICC profile: {err}`. -/
  | failedToSaveDataIcc (err : Report E)
  /-- `Failed to save image: {err}`. -/
  | failedToSaveImage (err : Report E)

/-- `none` is the panic of dividing by `num_reps as u32` when that is zero. -/
def speedReport {E : Type} (speedtest : Bool) (numReps numPixels : Nat) :
    Option (List (Line E)) :=
  if speedtest then
    if numReps = 1 then some [.decoded numPixels]
    else if numReps.toUInt32 = 0 then none
    else some [.decodedMean numPixels numReps]
  else some []

def failureLine {E : Type} (line : Report E → Line E) : Except (Report E) Unit → List (Line E)
  | .ok () => []
  | .error err => [line err]

structure Exit (env : Env) where
  result : Run env.Error Unit
  disk : env.Disk
  printed : List (Line env.Error)

section

variable (env : Env)

def decoderOptions (output : Option String) : DecoderOptions :=
  let (numpyOutput, exrOutput) := match output with
    | some path => (endsWith path ".npy", endsWith path ".exr")
    | none => (false, false)
  { xybOutputLinear := numpyOutput || exrOutput, renderSpotColors := !numpyOutput }

def decodeReps (fuel : Nat) (input : String) (inputBytes : List UInt8)
    (options : DecoderOptions) : Nat → Option (ImageData env.ColorProfile env.BitDepth) →
      Run env.Error (Option (ImageData env.ColorProfile env.BitDepth))
  | 0, imageData => .ok imageData
  | n + 1, _ => do
    let data ← (decodeJxl env fuel inputBytes options).wrapErr (.failedToDecode input)
    decodeReps fuel input inputBytes options n (some data)

def outputBitDepth (opt : Opt) (imageData : ImageData env.ColorProfile env.BitDepth) : Nat :=
  match opt.overrideBitdepth with
  | none => env.bitsPerSample imageData.originalBitDepth
  | some numBits => numBits

def writeOutputs (opt : Opt) (imageData : ImageData env.ColorProfile env.BitDepth)
    (disk : env.Disk) : Exit env :=
  let numPixels := imageData.size.1 * imageData.size.2
  match speedReport opt.speedtest opt.numReps numPixels with
  | none => ⟨.panic, disk, []⟩
  | some speedLines =>
    let (originalIccResult, disk) :=
      saveIcc env (env.asIcc imageData.embeddedProfile) opt.originalIccOut disk
    let (dataIccResult, disk) := saveIcc env (env.asIcc imageData.outputProfile) opt.iccOut disk
    let (imageResult, disk, lines) : Option (Except (Report env.Error) Unit) × env.Disk ×
        List (Line env.Error) :=
      match opt.output with
      | some path =>
        let (imageResult, disk) := saveImage env imageData (outputBitDepth env opt imageData)
          imageData.outputProfile path disk
        (some imageResult, disk, failureLine .failedToSaveOriginalIcc originalIccResult ++
          failureLine .failedToSaveDataIcc dataIccResult ++
          failureLine .failedToSaveImage imageResult)
      | none => (none, disk, [])
    ⟨Run.ofExcept (do originalIccResult; dataIccResult; imageResult.getD (.ok ())),
      disk, speedLines ++ lines⟩

def main (fuel : Nat) (opt : Opt) (disk : env.Disk) : Exit env :=
  match env.fileOpen disk opt.input with
  | some e => ⟨.err (.wrap (.failedToReadSource opt.input) (.error e)), disk, []⟩
  | none =>
    match env.readToEnd disk opt.input with
    | .error e => ⟨.err (.error e), disk, []⟩
    | .ok inputBytes =>
      match decodeReps env fuel opt.input inputBytes (decoderOptions opt.output) opt.numReps
          none with
      | .ok (some imageData) => writeOutputs env opt imageData disk
      | .ok none => ⟨.panic, disk, []⟩
      | .err r => ⟨.err r, disk, []⟩
      | .panic => ⟨.panic, disk, []⟩
      | .outOfFuel => ⟨.outOfFuel, disk, []⟩

end

end JxlHeaders.Cli
