import Mathlib.Data.List.Infix
import JxlHeaders.DecodeJxlSound

/-!
# `save_image` and `main`

`save_image` refuses every decoded image that is not a single frame with the PPM or PGM
channel count (`saveImage_pnm_unsupported`). `main` writes to no file but the outputs it
is given (`main_writesTo`), and finishes when the decoder makes progress
(`main_terminates`).
-/

namespace JxlHeaders.Cli

theorem endsWith_eq {s a b : String} (ha : endsWith s a) (hb : endsWith s b)
    (hl : a.data.length = b.data.length) : a = b := by
  unfold endsWith at ha hb
  rw [List.isSuffixOf_iff_suffix] at ha hb
  exact String.ext ((List.suffix_of_suffix_length_le ha hb hl.le).eq_of_length hl)

theorem endsWith_false {s a : String} (b : String) (ha : endsWith s a) (hne : a ≠ b)
    (hl : a.data.length = b.data.length) : endsWith s b = false :=
  Bool.eq_false_iff.mpr fun hb => hne (endsWith_eq ha hb hl)

/-- The file systems that writes to some of `paths`, in their order and each at most once,
make of a file system. -/
inductive WritesTo (env : Env) : List String → env.Disk → env.Disk → Prop
  | nil (disk : env.Disk) : WritesTo env [] disk disk
  | skip {path : String} {paths : List String} {disk disk' : env.Disk} :
    WritesTo env paths disk disk' → WritesTo env (path :: paths) disk disk'
  | write {path : String} {paths : List String} {disk disk' : env.Disk} (bytes : List UInt8) :
    WritesTo env paths (env.write disk path bytes).1 disk' → WritesTo env (path :: paths) disk disk'

namespace WritesTo

variable {env : Env}

theorem refl : ∀ (paths : List String) (disk : env.Disk), WritesTo env paths disk disk
  | [], disk => .nil disk
  | _ :: paths, disk => .skip (refl paths disk)

theorem append {ps qs : List String} {d₁ d₂ d₃ : env.Disk} (h₁ : WritesTo env ps d₁ d₂)
    (h₂ : WritesTo env qs d₂ d₃) : WritesTo env (ps ++ qs) d₁ d₃ := by
  induction h₁ with
  | nil => exact h₂
  | skip _ ih => exact .skip (ih h₂)
  | write bytes _ ih => exact .write bytes (ih h₂)

end WritesTo

section

variable (env : Env) {fuel : Nat}

theorem saveImage_pnm_unsupported {inputBytes : List UInt8} {options : DecoderOptions}
    {decoder : env.WithImageInfo} {rest : List UInt8}
    {imageData : ImageData env.ColorProfile env.BitDepth} {path : String} {c : Nat}
    (hinit : processLoop env.processInitialized fuel (env.new options) inputBytes =
      .ok (decoder, rest))
    (hdec : decodeJxl env fuel inputBytes options = .ok imageData)
    (hname : endsWith path ".ppm" ∧ c = 3 ∨ endsWith path ".pgm" ∧ c = 1)
    (hbad : imageData.frames.length ≠ 1 ∨
      (if env.isGrayscale decoder then 1 else 3) + (env.basicInfo decoder).extraChannels ≠ c)
    (bitDepth : Nat) (colorProfile : env.ColorProfile) (disk : env.Disk) :
    saveImage env imageData bitDepth colorProfile path disk =
      (.error (.msg (.outputFormatNotSupported path)), disk) := by
  obtain ⟨decoder', rest', h1, h⟩ := decodeJxl_ok hdec
  rw [hinit] at h1
  cases h1
  obtain ⟨-, -, hshape⟩ := framesLoop_shape rfl h fun _ h => nomatch h
  have hsingle : ∀ frame, imageData.frames = [frame] → frame.channels.length ≠ c := by
    intro frame hf hc
    have := congrArg List.length (hshape frame (by simp [hf]))
    rw [List.length_map, List.length_replicate, hc] at this
    rw [hf] at hbad
    exact hbad.elim (· rfl) (· this.symm)
  have hbytes : outputBytes env imageData bitDepth colorProfile path = .ok [] := by
    rcases hname with ⟨hp, rfl⟩ | ⟨hp, rfl⟩
    on_goal 1 => simp only [outputBytes, endsWith_false ".exr" hp (by decide) rfl, hp,
      Bool.false_eq_true, ↓reduceIte]
    on_goal 2 => simp only [outputBytes, endsWith_false ".exr" hp (by decide) rfl,
      endsWith_false ".ppm" hp (by decide) rfl, hp, Bool.false_eq_true, ↓reduceIte]
    all_goals
      split
      next frame hf =>
        split
        next hc => exact absurd (by rw [hc]; rfl) (hsingle frame hf)
        next => rfl
      next => rfl
  simp [saveImage, hbytes]

theorem saveImage_pnm_unsupported_tiny :
    processLoop tinyEnv.processInitialized 5 (tinyEnv.new ⟨false, true⟩) [1, 0, 0, 0] =
      .ok ((), [0, 0]) ∧
    ∃ imageData, decodeJxl tinyEnv 5 [1, 0, 0, 0] ⟨false, true⟩ = .ok imageData ∧
      saveImage tinyEnv imageData 8 () "a.ppm" [] =
        (.error (.msg (.outputFormatNotSupported "a.ppm")), []) :=
  have h₁ : processLoop tinyEnv.processInitialized 5 (tinyEnv.new ⟨false, true⟩) [1, 0, 0, 0] =
      .ok ((), [0, 0]) := rfl
  ⟨h₁, _, rfl, saveImage_pnm_unsupported tinyEnv h₁ rfl (.inl ⟨by decide, rfl⟩)
    (.inr (by decide)) 8 () []⟩

theorem decodeReps_succ {input : String} {inputBytes : List UInt8} {options : DecoderOptions} :
    ∀ n acc, decodeReps env fuel input inputBytes options (n + 1) acc =
      ((decodeJxl env fuel inputBytes options).wrapErr (.failedToDecode input) >>= fun data =>
        .ok (some data))
  | 0, _ => rfl
  | n + 1, _ => by
    rw [decodeReps]
    simp only [decodeReps_succ n]
    cases (decodeJxl env fuel inputBytes options).wrapErr (.failedToDecode input) <;> rfl

theorem decodeReps_congr {fuel' : Nat} {input : String} {inputBytes : List UInt8}
    {options : DecoderOptions}
    (h : decodeJxl env fuel inputBytes options = decodeJxl env fuel' inputBytes options) :
    ∀ n acc, decodeReps env fuel input inputBytes options n acc =
      decodeReps env fuel' input inputBytes options n acc
  | 0, _ => rfl
  | n + 1, _ => by simp only [decodeReps, h, decodeReps_congr h n]

theorem writeOutputs_result_ne_outOfFuel (opt : Opt)
    (imageData : ImageData env.ColorProfile env.BitDepth) (disk : env.Disk) :
    (writeOutputs env opt imageData disk).result ≠ .outOfFuel := by
  simp only [writeOutputs]
  split
  · simp
  · generalize (do _; _; _ : Except (Report env.Error) Unit) = r
    cases r <;> simp [Run.ofExcept]

theorem main_terminates (hp : env.Progresses) (opt : Opt) (disk : env.Disk) :
    ∃ exit : Exit env, exit.result ≠ .outOfFuel ∧ ∀ fuel,
      (match env.readToEnd disk opt.input with
        | .ok inputBytes => inputBytes.length
        | .error _ => 0) < fuel → main env fuel opt disk = exit := by
  cases hopen : env.fileOpen disk opt.input with
  | some e => exact ⟨main env 0 opt disk, by simp [main, hopen], fun _ _ => by simp only [main, hopen]⟩
  | none =>
    cases hread : env.readToEnd disk opt.input with
    | error e => exact ⟨main env 0 opt disk, by simp [main, hopen, hread],
        fun _ _ => by simp only [main, hopen, hread]⟩
    | ok inputBytes =>
      have hN := decodeJxl_ne_outOfFuel hp (decoderOptions opt.output)
        (Nat.lt_succ_self inputBytes.length)
      refine ⟨main env (inputBytes.length + 1) opt disk, ?_, fun fuel hf => ?_⟩
      · simp only [main, hopen, hread]
        cases hn : opt.numReps with
        | zero => simp [decodeReps]
        | succ n =>
          rw [decodeReps_succ]
          generalize decodeJxl env _ inputBytes _ = r at hN
          cases r with
          | ok imageData => exact writeOutputs_result_ne_outOfFuel env opt imageData disk
          | outOfFuel => exact absurd rfl hN
          | _ => simp [Run.wrapErr]
      · simp only [main, hopen, hread,
          decodeReps_congr env (decodeJxl_mono hN (show inputBytes.length + 1 ≤ fuel by exact hf))]

theorem main_terminates_tiny :
    tinyEnv.Progresses ∧ ∃ exit : Exit tinyEnv, exit.result ≠ .outOfFuel ∧ ∀ fuel,
      (match tinyEnv.readToEnd [] "a.jxl" with
        | .ok inputBytes => inputBytes.length
        | .error _ => 0) < fuel →
        main tinyEnv fuel ⟨"a.jxl", some "a.pgm", false, 1, none, none, none⟩ [] = exit :=
  ⟨tinyEnv_progresses, main_terminates tinyEnv tinyEnv_progresses _ []⟩

/-! ## What `main` writes -/

theorem fsWrite_disk (disk : env.Disk) (path : String) (bytes : List UInt8) :
    (fsWrite env disk path bytes).2 = (env.write disk path bytes).1 := by
  unfold fsWrite
  split <;> simp_all

theorem fsWrite_writesTo (disk : env.Disk) (path : String) (bytes : List UInt8) :
    WritesTo env [path] disk (fsWrite env disk path bytes).2 :=
  fsWrite_disk env disk path bytes ▸ .write bytes (.nil _)

theorem saveIcc_writesTo (iccBytes : List UInt8) (iccFilename : Option String)
    (disk : env.Disk) :
    WritesTo env iccFilename.toList disk (saveIcc env iccBytes iccFilename disk).2 := by
  cases iccFilename with
  | none => exact .nil disk
  | some path => exact fsWrite_writesTo env disk path iccBytes

theorem saveImage_writesTo (imageData : ImageData env.ColorProfile env.BitDepth) (bitDepth : Nat)
    (colorProfile : env.ColorProfile) (path : String) (disk : env.Disk) :
    WritesTo env [path] disk (saveImage env imageData bitDepth colorProfile path disk).2 := by
  unfold saveImage
  split
  · exact .refl _ _
  · split
    · exact .refl _ _
    · exact fsWrite_writesTo env disk path _

theorem writeOutputs_writesTo (opt : Opt) (imageData : ImageData env.ColorProfile env.BitDepth)
    (disk : env.Disk) :
    WritesTo env (opt.originalIccOut.toList ++ opt.iccOut.toList ++ opt.output.toList) disk
      (writeOutputs env opt imageData disk).disk := by
  unfold writeOutputs
  dsimp only
  split
  · exact .refl _ _
  have h₁ := saveIcc_writesTo env (env.asIcc imageData.embeddedProfile) opt.originalIccOut disk
  refine (h₁.append (saveIcc_writesTo env (env.asIcc imageData.outputProfile) _ _)).append ?_
  cases opt.output with
  | none => exact .nil _
  | some path => exact saveImage_writesTo env _ _ _ path _

/-- `main` writes to no file but the original ICC profile, the output ICC profile and the
image it is given, in that order and each at most once. -/
theorem main_writesTo (opt : Opt) (disk : env.Disk) :
    WritesTo env (opt.originalIccOut.toList ++ opt.iccOut.toList ++ opt.output.toList) disk
      (main env fuel opt disk).disk := by
  unfold main
  split
  · exact .refl _ _
  · split
    · exact .refl _ _
    · split
      · exact writeOutputs_writesTo env opt _ disk
      all_goals exact .refl _ _

end

end JxlHeaders.Cli
