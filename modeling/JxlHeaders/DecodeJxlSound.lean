import JxlHeaders.Image
import JxlHeaders.ProcessLoopSound

/-!
# `decode_jxl`

For every decoder: the frames of a decoded image and their channels' sizes
(`decodeJxl_frames`), its error reports (`decodeJxl_errs`), and termination when the
decoder makes progress (`decodeJxl_terminates`).
-/

namespace JxlHeaders.Cli

section

variable (env : Env)

/-! ## Allocation and buffers -/

theorem imageNew_ok {size : Nat × Nat} {img : Image Float} (h : imageNew env size = .ok img) :
    img.size = size := by
  unfold imageNew at h
  split at h <;> cases h
  rfl

def DecodeReport (r : Report env.Error) : Prop :=
  r = .msg .sourceFileTruncated ∨ ∃ size e, env.imageNewError size = some e ∧ r = .error e

theorem imageNew_errs (size : Nat × Nat) : (imageNew env size).Errs (DecodeReport env) := by
  unfold imageNew
  split
  · intro r h; cases h; exact Or.inr ⟨size, _, ‹_›, rfl⟩
  · exact Run.errs_ok _ _

theorem imageNew_ne_outOfFuel (size : Nat × Nat) : imageNew env size ≠ .outOfFuel := by
  unfold imageNew
  split <;> simp

theorem imageNews_ok {size : Nat × Nat} :
    ∀ {n : Nat} {imgs : List (Image Float)}, imageNews env size n = .ok imgs →
      imgs.map Image.size = List.replicate n size
  | 0, _, h => by cases h; rfl
  | n + 1, imgs, h => by
    obtain ⟨img, h1, h⟩ := Run.bind_eq_ok.mp h
    obtain ⟨rest, h2, h⟩ := Run.bind_eq_ok.mp h
    cases h
    simp [imageNew_ok env h1, imageNews_ok h2, List.replicate_succ]

theorem imageNews_errs (size : Nat × Nat) :
    ∀ n, (imageNews env size n).Errs (DecodeReport env)
  | 0 => Run.errs_ok _ _
  | n + 1 => (imageNew_errs env size).bind fun _ _ =>
      (imageNews_errs size n).bind fun _ _ => Run.errs_ok _ _

theorem imageNews_ne_outOfFuel (size : Nat × Nat) : ∀ n, imageNews env size n ≠ .outOfFuel
  | 0 => by simp [imageNews]
  | n + 1 => Run.bind_ne_outOfFuel (imageNew_ne_outOfFuel env size) fun _ _ =>
      Run.bind_ne_outOfFuel (imageNews_ne_outOfFuel size n) fun _ _ => by simp

theorem planesFromInterleaved_ok {src : Image Float} {planes : List (Image Float)}
    (h : planesFromInterleaved env src = .ok planes) :
    planes = [src.plane 0, src.plane 1, src.plane 2] := by
  obtain ⟨r, hr, h⟩ := Run.bind_eq_ok.mp h
  obtain ⟨g, hg, h⟩ := Run.bind_eq_ok.mp h
  obtain ⟨b, hb, h⟩ := Run.bind_eq_ok.mp h
  cases h
  have hp := fun (img : Image Float) (c : Fin 3) (h : imageNew env _ = .ok img) =>
    Image.update_eq_plane src img c (imageNew_ok env h)
  have h0 := hp r 0 hr
  have h1 := hp g 1 hg
  have h2 := hp b 2 hb
  simp only [Fin.val_zero, Fin.val_one, Fin.val_two, Nat.add_zero] at h0 h1 h2
  rw [h0, h1, h2]

theorem planesFromInterleaved_lossless {src : Image Float} {planes : List (Image Float)}
    (h : planesFromInterleaved env src = .ok planes) (hw : src.xsize % 3 = 0) :
    ∃ r g b, planes = [r, g, b] ∧ r.size = (src.xsize / 3, src.ysize) ∧ g.size = r.size ∧
      b.size = r.size ∧ Image.interleave r g b = src :=
  ⟨_, _, _, planesFromInterleaved_ok env h, rfl, rfl, rfl, Image.interleave_plane src hw⟩

theorem planesFromInterleaved_errs (src : Image Float) :
    (planesFromInterleaved env src).Errs (DecodeReport env) :=
  (imageNew_errs env _).bind fun _ _ => (imageNew_errs env _).bind fun _ _ =>
    (imageNew_errs env _).bind fun _ _ => Run.errs_ok _ _

theorem planesFromInterleaved_ne_outOfFuel (src : Image Float) :
    planesFromInterleaved env src ≠ .outOfFuel :=
  Run.bind_ne_outOfFuel (imageNew_ne_outOfFuel env _) fun _ _ =>
    Run.bind_ne_outOfFuel (imageNew_ne_outOfFuel env _) fun _ _ =>
      Run.bind_ne_outOfFuel (imageNew_ne_outOfFuel env _) fun _ _ => by simp

theorem map_size_mapIdx_update :
    ∀ (bufs : List (Image Float)) (writes : Nat → Nat → Nat → Float → Float),
      (bufs.mapIdx fun i img => img.update (writes i)).map Image.size = bufs.map Image.size
  | [], _ => rfl
  | b :: bufs, writes => by
    simp only [List.mapIdx_cons, List.map_cons, Image.size_update]
    rw [map_size_mapIdx_update bufs fun i => writes (i + 1)]

theorem processWithBuffers_sizes {d : env.WithFrameInfo} {bufs : List (Image Float)}
    {input : List UInt8} {res n}
    (h : processWithBuffers env (d, bufs) input = .ok (res, n)) :
    match res with
    | .complete r => r.2.map Image.size = bufs.map Image.size
    | .needsMoreInput fallback => fallback.2.map Image.size = bufs.map Image.size := by
  simp only [processWithBuffers] at h
  split at h
  · cases h
  · rename_i result n' writes _
    cases result <;> cases h <;> exact map_size_mapIdx_update bufs writes

theorem frameChannels_sizes {grayscale : Bool} {extra : Nat} {size : Nat × Nat}
    {outputs channels : List (Image Float)}
    (hout : outputs.map Image.size =
      (size.1 * (if grayscale then 1 else 3), size.2) :: List.replicate extra size)
    (h : frameChannels env grayscale outputs = .ok channels) :
    channels.map Image.size = List.replicate ((if grayscale then 1 else 3) + extra) size := by
  cases grayscale with
  | true =>
    cases h
    rw [hout, if_pos rfl, Nat.mul_one, Nat.add_comm, List.replicate_succ]
  | false =>
    obtain _ | ⟨first, rest⟩ := outputs
    · cases hout
    obtain ⟨planes, hp, h⟩ := Run.bind_eq_ok.mp h
    cases h
    simp only [List.map_cons, List.cons.injEq, Image.size_eq] at hout
    obtain ⟨⟨hx, hy⟩, hrest⟩ := hout
    have hs : (first.xsize / 3, first.ysize) = size := by
      rw [hx, hy, if_neg Bool.false_ne_true, Nat.mul_div_cancel _ (by decide)]
    rw [planesFromInterleaved_ok env hp, List.map_append, hrest]
    simp only [List.map_cons, List.map_nil, Image.size_plane, hs, if_neg Bool.false_ne_true]
    rw [← List.append_replicate_replicate]
    rfl

theorem frameChannels_errs (grayscale : Bool) (outputs : List (Image Float)) :
    (frameChannels env grayscale outputs).Errs (DecodeReport env) := by
  unfold frameChannels
  split
  · exact Run.errs_ok _ _
  · split
    · exact Run.errs_panic _
    · exact (planesFromInterleaved_errs env _).bind fun _ _ => Run.errs_ok _ _

theorem frameChannels_ne_outOfFuel (grayscale : Bool) (outputs : List (Image Float)) :
    frameChannels env grayscale outputs ≠ .outOfFuel := by
  unfold frameChannels
  split
  · simp
  · split
    · simp
    · exact Run.bind_ne_outOfFuel (planesFromInterleaved_ne_outOfFuel env _) fun _ _ => by simp

/-! ## One frame -/

variable {env} {fuel : Nat} {grayscale : Bool} {spp extra : Nat} {size : Nat × Nat}

theorem decodeFrame_ok {d d' : env.WithImageInfo} {input rest : List UInt8}
    {channels : List (Image Float)}
    (h : decodeFrame env fuel grayscale spp extra size d input = .ok (d', channels, rest)) :
    ∃ frameInfo input₁ first extras outputs,
      processLoop env.processWithImageInfo fuel d input = .ok (frameInfo, input₁) ∧
      imageNew env (size.1 * spp, size.2) = .ok first ∧
      imageNews env size extra = .ok extras ∧
      processLoop (processWithBuffers env) fuel (frameInfo, first :: extras) input₁ =
        .ok ((d', outputs), rest) ∧
      frameChannels env grayscale outputs = .ok channels := by
  obtain ⟨⟨frameInfo, input₁⟩, h1, h⟩ := Run.bind_eq_ok.mp h
  obtain ⟨first, h2, h⟩ := Run.bind_eq_ok.mp h
  obtain ⟨extras, h3, h⟩ := Run.bind_eq_ok.mp h
  obtain ⟨⟨⟨d'', outputs⟩, rest'⟩, h4, h⟩ := Run.bind_eq_ok.mp h
  obtain ⟨channels', h5, h⟩ := Run.bind_eq_ok.mp h
  cases h
  exact ⟨frameInfo, input₁, first, extras, outputs, h1, h2, h3, h4, h5⟩

theorem decodeFrame_shape {d d' : env.WithImageInfo} {input rest : List UInt8}
    {channels : List (Image Float)} (hspp : spp = if grayscale then 1 else 3)
    (h : decodeFrame env fuel grayscale spp extra size d input = .ok (d', channels, rest)) :
    channels.map Image.size = List.replicate (spp + extra) size := by
  obtain ⟨frameInfo, input₁, first, extras, outputs, -, h2, h3, h4, h5⟩ := decodeFrame_ok h
  subst hspp
  refine frameChannels_sizes env ?_ h5
  have hbufs : (first :: extras).map Image.size =
      (size.1 * (if grayscale then 1 else 3), size.2) :: List.replicate extra size := by
    rw [List.map_cons, imageNew_ok env h2, imageNews_ok env h3]
  obtain ⟨_, _, _, hP, -, hc, -⟩ := processLoop_ok (processWithBuffers env)
    (P := fun db => db.2.map Image.size = (first :: extras).map Image.size)
    (fun _ _ _ _ hP hc => (processWithBuffers_sizes env hc).trans hP) rfl h4
  exact ((processWithBuffers_sizes env hc).trans hP).trans hbufs

theorem decodeFrame_rest {d d' : env.WithImageInfo} {input rest : List UInt8}
    {channels : List (Image Float)}
    (hh : ∀ d input r n, env.processWithImageInfo d input = .ok (.complete r, n) →
      (input.drop n).length < input.length)
    (h : decodeFrame env fuel grayscale spp extra size d input = .ok (d', channels, rest)) :
    rest.length < input.length := by
  obtain ⟨_, input₁, _, _, _, h1, -, -, h4, -⟩ := decodeFrame_ok h
  obtain ⟨_, i₁, _, hl₁, hc₁, rfl⟩ := processLoop_ok_last _ h1
  have := hh _ _ _ _ hc₁
  have := processLoop_rest_length _ h4
  omega

theorem decodeFrame_errs (d : env.WithImageInfo) (input : List UInt8) :
    (decodeFrame env fuel grayscale spp extra size d input).Errs (DecodeReport env) :=
  have hl : ∀ {D R : Type} (p : Process env.Error D R) fuel d input,
      (processLoop p fuel d input).Errs (DecodeReport env) := fun p fuel d input r h =>
    Or.inl (processLoop_errs p fuel d input r h)
  (hl _ _ _ _).bind fun _ _ => (imageNew_errs env _).bind fun _ _ =>
    (imageNews_errs env _ _).bind fun _ _ => (hl _ _ _ _).bind fun _ _ =>
      (frameChannels_errs env _ _).bind fun _ _ => Run.errs_ok _ _

theorem decodeFrame_mono {fuel' : Nat} {d : env.WithImageInfo} {input : List UInt8}
    (h : decodeFrame env fuel grayscale spp extra size d input ≠ .outOfFuel)
    (hle : fuel ≤ fuel') :
    decodeFrame env fuel' grayscale spp extra size d input =
      decodeFrame env fuel grayscale spp extra size d input := by
  unfold decodeFrame at h ⊢
  refine Run.bind_congr h (processLoop_mono _ · hle) fun ⟨frameInfo, input₁⟩ _ h => ?_
  refine Run.bind_congr h (fun _ => rfl) fun first _ h => ?_
  refine Run.bind_congr h (fun _ => rfl) fun extras _ h => ?_
  exact Run.bind_congr h (processLoop_mono _ · hle) fun _ _ _ => rfl

end

/-- Each call that asks for more input while some is left consumes a byte, and every
frame header takes at least one. -/
structure Env.Progresses (env : Env) : Prop where
  initialized : Progress env.processInitialized
  withImageInfo : Progress env.processWithImageInfo
  withFrameInfo : ∀ d input bufs fallback n writes,
    env.processWithFrameInfo d input bufs = .ok (.needsMoreInput fallback, n, writes) →
      input.drop n ≠ [] → 0 < n
  frameHeader : ∀ d input r n, env.processWithImageInfo d input = .ok (.complete r, n) →
    (input.drop n).length < input.length

section

variable {env : Env} {fuel : Nat} {grayscale : Bool} {spp extra : Nat} {size : Nat × Nat}

theorem Env.Progresses.withBuffers (hp : env.Progresses) : Progress (processWithBuffers env) := by
  rintro ⟨d, bufs⟩ input fallback n h hne
  simp only [processWithBuffers] at h
  split at h
  · cases h
  · rename_i result n' writes hc
    cases result <;> cases h
    exact hp.withFrameInfo d input bufs _ n writes hc hne

theorem decodeFrame_ne_outOfFuel (hp : env.Progresses) {d : env.WithImageInfo}
    {input : List UInt8} (hf : input.length < fuel) :
    decodeFrame env fuel grayscale spp extra size d input ≠ .outOfFuel :=
  Run.bind_ne_outOfFuel (processLoop_ne_outOfFuel _ hp.withImageInfo hf) fun ⟨_, input₁⟩ h₁ =>
    have hl : input₁.length < fuel := (processLoop_rest_length _ h₁).trans_lt hf
    Run.bind_ne_outOfFuel (imageNew_ne_outOfFuel env _) fun _ _ =>
      Run.bind_ne_outOfFuel (imageNews_ne_outOfFuel env _ _) fun _ _ =>
        Run.bind_ne_outOfFuel (processLoop_ne_outOfFuel _ hp.withBuffers hl) fun _ _ =>
          Run.bind_ne_outOfFuel (frameChannels_ne_outOfFuel env _ _) fun _ _ => by simp

/-! ## The frame loop -/

theorem framesLoop_shape (hspp : spp = if grayscale then 1 else 3) :
    ∀ {k : Nat} {d : env.WithImageInfo} {input : List UInt8}
      {imageData data : ImageData env.ColorProfile env.BitDepth},
      framesLoop env fuel grayscale spp extra k d input imageData = .ok data →
      (∀ frame ∈ imageData.frames,
        frame.channels.map Image.size = List.replicate (spp + extra) imageData.size) →
      data.size = imageData.size ∧ data.frames ≠ [] ∧ ∀ frame ∈ data.frames,
        frame.channels.map Image.size = List.replicate (spp + extra) data.size
  | 0, _, _, _, _, h, _ => nomatch h
  | k + 1, d, input, imageData, data, h, hinv => by
    obtain ⟨⟨d', channels, rest⟩, hf, h⟩ := Run.bind_eq_ok.mp h
    have hinv' : ∀ frame ∈ imageData.frames ++ [⟨channels⟩],
        frame.channels.map Image.size = List.replicate (spp + extra) imageData.size := by
      simp only [List.mem_append, List.mem_singleton]
      rintro frame (hm | rfl)
      · exact hinv frame hm
      · exact decodeFrame_shape hspp hf
    simp only at h
    split at h
    · cases h
      exact ⟨rfl, by simp, hinv'⟩
    · have := framesLoop_shape hspp h hinv'
      exact this

theorem framesLoop_errs : ∀ (k : Nat) (d : env.WithImageInfo) (input : List UInt8)
    (imageData : ImageData env.ColorProfile env.BitDepth),
    (framesLoop env fuel grayscale spp extra k d input imageData).Errs (DecodeReport env)
  | 0, _, _, _ => fun _ h => nomatch h
  | k + 1, d, input, imageData => (decodeFrame_errs d input).bind fun _ _ => by
    simp only
    split
    · exact Run.errs_ok _ _
    · exact framesLoop_errs k _ _ _

theorem framesLoop_ne_outOfFuel (hp : env.Progresses) :
    ∀ {k : Nat} {d : env.WithImageInfo} {input : List UInt8}
      {imageData : ImageData env.ColorProfile env.BitDepth},
      input.length < k → input.length < fuel →
      framesLoop env fuel grayscale spp extra k d input imageData ≠ .outOfFuel
  | 0, _, _, _, hk, _ => absurd hk (Nat.not_lt_zero _)
  | k + 1, d, input, imageData, hk, hf =>
    Run.bind_ne_outOfFuel (decodeFrame_ne_outOfFuel hp hf) fun ⟨_, _, rest⟩ h => by
      have := decodeFrame_rest hp.frameHeader h
      simp only
      split
      · simp
      · exact framesLoop_ne_outOfFuel hp (by omega) (by omega)

theorem framesLoop_mono {fuel' : Nat} :
    ∀ {k k' : Nat} {d : env.WithImageInfo} {input : List UInt8}
      {imageData : ImageData env.ColorProfile env.BitDepth},
      framesLoop env fuel grayscale spp extra k d input imageData ≠ .outOfFuel →
      fuel ≤ fuel' → k ≤ k' →
      framesLoop env fuel' grayscale spp extra k' d input imageData =
        framesLoop env fuel grayscale spp extra k d input imageData
  | 0, _, _, _, _, h, _, _ => absurd rfl h
  | _ + 1, 0, _, _, _, _, _, hk => absurd hk (by omega)
  | k + 1, k' + 1, d, input, imageData, h, hf, hk => by
    simp only [framesLoop] at h ⊢
    refine Run.bind_congr h (decodeFrame_mono · hf) fun ⟨d', channels, rest⟩ _ h => ?_
    simp only at h ⊢
    split
    · rfl
    · rw [if_neg ‹_›] at h
      exact framesLoop_mono h hf (by omega)

/-! ## `decode_jxl` -/

theorem decodeJxl_ok {inputBytes : List UInt8} {options : DecoderOptions}
    {data : ImageData env.ColorProfile env.BitDepth}
    (h : decodeJxl env fuel inputBytes options = .ok data) :
    ∃ decoder rest,
      processLoop env.processInitialized fuel (env.new options) inputBytes = .ok (decoder, rest) ∧
      framesLoop env fuel (env.isGrayscale decoder)
        (if env.isGrayscale decoder then 1 else 3) (env.basicInfo decoder).extraChannels fuel
        decoder rest
        { size := (env.basicInfo decoder).size, frames := [],
          embeddedProfile := env.embeddedColorProfile decoder,
          outputProfile := env.outputColorProfile decoder,
          originalBitDepth := (env.basicInfo decoder).bitDepth } = .ok data := by
  obtain ⟨⟨decoder, rest⟩, h1, h⟩ := Run.bind_eq_ok.mp h
  exact ⟨decoder, rest, h1, h⟩

theorem decodeJxl_frames {inputBytes : List UInt8} {options : DecoderOptions}
    {data : ImageData env.ColorProfile env.BitDepth}
    (h : decodeJxl env fuel inputBytes options = .ok data) :
    ∃ decoder rest,
      processLoop env.processInitialized fuel (env.new options) inputBytes = .ok (decoder, rest) ∧
      data.size = (env.basicInfo decoder).size ∧ data.frames ≠ [] ∧
      ∀ frame ∈ data.frames, frame.channels.map Image.size =
        List.replicate ((if env.isGrayscale decoder then 1 else 3) +
          (env.basicInfo decoder).extraChannels) data.size := by
  obtain ⟨decoder, rest, h1, h⟩ := decodeJxl_ok h
  obtain ⟨hs, hne, hf⟩ := framesLoop_shape rfl h fun _ h => nomatch h
  exact ⟨decoder, rest, h1, hs, hne, hf⟩

theorem decodeJxl_errs (inputBytes : List UInt8) (options : DecoderOptions) :
    (decodeJxl env fuel inputBytes options).Errs (DecodeReport env) :=
  Run.Errs.bind (fun r h => Or.inl (processLoop_errs _ fuel _ inputBytes r h))
    fun ⟨_, _⟩ _ => framesLoop_errs _ _ _ _

theorem decodeJxl_ne_outOfFuel (hp : env.Progresses) {inputBytes : List UInt8}
    (options : DecoderOptions) (hf : inputBytes.length < fuel) :
    decodeJxl env fuel inputBytes options ≠ .outOfFuel :=
  Run.bind_ne_outOfFuel (processLoop_ne_outOfFuel _ hp.initialized hf) fun ⟨_, _⟩ h =>
    have hl := (processLoop_rest_length _ h).trans_lt hf
    framesLoop_ne_outOfFuel hp hl hl

theorem decodeJxl_mono {fuel' : Nat} {inputBytes : List UInt8} {options : DecoderOptions}
    (h : decodeJxl env fuel inputBytes options ≠ .outOfFuel) (hle : fuel ≤ fuel') :
    decodeJxl env fuel' inputBytes options = decodeJxl env fuel inputBytes options := by
  unfold decodeJxl at h ⊢
  exact Run.bind_congr h (processLoop_mono _ · hle) fun ⟨_, _⟩ _ h => framesLoop_mono h hle hle

theorem decodeJxl_terminates (hp : env.Progresses) (inputBytes : List UInt8)
    (options : DecoderOptions) :
    ∃ r, r ≠ .outOfFuel ∧
      ∀ fuel, inputBytes.length < fuel → decodeJxl env fuel inputBytes options = r :=
  have h := decodeJxl_ne_outOfFuel hp options (Nat.lt_succ_self inputBytes.length)
  ⟨_, h, fun _ hf => decodeJxl_mono h hf⟩

end

/-! ## A decoder for witnesses -/

/-- A colour 1×1 image with one extra channel and one frame; every stage asks for more
on a byte 1, and every allocation, encoding and write succeeds. -/
def tinyEnv : Env where
  Error := Unit
  Initialized := Unit
  WithImageInfo := Unit
  WithFrameInfo := Unit
  ColorProfile := Unit
  BitDepth := Unit
  Disk := List (String × List UInt8)
  new _ := ()
  processInitialized := byteProcess
  processWithImageInfo := byteProcess
  processWithFrameInfo _ input _ := match input with
    | [] => .ok (.needsMoreInput (), 0, fun _ _ _ v => v)
    | b :: _ => if b = 1 then .ok (.needsMoreInput (), 1, fun _ _ _ v => v)
      else .ok (.complete (), 1, fun i x y _ => Float.ofNat (i + x + y))
  embeddedColorProfile _ := ()
  outputColorProfile _ := ()
  basicInfo _ := ⟨(1, 1), 1, ()⟩
  isGrayscale _ := false
  hasMoreFrames _ := false
  asIcc _ := [0]
  bitsPerSample _ := 8
  imageNewError _ := none
  toExr _ _ _ := .ok [0]
  toPpmAs8bit _ _ _ := [0]
  toPgmAs8bit _ := [0]
  toNumpy _ := .ok [0]
  toPng _ _ _ := .ok [0]
  fileOpen _ _ := none
  readToEnd _ _ := .ok [1, 0, 0, 0]
  write disk path bytes := ((path, bytes) :: disk, none)

theorem tinyEnv_progresses : tinyEnv.Progresses where
  initialized := byteProcess_progress
  withImageInfo := byteProcess_progress
  withFrameInfo := by
    rintro _ (_ | ⟨b, _⟩) _ _ _ _ h hne
    · cases h
      simp at hne
    · simp only [tinyEnv] at h
      split_ifs at h <;> cases h
      exact Nat.one_pos
  frameHeader := by
    rintro _ (_ | ⟨b, _⟩) _ _ h
    · cases h
    · simp only [tinyEnv, byteProcess] at h
      split_ifs at h <;> cases h
      simp

theorem decodeJxl_frames_tiny :
    ∃ data, decodeJxl tinyEnv 5 [1, 0, 0, 0] ⟨false, true⟩ = .ok data ∧
      ∃ decoder rest, processLoop tinyEnv.processInitialized 5 (tinyEnv.new ⟨false, true⟩)
          [1, 0, 0, 0] = .ok (decoder, rest) ∧
        data.size = (tinyEnv.basicInfo decoder).size ∧ data.frames ≠ [] ∧
        ∀ frame ∈ data.frames, frame.channels.map Image.size =
          List.replicate ((if tinyEnv.isGrayscale decoder then 1 else 3) +
            (tinyEnv.basicInfo decoder).extraChannels) data.size :=
  ⟨_, rfl, decodeJxl_frames rfl⟩

theorem decodeJxl_terminates_tiny :
    tinyEnv.Progresses ∧ ∃ r, r ≠ .outOfFuel ∧
      ∀ fuel, ([1, 0, 0, 0] : List UInt8).length < fuel →
        decodeJxl tinyEnv fuel [1, 0, 0, 0] ⟨false, true⟩ = r :=
  ⟨tinyEnv_progresses, decodeJxl_terminates tinyEnv_progresses [1, 0, 0, 0] ⟨false, true⟩⟩

theorem planesFromInterleaved_lossless_ramp :
    ∃ planes, planesFromInterleaved tinyEnv ⟨3, 1, fun _ x => Float.ofNat x⟩ = .ok planes ∧
      (⟨3, 1, fun _ x => Float.ofNat x⟩ : Image Float).xsize % 3 = 0 ∧
      ∃ r g b, planes = [r, g, b] ∧
        r.size = ((⟨3, 1, fun _ x => Float.ofNat x⟩ : Image Float).xsize / 3,
          (⟨3, 1, fun _ x => Float.ofNat x⟩ : Image Float).ysize) ∧
        g.size = r.size ∧ b.size = r.size ∧
        Image.interleave r g b = ⟨3, 1, fun _ x => Float.ofNat x⟩ :=
  ⟨_, rfl, rfl, planesFromInterleaved_lossless tinyEnv rfl rfl⟩

end JxlHeaders.Cli
