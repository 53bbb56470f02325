import JxlHeaders.ValueRoundTrip

/-!
# Round trips of the nested records

For each nested record: what it can hold (`Encodable`), a writer, and both halves of the
round trip (`encodes_write`, `read_encodable`).
-/

namespace JxlHeaders

/-! ## Passes -/

structure Passes.Encodable (p : Passes) : Prop where
  numPasses : Passes.numPassesCoder.Values p.numPasses
  numDs : FieldOk (p.numPasses != 1) 0 Passes.numDsCoder.Values p.numDs
  shift : SeqOk (p.numPasses != 1) (p.numPasses - 1).toNat 0 (U32Coder.direct (.bits 2)).Values
    p.shift
  downsample : SeqOk (p.numPasses != 1) p.numDs.toNat 1 Passes.downsampleCoder.Values
    p.downsample
  lastPass : SeqOk (p.numPasses != 1) p.numDs.toNat 0 Passes.lastPassCoder.Values p.lastPass

def Passes.write (p : Passes) : List Bool :=
  Passes.numPassesCoder.write p.numPasses ++
    (writeDefaulted (p.numPasses != 1) Passes.numDsCoder.write p.numDs ++
    (writeDefaultedElement (p.numPasses != 1) (U32Coder.direct (.bits 2)).write p.shift ++
    (writeDefaultedElement (p.numPasses != 1) Passes.downsampleCoder.write p.downsample ++
    writeDefaultedElement (p.numPasses != 1) Passes.lastPassCoder.write p.lastPass)))

theorem Passes.encodes_write {p : Passes} (h : p.Encodable) : Encodes Passes.read p.write p :=
  (U32Coder.encodes_write h.numPasses).bind <|
  (Encodes.readDefaulted (fun _ => U32Coder.encodes_write) h.numDs).bind <|
  (Encodes.readDefaultedElement (fun _ => U32Coder.encodes_write) h.shift).bind <|
  (Encodes.readDefaultedElement (fun _ => U32Coder.encodes_write) h.downsample).bind <|
  (Encodes.readDefaultedElement (fun _ => U32Coder.encodes_write) h.lastPass).bind_pure _

theorem Passes.default_encodable : Passes.default.Encodable :=
  ⟨(by decide : Passes.numPassesCoder.Values 1), rfl, rfl, rfl, rfl⟩

theorem Passes.read_encodable : Passes.read.All Passes.Encodable :=
  (U32Coder.read_all _).bind fun _ h1 =>
  (readDefaulted_fieldOk (U32Coder.read_all _)).bind fun _ h2 =>
  (readDefaultedElement_seqOk (U32Coder.read_all _)).bind fun _ h3 =>
  (readDefaultedElement_seqOk (U32Coder.read_all _)).bind fun _ h4 =>
  (readDefaultedElement_seqOk (U32Coder.read_all _)).bind fun _ h5 => ⟨h1, h2, h3, h4, h5⟩

/-! ## Blending records -/

structure BlendingInfo.Encodable (ns : BlendingInfoNonserialized) (b : BlendingInfo) : Prop where
  alphaChannel : FieldOk
    (decide (ns.numExtraChannels > 0) && (b.mode == .blend || b.mode == .alphaWeightedAdd)) 0
    BlendingInfo.alphaChannelCoder.Values b.alphaChannel
  clamp : FieldOk (decide (ns.numExtraChannels > 0) &&
    (b.mode == .blend || b.mode == .alphaWeightedAdd || b.mode == .mul)) false (fun _ => True)
    b.clamp
  source : FieldOk (b.mode != .replace &&
    !fullFrame ns.haveCrop ns.x0 ns.y0 ns.width ns.height ns.imgWidth ns.imgHeight) 0
    BlendingInfo.sourceCoder.Values b.source

def BlendingInfo.write (ns : BlendingInfoNonserialized) (b : BlendingInfo) : List Bool :=
  b.mode.write ++
    (writeDefaulted
      (decide (ns.numExtraChannels > 0) && (b.mode == .blend || b.mode == .alphaWeightedAdd))
      BlendingInfo.alphaChannelCoder.write b.alphaChannel ++
    (writeDefaulted (decide (ns.numExtraChannels > 0) &&
      (b.mode == .blend || b.mode == .alphaWeightedAdd || b.mode == .mul)) (fun c => [c])
      b.clamp ++
    writeDefaulted (b.mode != .replace &&
      !fullFrame ns.haveCrop ns.x0 ns.y0 ns.width ns.height ns.imgWidth ns.imgHeight)
      BlendingInfo.sourceCoder.write b.source))

theorem BlendingInfo.encodes_write {ns : BlendingInfoNonserialized} {b : BlendingInfo}
    (h : b.Encodable ns) : Encodes (BlendingInfo.read ns) (b.write ns) b :=
  (BlendingMode.encodes_write b.mode).bind <|
  (Encodes.readDefaulted (fun _ => U32Coder.encodes_write) h.alphaChannel).bind <|
  (Encodes.readDefaulted (fun c _ => Encodes.readBool c) h.clamp).bind <|
  (Encodes.readDefaulted (fun _ => U32Coder.encodes_write) h.source).bind_pure _

theorem BlendingInfo.default_encodable (ns : BlendingInfoNonserialized) :
    BlendingInfo.default.Encodable ns :=
  ⟨by simp [FieldOk, BlendingInfo.default], by simp [FieldOk, BlendingInfo.default], rfl⟩

theorem BlendingInfo.read_encodable (ns : BlendingInfoNonserialized) :
    (BlendingInfo.read ns).All (BlendingInfo.Encodable ns) :=
  Prog.All.of_bind fun _ =>
  (readDefaulted_fieldOk (U32Coder.read_all _)).bind fun _ h1 =>
  (readDefaulted_fieldOk (Prog.all_of_forall (fun _ => trivial) _)).bind fun _ h2 =>
  (readDefaulted_fieldOk (U32Coder.read_all _)).bind fun _ h3 => ⟨h1, h2, h3⟩

/-! ## Restoration filter -/

namespace RestorationFilter

structure Encodable (ns : RestorationFilterNonserialized) (r : RestorationFilter) : Prop where
  gab : FieldOk (!r.allDefault) true (fun _ => True) r.gab
  gabCustom : FieldOk (!r.allDefault && r.gab) false (fun _ => True) r.gabCustom
  gabXWeight1 : FieldOk (!r.allDefault && r.gabCustom) gabWeight1Default F32.IsHalf r.gabXWeight1
  gabXWeight2 : FieldOk (!r.allDefault && r.gabCustom) gabWeight2Default F32.IsHalf r.gabXWeight2
  gabYWeight1 : FieldOk (!r.allDefault && r.gabCustom) gabWeight1Default F32.IsHalf r.gabYWeight1
  gabYWeight2 : FieldOk (!r.allDefault && r.gabCustom) gabWeight2Default F32.IsHalf r.gabYWeight2
  gabBWeight1 : FieldOk (!r.allDefault && r.gabCustom) gabWeight1Default F32.IsHalf r.gabBWeight1
  gabBWeight2 : FieldOk (!r.allDefault && r.gabCustom) gabWeight2Default F32.IsHalf r.gabBWeight2
  epfIters : FieldOk (!r.allDefault) 2 (U32Coder.direct (.bits 2)).Values r.epfIters
  epfSharpCustom : FieldOk (!r.allDefault && (decide (r.epfIters > 0) && ns.encoding == .varDCT))
    false (fun _ => True) r.epfSharpCustom
  epfSharpLut : FieldOk (!r.allDefault && r.epfSharpCustom) epfSharpLutDefault
    (fun v => ∀ f ∈ v.toList, f.IsHalf) r.epfSharpLut
  epfWeightCustom : FieldOk (!r.allDefault && decide (r.epfIters > 0)) false (fun _ => True)
    r.epfWeightCustom
  epfChannelScale : FieldOk (!r.allDefault && r.epfWeightCustom) epfChannelScaleDefault
    (fun v => ∀ f ∈ v.toList, f.IsHalf) r.epfChannelScale
  epfPass1Zeroflush : FieldOk (!r.allDefault && r.epfWeightCustom) ⟨0x3EE66666⟩ F32.IsHalf
    r.epfPass1Zeroflush
  epfPass2Zeroflush : FieldOk (!r.allDefault && r.epfWeightCustom) ⟨0x3F19999A⟩ F32.IsHalf
    r.epfPass2Zeroflush
  epfSigmaCustom : FieldOk (!r.allDefault && decide (r.epfIters > 0)) false (fun _ => True)
    r.epfSigmaCustom
  epfQuantMul : FieldOk (!r.allDefault && (r.epfSigmaCustom && ns.encoding == .varDCT))
    ⟨0x3EEB851F⟩ F32.IsHalf r.epfQuantMul
  epfPass0SigmaScale : FieldOk (!r.allDefault && r.epfSigmaCustom) ⟨0x3F666666⟩ F32.IsHalf
    r.epfPass0SigmaScale
  epfPass2SigmaScale : FieldOk (!r.allDefault && r.epfSigmaCustom) ⟨0x40D00000⟩ F32.IsHalf
    r.epfPass2SigmaScale
  epfBorderSadMul : FieldOk (!r.allDefault && r.epfSigmaCustom) ⟨0x3F2AAAAB⟩ F32.IsHalf
    r.epfBorderSadMul
  epfSigmaForModular : FieldOk
    (!r.allDefault && (decide (r.epfIters > 0) && ns.encoding == .modular)) ⟨0x3F800000⟩
    F32.IsHalf r.epfSigmaForModular
  extensions : FieldOk (!r.allDefault) {} (fun _ => True) r.extensions

def write (ns : RestorationFilterNonserialized) (r : RestorationFilter) : List Bool :=
  [r.allDefault] ++
  (writeDefaulted (!r.allDefault) (fun b => [b]) r.gab ++
  (writeDefaulted (!r.allDefault && r.gab) (fun b => [b]) r.gabCustom ++
  (writeDefaulted (!r.allDefault && r.gabCustom) writeF32 r.gabXWeight1 ++
  (writeDefaulted (!r.allDefault && r.gabCustom) writeF32 r.gabXWeight2 ++
  (writeDefaulted (!r.allDefault && r.gabCustom) writeF32 r.gabYWeight1 ++
  (writeDefaulted (!r.allDefault && r.gabCustom) writeF32 r.gabYWeight2 ++
  (writeDefaulted (!r.allDefault && r.gabCustom) writeF32 r.gabBWeight1 ++
  (writeDefaulted (!r.allDefault && r.gabCustom) writeF32 r.gabBWeight2 ++
  (writeDefaulted (!r.allDefault) (U32Coder.direct (.bits 2)).write r.epfIters ++
  (writeDefaulted (!r.allDefault && (decide (r.epfIters > 0) && ns.encoding == .varDCT))
    (fun b => [b]) r.epfSharpCustom ++
  (writeDefaulted (!r.allDefault && r.epfSharpCustom) (fun v => v.toList.flatMap writeF32)
    r.epfSharpLut ++
  (writeDefaulted (!r.allDefault && decide (r.epfIters > 0)) (fun b => [b]) r.epfWeightCustom ++
  (writeDefaulted (!r.allDefault && r.epfWeightCustom) (fun v => v.toList.flatMap writeF32)
    r.epfChannelScale ++
  (writeDefaulted (!r.allDefault && r.epfWeightCustom) writeF32 r.epfPass1Zeroflush ++
  (writeDefaulted (!r.allDefault && r.epfWeightCustom) writeF32 r.epfPass2Zeroflush ++
  (writeDefaulted (!r.allDefault && decide (r.epfIters > 0)) (fun b => [b]) r.epfSigmaCustom ++
  (writeDefaulted (!r.allDefault && (r.epfSigmaCustom && ns.encoding == .varDCT)) writeF32
    r.epfQuantMul ++
  (writeDefaulted (!r.allDefault && r.epfSigmaCustom) writeF32 r.epfPass0SigmaScale ++
  (writeDefaulted (!r.allDefault && r.epfSigmaCustom) writeF32 r.epfPass2SigmaScale ++
  (writeDefaulted (!r.allDefault && r.epfSigmaCustom) writeF32 r.epfBorderSadMul ++
  (writeDefaulted (!r.allDefault && (decide (r.epfIters > 0) && ns.encoding == .modular))
    writeF32 r.epfSigmaForModular ++
  writeDefaulted (!r.allDefault) Extensions.write r.extensions)))))))))))))))))))))

theorem encodes_write {ns : RestorationFilterNonserialized} {r : RestorationFilter}
    (h : r.Encodable ns) : Encodes (read ns) (r.write ns) r :=
  have hb : ∀ b : Bool, True → Encodes readBool [b] b := fun b _ => Encodes.readBool b
  have hf : ∀ f : F32, f.IsHalf → Encodes readF32 (writeF32 f) f := fun _ => Encodes.readF32
  have hv : ∀ {n} (v : Mathlib.Vector F32 n), (∀ f ∈ v.toList, f.IsHalf) →
      Encodes (readArray readF32 n) (v.toList.flatMap writeF32) v :=
    fun _ hv => Encodes.readArray fun f hf => Encodes.readF32 (hv f hf)
  (Encodes.readBool r.allDefault).bind <|
  (Encodes.readDefaulted hb h.gab).bind <|
  (Encodes.readDefaulted hb h.gabCustom).bind <|
  (Encodes.readDefaulted hf h.gabXWeight1).bind <|
  (Encodes.readDefaulted hf h.gabXWeight2).bind <|
  (Encodes.readDefaulted hf h.gabYWeight1).bind <|
  (Encodes.readDefaulted hf h.gabYWeight2).bind <|
  (Encodes.readDefaulted hf h.gabBWeight1).bind <|
  (Encodes.readDefaulted hf h.gabBWeight2).bind <|
  (Encodes.readDefaulted (fun _ => U32Coder.encodes_write) h.epfIters).bind <|
  (Encodes.readDefaulted hb h.epfSharpCustom).bind <|
  (Encodes.readDefaulted hv h.epfSharpLut).bind <|
  (Encodes.readDefaulted hb h.epfWeightCustom).bind <|
  (Encodes.readDefaulted hv h.epfChannelScale).bind <|
  (Encodes.readDefaulted hf h.epfPass1Zeroflush).bind <|
  (Encodes.readDefaulted hf h.epfPass2Zeroflush).bind <|
  (Encodes.readDefaulted hb h.epfSigmaCustom).bind <|
  (Encodes.readDefaulted hf h.epfQuantMul).bind <|
  (Encodes.readDefaulted hf h.epfPass0SigmaScale).bind <|
  (Encodes.readDefaulted hf h.epfPass2SigmaScale).bind <|
  (Encodes.readDefaulted hf h.epfBorderSadMul).bind <|
  (Encodes.readDefaulted hf h.epfSigmaForModular).bind <|
  (Encodes.readDefaulted (fun e _ => Extensions.encodes_write e) h.extensions).bind_pure _

theorem default_encodable (ns : RestorationFilterNonserialized) : default.Encodable ns :=
  ⟨rfl, rfl, rfl, rfl, rfl, rfl, rfl, rfl, rfl, rfl, rfl, rfl, rfl, rfl, rfl, rfl, rfl, rfl, rfl,
    rfl, rfl, rfl⟩

theorem read_encodable (ns : RestorationFilterNonserialized) : (read ns).All (Encodable ns) :=
  have hb : readBool.All fun _ => True := Prog.all_of_forall (fun _ => trivial) _
  have hv : ∀ n, (readArray readF32 n).All fun v => ∀ f ∈ v.toList, f.IsHalf :=
    readArray_all readF32_all
  Prog.All.of_bind fun _ =>
  (readDefaulted_fieldOk hb).bind fun _ h1 =>
  (readDefaulted_fieldOk hb).bind fun _ h2 =>
  (readDefaulted_fieldOk readF32_all).bind fun _ h3 =>
  (readDefaulted_fieldOk readF32_all).bind fun _ h4 =>
  (readDefaulted_fieldOk readF32_all).bind fun _ h5 =>
  (readDefaulted_fieldOk readF32_all).bind fun _ h6 =>
  (readDefaulted_fieldOk readF32_all).bind fun _ h7 =>
  (readDefaulted_fieldOk readF32_all).bind fun _ h8 =>
  (readDefaulted_fieldOk (U32Coder.read_all _)).bind fun _ h9 =>
  (readDefaulted_fieldOk hb).bind fun _ h10 =>
  (readDefaulted_fieldOk (hv 8)).bind fun _ h11 =>
  (readDefaulted_fieldOk hb).bind fun _ h12 =>
  (readDefaulted_fieldOk (hv 3)).bind fun _ h13 =>
  (readDefaulted_fieldOk readF32_all).bind fun _ h14 =>
  (readDefaulted_fieldOk readF32_all).bind fun _ h15 =>
  (readDefaulted_fieldOk hb).bind fun _ h16 =>
  (readDefaulted_fieldOk readF32_all).bind fun _ h17 =>
  (readDefaulted_fieldOk readF32_all).bind fun _ h18 =>
  (readDefaulted_fieldOk readF32_all).bind fun _ h19 =>
  (readDefaulted_fieldOk readF32_all).bind fun _ h20 =>
  (readDefaulted_fieldOk readF32_all).bind fun _ h21 =>
  (readDefaulted_fieldOk (Prog.all_of_forall (fun _ => trivial) _)).bind fun _ h22 =>
    ⟨h1, h2, h3, h4, h5, h6, h7, h8, h9, h10, h11, h12, h13, h14, h15, h16, h17, h18, h19, h20,
      h21, h22⟩

end RestorationFilter

/-! ## Table of contents -/

structure Toc.Encodable (ns : TocNonserialized) (t : Toc) : Prop where
  entries_length : t.entries.length = ns.numEntries.toNat
  entries : ∀ e ∈ t.entries, tocEntryCoder.Values e

def Toc.write (t : Toc) : List Bool := t.permuted :: t.entries.flatMap tocEntryCoder.write

theorem Toc.encodes_write {ns : TocNonserialized} {t : Toc} (h : t.Encodable ns) :
    Encodes (Toc.read ns) t.write t := by
  have hperm : Encodes (readDefaulted t.permuted {} Permutation.read) [] t.permutation := by
    cases t.permuted <;> exact Encodes.pure _
  unfold Toc.read
  rw [← h.entries_length]
  exact (Encodes.readBool t.permuted).bind <| hperm.bind <|
    (Encodes.readVector fun e he => U32Coder.encodes_write (h.entries e he)).bind_pure _

theorem Toc.read_encodable (ns : TocNonserialized) : (Toc.read ns).All (Toc.Encodable ns) :=
  Prog.All.of_bind fun _ => Prog.All.of_bind fun _ =>
  (readVector_all (U32Coder.read_all _) _).bind fun _ h => ⟨h.1, h.2⟩

theorem Toc.read_entries (ns : TocNonserialized) :
    (Toc.read ns).All fun t =>
      t.entries.length = ns.numEntries.toNat ∧ ∀ e ∈ t.entries, e.toNat < 2 ^ 30 + 4211712 :=
  (Toc.read_encodable ns).imp fun _ h =>
    ⟨h.entries_length, fun e he => tocEntryCoder_values (h.entries e he)⟩

theorem Toc.decodable_iff (ns : TocNonserialized) (t : Toc) :
    (∃ br br', (Toc.read ns).run br = .ok (t, br')) ↔ t.Encodable ns :=
  ⟨fun ⟨_, _, hr⟩ => (Toc.read_encodable ns).run hr, fun h => ⟨_, _, Toc.encodes_write h [] 0⟩⟩

end JxlHeaders
