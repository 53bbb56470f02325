import JxlHeaders.RecordRoundTrip
import JxlHeaders.DecodeSound

/-!
# Round trip of the frame header

An encodable header that `check` accepts is decoded back from the writer's bits
(`FrameHeader.read_write`), and these are exactly the headers `FrameHeader.read` can
return (`FrameHeader.read_ok_iff`).
-/

namespace JxlHeaders

namespace FrameHeader

def blendingNs (ns : FrameHeaderNonserialized) (h : FrameHeader) : BlendingInfoNonserialized :=
  ⟨ns.numExtraChannels, h.haveCrop, h.x0, h.y0, h.width, h.height, ns.imgWidth, ns.imgHeight⟩

structure Encodable (ns : FrameHeaderNonserialized) (h : FrameHeader) : Prop where
  frameType : FieldOk (!h.allDefault) .regularFrame (fun _ => True) h.frameType
  encoding : FieldOk (!h.allDefault) .varDCT (fun _ => True) h.encoding
  flags : FieldOk (!h.allDefault) 0 (fun _ => True) h.flags
  doYCbCr : FieldOk (!h.allDefault && !ns.xybEncoded) false (fun _ => True) h.doYCbCr
  jpegUpsampling : FieldOk (!h.allDefault && (h.doYCbCr && h.flags &&& Flags.useLfFrame == 0))
    ⟨[0, 0, 0], rfl⟩ (fun v => ∀ c ∈ v.toList, (U32Coder.direct (.bits 2)).Values c)
    h.jpegUpsampling
  upsampling : FieldOk (!h.allDefault && h.flags &&& Flags.useLfFrame == 0) 1
    upsamplingCoder.Values h.upsampling
  ecUpsampling : SeqOk (!h.allDefault && h.flags &&& Flags.useLfFrame == 0)
    ns.numExtraChannels.toNat 1 upsamplingCoder.Values h.ecUpsampling
  groupSizeShift : FieldOk (!h.allDefault && h.encoding == .modular) 1
    (U32Coder.direct (.bits 2)).Values h.groupSizeShift
  xQmScale : FieldOk (!h.allDefault && (h.encoding == .varDCT && ns.xybEncoded)) 3
    (U32Coder.direct (.bits 3)).Values h.xQmScale
  bQmScale : FieldOk (!h.allDefault && (h.encoding == .varDCT && ns.xybEncoded)) 2
    (U32Coder.direct (.bits 3)).Values h.bQmScale
  passes : FieldOk (!h.allDefault && h.frameType != .referenceOnly) Passes.default
    Passes.Encodable h.passes
  lfLevel : FieldOk (!h.allDefault && h.frameType == .lfFrame) 0 lfLevelCoder.Values h.lfLevel
  haveCrop : FieldOk (!h.allDefault && h.frameType != .lfFrame) false (fun _ => True) h.haveCrop
  x0 : FieldOk (!h.allDefault && (h.haveCrop && h.frameType != .referenceOnly)) 0
    (I32Ok cropCoder) h.x0
  y0 : FieldOk (!h.allDefault && (h.haveCrop && h.frameType != .referenceOnly)) 0
    (I32Ok cropCoder) h.y0
  width : FieldOk (!h.allDefault && h.haveCrop) 0 cropCoder.Values h.width
  height : FieldOk (!h.allDefault && h.haveCrop) 0 cropCoder.Values h.height
  blendingInfo : FieldOk
    (!h.allDefault && (h.frameType == .regularFrame || h.frameType == .skipProgressive))
    BlendingInfo.default (BlendingInfo.Encodable (blendingNs ns h)) h.blendingInfo
  ecBlendingInfo : SeqOk (!h.allDefault) ns.numExtraChannels.toNat BlendingInfo.default
    (BlendingInfo.Encodable (blendingNs ns h)) h.ecBlendingInfo
  duration : FieldOk (!h.allDefault &&
    ((h.frameType == .regularFrame || h.frameType == .skipProgressive) && ns.haveAnimation)) 0
    durationCoder.Values h.duration
  timecode : FieldOk (!h.allDefault &&
    ((h.frameType == .regularFrame || h.frameType == .skipProgressive) && ns.haveTimecode)) 0
    (U32Coder.direct (.bits 32)).Values h.timecode
  isLast : FieldOk
    (!h.allDefault && (h.frameType == .regularFrame || h.frameType == .skipProgressive))
    (h.frameType == .regularFrame) (fun _ => True) h.isLast
  saveAsReference : FieldOk (!h.allDefault && (h.frameType != .lfFrame && !h.isLast)) 0
    (U32Coder.direct (.bits 2)).Values h.saveAsReference
  saveBeforeCt : FieldOk (!h.allDefault && h.frameType != .lfFrame)
    (!fullFrame h.haveCrop h.x0 h.y0 h.width h.height ns.imgWidth ns.imgHeight &&
      (h.frameType == .regularFrame || h.frameType == .skipProgressive) &&
      h.blendingInfo.mode == .replace && (h.duration == 0 || h.saveAsReference != 0) &&
      !h.isLast)
    (fun _ => True) h.saveBeforeCt
  name : FieldOk (!h.allDefault) "" NameOk h.name
  restorationFilter : FieldOk (!h.allDefault) RestorationFilter.default
    (RestorationFilter.Encodable ⟨h.encoding⟩) h.restorationFilter
  extensions : FieldOk (!h.allDefault) {} (fun _ => True) h.extensions

def write (ns : FrameHeaderNonserialized) (h : FrameHeader) : List Bool :=
  [h.allDefault] ++
  (writeDefaulted (!h.allDefault) FrameType.write h.frameType ++
  (writeDefaulted (!h.allDefault) Encoding.write h.encoding ++
  (writeDefaulted (!h.allDefault) writeU64 h.flags ++
  (writeDefaulted (!h.allDefault && !ns.xybEncoded) (fun b => [b]) h.doYCbCr ++
  (writeDefaulted (!h.allDefault && (h.doYCbCr && h.flags &&& Flags.useLfFrame == 0))
    (fun v => v.toList.flatMap (U32Coder.direct (.bits 2)).write) h.jpegUpsampling ++
  (writeDefaulted (!h.allDefault && h.flags &&& Flags.useLfFrame == 0) upsamplingCoder.write
    h.upsampling ++
  (writeDefaultedElement (!h.allDefault && h.flags &&& Flags.useLfFrame == 0)
    upsamplingCoder.write h.ecUpsampling ++
  (writeDefaulted (!h.allDefault && h.encoding == .modular) (U32Coder.direct (.bits 2)).write
    h.groupSizeShift ++
  (writeDefaulted (!h.allDefault && (h.encoding == .varDCT && ns.xybEncoded))
    (U32Coder.direct (.bits 3)).write h.xQmScale ++
  (writeDefaulted (!h.allDefault && (h.encoding == .varDCT && ns.xybEncoded))
    (U32Coder.direct (.bits 3)).write h.bQmScale ++
  (writeDefaulted (!h.allDefault && h.frameType != .referenceOnly) Passes.write h.passes ++
  (writeDefaulted (!h.allDefault && h.frameType == .lfFrame) lfLevelCoder.write h.lfLevel ++
  (writeDefaulted (!h.allDefault && h.frameType != .lfFrame) (fun b => [b]) h.haveCrop ++
  (writeDefaulted (!h.allDefault && (h.haveCrop && h.frameType != .referenceOnly))
    (writeI32 cropCoder) h.x0 ++
  (writeDefaulted (!h.allDefault && (h.haveCrop && h.frameType != .referenceOnly))
    (writeI32 cropCoder) h.y0 ++
  (writeDefaulted (!h.allDefault && h.haveCrop) cropCoder.write h.width ++
  (writeDefaulted (!h.allDefault && h.haveCrop) cropCoder.write h.height ++
  (writeDefaulted
    (!h.allDefault && (h.frameType == .regularFrame || h.frameType == .skipProgressive))
    (BlendingInfo.write (blendingNs ns h)) h.blendingInfo ++
  (writeDefaultedElement (!h.allDefault) (BlendingInfo.write (blendingNs ns h))
    h.ecBlendingInfo ++
  (writeDefaulted (!h.allDefault &&
    ((h.frameType == .regularFrame || h.frameType == .skipProgressive) && ns.haveAnimation))
    durationCoder.write h.duration ++
  (writeDefaulted (!h.allDefault &&
    ((h.frameType == .regularFrame || h.frameType == .skipProgressive) && ns.haveTimecode))
    (U32Coder.direct (.bits 32)).write h.timecode ++
  (writeDefaulted
    (!h.allDefault && (h.frameType == .regularFrame || h.frameType == .skipProgressive))
    (fun b => [b]) h.isLast ++
  (writeDefaulted (!h.allDefault && (h.frameType != .lfFrame && !h.isLast))
    (U32Coder.direct (.bits 2)).write h.saveAsReference ++
  (writeDefaulted (!h.allDefault && h.frameType != .lfFrame) (fun b => [b]) h.saveBeforeCt ++
  (writeDefaulted (!h.allDefault) writeString h.name ++
  (writeDefaulted (!h.allDefault) (RestorationFilter.write ⟨h.encoding⟩) h.restorationFilter ++
  writeDefaulted (!h.allDefault) Extensions.write h.extensions))))))))))))))))))))))))))

theorem readFields_encodes {ns : FrameHeaderNonserialized} {h : FrameHeader}
    (he : h.Encodable ns) : Encodes (readFields ns) (h.write ns) h :=
  have hb : ∀ b : Bool, True → Encodes readBool [b] b := fun b _ => Encodes.readBool b
  have hc : ∀ {c : U32Coder} (v : UInt32), c.Values v → Encodes c.read (c.write v) v :=
    fun _ => U32Coder.encodes_write
  (Encodes.readBool h.allDefault).bind <|
  (Encodes.readDefaulted (fun t _ => FrameType.encodes_write t) he.frameType).bind <|
  (Encodes.readDefaulted (fun e _ => Encoding.encodes_write e) he.encoding).bind <|
  (Encodes.readDefaulted (fun v _ => Encodes.readU64 v) he.flags).bind <|
  (Encodes.readDefaulted hb he.doYCbCr).bind <|
  (Encodes.readDefaulted (fun _ hv => Encodes.readArray fun c hc' => U32Coder.encodes_write
    (hv c hc')) he.jpegUpsampling).bind <|
  (Encodes.readDefaulted hc he.upsampling).bind <|
  (Encodes.readDefaultedElement hc he.ecUpsampling).bind <|
  (Encodes.readDefaulted hc he.groupSizeShift).bind <|
  (Encodes.readDefaulted hc he.xQmScale).bind <|
  (Encodes.readDefaulted hc he.bQmScale).bind <|
  (Encodes.readDefaulted (fun _ => Passes.encodes_write) he.passes).bind <|
  (Encodes.readDefaulted hc he.lfLevel).bind <|
  (Encodes.readDefaulted hb he.haveCrop).bind <|
  (Encodes.readDefaulted (fun _ => Encodes.readI32) he.x0).bind <|
  (Encodes.readDefaulted (fun _ => Encodes.readI32) he.y0).bind <|
  (Encodes.readDefaulted hc he.width).bind <|
  (Encodes.readDefaulted hc he.height).bind <|
  (Encodes.readDefaulted (fun _ => BlendingInfo.encodes_write) he.blendingInfo).bind <|
  (Encodes.readDefaultedElement (fun _ => BlendingInfo.encodes_write) he.ecBlendingInfo).bind <|
  (Encodes.readDefaulted hc he.duration).bind <|
  (Encodes.readDefaulted hc he.timecode).bind <|
  (Encodes.readDefaulted hb he.isLast).bind <|
  (Encodes.readDefaulted hc he.saveAsReference).bind <|
  (Encodes.readDefaulted hb he.saveBeforeCt).bind <|
  (Encodes.readDefaulted (fun _ => Encodes.readString) he.name).bind <|
  (Encodes.readDefaulted (fun _ => RestorationFilter.encodes_write) he.restorationFilter).bind <|
  (Encodes.readDefaulted (fun e _ => Extensions.encodes_write e) he.extensions).bind_pure _

theorem readFields_encodable (ns : FrameHeaderNonserialized) :
    (readFields ns).All (Encodable ns) :=
  have hb : readBool.All fun _ => True := Prog.all_of_forall (fun _ => trivial) _
  have ht {α : Type} (p : Prog α) : p.All fun _ => True := Prog.all_of_forall (fun _ => trivial) p
  Prog.All.of_bind fun _ =>
  (readDefaulted_fieldOk (ht _)).bind fun _ h1 =>
  (readDefaulted_fieldOk (ht _)).bind fun _ h2 =>
  (readDefaulted_fieldOk (ht _)).bind fun _ h3 =>
  (readDefaulted_fieldOk hb).bind fun _ h4 =>
  (readDefaulted_fieldOk (readArray_all (U32Coder.read_all _) 3)).bind fun _ h5 =>
  (readDefaulted_fieldOk (U32Coder.read_all _)).bind fun _ h6 =>
  (readDefaultedElement_seqOk (U32Coder.read_all _)).bind fun _ h7 =>
  (readDefaulted_fieldOk (U32Coder.read_all _)).bind fun _ h8 =>
  (readDefaulted_fieldOk (U32Coder.read_all _)).bind fun _ h9 =>
  (readDefaulted_fieldOk (U32Coder.read_all _)).bind fun _ h10 =>
  (readDefaulted_fieldOk Passes.read_encodable).bind fun _ h11 =>
  (readDefaulted_fieldOk (U32Coder.read_all _)).bind fun _ h12 =>
  (readDefaulted_fieldOk hb).bind fun _ h13 =>
  (readDefaulted_fieldOk (readI32_all _)).bind fun _ h14 =>
  (readDefaulted_fieldOk (readI32_all _)).bind fun _ h15 =>
  (readDefaulted_fieldOk (U32Coder.read_all _)).bind fun _ h16 =>
  (readDefaulted_fieldOk (U32Coder.read_all _)).bind fun _ h17 =>
  (readDefaulted_fieldOk (BlendingInfo.read_encodable _)).bind fun _ h18 =>
  (readDefaultedElement_seqOk (BlendingInfo.read_encodable _)).bind fun _ h19 =>
  (readDefaulted_fieldOk (U32Coder.read_all _)).bind fun _ h20 =>
  (readDefaulted_fieldOk (U32Coder.read_all _)).bind fun _ h21 =>
  (readDefaulted_fieldOk hb).bind fun _ h22 =>
  (readDefaulted_fieldOk (U32Coder.read_all _)).bind fun _ h23 =>
  (readDefaulted_fieldOk hb).bind fun _ h24 =>
  (readDefaulted_fieldOk readString_all).bind fun _ h25 =>
  (readDefaulted_fieldOk (RestorationFilter.read_encodable _)).bind fun _ h26 =>
  (readDefaulted_fieldOk (ht _)).bind fun _ h27 =>
    ⟨h1, h2, h3, h4, h5, h6, h7, h8, h9, h10, h11, h12, h13, h14, h15, h16, h17, h18, h19, h20,
      h21, h22, h23, h24, h25, h26, h27⟩

theorem readChecked_encodes {ns : FrameHeaderNonserialized} {h : FrameHeader}
    (he : h.Encodable ns) (hc : h.check ns = .ok ()) :
    Encodes (do let h' ← readFields ns; liftExcept (h'.check ns); pure h') (h.write ns) h := by
  rw [← List.append_nil (h.write ns)]
  refine (readFields_encodes he).bind ?_
  show Encodes ((liftExcept (h.check ns)).bind fun _ => .pure h) [] h
  rw [hc]
  exact Encodes.pure h

/-- After the alignment pad, an encodable header that `check` accepts is read back
from its bits, whatever follows them, consuming exactly those bits. -/
theorem read_write {ns : FrameHeaderNonserialized} {h : FrameHeader} (he : h.Encodable ns)
    (hc : h.check ns = .ok ()) (pad rest : List Bool) (pos : Nat)
    (hpad : pad.length = (8 - pos % 8) % 8) :
    (read ns).run ⟨pad ++ (h.write ns ++ rest), pos⟩ =
      .ok (h, ⟨rest, pos + pad.length + (h.write ns).length⟩) := by
  rw [read, Prog.bind_eq, Prog.run_bind_ok (jumpToByteBoundary_run pad _ pos hpad)]
  exact readChecked_encodes he hc rest _

theorem read_write_regular :
    Encodable ⟨true, 0, [], false, false, 1, 1⟩
      { defaults ⟨true, 0, [], false, false, 1, 1⟩ with allDefault := false } ∧
    check { defaults ⟨true, 0, [], false, false, 1, 1⟩ with allDefault := false }
      ⟨true, 0, [], false, false, 1, 1⟩ = .ok () ∧
    ([] : List Bool).length = (8 - 0 % 8) % 8 ∧
    (read ⟨true, 0, [], false, false, 1, 1⟩).run ⟨[] ++ (write ⟨true, 0, [], false, false, 1, 1⟩
        { defaults ⟨true, 0, [], false, false, 1, 1⟩ with allDefault := false } ++ []), 0⟩ =
      .ok ({ defaults ⟨true, 0, [], false, false, 1, 1⟩ with allDefault := false },
        ⟨[], 0 + ([] : List Bool).length + (write ⟨true, 0, [], false, false, 1, 1⟩
          { defaults ⟨true, 0, [], false, false, 1, 1⟩ with allDefault := false }).length⟩) :=
  have he : Encodable ⟨true, 0, [], false, false, 1, 1⟩
      { defaults ⟨true, 0, [], false, false, 1, 1⟩ with allDefault := false } :=
    ⟨trivial, trivial, trivial, rfl, rfl, (by decide : upsamplingCoder.Values 1),
      ⟨rfl, fun _ h => nomatch h⟩, rfl, (by decide : (U32Coder.direct (.bits 3)).Values 3),
      (by decide : (U32Coder.direct (.bits 3)).Values 2), Passes.default_encodable, rfl,
      trivial, rfl, rfl, rfl, rfl, BlendingInfo.default_encodable _, ⟨rfl, fun _ h => nomatch h⟩,
      rfl, rfl, trivial, rfl, trivial,
      ⟨by decide, (by decide : stringLengthCoder.Values 0), fun _ h => nomatch h⟩,
      RestorationFilter.default_encodable _, trivial⟩
  ⟨he, rfl, rfl, read_write he rfl [] [] 0 rfl⟩

theorem read_ok_iff (ns : FrameHeaderNonserialized) (h : FrameHeader) :
    (∃ br br', (read ns).run br = .ok (h, br')) ↔ h.Encodable ns ∧ h.check ns = .ok () := by
  constructor
  · rintro ⟨br, br', hr⟩
    exact ⟨(read_all_of_readFields (readFields_encodable ns)).run hr,
      ((read_all_valid ns).run hr).check_ok⟩
  · rintro ⟨he, hc⟩
    refine ⟨⟨[] ++ (h.write ns ++ []), 0⟩, ⟨[], 0 + 0 + (h.write ns).length⟩, ?_⟩
    rw [read, Prog.bind_eq, Prog.run_bind_ok (jumpToByteBoundary_run [] _ 0 rfl)]
    exact readChecked_encodes he hc [] _

end FrameHeader

end JxlHeaders
