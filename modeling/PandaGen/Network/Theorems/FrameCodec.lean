import PandaGen.Network.Frame

/-!
# The frame codec
-/

namespace PandaGen.Network

open Lib List AdvancedProtocol

namespace ProtocolFrame

variable {bytes reserved : List UInt8} {frame : ProtocolFrame}

/-- The bytes of a frame, with the given reserved ones. `encode` writes zeros there. -/
def layout (frame : ProtocolFrame) (reserved : List UInt8) : List UInt8 :=
  magic ++ [version] ++ [frame.header.protocol.tag] ++ reserved ++ leBytes 8 frame.header.sessionId.toNat ++
    leBytes 8 frame.header.sequence.toNat ++ leBytes 4 frame.payload.length ++ frame.payload

def reservedOf (bytes : List UInt8) : List UInt8 := (bytes.drop 6).take 2

/-! ## Fields -/

theorem ofTag_tag (p) : ofTag p.tag = .ok p := by cases p <;> rfl

theorem tag_of_ofTag {tag p} (h : ofTag tag = .ok p) : p.tag = tag := by
  unfold ofTag at h
  split_ifs at h with h0 h1 h2 <;> cases h
  exacts [h0.symm, h1.symm, h2.symm]

theorem leBytes_number {i k} (h : i + k ≤ bytes.length) : leBytes k (number bytes i k) = (bytes.drop i).take k := by
  have hlength : ((bytes.drop i).take k).length = k := by simp; omega
  have hspelt := leBytes_ofDigits ((bytes.drop i).take k)
  rwa [hlength] at hspelt

theorem number_lt {i k} (h : i + k ≤ bytes.length) : number bytes i k < 256 ^ k :=
  ofDigits_lt (by simp; omega)

theorem byte_eq {i} (h : i < bytes.length) : [bytes.getD i 0] = (bytes.drop i).take 1 := by
  rw [drop_eq_getElem_cons h, getD_eq_getElem?_getD, getElem?_eq_getElem h]
  rfl

/-! ## Decoding -/

theorem decode_layout (h : frame.payload.length < 2 ^ 32) (hreserved : reserved.length = 2) :
    decode (frame.layout reserved) = .ok frame := by
  obtain ⟨r0, r1, rfl⟩ := length_eq_two.mp hreserved
  have hlength : (frame.layout [r0, r1]).length = headerLen + frame.payload.length := by
    simp [layout, magic, headerLen]
    omega
  have hsession : number (frame.layout [r0, r1]) 8 8 = frame.header.sessionId.toNat := by
    simp [number, layout, magic, ofDigits_leBytes, Nat.mod_eq_of_lt (UInt64.toNat_lt _)]
  have hsequence : number (frame.layout [r0, r1]) 16 8 = frame.header.sequence.toNat := by
    simp [number, layout, magic, ofDigits_leBytes, Nat.mod_eq_of_lt (UInt64.toNat_lt _)]
  have hpayload : number (frame.layout [r0, r1]) 24 4 = frame.payload.length := by
    simpa [number, layout, magic, drop_append, drop_eq_nil_of_le, ofDigits_leBytes] using h
  have hrest : (frame.layout [r0, r1]).drop 28 = frame.payload := by
    simp [layout, magic, drop_append, drop_eq_nil_of_le]
  rw [decode, hsession, hsequence, hpayload, hrest, hlength]
  simp [layout, magic, version, ofTag_tag]

theorem decode_ok (h : decode bytes = .ok frame) :
    headerLen ≤ bytes.length ∧ bytes.length = headerLen + number bytes 24 4 ∧ frame.payload.length < 2 ^ 32 ∧
      bytes = frame.layout (reservedOf bytes) := by
  rw [decode] at h
  split at h
  · cases h
  rename_i hshort
  dsimp only at h
  split at h
  · cases h
  rename_i hmagic
  split at h
  · cases h
  rename_i hversion
  cases htag : ofTag (bytes.getD 5 0) with
  | error e => rw [htag] at h; cases h
  | ok protocol =>
    rw [htag] at h
    split at h
    · cases h
    rename_i hend
    cases h
    rw [not_not] at hmagic hversion hend
    rw [Nat.not_lt, headerLen] at hshort
    have hpayload : (bytes.drop 28).length = number bytes 24 4 := by rw [length_drop, hend, headerLen]; omega
    refine ⟨hshort, hend, ?_, ?_⟩
    · rw [hpayload]
      exact number_lt (by omega)
    -- the fields are the consecutive parts of the bytes
    have hjoin (i k : Nat) : bytes.take i ++ (bytes.drop i).take k = bytes.take (i + k) := take_add.symm
    have hword (i : Nat) (hi : i + 8 ≤ bytes.length) :
        leBytes 8 (UInt64.ofNat (number bytes i 8)).toNat = (bytes.drop i).take 8 := by
      rw [UInt64.toNat_ofNat_of_lt' (number_lt hi), leBytes_number hi]
    rw [layout, tag_of_ofTag htag, hword 8 (by omega), hword 16 (by omega), hpayload, leBytes_number (by omega),
      ← hmagic, ← hversion, byte_eq (by omega), byte_eq (by omega), reservedOf]
    rw [hjoin 4 1, hjoin 5 1, hjoin 6 2, hjoin 8 8, hjoin 16 8, hjoin 24 4, take_append_drop]

theorem encode_eq (frame : ProtocolFrame) : frame.encode = frame.layout [0, 0] := rfl

theorem decode_prefix_free {bytes' frame'} (h : decode bytes = .ok frame) (h' : decode bytes' = .ok frame')
    (hstart : bytes <+: bytes') : bytes = bytes' := by
  obtain ⟨hheader, hlength, -⟩ := decode_ok h
  obtain ⟨-, hlength', -⟩ := decode_ok h'
  obtain ⟨rest, rfl⟩ := hstart
  rw [headerLen] at hheader
  have hsame : number (bytes ++ rest) 24 4 = number bytes 24 4 := by
    rw [number, drop_append_of_le_length (by omega), take_append_of_le_length (by simp; omega), number]
  rw [hsame, ← hlength] at hlength'
  exact (prefix_append bytes rest).eq_of_length hlength'.symm

end ProtocolFrame

/-! ## Registries -/

namespace ProtocolRegistry

open ProtocolFrame

variable (registry : ProtocolRegistry) {bytes : List UInt8}

theorem decodeFrame_error (h : ∀ frame, decode bytes ≠ .ok frame) : ∃ e, registry.decodeFrame bytes = .error e := by
  cases hdecode : decode bytes with
  | ok frame => exact absurd hdecode (h frame)
  | error e =>
    rw [decodeFrame, hdecode]
    exact ⟨e, rfl⟩

theorem encodeFrame_ok {registry : ProtocolRegistry} {frame} (h : registry.encodeFrame frame = .ok bytes) :
    registry.validate frame = .ok () ∧ bytes = frame.encode := by
  rw [encodeFrame] at h
  cases hvalid : registry.validate frame with
  | ok => rw [hvalid] at h; cases h; exact ⟨rfl, rfl⟩
  | error e => rw [hvalid] at h; cases h

/-- An encoded frame is decoded to itself. No part of it that is cut off at the end is a frame, and nothing that has
more bytes after it. -/
theorem frame_round_trip (frame : ProtocolFrame) (hpayload : frame.payload.length < 2 ^ 32)
    (h : registry.encodeFrame frame = .ok bytes) : registry.decodeFrame bytes = .ok frame ∧
      (∀ part, part <+: bytes → part ≠ bytes → ∃ e, registry.decodeFrame part = .error e) ∧
      ∀ rest, rest ≠ [] → ∃ e, registry.decodeFrame (bytes ++ rest) = .error e := by
  obtain ⟨hvalid, rfl⟩ := encodeFrame_ok h
  have hdecode : decode frame.encode = .ok frame := by
    rw [encode_eq]
    exact decode_layout hpayload rfl
  refine ⟨?_, fun part hpart hne => ?_, fun rest hrest => ?_⟩
  · rw [decodeFrame, hdecode]
    dsimp only [bind, Except.bind]
    rw [hvalid]
    rfl
  · exact decodeFrame_error _ fun frame' h' => hne (decode_prefix_free h' hdecode hpart)
  · refine decodeFrame_error _ fun frame' h' => hrest ?_
    exact self_eq_append_right.mp (decode_prefix_free hdecode h' (prefix_append ..))

theorem frame_round_trip_stream : withDefaults.encodeFrame ⟨⟨.streamMux, 1, 2⟩, [7]⟩ =
      .ok [0x50, 0x47, 0x4e, 0x50, 1, 1, 0, 0, 1, 0, 0, 0, 0, 0, 0, 0, 2, 0, 0, 0, 0, 0, 0, 0, 1, 0, 0, 0, 7] ∧
    withDefaults.decodeFrame
      [0x50, 0x47, 0x4e, 0x50, 1, 1, 0, 0, 1, 0, 0, 0, 0, 0, 0, 0, 2, 0, 0, 0, 0, 0, 0, 0, 1, 0, 0, 0, 7] =
      .ok ⟨⟨.streamMux, 1, 2⟩, [7]⟩ :=
  ⟨rfl, (frame_round_trip withDefaults ⟨⟨.streamMux, 1, 2⟩, [7]⟩ (by decide) rfl).1⟩

end ProtocolRegistry

namespace ProtocolFrame

/-- Bytes that are decoded are those that the frame is encoded to exactly where their reserved bytes are zero, and only
the reserved bytes tell those of one frame apart. -/
theorem encode_decode_iff {bytes : List UInt8} {frame : ProtocolFrame} (h : decode bytes = .ok frame) :
    (frame.encode = bytes ↔ reservedOf bytes = [0, 0]) ∧
      ∀ bytes', decode bytes' = .ok frame → (bytes' = bytes ↔ reservedOf bytes' = reservedOf bytes) := by
  obtain ⟨hheader, -, -, hlayout⟩ := decode_ok h
  refine ⟨⟨?_, fun hzero => ?_⟩, fun bytes' h' => ⟨fun heq => by rw [heq], fun heq => ?_⟩⟩
  · rintro rfl
    rfl
  · rw [encode_eq, ← hzero, ← hlayout]
  · rw [(decode_ok h').2.2.2, heq, ← hlayout]

theorem encode_decode_iff_zero : decode (encode ⟨⟨.streamMux, 1, 2⟩, []⟩) = .ok ⟨⟨.streamMux, 1, 2⟩, []⟩ ∧
    reservedOf (encode ⟨⟨.streamMux, 1, 2⟩, []⟩) = [0, 0] :=
  ⟨decode_layout (by decide) rfl, (encode_decode_iff (decode_layout (by decide) rfl)).1.mp rfl⟩

theorem reserved_byte_lost : layout ⟨⟨.streamMux, 1, 2⟩, []⟩ [0, 0] ≠ layout ⟨⟨.streamMux, 1, 2⟩, []⟩ [1, 0] ∧
    decode (layout ⟨⟨.streamMux, 1, 2⟩, []⟩ [0, 0]) = .ok ⟨⟨.streamMux, 1, 2⟩, []⟩ ∧
    decode (layout ⟨⟨.streamMux, 1, 2⟩, []⟩ [1, 0]) = .ok ⟨⟨.streamMux, 1, 2⟩, []⟩ :=
  ⟨by decide, decode_layout (by decide) rfl, decode_layout (by decide) rfl⟩

end ProtocolFrame

end PandaGen.Network
