import HaviliarIot.Frame
import HaviliarIot.Checked

/-!
What `OutgoingFrame::new` accepts, and that building a frame goes wrong for no
envelope and no frame size.

`OutgoingFrame.newChecked` is the same function with its slices, the copy of the
prefix and the cast to `u16` checked; `newChecked_eq` says that it never fails
and gives the frame of `new`.  The encoded size follows from the head sizes of
the six fields (`LoraEnvelope.encode_length`).
-/

namespace HaviliarIot

/-- `isize::MAX` on the 32-bit target; no `Vec` is longer. -/
def isizeMax : Nat := 2 ^ 31 - 1

/-- A cursor at the start of a slice. -/
def Cursor.new (slice : List UInt8) : Cursor slice.length where
  buffer := slice
  position := 0
  buffer_length := rfl
  position_le := Nat.zero_le _

theorem Cursor.writeAll_new {slice bytes : List UInt8} (fits : bytes.length ≤ slice.length) :
    ∃ c, (Cursor.new slice).writeAll bytes = some c ∧
      c.buffer = bytes ++ slice.drop bytes.length ∧ c.position = bytes.length := by
  have room : (Cursor.new slice).position + bytes.length ≤ slice.length := by
    rwa [Cursor.new, Nat.zero_add]
  refine ⟨_, dif_pos room, ?_, ?_⟩
  · simp only [Cursor.new, List.take_zero, List.nil_append, Nat.zero_add]
  · simp only [Cursor.new, Nat.zero_add]

theorem Cursor.writeAll_new_none {slice bytes : List UInt8} (long : slice.length < bytes.length) :
    (Cursor.new slice).writeAll bytes = none := by
  refine dif_neg ?_
  rw [Cursor.new, Nat.zero_add]
  omega

namespace OutgoingFrame

variable {N : Nat} {e : LoraEnvelope} {f : OutgoingFrame N}

/-- `OutgoingFrame::new` with every slice, the copy and the cast checked: the
outer `none` is a panic or a cast that loses bits. -/
def newChecked (N : Nat) (msg : LoraEnvelope) : Option (Option (List UInt8 × Nat)) :=
  if N < 3 then some none
  else if msg.payload.length > maxAppPayload then some none
  else do
    let payload := List.replicate N 0
    -- `&mut payload[2..]`
    let body ← Checked.sliceFrom 2 payload
    match (Cursor.new body).writeAll msg.encode with
    | none => some none
    | some cursor =>
      let cborLen := cursor.position
      if cborLen > 65535 ∨ cborLen + 2 > N then some none
      else do
        let lenPrefix := toLeBytes (← Checked.u16 cborLen)
        let payload ← Checked.copyInto 0 2 lenPrefix (payload.take 2 ++ cursor.buffer)
        some (some (payload, cborLen + 2))

/-- The limit on the payload keeps the encoding within 16 bits. -/
theorem encode_le_of_payload (small : e.payload.length ≤ maxAppPayload) :
    e.encode.length ≤ 65535 := by
  simp only [maxAppPayload] at small
  have bound := e.encode_length_le (by omega)
  omega

/-- Building a frame never goes wrong. -/
theorem newChecked_eq (N : Nat) (e : LoraEnvelope) :
    newChecked N e = some ((new N e).map fun f => (f.payload, f.len)) := by
  unfold newChecked
  by_cases tiny : N < 3
  · rw [if_pos tiny, new, dif_pos tiny]
    rfl
  by_cases large : e.payload.length > maxAppPayload
  · rw [if_neg tiny, if_pos large, new, dif_neg tiny, if_pos large]
    rfl
  have room : 2 ≤ (List.replicate N (0 : UInt8)).length := by
    rw [List.length_replicate]
    omega
  have bodyLength : ((List.replicate N (0 : UInt8)).drop 2).length = N - 2 := by
    rw [List.length_drop, List.length_replicate]
  simp only [if_neg tiny, if_neg large, Checked.sliceFrom_fits room, Option.bind_eq_bind,
    Option.bind_some]
  by_cases fits : e.encode.length ≤ N - 2
  · obtain ⟨c, written, buffer, position⟩ := Cursor.writeAll_new (bodyLength ▸ fits)
    have short : e.encode.length ≤ 65535 := encode_le_of_payload (by omega)
    obtain ⟨cast, -⟩ := Checked.u16_fits (Nat.lt_succ_of_le short)
    have front : ((List.replicate N (0 : UInt8)).take 2).length = 2 := by
      rw [List.length_take, List.length_replicate]
      omega
    have copied : Checked.copyInto 0 2 (toLeBytes (UInt16.ofNat e.encode.length))
        ((List.replicate N 0).take 2 ++ c.buffer) =
          some (toLeBytes (UInt16.ofNat e.encode.length) ++ c.buffer) :=
      Checked.copyInto_front front rfl
    have accepted : (new N e).isSome := new_isSome_iff.mpr ⟨by omega, by omega⟩
    obtain ⟨f, accepted⟩ := Option.isSome_iff_exists.mp accepted
    obtain ⟨-, -, -, bytes, len⟩ := new_eq_some.mp accepted
    rw [written]
    simp only [position, cast, copied, Option.bind_some]
    rw [if_neg (by omega), accepted, Option.map_some, bytes, len, buffer, framed,
      List.append_assoc, List.drop_drop, List.drop_replicate, Nat.add_comm 2]
  · rw [Cursor.writeAll_new_none (by rw [bodyLength]; omega)]
    have refused : new N e = none := by
      apply Option.not_isSome_iff_eq_none.mp
      intro accepted
      have := (new_isSome_iff.mp accepted).2
      omega
    rw [refused]
    rfl

end OutgoingFrame

/-- The encoded size of an envelope: one byte for the outer array, three for the
type, and the head of each field. -/
theorem LoraEnvelope.encode_length (e : LoraEnvelope) :
    e.encode.length = 4 + (Cbor.unsigned e.version.toNat).length +
      (Cbor.unsigned e.seq.toNat).length + (Cbor.unsigned e.timestampMs.toNat).length +
      (Cbor.unsigned e.elapsedMs.toNat).length +
      (Cbor.head .byteString e.payload.length).length + e.payload.length := by
  have array : (Cbor.head .array 6).length = 1 := Cbor.head_length_le.1 (by omega)
  have type := e.msgType.encode_length
  simp only [encode, Cbor.byteString, List.length_append, array, type]
  omega

/-- The 24 bytes reserved cover the overhead of every envelope. -/
theorem LoraEnvelope.encode_length_le_reserved (e : LoraEnvelope)
    (addressable : e.payload.length ≤ isizeMax) :
    e.encode.length ≤ e.payload.length + 24 := by
  have version := (Cbor.head_length_le (m := .unsigned)).2.1 e.version.toNat_lt
  have seq := (Cbor.head_length_le (m := .unsigned)).2.2.1 e.seq.toNat_lt
  have timestamp := (Cbor.head_length_le (m := .unsigned)).2.2.2 e.timestampMs.toNat_lt
  have elapsed := (Cbor.head_length_le (m := .unsigned)).2.2.2 e.elapsedMs.toNat_lt
  have payload : (Cbor.head .byteString e.payload.length).length ≤ 5 := by
    apply (Cbor.head_length_le (m := .byteString)).2.2.2
    simp only [isizeMax] at addressable
    omega
  rw [encode_length]
  simp only [Cbor.unsigned]
  omega

namespace OutgoingFrame

/-- **The encoder accepts exactly what fits.**  Building a frame never slices
out of range nor casts a length that loses bits; a frame is built exactly when the
payload is within the application limit and the encoding fits after the prefix,
which then holds its length; the reserved overhead covers every envelope, so an
application payload within the limit fits a LoRa frame. -/
theorem accepts_exactly_what_fits (N : Nat) (e : LoraEnvelope) :
    newChecked N e = some ((new N e).map fun f => (f.payload, f.len)) ∧
      ((new N e).isSome ↔ e.payload.length ≤ maxAppPayload ∧ e.encode.length + 2 ≤ N) ∧
      (∀ f, new N e = some f → f.len = 2 + e.encode.length ∧
        ∃ low high, f.payload = [low, high] ++ e.encode ++ List.replicate (N - f.len) 0 ∧
          (fromLeBytes low high).toNat = e.encode.length) ∧
      (e.payload.length ≤ isizeMax → e.encode.length ≤ e.payload.length + 24) ∧
      (e.payload.length ≤ 229 → ∃ f, new payloadLength e = some f ∧ f.len ≤ 255) := by
  refine ⟨newChecked_eq N e, new_isSome_iff, ?_, e.encode_length_le_reserved, ?_⟩
  · intro f accepted
    obtain ⟨-, small, -, bytes, len⟩ := new_eq_some.mp accepted
    have short := encode_le_of_payload small
    refine ⟨by omega, _, _, bytes, ?_⟩
    rw [fromLeBytes_toLeBytes]
    exact (Checked.u16_fits (Nat.lt_succ_of_le short)).2
  · intro small
    have reserved := e.encode_length_le_reserved (by simp only [isizeMax]; omega)
    have accepted : (new payloadLength e).isSome := by
      refine new_isSome_iff.mpr ⟨small, ?_⟩
      simp only [payloadLength]
      omega
    obtain ⟨f, accepted⟩ := Option.isSome_iff_exists.mp accepted
    exact ⟨f, accepted, f.len_le⟩

/-- The largest envelope: every head at its longest, at the payload limit. -/
theorem accepts_exactly_what_fits_largest :
    ∃ f, new payloadLength ⟨255, .Open, 65535, 4294967295, 4294967295, List.replicate 229 0⟩ =
      some f ∧ f.len ≤ 255 :=
  (accepts_exactly_what_fits payloadLength
    ⟨255, .Open, 65535, 4294967295, 4294967295, List.replicate 229 0⟩).2.2.2.2
    (by rw [List.length_replicate])

end OutgoingFrame

end HaviliarIot
