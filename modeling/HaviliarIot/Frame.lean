import HaviliarIot.Envelope

/-!
`protocol/lora.rs`: the fixed-size frame an envelope is sent in, and the parser
of a received buffer.

`OutgoingFrame.new` encodes past a two-byte length prefix written afterwards.
Its one specification is `new_eq_some`: what is accepted, and every byte of the
frame.  `decode_undoes_encode` is the round trip on any buffer the frame is the
front of, and `encodable_iff` says which envelopes fit a LoRa frame.
-/

namespace HaviliarIot

/-- `minicbor::encode::write::Cursor` over a slice of `n` bytes. -/
structure Cursor (n : Nat) where
  buffer : List UInt8
  position : Nat
  buffer_length : buffer.length = n
  position_le : position ≤ n

namespace Cursor

variable {n : Nat}

/-- At the start of a zeroed slice. -/
def zeroed (n : Nat) : Cursor n where
  buffer := List.replicate n 0
  position := 0
  buffer_length := List.length_replicate
  position_le := Nat.zero_le n

/-- Overwrite from the position on; an error exactly when the slice is too
short. -/
def writeAll (c : Cursor n) (bytes : List UInt8) : Option (Cursor n) :=
  if fits : c.position + bytes.length ≤ n then
    some {
      buffer := c.buffer.take c.position ++ bytes ++ c.buffer.drop (c.position + bytes.length)
      position := c.position + bytes.length
      buffer_length := by
        have length := c.buffer_length
        have position := c.position_le
        simp only [List.length_append, List.length_take, List.length_drop]
        omega
      position_le := fits }
  else none

end Cursor

/-- `u16::to_le_bytes`. -/
def toLeBytes (n : UInt16) : List UInt8 :=
  [UInt8.ofNat (n.toNat % 256), UInt8.ofNat (n.toNat / 256)]

/-- `u16::from_le_bytes`. -/
def fromLeBytes (low high : UInt8) : UInt16 := UInt16.ofNat (low.toNat + 256 * high.toNat)

/-- `lora.rs::OutgoingFrame<N>`: an `N`-byte buffer whose first `len` bytes are
sent. -/
structure OutgoingFrame (N : Nat) where
  payload : List UInt8
  len : Nat
  payload_length : payload.length = N
  len_le : len ≤ N
  deriving DecidableEq

namespace OutgoingFrame

variable {N : Nat} {e : LoraEnvelope} {f : OutgoingFrame N}

/-- `OutgoingFrame::new`.  `minicbor::encode` writes `e.encode` through a cursor
on `payload[2..]`; the prefix goes into `payload[0..2]` once its length is known. -/
def new (N : Nat) (msg : LoraEnvelope) : Option (OutgoingFrame N) :=
  if small : N < 3 then none
  else if msg.payload.length > maxAppPayload then none
  else do
    let cursor ← (Cursor.zeroed (N - 2)).writeAll msg.encode
    let cborLen := cursor.position
    if tooLong : cborLen > 65535 ∨ cborLen + 2 > N then none
    else
      some {
        payload := toLeBytes (UInt16.ofNat cborLen) ++ cursor.buffer
        len := cborLen + 2
        payload_length := by
          have length := cursor.buffer_length
          simp only [toLeBytes, List.length_append, List.length_cons, List.length_nil]
          omega
        len_le := by omega }

/-- `OutgoingFrame::as_slice`. -/
def asSlice (f : OutgoingFrame N) : List UInt8 := f.payload.take f.len

end OutgoingFrame

/-- `LoraEnvelope::into_outgoing`. -/
def LoraEnvelope.intoOutgoing (e : LoraEnvelope) : Option (OutgoingFrame payloadLength) :=
  OutgoingFrame.new payloadLength e

namespace LoraParser

/-- `LoraParser::decode_envelope`. -/
def decodeEnvelope (cbor : Minicbor) (received : List UInt8) : Option LoraEnvelope :=
  match received with
  | low :: high :: body =>
    let declaredLen := (fromLeBytes low high).toNat
    if declaredLen = 0 ∨ declaredLen + 2 > received.length then none
    else cbor.decode (body.take declaredLen)
  | _ => none

/-- `LoraParser::encode_envelope`. -/
def encodeEnvelope (N : Nat) (msgType : MessageType) (seq : UInt16)
    (timestampMs elapsedMs : UInt32) (payload : List UInt8) : Option (OutgoingFrame N) :=
  OutgoingFrame.new N (LoraEnvelope.new msgType seq timestampMs elapsedMs payload)

end LoraParser

namespace OutgoingFrame

variable {N : Nat} {e : LoraEnvelope} {f : OutgoingFrame N}

/-- The bytes of the frame before its padding: length prefix, then the item. -/
def framed (e : LoraEnvelope) : List UInt8 :=
  toLeBytes (UInt16.ofNat e.encode.length) ++ e.encode

theorem framed_length (e : LoraEnvelope) : (framed e).length = e.encode.length + 2 := by
  simp only [framed, toLeBytes, List.length_append, List.length_cons, List.length_nil]
  omega

/-- The cursor's one write, from the start of the zeroed slice. -/
theorem writeAll_zeroed {n : Nat} {bytes : List UInt8} {c : Cursor n} :
    (Cursor.zeroed n).writeAll bytes = some c ↔
      bytes.length ≤ n ∧ c.buffer = bytes ++ List.replicate (n - bytes.length) 0 ∧
        c.position = bytes.length := by
  obtain ⟨buffer, position, length, le⟩ := c
  simp only [Cursor.writeAll, Cursor.zeroed, List.take_zero, List.nil_append, Nat.zero_add,
    List.drop_replicate]
  split
  · rename_i fits
    simp only [Option.some.injEq, Cursor.mk.injEq, fits, true_and]
    exact and_congr eq_comm eq_comm
  · rename_i tooShort
    simp [tooShort]

theorem writeAll_zeroed_none {n : Nat} {bytes : List UInt8} :
    (Cursor.zeroed n).writeAll bytes = none ↔ n < bytes.length := by
  simp [Cursor.writeAll, Cursor.zeroed]

/-- What is accepted, and every byte of the frame. -/
theorem new_eq_some : new N e = some f ↔
    3 ≤ N ∧ e.payload.length ≤ maxAppPayload ∧ e.encode.length + 2 ≤ N ∧
      f.payload = framed e ++ List.replicate (N - f.len) 0 ∧ f.len = e.encode.length + 2 := by
  unfold new
  by_cases small : N < 3
  · simp [small]
  by_cases large : e.payload.length > maxAppPayload
  · simp [small, large]
  -- past both guards the u16 bound cannot fail, since the payload is short
  have short : e.encode.length ≤ 65535 := by
    have bound := e.encode_length_le (by simp only [maxAppPayload] at large; omega)
    simp only [maxAppPayload] at large
    omega
  rw [dif_neg small, if_neg large]
  constructor
  · intro accepted
    obtain ⟨cursor, written, accepted⟩ := Option.bind_eq_some_iff.mp accepted
    obtain ⟨room, buffer, position⟩ := writeAll_zeroed.mp written
    dsimp only at accepted
    split at accepted
    · cases accepted
    · cases Option.some.inj accepted
      refine ⟨by omega, by omega, by omega, ?_, congrArg (· + 2) position⟩
      dsimp only
      rw [buffer, position, framed, List.append_assoc, Nat.sub_sub, Nat.add_comm 2]
  · rintro ⟨-, -, fits, bytes, len⟩
    cases written : (Cursor.zeroed (N - 2)).writeAll e.encode with
    | none =>
      have tooShort := writeAll_zeroed_none.mp written
      omega
    | some cursor =>
      obtain ⟨room, buffer, position⟩ := writeAll_zeroed.mp written
      obtain ⟨payload, length, _, _⟩ := f
      simp only [Option.bind_eq_bind, Option.bind_some]
      rw [dif_neg (by omega)]
      simp only at bytes len
      simp only [Option.some.injEq, OutgoingFrame.mk.injEq, position, len, and_true]
      rw [bytes, len, buffer, framed, List.append_assoc, Nat.sub_sub, Nat.add_comm 2]

/-- Which envelopes a frame of `N` bytes accepts. -/
theorem new_isSome_iff :
    (new N e).isSome ↔ e.payload.length ≤ maxAppPayload ∧ e.encode.length + 2 ≤ N := by
  constructor
  · intro accepted
    obtain ⟨f, accepted⟩ := Option.isSome_iff_exists.mp accepted
    obtain ⟨-, small, fits, -, -⟩ := new_eq_some.mp accepted
    exact ⟨small, fits⟩
  · rintro ⟨small, fits⟩
    have nonempty := e.encode_pos
    have length : (framed e ++ List.replicate (N - (e.encode.length + 2)) 0).length = N := by
      rw [List.length_append, framed_length, List.length_replicate]
      omega
    have accepted : new N e = some ⟨_, e.encode.length + 2, length, fits⟩ :=
      new_eq_some.mpr ⟨by omega, small, fits, rfl, rfl⟩
    exact Option.isSome_iff_exists.mpr ⟨_, accepted⟩

/-- Only the front of the buffer is sent, and it is the framed envelope. -/
theorem asSlice_of_new (accepted : new N e = some f) : f.asSlice = framed e := by
  obtain ⟨-, -, -, bytes, len⟩ := new_eq_some.mp accepted
  rw [asSlice, bytes, len, List.take_left' (framed_length e)]

/-- Past the sent bytes the buffer keeps the zeros it was made of. -/
theorem padding_of_new (accepted : new N e = some f) :
    f.payload = f.asSlice ++ List.replicate (N - f.len) 0 := by
  rw [asSlice_of_new accepted]
  exact (new_eq_some.mp accepted).2.2.2.1

end OutgoingFrame

open OutgoingFrame

theorem fromLeBytes_toLeBytes (n : UInt16) :
    fromLeBytes (UInt8.ofNat (n.toNat % 256)) (UInt8.ofNat (n.toNat / 256)) = n := by
  have bound := n.toNat_lt
  apply UInt16.toNat_inj.mp
  simp only [fromLeBytes, UInt8.toNat_ofNat', UInt16.toNat_ofNat']
  omega

/-- The parser, on two prefix bytes that declare `d` bytes and a body that has
them. -/
theorem decodeEnvelope_prefixed (cbor : Minicbor) {d : Nat} {body : List UInt8} (positive : 0 < d)
    (small : d < 65536) (enough : d ≤ body.length) :
    LoraParser.decodeEnvelope cbor (toLeBytes (UInt16.ofNat d) ++ body) =
      cbor.decode (body.take d) := by
  have declared := fromLeBytes_toLeBytes (UInt16.ofNat d)
  have value : (UInt16.ofNat d).toNat = d := by
    rw [UInt16.toNat_ofNat']
    exact Nat.mod_eq_of_lt small
  simp only [toLeBytes, List.cons_append, List.nil_append, LoraParser.decodeEnvelope, declared]
  rw [value, List.length_cons, List.length_cons, if_neg (by omega)]

/-- A framed envelope at the front of any buffer decodes to that envelope. -/
theorem decodeEnvelope_framed (cbor : Minicbor) {e : LoraEnvelope} (short : e.encode.length < 65536)
    (t : List UInt8) : LoraParser.decodeEnvelope cbor (framed e ++ t) = some e := by
  have payload : e.payload.length < 2 ^ 64 := by
    have inside : e.payload.length ≤ e.encode.length := by
      simp only [LoraEnvelope.encode, Cbor.byteString, List.length_append]
      omega
    omega
  rw [framed, List.append_assoc, decodeEnvelope_prefixed cbor e.encode_pos short (by simp),
    List.take_left, cbor.decode_encode e payload]

/-- An accepted envelope is short enough for its length prefix. -/
theorem encode_lt_of_new {N : Nat} {e : LoraEnvelope} {f : OutgoingFrame N}
    (accepted : OutgoingFrame.new N e = some f) : e.encode.length < 65536 := by
  have small := (new_eq_some.mp accepted).2.1
  simp only [maxAppPayload] at small
  have bound := e.encode_length_le (by omega)
  omega

/-- **Decoding undoes encoding, on any receive buffer.**  Whatever follows the
sent bytes, the envelope comes back in all its fields; the zero-padded buffer is
one such case, and its padding is all zero. -/
theorem decode_undoes_encode (cbor : Minicbor) {N : Nat} {e : LoraEnvelope} {f : OutgoingFrame N}
    (accepted : OutgoingFrame.new N e = some f) (t : List UInt8) :
    LoraParser.decodeEnvelope cbor (f.asSlice ++ t) = some e ∧
      LoraParser.decodeEnvelope cbor f.payload = some e ∧
      f.payload.drop f.len = List.replicate (N - f.len) 0 := by
  have short := encode_lt_of_new accepted
  have sent := asSlice_of_new accepted
  have padded := padding_of_new accepted
  refine ⟨?_, ?_, ?_⟩
  · rw [sent]
    exact decodeEnvelope_framed cbor short t
  · rw [padded, sent]
    exact decodeEnvelope_framed cbor short _
  · have length : f.asSlice.length = f.len := by
      rw [OutgoingFrame.asSlice, List.length_take, f.payload_length]
      exact Nat.min_eq_left f.len_le
    rw [padded, ← length]
    exact List.drop_left

theorem decode_undoes_encode_ack :
    ∃ f, OutgoingFrame.new 64 (.new .Ack 7 70000 0 [65, 67, 75]) = some f ∧
      LoraParser.decodeEnvelope .reference (f.asSlice ++ [1, 2]) =
        some (.new .Ack 7 70000 0 [65, 67, 75]) := by
  have fits : (OutgoingFrame.new 64 (.new .Ack 7 70000 0 [65, 67, 75])).isSome := by decide
  obtain ⟨f, accepted⟩ := Option.isSome_iff_exists.mp fits
  exact ⟨f, accepted, (decode_undoes_encode .reference accepted [1, 2]).1⟩

/-- Which envelopes fit a LoRa frame: those within the application limit. -/
theorem encodable_iff (e : LoraEnvelope) :
    e.intoOutgoing.isSome ↔ e.payload.length ≤ maxAppPayload := by
  rw [LoraEnvelope.intoOutgoing, OutgoingFrame.new_isSome_iff]
  constructor
  · exact And.left
  · intro within
    have small : e.payload.length ≤ 229 := within
    have bound := e.encode_length_le (by omega)
    refine ⟨within, ?_⟩
    simp only [payloadLength]
    omega

end HaviliarIot
