import HaviliarIot.Frame

/-!
The length prefix against the item behind it: damaged, truncated and foreign
frames.

The parser compares the declared length with the bytes received and hands the
declared bytes to `minicbor::decode`, which reads one item off their front.  A
declared length too small for the item, or too large for what was received, is
refused; one in between is accepted, and the bytes after the item are ignored.
-/

namespace HaviliarIot

open OutgoingFrame

variable (cbor : Minicbor)

/-- The parser on a buffer that starts with a declared length. -/
theorem decodeEnvelope_declared (d : UInt16) (body : List UInt8) :
    LoraParser.decodeEnvelope cbor (toLeBytes d ++ body) =
      if d.toNat = 0 ∨ body.length < d.toNat then none else cbor.decode (body.take d.toNat) := by
  simp only [toLeBytes, List.cons_append, List.nil_append, LoraParser.decodeEnvelope,
    fromLeBytes_toLeBytes, List.length_cons]
  have agree : d.toNat + 2 > body.length + 1 + 1 ↔ body.length < d.toNat := by omega
  simp only [agree]

/-- What is decoded, and from which bytes. -/
theorem decodeEnvelope_eq_some {b : List UInt8} {e : LoraEnvelope} :
    LoraParser.decodeEnvelope cbor b = some e ↔
      ∃ low high item rest tail, b = [low, high] ++ (item ++ rest) ++ tail ∧
        (fromLeBytes low high).toNat = item.length + rest.length ∧
        0 < (fromLeBytes low high).toNat ∧
        cbor.decodeEnvelope.run (item ++ rest) = some (e, rest) := by
  constructor
  · intro decoded
    rcases b with _ | ⟨low, _ | ⟨high, body⟩⟩
    · cases decoded
    · cases decoded
    · simp only [LoraParser.decodeEnvelope, List.length_cons] at decoded
      split at decoded
      · cases decoded
      · rename_i within
        obtain ⟨⟨value, rest⟩, read, rfl⟩ := Option.map_eq_some_iff.mp decoded
        obtain ⟨item, split⟩ := cbor.decodeEnvelope.suffix read
        have length : ((body.take (fromLeBytes low high).toNat)).length =
            item.length + rest.length := by
          rw [← split, List.length_append]
        rw [List.length_take] at length
        refine ⟨low, high, item, rest, body.drop (fromLeBytes low high).toNat, ?_, by omega,
          by omega, split ▸ read⟩
        rw [split, List.append_assoc, List.take_append_drop]
        rfl
  · rintro ⟨low, high, item, rest, tail, rfl, declared, positive, read⟩
    simp only [List.cons_append, List.nil_append, LoraParser.decodeEnvelope, List.length_cons,
      List.length_append]
    rw [if_neg (by omega), declared, ← List.length_append, List.take_left, Minicbor.decode, read]
    rfl

/-- No strict prefix of an encoded envelope decodes. -/
theorem decode_cut {e : LoraEnvelope} (fits : e.payload.length < 2 ^ 64) {count : Nat}
    (short : count < e.encode.length) : cbor.decode (e.encode.take count) = none := by
  have strict : e.encode.take count ≠ e.encode := by
    intro whole
    have length := congrArg List.length whole
    rw [List.length_take] at length
    omega
  rw [Minicbor.decode,
    (cbor.decodeEnvelope_delimits e fits).truncated (List.take_prefix _ _) strict]
  rfl

/-- An encoded envelope behind any length prefix: too small or too large is
refused, and in between the prefix does not matter. -/
theorem decodeEnvelope_reprefixed {e : LoraEnvelope} (fits : e.payload.length < 2 ^ 64)
    (d : UInt16) (t : List UInt8) :
    LoraParser.decodeEnvelope cbor (toLeBytes d ++ e.encode ++ t) =
      if e.encode.length ≤ d.toNat ∧ d.toNat ≤ e.encode.length + t.length then some e
      else none := by
  rw [List.append_assoc, decodeEnvelope_declared, List.length_append]
  have positive := e.encode_pos
  by_cases short : d.toNat < e.encode.length
  · have refused : ¬(e.encode.length ≤ d.toNat ∧ d.toNat ≤ e.encode.length + t.length) := by omega
    rw [if_neg refused]
    split
    · rfl
    · rw [List.take_append_of_le_length (by omega)]
      exact decode_cut cbor fits short
  by_cases long : e.encode.length + t.length < d.toNat
  · rw [if_pos (Or.inr long), if_neg (by omega)]
  · have whole : (e.encode ++ t).take d.toNat =
        e.encode ++ t.take (d.toNat - e.encode.length) := by
      rw [List.take_append, List.take_of_length_le (by omega)]
    rw [if_neg (by omega), if_pos (by omega), whole, Minicbor.decode,
      (cbor.decodeEnvelope_delimits e fits).reads]
    rfl

/-- An accepted payload is far below what CBOR can carry. -/
theorem payload_lt_of_new {N : Nat} {e : LoraEnvelope} {f : OutgoingFrame N}
    (accepted : OutgoingFrame.new N e = some f) : e.payload.length < 2 ^ 64 := by
  have small := (new_eq_some.mp accepted).2.1
  simp only [maxAppPayload] at small
  omega

/-- A frame cut after `k` of its bytes is not decoded. -/
theorem decodeEnvelope_cut {e : LoraEnvelope} (short : e.encode.length < 65536) {k : Nat}
    (cut : k < (framed e).length) :
    LoraParser.decodeEnvelope cbor ((framed e).take k) = none := by
  rw [framed_length] at cut
  have declared : (UInt16.ofNat e.encode.length).toNat = e.encode.length := by
    rw [UInt16.toNat_ofNat']
    exact Nat.mod_eq_of_lt short
  rcases k with _ | _ | k
  · rfl
  · rfl
  · have part : (framed e).take (k + 1 + 1) =
        toLeBytes (UInt16.ofNat e.encode.length) ++ e.encode.take k := rfl
    rw [part, decodeEnvelope_declared, declared, List.length_take, if_pos (by omega)]

/-- **A truncated frame is never mistaken for a message.**  Neither a frame the
radio cut short nor one whose length prefix was damaged to a smaller value
decodes, whatever follows it. -/
theorem truncated_frame_refused {N : Nat} {e : LoraEnvelope} {f : OutgoingFrame N}
    (accepted : OutgoingFrame.new N e = some f) :
    (∀ k < f.len, LoraParser.decodeEnvelope cbor (f.asSlice.take k) = none) ∧
      ∀ d : UInt16, d.toNat < e.encode.length → ∀ t,
        LoraParser.decodeEnvelope cbor (toLeBytes d ++ e.encode ++ t) = none := by
  constructor
  · intro k cut
    rw [asSlice_of_new accepted]
    apply decodeEnvelope_cut cbor (encode_lt_of_new accepted)
    rw [framed_length, ← (new_eq_some.mp accepted).2.2.2.2]
    exact cut
  · intro d smaller t
    rw [decodeEnvelope_reprefixed cbor (payload_lt_of_new accepted), if_neg (by omega)]

/-- An acknowledgement, cut after nine of its bytes. -/
theorem truncated_ack_refused :
    ∃ f, OutgoingFrame.new 64 (.new .Ack 7 70000 0 [65, 67, 75]) = some f ∧
      LoraParser.decodeEnvelope .reference (f.asSlice.take 9) = none := by
  have fits : (OutgoingFrame.new 64 (.new .Ack 7 70000 0 [65, 67, 75])).isSome :=
    new_isSome_iff.mpr (by decide)
  obtain ⟨f, accepted⟩ := Option.isSome_iff_exists.mp fits
  have len : f.len = 18 := (new_eq_some.mp accepted).2.2.2.2
  exact ⟨f, accepted, (truncated_frame_refused .reference accepted).1 9 (by omega)⟩

/-- **What the length prefix frames.**  The declared bytes start with the item
that was decoded, and what is left of them after it is ignored.  A frame whose
prefix was replaced is refused when the new length is too small for the item or
larger than what was received, and decodes to the same envelope otherwise. -/
theorem prefix_bounds_item :
    (∀ b e, LoraParser.decodeEnvelope cbor b = some e →
      ∃ low high item rest tail, b = [low, high] ++ (item ++ rest) ++ tail ∧
        (fromLeBytes low high).toNat = item.length + rest.length ∧
        0 < (fromLeBytes low high).toNat ∧
        cbor.decodeEnvelope.run (item ++ rest) = some (e, rest)) ∧
      ∀ N e f, OutgoingFrame.new N e = some f → ∀ (d : UInt16) (t : List UInt8),
        LoraParser.decodeEnvelope cbor (toLeBytes d ++ f.asSlice.drop 2 ++ t) =
          if f.len ≤ d.toNat + 2 ∧ d.toNat + 2 ≤ f.len + t.length then some e else none := by
  constructor
  · intro b e decoded
    exact (decodeEnvelope_eq_some cbor).mp decoded
  · intro N e f accepted d t
    have body : f.asSlice.drop 2 = e.encode := by
      rw [asSlice_of_new accepted]
      rfl
    have len : f.len = e.encode.length + 2 := (new_eq_some.mp accepted).2.2.2.2
    rw [body, decodeEnvelope_reprefixed cbor (payload_lt_of_new accepted), len]
    simp only [Nat.add_le_add_iff_right, Nat.add_right_comm _ 2 t.length]

theorem prefix_bounds_item_ack :
    ∃ f, OutgoingFrame.new 64 (.new .Ack 7 70000 0 [65, 67, 75]) = some f ∧
      LoraParser.decodeEnvelope .reference (toLeBytes 15 ++ f.asSlice.drop 2 ++ [0, 0]) = none ∧
      ∃ low high item rest tail, f.payload = [low, high] ++ (item ++ rest) ++ tail ∧
        (fromLeBytes low high).toNat = item.length + rest.length ∧
        0 < (fromLeBytes low high).toNat ∧
        (Minicbor.decodeEnvelope .reference).run (item ++ rest) =
          some (.new .Ack 7 70000 0 [65, 67, 75], rest) := by
  have fits : (OutgoingFrame.new 64 (.new .Ack 7 70000 0 [65, 67, 75])).isSome :=
    new_isSome_iff.mpr (by decide)
  obtain ⟨f, accepted⟩ := Option.isSome_iff_exists.mp fits
  have len : f.len = 18 := (new_eq_some.mp accepted).2.2.2.2
  have decoded : LoraParser.decodeEnvelope .reference f.payload =
      some (.new .Ack 7 70000 0 [65, 67, 75]) := by
    rw [padding_of_new accepted, asSlice_of_new accepted]
    exact decodeEnvelope_framed _ (encode_lt_of_new accepted) _
  refine ⟨f, accepted, ?_, (prefix_bounds_item .reference).1 _ _ decoded⟩
  rw [(prefix_bounds_item .reference).2 64 _ f accepted, len]
  rfl

/-- An acknowledgement in a padded buffer, its length prefix one too large: it
decodes all the same, and a declared byte is left over. -/
theorem larger_prefix_decodes :
    ∃ f, OutgoingFrame.new 64 (.new .Ack 7 70000 0 [65, 67, 75]) = some f ∧
      f.payload = toLeBytes 16 ++ f.payload.drop 2 ∧
      LoraParser.decodeEnvelope .reference (toLeBytes 17 ++ f.payload.drop 2) =
        some (.new .Ack 7 70000 0 [65, 67, 75]) ∧
      (Minicbor.decodeEnvelope .reference).run ((f.payload.drop 2).take 17) =
        some (.new .Ack 7 70000 0 [65, 67, 75], [0]) := by
  have fits : (OutgoingFrame.new 64 (.new .Ack 7 70000 0 [65, 67, 75])).isSome :=
    new_isSome_iff.mpr (by decide)
  obtain ⟨f, accepted⟩ := Option.isSome_iff_exists.mp fits
  obtain ⟨-, -, -, bytes, len⟩ := new_eq_some.mp accepted
  have body : f.payload.drop 2 =
      (LoraEnvelope.new .Ack 7 70000 0 [65, 67, 75]).encode ++ List.replicate 46 0 := by
    rw [bytes, len]
    rfl
  have payload := payload_lt_of_new accepted
  refine ⟨f, accepted, ?_, ?_, ?_⟩
  · rw [body, bytes, len]
    rfl
  · rw [body, ← List.append_assoc, decodeEnvelope_reprefixed _ payload]
    rfl
  · rw [body]
    exact (Minicbor.decodeEnvelope_delimits .reference _ payload).reads [0]

end HaviliarIot
