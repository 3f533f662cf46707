import HaviliarIot.Cbor

/-!
`protocol/message_type.rs` and the envelope of `protocol/lora.rs`, with the codec
that `#[derive(Encode, Decode)]` generates for them.

`minicbor` itself is not part of the repository.  Its decoder is a parameter:
`Minicbor` is the primitives the generated code calls, with the documented facts
about them as fields — each reads the shortest-form item it is for off the front
of its input, and reports the end of input on a strict part of that item.
`Minicbor.reference` is one such decoder.  The encoding is the one the derive
documents: structs and enum variants are definite arrays in field order (a unit
variant is `[index, []]`), integers and lengths in their shortest form, `ByteVec`
one definite byte string.
-/

namespace HaviliarIot

/-- `message_type.rs::MessageType`. -/
inductive MessageType where
  | Counter | ResponseTime | ContinuousPackage | Reply | Ack | Open
  deriving DecidableEq, Repr

/-- The `#[n(..)]` index of a variant. -/
def MessageType.index : MessageType → Nat
  | Counter => 0
  | ResponseTime => 1
  | ContinuousPackage => 2
  | Reply => 3
  | Ack => 4
  | Open => 5

def MessageType.ofIndex : Int → Option MessageType
  | 0 => some Counter
  | 1 => some ResponseTime
  | 2 => some ContinuousPackage
  | 3 => some Reply
  | 4 => some Ack
  | 5 => some Open
  | _ => none

theorem MessageType.ofIndex_index (m : MessageType) : ofIndex (m.index : Int) = some m := by
  cases m <;> rfl

/-- `lora.rs::PROTOCOL_VERSION`. -/
def protocolVersion : UInt8 := 1

/-- `lora.rs::MAX_APP_PAYLOAD`. -/
def maxAppPayload : Nat := 229

/-- `hal/lora.rs::PAYLOAD_LENGTH`. -/
def payloadLength : Nat := 255

/-- `lora.rs::LoraEnvelope`. -/
structure LoraEnvelope where
  version : UInt8
  msgType : MessageType
  seq : UInt16
  timestampMs : UInt32
  elapsedMs : UInt32
  payload : List UInt8
  deriving DecidableEq, Repr

namespace LoraEnvelope

/-- `LoraEnvelope::new`. -/
def new (msgType : MessageType) (seq : UInt16) (timestampMs elapsedMs : UInt32)
    (payload : List UInt8) : LoraEnvelope where
  version := protocolVersion
  msgType := msgType
  seq := seq
  timestampMs := timestampMs
  elapsedMs := elapsedMs
  payload := payload

end LoraEnvelope

/-! ## The generated encoder -/

open Cbor in
/-- A unit variant: the two-element array `[index, []]`. -/
def MessageType.encode (m : MessageType) : List UInt8 :=
  head .array 2 ++ (unsigned m.index ++ head .array 0)

open Cbor in
/-- The six fields in index order. -/
def LoraEnvelope.encode (e : LoraEnvelope) : List UInt8 :=
  head .array 6 ++ (unsigned e.version.toNat ++ (e.msgType.encode ++ (unsigned e.seq.toNat ++
    (unsigned e.timestampMs.toNat ++ (unsigned e.elapsedMs.toNat ++ byteString e.payload)))))

theorem MessageType.encode_length (m : MessageType) : m.encode.length = 3 := by
  cases m <;> decide

theorem LoraEnvelope.encode_pos (e : LoraEnvelope) : 0 < e.encode.length := by
  have head := List.length_pos_of_ne_nil (Cbor.head_ne_nil .array 6)
  simp only [encode, List.length_append]
  omega

/-- Everything but the payload takes at most 17 bytes, and its length head at
most two while the payload is shorter than 256 bytes. -/
theorem LoraEnvelope.encode_length_le (e : LoraEnvelope) (short : e.payload.length < 256) :
    e.encode.length ≤ e.payload.length + 21 := by
  have version := (Cbor.head_length_le (m := .unsigned)).2.1 e.version.toNat_lt
  have seq := (Cbor.head_length_le (m := .unsigned)).2.2.1 e.seq.toNat_lt
  have timestamp := (Cbor.head_length_le (m := .unsigned)).2.2.2 e.timestampMs.toNat_lt
  have elapsed := (Cbor.head_length_le (m := .unsigned)).2.2.2 e.elapsedMs.toNat_lt
  have payload := (Cbor.head_length_le (m := .byteString)).2.1 short
  have array : (Cbor.head .array 6).length = 1 := Cbor.head_length_le.1 (by decide)
  have type := e.msgType.encode_length
  simp only [encode, Cbor.byteString, Cbor.unsigned, List.length_append]
  omega

/-! ## The decoder the generated code calls -/

open Reader in
/-- The primitives of `minicbor::Decoder` behind the generated code, and what is
documented of them. -/
structure Minicbor where
  /-- `Decoder::array`; `none` is an array of indefinite length. -/
  array : Reader UInt8 (Option Nat)
  u8 : Reader UInt8 UInt8
  u16 : Reader UInt8 UInt16
  u32 : Reader UInt8 UInt32
  i64 : Reader UInt8 Int
  /-- `Decoder::bytes`, behind `ByteVec`. -/
  bytes : Reader UInt8 (List UInt8)
  skip : Reader UInt8 Unit
  /-- `Decoder::datatype() == Type::Break`. -/
  atBreak : Reader UInt8 Bool
  array_delimits : ∀ {n}, n < 2 ^ 64 → Delimits array (Cbor.head .array n) (some n)
  u8_delimits : ∀ n : UInt8, Delimits u8 (Cbor.unsigned n.toNat) n
  u16_delimits : ∀ n : UInt16, Delimits u16 (Cbor.unsigned n.toNat) n
  u32_delimits : ∀ n : UInt32, Delimits u32 (Cbor.unsigned n.toNat) n
  i64_delimits : ∀ {n : Nat}, n < 2 ^ 63 → Delimits i64 (Cbor.unsigned n) (n : Int)
  bytes_delimits : ∀ {b : List UInt8}, b.length < 2 ^ 64 → Delimits bytes (Cbor.byteString b) b
  skip_delimits_empty_array : Delimits skip (Cbor.head .array 0) ()

namespace Minicbor

open Reader

/-- A decoder with these properties.  Minicbor's own `skip` differs in two ways: it passes
over items of indefinite length as well, and it refuses text that is not UTF-8. -/
def reference : Minicbor where
  array := Cbor.readArray
  u8 := UInt8.ofNat <$> Cbor.readUnsigned 256
  u16 := UInt16.ofNat <$> Cbor.readUnsigned 65536
  u32 := UInt32.ofNat <$> Cbor.readUnsigned 4294967296
  i64 := Int.ofNat <$> Cbor.readUnsigned (2 ^ 63)
  bytes := Cbor.readByteString
  skip := Cbor.skip
  atBreak := Cbor.atBreak
  array_delimits := Cbor.readArray_delimits
  u8_delimits n := by
    have read := Cbor.readUnsigned_delimits n.toNat_lt (Nat.lt_trans n.toNat_lt (by decide))
    simpa using read.map UInt8.ofNat
  u16_delimits n := by
    have read := Cbor.readUnsigned_delimits n.toNat_lt (Nat.lt_trans n.toNat_lt (by decide))
    simpa using read.map UInt16.ofNat
  u32_delimits n := by
    have read := Cbor.readUnsigned_delimits n.toNat_lt (Nat.lt_trans n.toNat_lt (by decide))
    simpa using read.map UInt32.ofNat
  i64_delimits small :=
    (Cbor.readUnsigned_delimits small (Nat.lt_trans small (by decide))).map Int.ofNat
  bytes_delimits := Cbor.readByteString_delimits
  skip_delimits_empty_array := Cbor.skip_delimits_empty_array

variable (cbor : Minicbor)

/-- The generated `Decode` of `MessageType`: a two-element array, the index, and
the variant's own array passed over unread. -/
def decodeMessageType : Reader UInt8 MessageType := do
  let length ← cbor.array
  if length = some 2 then
    let index ← cbor.i64
    match MessageType.ofIndex index with
    | some m => do
      cbor.skip
      pure m
    | none => fail
  else fail

/-- The fields seen so far. -/
structure Fields where
  version : Option UInt8 := none
  msgType : Option MessageType := none
  seq : Option UInt16 := none
  timestampMs : Option UInt32 := none
  elapsedMs : Option UInt32 := none
  payload : Option (List UInt8) := none

/-- The element at position `i`; positions past the last field are passed over. -/
def decodeField (i : Nat) (fields : Fields) : Reader UInt8 Fields :=
  match i with
  | 0 => (fun version => { fields with version := some version }) <$> cbor.u8
  | 1 => (fun msgType => { fields with msgType := some msgType }) <$> decodeMessageType cbor
  | 2 => (fun seq => { fields with seq := some seq }) <$> cbor.u16
  | 3 => (fun timestampMs => { fields with timestampMs := some timestampMs }) <$> cbor.u32
  | 4 => (fun elapsedMs => { fields with elapsedMs := some elapsedMs }) <$> cbor.u32
  | 5 => (fun payload => { fields with payload := some payload }) <$> cbor.bytes
  | _ => (fun _ => fields) <$> cbor.skip

/-- `for i in 0 .. len`, over a definite array. -/
def decodeFields : Nat → Nat → Fields → Reader UInt8 Fields
  | 0, _, fields => pure fields
  | left + 1, i, fields => do
    let fields ← decodeField cbor i fields
    decodeFields left (i + 1) fields

/-- `while Type::Break != d.datatype()?`, over an indefinite array.  Every turn
reads a byte or more, so the bytes left bound the turns. -/
def decodeUntilBreak : Nat → Nat → Fields → Reader UInt8 Fields
  | 0, _, _ => fail
  | fuel + 1, i, fields => do
    if ← cbor.atBreak then
      cbor.skip
      pure fields
    else
      let fields ← decodeField cbor i fields
      decodeUntilBreak fuel (i + 1) fields

/-- Every field is mandatory. -/
def Fields.finish : Fields → Reader UInt8 LoraEnvelope
  | ⟨some version, some msgType, some seq, some timestampMs, some elapsedMs, some payload⟩ =>
    pure ⟨version, msgType, seq, timestampMs, elapsedMs, payload⟩
  | _ => fail

/-- The generated `Decode` of `LoraEnvelope`. -/
def decodeEnvelope : Reader UInt8 LoraEnvelope := do
  let fields ← match ← cbor.array with
    | some length => decodeFields cbor length 0 {}
    | none => do
      let left ← remaining
      decodeUntilBreak cbor (left + 1) 0 {}
  fields.finish

/-- `minicbor::decode::<LoraEnvelope>`: what follows the item is not looked at. -/
def decode (input : List UInt8) : Option LoraEnvelope :=
  ((decodeEnvelope cbor).run input).map Prod.fst

/-! ## The generated decoder delimits the generated encoding -/

theorem decodeMessageType_delimits (m : MessageType) :
    Delimits (decodeMessageType cbor) m.encode m := by
  unfold decodeMessageType MessageType.encode
  refine (cbor.array_delimits (by decide)).bind ?_
  rw [if_pos rfl]
  refine (cbor.i64_delimits (by cases m <;> decide)).bind ?_
  simp only [MessageType.ofIndex_index]
  exact cbor.skip_delimits_empty_array.bind_nil (delimits_pure m)

/-- The six turns of the loop over the encoding of `e`. -/
theorem decodeFields_delimits (e : LoraEnvelope) (fits : e.payload.length < 2 ^ 64) :
    Delimits (decodeFields cbor 6 0 {})
      (Cbor.unsigned e.version.toNat ++ (e.msgType.encode ++ (Cbor.unsigned e.seq.toNat ++
        (Cbor.unsigned e.timestampMs.toNat ++ (Cbor.unsigned e.elapsedMs.toNat ++
          Cbor.byteString e.payload)))))
      ⟨some e.version, some e.msgType, some e.seq, some e.timestampMs, some e.elapsedMs,
        some e.payload⟩ := by
  simp only [decodeFields, decodeField]
  refine ((cbor.u8_delimits e.version).map _).bind ?_
  refine ((decodeMessageType_delimits cbor e.msgType).map _).bind ?_
  refine ((cbor.u16_delimits e.seq).map _).bind ?_
  refine ((cbor.u32_delimits e.timestampMs).map _).bind ?_
  refine ((cbor.u32_delimits e.elapsedMs).map _).bind ?_
  exact ((cbor.bytes_delimits fits).map _).bind_nil (delimits_pure _)

/-- The generated decoder reads back what the generated encoder writes, and
nothing shorter. -/
theorem decodeEnvelope_delimits (e : LoraEnvelope) (fits : e.payload.length < 2 ^ 64) :
    Delimits (decodeEnvelope cbor) e.encode e := by
  unfold decodeEnvelope LoraEnvelope.encode
  refine (cbor.array_delimits (by decide)).bind ?_
  exact (decodeFields_delimits cbor e fits).bind_nil (delimits_pure e)

/-- `minicbor::decode` undoes `minicbor::encode`. -/
theorem decode_encode (e : LoraEnvelope) (fits : e.payload.length < 2 ^ 64) :
    decode cbor e.encode = some e := by
  rw [decode, (decodeEnvelope_delimits cbor e fits).reads_alone]
  rfl

end Minicbor

end HaviliarIot
