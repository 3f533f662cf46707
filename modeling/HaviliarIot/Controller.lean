import HaviliarIot.Frame

/-!
`controller/lora.rs`: the two send paths and the receive path of `LoraController`.

The radio driver is the environment: what it reports for one call is an argument.
A send reports the bytes handed to `Lora::send`, if it got that far, with the
result the caller sees.
-/

namespace HaviliarIot

/-- `lora_phy`'s `RadioError`; the controller itself only ever makes `Irq`. -/
inductive RadioError where
  | Irq
  | driver (code : Nat)
  deriving DecidableEq, Repr

/-- `lora_phy`'s `PacketStatus`. -/
structure PacketStatus where
  rssi : Int16
  snr : Int16
  deriving DecidableEq, Repr

/-- One call of a send path. -/
structure SendReport where
  /-- What `Lora::send` was given. -/
  handed : Option (List UInt8)
  result : Except RadioError Unit
  deriving DecidableEq

namespace LoraController

/-- The tail both send paths share: `driver` is what `Lora::send` answers. -/
def sendFrame (driver : Except RadioError Unit) : Option (OutgoingFrame payloadLength) → SendReport
  | some outgoing => ⟨some outgoing.asSlice, driver⟩
  | none => ⟨none, .error .Irq⟩

/-- `LoraController::send_message`: the envelope is rebuilt from its fields. -/
def sendMessage (driver : Except RadioError Unit) (msgType : MessageType) (sequence : UInt16)
    (timestampMs elapsedMs : UInt32) (payload : List UInt8) : SendReport :=
  sendFrame driver
    (LoraParser.encodeEnvelope payloadLength msgType sequence timestampMs elapsedMs payload)

/-- `LoraController::send_message_envelope`. -/
def sendMessageEnvelope (driver : Except RadioError Unit) (envelope : LoraEnvelope) : SendReport :=
  sendFrame driver envelope.intoOutgoing

/-- `LoraController::receive_message`; `driver` is what `Lora::receive` answers,
with the filled part of the buffer. -/
def receiveMessage (cbor : Minicbor) (driver : Except RadioError (List UInt8 × PacketStatus)) :
    Except RadioError (LoraEnvelope × PacketStatus) :=
  match driver with
  | .ok (received, status) =>
    if received.length > 0 then
      match LoraParser.decodeEnvelope cbor received with
      | some decoded => .ok (decoded, status)
      | none => .error .Irq
    else .error .Irq
  | .error e => .error e

variable {driver : Except RadioError Unit} {e : LoraEnvelope}

/-- An envelope that does not fit is refused before the radio sees anything. -/
theorem sendMessageEnvelope_refused (large : e.intoOutgoing = none) :
    sendMessageEnvelope driver e = ⟨none, .error .Irq⟩ := by
  rw [sendMessageEnvelope, large]
  rfl

/-- An envelope that fits reaches the radio, framed, and the driver decides. -/
theorem sendMessageEnvelope_fits (fits : e.intoOutgoing.isSome) :
    sendMessageEnvelope driver e = ⟨some (OutgoingFrame.framed e), driver⟩ := by
  obtain ⟨frame, accepted⟩ := Option.isSome_iff_exists.mp fits
  rw [sendMessageEnvelope, accepted, sendFrame, OutgoingFrame.asSlice_of_new accepted]

/-- A driver error is reported, whether or not the envelope fits. -/
theorem result_of_driver_error (e : LoraEnvelope) :
    (sendMessageEnvelope (.error .Irq) e).result = .error .Irq := by
  cases outgoing : e.intoOutgoing with
  | none => rw [sendMessageEnvelope_refused outgoing]
  | some frame => rw [sendMessageEnvelope_fits (Option.isSome_iff_exists.mpr ⟨frame, outgoing⟩)]

/-- A send that succeeded was of an envelope that fits. -/
theorem fits_of_sent (sent : (sendMessageEnvelope driver e).result = .ok ()) :
    e.intoOutgoing.isSome := by
  cases outgoing : e.intoOutgoing with
  | none =>
    rw [sendMessageEnvelope_refused outgoing] at sent
    cases sent
  | some frame => rfl

/-- Rebuilding an envelope of this protocol version from its fields changes
nothing, so both send paths do the same. -/
theorem sendMessage_rebuilt (current : e.version = protocolVersion) :
    sendMessage driver e.msgType e.seq e.timestampMs e.elapsedMs e.payload =
      sendMessageEnvelope driver e := by
  obtain ⟨version, msgType, seq, timestampMs, elapsedMs, payload⟩ := e
  cases current
  rfl

/-- The frame of an envelope that fits decodes to it. -/
theorem decodeEnvelope_of_fits (cbor : Minicbor) (fits : e.intoOutgoing.isSome) :
    LoraParser.decodeEnvelope cbor (OutgoingFrame.framed e) = some e := by
  obtain ⟨frame, accepted⟩ := Option.isSome_iff_exists.mp fits
  have decoded := decodeEnvelope_framed cbor (encode_lt_of_new accepted) []
  rwa [List.append_nil] at decoded

/-- Receiving a frame this controller sent gives the envelope back. -/
theorem receiveMessage_framed (cbor : Minicbor) (fits : e.intoOutgoing.isSome)
    (status : PacketStatus) :
    receiveMessage cbor (.ok (OutgoingFrame.framed e, status)) = .ok (e, status) := by
  have nonempty : 0 < (OutgoingFrame.framed e).length := by
    rw [OutgoingFrame.framed_length]
    omega
  simp only [receiveMessage, gt_iff_lt, if_pos nonempty, decodeEnvelope_of_fits cbor fits]

end LoraController

end HaviliarIot
