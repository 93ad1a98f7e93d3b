import Presidium.Demo.SymbolicJson
import Presidium.Lib.ByteStream
import Presidium.Network.Node

/-!
# The frames of `codec.rs`

A direct message travels as one frame: its length in four bytes, high byte
first, and its protobuf encoding.  Reader and writer have the same limit, and
the reader tests it before it allocates the buffer.

`readFrame_eq_ok_iff` says what the reader accepts: a frame within the limit,
followed by anything.  Everything else about frames follows from it.

prost is outside.  A `Prost` is what it generates for a message type.
-/

namespace Presidium.Network

open BigEndian (beBytes ofBeBytes)
open ReadHalf (allocate readExact)
open WriteHalf (writeAll close)
open Outcome (state)

/-- Maximum accepted frame size: 16 MiB. -/
def MAX_FRAME_SIZE : Nat := 16 * 1024 * 1024

/-! ## The functions -/

def readFrame : ReadM Bytes := do
  let lenBuf ← readExact 4
  let len := ofBeBytes lenBuf
  if len > MAX_FRAME_SIZE then
    throw (.invalidData "frame exceeds size limit")
  else
    allocate len
    readExact len

/-- The length is cut to its low 32 bits, as `as u32` does. -/
def writeFrame (bytes : Bytes) : WriteM Unit :=
  if bytes.length > MAX_FRAME_SIZE then
    throw (.invalidData "frame exceeds size limit")
  else do
    writeAll (beBytes 4 bytes.length)
    writeAll bytes
    close

/-- `Message::encode_to_vec` and `Message::decode`; a `DecodeError` is its
text. -/
structure Prost (α : Type) where
  encodeToVec : α → Bytes
  decode : Bytes → Except String α

/-- Decoding undoes encoding. -/
def Prost.RoundTrips {α : Type} (prost : Prost α) : Prop :=
  ∀ message, prost.decode (prost.encodeToVec message) = .ok message

section Messages

variable {α : Type}

def readMessage (prost : Prost α) (bad : String) : ReadM α := do
  let bytes ← readFrame
  match prost.decode bytes with
  | .ok message => pure message
  | .error e => throw (.invalidData (bad ++ e))

def writeMessage (prost : Prost α) (message : α) : WriteM Unit :=
  writeFrame (prost.encodeToVec message)

def readRequest (prost : Prost NetworkRequest) : ReadM NetworkRequest :=
  readMessage prost "bad request: "

def readResponse (prost : Prost NetworkResponse) : ReadM NetworkResponse :=
  readMessage prost "bad response: "

def writeRequest (prost : Prost NetworkRequest) (req : NetworkRequest) : WriteM Unit :=
  writeMessage prost req

def writeResponse (prost : Prost NetworkResponse) (res : NetworkResponse) : WriteM Unit :=
  writeMessage prost res

end Messages

/-! ## Frames -/

/-- The frame of a byte string. -/
def frame (bytes : Bytes) : Bytes := beBytes 4 bytes.length ++ bytes

theorem ofBeBytes_length {bytes : Bytes} (h : bytes.length ≤ MAX_FRAME_SIZE) :
    ofBeBytes (beBytes 4 bytes.length) = bytes.length := by
  apply BigEndian.ofBeBytes_beBytes
  unfold MAX_FRAME_SIZE at h
  omega

theorem writeFrame_eq (bytes : Bytes) (s : WriteHalf) :
    writeFrame bytes s =
      if bytes.length ≤ MAX_FRAME_SIZE then
        .ok () { written := s.written ++ frame bytes, closed := true }
      else .error (.invalidData "frame exceeds size limit") s := by
  unfold writeFrame
  by_cases hle : bytes.length ≤ MAX_FRAME_SIZE
  · rw [if_neg (Nat.not_lt.mpr hle), if_pos hle, frame, ← List.append_assoc]
    rfl
  · rw [if_pos (Nat.not_le.mp hle), if_neg hle]
    rfl

/-- The reader in one equation. -/
theorem readFrame_eq (s : ReadHalf) :
    readFrame s =
      match readExact 4 s with
      | .error e s₁ => .error e s₁
      | .ok lenBuf s₁ =>
        if ofBeBytes lenBuf > MAX_FRAME_SIZE then
          .error (.invalidData "frame exceeds size limit") s₁
        else
          readExact (ofBeBytes lenBuf)
            { s₁ with allocated := s₁.allocated + ofBeBytes lenBuf } := by
  unfold readFrame
  cases hlen : readExact 4 s with
  | error e s₁ => exact Outcome.bind_error hlen
  | ok lenBuf s₁ =>
    refine (Outcome.bind_ok hlen).trans ?_
    simp only
    split
    · rfl
    · exact Outcome.bind_ok rfl

theorem readFrame_frame {bytes : Bytes} (h : bytes.length ≤ MAX_FRAME_SIZE) (rest : Bytes)
    (allocated : Nat) :
    readFrame ⟨frame bytes ++ rest, allocated⟩ =
      .ok bytes ⟨rest, allocated + bytes.length⟩ := by
  have hlen := ReadHalf.readExact_append (beBytes 4 bytes.length) (bytes ++ rest) allocated
  rw [BigEndian.length_beBytes, ← List.append_assoc] at hlen
  rw [readFrame_eq, frame, hlen]
  simp only [ofBeBytes_length h, if_neg (Nat.not_lt.mpr h)]
  exact ReadHalf.readExact_append bytes rest _

/-- The reader takes exactly the frames within the limit. -/
theorem readFrame_eq_ok_iff {s s' : ReadHalf} {bytes : Bytes} :
    readFrame s = .ok bytes s' ↔
      bytes.length ≤ MAX_FRAME_SIZE ∧ s.unread = frame bytes ++ s'.unread ∧
        s'.allocated = s.allocated + bytes.length := by
  constructor
  · intro h
    rw [readFrame_eq] at h
    cases hlen : readExact 4 s with
    | error e s₁ =>
      rw [hlen] at h
      cases h
    | ok lenBuf s₁ =>
      obtain ⟨hfour, hunread, hallocated⟩ := ReadHalf.readExact_eq_ok hlen
      simp only [hlen] at h
      split at h
      next => cases h
      next hlimit =>
        obtain ⟨hlength, hunread', hallocated'⟩ := ReadHalf.readExact_eq_ok h
        -- the four bytes are the ones that the writer puts before this string
        have hlenBuf : beBytes 4 bytes.length = lenBuf := by
          rw [hlength, ← hfour]
          exact BigEndian.beBytes_ofBeBytes lenBuf
        simp only at hunread' hallocated'
        refine ⟨by omega, ?_, by omega⟩
        rw [hunread, hunread', frame, hlenBuf, List.append_assoc]
  · rintro ⟨hle, hunread, hallocated⟩
    obtain ⟨unread, allocated⟩ := s
    obtain ⟨unread', allocated'⟩ := s'
    simp only at hunread hallocated
    rw [hunread, hallocated]
    exact readFrame_frame hle unread' allocated

/-- Whatever the input, the buffer is within the limit. -/
theorem allocated_readFrame_le (s : ReadHalf) :
    (state (readFrame s)).allocated ≤ s.allocated + MAX_FRAME_SIZE := by
  have hkept := ReadHalf.allocated_readExact 4 s
  rw [readFrame_eq]
  cases hlen : readExact 4 s with
  | error e s₁ =>
    rw [hlen] at hkept
    show s₁.allocated ≤ s.allocated + MAX_FRAME_SIZE
    simp only [Outcome.state_error] at hkept
    omega
  | ok lenBuf s₁ =>
    rw [hlen] at hkept
    simp only [Outcome.state_ok] at hkept ⊢
    split
    next =>
      show s₁.allocated ≤ s.allocated + MAX_FRAME_SIZE
      omega
    next hlimit =>
      rw [ReadHalf.allocated_readExact]
      show s₁.allocated + ofBeBytes lenBuf ≤ s.allocated + MAX_FRAME_SIZE
      omega

/-- A frame that is cut off is refused. -/
theorem not_isOk_readFrame_of_cut {bytes cut missing : Bytes}
    (hcut : cut ++ missing = frame bytes) (hmissing : missing ≠ [])
    (hle : bytes.length ≤ MAX_FRAME_SIZE) (allocated : Nat) :
    ¬ Outcome.IsOk (readFrame ⟨cut, allocated⟩) := by
  intro hok
  obtain ⟨bytes', s', hrun⟩ := Outcome.isOk_iff.mp hok
  obtain ⟨hle', hunread, -⟩ := readFrame_eq_ok_iff.mp hrun
  have hwhole := readFrame_frame hle [] 0
  have hpart := readFrame_frame hle' (s'.unread ++ missing) 0
  -- both frames are read off the same string
  have hsame : frame bytes' ++ (s'.unread ++ missing) = frame bytes ++ [] := by
    rw [List.append_nil, ← hcut, ← List.append_assoc, ← hunread]
  rw [hsame, hwhole] at hpart
  have hrest := congrArg ReadHalf.unread (EStateM.Result.ok.inj hpart).2
  exact hmissing (List.append_eq_nil_iff.mp hrest.symm).2

/-- A length beyond the limit is refused. -/
theorem not_isOk_readFrame_of_length {input : Bytes} (hfour : 4 ≤ input.length)
    (hlength : MAX_FRAME_SIZE < ofBeBytes (input.take 4)) (allocated : Nat) :
    ¬ Outcome.IsOk (readFrame ⟨input, allocated⟩) := by
  have hlen : readExact 4 ⟨input, allocated⟩ = .ok (input.take 4) ⟨input.drop 4, allocated⟩ :=
    if_pos hfour
  rw [readFrame_eq, hlen]
  simp only [gt_iff_lt, hlength, if_true]
  exact id

/-- A message whose encoding fits is read as it was written. -/
theorem readMessage_writeMessage {α : Type} {prost : Prost α} (hprost : prost.RoundTrips)
    {message : α} (hle : (prost.encodeToVec message).length ≤ MAX_FRAME_SIZE) :
    ∃ s, writeMessage prost message .new = .ok () s ∧
      ∀ bad rest allocated, readMessage prost bad ⟨s.written ++ rest, allocated⟩ =
        .ok message ⟨rest, allocated + (prost.encodeToVec message).length⟩ := by
  refine ⟨_, (writeFrame_eq _ _).trans (if_pos hle), fun bad rest allocated => ?_⟩
  refine (Outcome.bind_ok (readFrame_frame hle rest allocated)).trans ?_
  simp only [hprost message]
  rfl

/-- Frames are written within the limit and read back, with nothing else
consumed; what is cut off or announces too much is refused; the buffer is
within the limit on every input; and requests and responses come back as they
were. -/
theorem framing_exact {requests : Prost NetworkRequest} {responses : Prost NetworkResponse}
    (hrequests : requests.RoundTrips) (hresponses : responses.RoundTrips) :
    (∀ b s, Outcome.IsOk (writeFrame b s) ↔ b.length ≤ MAX_FRAME_SIZE) ∧
      (∀ b s, writeFrame b .new = .ok () s →
        (∀ rest allocated, readFrame ⟨s.written ++ rest, allocated⟩ =
          .ok b ⟨rest, allocated + b.length⟩) ∧
        ∀ cut missing, cut ++ missing = s.written → missing ≠ [] →
          ∀ allocated, ¬ Outcome.IsOk (readFrame ⟨cut, allocated⟩)) ∧
      (∀ input : Bytes, 4 ≤ input.length → MAX_FRAME_SIZE < ofBeBytes (input.take 4) →
        ∀ allocated, ¬ Outcome.IsOk (readFrame ⟨input, allocated⟩)) ∧
      (∀ s, (state (readFrame s)).allocated ≤ s.allocated + MAX_FRAME_SIZE) ∧
      (∀ req, (requests.encodeToVec req).length ≤ MAX_FRAME_SIZE →
        ∃ s, writeRequest requests req .new = .ok () s ∧
          ∀ rest allocated, readRequest requests ⟨s.written ++ rest, allocated⟩ =
            .ok req ⟨rest, allocated + (requests.encodeToVec req).length⟩) ∧
      ∀ res, (responses.encodeToVec res).length ≤ MAX_FRAME_SIZE →
        ∃ s, writeResponse responses res .new = .ok () s ∧
          ∀ rest allocated, readResponse responses ⟨s.written ++ rest, allocated⟩ =
            .ok res ⟨rest, allocated + (responses.encodeToVec res).length⟩ := by
  refine ⟨?_, ?_, ?_, allocated_readFrame_le, ?_, ?_⟩
  · intro b s
    rw [writeFrame_eq]
    split <;> simp [*]
  · intro b s hrun
    rw [writeFrame_eq] at hrun
    split at hrun
    next hle =>
      cases hrun
      exact ⟨readFrame_frame hle, fun cut missing hcut hmissing =>
        not_isOk_readFrame_of_cut hcut hmissing hle⟩
    next => cases hrun
  · intro input hfour hlength
    exact not_isOk_readFrame_of_length hfour hlength
  · intro req hle
    obtain ⟨s, hwrite, hread⟩ := readMessage_writeMessage hrequests hle
    exact ⟨s, hwrite, hread _⟩
  · intro res hle
    obtain ⟨s, hwrite, hread⟩ := readMessage_writeMessage hresponses hle
    exact ⟨s, hwrite, hread _⟩

/-! ## A codec -/

/-- A self-delimiting codec in the place of prost. -/
def Prost.ofCodec {α : Type} (C : Codec α) : Prost α where
  encodeToVec := C.encode
  decode bytes :=
    match C.decode bytes with
    | some (message, []) => .ok message
    | _ => .error "invalid wire type"

theorem Prost.roundTrips_ofCodec {α : Type} (C : Codec α) : (Prost.ofCodec C).RoundTrips := by
  intro message
  have hdecode := C.decode_encode message []
  rw [List.append_nil] at hdecode
  simp only [Prost.ofCodec, hdecode]

/-- An integer as its sign and its size. -/
def integer : Codec Int :=
  (Sym.bool.prod Codec.nat).comap (fun i => (decide (0 ≤ i), i.natAbs))
    (fun x => some (if x.1 then (x.2 : Int) else -(x.2 : Int))) fun i => by
      have hsign : (if 0 ≤ i then (i.natAbs : Int) else -(i.natAbs : Int)) = i := by
        split <;> omega
      simp only [decide_eq_true_eq, hsign]

def networkEnvelope : Codec NetworkEnvelope :=
  (integer.prod (Codec.bytes.prod (Codec.bytes.prod (Sym.uint64.prod (Codec.bytes.prod
    (Codec.bytes.prod (Sym.uint32.prod (Codec.bytes.prod Codec.bytes)))))))).comap
    (fun x => (x.kind, x.conversationId, x.senderDeviceId, x.timestamp, x.encryptedPayload, x.mac,
      x.protocolVersion, x.nonce, x.signature))
    (fun x => some ⟨x.1, x.2.1, x.2.2.1, x.2.2.2.1, x.2.2.2.2.1, x.2.2.2.2.2.1, x.2.2.2.2.2.2.1,
      x.2.2.2.2.2.2.2.1, x.2.2.2.2.2.2.2.2⟩) fun _ => rfl

def networkRequest : Codec NetworkRequest :=
  networkEnvelope.option.comap NetworkRequest.envelope (fun x => some ⟨x⟩) fun _ => rfl

def networkResponse : Codec NetworkResponse :=
  (integer.prod Codec.bytes).comap (fun x => (x.status, x.ackId)) (fun x => some ⟨x.1, x.2⟩)
    fun _ => rfl

/-- The response of the test in `codec.rs`, with more bytes behind it. -/
theorem framing_exact_response :
    ∃ s, writeResponse (.ofCodec networkResponse) { status := 1, ackId := asBytes "conv-1" } .new =
        .ok () s ∧
      readResponse (.ofCodec networkResponse) ⟨s.written ++ [1, 2, 3], 0⟩ =
        .ok { status := 1, ackId := asBytes "conv-1" }
          ⟨[1, 2, 3], 0 + (networkResponse.encode ⟨1, asBytes "conv-1"⟩).length⟩ := by
  obtain ⟨-, -, -, -, -, hresponse⟩ := framing_exact (Prost.roundTrips_ofCodec networkRequest)
    (Prost.roundTrips_ofCodec networkResponse)
  obtain ⟨s, hwrite, hread⟩ := hresponse { status := 1, ackId := asBytes "conv-1" }
    (by decide +kernel)
  exact ⟨s, hwrite, hread [1, 2, 3] 0⟩

end Presidium.Network
