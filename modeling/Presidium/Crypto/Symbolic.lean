import Presidium.Crypto.Ratchet
import Presidium.Lib.Codec

/-!
# The symbolic primitives

An instance of `Primitives` in which every function is free.  A value is the
byte string of the term that made it: a tag for the function, then its
arguments, each one self-delimiting.  So two values are equal only when they
were made the same way, apart from the one equation of Diffie-Hellman, where
the two secrets are written in order.

The instance satisfies every law that the development states about the
crates.  It is where hypotheses are shown to be satisfiable and where a
concrete run is carried out.
-/

namespace Presidium

/-- Every array type is the type of byte strings. -/
abbrev Sym : Nat → Type := fun _ => Bytes

namespace Sym

/-- A byte string with its end marked. -/
def frame (b : Bytes) : Bytes := Codec.bytes.encode b

theorem frame_append_inj {a b r t : Bytes} (h : frame a ++ r = frame b ++ t) : a = b ∧ r = t :=
  Codec.bytes.encode_append_inj h

def saltBytes : Salt Sym → Bytes
  | .none => [0]
  | .key k => 1 :: k
  | .label s => 2 :: asBytes s

/-- The shared secret of two secret keys, written in order. -/
def agree (a b : Bytes) : Bytes :=
  if a ≤ b then 5 :: (frame a ++ b) else 5 :: (frame b ++ a)

/-- What is left of `c` behind `front`. -/
def strip (front c : Bytes) : Option Bytes :=
  if front = c.take front.length then some (c.drop front.length) else none

theorem strip_append (front rest : Bytes) : strip front (front ++ rest) = some rest := by
  simp [strip]

theorem strip_eq_some {front c rest : Bytes} (h : strip front c = some rest) :
    c = front ++ rest := by
  unfold strip at h
  split at h
  next hfront =>
    calc c = c.take front.length ++ c.drop front.length := (List.take_append_drop _ c).symm
      _ = front ++ rest := by rw [← hfront, Option.some.inj h]
  next => exact absurd h (by simp)

/-- What a ciphertext says of its key, nonce and associated data. -/
def sealing (k nonce aad : Bytes) : Bytes := frame k ++ frame nonce ++ frame aad

def primitives : Primitives Sym where
  toVec b := b
  tryFrom _ b := some b
  zeros n := List.replicate n 0
  hmacSha256 k info := 1 :: (frame k ++ asBytes info)
  hkdf salt ikm info _ := 2 :: (frame (saltBytes salt) ++ frame (asBytes info) ++
    Codec.bytes.list.encode ikm)
  sha256 b := 3 :: b
  argon2id passphrase salt := 15 :: (frame passphrase ++ salt)
  x25519Public a := 4 :: a
  diffieHellman a p :=
    match p with
    | [] => 6 :: frame a
    | t :: b => if t = 4 then agree a b else 6 :: (frame a ++ p)
  aeadEncrypt k nonce aad m := some (sealing k nonce aad ++ m)
  aeadDecrypt k nonce aad c := strip (sealing k nonce aad) c
  ed25519Public s := 7 :: s
  ed25519Sign s m := 8 :: (frame s ++ m)
  ed25519KeyValid p := p.head? == some 7
  ed25519Verify p m sig := sig == 8 :: (frame p.tail ++ m)
  mlDsaPublic s := 9 :: s
  mlDsaSign s m := 10 :: (frame s ++ m)
  mlDsaSignatureValid sig := sig.head? == some 10
  mlDsaVerify p m sig := sig == 10 :: (frame p.tail ++ m)
  mlKemPublic s := 11 :: s
  mlKemEncapsulate p coins :=
    if p.head? = some 11 then
      some (12 :: (frame p.tail ++ coins), 13 :: (frame p.tail ++ coins))
    else none
  mlKemDecapsulate s c :=
    match strip (12 :: frame s) c with
    | some coins => some (13 :: (frame s ++ coins))
    -- implicit rejection: a foreign ciphertext still gives a secret
    | none => some (14 :: (frame s ++ c))

/-! ## The laws -/

theorem arraysRoundTrip : primitives.ArraysRoundTrip := fun _ _ => rfl

theorem agree_comm (a b : Bytes) : agree a b = agree b a := by
  unfold agree
  by_cases hab : a ≤ b <;> by_cases hba : b ≤ a
  · rw [List.le_antisymm hab hba]
  · rw [if_pos hab, if_neg hba]
  · rw [if_neg hab, if_pos hba]
  · exact absurd (List.le_total a b) (by simp [hab, hba])

theorem dhCommutes : primitives.DhCommutes := agree_comm

theorem aeadRoundTrip : primitives.AeadRoundTrip := by
  intro k nonce aad m c h
  obtain rfl := Option.some.inj h
  exact strip_append _ m

theorem sealing_append_inj {k nonce aad k' nonce' aad' m m' : Bytes}
    (h : sealing k nonce aad ++ m = sealing k' nonce' aad' ++ m') :
    k = k' ∧ nonce = nonce' ∧ aad = aad' ∧ m = m' := by
  simp only [sealing, List.append_assoc] at h
  obtain ⟨hk, h⟩ := frame_append_inj h
  obtain ⟨hnonce, h⟩ := frame_append_inj h
  obtain ⟨haad, h⟩ := frame_append_inj h
  exact ⟨hk, hnonce, haad, h⟩

theorem aeadIdeal : primitives.AeadIdeal where
  sealed k nonce aad m c h := congrArg some (strip_eq_some h).symm
  inj k nonce aad m k' nonce' aad' m' c h h' := by
    obtain ⟨hk, hnonce, haad, -⟩ := sealing_append_inj (Option.some.inj (h.trans h'.symm))
    exact ⟨hk, hnonce, haad⟩

/-- A MAC is longer than its key, so the keys of a chain are all different. -/
theorem length_lt_hmacSha256 (key : Bytes) (info : String) :
    key.length < (primitives.hmacSha256 key info).length := by
  have hframe : key.length < (frame key).length := Codec.byte.length_lt_encodeList key
  show key.length < (1 :: (frame key ++ asBytes info)).length
  rw [List.length_cons, List.length_append]
  omega

theorem length_lt_hkdf (key : Bytes) (ikm : List Bytes) (info : String) (n : Nat) :
    key.length < (primitives.hkdf (.key key) ikm info n).length := by
  have hframe : (1 :: key).length < (frame (1 :: key)).length :=
    Codec.byte.length_lt_encodeList (1 :: key)
  show key.length < (2 :: (frame (1 :: key) ++ frame (asBytes info) ++ _)).length
  rw [List.length_cons] at hframe
  rw [List.length_cons, List.length_append, List.length_append]
  omega

theorem hmacSha256_inj {key key' : Bytes} {info : String}
    (h : primitives.hmacSha256 key info = primitives.hmacSha256 key' info) : key = key' :=
  (frame_append_inj (List.cons.inj h).2).1

theorem signaturesVerify : primitives.SignaturesVerify where
  ed25519Key _ := rfl
  ed25519 _ _ := beq_self_eq_true _
  mlDsaSignature _ _ := rfl
  mlDsa _ _ := beq_self_eq_true _

theorem kemRoundTrip : primitives.KemRoundTrip := by
  intro seed coins
  refine ⟨_, _, rfl, ?_⟩
  show (match strip (12 :: frame seed) (12 :: frame seed ++ coins) with
    | some coins => some (13 :: (frame seed ++ coins))
    | none => some (14 :: (frame seed ++ (12 :: frame seed ++ coins)))) = _
  rw [strip_append]
  rfl

theorem saltBytes_inj {s t : Salt Sym} (h : saltBytes s = saltBytes t) : s = t := by
  cases s <;> cases t <;> simp [saltBytes] at h ⊢
  · exact h
  · exact asBytes_inj h

theorem hkdf_inj {salt salt' : Salt Sym} {ikm ikm' : List Bytes} {info info' : String} {n : Nat}
    (h : primitives.hkdf salt ikm info n = primitives.hkdf salt' ikm' info' n) :
    salt = salt' ∧ ikm = ikm' ∧ info = info' := by
  have htail := (List.cons.inj h).2
  simp only [List.append_assoc] at htail
  obtain ⟨hsalt, htail⟩ := frame_append_inj htail
  obtain ⟨hinfo, hikm⟩ := frame_append_inj htail
  exact ⟨saltBytes_inj hsalt, Codec.encode_inj _ hikm, asBytes_inj hinfo⟩

theorem agree_inj {a b c d : Bytes} (h : agree a b = agree c d) :
    (a = c ∧ b = d) ∨ (b = c ∧ d = a) := by
  unfold agree at h
  split at h <;> split at h <;> obtain ⟨hleft, hright⟩ := frame_append_inj (List.cons.inj h).2
  · exact .inl ⟨hleft, hright⟩
  · exact .inr ⟨hright, hleft.symm⟩
  · exact .inr ⟨hleft, hright.symm⟩
  · exact .inl ⟨hright, hleft⟩

/-- A point is the public key of a secret, or there is no secret to it. -/
theorem diffieHellman_cases (a p : Bytes) :
    (∃ b, p = 4 :: b ∧ primitives.diffieHellman a p = agree a b) ∨
      primitives.diffieHellman a p = 6 :: (frame a ++ p) := by
  cases p with
  | nil =>
    right
    show 6 :: frame a = 6 :: (frame a ++ [])
    rw [List.append_nil]
  | cons t b =>
    show (∃ b', t :: b = 4 :: b' ∧ (if t = 4 then agree a b else 6 :: (frame a ++ t :: b)) =
      agree a b') ∨ (if t = 4 then agree a b else 6 :: (frame a ++ t :: b)) =
        6 :: (frame a ++ t :: b)
    by_cases ht : t = 4
    · left
      exact ⟨b, by rw [ht], if_pos ht⟩
    · right
      exact if_neg ht

/-- The tag of an agreed secret is not the tag of a foreign point. -/
theorem agree_ne (a b c : Bytes) : agree a b ≠ 6 :: c := by
  unfold agree
  split <;> simp

theorem diffieHellman_inj {a p b q : Bytes}
    (h : primitives.diffieHellman a p = primitives.diffieHellman b q) :
    (a = b ∧ p = q) ∨ (p = primitives.x25519Public b ∧ q = primitives.x25519Public a) := by
  rcases diffieHellman_cases a p with ⟨x, rfl, hx⟩ | hx <;>
    rcases diffieHellman_cases b q with ⟨y, rfl, hy⟩ | hy <;> rw [hx, hy] at h
  · rcases agree_inj h with ⟨rfl, rfl⟩ | ⟨rfl, rfl⟩
    · exact .inl ⟨rfl, rfl⟩
    · exact .inr ⟨rfl, rfl⟩
  · exact absurd h (agree_ne _ _ _)
  · exact absurd h.symm (agree_ne _ _ _)
  · exact .inl (frame_append_inj (List.cons.inj h).2)

theorem mlKem_inj {p coins c s seed c' : Bytes}
    (hencaps : primitives.mlKemEncapsulate p coins = some (c, s))
    (hdecaps : primitives.mlKemDecapsulate seed c' = some s) :
    p = primitives.mlKemPublic seed ∧ c' = c := by
  have hkey : p.head? = some 11 ∧ 12 :: (frame p.tail ++ coins) = c ∧
      13 :: (frame p.tail ++ coins) = s := by
    simpa [primitives] using hencaps
  obtain ⟨hhead, rfl, rfl⟩ := hkey
  obtain ⟨seed', rfl⟩ : ∃ seed', p = 11 :: seed' := by
    cases p with
    | nil => simp at hhead
    | cons t seed' => exact ⟨seed', by rw [Option.some.inj hhead]⟩
  cases hstrip : strip (12 :: frame seed) c' with
  | none =>
    -- the secret of an implicit rejection has a tag of its own
    simp [primitives, hstrip] at hdecaps
  | some coins' =>
    have hsecret : frame seed ++ coins' = frame seed' ++ coins := by
      simpa [primitives, hstrip] using hdecaps
    obtain ⟨rfl, rfl⟩ := frame_append_inj hsecret
    exact ⟨rfl, strip_eq_some hstrip⟩

theorem free : primitives.Free where
  hkdf _ _ _ _ _ _ _ := hkdf_inj
  diffieHellman _ _ _ _ := diffieHellman_inj
  mlKem _ _ _ _ _ _ := mlKem_inj

/-! ## Short values

The terms grow with every step of a run.  For long runs there is an instance
that keeps four bytes of each.  It depends on every argument as the other one
does, but it is not free. -/

/-- Four bytes of a term. -/
def digest (b : Bytes) : Bytes :=
  LittleEndian.leBytes 4 (b.foldl (fun h x => (h * 257 + x.toNat + 1) % 4294967291) 7)

/-- The first byte of a ciphertext is no marker of the handshake. -/
def hashed : Primitives Sym :=
  { primitives with
    hmacSha256 := fun k info => digest (primitives.hmacSha256 k info)
    hkdf := fun salt ikm info n => digest (primitives.hkdf salt ikm info n)
    sha256 := fun b => digest (primitives.sha256 b)
    diffieHellman := fun a p => digest (primitives.diffieHellman a p)
    aeadEncrypt := fun k nonce aad m => some (64 :: (digest (sealing k nonce aad) ++ m))
    aeadDecrypt := fun k nonce aad c => strip (64 :: digest (sealing k nonce aad)) c
    ed25519Sign := fun s m => digest (8 :: (frame s ++ m))
    ed25519Verify := fun p m sig => sig == digest (8 :: (frame p.tail ++ m))
    mlDsaSign := fun s m => 10 :: digest (frame s ++ m)
    mlDsaVerify := fun p m sig => sig == 10 :: digest (frame p.tail ++ m)
    mlKemEncapsulate := fun p coins =>
      (primitives.mlKemEncapsulate p coins).map fun out => (out.1, digest out.2)
    mlKemDecapsulate := fun s c => (primitives.mlKemDecapsulate s c).map digest }

theorem dhCommutes_hashed : hashed.DhCommutes := fun a b => congrArg digest (dhCommutes a b)

theorem aeadRoundTrip_hashed : hashed.AeadRoundTrip := by
  intro k nonce aad m c h
  obtain rfl := Option.some.inj h
  exact strip_append (64 :: digest (sealing k nonce aad)) m

theorem signaturesVerify_hashed : hashed.SignaturesVerify where
  ed25519Key _ := rfl
  ed25519 _ _ := beq_self_eq_true _
  mlDsaSignature _ _ := rfl
  mlDsa _ _ := beq_self_eq_true _

theorem kemRoundTrip_hashed : hashed.KemRoundTrip := by
  intro seed coins
  obtain ⟨c, s, hencaps, hdecaps⟩ := kemRoundTrip seed coins
  refine ⟨c, digest s, ?_, ?_⟩
  · show (primitives.mlKemEncapsulate (primitives.mlKemPublic seed) coins).map
      (fun out => (out.1, digest out.2)) = some (c, digest s)
    rw [hencaps]
    rfl
  · show (primitives.mlKemDecapsulate seed c).map digest = some (digest s)
    rw [hdecaps]
    rfl

/-! ## JSON -/

/-- A byte as two letters. -/
def letters (x : UInt8) : Bytes := [x / 16 + 65, x % 16 + 65]

/-- A byte string as text. -/
def toText (b : Bytes) : Bytes := b.flatMap letters

def fromText : Bytes → Bytes
  | high :: low :: rest => ((high - 65) * 16 + (low - 65)) :: fromText rest
  | _ => []

theorem fromText_toText (b : Bytes) : fromText (toText b) = b := by
  induction b with
  | nil => rfl
  | cons x b ih =>
    have hbyte : (x / 16 + 65 - 65) * 16 + (x % 16 + 65 - 65) = x := by
      have hlt := x.toNat_lt
      rw [UInt8.add_sub_cancel, UInt8.add_sub_cancel]
      apply UInt8.toNat_inj.mp
      simp
      omega
    show ((x / 16 + 65 - 65) * 16 + (x % 16 + 65 - 65)) :: fromText (toText b) = x :: b
    rw [hbyte, ih]

/-- In UTF-8 the first 128 characters are their own bytes. -/
theorem utf8EncodeChar_ascii {x : UInt8} (h : x.toNat < 128) :
    String.utf8EncodeChar (Char.ofNat x.toNat) = [x] := by
  have hvalid : x.toNat.isValidChar := Or.inl (by omega)
  have hchar : (Char.ofNat x.toNat).val = x.toUInt32 := by
    rw [Char.ofNat, dif_pos hvalid]
    rfl
  have hsize : (Char.ofNat x.toNat).utf8Size = 1 := by
    rw [Char.utf8Size_eq_one_iff, hchar]
    show x.toNat ≤ 127
    omega
  rw [String.utf8EncodeChar_eq_singleton hsize, hchar]
  simp

theorem asBytes_ascii {b : Bytes} (h : ∀ x ∈ b, x.toNat < 128) :
    asBytes (String.ofList (b.map fun x => Char.ofNat x.toNat)) = b := by
  have hflat : (b.map fun x => Char.ofNat x.toNat).flatMap String.utf8EncodeChar = b := by
    rw [List.flatMap_map]
    induction b with
    | nil => rfl
    | cons x b ih =>
      rw [List.flatMap_cons, utf8EncodeChar_ascii (h x List.mem_cons_self),
        ih fun y hy => h y (List.mem_cons_of_mem x hy)]
      rfl
  unfold asBytes
  rw [String.toByteArray_ofList, List.utf8Encode, hflat]
  simp

theorem toText_ascii (b : Bytes) : ∀ x ∈ toText b, x.toNat < 128 := by
  intro x hx
  obtain ⟨y, -, hy⟩ := List.mem_flatMap.mp hx
  have hlt := y.toNat_lt
  simp only [letters, List.mem_cons, List.not_mem_nil, or_false] at hy
  rcases hy with rfl | rfl <;> simp <;> omega

/-- A codec as a `Serde` instance. -/
@[reducible] def serde {α : Type} (C : Codec α) : Serde α where
  toVec x := toText (C.encode x)
  fromSlice b := (C.decode (fromText b)).map Prod.fst

theorem lawfulSerde {α : Type} (C : Codec α) : @LawfulSerde α (serde C) :=
  @LawfulSerde.mk α (serde C)
    (fun x => by
      have h := C.decode_encode x []
      rw [List.append_nil] at h
      show (C.decode (fromText (toText (C.encode x)))).map Prod.fst = some x
      rw [fromText_toText, h]
      rfl)
    (fun x => ⟨_, asBytes_ascii (toText_ascii (C.encode x))⟩)

def uint64 : Codec UInt64 :=
  Codec.nat.comap UInt64.toNat (fun n => some (UInt64.ofNat n)) fun x => by simp

def header : Codec (RatchetMessageHeader Sym) :=
  (Codec.bytes.prod (uint64.prod uint64)).comap
    (fun h => (h.dhPublicKey, h.messageNumber, h.previousMessageNumber))
    (fun x => some ⟨x.1, x.2.1, x.2.2⟩) fun _ => rfl

instance : Serde (RatchetMessageHeader Sym) := serde header

instance : LawfulSerde (RatchetMessageHeader Sym) := lawfulSerde header

end Sym
end Presidium
