import Presidium.Demo.Session
import Presidium.Lib.Delimited

/-!
# The node's storage of the demo's `store.rs`

A node keeps three files in its directory: the salt of the database key, the
encrypted database, and `bundle.json` with the signed prekey and its private
part.  `Disk` is that directory.  A file that is not there is `none`.

`NodeStore.openDir` and `NodeStore.prekey` return the disk after the call,
since both write on first boot.  On an error they return none, because the
process ends there.  A restart is one more `openDir` and `prekey` on the disk
that the last process left, and `Booted` is what makes it harmless: a disk on
which both calls only read.
-/

namespace Presidium

variable {B : Nat → Type}

/-- Passphrase used to derive the database key (demo only). -/
def DEFAULT_PASSPHRASE : String := "presidium-demo-passphrase"

/-! ## The signed prekey -/

/-- The signed prekey with its private part, persisted as JSON. -/
structure PrekeyMaterial (B : Nat → Type) where
  keyId : UInt32
  publicKey : HybridKemPublicKey B
  privateClassical : B 32
  privatePq : Bytes
  signature : HybridSignature B
  timestamp : UInt64

namespace PrekeyMaterial

variable (P : Primitives B)

/-- A fresh signed prekey for the identity.  The signature covers the
classical half of the public key. -/
def generate (identity : IdentityKeyPair B) (drawn : HybridKemPrivateKey B) (now : Int) :
    PrekeyMaterial B :=
  let (publicKey, priv) := HybridKemPublicKey.generate P drawn
  { keyId := 1
    publicKey
    privateClassical := priv.classical
    privatePq := P.toVec priv.pq
    signature := identity.signHybrid P (P.toVec publicKey.classical)
    timestamp := UInt64.ofNat (max now 0).toNat }

/-- Rebuild the private key part; a stored seed of another size is a panic. -/
def privateKey (m : PrekeyMaterial B) : Except AppError (HybridKemPrivateKey B) :=
  match P.tryFrom ML_KEM_1024_PRIVATE_KEY_SIZE m.privatePq with
  | none => .error (.panic "stored pq seed has the canonical size")
  | some pq => .ok { classical := m.privateClassical, pq }

/-- Rebuild the signed prekey struct. -/
def signedPrekey (m : PrekeyMaterial B) : SignedPreKey B :=
  { keyId := m.keyId, publicKey := m.publicKey, signature := m.signature, timestamp := m.timestamp }

/-- The full bundle signed by the identity, without one-time prekeys. -/
def toBundle (m : PrekeyMaterial B) (identity : IdentityKeyPair B) : PreKeyBundle B :=
  .new P identity m.signedPrekey []

end PrekeyMaterial

/-! ## The directory -/

/-- The files of a node. -/
structure Disk (B : Nat → Type) where
  /-- `db.salt`. -/
  salt : Option Bytes
  /-- `presidium.db`, with the key that it was created under. -/
  db : Option (B 32 × Database)
  /-- `bundle.json`. -/
  bundle : Option Bytes

/-- A directory that no node has used. -/
def Disk.fresh : Disk B := { salt := none, db := none, bundle := none }

/-- The open database and the identity of a node. -/
structure NodeStore (B : Nat → Type) where
  db : Database
  identity : IdentityKeyPair B
  deviceId : String

/-- What one boot draws at random, and the clock. -/
structure BootDraws (B : Nat → Type) where
  salt : B ARGON2_SALT_SIZE
  identity : IdentityKeyPair B
  deviceId : B 16
  prekey : HybridKemPrivateKey B
  now : Int

/-- `random_hex_device_id`, for the bytes drawn. -/
def randomHexDeviceId (P : Primitives B) (drawn : B 16) : String := Hex.encode (P.toVec drawn)

/-- A hex string has no NUL byte, so the text binding of the database takes
it. -/
theorem noNul_hexEncode (b : Bytes) : 0 ∉ asBytes (Hex.encode b) := by
  have hdigits : ∀ n < 16, 0 ∉ String.utf8EncodeChar (Hex.digit n) := by decide
  unfold asBytes Hex.encode
  rw [String.toByteArray_ofList, List.utf8Encode]
  intro h
  rw [List.data_toByteArray] at h
  obtain ⟨c, hc, hzero⟩ := List.mem_flatMap.mp h
  obtain ⟨x, -, hc⟩ := List.mem_flatMap.mp hc
  obtain ⟨n, hn, rfl⟩ := Hex.mem_byte hc
  exact hdigits n hn hzero

namespace NodeStore

variable (P : Primitives B)

/-- The database key from the demo passphrase and the persisted salt, which is
written on first boot. -/
def dbKey (disk : Disk B) (drawn : B ARGON2_SALT_SIZE) :
    Except AppError (Disk B × B ARGON2_OUTPUT_SIZE) :=
  match disk.salt with
  | some bytes =>
    match P.tryFrom ARGON2_SALT_SIZE bytes with
    | none => .error (.message "stored salt has wrong size")
    | some salt => .ok (disk, P.argon2id (asBytes DEFAULT_PASSPHRASE) salt)
  | none =>
    .ok ({ disk with salt := some (P.toVec drawn) },
      P.argon2id (asBytes DEFAULT_PASSPHRASE) drawn)

/-- `Database::open`: a new file takes the key, an old one must have it. -/
def openDatabase [DecidableEq (B 32)] (disk : Disk B) (key : B 32) :
    Except AppError Database :=
  match disk.db with
  | none => .ok .empty
  | some (createdWith, db) =>
    if createdWith = key then .ok db
    else .error (.storage "open db" (.database "file is not a database"))

/-- Load the persisted identity, or generate and store a fresh one. -/
def loadOrCreateIdentity (db : Database) (draws : BootDraws B) :
    Except AppError (Database × IdentityKeyPair B × String) :=
  match db.loadIdentity with
  | some record =>
    match IdentityKeyPair.fromSeed P record.classicalSeed record.pqSeed with
    | .error e => .error (.crypto e)
    | .ok identity => .ok (db, identity, record.deviceId)
  | none =>
    let seeds := draws.identity.seeds P
    let deviceId := randomHexDeviceId P draws.deviceId
    match db.saveIdentity
        { deviceId, classicalSeed := seeds.1, pqSeed := seeds.2, createdAt := draws.now } with
    | .error e => .error (.storage "save identity" e)
    | .ok db => .ok (db, draws.identity, deviceId)

/-- `NodeStore::open`: open (creating if needed) the node database. -/
def openDir [DecidableEq (B 32)] (disk : Disk B) (draws : BootDraws B) :
    Except AppError (Disk B × NodeStore B) := do
  let (disk, key) ← dbKey P disk draws.salt
  let db ← openDatabase disk key
  let (db, identity, deviceId) ← loadOrCreateIdentity P db draws
  return ({ disk with db := some (key, db) }, { db, identity, deviceId })

variable [Serde (PrekeyMaterial B)]

/-- The persisted signed prekey, generated on first boot.  A file that is not
text counts as missing. -/
def prekey (store : NodeStore B) (disk : Disk B) (draws : BootDraws B) :
    Except AppError (Disk B × PrekeyMaterial B) :=
  match disk.bundle.bind fromUtf8 with
  | some text =>
    match Serde.fromSlice (asBytes text) with
    | none => .error (.context "parse stored bundle" .json)
    | some material => .ok (disk, material)
  | none =>
    let material := PrekeyMaterial.generate P store.identity draws.prekey draws.now
    .ok ({ disk with bundle := some (Serde.toVec material) }, material)

end NodeStore

/-! ## Restarts -/

section Boot

variable (P : Primitives B) [DecidableEq (B 32)] [Serde (PrekeyMaterial B)]

/-- One start of the node: open the store, then read or create the prekey. -/
def boot (disk : Disk B) (draws : BootDraws B) :
    Except AppError (Disk B × NodeStore B × PrekeyMaterial B) := do
  let (disk, store) ← NodeStore.openDir P disk draws
  let (disk, material) ← store.prekey P disk draws
  return (disk, store, material)

/-- The starts of a node, one after the other, each with its own draws; the
result is that of the last one. -/
def restarts (disk : Disk B) (store : NodeStore B) (material : PrekeyMaterial B) :
    List (BootDraws B) → Except AppError (Disk B × NodeStore B × PrekeyMaterial B)
  | [] => .ok (disk, store, material)
  | draws :: rest => do
    let (disk, store, material) ← boot P disk draws
    restarts disk store material rest

/-- The disk of a node that has booted with this identity and prekey. -/
structure Booted (disk : Disk B) (store : NodeStore B) (material : PrekeyMaterial B) : Prop where
  opens : ∀ draws, NodeStore.openDir P disk draws = .ok (disk, store)
  reads : ∀ draws, store.prekey P disk draws = .ok (disk, material)

variable {P} {disk : Disk B} {store : NodeStore B} {material : PrekeyMaterial B}

/-- A start on such a disk changes nothing and finds the same keys. -/
theorem Booted.boot (h : Booted P disk store material) (draws : BootDraws B) :
    boot P disk draws = .ok (disk, store, material) := by
  unfold Presidium.boot
  rw [h.opens]
  show (store.prekey P disk draws >>= _) = _
  rw [h.reads]
  rfl

theorem Booted.restarts (h : Booted P disk store material) (draws : List (BootDraws B)) :
    restarts P disk store material draws = .ok (disk, store, material) := by
  induction draws with
  | nil => rfl
  | cons d rest ih =>
    unfold Presidium.restarts
    rw [h.boot d]
    exact ih

end Boot

section FirstBoot

variable {P : Primitives B} [DecidableEq (B 32)] [Serde (PrekeyMaterial B)]

/-- The identity row of a node after its first boot. -/
def firstRecord (P : Primitives B) (draws : BootDraws B) : IdentityRecord :=
  { deviceId := randomHexDeviceId P draws.deviceId
    classicalSeed := (draws.identity.seeds P).1
    pqSeed := (draws.identity.seeds P).2
    createdAt := draws.now }

def firstPrekey (P : Primitives B) (draws : BootDraws B) : PrekeyMaterial B :=
  .generate P draws.identity draws.prekey draws.now

/-- The database of a node that first booted with `draws`.  Its other tables
may hold anything. -/
structure NodeDatabase (P : Primitives B) (draws : BootDraws B) where
  db : Database
  identity : db.identity = some (firstRecord P draws)

/-- The database right after the first boot. -/
def NodeDatabase.first (P : Primitives B) (draws : BootDraws B) : NodeDatabase P draws where
  db := { Database.empty with identity := some (firstRecord P draws) }
  identity := rfl

variable {draws : BootDraws B}

def NodeDatabase.store (node : NodeDatabase P draws) : NodeStore B :=
  { db := node.db
    identity := draws.identity
    deviceId := randomHexDeviceId P draws.deviceId }

/-- The directory of such a node. -/
def NodeDatabase.disk (node : NodeDatabase P draws) : Disk B :=
  { salt := some (P.toVec draws.salt)
    db := some (P.argon2id (asBytes DEFAULT_PASSPHRASE) draws.salt, node.db)
    bundle := some (Serde.toVec (firstPrekey P draws)) }

/-- The first boot, in a fresh directory. -/
theorem boot_fresh (draws : BootDraws B) :
    Presidium.boot P Disk.fresh draws =
      .ok ((NodeDatabase.first P draws).disk, (NodeDatabase.first P draws).store,
        firstPrekey P draws) := by
  have hbind : Database.bindText (randomHexDeviceId P draws.deviceId) = .ok () :=
    if_neg (noNul_hexEncode _)
  have hsave : Database.empty.saveIdentity (firstRecord P draws) =
      .ok (NodeDatabase.first P draws).db := by
    unfold Database.saveIdentity
    rw [show (firstRecord P draws).deviceId = randomHexDeviceId P draws.deviceId from rfl, hbind]
    rfl
  have hcreate : NodeStore.loadOrCreateIdentity P .empty draws =
      .ok ((NodeDatabase.first P draws).db, draws.identity,
        randomHexDeviceId P draws.deviceId) := by
    unfold NodeStore.loadOrCreateIdentity
    show (match Database.empty.saveIdentity (firstRecord P draws) with
      | .error e => _
      | .ok db => _) = _
    rw [hsave]
  have hopen : NodeStore.openDir P Disk.fresh draws =
      .ok ({ (NodeDatabase.first P draws).disk with bundle := none },
        (NodeDatabase.first P draws).store) := by
    show (NodeStore.loadOrCreateIdentity P .empty draws >>= _) = _
    rw [hcreate]
    rfl
  unfold Presidium.boot
  rw [hopen]
  rfl

/-- After the first boot every further one only reads. -/
theorem NodeDatabase.booted [LawfulSerde (PrekeyMaterial B)] (harrays : P.ArraysRoundTrip)
    (node : NodeDatabase P draws) : Booted P node.disk node.store (firstPrekey P draws) := by
  refine ⟨fun later => ?_, fun later => ?_⟩
  · have hkey : NodeStore.dbKey P node.disk later.salt =
        .ok (node.disk, P.argon2id (asBytes DEFAULT_PASSPHRASE) draws.salt) := by
      unfold NodeStore.dbKey NodeDatabase.disk
      simp only [harrays _ _]
    have hdb : NodeStore.openDatabase node.disk
        (P.argon2id (asBytes DEFAULT_PASSPHRASE) draws.salt) = .ok node.db :=
      if_pos rfl
    have hload : NodeStore.loadOrCreateIdentity P node.db later =
        .ok (node.db, draws.identity, randomHexDeviceId P draws.deviceId) := by
      unfold NodeStore.loadOrCreateIdentity Database.loadIdentity
      rw [node.identity]
      show (match IdentityKeyPair.fromSeed P (draws.identity.seeds P).1
          (draws.identity.seeds P).2 with
        | .error e => _
        | .ok identity => _) = _
      rw [IdentityKeyPair.fromSeed_seeds harrays]
      rfl
    unfold NodeStore.openDir
    rw [hkey]
    show (NodeStore.openDatabase node.disk _ >>= _) = _
    rw [hdb]
    show (NodeStore.loadOrCreateIdentity P node.db later >>= _) = _
    rw [hload]
    rfl
  · obtain ⟨text, htext⟩ := LawfulSerde.isText (firstPrekey P draws)
    have hread : node.disk.bundle.bind fromUtf8 = some text := by
      show fromUtf8 (Serde.toVec (firstPrekey P draws)) = some text
      rw [← htext, fromUtf8_asBytes]
    unfold NodeStore.prekey
    simp only [hread, htext, fromSlice_toVec]

/-- The directory in which a node with these draws starts, and what it draws
now: a fresh directory, or one that it has used before. -/
inductive StartsFrom (P : Primitives B) (draws : BootDraws B) : Disk B → BootDraws B → Prop
  | fresh : StartsFrom P draws Disk.fresh draws
  | used (node : NodeDatabase P draws) (now : BootDraws B) : StartsFrom P draws node.disk now

/-- Either way the node comes up with its own identity and prekey. -/
theorem StartsFrom.boot [LawfulSerde (PrekeyMaterial B)] (harrays : P.ArraysRoundTrip)
    {disk : Disk B} {now : BootDraws B} (h : StartsFrom P draws disk now) :
    ∃ node : NodeDatabase P draws,
      Presidium.boot P disk now = .ok (node.disk, node.store, firstPrekey P draws) := by
  cases h with
  | fresh => exact ⟨.first P draws, boot_fresh draws⟩
  | used node => exact ⟨node, (node.booted harrays).boot now⟩

end FirstBoot
end Presidium
