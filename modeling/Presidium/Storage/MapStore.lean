import Mathlib.Data.String.Basic
import Presidium.Storage.Tables

/-!
# What the store is for

`MapStore` is the store without its tables: one map from keys to records for
each kind of record.  `refusal` says which calls the schema turns down, `next`
what a call does to the maps, and `Answers` what it returns.  Sessions are kept
as they are, not as JSON, and media kinds are kinds, not numbers.

`Represents` relates tables to maps.  One call keeps it and gives an answer that
the maps allow (`Represents.call`), so the answers of a whole run are those of
the maps (`Represents.explains`).  The order that a listing leaves open, among
conversations or media of the same time, is open in `Answers` too.
-/

namespace Presidium

open Table (Holds Lists)

variable {B : Nat → Type}

/-- The key of the index `idx_messages_uid`. -/
def MessageRecord.uid (m : MessageRecord) : String × Bytes := (m.conversationId, m.messageId)

/-- The key of `sender_keys`. -/
def SenderKeyRecord.member (r : SenderKeyRecord) : String × Bytes := (r.groupId, r.senderClassical)

/-- The texts that a call binds. -/
def StoreCall.texts : StoreCall B → List String
  | .saveIdentity record => [record.deviceId]
  | .loadIdentity => []
  | .upsertConversation record => [record.id]
  | .loadConversation id => [id]
  | .listConversations => []
  | .saveSession conversationId _ => [conversationId]
  | .loadSession conversationId => [conversationId]
  | .deleteSession conversationId => [conversationId]
  | .insertMessage record => [record.conversationId, record.header]
  | .listMessages conversationId _ _ => [conversationId]
  | .loadMessageByUid conversationId _ => [conversationId]
  | .updateMessageStatus _ _ => []
  | .upsertSenderKey record => [record.groupId]
  | .loadSenderKey groupId _ => [groupId]
  | .insertMedia record => [record.id, record.relativePath]
  | .loadMedia id => [id]
  | .listMediaForMessage _ => []
  | .saveDoc id _ _ => [id]
  | .loadDoc id => [id]
  | .deleteDoc id => [id]
  | .upsertDevice record => [record.deviceId]
  | .listDevices => []

/-- The store as maps from keys to records. -/
structure MapStore (B : Nat → Type) where
  identity : Option IdentityRecord
  conversation : String → Option ConversationRecord
  session : String → Option (SessionState B)
  message : String × Bytes → Option MessageRecord
  /-- The last row id that was given to a message. -/
  lastRowId : Int
  senderKey : String × Bytes → Option SenderKeyRecord
  media : String → Option MediaRecord
  doc : String → Option DocRow
  device : String → Option DeviceRecord

namespace MapStore

def empty : MapStore B :=
  { identity := none
    conversation := fun _ => none
    session := fun _ => none
    message := fun _ => none
    lastRowId := 0
    senderKey := fun _ => none
    media := fun _ => none
    doc := fun _ => none
    device := fun _ => none }

/-- There is a message with the row id. -/
def HasRow (m : MapStore B) (id : Int) : Prop := ∃ uid row, m.message uid = some row ∧ row.id = id

open Classical in
/-- The constraint of the schema that a call breaks. -/
noncomputable def broken (m : MapStore B) : StoreCall B → Option StorageError
  | .saveSession conversationId _ =>
    if (m.conversation conversationId).isSome then none
    else some (.database "FOREIGN KEY constraint failed")
  | .insertMessage record =>
    if (m.message record.uid).isSome then
      some (.database "UNIQUE constraint failed: messages.conversation_id, messages.message_id")
    else if (m.conversation record.conversationId).isSome then none
    else some (.database "FOREIGN KEY constraint failed")
  | .insertMedia record =>
    if (m.media record.id).isSome then some (.database "UNIQUE constraint failed: media.id")
    else if ∀ id, record.messageId = some id → m.HasRow id then none
    else some (.database "FOREIGN KEY constraint failed")
  | _ => none

theorem conversation_of_saveSession {m : MapStore B} {id : String} {state : SessionState B}
    (h : m.broken (.saveSession id state) = none) : (m.conversation id).isSome = true := by
  by_contra hnone
  rw [broken, if_neg hnone] at h
  cases h

theorem free_of_insertMessage {m : MapStore B} {record : MessageRecord}
    (h : m.broken (.insertMessage record) = none) :
    m.message record.uid = none ∧ (m.conversation record.conversationId).isSome = true := by
  simp only [broken] at h
  split_ifs at h with huid hconversation
  exact ⟨by simpa using huid, hconversation⟩

theorem free_of_insertMedia {m : MapStore B} {record : MediaRecord}
    (h : m.broken (.insertMedia record) = none) :
    m.media record.id = none ∧ ∀ id, record.messageId = some id → m.HasRow id := by
  simp only [broken] at h
  split_ifs at h with hid hmessage
  exact ⟨by simpa using hid, hmessage⟩

open Classical in
/-- The error of a call that is turned down. -/
noncomputable def refusal (m : MapStore B) (c : StoreCall B) : Option StorageError :=
  if ∀ text ∈ c.texts, Database.Bindable text then m.broken c
  else some (.database "text param contains a NUL byte")

theorem refusal_of_bindable {c : StoreCall B} (h : ∀ text ∈ c.texts, Database.Bindable text)
    (m : MapStore B) : m.refusal c = m.broken c := if_pos h

theorem refusal_of_unbindable {c : StoreCall B}
    (h : ¬ ∀ text ∈ c.texts, Database.Bindable text) (m : MapStore B) :
    m.refusal c = some (.database "text param contains a NUL byte") := if_neg h

/-- The maps after a call that is not turned down. -/
def next (m : MapStore B) : StoreCall B → MapStore B
  | .saveIdentity record =>
    { m with
      identity := some { record with
        createdAt := (m.identity.map IdentityRecord.createdAt).getD record.createdAt } }
  | .upsertConversation record =>
    { m with
      conversation := Function.update m.conversation record.id (some { record with
        createdAt := (m.conversation record.id).elim record.createdAt
          ConversationRecord.createdAt }) }
  | .saveSession conversationId state =>
    { m with session := Function.update m.session conversationId (some state) }
  | .deleteSession conversationId =>
    { m with session := Function.update m.session conversationId none }
  | .insertMessage record =>
    { m with
      message := Function.update m.message record.uid (some { record with id := m.lastRowId + 1 })
      lastRowId := m.lastRowId + 1 }
  | .updateMessageStatus id status =>
    { m with
      message := fun uid => (m.message uid).map fun r =>
        if r.id = id then { r with status } else r }
  | .upsertSenderKey record =>
    { m with senderKey := Function.update m.senderKey record.member (some record) }
  | .insertMedia record => { m with media := Function.update m.media record.id (some record) }
  | .saveDoc id ydocBytes now =>
    { m with doc := Function.update m.doc id (some { id, ydoc := ydocBytes, updatedAt := now }) }
  | .deleteDoc id => { m with doc := Function.update m.doc id none }
  | .upsertDevice record =>
    { m with device := Function.update m.device record.deviceId (some record) }
  -- the calls that only read
  | _ => m

/-- A page of a conversation: the newest messages before `beforeId`. -/
def Page (m : MapStore B) (conversationId : String) (beforeId : Option Int) (limit : Int)
    (page : List MessageRecord) : Prop :=
  ∃ all, Lists MessageRecord.uid m.message
      (fun r => r.conversationId = conversationId ∧ ∀ id, beforeId = some id → r.id < id) all ∧
    all.Pairwise (fun r r' => r'.id < r.id) ∧ page = Keyset.limited limit all

/-- The answers to a call that is not turned down. -/
def Answers (m : MapStore B) : StoreCall B → StoreAnswer B → Prop
  | .loadIdentity, a => a = .identity m.identity
  | .loadConversation id, a => a = .conversation (m.conversation id)
  | .listConversations, a => ∃ l, a = .conversations l ∧
      Lists ConversationRecord.id m.conversation (fun _ => True) l ∧
      l.Pairwise fun r r' => r'.createdAt ≤ r.createdAt
  | .loadSession conversationId, a => a = .session (m.session conversationId)
  | .insertMessage _, a => a = .rowId (m.lastRowId + 1)
  | .listMessages conversationId beforeId limit, a => ∃ l, a = .messages l ∧
      m.Page conversationId beforeId limit l
  | .loadMessageByUid conversationId messageId, a =>
    a = .message (m.message (conversationId, messageId))
  | .loadSenderKey groupId senderClassical, a =>
    a = .senderKey (m.senderKey (groupId, senderClassical))
  | .loadMedia id, a => a = .media (m.media id)
  | .listMediaForMessage messageId, a => ∃ l, a = .mediaList l ∧
      Lists MediaRecord.id m.media (fun r => r.messageId = some messageId) l ∧
      l.Pairwise fun r r' => r.createdAt ≤ r'.createdAt
  | .loadDoc id, a => a = .doc ((m.doc id).map DocRow.ydoc)
  | .listDevices, a => ∃ l, a = .devices l ∧
      Lists DeviceRecord.deviceId m.device (fun _ => True) l ∧
      l.Pairwise fun r r' => r.deviceId ≤ r'.deviceId
  | _, a => a = .done

/-- The maps after a call. -/
noncomputable def after (m : MapStore B) (c : StoreCall B) : MapStore B :=
  if (m.refusal c).isSome then m else m.next c

/-- The maps allow the result of a call. -/
def Allows (m : MapStore B) (c : StoreCall B) (result : Except StorageError (StoreAnswer B)) :
    Prop :=
  (∀ e, m.refusal c = some e → result = .error e) ∧
    (m.refusal c = none → ∃ a, result = .ok a ∧ m.Answers c a)

/-- The maps allow the results of a run, one call after the other. -/
def Explains : MapStore B → List (StoreCall B × Except StorageError (StoreAnswer B)) → Prop
  | _, [] => True
  | m, (c, result) :: rest => m.Allows c result ∧ Explains (m.after c) rest

end MapStore

/-! ## Tables that hold the maps -/

/-- An upsert sets one entry of the map.  What was there goes into `update`. -/
theorem holds_upsertBy {ρ κ : Type} [DecidableEq κ] {key : ρ → κ} {rows : List ρ}
    {f : κ → Option ρ} {k : κ} {same : ρ → Bool} {update : ρ → ρ} {row : ρ}
    (hsame : ∀ r, same r = decide (key r = k)) (hrow : key row = k)
    (hupdate : ∀ r, key (update r) = k) (h : Holds key rows f) :
    Holds key (upsertBy same update row rows)
      (Function.update f k (some ((f k).elim row update))) := by
  have hany : rows.any same = (f k).isSome := by
    rw [← h.any k]
    exact congrArg rows.any (funext hsame)
  unfold upsertBy
  cases hk : f k with
  | none =>
    rw [hany, hk, if_neg (by simp), ← hrow]
    exact h.concat (hrow ▸ hk)
  | some old =>
    rw [hany, hk, if_pos Option.isSome_some]
    have hkey : ∀ r, key (if same r = true then update r else r) = key r := by
      intro r
      by_cases hr : key r = k <;> simp [hsame, hr, hupdate]
    have hmap := h.map hkey
    refine ⟨hmap.keyed, hmap.view_eq.trans ?_⟩
    funext k'
    by_cases hk' : k' = k
    · subst hk'
      rw [Function.update_self, hk]
      simp [hsame, h.key_eq hk]
    · rw [Function.update_of_ne hk']
      cases hr : f k' with
      | none => rfl
      | some r =>
        have hother : key r ≠ k := fun heq => hk' ((h.key_eq hr).symm.trans heq)
        simp [hsame, hother]

/-- An upsert that writes every column. -/
theorem holds_replaceBy {ρ κ : Type} [DecidableEq κ] {key : ρ → κ} {rows : List ρ}
    {f : κ → Option ρ} {k : κ} {same : ρ → Bool} {row : ρ}
    (hsame : ∀ r, same r = decide (key r = k)) (hrow : key row = k) (h : Holds key rows f) :
    Holds key (upsertBy same (fun _ => row) row rows) (Function.update f k (some row)) := by
  have helim : (f k).elim row (fun _ => row) = row := by cases f k <;> rfl
  have hset : Holds key (upsertBy same (fun _ => row) row rows)
      (Function.update f k (some ((f k).elim row fun _ => row))) :=
    holds_upsertBy hsame hrow (fun _ => hrow) h
  rwa [helim] at hset

section Represents

variable [Serde (SessionKeys B)] [Serde (RatchetSnapshot B)]

/-- The tables have the entries of the maps. -/
structure Represents (t : Tables) (m : MapStore B) : Prop where
  identity : t.db.identity = m.identity
  conversations : Holds ConversationRecord.id t.db.conversations m.conversation
  sessions : Holds SessionRow.conversationId t.db.sessions fun id =>
    (m.session id).map (Database.sessionRow id)
  messages : Holds MessageRecord.uid t.db.messages m.message
  bounded : ∀ r ∈ t.db.messages, r.id ≤ t.db.lastRowId
  rowIds : (t.db.messages.map MessageRecord.id).Nodup
  lastRowId : t.db.lastRowId = m.lastRowId
  senderKeys : Holds SenderKeyRecord.member t.senderKeys m.senderKey
  media : Holds MediaRecord.id (t.media.map mediaFromRow) m.media
  docs : Holds DocRow.id t.docs m.doc
  devices : Holds DeviceRecord.deviceId t.devices m.device

theorem represents_empty : Represents Tables.empty (MapStore.empty : MapStore B) where
  identity := rfl
  conversations := Table.holds_nil
  sessions := Table.holds_nil
  messages := Table.holds_nil
  bounded := nofun
  rowIds := List.nodup_nil
  lastRowId := rfl
  senderKeys := Table.holds_nil
  media := Table.holds_nil
  docs := Table.holds_nil
  devices := Table.holds_nil

namespace Represents

variable {t : Tables} {m : MapStore B}

theorem sequenced (h : Represents t m) : t.db.Sequenced := ⟨h.bounded, h.rowIds⟩

theorem hasConversation (h : Represents t m) (id : String) :
    t.db.hasConversation id = (m.conversation id).isSome := h.conversations.any id

/-- A row id is found in the table when it is found in the map. -/
theorem any_id (h : Represents t m) (id : Int) :
    (t.db.messages.any fun r => r.id == id) = true ↔ m.HasRow id := by
  rw [List.any_eq_true]
  constructor
  · rintro ⟨r, hr, hid⟩
    exact ⟨r.uid, r, h.messages.mem_iff.mp hr, beq_iff_eq.mp hid⟩
  · rintro ⟨uid, r, hr, hid⟩
    refine ⟨r, h.messages.mem_iff.mpr ?_, beq_iff_eq.mpr hid⟩
    rw [h.messages.key_eq hr, hr]

/-! ## One call -/

/-- The result of a call is one that the maps allow, and the tables after it
have the entries of the maps after it. -/
def Simulates (t : Tables) (m : MapStore B) (c : StoreCall B) : Prop :=
  m.Allows c (t.answer c) ∧ Represents (t.after c) (m.after c)

theorem simulates_of_error {c : StoreCall B} {e : StorageError} (h : Represents t m)
    (hcall : t.call c = .error e) (hrefusal : m.refusal c = some e) : Simulates t m c := by
  refine ⟨⟨fun e' he' => ?_, fun hnone => ?_⟩, ?_⟩
  · rw [hrefusal] at he'
    rw [Tables.answer, hcall, Option.some.inj he']
    rfl
  · rw [hrefusal] at hnone
    cases hnone
  · rw [MapStore.after, hrefusal, if_pos Option.isSome_some]
    simpa only [Tables.after, hcall] using h

theorem simulates_of_ok {t' : Tables} {c : StoreCall B} {a : StoreAnswer B}
    (hcall : t.call c = .ok (t', a)) (hrefusal : m.refusal c = none) (hanswer : m.Answers c a)
    (h : Represents t' (m.next c)) : Simulates t m c := by
  refine ⟨⟨fun e he => ?_, fun _ => ⟨a, ?_, hanswer⟩⟩, ?_⟩
  · rw [hrefusal] at he
    cases he
  · rw [Tables.answer, hcall]
    rfl
  · rw [MapStore.after, hrefusal, if_neg (by simp)]
    simpa only [Tables.after, hcall] using h

/-- A text that cannot be bound is met before anything else. -/
theorem call_unbindable {c : StoreCall B} (h : ¬ ∀ text ∈ c.texts, Database.Bindable text)
    (t : Tables) : t.call c = .error (.database "text param contains a NUL byte") := by
  cases c with
  | loadIdentity | listConversations | updateMessageStatus | listMediaForMessage | listDevices =>
    exact absurd (by simp [StoreCall.texts]) h
  | insertMessage record =>
    simp only [Tables.call, Database.insertMessage]
    by_cases hid : Database.Bindable record.conversationId
    · have hheader : ¬ Database.Bindable record.header := by
        simpa [StoreCall.texts, hid] using h
      rw [Database.bindText_ok hid, Database.bindText_error hheader]
      rfl
    · rw [Database.bindText_error hid]
      rfl
  | insertMedia record =>
    simp only [Tables.call, Tables.insertMedia]
    by_cases hid : Database.Bindable record.id
    · have hpath : ¬ Database.Bindable record.relativePath := by
        simpa [StoreCall.texts, hid] using h
      rw [Database.bindText_ok hid, Database.bindText_error hpath]
      rfl
    · rw [Database.bindText_error hid]
      rfl
  | saveIdentity | upsertConversation | loadConversation | saveSession | loadSession
  | deleteSession | listMessages | loadMessageByUid | upsertSenderKey | loadSenderKey
  | loadMedia | saveDoc | loadDoc | deleteDoc | upsertDevice =>
    have hid := by simpa [StoreCall.texts] using h
    simp only [Tables.call, Database.saveIdentity, Database.upsertConversation,
      Database.loadConversation, Database.saveSession, Database.loadSession,
      Database.deleteSession, Database.listMessages, Database.loadMessageByUid,
      Tables.upsertSenderKey, Tables.loadSenderKey, Tables.loadMedia, Tables.saveDoc,
      Tables.loadDoc, Tables.deleteDoc, Tables.upsertDevice, Database.bindText_error hid]
    rfl

/-! ## The writing calls -/

theorem simulates_saveIdentity (h : Represents t m) {record : IdentityRecord}
    (hid : Database.Bindable record.deviceId)
    (hrefusal : m.refusal (.saveIdentity record) = none) :
    Simulates t m (.saveIdentity record) := by
  have hcall : t.call (.saveIdentity record : StoreCall B) =
      .ok ({ t with db := { t.db with identity := some { record with
        createdAt := (t.db.identity.map IdentityRecord.createdAt).getD record.createdAt } } },
        .done) := by
    simp only [Tables.call, Database.saveIdentity, Database.bindText_ok hid]
    rfl
  refine simulates_of_ok hcall hrefusal rfl { h with identity := ?_ }
  simp only [h.identity]
  rfl

theorem simulates_upsertConversation (h : Represents t m) {record : ConversationRecord}
    (hid : Database.Bindable record.id)
    (hrefusal : m.refusal (.upsertConversation record) = none) :
    Simulates t m (.upsertConversation record) := by
  have hcall : t.call (.upsertConversation record : StoreCall B) =
      .ok ({ t with db := t.db.withConversation record }, .done) := by
    simp only [Tables.call, Database.upsertConversation_ok hid]
    rfl
  have hrow : { record with
        createdAt := (m.conversation record.id).elim record.createdAt
          ConversationRecord.createdAt } =
      (m.conversation record.id).elim record fun c => { record with createdAt := c.createdAt } := by
    cases m.conversation record.id <;> rfl
  refine simulates_of_ok hcall hrefusal rfl { h with conversations := ?_ }
  simp only [MapStore.next, hrow]
  exact holds_upsertBy (fun _ => rfl) rfl (fun _ => rfl) h.conversations

/-- One entry of the maps is set, as a row. -/
theorem update_sessionRow (session : String → Option (SessionState B)) (id : String)
    (state : Option (SessionState B)) :
    (fun k => (Function.update session id state k).map (Database.sessionRow k)) =
      Function.update (fun k => (session k).map (Database.sessionRow k)) id
        (state.map (Database.sessionRow id)) :=
  funext (Function.apply_update (fun k o => Option.map (Database.sessionRow k) o) session id state)

theorem simulates_saveSession (h : Represents t m) {id : String} {state : SessionState B}
    (hid : Database.Bindable id) : Simulates t m (.saveSession id state) := by
  have hrefusal : m.refusal (.saveSession id state) = m.broken (.saveSession id state) :=
    MapStore.refusal_of_bindable (by simpa [StoreCall.texts]) m
  by_cases hconversation : t.db.hasConversation id = true
  · have hcall : t.call (.saveSession id state) =
        .ok ({ t with db := t.db.withSession (Database.sessionRow id state) }, .done) := by
      simp only [Tables.call, Database.saveSession_ok hid hconversation]
      rfl
    refine simulates_of_ok hcall ?_ rfl { h with sessions := ?_ }
    · rw [hrefusal, MapStore.broken, ← h.hasConversation, if_pos hconversation]
    · simp only [MapStore.next, update_sessionRow, Option.map_some]
      exact holds_replaceBy (fun _ => rfl) rfl h.sessions
  · have hcall : t.call (.saveSession id state) =
        .error (.database "FOREIGN KEY constraint failed") := by
      simp only [Tables.call, Database.saveSession, Database.checkForeignKey,
        Database.bindText_ok hid, if_neg hconversation]
      rfl
    refine simulates_of_error h hcall ?_
    rw [hrefusal, MapStore.broken, ← h.hasConversation, if_neg hconversation]

theorem simulates_deleteSession (h : Represents t m) {id : String}
    (hid : Database.Bindable id) (hrefusal : m.refusal (.deleteSession id) = none) :
    Simulates t m (.deleteSession id) := by
  have hcall : t.call (.deleteSession id : StoreCall B) =
      .ok ({ t with db := { t.db with
        sessions := t.db.sessions.filter fun r => r.conversationId ≠ id } }, .done) := by
    simp only [Tables.call, Database.deleteSession, Database.bindText_ok hid]
    rfl
  refine simulates_of_ok hcall hrefusal rfl { h with sessions := ?_ }
  simp only [MapStore.next, update_sessionRow, Option.map_none]
  exact h.sessions.filter_ne id

theorem same_uid (r : MessageRecord) (conversationId : String) (messageId : Bytes) :
    (r.conversationId == conversationId && r.messageId == messageId) =
      decide (r.uid = (conversationId, messageId)) := by
  rw [Bool.eq_iff_iff]
  simp [MessageRecord.uid]

theorem simulates_insertMessage (h : Represents t m) {record : MessageRecord}
    (hid : Database.Bindable record.conversationId) (hheader : Database.Bindable record.header) :
    Simulates t m (.insertMessage record) := by
  have hrefusal : m.refusal (.insertMessage record) = m.broken (.insertMessage record) :=
    MapStore.refusal_of_bindable (by simp [StoreCall.texts, hid, hheader]) m
  have hany : (t.db.messages.any fun r =>
      r.conversationId == record.conversationId && r.messageId == record.messageId) =
        (m.message record.uid).isSome := by
    simp only [same_uid]
    exact h.messages.any record.uid
  by_cases hknown : (m.message record.uid).isSome = true
  · have hcall : t.call (.insertMessage record : StoreCall B) = .error (.database
        "UNIQUE constraint failed: messages.conversation_id, messages.message_id") := by
      simp only [Tables.call, Database.insertMessage, Database.bindText_ok hid,
        Database.bindText_ok hheader, hany, hknown]
      rfl
    refine simulates_of_error h hcall ?_
    rw [hrefusal, MapStore.broken, if_pos hknown]
  · have hunknown : m.message record.uid = none := by simpa using hknown
    by_cases hconversation : t.db.hasConversation record.conversationId = true
    · have haccepts : t.db.Accepts record := by
        refine ⟨hid, hheader, fun r hr hsame => ?_, hconversation⟩
        have hrow := h.messages.mem_iff.mp hr
        rw [show r.uid = record.uid from Prod.ext hsame.1 hsame.2, hunknown] at hrow
        cases hrow
      have hcall : t.call (.insertMessage record : StoreCall B) =
          .ok ({ t with db := t.db.withMessage record }, .rowId (t.db.lastRowId + 1)) := by
        simp only [Tables.call, Database.insertMessage_ok haccepts]
        rfl
      have hseq := h.sequenced.withMessage record
      refine simulates_of_ok hcall ?_ ?_ { h with
        messages := ?_
        bounded := hseq.bounded
        rowIds := hseq.distinct
        lastRowId := ?_ }
      · rw [hrefusal, MapStore.broken, if_neg hknown, ← h.hasConversation, if_pos hconversation]
      · rw [h.lastRowId]
        rfl
      · simp only [MapStore.next, ← h.lastRowId]
        exact h.messages.concat hunknown
      · exact congrArg (· + 1) h.lastRowId
    · have hcall : t.call (.insertMessage record : StoreCall B) =
          .error (.database "FOREIGN KEY constraint failed") := by
        simp only [Tables.call, Database.insertMessage, Database.bindText_ok hid,
          Database.bindText_ok hheader, hany, hunknown, Database.checkForeignKey,
          if_neg hconversation]
        rfl
      refine simulates_of_error h hcall ?_
      rw [hrefusal, MapStore.broken, if_neg hknown, ← h.hasConversation, if_neg hconversation]

theorem simulates_updateMessageStatus (h : Represents t m) (id : Int) (status : MessageStatus) :
    Simulates t m (.updateMessageStatus id status) := by
  have hseq := h.sequenced.updateMessageStatus id status
  refine simulates_of_ok rfl (MapStore.refusal_of_bindable (by simp [StoreCall.texts]) m) rfl
    { h with
      messages := h.messages.map fun r => ?_
      bounded := hseq.bounded
      rowIds := hseq.distinct }
  split <;> rfl

theorem same_member (r : SenderKeyRecord) (groupId : String) (senderClassical : Bytes) :
    (r.groupId == groupId && r.senderClassical == senderClassical) =
      decide (r.member = (groupId, senderClassical)) := by
  rw [Bool.eq_iff_iff]
  simp [SenderKeyRecord.member]

theorem simulates_upsertSenderKey (h : Represents t m) {record : SenderKeyRecord}
    (hid : Database.Bindable record.groupId)
    (hrefusal : m.refusal (.upsertSenderKey record) = none) :
    Simulates t m (.upsertSenderKey record) := by
  have hcall : t.call (.upsertSenderKey record : StoreCall B) =
      .ok ({ t with
        senderKeys := upsertBy
          (fun r => r.groupId == record.groupId && r.senderClassical == record.senderClassical)
          (fun _ => record) record t.senderKeys }, .done) := by
    simp only [Tables.call, Tables.upsertSenderKey, Database.bindText_ok hid]
    rfl
  exact simulates_of_ok hcall hrefusal rfl { h with
    senderKeys := holds_replaceBy (fun r => same_member r _ _) rfl h.senderKeys }

/-- The test of the foreign key of `media`. -/
theorem checkMessageKey (h : Represents t m) (messageId : Option Int) :
    (messageId.all fun id => t.db.messages.any fun r => r.id == id) = true ↔
      ∀ id, messageId = some id → m.HasRow id := by
  cases messageId with
  | none => simp
  | some id =>
    rw [Option.all_some, h.any_id]
    simp

theorem simulates_insertMedia (h : Represents t m) {record : MediaRecord}
    (hid : Database.Bindable record.id) (hpath : Database.Bindable record.relativePath) :
    Simulates t m (.insertMedia record) := by
  have hrefusal : m.refusal (.insertMedia record) = m.broken (.insertMedia record) :=
    MapStore.refusal_of_bindable (by simp [StoreCall.texts, hid, hpath]) m
  have hany : (t.media.any fun r => r.id == record.id) = (m.media record.id).isSome := by
    rw [← h.media.any record.id, List.any_map]
    rfl
  by_cases hknown : (m.media record.id).isSome = true
  · have hcall : t.call (.insertMedia record : StoreCall B) =
        .error (.database "UNIQUE constraint failed: media.id") := by
      simp only [Tables.call, Tables.insertMedia, Database.bindText_ok hid,
        Database.bindText_ok hpath, hany, hknown]
      rfl
    refine simulates_of_error h hcall ?_
    rw [hrefusal, MapStore.broken, if_pos hknown]
  · have hunknown : m.media record.id = none := by simpa using hknown
    by_cases hmessage : (record.messageId.all fun id =>
        t.db.messages.any fun r => r.id == id) = true
    · have hcall : t.call (.insertMedia record : StoreCall B) =
          .ok ({ t with media := t.media ++ [record.toRow] }, .done) := by
        simp only [Tables.call, Tables.insertMedia, Database.bindText_ok hid,
          Database.bindText_ok hpath, hany, hunknown, Tables.checkMessageKey, if_pos hmessage]
        rfl
      refine simulates_of_ok hcall ?_ rfl { h with media := ?_ }
      · rw [hrefusal, MapStore.broken, if_neg hknown,
          if_pos ((h.checkMessageKey record.messageId).mp hmessage)]
      · show Holds MediaRecord.id ((t.media ++ [record.toRow]).map mediaFromRow) _
        rw [List.map_append, List.map_singleton, mediaFromRow_toRow]
        exact h.media.concat hunknown
    · have hcall : t.call (.insertMedia record : StoreCall B) =
          .error (.database "FOREIGN KEY constraint failed") := by
        simp only [Tables.call, Tables.insertMedia, Database.bindText_ok hid,
          Database.bindText_ok hpath, hany, hunknown, Tables.checkMessageKey, if_neg hmessage]
        rfl
      refine simulates_of_error h hcall ?_
      rw [hrefusal, MapStore.broken, if_neg hknown,
        if_neg (mt (h.checkMessageKey record.messageId).mpr hmessage)]

theorem simulates_saveDoc (h : Represents t m) {id : String} {ydocBytes : Bytes} {now : Int}
    (hid : Database.Bindable id) (hrefusal : m.refusal (.saveDoc id ydocBytes now) = none) :
    Simulates t m (.saveDoc id ydocBytes now) := by
  have hcall : t.call (.saveDoc id ydocBytes now : StoreCall B) =
      .ok ({ t with
        docs := upsertBy (fun r => r.id == id) (fun _ => { id, ydoc := ydocBytes, updatedAt := now })
          { id, ydoc := ydocBytes, updatedAt := now } t.docs }, .done) := by
    simp only [Tables.call, Tables.saveDoc, Database.bindText_ok hid]
    rfl
  exact simulates_of_ok hcall hrefusal rfl { h with
    docs := holds_replaceBy (fun _ => rfl) rfl h.docs }

theorem simulates_deleteDoc (h : Represents t m) {id : String} (hid : Database.Bindable id)
    (hrefusal : m.refusal (.deleteDoc id) = none) : Simulates t m (.deleteDoc id) := by
  have hcall : t.call (.deleteDoc id : StoreCall B) =
      .ok ({ t with docs := t.docs.filter fun r => r.id ≠ id }, .done) := by
    simp only [Tables.call, Tables.deleteDoc, Database.bindText_ok hid]
    rfl
  exact simulates_of_ok hcall hrefusal rfl { h with docs := h.docs.filter_ne id }

theorem simulates_upsertDevice (h : Represents t m) {record : DeviceRecord}
    (hid : Database.Bindable record.deviceId)
    (hrefusal : m.refusal (.upsertDevice record) = none) :
    Simulates t m (.upsertDevice record) := by
  have hcall : t.call (.upsertDevice record : StoreCall B) =
      .ok ({ t with
        devices := upsertBy (fun r => r.deviceId == record.deviceId) (fun _ => record) record
          t.devices }, .done) := by
    simp only [Tables.call, Tables.upsertDevice, Database.bindText_ok hid]
    rfl
  exact simulates_of_ok hcall hrefusal rfl { h with
    devices := holds_replaceBy (fun _ => rfl) rfl h.devices }

/-! ## The reading calls -/

/-- A call that only reads, with the answer it gives. -/
theorem simulates_read (h : Represents t m) {c : StoreCall B} {a : StoreAnswer B}
    (hcall : t.call c = .ok (t, a)) (hrefusal : m.refusal c = none) (hnext : m.next c = m)
    (hanswer : m.Answers c a) : Simulates t m c :=
  simulates_of_ok hcall hrefusal hanswer (by rwa [hnext])

theorem simulates_loadSession [LawfulSerde (SessionKeys B)] [LawfulSerde (RatchetSnapshot B)]
    (h : Represents t m) {id : String} (hid : Database.Bindable id)
    (hrefusal : m.refusal (.loadSession id) = none) : Simulates t m (.loadSession id) := by
  have hfind : (t.db.sessions.find? fun row => row.conversationId == id) =
      (m.session id).map (Database.sessionRow id) := h.sessions.find? id
  refine simulates_read h ?_ hrefusal rfl rfl
  simp only [Tables.call, Database.loadSession, Database.bindText_ok hid, hfind]
  cases m.session id with
  | none => rfl
  | some state =>
    simp only [Option.map_some]
    rw [Database.readSession_sessionRow]
    rfl

theorem simulates_listMessages (h : Represents t m) {id : String} {beforeId : Option Int}
    {limit : Int} (hid : Database.Bindable id)
    (hrefusal : m.refusal (.listMessages id beforeId limit) = none) :
    Simulates t m (.listMessages id beforeId limit) := by
  have hcall : t.call (.listMessages id beforeId limit : StoreCall B) =
      .ok (t, .messages (Keyset.limited limit
        (Keyset.newestFirst MessageRecord.id (t.db.held id beforeId)))) := by
    simp only [Tables.call, Database.listMessages_eq hid]
    rfl
  refine simulates_read h hcall hrefusal rfl
    ⟨_, rfl, Keyset.newestFirst MessageRecord.id (t.db.held id beforeId), ?_, ?_, rfl⟩
  · refine h.messages.lists (fun r => ?_) (Keyset.newestFirst_perm _ _)
    cases beforeId with
    | none => simp
    | some before => simp
  · exact Keyset.strict_newestFirst (h.sequenced.held id beforeId)

theorem simulates_listMediaForMessage (h : Represents t m) (id : Int) :
    Simulates t m (.listMediaForMessage id) := by
  refine simulates_read h rfl (MapStore.refusal_of_bindable (by simp [StoreCall.texts]) m) rfl
    ⟨_, rfl, ?_, ?_⟩
  · refine h.media.lists (p := fun r => r.messageId == some id) (by simp) ?_
    rw [List.filter_map]
    exact (List.mergeSort_perm _ _).map mediaFromRow
  · rw [Tables.listMediaForMessage, List.pairwise_map]
    exact Table.pairwise_mergeSort_key MediaRow.createdAt (fun _ _ => decide_eq_true_iff) _

/-- A call keeps the relation, and its result is one that the maps allow. -/
theorem call [LawfulSerde (SessionKeys B)] [LawfulSerde (RatchetSnapshot B)]
    (h : Represents t m) (c : StoreCall B) : Simulates t m c := by
  by_cases hbind : ∀ text ∈ c.texts, Database.Bindable text
  · have hrefusal := MapStore.refusal_of_bindable hbind m
    cases c with
    | saveIdentity record =>
      exact simulates_saveIdentity h (hbind _ List.mem_cons_self) hrefusal
    | loadIdentity => exact simulates_read h rfl hrefusal rfl (congrArg _ h.identity)
    | upsertConversation record =>
      exact simulates_upsertConversation h (hbind _ List.mem_cons_self) hrefusal
    | loadConversation id =>
      refine simulates_read h ?_ hrefusal rfl rfl
      simp only [Tables.call, Database.loadConversation,
        Database.bindText_ok (hbind _ List.mem_cons_self), ← h.conversations.find? id]
      rfl
    | listConversations =>
      refine simulates_read h rfl hrefusal rfl ⟨_, rfl, ?_, ?_⟩
      · exact h.conversations.lists_all (List.mergeSort_perm _ _)
      · exact Keyset.pairwise_newestFirst ConversationRecord.createdAt _
    | saveSession id state => exact simulates_saveSession h (hbind _ List.mem_cons_self)
    | loadSession id => exact simulates_loadSession h (hbind _ List.mem_cons_self) hrefusal
    | deleteSession id => exact simulates_deleteSession h (hbind _ List.mem_cons_self) hrefusal
    | insertMessage record =>
      exact simulates_insertMessage h (hbind _ List.mem_cons_self)
        (hbind _ (List.mem_cons_of_mem _ List.mem_cons_self))
    | listMessages id beforeId limit =>
      exact simulates_listMessages h (hbind _ List.mem_cons_self) hrefusal
    | loadMessageByUid id messageId =>
      refine simulates_read h ?_ hrefusal rfl rfl
      simp only [Tables.call, Database.loadMessageByUid, same_uid,
        Database.bindText_ok (hbind _ List.mem_cons_self), h.messages.find? (id, messageId)]
      rfl
    | updateMessageStatus id status => exact simulates_updateMessageStatus h id status
    | upsertSenderKey record =>
      exact simulates_upsertSenderKey h (hbind _ List.mem_cons_self) hrefusal
    | loadSenderKey id sender =>
      refine simulates_read h ?_ hrefusal rfl rfl
      simp only [Tables.call, Tables.loadSenderKey, same_member,
        Database.bindText_ok (hbind _ List.mem_cons_self), h.senderKeys.find? (id, sender)]
      rfl
    | insertMedia record =>
      exact simulates_insertMedia h (hbind _ List.mem_cons_self)
        (hbind _ (List.mem_cons_of_mem _ List.mem_cons_self))
    | loadMedia id =>
      refine simulates_read h ?_ hrefusal rfl rfl
      simp only [Tables.call, Tables.loadMedia,
        Database.bindText_ok (hbind _ List.mem_cons_self), ← h.media.find? id, List.find?_map]
      rfl
    | listMediaForMessage id => exact simulates_listMediaForMessage h id
    | saveDoc id ydocBytes now =>
      exact simulates_saveDoc h (hbind _ List.mem_cons_self) hrefusal
    | loadDoc id =>
      refine simulates_read h ?_ hrefusal rfl rfl
      simp only [Tables.call, Tables.loadDoc,
        Database.bindText_ok (hbind _ List.mem_cons_self), ← h.docs.find? id]
      rfl
    | deleteDoc id => exact simulates_deleteDoc h (hbind _ List.mem_cons_self) hrefusal
    | upsertDevice record =>
      exact simulates_upsertDevice h (hbind _ List.mem_cons_self) hrefusal
    | listDevices =>
      refine simulates_read h rfl hrefusal rfl ⟨_, rfl, ?_, ?_⟩
      · exact h.devices.lists_all (List.mergeSort_perm _ _)
      · exact Table.pairwise_mergeSort_key DeviceRecord.deviceId (fun _ _ => decide_eq_true_iff) _
  · exact simulates_of_error h (call_unbindable hbind t) (MapStore.refusal_of_unbindable hbind m)

end Represents

/-! ## Whole runs -/

/-- The calls of a run with their results. -/
def Tables.history : Tables → List (StoreCall B) →
    List (StoreCall B × Except StorageError (StoreAnswer B))
  | _, [] => []
  | t, c :: calls => (c, t.answer c) :: history (t.after c) calls

/-- The maps after a run. -/
noncomputable def MapStore.run (m : MapStore B) (calls : List (StoreCall B)) : MapStore B :=
  calls.foldl MapStore.after m

variable [LawfulSerde (SessionKeys B)] [LawfulSerde (RatchetSnapshot B)]

theorem Represents.run {t : Tables} {m : MapStore B} (h : Represents t m)
    (calls : List (StoreCall B)) :
    Represents ((Tables.machine B).run t calls) (m.run calls) := by
  induction calls generalizing t m with
  | nil => exact h
  | cons c calls ih => exact ih (h.call c).2

theorem Represents.explains {t : Tables} {m : MapStore B} (h : Represents t m)
    (calls : List (StoreCall B)) : m.Explains (t.history calls) := by
  induction calls generalizing t m with
  | nil => trivial
  | cons c calls ih =>
    obtain ⟨hallows, hafter⟩ := h.call c
    exact ⟨hallows, ih hafter⟩

end Represents
end Presidium
