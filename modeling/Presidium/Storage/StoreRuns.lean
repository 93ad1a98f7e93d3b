import Presidium.Demo.SymbolicJson
import Presidium.Storage.MapStore

/-!
# Runs of the store

Any calls, in any order, on a new database.  `store_refines_maps` says that the
caller cannot tell the tables from maps.  The other results are about the maps
first and come down to the tables from there: `Linked` are the foreign keys, and
`message_after` is what one call can do to a message.

* `store_intact`: keys stay unique, references stay valid, and every session
  that is stored can be read.
* `message_kept`: a message that was taken stays, with its row id and its
  contents, under the last status that was written for it.
-/

namespace Presidium

variable {B : Nat → Type}

namespace MapStore

/-! ## Foreign keys -/

/-- Every reference leads to an entry. -/
structure Linked (m : MapStore B) : Prop where
  session : ∀ id, (m.session id).isSome → (m.conversation id).isSome
  message : ∀ uid r, m.message uid = some r → (m.conversation r.conversationId).isSome
  media : ∀ id r row, m.media id = some r → r.messageId = some row → m.HasRow row

theorem linked_empty : (empty : MapStore B).Linked := ⟨nofun, nofun, nofun⟩

/-- A call is turned down and leaves the maps as they are, or it breaks no
constraint and is carried out. -/
theorem after_cases (m : MapStore B) (c : StoreCall B) :
    (m.refusal c).isSome = true ∧ m.after c = m ∨ m.broken c = none ∧ m.after c = m.next c := by
  unfold after
  cases hrefusal : m.refusal c with
  | some e => exact .inl ⟨Option.isSome_some, if_pos Option.isSome_some⟩
  | none =>
    by_cases hbind : ∀ text ∈ c.texts, Database.Bindable text
    · rw [refusal_of_bindable hbind] at hrefusal
      exact .inr ⟨hrefusal, if_neg (by simp)⟩
    · rw [refusal_of_unbindable hbind] at hrefusal
      cases hrefusal

/-- A conversation is never removed. -/
theorem conversation_next {m : MapStore B} {id : String} (h : (m.conversation id).isSome)
    (c : StoreCall B) : ((m.next c).conversation id).isSome := by
  cases c with
  | upsertConversation record =>
    show (Function.update m.conversation record.id _ id).isSome
    by_cases hid : id = record.id
    · rw [hid, Function.update_self]
      rfl
    · rwa [Function.update_of_ne hid]
  | _ => exact h

/-- What a call makes of a message that is there. -/
def stamp (c : StoreCall B) (r : MessageRecord) : MessageRecord :=
  match c with
  | .updateMessageStatus id status => if r.id = id then { r with status } else r
  | _ => r

theorem stamp_eq (c : StoreCall B) (r : MessageRecord) :
    ∃ status, stamp c r = { r with status } := by
  cases c with
  | updateMessageStatus id status =>
    by_cases hid : r.id = id
    · exact ⟨status, if_pos hid⟩
    · exact ⟨r.status, if_neg hid⟩
  | _ => exact ⟨r.status, rfl⟩

/-- A message that is there stays, and only its status can change. -/
theorem message_next {m : MapStore B} {c : StoreCall B} (hbroken : m.broken c = none)
    {uid : String × Bytes} {r : MessageRecord} (h : m.message uid = some r) :
    (m.next c).message uid = some (stamp c r) := by
  cases c with
  | insertMessage record =>
    have hother : uid ≠ record.uid := by
      rintro rfl
      rw [(free_of_insertMessage hbroken).1] at h
      cases h
    exact (Function.update_of_ne hother _ _).trans h
  | updateMessageStatus id status =>
    show (m.message uid).map _ = _
    rw [h]
    rfl
  | _ => exact h

theorem hasRow_next {m : MapStore B} {c : StoreCall B} (hbroken : m.broken c = none) {id : Int}
    (h : m.HasRow id) : (m.next c).HasRow id := by
  obtain ⟨uid, r, hr, hid⟩ := h
  obtain ⟨status, hstamp⟩ := stamp_eq c r
  refine ⟨uid, stamp c r, message_next hbroken hr, ?_⟩
  rw [hstamp]
  exact hid

/-- An entry of the map of messages is an old one, or the one that was added. -/
theorem message_of_next {m : MapStore B} {c : StoreCall B} {uid : String × Bytes}
    {r : MessageRecord} (h : (m.next c).message uid = some r) :
    (∃ old, m.message uid = some old ∧ r = stamp c old) ∨
      ∃ record, c = .insertMessage record ∧ r = { record with id := m.lastRowId + 1 } := by
  cases c with
  | insertMessage record =>
    by_cases huid : uid = record.uid
    · subst huid
      change Function.update m.message record.uid _ record.uid = some r at h
      rw [Function.update_self] at h
      exact .inr ⟨record, rfl, (Option.some.inj h).symm⟩
    · refine .inl ⟨r, ?_, rfl⟩
      rw [← h]
      exact (Function.update_of_ne huid _ _).symm
  | updateMessageStatus id status =>
    obtain ⟨old, hold, hr⟩ := Option.map_eq_some_iff.mp h
    exact .inl ⟨old, hold, hr.symm⟩
  | _ => exact .inl ⟨r, h, rfl⟩

/-- A call that is carried out keeps the references valid. -/
theorem Linked.next {m : MapStore B} {c : StoreCall B} (h : m.Linked)
    (hbroken : m.broken c = none) : (m.next c).Linked where
  session := by
    intro id hid
    apply conversation_next
    cases c with
    | saveSession id' state =>
      by_cases hsame : id = id'
      · rw [hsame]
        exact conversation_of_saveSession hbroken
      · refine h.session id ?_
        rwa [← Function.update_of_ne hsame (some state) m.session]
    | deleteSession id' =>
      by_cases hsame : id = id'
      · subst hsame
        simp [MapStore.next] at hid
      · refine h.session id ?_
        rwa [← Function.update_of_ne hsame none m.session]
    | _ => exact h.session id hid
  message := by
    intro uid r hr
    apply conversation_next
    rcases message_of_next hr with ⟨old, hold, rfl⟩ | ⟨record, rfl, rfl⟩
    · obtain ⟨status, hstamp⟩ := stamp_eq c old
      rw [hstamp]
      exact h.message uid old hold
    · exact (free_of_insertMessage hbroken).2
  media := by
    intro id r row hr hrow
    apply hasRow_next hbroken
    cases c with
    | insertMedia record =>
      by_cases hsame : id = record.id
      · subst hsame
        change Function.update m.media record.id _ record.id = some r at hr
        rw [Function.update_self] at hr
        refine (free_of_insertMedia hbroken).2 row ?_
        rw [Option.some.inj hr, hrow]
      · refine h.media id r row ?_ hrow
        rw [← hr]
        exact (Function.update_of_ne hsame _ _).symm
    | _ => exact h.media id r row hr hrow

theorem Linked.run {m : MapStore B} (h : m.Linked) (calls : List (StoreCall B)) :
    (m.run calls).Linked := by
  induction calls generalizing m with
  | nil => exact h
  | cons c calls ih =>
    refine ih ?_
    rcases after_cases m c with ⟨-, hsame⟩ | ⟨hbroken, hnext⟩
    · rwa [hsame]
    · rw [hnext]
      exact h.next hbroken

/-! ## The life of a message -/

/-- The status that the calls leave for a row. -/
def lastStatus (id : Int) (status : MessageStatus) (calls : List (StoreCall B)) : MessageStatus :=
  calls.foldl (fun status c =>
    match c with
    | .updateMessageStatus id' status' => if id = id' then status' else status
    | _ => status) status

theorem stamp_status (c : StoreCall B) (r : MessageRecord) :
    stamp c r = { r with status := lastStatus r.id r.status [c] } := by
  cases c with
  | updateMessageStatus id status =>
    show (if r.id = id then { r with status } else r) =
      { r with status := if r.id = id then status else r.status }
    by_cases hid : r.id = id
    · rw [if_pos hid, if_pos hid]
    · rw [if_neg hid, if_neg hid]
  | _ => rfl

theorem message_after {m : MapStore B} {uid : String × Bytes} {r : MessageRecord}
    (h : m.message uid = some r) (c : StoreCall B) :
    (m.after c).message uid = some { r with status := lastStatus r.id r.status [c] } := by
  rw [← stamp_status]
  rcases after_cases m c with ⟨hrefused, hsame⟩ | ⟨hbroken, hnext⟩
  · rw [hsame, h]
    cases c with
    | updateMessageStatus id status =>
      -- no text to bind and no constraint to break
      rw [refusal_of_bindable (by simp [StoreCall.texts])] at hrefused
      cases hrefused
    | _ => rfl
  · rw [hnext]
    exact message_next hbroken h

theorem message_run {m : MapStore B} {uid : String × Bytes} {r : MessageRecord}
    (h : m.message uid = some r) (calls : List (StoreCall B)) :
    (m.run calls).message uid = some { r with status := lastStatus r.id r.status calls } := by
  induction calls generalizing m r with
  | nil => exact h
  | cons c calls ih => exact ih (message_after h c)

theorem lastRowId_after (m : MapStore B) (c : StoreCall B) :
    m.lastRowId ≤ (m.after c).lastRowId := by
  rcases after_cases m c with ⟨-, hsame⟩ | ⟨-, hnext⟩
  · rw [hsame]
  · rw [hnext]
    cases c with
    | insertMessage record =>
      show m.lastRowId ≤ m.lastRowId + 1
      omega
    | _ => exact le_refl m.lastRowId

theorem lastRowId_run (m : MapStore B) (calls : List (StoreCall B)) :
    m.lastRowId ≤ (m.run calls).lastRowId := by
  induction calls generalizing m with
  | nil => exact le_refl m.lastRowId
  | cons c calls ih => exact (lastRowId_after m c).trans (ih (m.after c))

/-- What an insert that was accepted says about the maps. -/
theorem allows_insertMessage {m : MapStore B} {record : MessageRecord} {id : Int}
    (h : m.Allows (.insertMessage record) (.ok (.rowId id))) :
    Database.Bindable record.conversationId ∧ id = m.lastRowId + 1 ∧
      m.after (.insertMessage record) = m.next (.insertMessage record) := by
  have hrefusal : m.refusal (.insertMessage record) = none := by
    cases hrefusal : m.refusal (.insertMessage record) with
    | some e => cases h.1 e hrefusal
    | none => rfl
  obtain ⟨a, ha, hanswer⟩ := h.2 hrefusal
  cases ha
  cases hanswer
  refine ⟨?_, rfl, ?_⟩
  · by_contra hnul
    rw [refusal_of_unbindable fun hall => hnul (hall _ List.mem_cons_self)] at hrefusal
    cases hrefusal
  · rw [after, hrefusal, if_neg (by simp)]

/-- A uid that is taken is refused. -/
theorem refusal_of_taken {m : MapStore B} {record : MessageRecord}
    (h : (m.message record.uid).isSome = true) :
    ∃ e, m.refusal (.insertMessage record) = some e := by
  rw [← Option.isSome_iff_exists]
  rcases after_cases m (.insertMessage record) with ⟨hrefused, -⟩ | ⟨hbroken, -⟩
  · exact hrefused
  · rw [(free_of_insertMessage hbroken).1] at h
    cases h

end MapStore

/-! ## The tables -/

variable [Serde (SessionKeys B)] [Serde (RatchetSnapshot B)]

/-- Keys are unique, references are valid, and sessions can be read. -/
structure Tables.Intact (B : Nat → Type) [Serde (SessionKeys B)] [Serde (RatchetSnapshot B)]
    (t : Tables) : Prop where
  conversations : Table.Keyed ConversationRecord.id t.db.conversations
  sessions : Table.Keyed SessionRow.conversationId t.db.sessions
  uids : Table.Keyed MessageRecord.uid t.db.messages
  rowIds : Table.Keyed MessageRecord.id t.db.messages
  bounded : ∀ r ∈ t.db.messages, r.id ≤ t.db.lastRowId
  senderKeys : Table.Keyed SenderKeyRecord.member t.senderKeys
  media : Table.Keyed MediaRow.id t.media
  docs : Table.Keyed DocRow.id t.docs
  devices : Table.Keyed DeviceRecord.deviceId t.devices
  sessionConversation : ∀ s ∈ t.db.sessions, t.db.hasConversation s.conversationId = true
  messageConversation : ∀ r ∈ t.db.messages, t.db.hasConversation r.conversationId = true
  mediaMessage : ∀ f ∈ t.media, ∀ id, f.messageId = some id → ∃ r ∈ t.db.messages, r.id = id
  readable : ∀ s ∈ t.db.sessions, ∃ state : SessionState B, Database.readSession s = .ok state

variable [LawfulSerde (SessionKeys B)] [LawfulSerde (RatchetSnapshot B)]

theorem Represents.intact {t : Tables} {m : MapStore B} (h : Represents t m) (hm : m.Linked) :
    t.Intact B where
  conversations := h.conversations.keyed
  sessions := h.sessions.keyed
  uids := h.messages.keyed
  rowIds := h.rowIds
  bounded := h.bounded
  senderKeys := h.senderKeys.keyed
  media := by
    have hkeyed := h.media.keyed
    rw [Table.Keyed, List.map_map] at hkeyed
    exact hkeyed
  docs := h.docs.keyed
  devices := h.devices.keyed
  sessionConversation := by
    intro s hs
    obtain ⟨state, hstate, -⟩ := Option.map_eq_some_iff.mp (h.sessions.mem_iff.mp hs)
    rw [h.hasConversation]
    exact hm.session s.conversationId (by rw [hstate]; rfl)
  messageConversation := by
    intro r hr
    rw [h.hasConversation]
    exact hm.message r.uid r (h.messages.mem_iff.mp hr)
  mediaMessage := by
    intro f hf id hid
    have hmem : mediaFromRow f ∈ t.media.map mediaFromRow := List.mem_map_of_mem hf
    have hrow := hm.media f.id _ id (h.media.mem_iff.mp hmem) hid
    obtain ⟨r, hr, hrid⟩ := List.any_eq_true.mp ((h.any_id id).mpr hrow)
    exact ⟨r, hr, beq_iff_eq.mp hrid⟩
  readable := by
    intro s hs
    obtain ⟨state, -, hrow⟩ := Option.map_eq_some_iff.mp (h.sessions.mem_iff.mp hs)
    rw [← hrow]
    exact ⟨state, Database.readSession_sessionRow _ state⟩

/-- The store behaves as maps: whatever calls are made on a new database, the
results are those of the maps. -/
theorem store_refines_maps (calls : List (StoreCall B)) :
    (MapStore.empty : MapStore B).Explains (Tables.empty.history calls) :=
  represents_empty.explains calls

/-- Whatever calls are made on a new database, its tables are intact. -/
theorem store_intact (calls : List (StoreCall B)) :
    ((Tables.machine B).run Tables.empty calls).Intact B :=
  (represents_empty.run calls).intact (MapStore.linked_empty.run calls)

/-- The maps after an insert that was accepted and any further calls. -/
theorem exists_maps_of_insert {calls : List (StoreCall B)} {record : MessageRecord} {id : Int}
    (hinsert : ((Tables.machine B).run Tables.empty calls).answer
      (.insertMessage record : StoreCall B) = .ok (.rowId id)) (later : List (StoreCall B)) :
    ∃ m : MapStore B,
      Represents ((Tables.machine B).run Tables.empty (calls ++ .insertMessage record :: later)) m ∧
      m.message record.uid = some { record with
        id, status := MapStore.lastStatus id record.status later } ∧
      id ≤ m.lastRowId ∧ Database.Bindable record.conversationId := by
  have hbefore := represents_empty.run (B := B) calls
  have hstep := hbefore.call (.insertMessage record)
  have hallows := hstep.1
  rw [hinsert] at hallows
  obtain ⟨hid, hrow, hafter⟩ := MapStore.allows_insertMessage hallows
  have hstored : ((MapStore.empty.run calls).after (.insertMessage record)).message record.uid =
      some { record with id } := by
    rw [hafter, hrow]
    exact Function.update_self record.uid _ (MapStore.empty.run calls).message
  have hlast := MapStore.lastRowId_run
    ((MapStore.empty.run calls).after (.insertMessage record)) later
  refine ⟨((MapStore.empty.run calls).after (.insertMessage record)).run later, ?_,
    MapStore.message_run hstored later, ?_, hid⟩
  · rw [Machine.run_append]
    exact hstep.2.run later
  · rw [hafter] at hlast
    rw [hrow, hafter]
    exact hlast

/-- A message that was inserted is found under its uid after any further calls,
with the last status that was written for its row.  Its uid is not taken again,
and neither is its row id. -/
theorem message_kept {calls : List (StoreCall B)} {record : MessageRecord} {id : Int}
    (hinsert : ((Tables.machine B).run Tables.empty calls).answer
      (.insertMessage record : StoreCall B) = .ok (.rowId id)) (later : List (StoreCall B)) :
    let t := (Tables.machine B).run Tables.empty (calls ++ .insertMessage record :: later)
    t.answer (.loadMessageByUid record.conversationId record.messageId : StoreCall B) =
        .ok (.message (some { record with
          id, status := MapStore.lastStatus id record.status later })) ∧
      (∀ record' : MessageRecord, record'.uid = record.uid →
        ∃ e, t.call (.insertMessage record' : StoreCall B) = .error e) ∧
      ∀ record' id', t.answer (.insertMessage record' : StoreCall B) = .ok (.rowId id') →
        id < id' := by
  intro t
  obtain ⟨m, hrep, hmessage, hlast, hid⟩ := exists_maps_of_insert hinsert later
  refine ⟨?_, fun record' huid => ?_, fun record' id' hnext => ?_⟩
  · obtain ⟨a, ha, rfl⟩ :=
      (hrep.call (.loadMessageByUid record.conversationId record.messageId)).1.2
        (MapStore.refusal_of_bindable (by simpa [StoreCall.texts] using hid) m)
    rw [ha]
    exact congrArg (fun o => Except.ok (StoreAnswer.message o)) hmessage
  · have htaken : (m.message record'.uid).isSome = true := by
      rw [huid, hmessage]
      rfl
    obtain ⟨e, he⟩ := MapStore.refusal_of_taken htaken
    exact ⟨e, Tables.call_of_answer ((hrep.call _).1.1 e he)⟩
  · have hallows := (hrep.call (.insertMessage record')).1
    rw [hnext] at hallows
    have hrow := (MapStore.allows_insertMessage hallows).2.1
    omega

/-! ## A database of the demo -/

namespace Sym

/-- A database with one conversation. -/
def storeCalls : List (StoreCall Sym) :=
  [.upsertConversation
    { id := "a1", peerClassical := [1], peerPq := [2], isGroup := false, createdAt := 5 }]

def storedMessage : MessageRecord :=
  { id := 0
    conversationId := "a1"
    messageId := [7]
    senderClassical := [1]
    ciphertext := [9, 9]
    header := "h"
    contentType := 0
    direction := .outgoing
    status := .sent
    createdAt := 6 }

end Sym

open scoped Presidium.Sym in
theorem store_refines_maps_symbolic :
    (MapStore.empty : MapStore Sym).Explains
      (Tables.empty.history (Sym.storeCalls ++ [.insertMessage Sym.storedMessage])) :=
  store_refines_maps _

open scoped Presidium.Sym in
theorem store_intact_symbolic :
    ((Tables.machine Sym).run Tables.empty
      (Sym.storeCalls ++ [.insertMessage Sym.storedMessage])).Intact Sym :=
  store_intact _

open scoped Presidium.Sym in
theorem message_kept_symbolic :
    ((Tables.machine Sym).run Tables.empty (Sym.storeCalls ++ .insertMessage Sym.storedMessage ::
        [.updateMessageStatus 1 .read])).answer
        (.loadMessageByUid "a1" [7] : StoreCall Sym) =
      .ok (.message (some { Sym.storedMessage with id := 1, status := .read })) := by
  have hinsert : ((Tables.machine Sym).run Tables.empty Sym.storeCalls).answer
      (.insertMessage Sym.storedMessage : StoreCall Sym) = .ok (.rowId 1) := rfl
  exact (message_kept hinsert [.updateMessageStatus 1 .read]).1

end Presidium
