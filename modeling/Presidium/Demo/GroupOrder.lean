import Presidium.Demo.GroupDelivery

/-!
# Group messages arrive once and in order

What a reader accepts is the beginning of what was published, whatever the
network delivers.  When the published envelopes arrive in order, with anything
in between, it accepts all of them and ends where the publisher stands.
-/

namespace Presidium

variable {B : Nat → Type}

/-- Of publications whose first `k` went out, the first `k` plaintexts begin the
published ones. -/
theorem take_prefix_texts {ps : List Publication} {sent : List (Option NetworkEnvelope)} {k : Nat}
    (hsent : ∀ i < k, ∃ p e, ps[i]? = some p ∧ sent[i]? = some (some e)) :
    (ps.take k).map Publication.plaintext <+:
      (ps.zip sent).filterMap fun x => x.2.map fun _ => x.1.plaintext := by
  induction k generalizing ps sent with
  | zero => exact List.nil_prefix
  | succ k ih =>
    obtain ⟨p, e, hp, he⟩ := hsent 0 (by omega)
    obtain ⟨ps, rfl⟩ : ∃ rest, ps = p :: rest := by
      cases ps with
      | nil => cases hp
      | cons p' rest => exact ⟨rest, by rw [Option.some.inj hp]⟩
    obtain ⟨sent, rfl⟩ : ∃ rest, sent = some e :: rest := by
      cases sent with
      | nil => cases he
      | cons e' rest => exact ⟨rest, by rw [Option.some.inj he]⟩
    have hlater : ∀ i < k, ∃ p e, ps[i]? = some p ∧ sent[i]? = some (some e) :=
      fun i hi => hsent (i + 1) (by omega)
    simpa using ih hlater

namespace Broadcast

variable {P : Primitives B} [Serde (HybridSignature B)] [Serde SenderKeyMessage]
  [LawfulSerde SenderKeyMessage] {b : Broadcast B}

/-- What is accepted, by number. -/
theorem accepted_eq (hround : P.AeadRoundTrip) (hideal : P.AeadIdeal)
    (hdistinct : b.DistinctKeys P) {g : GroupChat B} (h : b.ReaderAt P g 0)
    {envelopes : List NetworkEnvelope} (hgenuine : ∀ e ∈ envelopes, b.Genuine P e) :
    g.accepted P envelopes =
      (InOrder.accepted 0 (envelopes.map (b.position P))).map b.textAt := by
  have hresults := (h.run hround hideal hdistinct (by omega) hgenuine).1
  have hfilter := congrArg (List.filterMap id) hresults
  rw [List.filterMap_map, List.filterMap_map] at hfilter
  unfold GroupChat.accepted InOrder.accepted
  rw [List.map_filterMap]
  exact hfilter

omit [LawfulSerde SenderKeyMessage] in
/-- An accepted number was published. -/
theorem sent_of_mem_accepted (hideal : P.AeadIdeal) (hdistinct : b.DistinctKeys P)
    {envelopes : List NetworkEnvelope} {i : Nat}
    (h : i ∈ InOrder.accepted 0 (envelopes.map (b.position P))) :
    ∃ p e, b.publications[i]? = some p ∧ (b.sent P)[i]? = some (some e) := by
  obtain ⟨envelope, -, hposition⟩ := List.mem_map.mp (InOrder.mem_of_mem_accepted h)
  obtain ⟨-, hcarries⟩ := (position_eq_some_iff hideal hdistinct).mp hposition
  obtain ⟨p, hp, -, -⟩ := hcarries.sealed
  obtain ⟨e, he, -, -⟩ := hcarries
  exact ⟨p, e, hp, he⟩

omit [Serde (HybridSignature B)] [Serde SenderKeyMessage] [LawfulSerde SenderKeyMessage] in
/-- The first plaintexts by number. -/
theorem map_textAt_range' {k : Nat} (hk : k ≤ b.publications.length) :
    (List.range' 0 k).map b.textAt = (b.publications.take k).map Publication.plaintext := by
  apply List.ext_getElem?
  intro i
  rw [← List.range_eq_range', List.getElem?_map, List.getElem?_map, List.getElem?_take]
  by_cases hi : i < k
  · rw [List.getElem?_range hi, if_pos hi]
    have hlt : i < b.publications.length := by omega
    simp [textAt, List.getElem?_eq_getElem hlt]
  · rw [if_neg hi, List.getElem?_eq_none (by simp; omega)]
    rfl

omit [LawfulSerde SenderKeyMessage] in
/-- A published envelope brings its own number. -/
theorem position_sent [LawfulSerde (HybridSignature B)] (hsig : P.SignaturesVerify)
    (hideal : P.AeadIdeal) (hdistinct : b.DistinctKeys P) {i : Nat} {e : NetworkEnvelope}
    (h : (b.sent P)[i]? = some (some e)) : b.position P e = some i := by
  rw [position_eq_some_iff hideal hdistinct]
  refine ⟨?_, e, h, rfl, rfl⟩
  rw [sent_getElem?, Option.map_eq_some_iff] at h
  obtain ⟨p, -, henvelope⟩ := h
  unfold envelopeAt at henvelope
  cases hrunning : p.running with
  | false => simp [hrunning] at henvelope
  | true =>
    rw [if_pos hrunning, Option.map_eq_some_iff] at henvelope
    obtain ⟨ciphertext, -, rfl⟩ := henvelope
    exact verifyEnvelope_buildRawEnvelope hsig _ _ _ _ _ _ _

omit [LawfulSerde SenderKeyMessage] in
theorem genuine_of_mem_published {e : NetworkEnvelope} (h : e ∈ b.published P) :
    b.Genuine P e := by
  intro _
  obtain ⟨sent, hmem, hsent⟩ := List.mem_filterMap.mp h
  obtain ⟨i, hi⟩ := List.mem_iff_getElem?.mp hmem
  rw [show sent = some e from hsent] at hi
  exact Or.inl ⟨i, e, hi, rfl, rfl⟩

omit [LawfulSerde SenderKeyMessage] in
/-- When every publication went out, the published envelopes bring all numbers in
order. -/
theorem map_position_published [LawfulSerde (HybridSignature B)] (hsig : P.SignaturesVerify)
    (hideal : P.AeadIdeal) (hdistinct : b.DistinctKeys P)
    (hall : ∀ e ∈ b.sent P, e.isSome) :
    (b.published P).map (b.position P) = (List.range' 0 b.publications.length).map some := by
  have hsent : b.sent P = (b.published P).map some := by
    unfold published
    generalize b.sent P = sent at hall
    induction sent with
    | nil => rfl
    | cons e rest ih =>
      obtain ⟨e', rfl⟩ := Option.isSome_iff_exists.mp (hall e List.mem_cons_self)
      have hrest := ih fun e he => hall e (List.mem_cons_of_mem _ he)
      show some e' :: rest = some e' :: (rest.filterMap id).map some
      rw [← hrest]
  have hlength : (b.published P).length = b.publications.length := by
    have := congrArg List.length hsent
    rw [sent_eq, List.length_mapIdx, List.length_map] at this
    exact this.symm
  apply List.ext_getElem?
  intro i
  rw [← List.range_eq_range', List.getElem?_map, List.getElem?_map]
  by_cases hi : i < b.publications.length
  · have hlt : i < (b.published P).length := by omega
    rw [List.getElem?_range hi, List.getElem?_eq_getElem hlt, Option.map_some, Option.map_some,
      position_sent hsig hideal hdistinct
        (by rw [hsent, List.getElem?_map, List.getElem?_eq_getElem hlt]; rfl)]
  · rw [List.getElem?_eq_none (by omega), List.getElem?_eq_none (by simp; omega)]
    rfl

omit [LawfulSerde SenderKeyMessage] in
/-- No more is accepted than was published. -/
theorem length_accepted_le (hideal : P.AeadIdeal) (hdistinct : b.DistinctKeys P)
    (envelopes : List NetworkEnvelope) :
    (InOrder.accepted 0 (envelopes.map (b.position P))).length ≤ b.publications.length := by
  by_contra hlong
  have hrange := InOrder.accepted_eq_range' 0 (envelopes.map (b.position P))
  have hmem : b.publications.length ∈ InOrder.accepted 0 (envelopes.map (b.position P)) := by
    rw [hrange, ← List.range_eq_range', List.mem_range]
    omega
  obtain ⟨p, -, hp, -⟩ := sent_of_mem_accepted hideal hdistinct hmem
  rw [List.getElem?_eq_none (by omega)] at hp
  cases hp

end Broadcast

/-- After one distribution of the group key: what is accepted begins what was
published; a rejected envelope leaves the keys of the reader alone; and when every
publication went out and the published envelopes arrive in order, with anything in
between, all are accepted and both ends stand at the same chain key and index. -/
theorem group_delivers_prefix (P : Primitives B) [Serde (HybridSignature B)]
    [LawfulSerde (HybridSignature B)] [Serde SenderKeyMessage] [LawfulSerde SenderKeyMessage]
    (hsig : P.SignaturesVerify) (hround : P.AeadRoundTrip) (hideal : P.AeadIdeal)
    (b : Broadcast B) (hdistinct : b.DistinctKeys P) (hcount : b.publications.length < 2 ^ 64)
    (g : GroupChat B) (hgroup : g.groupId = b.chat.groupId) (deliveries : List NetworkEnvelope)
    (hgenuine : ∀ e ∈ deliveries, b.Genuine P e) :
    (b.subscribe P g).accepted P deliveries <+: b.texts P ∧
      (∀ before e after, deliveries = before ++ e :: after →
        ∀ err reader', ((GroupChat.reader P).run (b.subscribe P g) before).decrypt P e =
            .error err reader' →
          reader'.receiver = ((GroupChat.reader P).run (b.subscribe P g) before).receiver) ∧
      ((∀ e ∈ b.sent P, e.isSome) → (b.published P).Sublist deliveries →
        (b.subscribe P g).accepted P deliveries = b.publications.map Publication.plaintext ∧
          ∃ receiver sender,
            ((GroupChat.reader P).run (b.subscribe P g) deliveries).receiver = some receiver ∧
              (b.publisherAfter P).sender = some sender ∧
              receiver.chainKey = sender.chainKey ∧
              receiver.messageIndex = sender.messageIndex) := by
  have hreader := Broadcast.readerAt_subscribe (P := P) hgroup
  have haccepted := Broadcast.accepted_eq hround hideal hdistinct hreader hgenuine
  have hrange := InOrder.accepted_eq_range' 0 (deliveries.map (b.position P))
  have hle := Broadcast.length_accepted_le hideal hdistinct deliveries
  refine ⟨?_, ?_, ?_⟩
  · rw [haccepted, hrange, Broadcast.map_textAt_range' hle]
    apply take_prefix_texts
    intro i hi
    apply Broadcast.sent_of_mem_accepted hideal hdistinct
    rw [hrange, ← List.range_eq_range', List.mem_range]
    exact hi
  · intro before e after _ err reader' hdecrypt
    rw [GroupChat.decrypt_error P hdecrypt]
  · intro hall hsublist
    have hpositions := hsublist.map (b.position P)
    rw [Broadcast.map_position_published hsig hideal hdistinct hall] at hpositions
    have hlength : (InOrder.accepted 0 (deliveries.map (b.position P))).length =
        b.publications.length := Nat.le_antisymm hle (InOrder.le_length_accepted hpositions)
    refine ⟨?_, ?_⟩
    · rw [haccepted, hrange, hlength, Broadcast.map_textAt_range' (Nat.le_refl _),
        List.take_length]
    · have hend := (hreader.run hround hideal hdistinct (by omega) hgenuine).2
      rw [hlength, Nat.zero_add] at hend
      obtain ⟨receiver, hreceiver, hchain, hindex⟩ := hend.receiver
      rw [Broadcast.publisherAfter_eq]
      exact ⟨receiver, _, hreceiver, rfl, hchain, hindex hcount⟩

namespace Sym

theorem length_chainAt_lt (key : Bytes) (i k : Nat) :
    (SenderKeys.chainAt primitives key i).length <
      (SenderKeys.chainAt primitives key (i + k + 1)).length := by
  induction k with
  | zero => exact length_lt_hmacSha256 _ _
  | succ k ih => exact ih.trans (length_lt_hmacSha256 _ _)

/-- The message keys of a sender chain are distinct. -/
theorem distinctKeys (b : Broadcast Sym) : b.DistinctKeys primitives := by
  have hne : ∀ i j, i < j → SenderKeys.keyAt primitives b.drawn i ≠
      SenderKeys.keyAt primitives b.drawn j := by
    intro i j hlt hkey
    obtain ⟨k, rfl⟩ := Nat.exists_eq_add_of_lt hlt
    have hlength := length_chainAt_lt b.drawn i k
    rw [hmacSha256_inj hkey] at hlength
    omega
  intro i j _ _ hkey
  rcases Nat.lt_trichotomy i j with hlt | heq | hgt
  · exact absurd hkey (hne i j hlt)
  · exact heq
  · exact absurd hkey.symm (hne j i hgt)

/-- Two messages of one publisher. -/
def twoPublications : Broadcast Sym :=
  { identity := alice
    deviceId := "a1"
    chat := .new
    drawn := [30]
    publications := [⟨[1], 10, true⟩, ⟨[2], 20, true⟩] }

/-- An envelope with an empty signature. -/
def forged : NetworkEnvelope :=
  { signedEnvelope with signature := [] }

end Sym

open scoped Presidium.Sym in
/-- Both messages arrive twice, with a forgery in between. -/
theorem group_delivers_prefix_repeated :
    ∃ deliveries, deliveries = Sym.twoPublications.published Sym.primitives ++
        Sym.forged :: Sym.twoPublications.published Sym.primitives ∧
      (Sym.twoPublications.subscribe Sym.primitives .new).accepted Sym.primitives deliveries =
        [[1], [2]] := by
  have hgenuine : ∀ e ∈ Sym.twoPublications.published Sym.primitives ++
      Sym.forged :: Sym.twoPublications.published Sym.primitives,
      Sym.twoPublications.Genuine Sym.primitives e := by
    intro e he
    rcases List.mem_append.mp he with hfirst | hrest
    · exact Broadcast.genuine_of_mem_published hfirst
    · rcases List.mem_cons.mp hrest with rfl | hlater
      · intro hverify
        exact absurd hverify (by decide +kernel)
      · exact Broadcast.genuine_of_mem_published hlater
  have hprefix := group_delivers_prefix Sym.primitives Sym.signaturesVerify Sym.aeadRoundTrip
    Sym.aeadIdeal Sym.twoPublications (Sym.distinctKeys _) (by decide) .new rfl _ hgenuine
  have hall := hprefix.2.2 (by decide +kernel) (List.sublist_append_left _ _)
  exact ⟨_, rfl, hall.1⟩

end Presidium
