import Presidium.Demo.NodesAgree
import Presidium.Demo.TwoWayChat

/-!
# From the keyboard of one node to the screen of the other

The two nodes of `Duo` once more, from their first start on, with the ratchets
by their counts.  `Talk` says what has been said so far and where each message
is: chat message number `n` of a side is envelope `n` of the pair.  One side
condition is added to the machine.  `Orderly` keeps to what the ratchet can skip:
the messages that reach the responder jump over `MAX_SKIP_MESSAGES` numbers at
most.  It counts them all, since a stored key stays when its message has come.

`lines_arrive` is the result.  What the responder reads are the greeting and the
lines that the user of the initiator sees as sent, each under its number, once
per message that has arrived and in the order of arrival.  The initiator reads
nothing.
-/

namespace Presidium

variable {B : Nat → Type}

/-! ## Envelopes of a pair -/

namespace ChatPair

variable {P : Primitives B} {c : ChatPair B}

/-- Before it has read anything the responder cannot send. -/
theorem mute_ratchetAt : (c.ratchetAt P .second 0 []).Mute := ⟨rfl, rfl⟩

variable [Serde (HybridSignature B)] [Serde (RatchetMessageHeader B)]

/-- `encrypt` moves a side to its next count and gives the envelope of that
number. -/
theorem encrypt_ratchetAt (hdh : P.DhCommutes) (s : Side) (n : Nat) (taken : List Nat)
    (hturn : s = .first ∨ taken ≠ []) (text : Bytes) (now : Int) :
    ((c.sessionWith P s (c.ratchetAt P s n taken)).encrypt P (c.identity s) (c.deviceId s) text
        now).state = c.sessionWith P s (c.ratchetAt P s (n + 1) taken) ∧
      ((c.sessionWith P s (c.ratchetAt P s n taken)).encrypt P (c.identity s) (c.deviceId s) text
        now).result.toOption = c.envelopeAt P s n text now := by
  have hsend := send_chatterAt (c := c) hdh s n taken (text, now) hturn
  exact ⟨congrArg (fun out => out.1.session) hsend, congrArg Prod.snd hsend⟩

theorem envelopeAt_kind {s : Side} {n : Nat} {text : Bytes} {now : Int}
    {envelope : NetworkEnvelope} (h : c.envelopeAt P s n text now = some envelope) :
    envelope.kind = KIND_DIRECT := by
  obtain ⟨msg, -, rfl⟩ := Option.map_eq_some_iff.mp h
  rfl

theorem envelopeAt_conversationId {s : Side} {n : Nat} {text : Bytes} {now : Int}
    {envelope : NetworkEnvelope} (h : c.envelopeAt P s n text now = some envelope) :
    fromUtf8 envelope.conversationId = some c.conversationId := by
  obtain ⟨msg, -, rfl⟩ := Option.map_eq_some_iff.mp h
  exact fromUtf8_asBytes c.conversationId

end ChatPair

namespace Duo

/-! ## Chat messages by their numbers -/

/-- What a side sends before its first chat message: the request, the prekey
message and the group key, or the bundle and the ratchet key. -/
def preamble : Side → Nat
  | .first => 3
  | .second => 2

/-- The chat messages that have reached a side, by their number among those of
its peer. -/
def taken (d : Duo B) (s : Side) : List Nat :=
  (d.arrived s).filterMap fun k =>
    if preamble s.peer ≤ k then some (k - preamble s.peer) else none

/-- The responder can still skip to the message. -/
def Orderly (d : Duo B) : Event B → Prop
  | .deliver .second k _ => preamble .first ≤ k →
    k - preamble .first + 1 < 2 ^ 64 ∧
      ((Window.empty.deliverAll (d.taken .second)).deliver (k - preamble .first)).skipped.length ≤
        MAX_SKIP_MESSAGES
  | _ => True

instance decidableOrderly (d : Duo B) : (event : Event B) → Decidable (d.Orderly event)
  | .deliver .second k _ =>
    inferInstanceAs (Decidable (preamble .first ≤ k → k - preamble .first + 1 < 2 ^ 64 ∧
      ((Window.empty.deliverAll (d.taken .second)).deliver (k - preamble .first)).skipped.length ≤
        MAX_SKIP_MESSAGES))
  | .deliver .first _ _ => .isTrue trivial
  | .turn _ _ => .isTrue trivial

variable {P : Primitives B} {ids : Side → PeerId} {d : Duo B} {s : Side}

theorem not_mem_taken {k : Nat} (hnew : k ∉ d.arrived s) (hk : preamble s.peer ≤ k) :
    k - preamble s.peer ∉ d.taken s := by
  intro hmem
  obtain ⟨j, hj, hsome⟩ := List.mem_filterMap.mp hmem
  split at hsome
  next hle =>
    have heq : j - preamble s.peer = k - preamble s.peer := Option.some.inj hsome
    obtain rfl : j = k := by omega
    exact hnew hj
  next => cases hsome

section Deliveries

variable [Serde (HybridSignature B)] [Serde (RatchetMessageHeader B)]
  [Serde (PreKeyBundle B)] [Serde (PqxdhPrekeyMessage B)] [Serde (GroupKeyDistribution B)]
  [Serde (SessionKeys B)] [Serde (RatchetSnapshot B)] [Serde SenderKeyMessage]
  [DecidableEq (B X25519_PUBLIC_KEY_SIZE)]

theorem taken_deliver {k : Nat} {draws : Draws B} {envelope : NetworkEnvelope}
    (hin : d.inbound ids s k = some envelope) (t : Side) :
    (step P ids d (.deliver s k draws)).taken t =
      if t = s ∧ preamble s.peer ≤ k then d.taken t ++ [k - preamble s.peer] else d.taken t := by
  unfold taken
  rw [arrived_deliver hin]
  by_cases ht : t = s
  · subst ht
    rw [Function.update_self, List.filterMap_append]
    by_cases hk : preamble t.peer ≤ k
    · simp [hk]
    · simp [hk]
  · rw [Function.update_of_ne ht, if_neg fun h => ht h.1]

end Deliveries

/-! ## What has been said -/

section Talk

variable [Serde (HybridSignature B)] [Serde (RatchetMessageHeader B)]

/-- Both nodes in the middle of a conversation, in which a side has said
`texts`. -/
structure Talk (P : Primitives B) (c : ChatPair B) (greeting : Bytes)
    (texts : Side → List (Bytes × Int)) (d : Duo B) : Prop where
  linked : d.Linked P c
  bindable : Database.Bindable c.conversationId
  /-- Chat message number `n` of a side is envelope `n` of the pair. -/
  sent : ∀ s, ∃ control chats, (d.view s).node.sent = control ++ chats ∧
    control.length = preamble s ∧ (∀ out ∈ control, out.envelope.arm ≠ .chat) ∧
    chats.map (fun out => some out.envelope) =
      (texts s).mapIdx fun n text => c.envelopeAt P s n text.1 text.2
  /-- The ratchet of a running node by its counts. -/
  session : ∀ s, (d.loop s).returned = none →
    (d.view s).session = some (c.sessionWith P s (c.ratchetAt P s (texts s).length (d.taken s)))
  /-- The responder speaks when it has been spoken to. -/
  turn : texts .second ≠ [] → d.taken .second ≠ []
  bound : ∀ k ∈ d.taken .second, k + 1 < 2 ^ 64
  nodup : (d.taken .second).Nodup
  /-- A greeting that failed was the end of the initiator's loop. -/
  said : (texts .first).map Prod.fst = greeting :: (d.said .first).map asBytes ∨
    texts .first = [] ∧ d.said .first = [] ∧ (d.loop .first).returned ≠ none
  shown : (d.shown .second).map some =
    (d.taken .second).map fun k => (texts .first)[k]?.map Prod.fst
  silent : d.shown .first = []

variable {c : ChatPair B} {greeting : Bytes} {texts : Side → List (Bytes × Int)}

/-- A message behind the preamble is an envelope of the pair. -/
theorem Talk.chat (h : d.Talk P c greeting texts) {k : Nat} {out : Outbound}
    (hout : (d.view s).node.sent[k]? = some out) (hk : preamble s ≤ k) :
    ∃ text, (texts s)[k - preamble s]? = some text ∧
      c.envelopeAt P s (k - preamble s) text.1 text.2 = some out.envelope := by
  obtain ⟨control, chats, hsent, hlength, -, hchats⟩ := h.sent s
  rw [hsent, List.getElem?_append_right (hlength ▸ hk), hlength] at hout
  have hmapped := congrArg (fun l => l[k - preamble s]?) hchats
  simp only [List.getElem?_map, List.getElem?_mapIdx, hout, Option.map_some] at hmapped
  obtain ⟨text, htext, henvelope⟩ := Option.map_eq_some_iff.mp hmapped.symm
  exact ⟨text, htext, henvelope⟩

/-- A message of the preamble is no chat message. -/
theorem Talk.control (h : d.Talk P c greeting texts) {k : Nat} {out : Outbound}
    (hout : (d.view s).node.sent[k]? = some out) (hk : k < preamble s) :
    out.envelope.arm ≠ .chat := by
  obtain ⟨control, chats, hsent, hlength, hcontrol, -⟩ := h.sent s
  rw [hsent, List.getElem?_append_left (hlength ▸ hk)] at hout
  exact hcontrol out (List.mem_of_getElem? hout)

theorem Talk.bound_concat (h : d.Talk P c greeting texts) {k : Nat} (hk : k + 1 < 2 ^ 64) :
    ∀ j ∈ d.taken .second ++ [k], j + 1 < 2 ^ 64 := by
  intro j hj
  rcases List.mem_append.mp hj with hj | hj
  · exact h.bound j hj
  · rw [List.mem_singleton.mp hj]
    exact hk

/-- Nothing is said or read.  A loop may end meanwhile. -/
theorem Talk.of_same {d' : Duo B} (h : d.Talk P c greeting texts) (hlinked : d'.Linked P c)
    (hsent : ∀ t, (d'.view t).node.sent = (d.view t).node.sent)
    (hsession : ∀ t, (d'.loop t).returned = none →
      (d.loop t).returned = none ∧ (d'.view t).session = (d.view t).session ∧
        d'.taken t = d.taken t)
    (htaken : d'.taken .second = d.taken .second) (hscreen : d'.screen = d.screen) :
    d'.Talk P c greeting texts := by
  have hsaid : ∀ t, d'.said t = d.said t := fun t => by unfold Duo.said; rw [hscreen]
  have hshown : ∀ t, d'.shown t = d.shown t := fun t => by unfold Duo.shown; rw [hscreen]
  refine ⟨hlinked, h.bindable, fun t => ?_, fun t hrunning => ?_, ?_, ?_, ?_, ?_, ?_, ?_⟩
  · rw [hsent]
    exact h.sent t
  · obtain ⟨hbefore, hkept, htaken⟩ := hsession t hrunning
    rw [hkept, htaken, h.session t hbefore]
  · rw [htaken]
    exact h.turn
  · rw [htaken]
    exact h.bound
  · rw [htaken]
    exact h.nodup
  · rw [hsaid]
    exact h.said.imp id fun ⟨htexts, hsaid, hover⟩ =>
      ⟨htexts, hsaid, fun hrunning => hover (hsession .first hrunning).1⟩
  · rw [hshown, htaken]
    exact h.shown
  · rw [hshown]
    exact h.silent

/-- A side says a line. -/
theorem Talk.speak {d' : Duo B} (h : d.Talk P c greeting texts) (hlinked : d'.Linked P c)
    {line : String} {now : Int} {peer : PeerId} {envelope : NetworkEnvelope}
    (hturn : s = .first ∨ d.taken s ≠ []) (hreturned : (d.loop s).returned = none)
    (henvelope : c.envelopeAt P s (texts s).length (asBytes line) now = some envelope)
    (hsession : (d'.view s).session =
      some (c.sessionWith P s (c.ratchetAt P s ((texts s).length + 1) (d.taken s))))
    (hsent : (d'.view s).node.sent = (d.view s).node.sent ++ [⟨peer, envelope⟩])
    (hpeer : d'.loop s.peer = d.loop s.peer) (harrived : d'.arrived = d.arrived)
    (hscreen : d'.screen = Function.update d.screen s (d.screen s ++ [.sent line])) :
    d'.Talk P c greeting (Function.update texts s (texts s ++ [(asBytes line, now)])) := by
  have hview : d'.view s.peer = d.view s.peer := by unfold Duo.view; rw [hpeer]
  have htaken : ∀ t, d'.taken t = d.taken t := fun t => by unfold Duo.taken; rw [harrived]
  have hshown : ∀ t, d'.shown t = d.shown t := by
    intro t
    unfold Duo.shown
    rw [hscreen]
    rcases t.eq_or_eq_peer s with rfl | rfl
    · rw [Function.update_self, List.filterMap_append]
      exact List.append_nil _
    · rw [Function.update_of_ne s.peer_ne]
  refine ⟨hlinked, h.bindable, fun t => ?_, fun t hrunning => ?_, ?_, ?_, ?_, ?_, ?_, ?_⟩
  · rcases t.eq_or_eq_peer s with rfl | rfl
    · obtain ⟨control, chats, hbefore, hlength, hcontrol, hchats⟩ := h.sent t
      refine ⟨control, chats ++ [⟨peer, envelope⟩], ?_, hlength, hcontrol, ?_⟩
      · rw [hsent, hbefore, List.append_assoc]
      · rw [Function.update_self, List.mapIdx_concat, List.map_append, hchats, henvelope]
        rfl
    · rw [hview, Function.update_of_ne s.peer_ne]
      exact h.sent s.peer
  · rw [htaken]
    rcases t.eq_or_eq_peer s with rfl | rfl
    · rw [hsession, Function.update_self, List.length_append]
      rfl
    · rw [hview, Function.update_of_ne s.peer_ne]
      exact h.session s.peer (hpeer ▸ hrunning)
  · rw [htaken]
    cases s with
    | first => exact h.turn
    | second => exact fun _ => hturn.resolve_left nofun
  · rw [htaken]
    exact h.bound
  · rw [htaken]
    exact h.nodup
  · cases s with
    | first =>
      obtain hsaid | ⟨-, -, hover⟩ := h.said
      · refine Or.inl ?_
        unfold Duo.said
        rw [hscreen, Function.update_self, Function.update_self, List.map_append, hsaid,
          List.filterMap_append, List.map_append]
        rfl
      · exact absurd hreturned hover
    | second =>
      have hsaid : d'.said .first = d.said .first := by
        unfold Duo.said
        rw [hscreen, Function.update_of_ne (by decide)]
      rw [hsaid, Function.update_of_ne (by decide), show d'.loop .first = d.loop .first from hpeer]
      exact h.said
  · rw [hshown, htaken, h.shown]
    refine List.map_congr_left fun k hk => ?_
    cases s with
    | second => rw [Function.update_of_ne (by decide)]
    | first =>
      -- what has been read was said before
      have hread : k < (texts .first).length := by
        have hsome : (texts .first)[k]?.map Prod.fst ∈ (d.shown .second).map some := by
          rw [h.shown]
          exact List.mem_map_of_mem hk
        obtain ⟨text, -, htext⟩ := List.mem_map.mp hsome
        obtain ⟨said, hsaid, -⟩ := Option.map_eq_some_iff.mp htext.symm
        exact (List.getElem?_eq_some_iff.mp hsaid).1
      rw [Function.update_self, List.getElem?_append_left hread]
  · rw [hshown]
    exact h.silent

/-- The responder reads a chat message. -/
theorem Talk.read {d' : Duo B} (h : d.Talk P c greeting texts) (hlinked : d'.Linked P c) {k : Nat}
    {text : Bytes × Int} {sender : PeerId} (htext : (texts .first)[k]? = some text)
    (hfresh : k ∉ d.taken .second) (hbound : k + 1 < 2 ^ 64)
    (hsession : (d'.view .second).session = some (c.sessionWith P .second
      (c.ratchetAt P .second (texts .second).length (d.taken .second ++ [k]))))
    (hsent : (d'.view .second).node.sent = (d.view .second).node.sent)
    (hpeer : d'.loop .first = d.loop .first)
    (htaken : d'.taken .second = d.taken .second ++ [k])
    (hothers : d'.taken .first = d.taken .first)
    (hscreen : d'.screen =
      Function.update d.screen .second (d.screen .second ++ [.received sender text.1])) :
    d'.Talk P c greeting texts := by
  have hview : d'.view .first = d.view .first := by unfold Duo.view; rw [hpeer]
  have hfirst : d'.screen .first = d.screen .first := by
    rw [hscreen, Function.update_of_ne (by decide)]
  refine ⟨hlinked, h.bindable, Side.both ?_ ?_, Side.both (fun hrunning => ?_) (fun _ => ?_),
    fun _ => ?_, ?_, ?_, ?_, ?_, ?_⟩
  · rw [hview]
    exact h.sent .first
  · rw [hsent]
    exact h.sent .second
  · rw [hview, hothers]
    exact h.session .first (hpeer ▸ hrunning)
  · rw [hsession, htaken]
  · rw [htaken]
    simp
  · rw [htaken]
    exact h.bound_concat hbound
  · rw [htaken]
    rw [← List.concat_eq_append]
    exact h.nodup.concat hfresh
  · rw [show d'.said .first = d.said .first from by unfold Duo.said; rw [hfirst], hpeer]
    exact h.said
  · have hshown : d'.shown .second = d.shown .second ++ [text.1] := by
      unfold Duo.shown
      rw [hscreen, Function.update_self, List.filterMap_append]
      rfl
    rw [hshown, htaken, List.map_append, List.map_append, h.shown]
    simp [htext]
  · rw [show d'.shown .first = d.shown .first from by unfold Duo.shown; rw [hfirst]]
    exact h.silent

end Talk

/-! ## One step of the conversation -/

section Conversation

variable [Serde (HybridSignature B)] [Serde (RatchetMessageHeader B)]
  [Serde (PreKeyBundle B)] [Serde (PqxdhPrekeyMessage B)] [Serde (GroupKeyDistribution B)]
  [Serde (SessionKeys B)] [Serde (RatchetSnapshot B)] [Serde SenderKeyMessage]
  [DecidableEq (B X25519_PUBLIC_KEY_SIZE)] {c : ChatPair B} {greeting : Bytes}
  {texts : Side → List (Bytes × Int)}

/-- What an input of its own does to a node with a session: nothing that is to be
seen, the end of its loop, or a line that is said. -/
theorem take_cases {input : Input B} {chat : ChatSession B}
    (hreturned : (d.loop s).returned = none) (hlocal : input.Local)
    (hrunning : (d.view s).node.running = true) (hsession : (d.view s).session = some chat) :
    ((d.take P s input).view s).node.sent = (d.view s).node.sent ∧
        (((d.take P s input).loop s).returned = none →
          ((d.take P s input).view s).session = some chat) ∧
        (d.loop s).prints P input = [] ∨
      ∃ line now peer envelope, ∃ chat' : ChatSession B,
        chat.encrypt P (d.view s).identity (d.view s).deviceId (asBytes line) now =
          .ok envelope chat' ∧
        ((d.take P s input).view s).node.sent = (d.view s).node.sent ++ [⟨peer, envelope⟩] ∧
        ((d.take P s input).view s).session = some chat' ∧
        (d.loop s).prints P input = [.sent line] := by
  have hsettled : (d.loop s).state.Settled :=
    Or.inr (Or.inl fun hnone => nomatch hnone.symm.trans hsession)
  have hview : (d.take P s input).view s =
      (RunLoop.turn P (d.loop s).state input).state.app.view := by
    unfold Duo.view
    rw [take_loop_self hreturned]
  by_cases hchat : ∃ text draws, input.ChatLine text draws
  · obtain ⟨text, draws, hchat⟩ := hchat
    rw [hview, RunLoop.state_turn_chat P hchat, RunLoop.prints_chat P hreturned hchat]
    rcases App.sendLine_cases P hrunning text draws with
      ⟨hidle, hrun⟩ |
        ⟨s', peer, hs, hpeer, ⟨e, app', hrun, hafter⟩ | ⟨envelope, s'', app', henc, hrun, hafter⟩⟩
    · rw [hrun]
      exact Or.inl ⟨rfl, fun _ => hsession, App.printsLine_idle P hidle text draws⟩
    · refine Or.inl ⟨?_, fun hnone => ?_, App.printsLine_error P hrun⟩
      · rw [hrun, Outcome.state_error, hafter]
        rfl
      · rw [take_loop_self hreturned] at hnone
        exact absurd hnone (RunLoop.returned_turn_chat P hchat hrun)
    · cases hs.symm.trans hsession
      refine Or.inr ⟨text, draws.now, peer, envelope, s'', henc, ?_, ?_,
        App.printsLine_ok P hs hpeer hrun⟩
      · rw [hrun, Outcome.state_ok, hafter]
        rfl
      · rw [hrun, Outcome.state_ok, hafter]
  · have hother : ∀ text draws, ¬ input.ChatLine text draws := fun text draws h =>
      hchat ⟨text, draws, h⟩
    obtain ⟨-, hkept⟩ := RunLoop.turn_other P hlocal hother fun _ _ _ => hsettled
    rw [hview, hkept]
    exact Or.inl ⟨rfl, fun _ => hsession, RunLoop.prints_other P hlocal hother⟩

/-- A node takes an input of its own. -/
theorem Talk.take (hdh : P.DhCommutes) {input : Input B} (h : d.Talk P c greeting texts)
    (hreturned : (d.loop s).returned = none) (hlocal : input.Local) :
    ∃ texts', (d.take P s input).Talk P c greeting texts' := by
  have hlinked := h.linked.turn hreturned hlocal
  have hsession := h.session s hreturned
  have hscreen : (d.take P s input).screen =
      Function.update d.screen s (d.screen s ++ (d.loop s).prints P input) := rfl
  have hpeer : (d.take P s input).loop s.peer = d.loop s.peer := take_loop_peer s.peer_ne
  have hothers : (d.take P s input).view s.peer = d.view s.peer := by unfold Duo.view; rw [hpeer]
  rcases take_cases (P := P) hreturned hlocal (h.linked.running s) hsession with
    ⟨hsent, hkept, hprints⟩ | ⟨line, now, peer, envelope, chat, hencrypt, hsent, hmoved, hprints⟩
  · refine ⟨texts, h.of_same hlinked (fun t => ?_) (fun t hrunning => ?_) rfl ?_⟩
    · rcases t.eq_or_eq_peer s with rfl | rfl
      · exact hsent
      · rw [hothers]
    · rcases t.eq_or_eq_peer s with rfl | rfl
      · exact ⟨hreturned, (hkept hrunning).trans hsession.symm, rfl⟩
      · exact ⟨hpeer ▸ hrunning, by rw [hothers], rfl⟩
    · rw [hscreen, hprints, List.append_nil, Function.update_eq_self]
  · rw [hprints] at hscreen
    rw [h.linked.identity, h.linked.deviceId] at hencrypt
    -- a responder that has read nothing could not have encrypted the line
    have hturn : s = .first ∨ d.taken s ≠ [] := by
      cases s with
      | first => exact Or.inl rfl
      | second =>
        refine Or.inr fun hnone => ?_
        have hsilent : texts .second = [] := by
          by_contra hspoken
          exact h.turn hspoken hnone
        rw [hnone, hsilent] at hencrypt
        obtain ⟨e, hrefused⟩ := ChatSession.encrypt_mute P
          (s := c.sessionWith P .second (c.ratchetAt P .second 0 [])) ChatPair.mute_ratchetAt
          (c.identity .second) (c.deviceId .second) (asBytes line) now
        exact nomatch hrefused.symm.trans hencrypt
    obtain ⟨hstate, hresult⟩ := ChatPair.encrypt_ratchetAt (c := c) hdh s (texts s).length
      (d.taken s) hturn (asBytes line) now
    rw [hencrypt] at hstate hresult
    exact ⟨_, h.speak hlinked hturn hreturned hresult.symm (hmoved.trans (congrArg some hstate))
      hsent hpeer rfl hscreen⟩

/-- The group key arrives. -/
theorem Talk.deliver_groupKey {k : Nat} {draws : Draws B} {envelope : NetworkEnvelope}
    (h : d.Talk P c greeting texts) (hreturned : (d.loop s).returned = none)
    (hlinked : (step P ids d (.deliver s k draws)).Linked P c)
    (hin : d.inbound ids s k = some envelope) (hk : ¬ preamble s.peer ≤ k)
    (harm : envelope.arm = .groupKey) :
    (step P ids d (.deliver s k draws)).Talk P c greeting texts := by
  have hother : envelope.arm ≠ .chat := by
    rw [harm]
    nofun
  have hkept : (step P ids d (.deliver s k draws)).view s = d.view s := by
    rw [view_deliver_self hin hreturned, App.handleDirect_eq P harm]
    exact App.keeps_onGroupKey P (envelope.encryptedPayload.drop 1)
      ((d.loop s).state.app.noted (ids s.peer))
  have hothers : (step P ids d (.deliver s k draws)).view s.peer = d.view s.peer :=
    view_deliver_peer hin
  have htaken : ∀ t, (step P ids d (.deliver s k draws)).taken t = d.taken t := fun t =>
    (taken_deliver hin t).trans (if_neg fun hs => hk hs.2)
  have hscreen : (step P ids d (.deliver s k draws)).screen = d.screen := by
    rw [screen_deliver hin hreturned (App.printsDirect_other P hother _ _), List.append_nil,
      Function.update_eq_self]
  refine h.of_same hlinked (fun t => ?_) (fun t hrunning => ?_) (htaken .second) hscreen
  · rcases t.eq_or_eq_peer s with rfl | rfl
    · rw [hkept]
    · rw [hothers]
  · rcases t.eq_or_eq_peer s with rfl | rfl
    · exact ⟨hreturned, by rw [hkept], htaken t⟩
    · rw [loop_deliver_peer hin] at hrunning
      exact ⟨hrunning, by rw [hothers], htaken _⟩

/-- A chat message leaves the session of its receiver as `decrypt` does. -/
theorem Talk.view_chat {k n : Nat} {draws : Draws B} {text : Bytes} {now : Int}
    {envelope : NetworkEnvelope} (h : d.Talk P c greeting texts)
    (hreturned : (d.loop s).returned = none) (hin : d.inbound ids s k = some envelope)
    (harm : envelope.arm = .chat)
    (henvelope : c.envelopeAt P s.peer n text now = some envelope) :
    (step P ids d (.deliver s k draws)).view s =
      { d.view s with session := some (Outcome.state ((c.sessionWith P s
        (c.ratchetAt P s (texts s).length (d.taken s))).decrypt P envelope)) } := by
  have hsession : ((d.loop s).state.app.noted (ids s.peer)).session = _ := h.session s hreturned
  rw [view_deliver_self hin hreturned, App.handleDirect_eq P harm]
  exact App.view_onChat P hsession (ChatPair.envelopeAt_conversationId henvelope) h.bindable draws

/-- The conversation begins when the ratchet key reaches the initiator. -/
theorem At.talk {da db : BootDraws B} (harrays : P.ArraysRoundTrip) (hdh : P.DhCommutes)
    {t₀ t₁ t₂ t₃ : Int} {output : PqxdhOutput B} {message : PqxdhPrekeyMessage B}
    {key : B X25519_PRIVATE_KEY_SIZE} (draws : Draws B) (h : d.At P da db
      (.accepted P da db ids t₀ t₁ t₂ t₃ output message key draws.initiatorRatchet))
    (hreturned : (d.loop .first).returned = none) :
    ∃ texts, (step P ids d (.deliver .first 1 draws)).Talk P
      (duoPair P da db output.sharedSecret draws.initiatorRatchet key)
      (App.greetingOf (randomHexDeviceId P da.deviceId)) texts := by
  let c := duoPair P da db output.sharedSecret draws.initiatorRatchet key
  let greeting := App.greetingOf (randomHexDeviceId P da.deviceId)
  have hlinked := h.linked harrays draws hreturned
  obtain ⟨groupKey, out, hkey, hout, hfirst, hrunning, hsecond, harrived, hscreen⟩ :=
    h.ratchet harrays draws hreturned
  replace hsecond := hsecond.trans (h.view .second)
  obtain ⟨hstate, hresult⟩ := ChatPair.encrypt_ratchetAt (c := c) hdh .first 0 [] (Or.inl rfl)
    greeting draws.now
  have hstart : ∀ s, c.start P s = c.sessionWith P s (c.ratchetAt P s 0 []) := fun s =>
    congrArg Chatter.session (ChatPair.chatters_eq s)
  rw [show (c.sessionWith P .first (c.ratchetAt P .first 0 [])).encrypt P (c.identity .first)
    (c.deviceId .first) greeting draws.now = out from (hstart .first) ▸ hout] at hstate hresult
  have htaken : (step P ids d (.deliver .first 1 draws)).taken .second = [] := by
    unfold taken
    rw [harrived]
    rfl
  have hsaid : ∀ s, (step P ids d (.deliver .first 1 draws)).said s = [] := fun s => by
    unfold said
    rw [hscreen]
    rfl
  have hshown : ∀ s, (step P ids d (.deliver .first 1 draws)).shown s = [] := fun s => by
    unfold shown
    rw [hscreen]
    rfl
  -- the greeting has been said, unless it failed
  refine ⟨Side.of (if out.IsOk then [(greeting, draws.now)] else []) [], hlinked,
    noNul_hexEncode _, Side.both ?_ ?_, Side.both (fun hnone => ?_) (fun _ => ?_), nofun, ?_, ?_,
    ?_, ?_, hshown .first⟩
  · refine ⟨[requestOut P da ids t₀, prekeyOut P da ids message t₂, ⟨ids .second, groupKey⟩],
      App.sealed (ids .second) out, by rw [hfirst]; rfl, rfl, ?_, ?_⟩
    · intro sent hsent
      simp only [List.mem_cons, List.not_mem_nil, or_false] at hsent
      rcases hsent with rfl | rfl | rfl
      · nofun
      · nofun
      · rw [hkey]
        nofun
    · cases out with
      | error e chat => rfl
      | ok envelope chat => exact congrArg (fun envelope => [envelope]) hresult
  · refine ⟨[bundleOut P db ids t₁, ratchetOut P db ids key t₃], [], by rw [hsecond]; rfl, rfl,
      ?_, rfl⟩
    intro sent hsent
    simp only [List.mem_cons, List.not_mem_nil, or_false] at hsent
    rcases hsent with rfl | rfl <;> nofun
  · rw [hfirst, if_pos (hrunning hnone)]
    exact congrArg some hstate
  · rw [hsecond, htaken]
    exact congrArg some (hstart .second)
  · rw [htaken]
    nofun
  · rw [htaken]
    exact .nil
  · rw [hsaid]
    by_cases hok : out.IsOk
    · exact Or.inl (congrArg (List.map Prod.fst) (if_pos hok))
    · exact Or.inr ⟨if_neg hok, rfl, fun hnone => hok (hrunning hnone)⟩
  · rw [hshown, htaken]
    rfl

variable [LawfulSerde (HybridSignature B)] [LawfulSerde (RatchetMessageHeader B)]

/-- A chat message reaches the initiator.  It is refused, and the loop ends. -/
theorem Talk.deliver_first (hsig : P.SignaturesVerify) {k n : Nat} {draws : Draws B}
    {text : Bytes} {now : Int} {envelope : NetworkEnvelope} (h : d.Talk P c greeting texts)
    (hreturned : (d.loop .first).returned = none)
    (hlinked : (step P ids d (.deliver .first k draws)).Linked P c)
    (hin : d.inbound ids .first k = some envelope) (harm : envelope.arm = .chat)
    (henvelope : c.envelopeAt P .second n text now = some envelope) :
    (step P ids d (.deliver .first k draws)).Talk P c greeting texts := by
  have hsession : ((d.loop .first).state.app.noted (ids .second)).session = _ :=
    h.session .first hreturned
  have hdecrypt := ChatPair.decrypt_initiator hsig (texts .first).length n henvelope
  have hover : ((step P ids d (.deliver .first k draws)).loop .first).returned ≠ none := by
    intro hrunning
    have hok := (returned_deliver hin hreturned).mp hrunning
    rw [App.handleDirect_eq P harm] at hok
    exact App.not_isOk_onChat P hsession hdecrypt draws hok
  obtain ⟨e, app', hrefused⟩ := App.readChat_error P hsession hdecrypt draws.now
  have hscreen : (step P ids d (.deliver .first k draws)).screen = d.screen := by
    rw [screen_deliver hin hreturned (App.printsDirect_refused P hrefused), List.append_nil,
      Function.update_eq_self]
  have hothers : (step P ids d (.deliver .first k draws)).view .second = d.view .second :=
    view_deliver_peer hin
  have hpeer : (step P ids d (.deliver .first k draws)).loop .second = d.loop .second :=
    loop_deliver_peer hin
  have htaken : (step P ids d (.deliver .first k draws)).taken .second = d.taken .second :=
    (taken_deliver hin .second).trans (if_neg fun hs => nomatch hs.1)
  refine h.of_same hlinked (Side.both ?_ ?_) (Side.both (fun hrunning => absurd hrunning hover)
    (fun hrunning => ⟨hpeer ▸ hrunning, ?_, htaken⟩)) htaken hscreen
  · rw [h.view_chat hreturned hin harm henvelope]
  · rw [hothers]
  · rw [hothers]

/-- A chat message reaches the responder, which reads it. -/
theorem Talk.deliver_second (hdh : P.DhCommutes) (haead : P.AeadRoundTrip)
    (hsig : P.SignaturesVerify) {k : Nat} {draws : Draws B} {text : Bytes × Int}
    {envelope : NetworkEnvelope} (h : d.Talk P c greeting texts)
    (hreturned : (d.loop .second).returned = none)
    (hlinked : (step P ids d (.deliver .second k draws)).Linked P c)
    (hnew : k ∉ d.arrived .second) (hin : d.inbound ids .second k = some envelope)
    (hk : preamble .first ≤ k) (horderly : d.Orderly (.deliver .second k draws))
    (harm : envelope.arm = .chat) (htext : (texts .first)[k - preamble .first]? = some text)
    (henvelope : c.envelopeAt P .first (k - preamble .first) text.1 text.2 = some envelope) :
    (step P ids d (.deliver .second k draws)).Talk P c greeting texts := by
  obtain ⟨hbound, hlimit⟩ := horderly hk
  have hfresh : k - preamble .first ∉ d.taken .second := not_mem_taken hnew hk
  have hsession : ((d.loop .second).state.app.noted (ids .first)).session = _ :=
    h.session .second hreturned
  have hturn : d.taken .second ≠ [] ∨ (texts .second).length = 0 := by
    by_cases hspoken : texts .second = []
    · exact Or.inr (List.length_eq_zero_iff.mpr hspoken)
    · exact Or.inl (h.turn hspoken)
  have hdecrypt := ChatPair.decrypt_responder hdh haead hsig (texts .second).length hturn
    henvelope hfresh (h.bound_concat hbound) hlimit
  obtain ⟨app', hread⟩ := App.readChat_ok P hsession
    (ChatPair.envelopeAt_conversationId henvelope) h.bindable hdecrypt draws.now
  have hscreen : (step P ids d (.deliver .second k draws)).screen = Function.update d.screen
      .second (d.screen .second ++ [.received (ids .first) text.1]) :=
    screen_deliver hin hreturned (App.printsDirect_chat P harm hread)
  have htaken : (step P ids d (.deliver .second k draws)).taken .second =
      d.taken .second ++ [k - preamble .first] :=
    (taken_deliver hin .second).trans (if_pos ⟨rfl, hk⟩)
  have hkept : (step P ids d (.deliver .second k draws)).taken .first = d.taken .first :=
    (taken_deliver hin .first).trans (if_neg fun hs => nomatch hs.1)
  have hview : (step P ids d (.deliver .second k draws)).view .second = _ :=
    h.view_chat hreturned hin harm henvelope
  refine h.read hlinked htext hfresh hbound ?_ ?_ (loop_deliver_peer hin) htaken hkept hscreen
  · rw [hview]
    refine congrArg some ((congrArg Outcome.state hdecrypt).trans ?_)
    show c.sessionWith P .second _ = c.sessionWith P .second ((c.pairing P).responderAt P _ _
      (!(d.taken .second ++ [k - preamble .first]).isEmpty))
    rw [show (d.taken .second ++ [k - preamble .first]).isEmpty = false from by simp]
    rfl
  · rw [hview]

/-- A message arrives. -/
theorem Talk.deliver (hdh : P.DhCommutes) (haead : P.AeadRoundTrip) (hsig : P.SignaturesVerify)
    {k : Nat} {draws : Draws B} {envelope : NetworkEnvelope} (h : d.Talk P c greeting texts)
    (hreturned : (d.loop s).returned = none) (hnew : k ∉ d.arrived s)
    (hin : d.inbound ids s k = some envelope)
    (hrouted : envelope.kind = KIND_DIRECT → envelope.arm = .chat)
    (horderly : d.Orderly (.deliver s k draws)) :
    (step P ids d (.deliver s k draws)).Talk P c greeting texts := by
  have hlinked : (step P ids d (.deliver s k draws)).Linked P c :=
    h.linked.deliver hreturned hnew hin hrouted
  have hsent := inbound_eq_some hin
  by_cases hk : preamble s.peer ≤ k
  · obtain ⟨text, htext, henvelope⟩ := h.chat hsent hk
    have harm := hrouted (ChatPair.envelopeAt_kind henvelope)
    cases s with
    | first => exact h.deliver_first hsig hreturned hlinked hin harm henvelope
    | second =>
      exact h.deliver_second hdh haead hsig hreturned hlinked hnew hin hk horderly harm htext
        henvelope
  · -- what is left of the preamble is the group key
    refine h.deliver_groupKey hreturned hlinked hin hk ?_
    rcases h.linked.sent s k _ hsent hnew with hkind | harm
    · exact absurd (hrouted hkind) (h.control hsent (not_le.mp hk))
    · exact harm

/-- Every run that keeps to what the ratchet can skip. -/
theorem talk_run {da db : BootDraws B} [LawfulSerde (PreKeyBundle B)]
    [LawfulSerde (PqxdhPrekeyMessage B)] (harrays : P.ArraysRoundTrip) (hdh : P.DhCommutes)
    (hkem : P.KemRoundTrip) (hsig : P.SignaturesVerify) (haead : P.AeadRoundTrip)
    (h : d.Stage P da db ids fun c d => ∃ texts, d.Talk P c greeting texts)
    (hgreeting : greeting = App.greetingOf (randomHexDeviceId P da.deviceId))
    {es : List (Event B)} (hvalid : ((machine P ids).restrict Orderly).Valid d es) :
    ((machine P ids).run d es).Stage P da db ids fun c d => ∃ texts, d.Talk P c greeting texts := by
  rw [← Machine.run_restrict Orderly]
  refine Machine.invariant (fun d e h henabled => ?_) h hvalid
  obtain ⟨henabled, horderly⟩ := henabled
  cases e with
  | turn s input =>
    exact h.turn henabled.1 henabled.2 fun c ⟨texts, hc⟩ => hc.take hdh henabled.1 henabled.2
  | deliver s k draws =>
    obtain ⟨hreturned, hnew, envelope, hin, hrouted⟩ := henabled
    exact h.deliver harrays hdh hkem hsig hreturned hnew hin
      (fun hrunning hat => hgreeting ▸ hat.talk harrays hdh draws hrunning)
      fun c ⟨texts, hc⟩ => ⟨texts, hc.deliver hdh haead hsig hreturned hnew hin hrouted horderly⟩

end Conversation

end Duo

/-! ## What the users read -/

section Screens

variable {P : Primitives B} [Serde (HybridSignature B)] [Serde (RatchetMessageHeader B)]
  [Serde (PreKeyBundle B)] [Serde (PqxdhPrekeyMessage B)] [Serde (GroupKeyDistribution B)]
  [Serde (SessionKeys B)] [Serde (RatchetSnapshot B)] [Serde SenderKeyMessage]
  [DecidableEq (B X25519_PUBLIC_KEY_SIZE)] [LawfulSerde (HybridSignature B)]
  [LawfulSerde (RatchetMessageHeader B)] [LawfulSerde (PreKeyBundle B)]
  [LawfulSerde (PqxdhPrekeyMessage B)] {da db : BootDraws B}

/-- Two nodes that start without a session, whatever their users type and
whatever else their loops take.  The chat messages of the initiator are its
greeting and then the lines that its user sees as sent.  The user of the
responder reads those of them that have arrived: each once, in the order of
arrival and with the text that was typed.  The user of the initiator reads
nothing. -/
theorem lines_arrive (harrays : P.ArraysRoundTrip) (hdh : P.DhCommutes) (hkem : P.KemRoundTrip)
    (hsig : P.SignaturesVerify) (haead : P.AeadRoundTrip) (ids : Side → PeerId)
    (na : NodeDatabase P da) (nb : NodeDatabase P db) (initiator : App B)
    (hstart : App.startInitiator na.store (ids .second) = .ok initiator)
    (hfresh : initiator.session = none) (es : List (Duo.Event B))
    (hvalid : ((Duo.machine P ids).restrict Duo.Orderly).Valid
      (.start initiator (App.startResponder nb.store (firstPrekey P db))) es) (d : Duo B)
    (hd : d = (Duo.machine P ids).run
      (.start initiator (App.startResponder nb.store (firstPrekey P db))) es) :
    (d.shown .second).map some = (d.taken .second).map (fun k =>
        (App.greetingOf na.store.deviceId :: (d.said .first).map asBytes)[k]?) ∧
      (d.taken .second).Nodup ∧ d.shown .first = [] := by
  have hstage := Duo.talk_run harrays hdh hkem hsig haead
    (Duo.stage_start na nb hstart hfresh) rfl hvalid
  rw [← hd] at hstage
  have hearly : ∀ {p : Progress B}, d.At P da db p → (∀ k ∈ p.arrived .second, k < 3) →
      (d.shown .second).map some = (d.taken .second).map (fun k =>
        (App.greetingOf na.store.deviceId :: (d.said .first).map asBytes)[k]?) ∧
      (d.taken .second).Nodup ∧ d.shown .first = [] := by
    intro p h hnone
    have htaken : d.taken .second = [] := by
      unfold Duo.taken
      rw [h.arrived]
      exact List.filterMap_eq_nil_iff.mpr fun k hk => if_neg (Nat.not_le.mpr (hnone k hk))
    rw [htaken]
    unfold Duo.shown
    rw [h.screen, h.screen]
    exact ⟨rfl, .nil, rfl⟩
  cases hstage with
  | idle h => exact hearly h nofun
  | asked t₀ h => exact hearly h nofun
  | offered t₀ t₁ h => exact hearly h (by simp [Progress.offered, Side.of])
  | answered t₀ t₁ t₂ output message hagree hidentity h =>
    exact hearly h (by simp [Progress.answered, Side.of])
  | accepted t₀ t₁ t₂ t₃ output message key h =>
    exact hearly (h key) (by simp [Progress.accepted, Side.of])
  | linked secret initiatorKey responderKey h =>
    obtain ⟨texts, h⟩ := h
    refine ⟨?_, h.nodup, h.silent⟩
    have hshown := h.shown
    rcases h.said with hsaid | ⟨htexts, -, -⟩
    · rw [hshown]
      refine List.map_congr_left fun k _ => ?_
      rw [← List.getElem?_map, hsaid]
      rfl
    · -- nothing was said, so nothing has been taken
      have hnone : d.taken .second = [] := by
        refine List.eq_nil_iff_forall_not_mem.mpr fun k hk => ?_
        have hmem := List.mem_map_of_mem (f := fun k => (texts .first)[k]?.map Prod.fst) hk
        rw [← hshown, htexts] at hmem
        obtain ⟨text, -, htext⟩ := List.mem_map.mp hmem
        cases htext
      rw [hshown, hnone]
      rfl

end Screens

/-! ## A conversation over symbolic keys -/

namespace Sym

/-- The two nodes of `duo` with short values. -/
def hashedDuo : Duo Sym := .start hashedInitiator hashedResponder

/-- The line overtakes the group key and the greeting. -/
def conversation : List (Duo.Event Sym) :=
  [.turn .first (.event (.peerConnected [1]) draws), .deliver .second 0 draws,
    .deliver .first 0 draws, .deliver .second 1 draws, .deliver .first 1 draws,
    .turn .first (.line "how are you" draws), .deliver .second 4 draws,
    .deliver .second 2 draws, .deliver .second 3 { draws with messageNonce := 6 }]

end Sym

open scoped Presidium.Sym in
theorem lines_arrive_conversation :
    (((Duo.machine Sym.hashed Sym.duoIds).run Sym.hashedDuo Sym.conversation).shown .second).map
        some =
      [some (asBytes "how are you"), some (asBytes "hello from 4647")] := by
  have hvalid : ((Duo.machine Sym.hashed Sym.duoIds).restrict Duo.Orderly).Valid Sym.hashedDuo
      Sym.conversation := by
    decide +kernel
  have htaken : ((Duo.machine Sym.hashed Sym.duoIds).run Sym.hashedDuo Sym.conversation).taken
      .second = [1, 0] := by
    decide +kernel
  have hsaid : ((Duo.machine Sym.hashed Sym.duoIds).run Sym.hashedDuo Sym.conversation).said
      .first = ["how are you"] := by
    decide +kernel
  have hid : (NodeDatabase.first Sym.hashed Sym.aliceBoot).store.deviceId = "4647" := by
    decide +kernel
  obtain ⟨hshown, -⟩ := lines_arrive (P := Sym.hashed) Sym.arraysRoundTrip Sym.dhCommutes_hashed
    Sym.kemRoundTrip_hashed Sym.signaturesVerify_hashed Sym.aeadRoundTrip_hashed Sym.duoIds
    (.first Sym.hashed Sym.aliceBoot) (.first Sym.hashed Sym.firstBoot) Sym.hashedInitiator
    rfl rfl Sym.conversation hvalid
    ((Duo.machine Sym.hashed Sym.duoIds).run Sym.hashedDuo Sym.conversation) rfl
  rw [hshown, htaken, hsaid, hid]
  rfl

end Presidium
