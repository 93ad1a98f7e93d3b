import Presidium.Crypto.Primitives
import Presidium.Lib.Delimited

/-!
# Topic names: `topics.rs` of `presidium-network`

A topic is named after its kind and the id of what it belongs to, the id in
hex.  Hex is an injective code of two characters a byte, and the kinds are told
apart by their first character, so no two topics have the same name
(`topicFor_inj`).
-/

namespace Presidium.Network

def TOPIC_PREFIX : String := "/presidium"

/-- `InvalidAddress`, with its text. -/
inductive TopicError where
  | invalidAddress (text : String)
  deriving DecidableEq, Repr

def topicFor (kind : String) (id : Bytes) : Except TopicError String :=
  if id.isEmpty then .error (.invalidAddress "topic id must not be empty")
  else .ok (TOPIC_PREFIX ++ "/" ++ kind ++ "/" ++ Hex.encode id)

/-- The kinds that the source has a function for. -/
inductive TopicKind where
  | group
  | channel
  | stories
  deriving DecidableEq, Repr

def TopicKind.text : TopicKind → String
  | .group => "group"
  | .channel => "channel"
  | .stories => "stories"

/-- Topic for a group conversation. -/
def groupTopic (conversationId : Bytes) : Except TopicError String :=
  topicFor TopicKind.group.text conversationId

/-- Topic for a channel broadcast. -/
def channelTopic (conversationId : Bytes) : Except TopicError String :=
  topicFor TopicKind.channel.text conversationId

/-- Topic for a device's stories feed. -/
def storiesTopic (deviceId : Bytes) : Except TopicError String :=
  topicFor TopicKind.stories.text deviceId

/-! ## Names tell topics apart -/

theorem topicFor_eq_ok {kind : String} {id : Bytes} {topic : String}
    (h : topicFor kind id = .ok topic) :
    id ≠ [] ∧ topic = TOPIC_PREFIX ++ "/" ++ kind ++ "/" ++ Hex.encode id := by
  unfold topicFor at h
  split at h
  next => cases h
  next hne =>
    cases h
    exact ⟨fun hnil => hne (List.isEmpty_iff.mpr hnil), rfl⟩

/-- Kinds differ in their first character. -/
theorem kind_of_text {kind kind' : TopicKind} {rest rest' : List Char}
    (h : kind.text.toList ++ rest = kind'.text.toList ++ rest') : kind = kind' := by
  cases kind <;> cases kind' <;> simp_all [TopicKind.text]

/-- No two topics have the same name. -/
theorem topicFor_inj {kind kind' : TopicKind} {id id' : Bytes} {topic : String}
    (h : topicFor kind.text id = .ok topic) (h' : topicFor kind'.text id' = .ok topic) :
    kind = kind' ∧ id = id' := by
  have hname : TOPIC_PREFIX ++ "/" ++ kind.text ++ "/" ++ Hex.encode id =
      TOPIC_PREFIX ++ "/" ++ kind'.text ++ "/" ++ Hex.encode id' :=
    (topicFor_eq_ok h).2.symm.trans (topicFor_eq_ok h').2
  have hchars := congrArg String.toList hname
  simp only [String.toList_append, List.append_assoc, List.append_cancel_left_eq] at hchars
  obtain rfl := kind_of_text hchars
  rw [List.append_cancel_left_eq, List.append_cancel_left_eq] at hchars
  exact ⟨rfl, Hex.encode_injective (String.toList_injective hchars)⟩

end Presidium.Network
