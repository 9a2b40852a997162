import HitchOpen.Library.History

/-!
# Subscribers that keep the last message

`MsgSubscriber` holds on to the last message of its topic until somebody takes it.  A message that comes
before the one in front of it was taken replaces it.  Besides, it knows whether there has been a message
at all, and when the last one came; taking changes neither.

`msgSubscriber_spec` says what the calls return in any order of messages and calls.
-/

namespace HitchOpen.BaseCommon

open EventMachine HitchOpen.History

variable {M T : Type*}

structure MsgSubscriber (M T : Type*) where
  hasSeenMsg : Bool
  latestMsgTime : T
  lastReceivedMsg : Option M

/-- The calls of a subscriber. -/
inductive SubscriberEvent (M T : Type*)
  /-- `on_msg_received`, with what `now()` gives. -/
  | onMsgReceived (msg : M) (now : T)
  | take
  | hasSeenMsg
  | hasMsg
  | latestMsgTime
  | lastReceivedMsg

/-- What they return. -/
inductive SubscriberAnswer (M T : Type*)
  | take (msg : Option M)
  | hasSeenMsg (seen : Bool)
  | hasMsg (has : Bool)
  | latestMsgTime (time : T)
  | lastReceivedMsg (msg : Option M)

namespace MsgSubscriber

/-- The constructor; `uninitialized` is `rclcpp::Time(0, 0, RCL_CLOCK_UNINITIALIZED)`. -/
def create (uninitialized : T) : MsgSubscriber M T := ⟨false, uninitialized, none⟩

def onMsgReceived (_ : MsgSubscriber M T) (msg : M) (now : T) : MsgSubscriber M T := ⟨true, now, some msg⟩

def take (s : MsgSubscriber M T) : Option M × MsgSubscriber M T :=
  (s.lastReceivedMsg, { s with lastReceivedMsg := none })

def hasMsg (s : MsgSubscriber M T) : Bool := s.lastReceivedMsg.isSome

def step (s : MsgSubscriber M T) :
    SubscriberEvent M T → Reply (MsgSubscriber M T) (SubscriberAnswer M T) Empty
  | .onMsgReceived msg now => .done (s.onMsgReceived msg now) []
  | .take => .done s.take.2 [.take s.take.1]
  | .hasSeenMsg => .done s [.hasSeenMsg s.hasSeenMsg]
  | .hasMsg => .done s [.hasMsg s.hasMsg]
  | .latestMsgTime => .done s [.latestMsgTime s.latestMsgTime]
  | .lastReceivedMsg => .done s [.lastReceivedMsg s.lastReceivedMsg]

end MsgSubscriber

def msgSubscriber (uninitialized : T) :
    Machine (MsgSubscriber M T) (SubscriberEvent M T) (SubscriberAnswer M T) Empty :=
  ⟨.create uninitialized, MsgSubscriber.step⟩

namespace SubscriberEvent

/-! ### What the history says -/

def msg? : SubscriberEvent M T → Option M
  | onMsgReceived msg _ => some msg
  | _ => none

def time? : SubscriberEvent M T → Option T
  | onMsgReceived _ now => some now
  | _ => none

def isTake : SubscriberEvent M T → Bool
  | take => true
  | _ => false

/-- The last message, unless it has been taken. -/
def unread (past : List (SubscriberEvent M T)) : Option M := last msg? (sinceLast isTake past)

/-- What a call is for. -/
def answer (uninitialized : T) (past : List (SubscriberEvent M T)) :
    SubscriberEvent M T → List (SubscriberAnswer M T)
  | onMsgReceived _ _ => []
  | take => [.take (unread past)]
  | hasSeenMsg => [.hasSeenMsg (last msg? past).isSome]
  | hasMsg => [.hasMsg (unread past).isSome]
  | latestMsgTime => [.latestMsgTime ((last time? past).getD uninitialized)]
  | lastReceivedMsg => [.lastReceivedMsg (unread past)]

theorem unread_concat (past : List (SubscriberEvent M T)) (e : SubscriberEvent M T) :
    unread (past ++ [e]) = if isTake e then none else (msg? e).or (unread past) := by
  rw [unread, sinceLast_concat]
  cases isTake e with
  | true => rfl
  | false => exact last_concat msg? _ e

end SubscriberEvent

open SubscriberEvent

/-! ### Runs -/

/-- What the members are after the calls `past`. -/
structure Holds (uninitialized : T) (past : List (SubscriberEvent M T)) (s : MsgSubscriber M T) : Prop where
  hasSeenMsg : s.hasSeenMsg = (last msg? past).isSome
  latestMsgTime : s.latestMsgTime = (last time? past).getD uninitialized
  lastReceivedMsg : s.lastReceivedMsg = unread past

theorem remembers_msgSubscriber (uninitialized : T) :
    Remembers (msgSubscriber uninitialized : Machine _ (SubscriberEvent M T) _ _) (answer uninitialized)
      (Holds uninitialized) where
  goesOn past s e _ := by cases e <;> rfl
  replies past s e h := by
    obtain ⟨hseen, htime, hmsg⟩ := h
    cases e with
    | onMsgReceived msg now => rfl
    | take => exact congrArg (fun m => [SubscriberAnswer.take m]) hmsg
    | hasSeenMsg => exact congrArg (fun b => [SubscriberAnswer.hasSeenMsg b]) hseen
    | hasMsg => exact congrArg (fun m => [SubscriberAnswer.hasMsg m.isSome]) hmsg
    | latestMsgTime => exact congrArg (fun t => [SubscriberAnswer.latestMsgTime t]) htime
    | lastReceivedMsg => exact congrArg (fun m => [SubscriberAnswer.lastReceivedMsg m]) hmsg
  keeps past s e h := by
    obtain ⟨hseen, htime, hmsg⟩ := h
    refine ⟨?_, ?_, ?_⟩
    · rw [last_concat]
      cases e with
      | onMsgReceived msg now => rfl
      | _ => exact hseen
    · rw [last_concat]
      cases e with
      | onMsgReceived msg now => rfl
      | _ => exact htime
    · rw [unread_concat]
      cases e with
      | onMsgReceived msg now => rfl
      | take => rfl
      | _ => exact hmsg

/-- The message that a call has handed out for good. -/
def SubscriberAnswer.taken? : SubscriberAnswer M T → Option M
  | take msg => msg
  | _ => none

/-- A call takes what can be taken, or leaves it. -/
theorem taken_answer (uninitialized : T) (past : List (SubscriberEvent M T)) {e : SubscriberEvent M T}
    (h : msg? e = none) : (answer uninitialized past e).filterMap SubscriberAnswer.taken? ++
      (unread (past ++ [e])).toList = (unread past).toList := by
  rw [unread_concat, h, Option.none_or]
  cases e with
  | onMsgReceived msg now => cases h
  | take =>
      show [SubscriberAnswer.take (unread past)].filterMap SubscriberAnswer.taken? ++ [] = _
      cases unread past <;> rfl
  | _ => rfl

/-- What has been taken, and after it what can be taken, is a part of what has come. -/
theorem taken_sublist (uninitialized : T) (es : List (SubscriberEvent M T)) :
    ((answers (answer uninitialized) [] es).filterMap SubscriberAnswer.taken? ++
      (unread es).toList).Sublist (es.filterMap msg?) := by
  induction es using List.reverseRecOn with
  | nil => exact List.Sublist.refl _
  | append_singleton es e ih =>
      rw [answers_concat, List.filterMap_append, List.filterMap_append, List.nil_append, List.append_assoc]
      cases h : msg? e with
      | none =>
          rw [taken_answer uninitialized es h, List.filterMap_cons_none h, List.filterMap_nil, List.append_nil]
          exact ih
      | some msg =>
          cases e with
          | onMsgReceived msg' now =>
              rw [unread_concat]
              exact ((List.sublist_append_left _ _).trans ih).append (List.Sublist.refl [msg'])
          | _ => cases h

/-- **The subscriber.**  Whatever the order of messages and calls, every call returns what it is for, and
the messages that have been taken are messages that have come, in their order and each at most once. -/
theorem msgSubscriber_spec (uninitialized : T) (es : List (SubscriberEvent M T)) :
    ((msgSubscriber uninitialized).spin (.create uninitialized) es).outputs =
        answers (answer uninitialized) [] es ∧
      (((msgSubscriber uninitialized).spin (.create uninitialized) es).outputs.filterMap
        SubscriberAnswer.taken?).Sublist (es.filterMap msg?) := by
  have hstart : Holds uninitialized [] (.create uninitialized : MsgSubscriber M T) := ⟨rfl, rfl, rfl⟩
  obtain ⟨-, houtputs⟩ := spin_of_remembers (remembers_msgSubscriber uninitialized) hstart es
  refine ⟨houtputs, ?_⟩
  rw [houtputs]
  exact (List.sublist_append_left _ _).trans (taken_sublist uninitialized es)

end HitchOpen.BaseCommon
