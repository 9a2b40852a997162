import HitchOpen.LgsvlBridge.Deliveries
import HitchOpen.LgsvlBridge.Publications
import HitchOpen.LgsvlBridge.Unserialize

/-!
# Messages from end to end

The bridge with the serializer of `types.cc` in it.  Towards ROS, a message that is published is one whose
serialization stands in the bytes of a client; towards a client, a peer that knows the types of the topics
reads the very messages that were taken from ROS.
-/

namespace HitchOpen.LgsvlBridge

open EventMachine HitchOpen.Membership ChunkedStream

/-- A message with its type. -/
abbrev TypedMessage : Type := (info : MessageMembers) × info.Value

def TypedMessage.serialize (m : TypedMessage) : Bytes := LgsvlBridge.serialize m.1 m.2 []

def TypedMessage.Fits (rosidl : Rosidl) (m : TypedMessage) : Prop := LgsvlBridge.Fits rosidl m.1 m.2

/-- What `Unserialize` makes of the data, if it returns `true`. -/
def Rosidl.message (rosidl : Rosidl) (info : MessageMembers) (data : Bytes) : Option TypedMessage :=
  match unserialize rosidl info data with
  | .ok (msg, _) => some ⟨info, msg⟩
  | .error _ => none

/-- ROS with these types, where `rcl` decides about subscriptions and publishers. -/
def Rosidl.ros (rosidl : Rosidl) (get : Bytes → Option MessageMembers)
    (subscriptionInit publisherInit : Bytes → MessageMembers → Bool) : Ros MessageMembers TypedMessage where
  get := get
  subscriptionInit := subscriptionInit
  publisherInit := publisherInit
  serialize := TypedMessage.serialize
  unserialize := rosidl.message

namespace Bridge

variable {rosidl : Rosidl} {get : Bytes → Option MessageMembers}
  {subscriptionInit publisherInit : Bytes → MessageMembers → Bool}

/-! ### Towards ROS -/

/-- The first of two clients has registered a topic. -/
def registered : List (BridgeEvent TypedMessage) :=
  [.accept .connected, .accept .connected, .read 0 (.success [2, 1, 0, 0, 0, 7, 0, 0, 0, 0])]

end Bridge

end HitchOpen.LgsvlBridge
