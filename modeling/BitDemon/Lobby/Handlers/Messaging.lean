import BitDemon.Lobby.Handlers.Performance

set_option autoImplicit false

/-!
# The messaging handler

A message goes to one recipient or to as many as are left in the request.
-/

namespace BitDemon

open Machine BdReader

structure DeliveredMessage where
  recipient : UInt64
  sender : UInt64
  senderName : String
  timestamp : UInt32
  payload : List UInt8
  deriving DecidableEq

structure MessageRouter (ω : Type) where
  deliver : DeliveredMessage → Fallible ω Bool
  -- `SystemTime::now()` in seconds, cut to 32 bits
  now : Fallible ω UInt32

inductive MessagingTaskId where
  | sendMessage
  deriving DecidableEq, Repr

namespace MessagingTaskId

def toU8 : MessagingTaskId → UInt8
  | .sendMessage => 8

def all : List MessagingTaskId := [.sendMessage]

def fromU8 (value : UInt8) : Option MessagingTaskId := all.find? fun taskId => taskId.toU8 == value

end MessagingTaskId

namespace MessagingHandler

variable {ω : Type}

def recipientBits : Nat := 5 + 64

def readRecipients (single : Bool) : HandleM ω (List UInt64) :=
  if single then do
    let recipient ← perform readU64
    pure [recipient]
  else
    collectWhile (nextEntryFits recipientBits) (perform readU64)

def deliverAll (router : MessageRouter ω) (sender : SessionAuthentication) (timestamp : UInt32)
    (payload : List UInt8) : List UInt64 → HandleM ω Unit
  | [] => pure ()
  | recipient :: recipients => do
    let _delivered ← call (router.deliver
      { recipient, sender := sender.userId, senderName := sender.username, timestamp, payload })
    deliverAll router sender timestamp payload recipients

def sendMessage (router : MessageRouter ω) (session : BdSession) : HandleM ω Reply := do
  let payload ← perform readBlob
  let _unrecovered ← perform readU32
  let single ← perform readBool
  let recipients ← readRecipients single
  let authentication ← unwrap session.authentication
  let now ← call router.now
  deliverAll router authentication now payload recipients
  withOnlyErrorCode .noError MessagingTaskId.sendMessage.toU8

def handleTask (router : MessageRouter ω) (session : BdSession) (taskIdValue : UInt8) :
    HandleM ω Reply := do
  let _unrecovered ← perform readU8
  match MessagingTaskId.fromU8 taskIdValue with
  | none => withOnlyErrorCode .serviceNotAvailable taskIdValue
  | some .sendMessage => sendMessage router session

theorem undisturbed_readRecipients (single : Bool) :
    Undisturbed .bitMode (readRecipients single : HandleM ω (List UInt64)) :=
  keeps_ite (fun _ => keeps_bind (undisturbed_perform safe_readU64) fun _ => keeps_pure _) fun _ =>
    undisturbed_collectWhile (undisturbed_nextEntryFits _) (undisturbed_perform safe_readU64)

theorem undisturbed_deliverAll {mode : StreamMode} (router : MessageRouter ω)
    (sender : SessionAuthentication) (timestamp : UInt32) (payload : List UInt8)
    (recipients : List UInt64) :
    Undisturbed mode (deliverAll router sender timestamp payload recipients) := by
  induction recipients with
  | nil => exact keeps_pure ()
  | cons recipient recipients ih => exact keeps_bind (undisturbed_call _) fun _ => ih

theorem undisturbed_sendMessage (router : MessageRouter ω) (session : BdSession) :
    Undisturbed .bitMode (sendMessage router session) := by
  refine keeps_bind (undisturbed_perform safe_readBlob) fun payload => ?_
  refine keeps_bind (undisturbed_perform safe_readU32) fun _ => ?_
  refine keeps_bind (undisturbed_perform safe_readBool) fun single => ?_
  refine keeps_bind (undisturbed_readRecipients single) fun recipients => ?_
  refine keeps_bind (undisturbed_unwrap _) fun authentication => ?_
  refine keeps_bind (undisturbed_call _) fun now => ?_
  exact keeps_bind (undisturbed_deliverAll _ _ _ _ _) fun _ => undisturbed_withOnlyErrorCode _ _

theorem undisturbed_handleTask (router : MessageRouter ω) (session : BdSession)
    (taskIdValue : UInt8) : Undisturbed .bitMode (handleTask router session taskIdValue) := by
  refine keeps_bind (undisturbed_perform safe_readU8) fun _ => ?_
  rcases MessagingTaskId.fromU8 taskIdValue with _ | task
  · exact undisturbed_withOnlyErrorCode _ _
  · cases task
    exact undisturbed_sendMessage router session

end MessagingHandler

end BitDemon
