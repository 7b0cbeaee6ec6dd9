import BitDemon.Lobby.Handling

set_option autoImplicit false

/-!
# The handler of lobby authentications

It is the only handler that serves a session which has not authenticated yet.
-/

namespace BitDemon

open Machine BdReader

-- deserialising the proof, checking it and registering the session it authenticates
structure LsgService (ω : Type) where
  authenticate : BdSession → Title → List UInt8 → Fallible ω Unit

namespace LsgHandler

variable {ω : Type}

def answer (service : LsgService ω) (session : BdSession) : HandleM ω Reply := do
  let titleId ← perform readU32
  let title ← okOr (Title.fromU32 titleId) (.unknownTitle titleId)
  let _ivSeed ← perform readU32
  let authProof ← perform (BdReader.readBytes 128)
  call (service.authenticate session title authProof)
  pure (.connectionId ⟨session.id⟩)

theorem undisturbed_answer {mode : StreamMode} (service : LsgService ω) (session : BdSession) :
    Undisturbed mode (answer service session) := by
  refine keeps_bind (undisturbed_perform safe_readU32) fun titleId => ?_
  have known : Undisturbed mode (okOr (Title.fromU32 titleId) (.unknownTitle titleId) :
      HandleM ω Title) := by
    cases Title.fromU32 titleId with
    | none => exact keeps_throw trivial
    | some title => exact keeps_pure title
  refine keeps_bind known fun title => ?_
  refine keeps_bind (undisturbed_perform safe_readU32) fun _ => ?_
  refine keeps_bind (undisturbed_perform (safe_readBytes 128)) fun authProof => ?_
  exact keeps_bind (undisturbed_call _) fun _ => keeps_pure _

end LsgHandler

end BitDemon
