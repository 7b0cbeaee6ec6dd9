import BitDemon.Library.Bits
import BitDemon.Library.Machine

set_option autoImplicit false

/-!
# The loop of a connection

Each frame starts with a length word. Zero asks for an echo, and one other value
stands for a notice of buffer space; everything else is the length of a message.
-/

namespace BitDemon

open Machine Bits

namespace BdSocket

def maxMessageSize : UInt32 := 0x4000000

def bufferSpaceHeader : UInt32 := 180

inductive ConnectionError (ε : Type) where
  | io
  | incompleteMessageHeader
  | messageTooLarge (msgSize : UInt32)
  -- from the echo of a ping, or from handling a message
  | service (e : ε)
  deriving DecidableEq

inductive Passed where
  | ping
  | message (msg : List UInt8)
  deriving DecidableEq

/-- What the loop calls: the echo, and `BdMessage::new` with the handler after it. -/
structure Service (ε σ : Type) where
  sendPing : Machine ε σ Unit
  handleMessage : List UInt8 → Machine ε σ Unit

structure Served (σ : Type) where
  -- history
  passed : List Passed
  state : σ

structure Connection (σ : Type) where
  input : List UInt8
  -- at the end of the input, a read returns nothing or fails
  closed : Bool
  served : Served σ

abbrev LoopM (ε σ α : Type) := Machine (ConnectionError ε) (Connection σ) α

variable {ε σ : Type}

def readFirst : LoopM ε σ (Option UInt8) := do
  let c ← get
  match c.input with
  | [] => if c.closed then pure none else throw .io
  | first :: rest => do
    set { c with input := rest }
    pure (some first)

def readExact (n : Nat) (failure : ConnectionError ε) : LoopM ε σ (List UInt8) := do
  let c ← get
  if n ≤ c.input.length then do
    set { c with input := c.input.drop n }
    pure (c.input.take n)
  else
    throw failure

abbrev ServeM (ε σ α : Type) := Machine (ConnectionError ε) (Served σ) α

def pass (what : Passed) (m : Machine ε σ Unit) : ServeM ε σ Unit := fun s =>
  match exec m s.state with
  | (.ok (), state) => (.ok (), { passed := s.passed ++ [what], state := state })
  | (.error e, state) => (.error (.service e), { passed := s.passed ++ [what], state := state })

def serving {α : Type} (m : ServeM ε σ α) : LoopM ε σ α := fun c =>
  match exec m c.served with
  | (outcome, served) => (outcome, { c with served := served })

/-- One turn of the loop; `false` when it returns. -/
def turn (service : Service ε σ) : LoopM ε σ Bool := do
  match ← readFirst with
  | none => pure false
  | some first => do
    let rest ← readExact 3 .incompleteMessageHeader
    let header := LeCodec.u32.fromLeBytes (first :: rest)
    if header = 0 then do
      serving (pass .ping service.sendPing)
      pure true
    else if header = bufferSpaceHeader then do
      let _availableBufferSize ← readExact 4 .io
      pure true
    else if header ≤ maxMessageSize then do
      let msg ← readExact header.toNat .io
      serving (pass (.message msg) (service.handleMessage msg))
      pure true
    else
      throw (.messageTooLarge header)

inductive Received where
  | ping
  | bufferSpace
  | message (msg : List UInt8)
  deriving DecidableEq

def received (input : List UInt8) : Option (Received × List UInt8) :=
  if input.length < 4 then
    none
  else
    let header := LeCodec.u32.fromLeBytes (input.take 4)
    let rest := input.drop 4
    if header = 0 then
      some (.ping, rest)
    else if header = bufferSpaceHeader then
      if rest.length < 4 then none else some (.bufferSpace, rest.drop 4)
    else if maxMessageSize < header ∨ rest.length < header.toNat then
      none
    else
      some (.message (rest.take header.toNat), rest.drop header.toNat)

theorem exec_readExact_ok {n : Nat} {c : Connection σ} (failure : ConnectionError ε)
    (enough : n ≤ c.input.length) :
    exec (readExact n failure) c = (.ok (c.input.take n), { c with input := c.input.drop n }) := by
  rw [readExact, exec_bind_ok _ (exec_get c), if_pos enough]
  rfl

theorem exec_readExact_error {n : Nat} {c : Connection σ} (failure : ConnectionError ε)
    (short : c.input.length < n) : exec (readExact n failure) c = (.error failure, c) := by
  rw [readExact, exec_bind_ok _ (exec_get c), if_neg (by omega)]
  rfl

def Received.handle (service : Service ε σ) : Received → ServeM ε σ Unit
  | .ping => pass .ping service.sendPing
  | .bufferSpace => pure ()
  | .message msg => pass (.message msg) (service.handleMessage msg)

/-- A turn that finds no whole frame is the last one, and passes nothing on. -/
def Last (service : Service ε σ) (c : Connection σ) : Prop :=
  ∃ outcome input, exec (turn service) c = (outcome, { c with input := input })
    ∧ outcome ≠ .ok true ∧ ∀ e, outcome ≠ .error (.service e)

theorem exec_readFirst_cons {c : Connection σ} {first : UInt8} {rest : List UInt8}
    (front : c.input = first :: rest) :
    exec (readFirst : LoopM ε σ (Option UInt8)) c = (.ok (some first), { c with input := rest }) := by
  rw [readFirst, exec_bind_ok _ (exec_get c), front]
  rfl

theorem last_of_nil (service : Service ε σ) {c : Connection σ} (empty : c.input = []) :
    Last service c := by
  have read : exec (readFirst : LoopM ε σ (Option UInt8)) c
      = exec (if c.closed then pure none else throw .io : LoopM ε σ (Option UInt8)) c := by
    rw [readFirst, exec_bind_ok _ (exec_get c), empty]
  cases closed : c.closed with
  | true =>
    rw [closed] at read
    refine ⟨.ok false, c.input, ?_, by simp, by simp⟩
    rw [turn, exec_bind_ok _ read]
    rfl
  | false =>
    rw [closed] at read
    exact ⟨.error .io, c.input, exec_bind_error _ read, by simp, by simp⟩

def afterHeader (service : Service ε σ) (header : UInt32) : LoopM ε σ Bool :=
  if header = 0 then do
    serving (pass .ping service.sendPing)
    pure true
  else if header = bufferSpaceHeader then do
    let _availableBufferSize ← readExact 4 .io
    pure true
  else if header ≤ maxMessageSize then do
    let msg ← readExact header.toNat .io
    serving (pass (.message msg) (service.handleMessage msg))
    pure true
  else
    throw (.messageTooLarge header)

theorem exec_turn_header (service : Service ε σ) {c : Connection σ} (enough : 4 ≤ c.input.length) :
    exec (turn service) c
      = exec (afterHeader service (LeCodec.u32.fromLeBytes (c.input.take 4)))
          { c with input := c.input.drop 4 } := by
  cases front : c.input with
  | nil => simp [front] at enough
  | cons first rest =>
    rw [front] at enough
    have three : 3 ≤ ({ c with input := rest } : Connection σ).input.length := by
      simpa using enough
    rw [turn, exec_bind_ok _ (exec_readFirst_cons front)]
    dsimp only
    rw [exec_bind_ok _ (exec_readExact_ok _ three)]
    rfl

theorem exec_serving_true (m : ServeM ε σ Unit) (c : Connection σ) :
    exec (do serving m; pure true) c =
      match exec m c.served with
      | (.ok (), served) => (.ok true, { c with served := served })
      | (.error e, served) => (.error e, { c with served := served }) := by
  have served : exec (serving m) c
      = ((exec m c.served).1, { c with served := (exec m c.served).2 }) := rfl
  rw [exec_bind, served]
  rcases exec m c.served with ⟨_ | _, _⟩ <;> rfl

theorem exec_turn (service : Service ε σ) (c : Connection σ) :
    match received c.input with
    | none => Last service c
    | some (frame, rest) => exec (turn service) c =
        match exec (frame.handle service) c.served with
        | (.ok (), served) => (.ok true, { c with input := rest, served := served })
        | (.error e, served) => (.error e, { c with input := rest, served := served }) := by
  by_cases short : c.input.length < 4
  · rw [received, if_pos short]
    cases front : c.input with
    | nil => exact last_of_nil service front
    | cons first rest =>
      have few : ({ c with input := rest } : Connection σ).input.length < 3 := by
        rw [front, List.length_cons] at short
        dsimp only
        omega
      refine ⟨.error .incompleteMessageHeader, rest, ?_, by simp, by simp⟩
      rw [turn, exec_bind_ok _ (exec_readFirst_cons front)]
      exact exec_bind_error _ (exec_readExact_error _ few)
  · have turned := exec_turn_header service (Nat.le_of_not_lt short)
    rw [received, if_neg short]
    dsimp only
    generalize LeCodec.u32.fromLeBytes (c.input.take 4) = header at turned ⊢
    generalize c.input.drop 4 = rest at turned ⊢
    rw [afterHeader] at turned
    by_cases ping : header = 0
    next =>
      rw [if_pos ping] at turned ⊢
      exact turned.trans (exec_serving_true _ _)
    next =>
      rw [if_neg ping] at turned ⊢
      by_cases notice : header = bufferSpaceHeader
      next =>
        rw [if_pos notice] at turned ⊢
        by_cases few : rest.length < 4
        next =>
          rw [if_pos few]
          refine ⟨.error .io, rest, ?_, by simp, by simp⟩
          rw [turned]
          exact exec_bind_error _ (exec_readExact_error _ few)
        next =>
          rw [if_neg few]
          dsimp only
          rw [turned, exec_bind_ok _ (exec_readExact_ok _ (by dsimp only; omega))]
          rfl
      next =>
        rw [if_neg notice] at turned ⊢
        by_cases fits : header ≤ maxMessageSize
        next =>
          rw [if_pos fits] at turned
          by_cases few : rest.length < header.toNat
          next =>
            rw [if_pos (.inr few)]
            refine ⟨.error .io, rest, ?_, by simp, by simp⟩
            rw [turned]
            exact exec_bind_error _ (exec_readExact_error _ few)
          next =>
            rw [if_neg (not_or.mpr ⟨UInt32.not_lt.mpr fits, few⟩)]
            dsimp only
            rw [turned, exec_bind_ok _ (exec_readExact_ok _ (Nat.le_of_not_lt few))]
            exact exec_serving_true _ _
        next =>
          rw [if_neg fits] at turned
          rw [if_pos (.inl (UInt32.not_le.mp fits))]
          exact ⟨.error (.messageTooLarge header), rest, turned, by simp, by simp⟩

theorem received_shorter {input rest : List UInt8} {frame : Received}
    (found : received input = some (frame, rest)) : rest.length < input.length := by
  unfold received at found
  dsimp only at found
  repeat' split at found
  all_goals cases found
  all_goals
    simp only [List.length_drop]
    omega

theorem turn_shorter {service : Service ε σ} {c d : Connection σ}
    (ran : exec (turn service) c = (.ok true, d)) : d.input.length < c.input.length := by
  have turned := exec_turn service c
  split at turned
  next =>
    obtain ⟨outcome, input, stopped, goes, _⟩ := turned
    rw [ran] at stopped
    exact absurd (Prod.mk.inj stopped).1.symm goes
  next frame rest found =>
    rw [ran] at turned
    generalize exec (frame.handle service) c.served = result at turned
    rcases result with ⟨_ | _, served⟩
    next => cases turned
    next =>
      obtain ⟨_, rfl⟩ := Prod.mk.inj turned
      exact received_shorter found

def connectionLoop (service : Service ε σ) (c : Connection σ) :
    Except (ConnectionError ε) Unit × Connection σ :=
  match _ran : exec (turn service) c with
  | (.ok true, d) => connectionLoop service d
  | (.ok false, d) => (.ok (), d)
  | (.error e, d) => (.error e, d)
termination_by c.input.length
decreasing_by exact turn_shorter _ran

theorem connectionLoop_last {service : Service ε σ} {c : Connection σ} (last : Last service c) :
    (connectionLoop service c).2.served = c.served
      ∧ ∀ e, (connectionLoop service c).1 ≠ .error (.service e) := by
  obtain ⟨outcome, input, ran, goes, own⟩ := last
  unfold connectionLoop
  split
  next d found =>
    rw [ran] at found
    exact absurd (Prod.mk.inj found).1 goes
  next d found =>
    obtain ⟨_, rfl⟩ := Prod.mk.inj (ran.symm.trans found)
    exact ⟨rfl, by simp⟩
  next e d found =>
    obtain ⟨rfl, rfl⟩ := Prod.mk.inj (ran.symm.trans found)
    exact ⟨rfl, fun e same => own e (by simpa using same)⟩

theorem connectionLoop_received {service : Service ε σ} {c : Connection σ} {frame : Received}
    {rest : List UInt8} (found : received c.input = some (frame, rest)) :
    connectionLoop service c =
      match exec (frame.handle service) c.served with
      | (.ok (), served) => connectionLoop service { c with input := rest, served := served }
      | (.error e, served) => (.error e, { c with input := rest, served := served }) := by
  have turned := exec_turn service c
  rw [found] at turned
  dsimp only at turned
  rw [connectionLoop]
  generalize exec (frame.handle service) c.served = result at turned ⊢
  rcases result with ⟨e | ⟨⟩, served⟩
  next =>
    split
    next after ran => rw [turned] at ran; cases ran
    next after ran => rw [turned] at ran; cases ran
    next other after ran =>
      rw [turned] at ran
      obtain ⟨same, rfl⟩ := Prod.mk.inj ran
      obtain rfl := Except.error.inj same
      rfl
  next =>
    split
    next after ran =>
      rw [turned] at ran
      obtain ⟨_, rfl⟩ := Prod.mk.inj ran
      rfl
    next after ran => rw [turned] at ran; cases ran
    next other after ran => rw [turned] at ran; cases ran

abbrev Body := { msg : List UInt8 // 0 < msg.length ∧ msg.length ≤ maxMessageSize.toNat }

inductive Frame where
  | ping
  | bufferSpace (size : UInt32)
  | message (body : Body)

namespace Frame

def lengthWord : Frame → UInt32
  | .ping => 0
  | .bufferSpace _ => bufferSpaceHeader
  | .message body => UInt32.ofNat body.val.length

def payload : Frame → List UInt8
  | .ping => []
  | .bufferSpace size => LeCodec.u32.toLeBytes size
  | .message body => body.val

def encode (frame : Frame) : List UInt8 := LeCodec.u32.toLeBytes frame.lengthWord ++ frame.payload

def content : Frame → Received
  | .ping => .ping
  | .bufferSpace _ => .bufferSpace
  | .message body => .message body.val

/-- The length of the message is the word that stands for a notice of buffer space. -/
def ambiguous : Frame → Bool
  | .message body => body.val.length == bufferSpaceHeader.toNat
  | _ => false

theorem length_word (word : UInt32) : (LeCodec.u32.toLeBytes word).length = 4 :=
  LeCodec.length_toLeBytes _ _

@[simp] theorem length_encode (frame : Frame) : frame.encode.length = 4 + frame.payload.length := by
  rw [encode, List.length_append, length_word]

theorem received_word (word : UInt32) (rest : List UInt8) :
    received (LeCodec.u32.toLeBytes word ++ rest) =
      if word = 0 then some (.ping, rest)
      else if word = bufferSpaceHeader then
        if rest.length < 4 then none else some (.bufferSpace, rest.drop 4)
      else if maxMessageSize < word ∨ rest.length < word.toNat then none
      else some (.message (rest.take word.toNat), rest.drop word.toNat) := by
  have size := length_word word
  have whole : ¬(LeCodec.u32.toLeBytes word ++ rest).length < 4 := by
    rw [List.length_append, size]
    omega
  rw [received, if_neg whole, List.take_left' size, List.drop_left' size,
    LeCodec.fromLeBytes_toLeBytes]

theorem received_short {input : List UInt8} (short : input.length < 4) : received input = none := by
  rw [received, if_pos short]

theorem length_toNat (body : Body) : (UInt32.ofNat body.val.length).toNat = body.val.length := by
  have most : maxMessageSize.toNat < 2 ^ 32 := by decide
  rw [UInt32.toNat_ofNat']
  exact Nat.mod_eq_of_lt (Nat.lt_of_le_of_lt body.property.2 most)

theorem lengthWord_ne_zero (body : Body) : (Frame.message body).lengthWord ≠ 0 := by
  intro same
  have value := congrArg UInt32.toNat same
  rw [lengthWord, length_toNat] at value
  have positive := body.property.1
  rw [value] at positive
  exact absurd positive (by decide)

theorem lengthWord_le_max (body : Body) : ¬maxMessageSize < (Frame.message body).lengthWord := by
  rw [UInt32.not_lt, UInt32.le_iff_toNat_le, lengthWord, length_toNat]
  exact body.property.2

theorem lengthWord_ne_header {body : Body} (clear : (Frame.message body).ambiguous = false) :
    (Frame.message body).lengthWord ≠ bufferSpaceHeader := by
  intro same
  have value := congrArg UInt32.toNat same
  rw [lengthWord, length_toNat] at value
  simp [ambiguous, value] at clear

theorem received_encode {frame : Frame} (clear : frame.ambiguous = false) (rest : List UInt8) :
    received (frame.encode ++ rest) = some (frame.content, rest) := by
  rw [encode, List.append_assoc, received_word]
  cases frame with
  | ping => rfl
  | bufferSpace size =>
    have enough : ¬(LeCodec.u32.toLeBytes size ++ rest).length < 4 := by
      rw [List.length_append, length_word]
      omega
    rw [lengthWord, if_neg (by decide), if_pos rfl, payload, if_neg enough,
      List.drop_left' (length_word size)]
    rfl
  | message body =>
    have enough : ¬(body.val ++ rest).length < (Frame.message body).lengthWord.toNat := by
      rw [lengthWord, length_toNat, List.length_append]
      omega
    rw [if_neg (lengthWord_ne_zero body), if_neg (lengthWord_ne_header clear), payload,
      if_neg (not_or.mpr ⟨lengthWord_le_max body, enough⟩), lengthWord, length_toNat,
      List.take_left' rfl, List.drop_left' rfl]
    rfl

theorem take_encode (frame : Frame) {n : Nat} (word : 4 ≤ n) :
    frame.encode.take n
      = LeCodec.u32.toLeBytes frame.lengthWord ++ frame.payload.take (n - 4) := by
  rw [encode, List.take_append, length_word, List.take_of_length_le]
  rw [length_word]
  exact word

theorem received_cut {frame : Frame} (clear : frame.ambiguous = false) {n : Nat}
    (cut : n < frame.encode.length) : received (frame.encode.take n) = none := by
  by_cases word : n < 4
  · apply received_short
    rw [List.length_take]
    omega
  · have part : (frame.payload.take (n - 4)).length < frame.payload.length := by
      rw [length_encode] at cut
      rw [List.length_take]
      omega
    rw [take_encode frame (by omega), received_word]
    cases frame with
    | ping => simp [payload] at part
    | bufferSpace size =>
      rw [payload, length_word] at part
      rw [lengthWord, if_neg (by decide), if_pos rfl, payload, if_pos part]
    | message body =>
      rw [if_neg (lengthWord_ne_zero body), if_neg (lengthWord_ne_header clear), if_pos]
      right
      rw [lengthWord, length_toNat]
      exact part

theorem received_ambiguous {frame : Frame} (mistaken : frame.ambiguous = true) (n : Nat) :
    received (frame.encode.take n) = some (.bufferSpace, (frame.encode.take n).drop 8)
      ∨ received (frame.encode.take n) = none ∧ (frame.encode.take n).drop 8 = [] := by
  by_cases word : n < 4
  · right
    constructor
    · apply received_short
      rw [List.length_take]
      omega
    · rw [List.drop_eq_nil_iff, List.length_take]
      omega
  · have header : frame.lengthWord = bufferSpaceHeader := by
      cases frame with
      | ping => cases mistaken
      | bufferSpace size => rfl
      | message body =>
        rw [← UInt32.toNat_inj, lengthWord, length_toNat]
        simpa [ambiguous] using mistaken
    have dropped : (frame.encode.take n).drop 8 = (frame.payload.take (n - 4)).drop 4 := by
      rw [take_encode frame (by omega), List.drop_append, length_word, List.drop_of_length_le]
      · rfl
      · rw [length_word]
        omega
    rw [dropped, take_encode frame (by omega), received_word, if_neg (by rw [header]; decide),
      if_pos header]
    by_cases few : (frame.payload.take (n - 4)).length < 4
    · rw [if_pos few]
      right
      exact ⟨rfl, List.drop_of_length_le (by omega)⟩
    · rw [if_neg few]
      left
      rfl

end Frame

/-- Every input is some frames and then a rest in which no whole frame is found. -/
theorem received_induction {motive : List UInt8 → Prop}
    (stop : ∀ input, received input = none → motive input)
    (next : ∀ input frame rest, received input = some (frame, rest) → motive rest → motive input)
    (input : List UInt8) : motive input := by
  induction size : input.length using Nat.strong_induction_on generalizing input with
  | _ size ih =>
    cases found : received input with
    | none => exact stop input found
    | some front =>
      have shorter := received_shorter found
      exact next input front.1 front.2 found (ih _ (by omega) front.2 rfl)

def Received.passed : Received → List Passed
  | .ping => [.ping]
  | .bufferSpace => []
  | .message msg => [.message msg]

theorem pass_passed (what : Passed) (m : Machine ε σ Unit) (s : Served σ) :
    (exec (pass what m) s).2.passed = s.passed ++ [what] := by
  rw [exec, pass]
  rcases exec m s.state with ⟨_ | ⟨⟩, _⟩ <;> rfl

theorem handle_passed (service : Service ε σ) (frame : Received) (s : Served σ) :
    (exec (frame.handle service) s).2.passed = s.passed ++ frame.passed := by
  cases frame with
  | ping => exact pass_passed _ _ _
  | bufferSpace => exact (List.append_nil _).symm
  | message msg => exact pass_passed _ _ _

theorem connectionLoop_none {service : Service ε σ} {c : Connection σ}
    (nothing : received c.input = none) :
    (connectionLoop service c).2.served = c.served
      ∧ ∀ e, (connectionLoop service c).1 ≠ .error (.service e) := by
  have turned := exec_turn service c
  rw [nothing] at turned
  exact connectionLoop_last turned

theorem connectionLoop_keeps {service : Service ε σ} {kept : Served σ → Prop}
    (keeps : ∀ input frame rest s, received input = some (frame, rest) → kept s →
      kept (exec (frame.handle service) s).2)
    (c : Connection σ) (start : kept c.served) : kept (connectionLoop service c).2.served := by
  obtain ⟨input, closed, served⟩ := c
  induction input using received_induction generalizing served with
  | stop input nothing =>
    rw [(connectionLoop_none nothing).1]
    exact start
  | next input frame rest found ih =>
    have after := keeps input frame rest served found start
    rw [connectionLoop_received found]
    dsimp only
    generalize exec (frame.handle service) served = result at after ⊢
    rcases result with ⟨e | ⟨⟩, later⟩
    · exact after
    · exact ih later after

theorem passed_prefix (service : Service ε σ) (c : Connection σ) :
    c.served.passed <+: (connectionLoop service c).2.served.passed := by
  refine @connectionLoop_keeps _ _ _ (fun s => c.served.passed <+: s.passed) ?_ c
    (List.prefix_refl _)
  intro input frame rest s _ before
  rw [handle_passed]
  exact before.trans (List.prefix_append _ _)

theorem received_length {input rest msg : List UInt8}
    (found : received input = some (.message msg, rest)) :
    msg.length ≠ bufferSpaceHeader.toNat := by
  rw [received] at found
  dsimp only at found
  repeat' split at found
  all_goals cases found
  rename_i notice fits
  rw [not_or, Nat.not_lt] at fits
  rw [List.length_take, Nat.min_eq_left fits.2]
  exact fun same => notice (UInt32.toNat_inj.mp same)

def NeverMistaken (s : Served σ) : Prop :=
  ∀ msg, Passed.message msg ∈ s.passed → msg.length ≠ bufferSpaceHeader.toNat

theorem connectionLoop_neverMistaken (service : Service ε σ) (c : Connection σ)
    (start : NeverMistaken c.served) : NeverMistaken (connectionLoop service c).2.served := by
  refine connectionLoop_keeps ?_ c start
  intro input frame rest s found before msg passed
  rw [handle_passed, List.mem_append] at passed
  rcases passed with earlier | now
  · exact before msg earlier
  · cases frame with
    | ping => simp [Received.passed] at now
    | bufferSpace => simp [Received.passed] at now
    | message body =>
      obtain rfl : msg = body := by simpa [Received.passed] using now
      exact received_length found

inductive Speaks : List UInt8 → Prop where
  | here {input rest : List UInt8} {frame : Received} (found : received input = some (frame, rest))
      (passed : frame ≠ .bufferSpace) : Speaks input
  | later {input rest : List UInt8} (found : received input = some (.bufferSpace, rest))
      (speaks : Speaks rest) : Speaks input

theorem connectionLoop_silent {service : Service ε σ} (c : Connection σ)
    (silent : ¬Speaks c.input) :
    (connectionLoop service c).2.served = c.served
      ∧ ∀ e, (connectionLoop service c).1 ≠ .error (.service e) := by
  obtain ⟨input, closed, served⟩ := c
  induction input using received_induction with
  | stop input nothing => exact connectionLoop_none nothing
  | next input frame rest found ih =>
    by_cases notice : frame = .bufferSpace
    next =>
      subst notice
      rw [connectionLoop_received found]
      exact ih fun speaks => silent (.later found speaks)
    next => exact absurd (Speaks.here found notice) silent

theorem connectionLoop_speaks {service : Service ε σ} {input : List UInt8}
    (speaks : Speaks input) (closed : Bool) (served : Served σ) :
    (connectionLoop service { input := input, closed := closed, served := served }).2.served
      ≠ served := by
  induction speaks with
  | @here input rest frame found passed =>
    have longer := handle_passed service frame served
    have grows : (exec (frame.handle service) served).2.passed
        <+: (connectionLoop service ⟨input, closed, served⟩).2.served.passed := by
      rw [connectionLoop_received found]
      dsimp only
      generalize exec (frame.handle service) served = result
      rcases result with ⟨e | ⟨⟩, later⟩
      · exact List.prefix_refl _
      · exact passed_prefix service ⟨rest, closed, later⟩
    intro same
    rw [same, longer] at grows
    have length := grows.length_le
    rw [List.length_append] at length
    cases frame with
    | ping => exact Nat.not_succ_le_self _ length
    | bufferSpace => exact passed rfl
    | message msg => exact Nat.not_succ_le_self _ length
  | later found speaks ih =>
    rw [connectionLoop_received found]
    exact ih

def serve (service : Service ε σ) : List Frame → ServeM ε σ Unit
  | [] => pure ()
  | frame :: rest => do
    frame.content.handle service
    serve service rest

/-- No frame the loop gets to is a message whose length is taken for a notice. -/
def Clear (service : Service ε σ) : List Frame → Served σ → Prop
  | [], _ => True
  | frame :: rest, s => frame.ambiguous = false ∧
      ∀ t, exec (frame.content.handle service) s = (.ok (), t) → Clear service rest t

structure Arrived where
  frames : List Frame
  last : Frame
  n : Fin last.encode.length

namespace Arrived

def cut (arrived : Arrived) : List UInt8 := arrived.last.encode.take arrived.n

def bytes (arrived : Arrived) : List UInt8 := arrived.frames.flatMap Frame.encode ++ arrived.cut

end Arrived

def Recovers (service : Service ε σ) (arrived : Arrived) (closed : Bool) (state : σ) : Prop :=
  let served := { passed := [], state := state }
  let loop := connectionLoop service { input := arrived.bytes, closed := closed, served := served }
  let meant := exec (serve service arrived.frames) served
  loop.2.served = meant.2 ∧ ∀ e, loop.1 = .error (.service e) ↔ meant.1 = .error (.service e)

section

variable {service : Service ε σ}

theorem exec_serve_cons (frame : Frame) (rest : List Frame) (s : Served σ) :
    exec (serve service (frame :: rest)) s =
      match exec (frame.content.handle service) s with
      | (.ok (), t) => exec (serve service rest) t
      | (.error e, t) => (.error e, t) := by
  rw [serve, exec_bind]
  rcases exec (frame.content.handle service) s with ⟨_ | ⟨⟩, _⟩ <;> rfl

theorem connectionLoop_cons {frame : Frame} (plain : frame.ambiguous = false)
    (frames : List Frame) (rest : List UInt8) (closed : Bool) (s : Served σ) :
    connectionLoop service ⟨(frame :: frames).flatMap Frame.encode ++ rest, closed, s⟩ =
      match exec (frame.content.handle service) s with
      | (.ok (), t) => connectionLoop service ⟨frames.flatMap Frame.encode ++ rest, closed, t⟩
      | (.error e, t) => (.error e, ⟨frames.flatMap Frame.encode ++ rest, closed, t⟩) := by
  rw [List.flatMap_cons, List.append_assoc]
  exact @connectionLoop_received _ _ service ⟨_, closed, s⟩ _ _ (Frame.received_encode plain _)

theorem connectionLoop_frames {frames : List Frame} {s t : Served σ}
    (clear : Clear service frames s) (meant : exec (serve service frames) s = (.ok (), t))
    (rest : List UInt8) (closed : Bool) :
    connectionLoop service ⟨frames.flatMap Frame.encode ++ rest, closed, s⟩
      = connectionLoop service ⟨rest, closed, t⟩ := by
  induction frames generalizing s with
  | nil =>
    obtain rfl : s = t := (Prod.mk.inj meant).2
    rfl
  | cons frame frames ih =>
    obtain ⟨plain, later⟩ := clear
    rw [exec_serve_cons] at meant
    rw [connectionLoop_cons plain]
    generalize exec (frame.content.handle service) s = result at meant later ⊢
    rcases result with ⟨e | ⟨⟩, u⟩
    · cases meant
    · exact ih (later u rfl) meant

theorem connectionLoop_frames_error {frames : List Frame} {s t : Served σ}
    {e : ConnectionError ε} (clear : Clear service frames s)
    (meant : exec (serve service frames) s = (.error e, t)) (rest : List UInt8) (closed : Bool) :
    (connectionLoop service ⟨frames.flatMap Frame.encode ++ rest, closed, s⟩).1 = .error e
      ∧ (connectionLoop service ⟨frames.flatMap Frame.encode ++ rest, closed, s⟩).2.served = t := by
  induction frames generalizing s with
  | nil => cases meant
  | cons frame frames ih =>
    obtain ⟨plain, later⟩ := clear
    rw [exec_serve_cons] at meant
    rw [connectionLoop_cons plain]
    generalize exec (frame.content.handle service) s = result at meant later ⊢
    rcases result with ⟨other | ⟨⟩, u⟩
    · obtain ⟨same, rfl⟩ := Prod.mk.inj meant
      exact ⟨congrArg _ (Except.error.inj same), rfl⟩
    · exact ih (later u rfl) meant

theorem connectionLoop_cut (arrived : Arrived) (closed : Bool) (s : Served σ)
    (silent : arrived.last.ambiguous = true → ¬Speaks (arrived.cut.drop 8)) :
    (connectionLoop service ⟨arrived.cut, closed, s⟩).2.served = s
      ∧ ∀ e, (connectionLoop service ⟨arrived.cut, closed, s⟩).1 ≠ .error (.service e) := by
  cases mistaken : arrived.last.ambiguous with
  | false => exact connectionLoop_none (Frame.received_cut mistaken arrived.n.isLt)
  | true =>
    have quiet := silent mistaken
    rcases Frame.received_ambiguous mistaken arrived.n with found | ⟨nothing, _⟩
    · rw [connectionLoop_received found]
      exact connectionLoop_silent ⟨arrived.cut.drop 8, closed, s⟩ quiet
    · exact connectionLoop_none nothing

theorem connectionLoop_cut_speaks {arrived : Arrived} (closed : Bool) (s : Served σ)
    (mistaken : arrived.last.ambiguous = true) (speaks : Speaks (arrived.cut.drop 8)) :
    (connectionLoop service ⟨arrived.cut, closed, s⟩).2.served ≠ s := by
  rcases Frame.received_ambiguous mistaken arrived.n with found | ⟨_, gone⟩
  · rw [connectionLoop_received found]
    exact connectionLoop_speaks speaks closed s
  · have silent : ¬Speaks [] := by
      intro speaks
      cases speaks with
      | here found => cases found
      | later found => cases found
    rw [← Arrived.cut] at gone
    rw [gone] at speaks
    exact absurd speaks silent

theorem serve_passed_prefix (frames : List Frame) (s : Served σ) :
    s.passed <+: (exec (serve service frames) s).2.passed := by
  induction frames generalizing s with
  | nil => exact List.prefix_refl _
  | cons frame frames ih =>
    have here : s.passed <+: (exec (frame.content.handle service) s).2.passed := by
      rw [handle_passed]
      exact List.prefix_append _ _
    rw [exec_serve_cons]
    generalize exec (frame.content.handle service) s = result at here ⊢
    rcases result with ⟨e | ⟨⟩, t⟩
    · exact here
    · exact here.trans (ih t)

theorem serve_not_clear {frames : List Frame} {s : Served σ} (mistaken : ¬Clear service frames s) :
    ¬NeverMistaken (exec (serve service frames) s).2 := by
  induction frames generalizing s with
  | nil => exact absurd trivial mistaken
  | cons frame frames ih =>
    by_cases plain : frame.ambiguous = false
    next =>
      have later : ∃ t, exec (frame.content.handle service) s = (.ok (), t)
          ∧ ¬Clear service frames t := by
        by_contra none
        refine mistaken ⟨plain, fun t ran => ?_⟩
        by_contra unclear
        exact none ⟨t, ran, unclear⟩
      obtain ⟨t, ran, unclear⟩ := later
      rw [exec_serve_cons, ran]
      exact ih unclear
    next =>
      cases frame with
      | ping => exact absurd rfl plain
      | bufferSpace size => exact absurd rfl plain
      | message body =>
        have length : body.val.length = bufferSpaceHeader.toNat := by
          simpa [Frame.ambiguous] using plain
        have here : (exec (Received.handle service (.message body.val)) s).2.passed
            <+: (exec (serve service (.message body :: frames)) s).2.passed := by
          rw [exec_serve_cons, Frame.content]
          generalize exec (Received.handle service (.message body.val)) s = result
          rcases result with ⟨e | ⟨⟩, t⟩
          · exact List.prefix_refl _
          · exact serve_passed_prefix frames t
        rw [handle_passed] at here
        intro never
        refine never body.val (here.subset ?_) length
        exact List.mem_append_right _ (List.mem_singleton_self _)

theorem neverMistaken_nil (state : σ) :
    NeverMistaken { passed := [], state := state } := by
  intro msg passed
  cases passed

/--
The loop recovers the frames exactly when no message it gets to has the length that
stands for a notice, and what arrived of such a message, if it was cut there, holds no
ping and no message from the fifth byte of its body on.
-/
theorem recovers_iff (service : Service ε σ) (arrived : Arrived) (closed : Bool) (state : σ) :
    Recovers service arrived closed state
      ↔ Clear service arrived.frames { passed := [], state := state }
        ∧ ∀ t, exec (serve service arrived.frames) { passed := [], state := state } = (.ok (), t) →
          arrived.last.ambiguous = true → ¬Speaks (arrived.cut.drop 8) := by
  have fresh : NeverMistaken { passed := [], state := state } := neverMistaken_nil state
  rw [Recovers, Arrived.bytes]
  generalize ({ passed := [], state := state } : Served σ) = served at fresh ⊢
  constructor
  · rintro ⟨same, _⟩
    have clear : Clear service arrived.frames served := by
      by_contra mistaken
      refine serve_not_clear mistaken ?_
      rw [← same]
      exact connectionLoop_neverMistaken service _ fresh
    refine ⟨clear, fun t meant ambiguous speaks => ?_⟩
    rw [connectionLoop_frames clear meant, meant] at same
    exact connectionLoop_cut_speaks closed t ambiguous speaks same
  · rintro ⟨clear, silent⟩
    cases meant : exec (serve service arrived.frames) served with
    | mk result t =>
      cases result with
      | error e =>
        obtain ⟨failed, left⟩ := connectionLoop_frames_error clear meant arrived.cut closed
        refine ⟨left, fun other => ?_⟩
        rw [failed]
      | ok done =>
        obtain ⟨left, own⟩ := connectionLoop_cut arrived closed t (silent t meant)
        rw [connectionLoop_frames clear meant]
        exact ⟨left, fun e => ⟨fun failed => absurd failed (own e), fun failed => by cases failed⟩⟩

def zeros (n : Nat) (positive : 0 < n) (fits : n ≤ maxMessageSize.toNat) : Body :=
  ⟨List.replicate n 0, by rw [List.length_replicate]; exact ⟨positive, fits⟩⟩

def misread : Arrived :=
  { frames := [.message (zeros 180 (by decide) (by decide))],
    last := .ping,
    n := ⟨0, by decide⟩ }

theorem misread_message :
    ¬Recovers { sendPing := pure (), handleMessage := fun _ => pure () : Service Empty Unit }
      misread true () := by
  rintro ⟨same, _⟩
  have never := connectionLoop_neverMistaken
    { sendPing := pure (), handleMessage := fun _ => pure () : Service Empty Unit }
    { input := misread.bytes, closed := true, served := { passed := [], state := () } }
    (neverMistaken_nil ())
  rw [same] at never
  exact never (List.replicate 180 0) (List.mem_singleton_self _) List.length_replicate

end

end BdSocket

end BitDemon
