import BitDemon.Networking.Message
import Mathlib.Data.Set.Finite.List

set_option autoImplicit false

/-!
# What is sealed

A sealed message is encrypted under the key of the session, with a digest of
itself in front. Whatever else arrives encrypted is refused. What the server
sends is opened under the key it was framed with.
-/

namespace BitDemon

open Machine Bits

theorem undoes_of_undone {α : Type} [Finite α] {n : Nat} {f g : List α → List α}
    (f_length : ∀ l, l.length = n → (f l).length = n)
    (undone : ∀ l, l.length = n → g (f l) = l) {l : List α} (length : l.length = n) : f (g l) = l := by
  have finite : Finite {l : List α // l.length = n} := (List.finite_length_eq α n).to_subtype
  let onto : {l : List α // l.length = n} → {l : List α // l.length = n} :=
    fun l => ⟨f l.1, f_length l.1 l.2⟩
  have injective : Function.Injective onto := by
    intro a b same
    have undo := congrArg (fun l => g l.1) same
    exact Subtype.ext (by simpa [onto, undone _ a.2, undone _ b.2] using undo)
  obtain ⟨source, reached⟩ := Finite.injective_iff_surjective.mp injective ⟨l, length⟩
  have image : f source.1 = l := congrArg Subtype.val reached
  rw [← image, undone _ source.2]

theorem SessionCrypto.encrypt_decrypt (crypto : SessionCrypto) (key iv : List UInt8) {buf : List UInt8}
    (whole : buf.length % blockSize = 0) : crypto.encrypt key iv (crypto.decrypt key iv buf) = buf := by
  have finite : Finite UInt8 := Finite.of_injective UInt8.toFin fun _ _ same => UInt8.toFin_inj.mp same
  refine @undoes_of_undone UInt8 finite buf.length (crypto.encrypt key iv) (crypto.decrypt key iv)
    ?_ ?_ buf rfl
  · exact fun l length => by rw [crypto.length_encrypt, length]
  · exact fun l length => crypto.decrypt_encrypt key iv l (by rw [length, whole])

namespace BdMessage

def sealed (crypto : SessionCrypto) (key : List UInt8) (seed : UInt32) (message : List UInt8) : List UInt8 :=
  1 :: (LeCodec.u32.toLeBytes seed ++ crypto.encrypt key (crypto.generateIvFromSeed seed)
    (LeCodec.u32.toLeBytes (crypto.calculateHmac (message.drop 1) key) ++ message))

inductive Accepts (crypto : SessionCrypto) (session : BdSession) : List UInt8 → List UInt8 → Prop where
  | unsealed (first : UInt8) (message : List UInt8) (plain : first ≠ 1) :
      Accepts crypto session (first :: message) message
  | sealed (authentication : SessionAuthentication)
      (has : session.authentication = some authentication) (seed : UInt32) (message : List UInt8)
      (typed : message ≠ []) (whole : (4 + message.length) % blockSize = 0) :
      Accepts crypto session (sealed crypto authentication.sessionKey seed message) message

variable {σ : Type} {crypto : SessionCrypto} {session : BdSession}

theorem slice_eq (front middle back : List UInt8) {first last : Nat} (begins : front.length = first)
    (ends : front.length + middle.length = last) :
    (slice (front ++ middle ++ back) first last : Fallible σ (List UInt8)) = pure middle := by
  subst begins ends
  have inside : front.length ≤ front.length + middle.length
      ∧ front.length + middle.length ≤ (front ++ middle ++ back).length := by simp
  have cut : (front ++ middle ++ back).take (front.length + middle.length) = front ++ middle := by
    rw [← List.length_append, List.take_left]
  rw [slice, if_pos inside, cut, List.drop_left]

theorem exec_new_plain {first : UInt8} (plain : first ≠ 1) (message : List UInt8) (s : σ) :
    exec (new crypto session (first :: message)) s = (.ok (BdReader.new message), s) := by
  simp [new, plain, slice]

theorem exec_new_sealed {authentication : SessionAuthentication}
    (has : session.authentication = some authentication) {seed : UInt32} {data : List UInt8} (s : σ)
    (long : 5 ≤ data.length) (whole : data.length % blockSize = 0) :
    let plain := crypto.decrypt authentication.sessionKey (crypto.generateIvFromSeed seed) data
    let hmac := LeCodec.u32.fromLeBytes (plain.take 4)
    let expected := crypto.calculateHmac (plain.drop 5) authentication.sessionKey
    exec (new crypto session (1 :: (LeCodec.u32.toLeBytes seed ++ data))) s
      = (if hmac = expected then .ok (BdReader.new (plain.drop 4))
          else .error (.error (.invalidHmac expected hmac)), s) := by
  intro plain hmac expected
  have four : (LeCodec.u32.toLeBytes seed).length = 4 := LeCodec.length_toLeBytes _ _
  have size : plain.length = data.length := crypto.length_decrypt _ _ _
  generalize bytes : LeCodec.u32.toLeBytes seed = word at four
  have seeded : LeCodec.u32.fromLeBytes word = seed := by rw [← bytes, LeCodec.fromLeBytes_toLeBytes]
  have len : (1 :: (word ++ data)).length = data.length + 5 := by
    rw [List.length_cons, List.length_append, four]
    omega
  -- the buffer and what it is turned into, cut where the source cuts them
  have seedSlice : (slice (1 :: (word ++ data)) 1 5 : Fallible σ (List UInt8)) = pure word :=
    slice_eq [1] word data rfl (by simp [four])
  have dataSlice : (slice (1 :: (word ++ data)) 5 (data.length + 5) : Fallible σ (List UInt8))
      = pure data := by
    have cut := @slice_eq σ (1 :: word) data [] 5 (data.length + 5) (by simp [four]) (by simp [four]; omega)
    rwa [List.append_nil] at cut
  have front : (1 :: (word ++ data)).take 5 = 1 :: word := by simp [four]
  have lenOpened : (1 :: word ++ plain).length = data.length + 5 := by
    rw [List.length_append, List.length_cons, four, size]
    omega
  have hmacSlice : (slice (1 :: word ++ plain) 5 9 : Fallible σ (List UInt8)) = pure (plain.take 4) := by
    have cut := @slice_eq σ (1 :: word) (plain.take 4) (plain.drop 4) 5 9 (by simp [four])
      (by simp [four, size]; omega)
    rwa [List.append_assoc, List.take_append_drop] at cut
  have tailSlice {n : Nat} (few : n ≤ plain.length) :
      (slice (1 :: word ++ plain) (5 + n) (data.length + 5) : Fallible σ (List UInt8))
        = pure (plain.drop n) := by
    have cut := @slice_eq σ (1 :: word ++ plain.take n) (plain.drop n) [] (5 + n) (data.length + 5)
      (by simp [four]; omega) (by simp [four, size]; omega)
    rwa [List.append_nil, List.append_assoc, List.take_append_drop] at cut
  have digested := @tailSlice 5 (by omega)
  have payload := @tailSlice 4 (by omega)
  have decrypts : crypto.decrypt authentication.sessionKey (crypto.generateIvFromSeed seed) data = plain := rfl
  have enough : decide (10 ≤ data.length + 5) = true := decide_eq_true (by omega)
  rw [new]
  simp only [List.head?_cons, okOr_some, pure_bind, has, Option.isSome_some, ensure_true, len, enough,
    seedSlice, dataSlice, unwrap_some, seeded, decryptBufferInPlace, whole, front, if_true, decrypts]
  rw [lenOpened, hmacSlice, pure_bind, digested, pure_bind, payload, pure_bind]
  by_cases same : hmac = expected
  · have agrees : (hmac == expected) = true := beq_iff_eq.mpr same
    rw [if_pos same, agrees, ensure_true, pure_bind]
    rfl
  · have differs : (hmac == expected) = false := beq_eq_false_iff_ne.mpr same
    rw [if_neg same, differs]
    rfl

theorem exec_new_noKey (signedOut : session.authentication = none) (rest : List UInt8) (s : σ) :
    exec (new crypto session (1 :: rest)) s = (.error (.error .noSessionKey), s) := by
  simp only [new, signedOut, List.head?_cons, okOr_some, pure_bind, if_true]
  rfl

theorem exec_new_truncated {authentication : SessionAuthentication}
    (has : session.authentication = some authentication) {rest : List UInt8}
    (short : rest.length < 9) (s : σ) :
    exec (new crypto session (1 :: rest)) s = (.error (.error (.truncatedMessage (rest.length + 1))), s) := by
  have few : decide (10 ≤ rest.length + 1) = false := decide_eq_false (by omega)
  simp only [new, has, List.head?_cons, okOr_some, pure_bind, if_true, Option.isSome_some, ensure_true,
    List.length_cons, few]
  rfl

theorem exec_new_misaligned {authentication : SessionAuthentication}
    (has : session.authentication = some authentication) {rest : List UInt8}
    (enough : 9 ≤ rest.length) (part : (rest.length - 4) % blockSize ≠ 0) (s : σ) :
    exec (new crypto session (1 :: rest)) s = (.error (.error .decryption), s) := by
  have many : decide (10 ≤ rest.length + 1) = true := decide_eq_true (by omega)
  have seedSlice : (slice (1 :: rest) 1 5 : Fallible σ (List UInt8)) = pure (rest.take 4) := by
    have cut := @slice_eq σ [1] (rest.take 4) (rest.drop 4) 1 5 rfl (by simp; omega)
    rwa [List.append_assoc, List.take_append_drop] at cut
  have dataSlice : (slice (1 :: rest) 5 (rest.length + 1) : Fallible σ (List UInt8)) = pure (rest.drop 4) := by
    have cut := @slice_eq σ (1 :: rest.take 4) (rest.drop 4) [] 5 (rest.length + 1) (by simp; omega)
      (by simp; omega)
    rwa [List.append_nil, List.cons_append, List.take_append_drop] at cut
  have misaligned : ¬(rest.drop 4).length % blockSize = 0 := by rwa [List.length_drop]
  simp only [new, has, List.head?_cons, okOr_some, pure_bind, if_true, Option.isSome_some, ensure_true,
    List.length_cons, many, seedSlice, dataSlice, unwrap_some, decryptBufferInPlace, if_neg misaligned]
  rfl

theorem exec_new_of_sealed {authentication : SessionAuthentication}
    (has : session.authentication = some authentication) (seed : UInt32) {message : List UInt8}
    (typed : message ≠ []) (whole : (4 + message.length) % blockSize = 0) (s : σ) :
    exec (new crypto session (sealed crypto authentication.sessionKey seed message)) s
      = (.ok (BdReader.new message), s) := by
  have some : 0 < message.length := List.length_pos_iff.mpr typed
  have digest (word : UInt32) : (LeCodec.u32.toLeBytes word).length = 4 := LeCodec.length_toLeBytes _ _
  generalize hmac : crypto.calculateHmac (message.drop 1) authentication.sessionKey = expected
  have size : (LeCodec.u32.toLeBytes expected ++ message).length = 4 + message.length := by
    rw [List.length_append, digest]
  have opens : crypto.decrypt authentication.sessionKey (crypto.generateIvFromSeed seed)
      (crypto.encrypt authentication.sessionKey (crypto.generateIvFromSeed seed)
        (LeCodec.u32.toLeBytes expected ++ message)) = LeCodec.u32.toLeBytes expected ++ message :=
    crypto.decrypt_encrypt _ _ _ (by rw [size, whole])
  have front : (LeCodec.u32.toLeBytes expected ++ message).take 4 = LeCodec.u32.toLeBytes expected := by
    rw [← digest expected, List.take_left]
  have back : (LeCodec.u32.toLeBytes expected ++ message).drop 4 = message := by
    rw [← digest expected, List.drop_left]
  have tail : (LeCodec.u32.toLeBytes expected ++ message).drop 5 = message.drop 1 := by
    rw [← back, List.drop_drop, back]
  rw [sealed, hmac, exec_new_sealed has s (by rw [crypto.length_encrypt, size]; omega)
    (by rw [crypto.length_encrypt, size, whole])]
  rw [opens, front, back, tail, hmac, LeCodec.fromLeBytes_toLeBytes, if_pos rfl]

theorem sealed_of_exec_new {authentication : SessionAuthentication}
    (has : session.authentication = some authentication) {rest : List UInt8} {reader : BdReader} {s : σ}
    (enough : 9 ≤ rest.length) (whole : (rest.length - 4) % blockSize = 0)
    (ran : (exec (new crypto session (1 :: rest)) s).1 = .ok reader) :
    ∃ seed message, message ≠ [] ∧ (4 + message.length) % blockSize = 0
      ∧ 1 :: rest = sealed crypto authentication.sessionKey seed message ∧ reader = BdReader.new message := by
  have four : (rest.take 4).length = 4 := by rw [List.length_take]; omega
  have word := LeCodec.u32_toLeBytes_fromLeBytes four
  generalize LeCodec.u32.fromLeBytes (rest.take 4) = seed at word
  have split : rest = LeCodec.u32.toLeBytes seed ++ rest.drop 4 := by
    rw [word, List.take_append_drop]
  have length : (rest.drop 4).length = rest.length - 4 := List.length_drop
  generalize rest.drop 4 = data at split length
  rw [split, exec_new_sealed has s (by omega) (by rw [length, whole])] at ran
  generalize opened : crypto.decrypt authentication.sessionKey (crypto.generateIvFromSeed seed) data
    = plain at ran
  have size : plain.length = data.length := by rw [← opened, crypto.length_decrypt]
  have seals : crypto.encrypt authentication.sessionKey (crypto.generateIvFromSeed seed) plain = data := by
    rw [← opened, crypto.encrypt_decrypt _ _ (by rw [length, whole])]
  dsimp only at ran
  split at ran
  next genuine =>
    refine ⟨seed, plain.drop 4, ?_, ?_, ?_, (Except.ok.inj ran).symm⟩
    · intro none
      have empty := congrArg List.length none
      rw [List.length_drop, List.length_nil] at empty
      omega
    · rw [List.length_drop, ← whole]
      congr 1
      omega
    · have digest : LeCodec.u32.toLeBytes (crypto.calculateHmac (plain.drop 5) authentication.sessionKey)
          = plain.take 4 := by
        rw [← genuine, LeCodec.u32_toLeBytes_fromLeBytes (by rw [List.length_take]; omega)]
      rw [sealed, List.drop_drop, digest, List.take_append_drop, seals, ← split]
  next => cases ran

/-- Exactly the sealed messages are accepted of what comes encrypted, and read as what was sealed. -/
theorem new_ok_iff (buf : List UInt8) (reader : BdReader) (s : σ) :
    (exec (new crypto session buf) s).1 = .ok reader
      ↔ ∃ message, Accepts crypto session buf message ∧ reader = BdReader.new message := by
  constructor
  · intro ran
    cases buf with
    | nil => cases ran
    | cons first rest =>
      by_cases encrypted : first = 1
      · subst encrypted
        cases has : session.authentication with
        | none =>
          rw [exec_new_noKey has] at ran
          cases ran
        | some authentication =>
          by_cases short : rest.length < 9
          · rw [exec_new_truncated has short] at ran
            cases ran
          · by_cases whole : (rest.length - 4) % blockSize = 0
            · obtain ⟨seed, message, typed, fills, buffer, rfl⟩ :=
                sealed_of_exec_new has (by omega) whole ran
              rw [buffer]
              exact ⟨message, .sealed authentication has seed message typed fills, rfl⟩
            · rw [exec_new_misaligned has (by omega) whole] at ran
              cases ran
      · rw [exec_new_plain encrypted] at ran
        exact ⟨rest, .unsealed first rest encrypted, (Except.ok.inj ran).symm⟩
  · rintro ⟨message, accepts, rfl⟩
    cases accepts with
    | unsealed first message plain => rw [exec_new_plain plain]
    | sealed authentication has seed message typed whole =>
      rw [exec_new_of_sealed has seed typed whole]

/-- What is not accepted is refused with an error, and nothing has happened. -/
theorem accepted_iff_sealed (crypto : SessionCrypto) (session : BdSession) (buf : List UInt8) (s : σ) :
    (∀ reader, (exec (new crypto session buf) s).1 = .ok reader
        ↔ ∃ message, Accepts crypto session buf message ∧ reader = BdReader.new message)
      ∧ (exec (new crypto session buf) s).2 = s
      ∧ ∀ fault, (exec (new crypto session buf) s).1 = .error fault → fault.isError = true := by
  have yields := (yields_new crypto session buf : Yields (· = s) _ _ _) s rfl
  exact ⟨fun reader => new_ok_iff buf reader s, yields.1, yields.2.2⟩

end BdMessage

namespace BdResponse

def opened (crypto : SessionCrypto) (key : Option (List UInt8)) : List UInt8 → Option (List UInt8)
  | [] => none
  | first :: rest =>
    if first = 1 then
      match key with
      | none => none
      | some key =>
        let seed := LeCodec.u32.fromLeBytes (rest.take 4)
        let plain := crypto.decrypt key (crypto.generateIvFromSeed seed) (rest.drop 4)
        if (rest.drop 4).length % blockSize = 0 ∧ plain.take 4 = LeCodec.u32.toLeBytes responseSignature then
          some (plain.drop 4)
        else
          none
    else
      some rest

theorem nextMultipleOf_blockSize (n : Nat) :
    n ≤ nextMultipleOf n blockSize ∧ nextMultipleOf n blockSize < n + 8
      ∧ nextMultipleOf n blockSize % blockSize = 0 := by
  rw [nextMultipleOf, blockSize]
  omega

theorem encryptBufferInPlace_eq (crypto : SessionCrypto) (buf key iv : List UInt8) :
    ∃ n, n < 8 ∧ (buf ++ List.replicate n (0 : UInt8)).length % blockSize = 0
      ∧ encryptBufferInPlace crypto buf key iv
        = .ok (crypto.encrypt key iv (buf ++ List.replicate n 0)) := by
  obtain ⟨low, high, whole⟩ := nextMultipleOf_blockSize buf.length
  refine ⟨nextMultipleOf buf.length blockSize - buf.length, by omega, ?_, ?_⟩
  · rw [List.length_append, List.length_replicate, Nat.add_sub_cancel' low, whole]
  · have padded : resize buf (nextMultipleOf buf.length blockSize)
        = buf ++ List.replicate (nextMultipleOf buf.length blockSize - buf.length) 0 := by
      rw [resize, List.take_of_length_le low]
    have again : (resize buf (nextMultipleOf buf.length blockSize)).take buf.length = buf := by
      rw [padded, List.take_left]
    have fits : nextMultipleOf buf.length blockSize
        ≤ (resize buf (nextMultipleOf buf.length blockSize)).length := by rw [length_resize]
    rw [encryptBufferInPlace, encryptPadded, if_pos fits, again, padded]

theorem frame_opened {crypto : SessionCrypto} {seed : UInt32} {response : BdResponse}
    {key : Option (List UInt8)} {sent : List UInt8} (framed : response.frame crypto seed key = .ok sent) :
    ∃ body n, sent = LeCodec.u32.toLeBytes (UInt32.ofNat body.length) ++ body ∧ n < 8
      ∧ opened crypto key body = some (response.data ++ List.replicate n 0) := by
  have four (word : UInt32) : (LeCodec.u32.toLeBytes word).length = 4 := LeCodec.length_toLeBytes _ _
  cases key with
  | none =>
    obtain rfl := Except.ok.inj framed
    exact ⟨0 :: response.data, 0, rfl, by decide, by simp [opened]⟩
  | some key =>
    obtain ⟨n, few, whole, packed⟩ := encryptBufferInPlace_eq crypto
      (LeCodec.u32.toLeBytes responseSignature ++ response.data) key (crypto.generateIvFromSeed seed)
    rw [frame, packed] at framed
    obtain rfl := Except.ok.inj framed
    have signed : LeCodec.u32.toLeBytes responseSignature ++ response.data ++ List.replicate n (0 : UInt8)
        = LeCodec.u32.toLeBytes responseSignature ++ (response.data ++ List.replicate n 0) :=
      List.append_assoc _ _ _
    rw [signed] at whole ⊢
    generalize padded : response.data ++ List.replicate n (0 : UInt8) = data at whole ⊢
    have opens := crypto.decrypt_encrypt key (crypto.generateIvFromSeed seed) _ whole
    have size := crypto.length_encrypt key (crypto.generateIvFromSeed seed)
      (LeCodec.u32.toLeBytes responseSignature ++ data)
    generalize crypto.encrypt key (crypto.generateIvFromSeed seed)
      (LeCodec.u32.toLeBytes responseSignature ++ data) = cipher at opens size ⊢
    refine ⟨1 :: (LeCodec.u32.toLeBytes seed ++ cipher), n, ?_, few, ?_⟩
    · have length : (1 :: (LeCodec.u32.toLeBytes seed ++ cipher)).length = cipher.length + 5 := by
        rw [List.length_cons, List.length_append, four]
        omega
      rw [length]
    · have word : (LeCodec.u32.toLeBytes seed ++ cipher).take 4 = LeCodec.u32.toLeBytes seed := by
        rw [← four seed, List.take_left]
      have rest : (LeCodec.u32.toLeBytes seed ++ cipher).drop 4 = cipher := by
        rw [← four seed, List.drop_left]
      have front : (LeCodec.u32.toLeBytes responseSignature ++ data).take 4
          = LeCodec.u32.toLeBytes responseSignature := by
        rw [← four responseSignature, List.take_left]
      have back : (LeCodec.u32.toLeBytes responseSignature ++ data).drop 4 = data := by
        rw [← four responseSignature, List.drop_left]
      rw [padded]
      simp only [opened, if_true, word, rest, LeCodec.fromLeBytes_toLeBytes, size, whole, opens, front, back,
        and_self]

end BdResponse

end BitDemon
