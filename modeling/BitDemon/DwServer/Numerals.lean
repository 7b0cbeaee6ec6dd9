import BitDemon.DwServer.Auth

set_option autoImplicit false

/-!
# Numbers as they are written

What is read from the digits of a number is the number.
-/

namespace BitDemon

namespace DwAuth

variable {radix : Nat}

theorem digitValue_digitChar (few : radix ≤ 16) {digit : Nat} (small : digit < radix) :
    digitValue radix (Nat.digitChar digit) = some digit := by
  have each : ∀ r : Fin 17, ∀ d : Fin 16, d.val < r.val →
      digitValue r.val (Nat.digitChar d.val) = some d.val := by decide
  exact each ⟨radix, by omega⟩ ⟨digit, by omega⟩ small

theorem parseDigits_append (radix limit : Nat) (front back : List Char) (value : Nat) :
    parseDigits radix limit value (front ++ back)
      = (parseDigits radix limit value front).bind fun read => parseDigits radix limit read back := by
  induction front generalizing value with
  | nil => rfl
  | cons c front ih =>
    rw [List.cons_append, parseDigits, parseDigits]
    cases digitValue radix c with
    | none => rfl
    | some digit =>
      simp only [Option.bind_eq_bind, Option.bind_some]
      split
      next => exact ih _
      next => rfl

theorem parseDigits_toDigits (two : 1 < radix) (few : radix ≤ 16) {limit n : Nat} (fits : n < limit) :
    parseDigits radix limit 0 (Nat.toDigits radix n) = some n := by
  induction n using Nat.strongRecOn with
  | ind n ih =>
    have last {read digit : Nat} (small : digit < radix) (sum : read * radix + digit = n) :
        parseDigits radix limit read [Nat.digitChar digit] = some n := by
      simp only [parseDigits, digitValue_digitChar few small, Option.bind_eq_bind, Option.bind_some,
        sum, if_pos fits]
    by_cases single : n < radix
    next =>
      rw [Nat.toDigits_of_lt_base single]
      exact last single (by omega)
    next =>
      have less : n / radix < n := Nat.div_lt_self (by omega) two
      rw [Nat.toDigits_of_base_le two (by omega), parseDigits_append,
        ih (n / radix) less (by omega)]
      exact last (Nat.mod_lt n (by omega)) (Nat.div_add_mod' n radix)

theorem mem_toDigits (two : 1 < radix) {n : Nat} {c : Char} (member : c ∈ Nat.toDigits radix n) :
    ∃ digit, digit < radix ∧ c = Nat.digitChar digit := by
  induction n using Nat.strongRecOn with
  | ind n ih =>
    by_cases single : n < radix
    next =>
      rw [Nat.toDigits_of_lt_base single, List.mem_singleton] at member
      exact ⟨n, single, member⟩
    next =>
      rw [Nat.toDigits_of_base_le two (by omega)] at member
      rcases List.mem_append.mp member with front | back
      next => exact ih (n / radix) (Nat.div_lt_self (by omega) two) front
      next => exact ⟨n % radix, Nat.mod_lt n (by omega), List.mem_singleton.mp back⟩

theorem not_mem_toDigits (two : 1 < radix) (few : radix ≤ 16) (n : Nat) {c : Char}
    (other : ∀ digit : Fin 16, c ≠ Nat.digitChar digit.val) : c ∉ Nat.toDigits radix n := by
  intro member
  obtain ⟨digit, small, rfl⟩ := mem_toDigits two member
  exact other ⟨digit, by omega⟩ rfl

theorem parseUnsigned_toDigits (two : 1 < radix) (few : radix ≤ 16) {limit n : Nat}
    (fits : n < limit) : parseUnsigned radix limit (Nat.toDigits radix n) = some n := by
  have read := parseDigits_toDigits two few fits
  have unsigned : '+' ∉ Nat.toDigits radix n := not_mem_toDigits two few n (by decide)
  unfold parseUnsigned
  split
  next empty => exact absurd empty Nat.toDigits_ne_nil
  next sign => exact absurd (by rw [sign]; simp) unsigned
  next digits sign => exact absurd (by rw [sign]; simp) unsigned
  next => exact read

end DwAuth

end BitDemon
