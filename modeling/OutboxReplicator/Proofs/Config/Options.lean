import OutboxReplicator.Config
import OutboxReplicator.Proofs.Text.IntegerText
import OutboxReplicator.Proofs.Json.RecordGrammar
/-!
# The processor options of a configuration

A configuration read from the environment holds every number in the range of its
field's type (`ReplicatorConfig.ofVars_fits`): each numeric variable is read as an
integer of its type, and every default lies in range too.

Its processor options clamp the batch size to at least 1 and the retry count to at least
0, and neither clamp leaves its type.  The one conversion that can leave its type is the
retry delay, given in minutes and turned into seconds by a multiplication by 60 that
fits 64 bits exactly below 307445734561825861 minutes; from there on the conversion
aborts (`ReplicatorConfig.options_of_accepted`), and the reader takes such a number of
minutes (`ReplicatorConfig.long_retry_delay_overflows`).
-/

namespace OutboxReplicator

namespace ReplicatorConfig

/-- A configuration whose numbers lie in the ranges of their fields' types: 64-bit
unsigned, the retry count 32-bit signed, the port 16-bit unsigned. -/
structure Fits (c : ReplicatorConfig) : Prop where
  pollingInterval : c.outboxPollingIntervalSeconds < Nat.pow 2 64
  batchSize : c.outboxBatchSize < Nat.pow 2 64
  maxRetryCount : -Int.pow 2 31 ≤ c.outboxMaxRetryCount ∧ c.outboxMaxRetryCount < Int.pow 2 31
  retryDelay : c.outboxRetryDelayMinutes < Nat.pow 2 64
  claimTimeout : c.outboxClaimTimeoutSeconds < Nat.pow 2 64
  port : c.replicatorPort < Nat.pow 2 16

/-- The slots read so far hold values of their fields' types. -/
structure Slots.Fits (s : Slots) : Prop where
  pollingInterval : ∀ n ∈ s.outboxPollingIntervalSeconds, n < Nat.pow 2 64
  batchSize : ∀ n ∈ s.outboxBatchSize, n < Nat.pow 2 64
  maxRetryCount : ∀ n ∈ s.outboxMaxRetryCount, -Int.pow 2 31 ≤ n ∧ n < Int.pow 2 31
  retryDelay : ∀ n ∈ s.outboxRetryDelayMinutes, n < Nat.pow 2 64
  claimTimeout : ∀ n ∈ s.outboxClaimTimeoutSeconds, n < Nat.pow 2 64
  port : ∀ n ∈ s.replicatorPort, n < Nat.pow 2 16

/-! ## Reading the variables -/

theorem readNumber_within {r : IntegerRange} {name value : String} {n : Int} (zero : r.Within 0)
    (read : readNumber r name value = .ok n) : r.Within n := by
  unfold readNumber at read
  split at read
  next parsed =>
    cases read
    exact ((IntegerRange.read_eq_ok_iff_spells zero).mp parsed).1
  next => cases read

theorem u64_fits {name value : String} {n : Int} (read : readNumber .u64 name value = .ok n) :
    n.toNat < Nat.pow 2 64 := by
  have within := readNumber_within (by decide) read
  simp only [IntegerRange.Within, IntegerRange.u64,
    show Int.pow 2 64 = ((Nat.pow 2 64 : Nat) : Int) from rfl] at within
  omega

theorem u16_fits {name value : String} {n : Int} (read : readNumber .u16 name value = .ok n) :
    n.toNat < Nat.pow 2 16 := by
  have within := readNumber_within (by decide) read
  simp only [IntegerRange.Within, IntegerRange.u16,
    show Int.pow 2 16 = ((Nat.pow 2 16 : Nat) : Int) from rfl] at within
  omega

theorem i32_fits {name value : String} {n : Int} (read : readNumber .i32 name value = .ok n) :
    -Int.pow 2 31 ≤ n ∧ n < Int.pow 2 31 := by
  have within := readNumber_within (by decide) read
  simp only [IntegerRange.Within, IntegerRange.i32] at within
  omega

theorem throw_bind_ne_ok {α β : Type} {e : ConfigError} {f : α → Except ConfigError β} {b : β} :
    (throw e >>= f) ≠ .ok b :=
  fun thrown => by cases thrown

/-- Reading one variable keeps every slot in its field's range. -/
theorem put_fits {s s' : Slots} {var : String × String} (fits : s.Fits)
    (put : ReplicatorConfig.put s var = .ok s') : s'.Fits := by
  unfold ReplicatorConfig.put at put
  split at put
  split at put
  case h_10 =>
    simp only [pure, Except.pure, Except.ok.injEq] at put
    exact put ▸ fits
  -- each known name refuses a slot filled already, then fills its own slot
  all_goals
    split at put
    · exact absurd put throw_bind_ne_ok
  case h_1.isFalse | h_2.isFalse =>
    simp only [pure, Except.pure, Except.ok.injEq] at put
    exact put ▸ { fits with }
  case h_3.isFalse =>
    obtain ⟨_, -, rfl⟩ := bind_pure_eq_ok put
    exact { fits with }
  case h_4.isFalse =>
    obtain ⟨n, read, rfl⟩ := bind_pure_eq_ok put
    exact { fits with pollingInterval := by simpa using u64_fits read }
  case h_5.isFalse =>
    obtain ⟨n, read, rfl⟩ := bind_pure_eq_ok put
    exact { fits with batchSize := by simpa using u64_fits read }
  case h_6.isFalse =>
    obtain ⟨n, read, rfl⟩ := bind_pure_eq_ok put
    exact { fits with maxRetryCount := by simpa using i32_fits read }
  case h_7.isFalse =>
    obtain ⟨n, read, rfl⟩ := bind_pure_eq_ok put
    exact { fits with retryDelay := by simpa using u64_fits read }
  case h_8.isFalse =>
    obtain ⟨n, read, rfl⟩ := bind_pure_eq_ok put
    exact { fits with claimTimeout := by simpa using u64_fits read }
  case h_9.isFalse =>
    obtain ⟨n, read, rfl⟩ := bind_pure_eq_ok put
    exact { fits with port := by simpa using u16_fits read }

theorem foldlM_put_fits {vars : List (String × String)} {start s : Slots} (fits : start.Fits)
    (read : vars.foldlM put start = .ok s) : s.Fits := by
  induction vars generalizing start with
  | nil =>
    cases read
    exact fits
  | cons var rest induction =>
    rw [List.foldlM_cons] at read
    obtain ⟨next, first, later⟩ := except_bind_eq_ok.mp read
    exact induction (put_fits fits first) later

/-- Every configuration read from the environment holds its numbers in their types'
ranges: each was read as an integer of its type, or is a default. -/
theorem ofVars_fits {vars : List (String × String)} {c : ReplicatorConfig}
    (accepted : ofVars vars = .ok c) : c.Fits := by
  unfold ofVars at accepted
  obtain ⟨s, read, built⟩ := except_bind_eq_ok.mp accepted
  have fits := foldlM_put_fits (by constructor <;> simp) read
  -- the two required slots are filled; every other field is its slot or its default
  split at built
  next =>
    split at built
    next =>
      simp only [pure, Except.pure, Except.ok.injEq] at built
      subst built
      refine ⟨?_, ?_, ?_, ?_, ?_, ?_⟩ <;> dsimp only
      · cases slot : s.outboxPollingIntervalSeconds with
        | none => decide
        | some n => exact fits.pollingInterval n slot
      · cases slot : s.outboxBatchSize with
        | none => decide
        | some n => exact fits.batchSize n slot
      · cases slot : s.outboxMaxRetryCount with
        | none => decide
        | some n => exact fits.maxRetryCount n slot
      · cases slot : s.outboxRetryDelayMinutes with
        | none => decide
        | some n => exact fits.retryDelay n slot
      · cases slot : s.outboxClaimTimeoutSeconds with
        | none => decide
        | some n => exact fits.claimTimeout n slot
      · cases slot : s.replicatorPort with
        | none => decide
        | some n => exact fits.port n slot
    next => cases built
  next => cases built

/-! ## The options -/

/-- The retry delay in seconds fits 64 bits exactly below this many minutes. -/
theorem retryDelay_fits_iff (minutes : Nat) :
    Nat.pow 2 64 ≤ minutes * 60 ↔ 307445734561825861 ≤ minutes := by
  rw [show Nat.pow 2 64 = 18446744073709551616 from rfl]
  omega

/-- The options of a configuration read from the environment: below 307445734561825861
minutes of retry delay they are the configuration's values, the batch size at least 1
and the retry count at least 0, every one within its type; from there on the
conversion of the retry delay to seconds overflows and aborts. -/
theorem options_of_accepted {vars : List (String × String)} {c : ReplicatorConfig}
    (accepted : ofVars vars = .ok c) :
    (c.outboxRetryDelayMinutes < 307445734561825861 →
      c.options = .ok
        { enabled := c.outboxEnabled,
          pollingInterval := Span.ofSeconds c.outboxPollingIntervalSeconds,
          batchSize := max c.outboxBatchSize 1, maxRetryCount := max c.outboxMaxRetryCount 0,
          retryDelay := Span.ofSeconds (60 * c.outboxRetryDelayMinutes),
          claimTimeout := Span.ofSeconds c.outboxClaimTimeoutSeconds } ∧
      1 ≤ max c.outboxBatchSize 1 ∧ max c.outboxBatchSize 1 < Nat.pow 2 64 ∧
      0 ≤ max c.outboxMaxRetryCount 0 ∧ max c.outboxMaxRetryCount 0 < Int.pow 2 31 ∧
      c.outboxPollingIntervalSeconds < Nat.pow 2 64 ∧ 60 * c.outboxRetryDelayMinutes < Nat.pow 2 64 ∧
      c.outboxClaimTimeoutSeconds < Nat.pow 2 64) ∧
    (307445734561825861 ≤ c.outboxRetryDelayMinutes →
      c.options = .error "attempt to multiply with overflow") := by
  have fits := ofVars_fits accepted
  have retryCount := fits.maxRetryCount
  have batch := fits.batchSize
  have unsignedRoom : 1 < Nat.pow 2 64 := by decide
  have signedRoom : (0 : Int) < Int.pow 2 31 := by decide
  constructor
  · intro short
    have fitsSeconds : ¬ Nat.pow 2 64 ≤ c.outboxRetryDelayMinutes * 60 :=
      fun exceeds => absurd ((retryDelay_fits_iff _).mp exceeds) (Nat.not_le.mpr short)
    refine ⟨?_, by omega, by omega, by omega, by omega, fits.pollingInterval, ?_,
      fits.claimTimeout⟩
    · simp only [options, fitsSeconds, if_false, Nat.mul_comm]
    · have := (retryDelay_fits_iff c.outboxRetryDelayMinutes).not.mpr (Nat.not_le.mpr short)
      omega
  · intro long
    simp only [options, (retryDelay_fits_iff _).mpr long, if_true]

/-- The reader takes a retry delay of 307445734561825861 minutes, and its conversion to
seconds overflows. -/
theorem long_retry_delay_overflows :
    ∃ c, ofVars [("DATABASE_URL", "postgres://primary"),
        ("SECONDARY_DATABASE_URL", "postgres://secondary"),
        ("OUTBOX_RETRY_DELAY_MINUTES", "307445734561825861")] = .ok c ∧
      307445734561825861 ≤ c.outboxRetryDelayMinutes ∧
      c.options = .error "attempt to multiply with overflow" := by
  have read : (match ofVars [("DATABASE_URL", "postgres://primary"),
      ("SECONDARY_DATABASE_URL", "postgres://secondary"),
      ("OUTBOX_RETRY_DELAY_MINUTES", "307445734561825861")] with
    | .ok c => decide (307445734561825861 ≤ c.outboxRetryDelayMinutes)
    | .error _ => false) = true := by
    decide +kernel
  split at read
  next c accepted =>
    have long := of_decide_eq_true read
    exact ⟨c, accepted, long, (options_of_accepted accepted).2 long⟩
  next => cases read

end ReplicatorConfig

end OutboxReplicator
