import Fresnica.Foundation.Outcome
import Fresnica.StrKey

/-!
# Building transactions and their validity window

A transaction is built with an upper time bound a fixed time after its
preparation. It is refused for signing and submission once that bound has passed
on the client's clock.

## Main definitions

* `unixSeconds` — the clock in whole seconds
* `buildOperationEnvelopeWithMemoAndTimeout` — the envelope of a list of operations
* `ensureTransactionNotExpired` — the expiry check before signing and submission

## Main results

* `buildOperationEnvelope_eq_ok`, `maxTime?_of_build` — the transaction of some operations
* `ensureTransactionNotExpired_eq_ok_iff` — what the check accepts
-/

namespace Fresnica

open Foundation

/-- A clock reading, in nanoseconds since the Unix epoch. -/
abbrev Instant := ℤ

def nanosPerSecond : ℤ := 1000000000

def defaultClassicTransactionTimeoutSeconds : U64 := .lit 300

def unixSeconds (now : Instant) : Except String ℤ := do
  ensure (0 ≤ now) "system clock is before Unix epoch"
  return now / nanosPerSecond

def validateClassicTransactionTimeoutSeconds (timeoutSeconds : U64) : Except String U64 := do
  ensure (timeoutSeconds.val ≠ 0) "Classic transaction timeout must be greater than zero seconds"
  return timeoutSeconds

/-- The most operations of a transaction. -/
def maxOperations : ℕ := 100

def buildOperationEnvelopeWithMemoAndTimeout (strKey : StrKey) (source : String)
    (bodies : List OperationBody) (currentSequence : I64) (baseFeePerOperation : U32)
    (memo : Memo) (timeoutSeconds : U64) (now : Instant) : Except String TransactionEnvelope := do
  let timeoutSeconds ← validateClassicTransactionTimeoutSeconds timeoutSeconds
  ensure (bodies ≠ []) "transaction must contain at least one operation"
  let source ← okOr (strKey.publicKeyOf? source) "wallet source must be a Classic G address"
  let operationCount : U32 ← okOr (BoundedInt.ofInt? bodies.length)
    "too many transaction operations"
  ensure (bodies.length ≤ maxOperations) "too many transaction operations"
  let fee ← okOr (baseFeePerOperation.checkedMul operationCount) "transaction fee overflow"
  let sequence ← okOr (currentSequence.checkedAdd (.lit 1)) "account sequence overflow"
  let seconds ← unixSeconds now
  let maxTime : U64 ← okOr (BoundedInt.ofInt? (seconds + timeoutSeconds.val))
    "transaction timeout overflow"
  return .tx
    { sourceAccount := .ed25519 source
      fee := fee
      seqNum := sequence
      cond := .time ⟨.lit 0, maxTime⟩
      memo := memo
      operations := bodies.map fun body => ⟨none, body⟩
      ext := .v0 }
    []

/-- The upper time bound of a transaction, if it has time bounds. -/
def Preconditions.maxTime? : Preconditions → Option U64
  | .none => Option.none
  | .time bounds => some bounds.maxTime
  | .v2 value => value.timeBounds.map (·.maxTime)

def ensureTransactionNotExpiredAt (envelope : TransactionEnvelope) (nowUnix : ℤ) :
    Except String Unit :=
  match envelope with
  | .tx transaction _ =>
    match transaction.cond.maxTime? with
    | none => .ok ⟨⟩
    | some maxTime => ensure (¬ (maxTime.val ≠ 0 ∧ nowUnix > maxTime.val))
        "Prepared transaction has expired; prepare and review the transaction again"
  | .txV0 .. | .txFeeBump .. => .ok ⟨⟩

def ensureTransactionNotExpired (envelope : TransactionEnvelope) (now : Instant) :
    Except String Unit := do
  let seconds ← unixSeconds now
  ensureTransactionNotExpiredAt envelope seconds

variable {strKey : StrKey} {source : String} {bodies : List OperationBody} {sequence : I64}
variable {fee : U32} {memo : Memo} {timeout : U64} {now : Instant} {envelope : TransactionEnvelope}

theorem unixSeconds_eq_ok {seconds : ℤ} :
    unixSeconds now = .ok seconds ↔ 0 ≤ now ∧ now / nanosPerSecond = seconds := by
  simp [unixSeconds, ensure_bind_eq_ok]

theorem buildOperationEnvelope_eq_ok
    (h : buildOperationEnvelopeWithMemoAndTimeout strKey source bodies sequence fee memo timeout
      now = .ok envelope) :
    ∃ tx key, envelope = .tx tx [] ∧ strKey.publicKeyOf? source = some key ∧
      tx.sourceAccount = .ed25519 key ∧ tx.operations = bodies.map (⟨none, ·⟩) ∧
      tx.fee.val = fee.val * bodies.length := by
  simp only [buildOperationEnvelopeWithMemoAndTimeout, bind_eq_ok, okOr_eq_ok] at h
  obtain ⟨_, -, _, -, key, hkey, count, hcount, _, -, total, htotal, _, -, _, -, _, -, hbuilt⟩ := h
  obtain rfl := Except.ok.inj hbuilt
  refine ⟨_, key, rfl, hkey, rfl, rfl, ?_⟩
  rw [← BoundedInt.ofInt?_eq_some_iff.mp hcount]
  exact BoundedInt.checkedMul_eq_some_iff.mp htotal

/-- A transaction that was built is valid for its timeout from the second of its
preparation on. -/
theorem maxTime?_of_build
    (h : buildOperationEnvelopeWithMemoAndTimeout strKey source bodies sequence fee memo timeout
      now = .ok envelope) :
    ∃ tx maxTime, envelope = .tx tx [] ∧ tx.cond.maxTime? = some maxTime ∧
      maxTime.val = now / nanosPerSecond + timeout.val ∧ 0 < timeout.val := by
  simp only [buildOperationEnvelopeWithMemoAndTimeout, validateClassicTransactionTimeoutSeconds,
    bind_eq_ok, ensure_eq_ok, okOr_eq_ok, unixSeconds_eq_ok, pure_eq_ok, Except.ok.injEq] at h
  obtain ⟨_, ⟨_, hpos, rfl⟩, _, -, _, -, _, -, _, -, _, -, _, -, _, ⟨-, rfl⟩, maxTime, hmax, rfl⟩ :=
    h
  have := timeout.lo_le
  exact ⟨_, maxTime, rfl, rfl, BoundedInt.ofInt?_eq_some_iff.mp hmax, by omega⟩

theorem ensureTransactionNotExpired_eq_ok_iff {tx : Transaction}
    {signatures : List DecoratedSignature} {maxTime : U64}
    (hmax : tx.cond.maxTime? = some maxTime) (hpos : maxTime.val ≠ 0) :
    ensureTransactionNotExpired (.tx tx signatures) now = .ok ⟨⟩ ↔
      0 ≤ now ∧ now / nanosPerSecond ≤ maxTime.val := by
  simp [ensureTransactionNotExpired, bind_eq_ok, unixSeconds_eq_ok,
    ensureTransactionNotExpiredAt, hmax, ensure_eq_ok, hpos]

end Fresnica
