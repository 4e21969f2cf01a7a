/-!
# Trying again

An operation that fails is tried again after a pause, up to a number of times. The first pause is as
configured, whatever the limit is; each later one is a multiple of the one before it, up to the
limit. The pauses here are the nominal ones, to which a caller may add some jitter.

## Main definitions

* `RetryPolicy`, `RetryPolicy.attempts`, `RetryPolicy.nextDelay`.
* `RetryPolicy.run`: the attempts at an operation.
* `delayBucket`: the size of a pause on a scale that jitter does not blur.
-/

namespace Courier

/-- How often to try, and how long to wait. Spans are in milliseconds. -/
structure RetryPolicy where
  maxAttempts : Nat := 3
  initialDelay : Nat := 50
  maxDelay : Nat := 500
  multiplier : Nat := 2
  deriving DecidableEq, Repr

namespace RetryPolicy

/-- There is always one attempt. -/
def attempts (p : RetryPolicy) : Nat :=
  max 1 p.maxAttempts

/-- The pause after another. The product is taken in 64 bits and stops at the greatest of them. -/
def nextDelay (p : RetryPolicy) (delay : Nat) : Nat :=
  min (min (UInt64.size - 1) (delay * p.multiplier)) p.maxDelay

/-- What came of trying. -/
structure Tried (σ ε α : Type) where
  /-- The success, or the last failure. -/
  result : Except ε α
  /-- The state that the attempts left. -/
  state : σ
  /-- The number of attempts. -/
  attempts : Nat
  /-- The pauses between them. -/
  delays : List Nat

/-- Try, and so many times again, the first pause being the given one. -/
def tryAgain {σ ε α : Type} (p : RetryPolicy) (attempt : σ → Except ε α × σ) :
    Nat → Nat → σ → Tried σ ε α
  | 0, _, s =>
    let (result, s) := attempt s
    ⟨result, s, 1, []⟩
  | again + 1, delay, s =>
    match attempt s with
    | (.ok a, s) => ⟨.ok a, s, 1, []⟩
    | (.error _, s) =>
      let t := tryAgain p attempt again (p.nextDelay delay) s
      { t with attempts := t.attempts + 1, delays := delay :: t.delays }

/-- All attempts at an operation that works on some state. -/
def run {σ ε α : Type} (p : RetryPolicy) (attempt : σ → Except ε α × σ) (s : σ) :
    Tried σ ε α :=
  p.tryAgain attempt (p.attempts - 1) p.initialDelay s

/-- An operation whose attempts come out as listed, the last outcome for ever; without any it
succeeds. An attempt's answer is its number. -/
def scripted (s : Nat × List Bool) : Except Nat Nat × (Nat × List Bool) :=
  let (before, outcomes) := s
  let number := before + 1
  let answer (succeeds : Bool) : Except Nat Nat := if succeeds then .ok number else .error number
  match outcomes with
  | [] => (answer true, number, [])
  | [outcome] => (answer outcome, number, [outcome])
  | outcome :: outcomes => (answer outcome, number, outcomes)

end RetryPolicy

/-- The size of a pause: -1 for none, and else the `i` with 3 · 2 ^ i ≤ 4 · delay < 6 · 2 ^ i. -/
def delayBucket (delay : Nat) : Int :=
  if delay = 0 then -1 else ((4 * delay / 3).log2 : Int)

end Courier
