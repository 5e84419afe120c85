import AmbientProxy.Protocol

/-! # Errors, and calls that may panic

    `src/lib.rs`: the crate's error type.  The payloads that the code only logs
    are left out; the texts of the `anyhow` errors are in the docstrings of their
    constructors.

    A call of the code ends with a value, with an error, or by PANICKING.  The
    first two are a Rust `Result`; the third is not a value at all, it ends the
    task that made the call.  `Outcome` keeps the three apart. -/

namespace AmbientProxy

/-- The `anyhow` errors that the code raises, each with its arguments. -/
inductive Anyhow where
  /-- `Unknown player: {}` -/
  | unknownPlayer (playerId : Str)
  /-- `Unexpected header` -/
  | unexpectedHeader
  /-- `Unsupported asset compression: {:?}` -/
  | unsupportedAssetCompression (compression : Str)
  /-- `Asset too large: {} > {}` -/
  | assetTooLarge (length limit : UInt32)
  /-- `Failed to request asset: {}` -/
  | failedToRequestAsset (assetId : Str)
  /-- `Timed out getting asset: {}` -/
  | timedOutGettingAsset (assetId : Str)
  /-- `Endpoint already allocated` -/
  | endpointAlreadyAllocated
  /-- `Failed to create proxy endpoint` -/
  | failedToCreateProxyEndpoint
  /-- `Failed to get local address` -/
  | failedToGetLocalAddress
  deriving DecidableEq

/-- `crate::Error`. -/
inductive Error where
  | messageTooLong (len : UInt32)
  | badMsgFormat
  | ioError
  | connectionError
  | readExactError
  | readToEndError
  | writeError
  | sendDatagramError
  | other (err : Anyhow)
  deriving DecidableEq

/-- How a call ends. -/
inductive Outcome (α : Type) where
  | ok (value : α)
  | err (error : Error)
  | panic
  deriving DecidableEq

namespace Outcome

variable {α β : Type}

/-- The `?` of the source: an error or a panic ends the caller too. -/
def bind : Outcome α → (α → Outcome β) → Outcome β
  | .ok a, f => f a
  | .err e, _ => .err e
  | .panic, _ => .panic

instance : Monad Outcome where
  pure := .ok
  bind := Outcome.bind

/-- An optional value, or the error `e` where there is none. -/
def ofOption (e : Error) : Option α → Outcome α
  | some a => .ok a
  | none => .err e

@[simp] theorem ok_bind (a : α) (f : α → Outcome β) : (Outcome.ok a >>= f) = f a := rfl
@[simp] theorem err_bind (e : Error) (f : α → Outcome β) : (Outcome.err e >>= f) = .err e := rfl
@[simp] theorem panic_bind (f : α → Outcome β) : (Outcome.panic >>= f) = .panic := rfl
@[simp] theorem pure_eq (a : α) : (pure a : Outcome α) = .ok a := rfl

/-- A sequence succeeds exactly when both of its parts do. -/
theorem bind_eq_ok_iff {x : Outcome α} {f : α → Outcome β} {b : β} :
    (x >>= f) = .ok b ↔ ∃ a, x = .ok a ∧ f a = .ok b := by
  cases x with
  | ok a =>
      constructor
      · intro h
        exact ⟨a, rfl, h⟩
      · rintro ⟨a', ha, hf⟩
        cases ha
        exact hf
  | err e =>
      constructor
      · intro h
        exact nomatch h
      · rintro ⟨_, ha, _⟩
        exact nomatch ha
  | panic =>
      constructor
      · intro h
        exact nomatch h
      · rintro ⟨_, ha, _⟩
        exact nomatch ha

end Outcome

end AmbientProxy
