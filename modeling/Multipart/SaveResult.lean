import Multipart.Io

/-! `SaveResult`, the three-outcome result of every save operation, with `PartialReason` and
the combinators a caller collapses it with. -/

namespace Multipart

/-- `PartialReason`: why a save stopped partway. -/
inductive PartialReason
  | countLimit
  | sizeLimit
  | ioError (error : IoError)
  deriving DecidableEq, Repr

/-- `SaveResult<Success, Partial>`; the source's `Partial` variant is `partly` here. -/
inductive SaveResult (S P : Type)
  | full (value : S)
  | partly (value : P) (reason : PartialReason)
  | error (error : IoError)
  deriving DecidableEq, Repr

/-- Rust's `Into`, for the conversion the combinators make from the partial value. -/
class Into (P S : Type) where
  into : P → S

/-- `impl<T> From<T> for T`. -/
instance {α : Type} : Into α α := ⟨id⟩

namespace PartialReason

/-- `PartialReason::expect_err`: the `io::Error`, or the panic message otherwise. -/
def expectErr (msg : String) : PartialReason → Except String IoError
  | .ioError error => .ok error
  | .countLimit => .error (msg ++ ": CountLimit")
  | .sizeLimit => .error (msg ++ ": SizeLimit")

/-- `PartialReason::unwrap_err`. -/
def unwrapErr (reason : PartialReason) : Except String IoError :=
  reason.expectErr "`PartialReason` was not `IoError`"

end PartialReason

namespace SaveResult

variable {S P T : Type} [Into P S]

/-- `SaveResult::map`: the same function on the full and the partial value, keeping the reason. -/
def map (result : SaveResult S P) (f : S → T) : SaveResult T T :=
  match result with
  | .full value => .full (f value)
  | .partly value reason => .partly (f (Into.into value)) reason
  | .error failure => .error failure

/-- `SaveResult::into_opt_both`: the best-effort value and the underlying failure, if any. -/
def intoOptBoth : SaveResult S P → Option S × Option IoError
  | .full value => (some value, none)
  | .partly value (.ioError failure) => (some (Into.into value), some failure)
  | .partly value _ => (some (Into.into value), none)
  | .error failure => (none, some failure)

/-- `SaveResult::okish`. -/
def okish (result : SaveResult S P) : Option S := result.intoOptBoth.1

/-- `SaveResult::into_result`: a partial value counts as success. -/
def intoResult : SaveResult S P → Except IoError S
  | .full value => .ok value
  | .partly value _ => .ok (Into.into value)
  | .error failure => .error failure

/-- `SaveResult::into_result_strict`: a partial value stopped by an I/O error is a failure. -/
def intoResultStrict : SaveResult S P → Except IoError S
  | .full value => .ok value
  | .partly _ (.ioError failure) | .error failure => .error failure
  | .partly value _ => .ok (Into.into value)

@[simp] theorem okish_full (value : S) : (SaveResult.full value : SaveResult S P).okish = some value := rfl

@[simp] theorem okish_partly (value : P) (reason : PartialReason) :
    (SaveResult.partly value reason : SaveResult S P).okish = some (Into.into value) := by
  cases reason <;> rfl

@[simp] theorem okish_error (failure : IoError) : (SaveResult.error failure : SaveResult S P).okish = none := rfl

@[simp] theorem map_full (value : S) (f : S → T) : (SaveResult.full value : SaveResult S P).map f = .full (f value) := rfl

@[simp] theorem map_partly (value : P) (reason : PartialReason) (f : S → T) :
    (SaveResult.partly value reason : SaveResult S P).map f = .partly (f (Into.into value)) reason := rfl

@[simp] theorem map_error (failure : IoError) (f : S → T) :
    (SaveResult.error failure : SaveResult S P).map f = .error failure := rfl

@[simp] theorem into_self {α : Type} (value : α) : (Into.into value : α) = value := rfl

end SaveResult

end Multipart
