import Mathlib.Tactic.Basic

/-! The errors the modelled Go code creates, passes on and inspects. Go compares an
error with a sentinel through `errors.Is`, which looks through the wrappers
`fmt.Errorf("...: %w", err)` builds; `Error.Is` is that comparison, and the writer's
type assertion on `*git.GitError` is `Error.IsNonFastForward`. -/
namespace Kuberpult

/-- Git error codes (`git.ErrorCode`), as far as the writer distinguishes codes. -/
inductive GitErrorCode where
  | nonFastForward
  | notFound
  | other
  deriving DecidableEq, Repr

/-- An error value. Constructors that carry a message keep the text the source writes. -/
inductive Error where
  /-- A path the filesystem does not hold (`os.ErrNotExist`). -/
  | notExist (path : String)
  /-- Any other failure of the filesystem, the object database or the network. -/
  | io (message : String)
  /-- The context error `context.Canceled`. -/
  | canceled
  /-- The context error `context.DeadlineExceeded`. -/
  | deadlineExceeded
  /-- The package's sentinel `invalidJson`. -/
  | invalidJson
  /-- A `*git.GitError`. -/
  | git (code : GitErrorCode) (message : String)
  /-- An error built by `errors.New(text)`, or `fmt.Errorf` without `%w`. -/
  | text (message : String)
  /-- A wrapper built by `fmt.Errorf(message + "%w", inner)`. -/
  | wrap (message : String) (inner : Error)
  /-- The repository package's `&InternalError{inner: err}`. -/
  | internal (inner : Error)
  /-- Modelled from the spec: `grpc.InternalError`, an internal error for the caller;
  it is not a wrapper `errors.Is` looks through. -/
  | grpcInternal (inner : Error)
  /-- Modelled from the spec: `grpc.PublicError`, an error whose text the caller sees. -/
  | grpcPublic (inner : Error)
  /-- Modelled from the spec: `grpc.CanceledError`, a cancellation for the caller. -/
  | grpcCanceled (inner : Error)
  /-- Modelled from the spec: `httperrors.InternalError` and `httperrors.AuthError`. -/
  | http (inner : Error)
  deriving DecidableEq, Repr

/-- The sentinels the code compares errors with. -/
inductive Sentinel where
  | errNotExist
  | invalidJson
  | canceled
  | deadlineExceeded
  deriving DecidableEq, Repr

/-- Whether an error, without unwrapping, is the sentinel. A `notExist` error of any
path is `os.ErrNotExist`. -/
def Error.isSentinel : Error → Sentinel → Bool
  | .notExist _, .errNotExist => true
  | .invalidJson, .invalidJson => true
  | .canceled, .canceled => true
  | .deadlineExceeded, .deadlineExceeded => true
  | _, _ => false

/-- Go's `errors.Is(err, target)`: the error or one it wraps with `%w` is the sentinel. -/
def Error.Is : Error → Sentinel → Bool
  | .wrap _ inner, target => inner.Is target
  | err, target => err.isSentinel target

/-- The writer's test `gerr, ok := err.(*git.GitError); ok && gerr.Code ==
git.ErrorCodeNonFastForward`: a type assertion, so wrapped errors do not count. -/
def Error.IsNonFastForward : Error → Bool
  | .git .nonFastForward _ => true
  | _ => false

@[simp] theorem Error.Is_wrap (text : String) (inner : Error) (target : Sentinel) :
    (Error.wrap text inner).Is target = inner.Is target := rfl

@[simp] theorem Error.Is_notExist (path : String) :
    (Error.notExist path).Is .errNotExist = true := rfl

@[simp] theorem Error.Is_invalidJson : Error.invalidJson.Is .invalidJson = true := rfl

end Kuberpult
