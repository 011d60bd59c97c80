import SynapseOS.Tools.Types

/-! What Python code of the tool boundary can raise (`core/tools/errors.py`,
`core/permissions/errors.py`). -/

namespace SynapseOS.Tools

inductive ToolErrorKind
  | base
  | definition
  | input
  | workspace
  | audit
  deriving DecidableEq, Repr

inductive PermissionErrorKind
  | input
  | policy
  | audit
  deriving DecidableEq, Repr

inductive PyExn
  | tool (kind : ToolErrorKind) (code : ToolErrorCode)
  | permission (kind : PermissionErrorKind)
  | typeError
  /-- `ValueError`; pydantic's `ValidationError` and the Unicode errors are subclasses of it. -/
  | valueError
  | recursionError
  | timeoutError
  /-- Any other subclass of `Exception`. -/
  | otherError
  /-- `asyncio.CancelledError`. -/
  | cancelled
  /-- The cancellation by which an `asyncio.timeout` interrupts its body. -/
  | expired
  /-- Any other `BaseException`, such as `KeyboardInterrupt`. -/
  | fatal
  deriving DecidableEq, Repr

/-- `except Exception` catches it. -/
def PyExn.ordinary : PyExn → Bool
  | .cancelled | .expired | .fatal => false
  | .tool _ _ | .permission _ | .typeError | .valueError | .recursionError | .timeoutError
  | .otherError => true

/-- `except (TypeError, ValueError, ValidationError)` catches it. -/
def PyExn.malformed : PyExn → Bool
  | .typeError | .valueError => true
  | .tool _ _ | .permission _ | .recursionError | .timeoutError | .otherError | .cancelled
  | .expired | .fatal => false

/-- `except asyncio.CancelledError` catches it. -/
def PyExn.cancellation : PyExn → Bool
  | .cancelled | .expired => true
  | .tool _ _ | .permission _ | .typeError | .valueError | .recursionError | .timeoutError
  | .otherError | .fatal => false

/-- `except Exception`: the handler raises `e` in place of an ordinary exception. -/
def sanitize (raised e : PyExn) : PyExn := if raised.ordinary = true then e else raised

end SynapseOS.Tools
