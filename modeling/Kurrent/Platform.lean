import Kurrent.Library.Outcome
import Kurrent.Library.ByteBuffer

namespace Kurrent

open Library

/-!
# What the firmware takes from the platform

The sources under verification are a driver and a stream filter of a network
boot firmware.  They call a data transfer interface, an allocator and status
codes that belong to the platform.  Only the documented behaviour of these
is used: a transfer interface has a window, accepts buffers, and changes its
own state when it does so.

The state of a transfer interface is arbitrary.  Consecutive window queries
may therefore give any pattern of answers, which is how a transmit queue of
one unacknowledged segment behaves.
-/

/-- The status codes the modelled functions return or compare. -/
inductive Errno
  | eagain
  | enomem
  | einval
  | eproto
  | eio
  | eperm
  | eacces
  | enospc
  | epipe
  | econnreset
  | ecanceled
  /-- A status of a platform function, passed on and never inspected. -/
  | platform
  deriving DecidableEq

/-- Subtraction of numbers of type `size_t`. -/
def sizeSub (minuend subtrahend : Nat) : Nat :=
  if minuend < subtrahend then minuend + 2 ^ 64 - subtrahend else minuend - subtrahend

theorem sizeSub_of_le {minuend subtrahend : Nat} (ordered : subtrahend ≤ minuend) :
    sizeSub minuend subtrahend = minuend - subtrahend :=
  if_neg (Nat.not_lt.mpr ordered)

/-- A data transfer interface, over the states `T` of what lies behind it. -/
structure Xfer (T : Type) where
  /-- `xfer_window()` -/
  window : T -> Nat
  /-- `xfer_window()` of an interface with nothing behind it. -/
  unplugged : Nat
  /-- Whether `alloc_iob()` of this length succeeds now. -/
  alloc : T -> Nat -> Bool
  /-- `xfer_deliver_iob()`; the callers ignore the status it returns. -/
  deliver : T -> Bytes -> T

/-- An interface whose window never closes, with memory for every buffer,
that keeps what it is given. -/
def openXfer : Xfer (List Bytes) where
  window _ := 1
  unplugged := 0
  alloc _ _ := true
  deliver accepted buffer := accepted ++ [buffer]

end Kurrent
