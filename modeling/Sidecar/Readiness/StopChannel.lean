/-! A one-shot stop channel: one stop handle and any number of signal ends.

The first `stop` delivers the signal and reports it; every later one reports that nothing was
delivered. Every end sees the signal once it is delivered. A section run "unless stopped" runs
only while the signal is not delivered, and waiting completes exactly when it is. Once the
handle is dropped no stop can come any more. -/
namespace Sidecar.Readiness

structure StopChannel where
  stopped : Bool := false
  handleDropped : Bool := false
  /-- Signal ends made so far, numbered from zero. -/
  signals : Nat := 1

namespace StopChannel

/-- Raises the signal through the handle; reports whether this call delivered it. None when the
handle has been dropped. -/
def stop? (c : StopChannel) : Option (StopChannel × Bool) :=
  if c.handleDropped then none else some ({ c with stopped := true }, !c.stopped)

def isStopped (c : StopChannel) : Bool := c.stopped

/-- Whether the signal has been delivered, asked through the handle; none once it is dropped. -/
def handleIsStopped? (c : StopChannel) : Option Bool :=
  if c.handleDropped then none else some c.stopped

def dropHandle? (c : StopChannel) : Option StopChannel :=
  if c.handleDropped then none else some { c with handleDropped := true }

def hasSignal (c : StopChannel) (i : Nat) : Bool := i < c.signals

def cloneSignal (c : StopChannel) : StopChannel × Nat :=
  ({ c with signals := c.signals + 1 }, c.signals)

/-- Runs a section only while the signal is not delivered. -/
def unlessStopped {α : Type} (c : StopChannel) (f : Unit → α) : Option α :=
  if c.stopped then none else some (f ())

/-- Whether waiting on a signal end completes: exactly when the signal is delivered. A handle
dropped without a stop leaves the waiter waiting for ever. -/
def waitCompletes (c : StopChannel) : Bool := c.stopped

end StopChannel

end Sidecar.Readiness
