import SimpleNetworkMonitor.Common.Semaphore
import SimpleNetworkMonitor.Backends.Model.Ping
/-!
# Lookups

Hosts are looked up by blocking tasks, which nothing can stop: a call that is
given up leaves its lookup behind. The permit of a lookup is therefore the
task's, not the call's, and a call that finds none is refused at once. What
the system's resolver answers, and when, is an input; so is reading a literal.
-/

namespace SimpleNetworkMonitor.Backends

open Icmp (CheckFailure)

structure SocketAddr where
  ip : IpAddr
  port : ℕ
  deriving DecidableEq

/-- What a blocking task returns: the answer of `to_socket_addrs`, unless the
task itself fails. Errors are given as they are displayed. -/
abbrev LookupOutcome := Except String (Except String (List SocketAddr))

/-- What a call makes of it. -/
def lookupAnswer : LookupOutcome → Except CheckFailure (List SocketAddr)
  | .error err => .error ⟨s!"DNS task failed: {err}"⟩
  | .ok (.error err) => .error ⟨s!"failed to resolve address: {err}"⟩
  | .ok (.ok addrs) => .ok (addrs.take 64)

/-! ## Calls -/

/-- **How far a call has come.** -/
inductive DnsState where
  /-- Its lookup runs. -/
  | waiting
  /-- Its lookup has returned, and it has not been woken. -/
  | ready (outcome : LookupOutcome)
  | answered (result : Except CheckFailure (List SocketAddr))
  /-- The call was given up. -/
  | dropped

namespace DnsState

/-- Its lookup returns. -/
def finish (outcome : LookupOutcome) : DnsState → DnsState
  | .waiting => .ready outcome
  | state => state

/-- The call is woken. -/
def wake : DnsState → DnsState
  | .ready outcome => .answered (lookupAnswer outcome)
  | state => state

/-- The call is given up. -/
def drop : DnsState → DnsState
  | .waiting | .ready _ => .dropped
  | state => state

end DnsState

/-- A call of `resolve`. -/
structure DnsCall where
  address : String
  port : ℕ
  state : DnsState

/-- **The resolver and its calls**, each where it was made. -/
structure Dns where
  /-- `DNS_ADMISSION`. -/
  admission : Semaphore ℕ := { permits := 32 }
  /-- The blocking tasks, each by the call that it was spawned for. -/
  lookups : List ℕ := []
  calls : List DnsCall := []

/-- What may happen next. -/
inductive DnsEvent where
  | resolve (address : String) (port : ℕ)
  /-- The lookup of a call returns. -/
  | finished (i : ℕ) (outcome : LookupOutcome)
  /-- A call whose lookup has returned is woken. -/
  | woken (i : ℕ)
  | drop (i : ℕ)

namespace Dns

/-- One call moves on. -/
def advance (w : Dns) (i : ℕ) (f : DnsState → DnsState) : Dns :=
  { w with calls := w.calls.modify i fun call => { call with state := f call.state } }

/-- A call that is over before it waits. -/
def answerNow (w : Dns) (address : String) (port : ℕ)
    (result : Except CheckFailure (List SocketAddr)) : Dns :=
  { w with calls := w.calls ++ [⟨address, port, .answered result⟩] }

/-- A lookup returns and drops its permit, whoever waits for it. -/
def finish (w : Dns) (now i : ℕ) (outcome : LookupOutcome) : Dns :=
  { w with admission := w.admission.release i now, lookups := w.lookups.erase i }.advance i
    (·.finish outcome)

variable (parse : String → Option IpAddr)

def resolve (w : Dns) (now : ℕ) (address : String) (port : ℕ) : Dns :=
  match parse address with
  | some ip => w.answerNow address port (.ok [⟨ip, port⟩])
  | none =>
    match w.admission.tryAcquire w.calls.length now with
    | none => w.answerNow address port (.error ⟨"DNS resolver is busy"⟩)
    | some admission =>
      { admission, lookups := w.lookups ++ [w.calls.length],
        calls := w.calls ++ [⟨address, port, .waiting⟩] }

/-- **One step.** A step that is not its turn does nothing. -/
def step (w : Dns) (now : ℕ) : DnsEvent → Dns
  | .resolve address port => w.resolve parse now address port
  | .finished i outcome => if i ∈ w.lookups then w.finish now i outcome else w
  | .woken i => w.advance i (·.wake)
  | .drop i => w.advance i (·.drop)

/-- **A run**, each event with the instant it happens at. -/
def run (events : List (ℕ × DnsEvent)) : Dns :=
  events.foldl (fun w e => w.step parse e.1 e.2) {}

end Dns

end SimpleNetworkMonitor.Backends
