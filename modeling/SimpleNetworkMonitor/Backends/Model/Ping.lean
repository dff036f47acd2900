import SimpleNetworkMonitor.Common.Fold
import SimpleNetworkMonitor.Common.Reservation
import SimpleNetworkMonitor.Domain.Config
import SimpleNetworkMonitor.Icmp.Model.Monitor
import Mathlib.Data.UInt
/-!
# The raw ICMP backend

Many probes at once share one socket, so each carries an identifier that no
other probe in flight has. The identifiers in flight are kept under a mutex:
a probe reserves one before it is sent, and a guard gives it back however the
probe ends. What the resolver and the network answer is an input.
-/

namespace SimpleNetworkMonitor.Backends

open Icmp (CheckFailure)

structure PingCheckRequest where
  hostId : String
  address : String
  timeout : ℕ
  deriving DecidableEq

structure PingOutcome extends Icmp.PingOutcome where
  address : Option IpAddr
  deriving DecidableEq

/-! ## Identifiers -/

/-- `Mutex<HashSet<u16>>`: the identifiers in flight. A panic under the mutex
poisons it. -/
structure Inflight where
  set : Finset UInt16 := ∅
  poisoned : Bool := false
  deriving DecidableEq

/-- How many identifiers there are. -/
def SPACE : ℕ := 65535 + 1

/-- **Reserve an identifier**: the seed, or the first free one after it. -/
def nextUniqueIdentifier (inflight : Inflight) (seed : UInt16) :
    Except CheckFailure UInt16 × Inflight :=
  if inflight.poisoned then (.error ⟨"ICMP identifier lock poisoned"⟩, inflight)
  else
    match Reservation.search (· + 1) (· ∉ inflight.set) SPACE seed with
    | some probe => (.ok probe, { inflight with set := insert probe inflight.set })
    | none => (.error ⟨"all 65536 icmp identifiers are in flight"⟩, inflight)

/-- `Release::drop`. -/
def Inflight.release (inflight : Inflight) (identifier : UInt16) : Inflight :=
  if inflight.poisoned then inflight
  else { inflight with set := inflight.set.erase identifier }

/-! ## Probes -/

structure RawIcmpBackend where
  /-- Whether there is an IPv6 socket. -/
  clientV6 : Bool
  salt : UInt16
  counter : UInt16 := 1
  inflight : Inflight := {}
  deriving DecidableEq

/-- **How far a probe has come.** -/
inductive Probe where
  | resolving (request : PingCheckRequest)
  /-- It has drawn its seed, and asks for an identifier. -/
  | seeded (address : IpAddr) (seed : UInt16)
  /-- It has sent its request, and holds the guard of its identifier. -/
  | pinging (address : IpAddr) (identifier : UInt16)
  | done (result : Except CheckFailure PingOutcome)
  /-- The check was given up. -/
  | dropped
  deriving DecidableEq

/-- The identifier a probe has in flight. -/
def Probe.identifier : Probe → Option UInt16
  | .pinging _ identifier => some identifier
  | _ => none

def IpAddr.isV4 : IpAddr → Bool
  | .v4 _ => true
  | .v6 _ => false

/-- Prefer IPv4 when both families are returned. -/
def resolveIp (address : String) (addrs : List IpAddr) : Except CheckFailure IpAddr :=
  match (addrs.find? IpAddr.isV4).or (addrs.find? (!IpAddr.isV4 ·)) with
  | some ip => .ok ip
  | none => .error ⟨s!"{address} resolved to no IP addresses"⟩

/-- **The backend and its probes**, each where it was started. -/
structure Probing where
  backend : RawIcmpBackend
  probes : List Probe := []

/-- What may happen next. -/
inductive ProbeEvent where
  | check (request : PingCheckRequest)
  /-- The resolver answers. -/
  | resolved (i : ℕ) (addrs : Except CheckFailure (List IpAddr))
  /-- A probe that has its seed takes the mutex. -/
  | reserve (i : ℕ)
  /-- The pinger returns a latency, or the text of its error. -/
  | answered (i : ℕ) (reply : Except String ℕ)
  | timedOut (i : ℕ)
  | drop (i : ℕ)

namespace Probing

def setProbe (w : Probing) (i : ℕ) (probe : Probe) : Probing :=
  { w with probes := w.probes.set i probe }

def setInflight (w : Probing) (inflight : Inflight) : Probing :=
  { w with backend := { w.backend with inflight } }

/-- A probe that was waiting is over, and its guard with it. -/
def finish (w : Probing) (i : ℕ) (ended : Probe) : Probing :=
  match w.probes[i]? with
  | some (.resolving _) => w.setProbe i ended
  | some (.pinging _ identifier) =>
    (w.setInflight (w.backend.inflight.release identifier)).setProbe i ended
  | _ => w

/-- The rest of a probe that was resolved, up to its seed. Addresses are shown
as `display` does. -/
def resolve (display : IpAddr → String) (w : Probing) (i : ℕ) (request : PingCheckRequest)
    (addrs : Except CheckFailure (List IpAddr)) : Probing :=
  match addrs.bind (resolveIp request.address) with
  | .error e => w.setProbe i (.done (.error e))
  | .ok address =>
    if !IpAddr.isV4 address && !w.backend.clientV6 then
      w.setProbe i (.done (.error ⟨s!"ipv6 address {display address} cannot be pinged: " ++
        "no IPv6 raw socket available"⟩))
    else
      { w with backend := { w.backend with counter := w.backend.counter + 1 } }.setProbe i
        (.seeded address (w.backend.counter + w.backend.salt))

/-- **One step of one probe.** A step that is not its turn does nothing. -/
def step (display : IpAddr → String) (w : Probing) (event : ProbeEvent) : Probing :=
  match event with
  | .check request =>
    match validateAddress request.address with
    | .error message => { w with probes := w.probes ++ [.done (.error ⟨message⟩)] }
    | .ok () => { w with probes := w.probes ++ [.resolving request] }
  | .resolved i addrs =>
    match w.probes[i]? with
    | some (.resolving request) => w.resolve display i request addrs
    | _ => w
  | .reserve i =>
    match w.probes[i]? with
    | some (.seeded address seed) =>
      match nextUniqueIdentifier w.backend.inflight seed with
      | (.ok identifier, inflight) =>
        (w.setInflight inflight).setProbe i (.pinging address identifier)
      | (.error e, inflight) => (w.setInflight inflight).setProbe i (.done (.error e))
    | _ => w
  | .answered i reply =>
    match w.probes[i]? with
    | some (.pinging address _) =>
      match reply with
      | .ok latency => w.finish i (.done (.ok { address := some address, latency }))
      | .error message => w.finish i (.done (.error ⟨message⟩))
    | _ => w
  | .timedOut i => w.finish i (.done (.error ⟨"ICMP probe timed out (including DNS)"⟩))
  | .drop i => w.finish i .dropped

/-- **A run** of a backend that was just opened. -/
def run (display : IpAddr → String) (clientV6 : Bool) (salt : UInt16) (events : List ProbeEvent) :
    Probing :=
  events.foldl (step display) { backend := { clientV6, salt } }

end Probing

end SimpleNetworkMonitor.Backends
