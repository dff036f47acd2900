import SimpleNetworkMonitor.Backends.Model.Checks
/-!
# Deadlines of checks

A check is over by its deadline, whatever the network or its child does, and
what it finds by then is what it would have found without one.
-/

namespace SimpleNetworkMonitor.Backends

/-! ## TCP -/

section Tcp

variable {transport : TcpTransport} {request : TcpRequest} {now started d elapsed : ℕ}

/-- **Addresses that refuse**, one after the other, from an instant to an
instant. -/
inductive Refused (transport : TcpTransport) : ℕ → List SocketAddr → ℕ → Prop where
  | nil (now : ℕ) : Refused transport now [] now
  | cons {now d later : ℕ} {address : SocketAddr} {addresses : List SocketAddr} {err : String}
      (refuses : (transport.connect address).run now = some (d, .error err))
      (others : Refused transport (now + d) addresses later) :
      Refused transport now (address :: addresses) later

theorem Refused.le {later : ℕ} {addresses : List SocketAddr}
    (h : Refused transport now addresses later) : now ≤ later := by
  induction h with
  | nil => exact le_rfl
  | cons _ _ ih => exact (Nat.le_add_right _ _).trans ih

/-- **A target that accepts** after a while: its name is resolved, and of its
addresses the first ones refuse and the next one accepts. -/
def Accepts (transport : TcpTransport) (request : TcpRequest) (now d : ℕ) : Prop :=
  ∃ t tried address rest later s,
    (transport.resolve request.address request.port.get).run now =
      some (t, .ok (tried ++ address :: rest)) ∧
    Refused transport (now + t) tried later ∧
    (transport.connect address).run later = some (s, .ok ()) ∧ later + s = now + d

/-- The loop succeeds with the first address that accepts. -/
theorem connectAny_eq_ok {addresses : List SocketAddr} {error : String} :
    (transport.connectAny started error addresses).run now = some (d, .ok elapsed) ↔
      ∃ tried address rest later s, addresses = tried ++ address :: rest ∧
        Refused transport now tried later ∧
        (transport.connect address).run later = some (s, .ok ()) ∧
        later + s = now + d ∧ elapsed = now + d - started := by
  induction addresses generalizing now d error with
  | nil => simp [TcpTransport.connectAny]
  | cons first others ih =>
    rw [TcpTransport.connectAny, Timed.run_bind]
    constructor
    · rintro ⟨s, t, answer, hconnect, hrest, rfl⟩
      cases answer with
      | ok =>
        obtain ⟨instant, hclock, heq⟩ := Timed.run_map.mp hrest
        obtain ⟨rfl, rfl⟩ := Prod.mk.inj (Option.some.inj hclock)
        exact ⟨[], first, others, now, s, rfl, .nil now, hconnect, rfl,
          (Except.ok.inj heq).symm⟩
      | error err =>
        obtain ⟨tried, address, rest, later, s', rfl, hrefused, haccepts, hlater, helapsed⟩ :=
          ih.mp hrest
        exact ⟨first :: tried, address, rest, later, s', rfl, .cons hconnect hrefused, haccepts,
          by omega, by omega⟩
    · rintro ⟨tried, address, rest, later, s, heq, hrefused, haccepts, hlater, rfl⟩
      cases hrefused with
      | nil =>
        obtain ⟨rfl, rfl⟩ := List.cons.inj heq
        refine ⟨s, 0, .ok (), haccepts, Timed.run_map.mpr ⟨_, rfl, ?_⟩, by omega⟩
        rw [hlater]
      | @cons _ t _ _ tried err hrefuses hothers =>
        obtain ⟨rfl, rfl⟩ := List.cons.inj heq
        have hle := hothers.le
        have hend : now + t + (d - t) = now + d := by omega
        refine ⟨t, d - t, .error err, hrefuses, ?_, by omega⟩
        exact ih.mpr ⟨tried, address, rest, later, s, rfl, hothers, haccepts, by omega, by rw [hend]⟩

theorem attempt_eq_ok :
    (transport.attempt request started).run now = some (d, .ok elapsed) ↔
      Accepts transport request now d ∧ elapsed = now + d - started := by
  rw [TcpTransport.attempt, Timed.run_bind]
  constructor
  · rintro ⟨t, t', answer, hresolve, hrest, rfl⟩
    cases answer with
    | error err => simp at hrest
    | ok addresses =>
      obtain ⟨tried, address, rest, later, s, rfl, hrefused, haccepts, hlater, rfl⟩ :=
        connectAny_eq_ok.mp hrest
      exact ⟨⟨t, tried, address, rest, later, s, hresolve, hrefused, haccepts, by omega⟩, by omega⟩
  · rintro ⟨⟨t, tried, address, rest, later, s, hresolve, hrefused, haccepts, hlater⟩, rfl⟩
    have hle := hrefused.le
    have hend : now + t + (d - t) = now + d := by omega
    refine ⟨t, d - t, .ok _, hresolve, ?_, by omega⟩
    exact connectAny_eq_ok.mpr
      ⟨tried, address, rest, later, s, rfl, hrefused, haccepts, by omega, by rw [hend]⟩

/-- A check of a valid request, once its clock is read. -/
theorem run_check (haddress : validateAddress request.address = .ok ())
    (htimeout : validateDuration request.timeout = .ok ()) :
    (transport.check request).run now =
      ((·.getD (.error "TCP check timed out (including DNS resolution)")) <$>
        Timed.timeout request.timeout (transport.attempt request now)).run now := by
  simp only [TcpTransport.check, haddress, htimeout, Timed.run_clock_bind]

theorem within_check (transport : TcpTransport) (request : TcpRequest) :
    Timed.Within request.timeout (transport.check request) := by
  intro now
  rcases haddress : validateAddress request.address with err | _
  · exact ⟨0, .error err, by simp [TcpTransport.check, haddress], Nat.zero_le _⟩
  rcases htimeout : validateDuration request.timeout with err | _
  · exact ⟨0, .error err, by simp [TcpTransport.check, haddress, htimeout], Nat.zero_le _⟩
  · rw [run_check haddress htimeout]
    exact (Timed.within_timeout _ _).map now

/-- **A check finds what is there by its deadline.** -/
theorem check_eq_ok : (∃ d, (transport.check request).run now = some (d, .ok elapsed)) ↔
    validateAddress request.address = .ok () ∧ validateDuration request.timeout = .ok () ∧
      elapsed ≤ request.timeout ∧ Accepts transport request now elapsed := by
  constructor
  · rintro ⟨d, hrun⟩
    rcases haddress : validateAddress request.address with err | _
    · simp [TcpTransport.check, haddress] at hrun
    rcases htimeout : validateDuration request.timeout with err | _
    · simp [TcpTransport.check, haddress, htimeout] at hrun
    rw [run_check haddress htimeout] at hrun
    obtain ⟨answer, hanswer, heq⟩ := Timed.run_map.mp hrun
    cases answer with
    | none => cases heq
    | some result =>
      obtain rfl : result = .ok elapsed := heq
      obtain ⟨hattempt, hd⟩ := Timed.run_timeout_eq_some.mp hanswer
      obtain ⟨haccepts, helapsed⟩ := attempt_eq_ok.mp hattempt
      obtain rfl : elapsed = d := by omega
      exact ⟨rfl, rfl, hd, haccepts⟩
  · rintro ⟨haddress, htimeout, hle, haccepts⟩
    refine ⟨elapsed, ?_⟩
    rw [run_check haddress htimeout]
    exact Timed.run_map.mpr ⟨some (.ok elapsed), Timed.run_timeout_eq_some.mpr
      ⟨attempt_eq_ok.mpr ⟨haccepts, by omega⟩, hle⟩, rfl⟩

/-- **TCP observations.** Whatever the network does, a target is observed by
its deadline, and the observation is of the instant the check began. It is a
success, with the time that it took, exactly if the target accepts by then. -/
theorem connects_in_time (utc : ℕ → ℤ) (transport : TcpTransport) (request : TcpRequest)
    (now : ℕ) : ∃ d snapshot, (transport.observe utc request).run now = some (d, snapshot) ∧
      d ≤ request.timeout ∧ snapshot.observedAt = utc now ∧
      ∀ elapsed, snapshot.duration = some elapsed ↔
        validateAddress request.address = .ok () ∧ validateDuration request.timeout = .ok () ∧
          elapsed ≤ request.timeout ∧ Accepts transport request now elapsed := by
  obtain ⟨d, result, hrun, hd⟩ := within_check transport request now
  refine ⟨d, ⟨utc now, result⟩, ?_, hd, rfl, fun elapsed => ?_⟩
  · rw [TcpTransport.observe, Timed.run_clock_bind]
    exact Timed.run_map.mpr ⟨result, hrun, rfl⟩
  · rw [← check_eq_ok, hrun]
    cases result with
    | ok duration => simp [TcpSnapshot.duration]
    | error err => simp [TcpSnapshot.duration]

end Tcp

/-! ## Child processes -/

section Child

variable {child : Child} {input : List UInt8} {output : Output} {now d timeout : ℕ}

/-- **A child that is done** after a while: it takes its input, says no more
than the limit on either pipe, and exits. -/
def Completes (child : Child) (input : List UInt8) (now d : ℕ) (output : Output) : Prop :=
  ∃ written out err exited,
    (child.write input).run now = some (written, .ok ()) ∧
    (child.stdout (OUTPUT_LIMIT + 1)).run now = some (out, .ok output.stdout) ∧
    output.stdout.length ≤ OUTPUT_LIMIT ∧
    (child.stderr (OUTPUT_LIMIT + 1)).run now = some (err, .ok output.stderr) ∧
    output.stderr.length ≤ OUTPUT_LIMIT ∧
    child.wait.run now = some (exited, .ok output.status) ∧
    d = max written (max out (max err exited))

theorem boundedRead_eq_ok {reader : ℕ → Timed (Except String (List UInt8))}
    {bytes : List UInt8} : (boundedRead reader).run now = some (d, .ok bytes) ↔
      (reader (OUTPUT_LIMIT + 1)).run now = some (d, .ok bytes) ∧ bytes.length ≤ OUTPUT_LIMIT := by
  rw [boundedRead, Timed.run_map]
  constructor
  · rintro ⟨answer, hrun, heq⟩
    cases answer with
    | error err => cases heq
    | ok read =>
      simp only [Except.bind, bounded] at heq
      split_ifs at heq with hlong
      obtain rfl := Except.ok.inj heq
      exact ⟨hrun, Nat.le_of_not_lt hlong⟩
  · rintro ⟨hrun, hshort⟩
    exact ⟨.ok bytes, hrun, by simp only [Except.bind, bounded, if_neg (Nat.not_lt.mpr hshort)]⟩

/-- All four are done when the last of them is. -/
theorem output_eq_ok : (child.output input).run now = some (d, .ok output) ↔
    Completes child input now d output := by
  rw [Child.output, Timed.run_map]
  constructor
  · rintro ⟨answer, hrun, heq⟩
    cases answer with
    | error err => cases heq
    | ok joined =>
      obtain ⟨⟨⟩, stdout, stderr, status⟩ := joined
      obtain rfl := Except.ok.inj heq
      obtain ⟨written, _, hwrite, hpipes, rfl⟩ := Timed.run_tryJoin_eq_ok.mp hrun
      obtain ⟨out, _, hout, hrest, rfl⟩ := Timed.run_tryJoin_eq_ok.mp hpipes
      obtain ⟨err, exited, herr, hexit, rfl⟩ := Timed.run_tryJoin_eq_ok.mp hrest
      obtain ⟨hout, hshort⟩ := boundedRead_eq_ok.mp hout
      obtain ⟨herr, hshort'⟩ := boundedRead_eq_ok.mp herr
      exact ⟨written, out, err, exited, hwrite, hout, hshort, herr, hshort', hexit, rfl⟩
  · rintro ⟨written, out, err, exited, hwrite, hout, hshort, herr, hshort', hexit, rfl⟩
    refine ⟨.ok ((), output.stdout, output.stderr, output.status), ?_, rfl⟩
    refine Timed.run_tryJoin_eq_ok.mpr ⟨written, _, hwrite, ?_, rfl⟩
    refine Timed.run_tryJoin_eq_ok.mpr ⟨out, _, boundedRead_eq_ok.mpr ⟨hout, hshort⟩, ?_, rfl⟩
    exact Timed.run_tryJoin_eq_ok.mpr
      ⟨err, exited, boundedRead_eq_ok.mpr ⟨herr, hshort'⟩, hexit, rfl⟩

theorem within_runChild (spawned : Except String Child) (input : List UInt8) (timeout : ℕ) :
    Timed.Within timeout (runChild spawned input timeout) := by
  cases spawned with
  | error err => exact Timed.within_pure _
  | ok child => exact (Timed.within_timeout _ _).map

/-- **A run has the output of a child that is done by the deadline.** -/
theorem runChild_eq_ok {spawned : Except String Child} :
    (runChild spawned input timeout).run now = some (d, .ok output) ↔
      ∃ child, spawned = .ok child ∧ Completes child input now d output ∧ d ≤ timeout := by
  cases spawned with
  | error err => simp [runChild]
  | ok child =>
    rw [runChild, Timed.run_map]
    constructor
    · rintro ⟨answer, hrun, heq⟩
      cases answer with
      | none => cases heq
      | some result =>
        obtain rfl : result = .ok output := heq
        obtain ⟨hchild, hd⟩ := Timed.run_timeout_eq_some.mp hrun
        exact ⟨child, rfl, output_eq_ok.mp hchild, hd⟩
    · rintro ⟨_, ⟨⟩, hcompletes, hd⟩
      exact ⟨some (.ok output),
        Timed.run_timeout_eq_some.mpr ⟨output_eq_ok.mpr hcompletes, hd⟩, rfl⟩

end Child

/-! ## Usage -/

section Usage

variable {machine : Machine} {request : UsageCollectionRequest} {host : Host} {now d : ℕ}
  {counts : UsageCounts}

/-- **A host that reports its users** after a while: `ssh` runs to its end, and
prints the counts. -/
def Reports (machine : Machine) (request : UsageCollectionRequest) (now d : ℕ)
    (counts : UsageCounts) : Prop :=
  ∃ child output,
    machine.spawn "ssh" (sshArgs request.address request.timeout request.sshVerifyHostKey) =
      .ok child ∧
    Completes child
      (machine.remoteUsageScript request.os request.linuxMinUid request.macosMinUid) now d output ∧
    output.status.success = true ∧ machine.fromSlice output.stdout = .ok counts

theorem counts_eq_ok {answer : Except String Output} : machine.counts answer = .ok counts ↔
    ∃ output, answer = .ok output ∧ output.status.success = true ∧
      machine.fromSlice output.stdout = .ok counts := by
  cases answer with
  | error err => simp [Machine.counts]
  | ok output =>
    simp only [Machine.counts, Except.ok.injEq, exists_eq_left']
    split_ifs with hsuccess
    · rcases machine.fromSlice output.stdout with err | found <;> simp [Except.mapError, hsuccess]
    · simp [hsuccess]

theorem within_collect (machine : Machine) (request : UsageCollectionRequest) :
    Timed.Within request.timeout (machine.collect request) := by
  unfold Machine.collect
  split
  · exact Timed.within_pure _
  · exact (within_runChild _ _ _).map

theorem collect_eq_ok : (machine.collect request).run now = some (d, .ok counts) ↔
    validateAddress request.address = .ok () ∧ d ≤ request.timeout ∧
      Reports machine request now d counts := by
  unfold Machine.collect
  split
  case h_1 message haddress => simp [haddress]
  case h_2 haddress =>
    rw [Timed.run_map]
    constructor
    · rintro ⟨answer, hrun, heq⟩
      obtain ⟨output, rfl, hsuccess, hparse⟩ := counts_eq_ok.mp heq
      obtain ⟨child, hspawn, hcompletes, hd⟩ := runChild_eq_ok.mp hrun
      exact ⟨haddress, hd, child, output, hspawn, hcompletes, hsuccess, hparse⟩
    · rintro ⟨-, hd, child, output, hspawn, hcompletes, hsuccess, hparse⟩
      exact ⟨.ok output, runChild_eq_ok.mpr ⟨child, hspawn, hcompletes, hd⟩,
        counts_eq_ok.mpr ⟨output, rfl, hsuccess, hparse⟩⟩

/-- What a collection is recorded as is well formed. -/
theorem validate_snapshot (collectedAt : ℤ) (answer : Except UsageFailure UsageCounts) :
    (Machine.snapshot collectedAt answer).validate = .ok () := by
  cases answer <;> rfl

/-- **Usage observations.** Whatever `ssh` does, a host is observed by its
deadline, and the storage takes what is observed. It is a success, with the
counts, exactly if the host reports them by then. -/
theorem collections_in_time (machine : Machine) (host : Host) (now : ℕ) :
    ∃ d snapshot, (machine.collectOnce host).run now = some (d, snapshot) ∧
      d ≤ host.modules.usage.timeout ∧ snapshot.collectedAt = machine.utc now ∧
      snapshot.validate = .ok () ∧
      ∀ counts : UsageCounts,
        snapshot = .success (machine.utc now) counts.consoleUsers counts.remoteUsers ↔
          validateAddress host.address = .ok () ∧
            Reports machine (Machine.request host) now d counts := by
  obtain ⟨d, answer, hrun, hd⟩ := within_collect machine (Machine.request host) now
  refine ⟨d, Machine.snapshot (machine.utc now) answer, ?_, hd, ?_, validate_snapshot _ _,
    fun counts => ?_⟩
  · rw [Machine.collectOnce, Timed.run_clock_bind]
    exact Timed.run_map.mpr ⟨answer, hrun, rfl⟩
  · cases answer <;> rfl
  · have hcounts : answer = .ok counts ↔ validateAddress host.address = .ok () ∧
        Reports machine (Machine.request host) now d counts := by
      constructor
      · rintro rfl
        obtain ⟨haddress, -, hreports⟩ := collect_eq_ok.mp hrun
        exact ⟨haddress, hreports⟩
      · rintro ⟨haddress, hreports⟩
        have hfound : (machine.collect (Machine.request host)).run now = some (d, .ok counts) :=
          collect_eq_ok.mpr ⟨haddress, hd, hreports⟩
        rw [hrun] at hfound
        exact (Prod.mk.inj (Option.some.inj hfound)).2
    rw [← hcounts]
    cases answer with
    | ok found =>
      obtain ⟨console, remote⟩ := found
      obtain ⟨console', remote'⟩ := counts
      simp [Machine.snapshot, UsageSnapshot.success]
    | error err => simp [Machine.snapshot, UsageSnapshot.success]

end Usage

end SimpleNetworkMonitor.Backends
