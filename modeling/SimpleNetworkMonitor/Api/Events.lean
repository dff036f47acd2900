import SimpleNetworkMonitor.Api.Helpers.Parse
import SimpleNetworkMonitor.Common.Fold
import SimpleNetworkMonitor.History.Helpers.Events
/-!
# Paging through events and samples

A client follows the cursors of its pages while the daemon records,
synchronizes, rolls up and prunes. It comes to an end, is shown no row
twice, and is shown every row that is there all the time.
-/

namespace SimpleNetworkMonitor.Api

open History Scroll

/-- The rows that a request would show if its page had room for all. -/
def admitted (db : HistoryDb) (pairs : List (String × String)) (samples : Bool) (clock : Readings) :
    Except ApiError (List HistoryEvent) := do
  let (request, before, _) ← parse pairs true clock.parsed
  let selected ← (epochs db request clock.read).mapError .storage
  return matching db request (before.getD 9223372036854775807) samples selected

variable {db : HistoryDb} {pairs : List (String × String)} {samples : Bool} {clock : Readings}
  {first : HistoryEventsResponse}

/-- A row that is there after each of the steps. -/
def Lasts (pairs : List (String × String)) (samples : Bool) (db : HistoryDb)
    (first : HistoryEventsResponse) (steps : List (ℤ × WalkStep)) (r : ℕ × EventRow) : Prop :=
  ∀ n, r ∈ feed samples (walk pairs samples db first (steps.take n)).db

theorem lasts_iff {steps : List (ℤ × WalkStep)} {r : ℕ × EventRow} :
    Lasts pairs samples db first steps r ↔ ∀ n < steps.length + 1,
      r ∈ feed samples (walk pairs samples db first (steps.take n)).db := by
  refine ⟨fun h n _ => h n, fun h n => ?_⟩
  have hmem := h (min n steps.length) (by omega)
  rwa [← List.take_take, List.take_length] at hmem

instance (steps : List (ℤ × WalkStep)) (r : ℕ × EventRow) :
    Decidable (Lasts pairs samples db first steps r) :=
  decidable_of_iff _ lasts_iff.symm

/-! ## One page -/

/-- The row is shown as `event`, in the range of the request. -/
structure Shows (db : HistoryDb) (request : HistoryRequest) (r : ℕ × EventRow)
    (event : HistoryEvent) : Prop where
  epoch : ∃ row, (r.2.epochId, row) ∈ db.epochs.rows ∧ Selects request row.toEpochInfo ∧
    HistoryEvent.ofRow r row.toEpochInfo = event
  fromMs : request.fromMs ≤ event.atMs
  toMs : event.atMs < request.toMs

theorem Shows.mem_matching {request : HistoryRequest} {r : ℕ × EventRow} {event : HistoryEvent}
    {selected : List Epoch} {now before : ℤ} (h : Shows db request r event)
    (hepochs : epochs db request now = .ok selected) (hr : r ∈ feed samples db)
    (hbefore : eventId event < before) : event ∈ matching db request before samples selected := by
  obtain ⟨row, hrow, hsel, heq⟩ := h.epoch
  exact (History.mem_matching hepochs).mpr ⟨⟨r, hr, row, hrow, hsel, heq⟩, h.fromMs, h.toMs, hbefore⟩

/-- **A call that leaves the row** leaves what it is shown as. -/
theorem Shows.apply {config : HistoryConfig} {now : ℤ} {op : HistoryOp} {request : HistoryRequest}
    {r : ℕ × EventRow} {event : HistoryEvent} (h : Shows db request r event) (hone : OneActive db)
    (hfrom : request.fromMs < now) (hr : r ∈ feed samples (op.apply config now db)) :
    Shows (op.apply config now db) request r event := by
  obtain ⟨row, hrow, hsel, rfl⟩ := h.epoch
  obtain ⟨row', hrow', hsel', hshown⟩ := shownAs_apply hone op hrow hsel hfrom ⟨r, hr, rfl⟩
  exact ⟨⟨row', hrow', hsel', hshown r⟩, h.fromMs, h.toMs⟩

/-! ## The walk -/

/-- **What holds after each step**, of the rows that stay and what they are
shown as. -/
structure Walking (request : HistoryRequest) (Stays : ℕ × EventRow → HistoryEvent → Prop)
    (bound : ℕ) (w : Walk) : Prop where
  sound : Sound w.db
  exact : Exact eventId (fun event => ∃ r, Stays r event) w.client
  paced : Paced Int.toNat bound w.client
  shows : ∀ r event, Stays r event → Shows w.db request r event

section Walking

variable {request : HistoryRequest} {Stays : ℕ × EventRow → HistoryEvent → Prop} {bound : ℕ}
  {w : Walk} {now : ℤ}

/-- The daemon writes. -/
theorem walking_write (samples : Bool) (h : Walking request Stays bound w) {config : HistoryConfig} {op : HistoryOp}
    (hfrom : request.fromMs < now)
    (hstays : ∀ r event, Stays r event → r ∈ feed samples (op.apply config now w.db)) :
    Walking request Stays bound { w with db := op.apply config now w.db } :=
  ⟨sound_apply op h.sound, h.exact, h.paced, fun r event hr =>
    (h.shows r event hr).apply h.sound.one hfrom (hstays r event hr)⟩

/-- What asking for a page does. -/
theorem apply_page_cases (pairs : List (String × String)) (samples : Bool) (now validated read : ℤ)
    (w : Walk) : WalkStep.apply pairs samples now (.page validated read) w = w ∨
      ∃ before response, w.client.next = some before ∧
        eventResponse w.db (pageBelow pairs before) samples ⟨now, validated, read⟩ = .ok response ∧
        WalkStep.apply pairs samples now (.page validated read) w =
          { w with client := w.client.turn response.page } := by
  rcases hnext : w.client.next with - | before
  · exact Or.inl (by simp only [WalkStep.apply, hnext])
  rcases hresponse : eventResponse w.db (pageBelow pairs before) samples ⟨now, validated, read⟩ with
    e | response
  · exact Or.inl (by simp only [WalkStep.apply, hnext, hresponse])
  · exact Or.inr ⟨before, response, rfl, hresponse, by simp only [WalkStep.apply, hnext, hresponse]⟩

/-- **A page is asked for**: it is one of the same request. -/
theorem walking_page (h : Walking request Stays bound w) {before : Option ℤ} {limit : ℕ}
    (hparse : parse pairs true clock.parsed = .ok (request, before, limit)) {validated read : ℤ}
    (hstays : ∀ r event, Stays r event → r ∈ feed samples w.db) :
    Walking request Stays bound (WalkStep.apply pairs samples now (.page validated read) w) := by
  rcases apply_page_cases pairs samples now validated read w with
    heq | ⟨cursor, response, hnext, hresponse, heq⟩ <;> rw [heq]
  · exact h
  -- the cursor is the number of a row
  obtain ⟨last, -, hcursor, -⟩ := h.exact.next cursor hnext
  obtain rfl : (last.id : ℤ) = cursor := hcursor
  obtain ⟨⟨request', before', limit'⟩, hparse', hpage⟩ := Except.bind_eq_ok_iff.mp hresponse
  obtain ⟨rfl, rfl, rfl⟩ := parse_pageBelow hparse hparse'
  obtain ⟨-, selected, hepochs, hpage⟩ := isPage_historyEvents (Except.mapError_eq_ok_iff.mp hpage)
  refine ⟨h.sound, exact_turn h.exact hnext hpage ?_, paced_turn h.paced hnext hpage ?_, h.shows⟩
  · rintro event ⟨r, hr⟩ hbelow
    exact (h.shows r event hr).mem_matching hepochs (hstays r event hr) hbelow
  · intro event _ hbelow
    exact (Int.toNat_lt_toNat (by simp only [eventId] at hbelow; omega)).mpr hbelow

/-- The steps, one after the other. -/
theorem walking_steps {steps : List (ℤ × WalkStep)} {before : Option ℤ} {limit : ℕ}
    (hparse : parse pairs true clock.parsed = .ok (request, before, limit))
    (hfrom : ∀ step ∈ steps, request.fromMs < step.1)
    (hstays : ∀ r event, Stays r event → Lasts pairs samples db first steps r)
    (h : Walking request Stays bound ⟨db, Scroll.start first.page⟩) :
    Walking request Stays bound (walk pairs samples db first steps) := by
  refine (List.foldl_invariant (l := steps) (P := fun done w =>
    w = walk pairs samples db first done ∧ Walking request Stays bound w)
    (fun done rest w step hsteps hw => ?_) ⟨rfl, h⟩).2
  obtain ⟨rfl, hw⟩ := hw
  have hnext : WalkStep.apply pairs samples step.1 step.2 (walk pairs samples db first done) =
      walk pairs samples db first (done ++ [step]) := by
    simp only [walk, Clocked.run, List.foldl_append, List.foldl_cons, List.foldl_nil]
  -- a row that lasts is there before the step and after it
  have hlasts : ∀ part rest, steps = part ++ rest → ∀ r event, Stays r event →
      r ∈ feed samples (walk pairs samples db first part).db := by
    intro part rest hpart r event hr
    have hmem := hstays r event hr part.length
    rwa [hpart, List.take_left] at hmem
  refine ⟨hnext, ?_⟩
  obtain ⟨now, step⟩ := step
  cases step with
  | write config op =>
    refine walking_write samples hw (hfrom _ (hsteps ▸ List.mem_append_right _ List.mem_cons_self)) ?_
    intro r event hr
    have hmem := hlasts (done ++ [(now, .write config op)]) rest
      (by rw [hsteps, List.append_cons]) r event hr
    rwa [← hnext] at hmem
  | page validated read => exact walking_page hw hparse (hlasts done _ hsteps)

end Walking

/-! ## The result -/

/-- **Paging loses nothing and repeats nothing.** After any run of the daemon
a client reads a first page, of any parameters, and follows the cursors while
the daemon goes on, whose clock reads no instant before that page's. It comes
to an end after a number of pages that the first page bounds, whatever happens
in between; the numbers of the rows it is shown go strictly down; and when it
is done it was shown once every row that the first page admits and that was
there all the time. -/
theorem paging_is_exact (history : List (ℤ × HistoryConfig × HistoryOp)) {first}
    (hfirst : eventResponse (runWith history) pairs samples clock = .ok first) :
    ∃ rows, admitted (runWith history) pairs samples clock = .ok rows ∧
      ∃ bound, ∀ steps : List (ℤ × WalkStep), (∀ step ∈ steps, clock.parsed ≤ step.1) →
        let client := (walk pairs samples (runWith history) first steps).client
        (client.pages ≤ bound ∧ (client.pages = bound → client.next = none)) ∧
        client.shown.Pairwise (fun a b => b.id < a.id) ∧
        (client.next = none → ∀ event ∈ rows, ∀ r, r.1 = event.id →
          Lasts pairs samples (runWith history) first steps r →
            client.shown.filter (fun shown => shown.id = event.id) = [event]) := by
  obtain ⟨⟨request, before, limit⟩, hparse, hfirst⟩ := Except.bind_eq_ok_iff.mp hfirst
  obtain ⟨-, selected, hepochs, hpage⟩ := isPage_historyEvents (Except.mapError_eq_ok_iff.mp hfirst)
  have hfrom : request.fromMs < clock.parsed := (parse_eq_ok hparse).2.1.fromMs_lt
  have hadmitted : admitted (runWith history) pairs samples clock = .ok (matching (runWith history)
      request (before.getD 9223372036854775807) samples selected) :=
    Except.bind_eq_ok_iff.mpr ⟨_, hparse, Except.bind_eq_ok_iff.mpr ⟨selected,
      Except.mapError_eq_ok_iff.mpr hepochs, rfl⟩⟩
  refine ⟨_, hadmitted, (first.page.2.map Int.toNat).getD 0 + 2, fun steps hclock => ?_⟩
  have hstart : Walking request (fun r event => r.1 = event.id ∧ event ∈ matching (runWith history)
      request (before.getD 9223372036854775807) samples selected ∧
      Lasts pairs samples (runWith history) first steps r) ((first.page.2.map Int.toNat).getD 0 + 2)
      ⟨runWith history, Scroll.start first.page⟩ := by
    refine ⟨sound_runWith history, exact_start hpage ?_, paced_start Int.toNat first.page, ?_⟩
    · rintro event ⟨r, -, hevent, -⟩
      exact ⟨hevent, ((mem_matching hepochs).mp hevent).2.2.2⟩
    · -- numbers are not handed out twice, so the row of a number is the event it was
      rintro r event ⟨hid, hevent, hlasts⟩
      obtain ⟨⟨r', hr', row, hrow, hsel, rfl⟩, hfrom, hto, -⟩ := (mem_matching hepochs).mp hevent
      obtain rfl : r = r' := List.inj_on_of_nodup_map (nodup_feed samples _) (hlasts 0) hr' hid
      exact ⟨⟨row, hrow, hsel, rfl⟩, hfrom, hto⟩
  have h := walking_steps hparse (fun step hstep => lt_of_lt_of_le hfrom (hclock step hstep))
    (fun r event hr => hr.2.2) hstart
  refine ⟨⟨h.paced.pages, fun hpages => h.paced.done (le_of_eq hpages.symm)⟩,
    h.exact.sorted.imp fun hlt => Int.ofNat_lt.mp hlt, fun hdone event hevent r hid hlasts => ?_⟩
  have honce := h.exact.once hdone ⟨r, hid, hevent, hlasts⟩
  simpa only [eventId, Nat.cast_inj] using honce

/-! ## A sample -/

/-- A host goes down and comes up again. -/
def sampleHistory : List (ℤ × HistoryConfig × HistoryOp) :=
  [(1000, {}, .syncEpochs [{ id := "h1", address := "10.0.0.1", name := "H", groups := [] }]),
    (2000, {}, .record "h1" .icmp "" 2000 ⟨"up", true, some 4, none, none, none⟩),
    (32000, {}, .record "h1" .icmp "" 32000 ⟨"down", false, none, none, none, none⟩),
    (42000, {}, .record "h1" .icmp "" 42000 ⟨"up", true, some 4, none, none, none⟩)]

/-- Pages of one event. -/
def sampleParameters : List (String × String) := [("from", "0"), ("to", "50000"), ("limit", "1")]

def sampleEvent (id : ℕ) (atMs : ℤ) (previousState : Option String)
    (observation : HistoryObservation) : HistoryEvent :=
  { id, hostId := "h1", name := "H", groups := [], module := "icmp", checkId := "", atMs
    previousState, observation }

/-- The first page shows the last event. -/
def samplePage : HistoryEventsResponse where
  events := [sampleEvent 3 42000 (some "down") ⟨"up", true, some 4, none, none, none⟩]
  nextBefore := some 3

/-- Between the pages the host goes down again and is removed. -/
def sampleWalk : List (ℤ × WalkStep) :=
  [(51000, .page 51000 51000),
    (52000, .write {} (.record "h1" .icmp "" 52000 ⟨"down", false, none, none, none, none⟩)),
    (53000, .write {} (.syncEpochs [])),
    (54000, .write {} (.rollup 5)),
    (55000, .page 55000 55001)]

/-- The event of the middle is shown once. -/
theorem sampleWalk_exact :
    let client := (walk sampleParameters false (runWith sampleHistory) samplePage sampleWalk).client
    client.next = none ∧ client.shown.filter (fun shown => shown.id = 2) =
      [sampleEvent 2 32000 (some "up") ⟨"down", false, none, none, none, none⟩] := by
  obtain ⟨rows, hrows, bound, h⟩ := @paging_is_exact sampleParameters false ⟨50000, 50000, 50001⟩
    sampleHistory samplePage (by decide +kernel)
  have hdone : (walk sampleParameters false (runWith sampleHistory) samplePage
    sampleWalk).client.next = none := by decide +kernel
  have hrow : sampleEvent 2 32000 (some "up") ⟨"down", false, none, none, none, none⟩ ∈ rows := by
    have hmem : ((admitted (runWith sampleHistory) sampleParameters false
        ⟨50000, 50000, 50001⟩).toOption.any fun rows =>
          sampleEvent 2 32000 (some "up") ⟨"down", false, none, none, none, none⟩ ∈ rows) = true := by
      decide +kernel
    rw [hrows] at hmem
    exact of_decide_eq_true hmem
  exact ⟨hdone, (h sampleWalk (by decide)).2.2 hdone _ hrow
    (2, ⟨1, 32000, some "up", ⟨"down", false, none, none, none, none⟩⟩) rfl (by decide +kernel)⟩

end SimpleNetworkMonitor.Api
