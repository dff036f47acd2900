import SimpleNetworkMonitor.Api.Authorization
import SimpleNetworkMonitor.Daemon.Listener
/-!
# Who reads what through reloads

The token a request is checked against is that of the configuration accepted
last. Where others can reach the listener, and the file does not open it,
what is monitored is answered to who presents that token, and a token that a
reload took away is worth nothing.
-/

namespace SimpleNetworkMonitor.Daemon

variable {V : Type} {toml : Toml V}

open Api (Codec ApiFaults ApiState Request Presents authorize answer Body)

/-- **What is monitored is told only to who presents the token.** Let others
reach the listener a process was started on, and let the configuration
accepted last, through whatever reloads, not open it. That configuration has
a token; a request is authorized where it presents it. One that does not has
one answer in all states of the service, whatever is stored or measured in
them. And no answer tells what went wrong inside the server. -/
theorem answers_guarded (toml : Toml V) (contents : String) (started : AppConfig)
    (storage : Storage.SqliteStorage) (events : List ManagerEvent)
    (hstarted : fromTomlStr toml contents = .ok started)
    (hexposed : started.bind.ip.isLoopback = false)
    (hclosed : (Manager.run toml events
      (Manager.start started storage)).accepted.allowUnauthenticatedNonLoopback = false) :
    let m := Manager.run toml events (Manager.start started storage)
    ∃ token, m.accepted.apiToken = some token ∧
      ∀ (codec : Codec) (req : Request) (faults faults' : ApiFaults) (state state' : ApiState),
        state.apiToken = m.shared.apiToken → state'.apiToken = m.shared.apiToken →
        faults.apiTokenPoisoned = faults'.apiTokenPoisoned →
        (faults.apiTokenPoisoned = false →
          (authorize faults state req = .ok () ↔ Presents req token)) ∧
        (¬ Presents req token →
          answer codec faults state req = answer codec faults' state' req) ∧
        (500 ≤ (answer codec faults state req).status →
          (answer codec faults state req).body = .error "service busy; retry shortly" ∨
          (answer codec faults state req).body = .error "internal server error" ∨
          ∃ response, (answer codec faults state req).body = .readiness response) := by
  intro m
  have hguarded : Manager.Guarded started m :=
    List.foldl_invariant (P := fun _ m => Manager.Guarded started m)
      (fun _ _ m event _ h => Manager.guarded_step event h)
      (Manager.guarded_start (guards_of_fromTomlStr hstarted))
  have htoken : m.accepted.apiToken.isSome = true :=
    (hguarded.accepted hexposed).resolve_right (by simp [m, hclosed])
  obtain ⟨token, htoken⟩ := Option.isSome_iff_exists.mp htoken
  refine ⟨token, htoken, fun codec req faults faults' state state' hstate hstate' hlock =>
    ⟨fun hpoison => ?_, fun hpresents => ?_, Api.answer_serverError⟩⟩
  · rw [Api.authorize_eq_ok_iff, hstate, hguarded.token, htoken]
    simp [hpoison]
  · rcases hpoison : faults.apiTokenPoisoned with - | -
    · refine Api.answer_refused (e := .unauthorized) ?_ ?_
      · exact Api.authorize_refused hpoison (hstate.trans (hguarded.token.trans htoken)) hpresents
      · exact Api.authorize_refused (hlock ▸ hpoison)
          (hstate'.trans (hguarded.token.trans htoken)) hpresents
    · refine Api.answer_refused (e := .storage .lockPoisoned) ?_ ?_
      · rw [authorize, if_pos hpoison]
      · rw [authorize, if_pos (hlock ▸ hpoison)]

/-- A request with the token that the sample process was started with. -/
def sampleRequest : Request where
  path := ["v1", "hosts"]
  authorization := some (some "Bearer fake-token")

/-- After the reload that took the token away, it is worth nothing. -/
theorem samplePublic_answers :
    ∃ token, (Manager.run sampleToml (sampleReload "moved")
        (Manager.start samplePublic {})).accepted.apiToken = some token ∧
      ¬ Presents sampleRequest token ∧
      ∀ (codec : Codec) (conn : Storage.Database) (clock : Api.Readings),
        answer codec {} { apiToken := some token, conn, clock } sampleRequest =
          answer codec {} { apiToken := some token, clock := ⟨0, 0, 0⟩ } sampleRequest := by
  obtain ⟨token, htoken, h⟩ := answers_guarded sampleToml "public" samplePublic {}
    (sampleReload "moved") (by decide +kernel) (by decide) (by decide +kernel)
  have hshared : (Manager.run sampleToml (sampleReload "moved")
      (Manager.start samplePublic {})).shared.apiToken = some token :=
    htoken ▸ by decide +kernel
  have hmoved : (Manager.run sampleToml (sampleReload "moved")
      (Manager.start samplePublic {})).accepted.apiToken =
        some ⟨"fake-new-token", by decide⟩ := by decide +kernel
  obtain rfl := Option.some.inj (htoken.symm.trans hmoved)
  have hpresents : ¬ Presents sampleRequest ⟨"fake-new-token", by decide⟩ := by decide
  exact ⟨_, htoken, hpresents, fun codec conn clock =>
    (h codec sampleRequest {} {} _ _ hshared.symm hshared.symm rfl).2.1 hpresents⟩

end SimpleNetworkMonitor.Daemon
