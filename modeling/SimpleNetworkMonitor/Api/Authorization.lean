import SimpleNetworkMonitor.Api.Model.Service
import SimpleNetworkMonitor.Common.Fallible
import Mathlib.Data.List.Basic
/-!
# What an answer can tell

Every route that reads the shared state authorizes its request first, and a
request that is refused is answered from the request alone. A server error is
answered with one of two texts, whatever went wrong.
-/

namespace SimpleNetworkMonitor.Api

variable {codec : Codec} {faults faults' : ApiFaults} {state state' : ApiState} {req : Request}

/-! ## Who is let through -/

/-- **A request presents a token.** -/
def Presents (req : Request) (token : ApiToken) : Prop :=
  req.authorization = some (some (BEARER_PREFIX ++ token.value))

instance (req : Request) (token : ApiToken) : Decidable (Presents req token) :=
  inferInstanceAs (Decidable (_ = _))

theorem stripPrefix_eq_some_iff {value lead rest : String} :
    stripPrefix value lead = some rest ↔ value = lead ++ rest := by
  rw [stripPrefix, Option.map_eq_some_iff, ← String.toList_inj]
  constructor
  · rintro ⟨l, hl, rfl⟩
    obtain ⟨lead', heq, hbeq⟩ := List.dropPrefix?_eq_some_iff.mp hl
    rw [heq, eq_of_beq hbeq, String.toList_append, String.toList_ofList]
  · intro h
    refine ⟨rest.toList, List.dropPrefix?_eq_some_iff.mpr ⟨lead.toList, ?_, BEq.rfl⟩,
      String.ofList_toList⟩
    rw [h, String.toList_append]

/-- **Authorization** lets through who presents the token, if there is one. -/
theorem authorize_eq_ok_iff : authorize faults state req = .ok () ↔
    faults.apiTokenPoisoned = false ∧
      ∀ token, state.apiToken = some token → Presents req token := by
  unfold authorize
  rcases faults.apiTokenPoisoned with - | -
  swap
  · simp
  rcases htoken : state.apiToken with - | token
  · simp
  simp only [Bool.false_eq_true, if_false, true_and, Option.some.injEq, forall_eq', Presents]
  rcases req.authorization with - | (- | value)
  · simp
  · simp
  · simp only [Option.some.injEq]
    rcases hstrip : stripPrefix value BEARER_PREFIX with - | presented
    · simp only [reduceCtorEq, false_iff]
      rintro rfl
      rw [stripPrefix_eq_some_iff.mpr rfl] at hstrip
      cases hstrip
    · obtain rfl := stripPrefix_eq_some_iff.mp hstrip
      simp only [String.append_right_inj]
      split_ifs with heq
      · simp [heq]
      · simp [heq]

/-- Whom it does not let through it tells no more than that. -/
theorem authorize_cases (hlock : faults.apiTokenPoisoned = false) :
    authorize faults state req = .ok () ∨ authorize faults state req = .error .unauthorized := by
  unfold authorize
  rw [hlock, if_neg Bool.false_ne_true]
  rcases state.apiToken with - | expected
  · exact Or.inl rfl
  rcases req.authorization with - | (- | value)
  · exact Or.inr rfl
  · exact Or.inr rfl
  · simp only
    rcases stripPrefix value BEARER_PREFIX with - | presented
    · exact Or.inr rfl
    · simp only
      split_ifs
      · exact Or.inl rfl
      · exact Or.inr rfl

theorem authorize_refused (hlock : faults.apiTokenPoisoned = false) {token : ApiToken}
    (htoken : state.apiToken = some token) (h : ¬ Presents req token) :
    authorize faults state req = .error .unauthorized :=
  (authorize_cases hlock).resolve_left fun hok => h ((authorize_eq_ok_iff.mp hok).2 token htoken)

/-! ## What is answered without a token -/

/-- The routes that say nothing of what is monitored. -/
def Route.isPublic : Route → Bool
  | .healthz | .openapi => true
  | _ => false

/-- The routes whose limit the framework reads before the handler is
called. -/
def Route.takesLimit : Route → Bool
  | .hostHistory _ | .hostUsageHistory _ | .hostUsageSamples _ => true
  | _ => false

/-- **Authorization comes first**: its error is the answer, but where the
framework rejects the request. -/
theorem handle_refused {e : ApiError} (h : authorize faults state req = .error e) {route : Route}
    (hroute : route.isPublic = false) :
    route.handle codec faults state req =
      if route.takesLimit && (historyQuery (codec.query req.queryString)).isNone then
        { status := 400, body := .rejected }
      else { status := e.statusCode, body := .error e.text } := by
  have hlimited : ∀ handler : Option ℕ → Except ApiError Answer, (∀ limit, handler limit = .error e) →
      withLimit codec req handler =
        if (historyQuery (codec.query req.queryString)).isNone then
          { status := 400, body := .rejected }
        else { status := e.statusCode, body := .error e.text } := by
    intro handler hhandler
    unfold withLimit
    rcases historyQuery (codec.query req.queryString) with - | limit
    · rfl
    · simp [hhandler, respond]
  cases route with
  | healthz => cases hroute
  | openapi => cases hroute
  | hostHistory id => exact hlimited _ fun limit => by rw [Api.hostHistory, h, Except.error_bind]
  | hostUsageHistory id =>
    exact hlimited _ fun limit => by
      rw [Api.hostUsageHistory, usageRowsHandler, h, Except.error_bind]
  | hostUsageSamples id =>
    exact hlimited _ fun limit => by
      rw [Api.hostUsageSamples, usageRowsHandler, h, Except.error_bind]
  | metrics => rw [Route.handle, Api.metrics, h]; rfl
  | readyz => rw [Route.handle, readyzHandler, h]; rfl
  | hostsPage => rw [Route.handle, hostsPageHandler, h]; rfl
  | namespaces => rw [Route.handle, Api.namespaces, h]; rfl
  | moduleCatalog => rw [Route.handle, Api.moduleCatalog, h]; rfl
  | allHosts => rw [Route.handle, Api.allHosts, h]; rfl
  | host id => rw [Route.handle, hostHandler, h]; rfl
  | usageSummary => rw [Route.handle, usageSummaryHandler, h]; rfl
  | series => rw [Route.handle, Api.series, h]; rfl
  | events => rw [Route.handle, eventResponseHandler, h]; rfl
  | samples => rw [Route.handle, eventResponseHandler, h]; rfl
  | maintenance => rw [Route.handle, Api.maintenance, h]; rfl

/-- **A request that is refused learns nothing**: in any two states that
refuse it alike, it has one answer. -/
theorem answer_refused {e : ApiError} (h : authorize faults state req = .error e)
    (h' : authorize faults' state' req = .error e) :
    answer codec faults state req = answer codec faults' state' req := by
  unfold answer
  rcases Route.ofPath req.path with - | route
  · rfl
  rcases hpublic : route.isPublic with - | -
  · simp only [handle_refused h hpublic, handle_refused h' hpublic]
  · cases route <;> first | rfl | cases hpublic

/-! ## What an error tells -/

/-- **The text of a server error** is one of two. -/
theorem text_of_statusCode {e : ApiError} (h : 500 ≤ e.statusCode) :
    e.text = "service busy; retry shortly" ∨ e.text = "internal server error" := by
  rw [ApiError.text, if_pos h]
  split_ifs
  · exact Or.inl rfl
  · exact Or.inr rfl

/-- A handler that answers with a server error only to tell that it waits
for observations. -/
def Tame (x : Except ApiError Answer) : Prop :=
  ∀ a, x = .ok a → a.status < 500 ∨ ∃ response, a.body = .readiness response

theorem Tame.error (e : ApiError) : Tame (.error e) := fun _ h => by cases h

theorem Tame.pure {a : Answer} (h : a.status < 500) : Tame (Pure.pure a) := fun _ heq => by
  obtain rfl := Except.ok.inj heq
  exact Or.inl h

theorem Tame.found {a : Answer} (h : a.status = 200) : Tame (Pure.pure a) := .pure (by omega)

theorem Tame.bind {α : Type} {x : Except ApiError α} {f : α → Except ApiError Answer}
    (h : ∀ a, Tame (f a)) : Tame (x >>= f) := fun b hb => by
  obtain ⟨a, -, ha⟩ := Except.bind_eq_ok_iff.mp hb
  exact h a b ha

theorem Tame.respond {x : Except ApiError Answer} (h : Tame x) (hstatus : 500 ≤ (respond x).status) :
    (respond x).body = .error "service busy; retry shortly" ∨
      (respond x).body = .error "internal server error" ∨
      ∃ response, (respond x).body = .readiness response := by
  cases x with
  | error e =>
    rcases text_of_statusCode hstatus with htext | htext
    · exact Or.inl (congrArg Body.error htext)
    · exact Or.inr (Or.inl (congrArg Body.error htext))
  | ok a =>
    rcases h a rfl with hlt | hreadiness
    · exact absurd hstatus (Nat.not_le.mpr hlt)
    · exact Or.inr (Or.inr hreadiness)

theorem tame_readyz {hosts : Except StorageError (List HostRecord)} {now : ℤ} :
    Tame (readyz hosts now >>= fun answer =>
      pure { status := answer.code, body := .readiness answer.body }) := fun a ha => by
  obtain ⟨answer, -, heq⟩ := Except.bind_eq_ok_iff.mp ha
  obtain rfl := Except.ok.inj heq
  exact Or.inr ⟨answer.body, rfl⟩

theorem tame_usageRows {load : String → ℕ → List (ℕ × Storage.UsageRow)} {id : String}
    {limit : Option ℕ} : Tame (usageRowsHandler faults state req load id limit) :=
  .bind fun _ => .bind fun _ => .found rfl

theorem tame_eventResponse {samples : Bool} :
    Tame (eventResponseHandler codec faults state req samples) :=
  .bind fun _ => .bind fun _ => .bind fun _ => .found rfl

/-- **A server error tells nothing of what went wrong**, at any route. -/
theorem handle_serverError (route : Route)
    (h : 500 ≤ (route.handle codec faults state req).status) :
    (route.handle codec faults state req).body = .error "service busy; retry shortly" ∨
      (route.handle codec faults state req).body = .error "internal server error" ∨
      ∃ response, (route.handle codec faults state req).body = .readiness response := by
  have hlimited : ∀ handler : Option ℕ → Except ApiError Answer, (∀ limit, Tame (handler limit)) →
      500 ≤ (withLimit codec req handler).status →
      (withLimit codec req handler).body = .error "service busy; retry shortly" ∨
        (withLimit codec req handler).body = .error "internal server error" ∨
        ∃ response, (withLimit codec req handler).body = .readiness response := by
    intro handler htame hstatus
    unfold withLimit at hstatus ⊢
    rcases hquery : historyQuery (codec.query req.queryString) with - | limit
    · simp [hquery] at hstatus
    · simp only [hquery] at hstatus ⊢
      exact (htame limit).respond hstatus
  cases route with
  | metrics =>
    exact Tame.respond (.bind fun _ => .bind fun _ => .found rfl) h
  | healthz => simp [Route.handle, respond, Api.healthz] at h
  | readyz => exact Tame.respond (.bind fun _ => tame_readyz) h
  | hostsPage =>
    refine Tame.respond (.bind fun _ => .bind fun bytes => .pure ?_) h
    simp only
    split_ifs <;> decide
  | namespaces => exact Tame.respond (.bind fun _ => .found rfl) h
  | moduleCatalog =>
    refine Tame.respond (.bind fun _ => ?_) h
    split_ifs
    · exact .error _
    · exact .found rfl
  | allHosts =>
    exact Tame.respond (.bind fun _ => .bind fun _ => .bind fun _ => .bind fun _ =>
      .found rfl) h
  | host id =>
    refine Tame.respond (.bind fun _ => .bind fun found => ?_) h
    cases found with
    | none => exact .error _
    | some record => exact .found rfl
  | hostHistory id =>
    exact hlimited _ (fun limit => .bind fun _ => .bind fun _ => .found rfl) h
  | usageSummary =>
    exact Tame.respond (.bind fun _ => .bind fun _ => .bind fun _ => .bind fun _ =>
      .found rfl) h
  | hostUsageHistory id => exact hlimited _ (fun limit => tame_usageRows) h
  | hostUsageSamples id => exact hlimited _ (fun limit => tame_usageRows) h
  | series =>
    exact Tame.respond (.bind fun _ => .bind fun _ => .bind fun _ => .found rfl) h
  | events => exact Tame.respond tame_eventResponse h
  | samples => exact Tame.respond tame_eventResponse h
  | maintenance =>
    refine Tame.respond (.bind fun _ => ?_) h
    split_ifs
    · exact .error _
    · exact .bind fun _ => .found rfl
  | openapi => simp [Route.handle] at h

theorem answer_serverError (h : 500 ≤ (answer codec faults state req).status) :
    (answer codec faults state req).body = .error "service busy; retry shortly" ∨
      (answer codec faults state req).body = .error "internal server error" ∨
      ∃ response, (answer codec faults state req).body = .readiness response := by
  unfold answer at h ⊢
  rcases hroute : Route.ofPath req.path with - | route
  · simp [hroute] at h
  · simp only [hroute] at h ⊢
    exact handle_serverError route h

end SimpleNetworkMonitor.Api
