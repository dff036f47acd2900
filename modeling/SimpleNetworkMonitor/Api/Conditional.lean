import SimpleNetworkMonitor.Api.Model.Service
import SimpleNetworkMonitor.Common.Fallible
import SimpleNetworkMonitor.Common.Fold
/-!
# Conditional requests

A client that polls a page of the inventory keeps the pages it was sent with
their tags, sends the tags along, and shows what it keeps where it is told
that nothing changed. The tag is a hash of the page, so what the client shows
is the page as it is, up to a collision of the hash.
-/

namespace SimpleNetworkMonitor.Api

variable {codec : Codec} {faults : ApiFaults} {state : ApiState} {req : Request}

/-! ## Tags -/

theorem entityTag_inj {bytes bytes' : List UInt8} :
    entityTag codec bytes = entityTag codec bytes' ↔ codec.hash bytes = codec.hash bytes' := by
  have hfits : ∀ v : UInt64, v.toNat < 16 ^ 16 := fun v => v.toNat_lt
  constructor
  · intro h
    have hdigits := List.append_cancel_right (List.cons.inj h).2
    exact UInt64.toNat_inj.mp (Hexadecimal.padded_injective (hfits _) (hfits _) hdigits)
  · intro h
    rw [entityTag, h, entityTag]

/-- A tag can stand in a list of tags. -/
theorem token_entityTag (bytes : List UInt8) : Listed.Token ',' (entityTag codec bytes) := by
  intro c hc
  have hquote : '"' ≠ ',' ∧ '"'.isWhitespace = false := by decide
  rcases List.mem_cons.mp hc with rfl | hc
  · exact hquote
  rcases List.mem_append.mp hc with hc | hc
  · obtain ⟨d, hd, rfl⟩ := Hexadecimal.mem_padded (UInt64.toNat_lt _) hc
    have hdigit : ∀ d < 16, Nat.digitChar d ≠ ',' ∧ (Nat.digitChar d).isWhitespace = false := by
      decide
    exact hdigit d hd
  · rw [List.mem_singleton.mp hc]
    exact hquote

/-! ## The client -/

/-- A page that the client keeps, and its tag. -/
structure Kept where
  tag : List Char
  bytes : List UInt8

/-- **A client**: what it keeps, and what it shows. -/
structure Client where
  kept : List Kept := []
  shown : Option (List UInt8) := none

/-- The request for a page of the inventory. -/
def inventoryRequest (queryString : String) (authorization : Option HeaderValue) : Request where
  path := ["v1", "inventory", "hosts"]
  queryString
  authorization

/-- The request with the tags of what is kept. -/
def Client.request (client : Client) (req : Request) : Request :=
  if client.kept.isEmpty then req
  else
    { req with
      ifNoneMatch := some (some (String.ofList (Listed.write ',' (client.kept.map (·.tag))))) }

/-- The client takes an answer: it keeps and shows a page, or shows the one
it keeps under the tag. -/
def Client.take (client : Client) (answer : Answer) : Client :=
  match answer.etag, answer.body with
  | some tag, .page bytes => { kept := ⟨tag.toList, bytes⟩ :: client.kept, shown := some bytes }
  | some tag, .empty =>
    { client with shown := (client.kept.find? (·.tag = tag.toList)).map (·.bytes) }
  | _, _ => client

/-- What the client does: it asks for the page, in whatever state the service
then is, or forgets some of what it keeps. -/
inductive ClientStep where
  | poll (faults : ApiFaults) (state : ApiState)
  | forget (stays : Kept → Bool)

def ClientStep.apply (codec : Codec) (req : Request) (client : Client) : ClientStep → Client
  | .poll faults state => client.take (answer codec faults state (client.request req))
  | .forget stays => { client with kept := client.kept.filter stays }

def Client.run (codec : Codec) (req : Request) (steps : List ClientStep) (client : Client) : Client :=
  steps.foldl (ClientStep.apply codec req) client

/-! ## The handler -/

/-- The bytes of the page, for who may read them. -/
def authorizedBytes (codec : Codec) (faults : ApiFaults) (state : ApiState) (req : Request) :
    Except ApiError (List UInt8) := do
  authorize faults state req
  pageBytes codec faults state req

theorem respond_pure (a : Answer) : respond (pure a) = a := rfl

theorem answer_inventory (client : Client) (queryString : String)
    (authorization : Option HeaderValue) :
    let req := inventoryRequest queryString authorization
    answer codec faults state (client.request req) =
      respond (authorizedBytes codec faults state req >>= fun bytes =>
        let tag := entityTag codec bytes
        let unchanged := (client.request req).ifNoneMatch.join.any (lists · tag)
        pure { status := if unchanged then 304 else 200
               etag := some (String.ofList tag)
               cacheControl := some "private, no-cache"
               body := if unchanged then .empty else .page bytes }) := by
  intro req
  have hsame : (client.request req).path = req.path ∧
      authorize faults state (client.request req) = authorize faults state req ∧
      pageBytes codec faults state (client.request req) = pageBytes codec faults state req := by
    unfold Client.request
    split_ifs <;> exact ⟨rfl, rfl, rfl⟩
  have hroute : Route.ofPath req.path = some .hostsPage := rfl
  simp only [answer, hsame.1, hroute, Route.handle, hostsPageHandler, authorizedBytes, bind_assoc,
    hsame.2.1, hsame.2.2]

/-! ## The invariant -/

/-- Everything is kept under its own tag. -/
def Client.Tagged (codec : Codec) (client : Client) : Prop :=
  ∀ kept ∈ client.kept, kept.tag = entityTag codec kept.bytes

/-- **A tag that is sent is found** where a page with its hash is kept. -/
theorem lists_request {client : Client} (h : client.Tagged codec) (queryString : String)
    (authorization : Option HeaderValue) (bytes : List UInt8) :
    (client.request (inventoryRequest queryString authorization)).ifNoneMatch.join.any
        (lists · (entityTag codec bytes)) = true ↔
      ∃ kept ∈ client.kept, codec.hash kept.bytes = codec.hash bytes := by
  unfold Client.request
  rcases hkept : client.kept with - | ⟨kept, rest⟩
  · simp [inventoryRequest]
  · have htokens : ∀ token ∈ client.kept.map (·.tag), Listed.Token ',' token := by
      intro token htoken
      obtain ⟨kept, hmem, rfl⟩ := List.mem_map.mp htoken
      exact h kept hmem ▸ token_entityTag kept.bytes
    have hread := @Listed.read_write ',' _ (by decide) htokens (by simp [hkept])
    simp only [List.isEmpty_cons, Bool.false_eq_true, if_false, Option.join_some, Option.any_some,
      lists, String.toList_ofList]
    rw [← hkept, hread, List.any_map, List.any_eq_true]
    refine exists_congr fun kept => and_congr_right fun hmem => ?_
    rw [Function.comp_apply, decide_eq_true_eq, h kept hmem, entityTag_inj]

theorem Client.Tagged.take {client : Client} (h : client.Tagged codec) (queryString : String)
    (authorization : Option HeaderValue) :
    (client.take (answer codec faults state
      (client.request (inventoryRequest queryString authorization)))).Tagged codec := by
  rw [answer_inventory]
  rcases authorizedBytes codec faults state (inventoryRequest queryString authorization) with e | bytes
  · exact h
  · simp only [Except.ok_bind]
    split_ifs
    · exact h
    · intro kept hmem
      rcases List.mem_cons.mp hmem with rfl | hmem
      · exact String.toList_ofList
      · exact h kept hmem

theorem tagged_run (codec : Codec) (queryString : String) (authorization : Option HeaderValue)
    (steps : List ClientStep) :
    (Client.run codec (inventoryRequest queryString authorization) steps {}).Tagged codec := by
  refine List.foldl_invariant (P := fun _ client => Client.Tagged codec client)
    (fun _ _ client step _ h => ?_) fun _ hmem => absurd hmem List.not_mem_nil
  cases step with
  | poll faults state => exact h.take queryString authorization
  | forget stays => exact fun kept hmem => h kept (List.mem_filter.mp hmem).1

/-! ## The result -/

/-- **A poll shows the page as it is**, up to the hash. Whatever the client
polled and forgot before, and whatever happened to the service: a poll that
is answered shows bytes with the hash of the page, and so the page, where no
other page that is kept has its hash. It is answered without the page exactly
where one with its hash is kept. A poll that fails changes nothing. -/
theorem polls_revalidate (codec : Codec) (queryString : String)
    (authorization : Option HeaderValue) (steps : List ClientStep) (faults : ApiFaults)
    (state : ApiState) :
    let req := inventoryRequest queryString authorization
    let client := Client.run codec req steps {}
    let a := answer codec faults state (client.request req)
    (∀ e, authorizedBytes codec faults state req = .error e →
      a.status = e.statusCode ∧ client.take a = client) ∧
    ∀ bytes, authorizedBytes codec faults state req = .ok bytes →
      (a.status = 200 ∨ a.status = 304) ∧
      (a.status = 304 ↔ ∃ kept ∈ client.kept, codec.hash kept.bytes = codec.hash bytes) ∧
      ∃ shown, (client.take a).shown = some shown ∧ codec.hash shown = codec.hash bytes ∧
        ((∀ kept ∈ client.kept, codec.hash kept.bytes = codec.hash bytes → kept.bytes = bytes) →
          shown = bytes) := by
  intro req client a
  have htagged : client.Tagged codec := tagged_run codec queryString authorization steps
  have ha : a = _ := answer_inventory client queryString authorization
  refine ⟨fun e he => ?_, fun bytes hbytes => ?_⟩
  · rw [ha]
    simp only [req, he]
    exact ⟨rfl, rfl⟩
  · have hlists := lists_request htagged queryString authorization bytes
    rw [ha]
    simp only [req] at hbytes
    simp only [hbytes, Except.ok_bind, respond_pure]
    split_ifs with hunchanged
    · obtain ⟨kept, hmem, hhash⟩ := hlists.mp hunchanged
      refine ⟨Or.inr rfl, ⟨fun _ => ⟨kept, hmem, hhash⟩, fun _ => rfl⟩, ?_⟩
      -- the entry under the tag has the hash of the page
      rcases hfind : client.kept.find? (·.tag = entityTag codec bytes) with - | found
      · have := List.find?_eq_none.mp hfind kept hmem
        rw [decide_eq_true_eq, htagged kept hmem] at this
        exact absurd (entityTag_inj.mpr hhash) this
      · have hfound := List.mem_of_find?_eq_some hfind
        have htag : found.tag = entityTag codec bytes := by
          simpa using List.find?_some hfind
        have hsame := entityTag_inj.mp ((htagged found hfound).symm.trans htag)
        refine ⟨found.bytes, ?_, hsame, fun hunique => hunique found hfound hsame⟩
        simp only [Client.take, String.toList_ofList, hfind, Option.map_some]
    · refine ⟨Or.inl rfl, ⟨fun h => absurd h (by decide), fun h =>
        absurd (hlists.mpr h) hunchanged⟩, bytes, rfl, rfl, fun _ => rfl⟩

/-! ## A sample -/

def sampleText (parts : List String) : List UInt8 :=
  parts.flatMap fun part => part.toList.map fun c => c.toNat.toUInt8

/-- The page of an inventory without a host. -/
def sampleEmptyPage : List UInt8 := sampleText ["\x7b\"hosts\":[],\"next_after\":null\x7d"]

/-- The page of a host that was never checked. -/
def sampleRouterPage : List UInt8 := sampleText
  ["\x7b\"hosts\":[\x7b\"id\":\"router\",\"address\":\"192.0.2.1\",\"name\":\"router\",",
    "\"groups\":[],\"metadata\":\x7b\x7d,\"status\":\"unknown\",\"last_checked_at\":null,",
    "\"last_change_at\":null,\"latency_ms\":null,\"consecutive_successes\":0,",
    "\"consecutive_failures\":0,\"last_error\":null,\"usage\":null,\"icmp_enabled\":true,",
    "\"usage_enabled\":false,\"icmp_stale\":true,\"usage_stale\":true,\"tcp\":[]\x7d],",
    "\"next_after\":null\x7d"]

/-- The encoder and the hash, on the two pages. -/
def sampleEncoding : Codec where
  query _ := []
  duration _ := .error "expected number at 0"
  json page := if page.1.isEmpty then sampleEmptyPage else sampleRouterPage
  hash bytes := if bytes = sampleEmptyPage then 0xf5441453d6f98f44 else 0xd411e87ae8bf0d3b

def sampleServing (hosts : List Host) : ApiState where
  apiToken := none
  hosts := Storage.Catalog.ofHosts hosts
  clock := ⟨0, 0, 0⟩

def sampleRouter : Host where
  id := "router"
  address := "192.0.2.1"
  name := "router"
  groups := []
  modules := {}

/-- The client was sent both pages. -/
def samplePolled : Client :=
  Client.run sampleEncoding (inventoryRequest "" none)
    [.poll {} (sampleServing []), .poll {} (sampleServing [sampleRouter])] {}

/-- A poll of the first page is answered without it, and one that fails
leaves the second shown. -/
theorem samplePolls_revalidate :
    let req := samplePolled.request (inventoryRequest "" none)
    let unchanged := answer sampleEncoding {} (sampleServing []) req
    let failed := answer sampleEncoding { hostsPoisoned := true } (sampleServing []) req
    unchanged.status = 304 ∧ (samplePolled.take unchanged).shown = some sampleEmptyPage ∧
      failed.status = 500 ∧ samplePolled.take failed = samplePolled := by
  intro req unchanged failed
  have hpolls := fun faults => polls_revalidate sampleEncoding "" none
    [.poll {} (sampleServing []), .poll {} (sampleServing [sampleRouter])] faults (sampleServing [])
  obtain ⟨-, hpage⟩ := hpolls {}
  obtain ⟨herror, -⟩ := hpolls { hostsPoisoned := true }
  obtain ⟨-, hstatus, shown, hshown, -, hsame⟩ := hpage sampleEmptyPage rfl
  have hkept : ∃ kept ∈ samplePolled.kept,
      sampleEncoding.hash kept.bytes = sampleEncoding.hash sampleEmptyPage := by decide +kernel
  have honly : ∀ kept ∈ samplePolled.kept,
      sampleEncoding.hash kept.bytes = sampleEncoding.hash sampleEmptyPage →
        kept.bytes = sampleEmptyPage := by decide +kernel
  obtain ⟨hcode, hnothing⟩ := herror (.storage .lockPoisoned) rfl
  exact ⟨hstatus.mpr hkept, hsame honly ▸ hshown, hcode, hnothing⟩

end SimpleNetworkMonitor.Api
