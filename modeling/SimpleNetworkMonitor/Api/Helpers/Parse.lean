import SimpleNetworkMonitor.Api.Model.History
import SimpleNetworkMonitor.Common.Fallible
/-!
# Reading parameters

A number is read back as it is printed, and a parameter put after the others
changes none of them.
-/

namespace SimpleNetworkMonitor.Api

open History

/-! ## Numbers -/

/-- A printed number is its digits, which have no sign. -/
theorem digits_toString (n : ℕ) : (toString n).toList = Nat.toDigits 10 n ∧
    (Nat.toDigits 10 n).isEmpty = false ∧ (Nat.toDigits 10 n).all Char.isDigit = true ∧
    ∀ c, c.isDigit = false → (Nat.toDigits 10 n).head? ≠ some c := by
  have hdigits : ∀ c ∈ Nat.toDigits 10 n, c.isDigit = true := fun c hc =>
    Nat.isDigit_of_mem_toDigits (by decide) (by decide) hc
  refine ⟨Nat.toList_repr, by simp, List.all_eq_true.mpr hdigits, fun c hc hhead => ?_⟩
  rw [hdigits c (List.mem_of_mem_head? hhead)] at hc
  exact absurd hc (by decide)

theorem parseUsize_toString {n : ℕ} (h : n < 18446744073709551616) :
    parseUsize (toString n) = some n := by
  obtain ⟨hlist, hempty, hall, hsign⟩ := digits_toString n
  simp only [parseUsize, hlist, if_neg (hsign '+' (by decide)), hempty, hall, Bool.not_true,
    Bool.or_self, Bool.false_eq_true, if_false,
    Nat.ofDigitChars_toDigits (b := 10) (by decide) (by decide), if_pos h]

theorem parseI64_toString (n : ℕ) : parseI64 (toString (n : ℤ)) =
    if n ≤ 9223372036854775807 then some (n : ℤ) else none := by
  obtain ⟨hlist, hempty, hall, hsign⟩ := digits_toString n
  have hdigits : (toString (n : ℤ)).toList = Nat.toDigits 10 n := hlist
  simp only [parseI64, hdigits, hsign '-' (by decide), hsign '+' (by decide), or_self, if_false,
    hempty, hall, Bool.not_true, Bool.or_self, Bool.false_eq_true,
    Nat.ofDigitChars_toDigits (b := 10) (by decide) (by decide)]
  split_ifs <;> first | rfl | omega

/-! ## Parameters -/

variable {pairs q : List (String × String)} {key : String}

/-- **Parameters that are each given once** are read as they are. -/
theorem parseUniqueQuery_eq_ok (h : parseUniqueQuery pairs = .ok q) :
    q = pairs ∧ ∀ init pair rest, pairs = init ++ pair :: rest → init.lookup pair.1 = none := by
  have hloop : ∀ (pairs params : List (String × String)),
      pairs.foldlM (fun params pair =>
        if (params.lookup pair.1).isSome then
          (throw (.badRequest ("duplicate query parameter " ++ Daemon.debug pair.1)) :
            Except ApiError _)
        else return params ++ [pair]) params = .ok q →
      q = params ++ pairs ∧
        ∀ init pair rest, pairs = init ++ pair :: rest → (params ++ init).lookup pair.1 = none := by
    intro pairs
    induction pairs with
    | nil =>
      intro params h
      refine ⟨by rw [List.append_nil]; exact (Except.ok.inj h).symm, fun init pair rest h => ?_⟩
      exact absurd h (by simp)
    | cons first pairs ih =>
      intro params h
      obtain ⟨next, hnext, h⟩ := Except.bind_eq_ok_iff.mp h
      dsimp only at hnext
      split_ifs at hnext with hgiven
      · obtain rfl := Except.ok.inj hnext
        obtain ⟨hq, hnone⟩ := ih _ h
        refine ⟨by rw [hq, List.append_assoc, List.singleton_append], ?_⟩
        intro init pair rest hsplit
        rcases List.cons_eq_append_iff.mp hsplit with ⟨rfl, hcons⟩ | ⟨init, rfl, hrest⟩
        · obtain ⟨rfl, -⟩ := List.cons.inj hcons
          rw [List.append_nil]
          exact Option.not_isSome_iff_eq_none.mp hgiven
        · simpa using hnone init pair rest hrest
  exact hloop pairs [] h

/-- The cursor of a page is given once, after the parameters of the first. -/
theorem lookup_pageBelow {before : ℤ} (h : parseUniqueQuery (pageBelow pairs before) = .ok q) :
    q.lookup "before" = some (toString before) ∧
      ∀ key, key ≠ "before" → q.lookup key = pairs.lookup key := by
  obtain ⟨rfl, hnone⟩ := parseUniqueQuery_eq_ok h
  have hfirst := hnone pairs _ [] rfl
  refine ⟨?_, fun key hkey => ?_⟩
  · rw [pageBelow, List.lookup_append, hfirst]
    rfl
  · rw [pageBelow, List.lookup_append, List.lookup_cons, beq_false_of_ne hkey]
    cases pairs.lookup key <;> rfl

/-! ## Requests -/

/-- **What a request was read from.** -/
theorem parse_eq_ok {now : ℤ} {request : HistoryRequest} {before : Option ℤ}
    {limit : ℕ} (h : parse pairs true now = .ok (request, before, limit)) :
    parseUniqueQuery pairs = .ok pairs ∧ request.Valid now ∧ ∃ fromMs toMs maxPoints cursor shown,
      number pairs "from" none = .ok fromMs ∧ number pairs "to" none = .ok toMs ∧
      number pairs "max_points" (some 600) = .ok maxPoints ∧
      number pairs "before" (some 9223372036854775807) = .ok cursor ∧
      number pairs "limit" (some 100) = .ok shown ∧ before = some cursor ∧ limit = shown.toNat ∧
      request =
        { fromMs, toMs
          maxPoints := maxPoints.toNat
          module := (pairs.lookup "module").getD "icmp"
          check := pairs.lookup "check"
          hosts := values pairs "hosts"
          groups := values pairs "groups"
          breakdown := (pairs.lookup "breakdown").getD "all" } := by
  obtain ⟨q, hq, hread⟩ := Except.bind_eq_ok_iff.mp h
  obtain ⟨rfl, -⟩ := parseUniqueQuery_eq_ok hq
  clear h
  simp only [if_true] at hread
  obtain ⟨fromMs, hfrom, h⟩ := Except.bind_eq_ok_iff.mp hread
  obtain ⟨toMs, hto, h⟩ := Except.bind_eq_ok_iff.mp h
  obtain ⟨maxPoints, hpoints, h⟩ := Except.bind_eq_ok_iff.mp h
  obtain ⟨before', hbefore, h⟩ := Except.bind_eq_ok_iff.mp h
  obtain ⟨cursor, hcursor, rfl⟩ := Except.map_eq_ok_iff.mp hbefore
  obtain ⟨shown, hshown, h⟩ := Except.bind_eq_ok_iff.mp h
  split_ifs at h with hrange hother
  · cases h
  · cases h
  · cases h
  · obtain ⟨⟨⟩, hvalid, h⟩ := Except.bind_eq_ok_iff.mp h
    -- every number is in its range, so only the request itself is left to check
    obtain ⟨hrequest, hrest⟩ := Prod.mk.inj (Except.ok.inj h)
    obtain ⟨hcursor', hlimit⟩ := Prod.mk.inj hrest
    rw [hrequest] at hvalid
    exact ⟨hq, HistoryRequest.valid_of_validate (Except.mapError_eq_ok_iff.mp hvalid), fromMs, toMs, maxPoints, cursor, shown, hfrom, hto, hpoints, hcursor, hshown,
      hcursor'.symm, hlimit.symm, hrequest.symm⟩

theorem number_congr {q' : List (String × String)} (h : q'.lookup key = q.lookup key)
    (default : Option ℤ) : number q' key default = number q key default := by
  simp only [number, h]

/-- **The request below a cursor** is the first, with another cursor. -/
theorem parse_pageBelow {now now' : ℤ} {request request' : HistoryRequest}
    {before before' : Option ℤ} {limit limit' n : ℕ}
    (h : parse pairs true now = .ok (request, before, limit))
    (h' : parse (pageBelow pairs n) true now' = .ok (request', before', limit')) :
    request' = request ∧ before' = some (n : ℤ) ∧ limit' = limit := by
  obtain ⟨-, -, fromMs, toMs, maxPoints, -, shown, hfrom, hto, hpoints, -, hshown, -, rfl, rfl⟩ :=
    parse_eq_ok h
  obtain ⟨hq, -, fromMs', toMs', maxPoints', cursor, shown', hfrom', hto', hpoints', hcursor, hshown',
    rfl, rfl, rfl⟩ := parse_eq_ok h'
  obtain ⟨hbefore, hlookup⟩ := lookup_pageBelow hq
  have hcongr : ∀ key, key ≠ "before" → ∀ default,
      number (pageBelow pairs n) key default = number pairs key default :=
    fun key hkey => number_congr (hlookup key hkey)
  rw [hcongr "from" (by decide), hfrom] at hfrom'
  rw [hcongr "to" (by decide), hto] at hto'
  rw [hcongr "max_points" (by decide), hpoints] at hpoints'
  rw [hcongr "limit" (by decide), hshown] at hshown'
  obtain rfl := Except.ok.inj hfrom'
  obtain rfl := Except.ok.inj hto'
  obtain rfl := Except.ok.inj hpoints'
  obtain rfl := Except.ok.inj hshown'
  refine ⟨?_, ?_, rfl⟩
  · simp only [values, hlookup "module" (by decide), hlookup "check" (by decide),
      hlookup "hosts" (by decide), hlookup "groups" (by decide), hlookup "breakdown" (by decide)]
  · simp only [number, hbefore, parseI64_toString] at hcursor
    split_ifs at hcursor
    exact congrArg some (Except.ok.inj hcursor).symm

end SimpleNetworkMonitor.Api
