import OmsWmsTms.Lts.Basic
import Mathlib.Data.List.Infix
import Mathlib.Data.List.Nodup

/-!
# The refresh of the web client

The interceptors of `frontend/src/api/index.ts`, for any number of API requests whose answers arrive
in any order.  The first request that is answered 401 calls for a refresh, and those that are
answered 401 meanwhile are parked.

* `ApiClient.next`, `apiSystem` : the requests, the answers and the ends of the refresh calls.
* `SingleFlight` : one refresh at a time, which settles what is parked behind it, and no third send.
* `Settles` : a refresh fails only with nothing parked, and succeeds only for requests that have
  been sent once.
* `singleFlight_iff` : the runs of such steps.
-/

namespace OmsWmsTms

namespace Web

/-! ### Requests -/

/-- `localStorage`. -/
structure Storage where
  accessToken : Option String := none
  refreshToken : Option String := none
deriving DecidableEq

/-- A text that counts as true. -/
def truthy (text : Option String) : Option String := text.filter (· ≠ "")

/-- Where an API request stands. -/
inductive RequestPhase
  /-- It has no answer yet. -/
  | sent
  /-- It waits for the refresh of another request. -/
  | parked
  /-- It waits for its own refresh. -/
  | refreshing
  /-- Its caller has the response. -/
  | resolved
  /-- Its caller has the error. -/
  | rejected
deriving DecidableEq

/-- An API request, with its config. -/
structure ApiRequest where
  url : String
  /-- `headers.Authorization`. -/
  authorization : Option String := none
  /-- `_retry`. -/
  retry : Bool := false
  phase : RequestPhase := .sent
  /-- How often it has been sent. -/
  sends : ℕ := 0
deriving DecidableEq

namespace ApiRequest

/-- `` `Bearer ${token}` ``. -/
def bearer (token : String) : String := "Bearer " ++ token

/-- A request is sent, through the request interceptor. -/
def send (storage : Storage) (request : ApiRequest) : ApiRequest := { request with
  authorization := ((truthy storage.accessToken).map bearer).or request.authorization
  phase := .sent
  sends := request.sends + 1 }

/-- A request is sent again after a refresh. -/
def replay (storage : Storage) (token : String) (request : ApiRequest) : ApiRequest :=
  { request with authorization := some (bearer token) }.send storage

/-- The error of a request calls for a refresh. -/
def wantsRefresh (request : ApiRequest) (status : Option ℕ) : Bool :=
  status = some 401 && !request.retry &&
    !decide ("/auth/refresh".toList <:+: request.url.toList) &&
    !decide ("/auth/login".toList <:+: request.url.toList)

end ApiRequest

/-! ### The client -/

/-- The end of a refresh call: `none` when it raises, else the tokens in its response. -/
abbrev RefreshResult := Option Storage

/-- `newToken`, if it counts as true. -/
def RefreshResult.newToken (result : RefreshResult) : Option String :=
  result.bind fun data => truthy data.accessToken

/-- The state of the module. -/
structure ApiClient where
  storage : Storage
  isRefreshing : Bool := false
  /-- The requests that the functions in `pendingRequests` send again. -/
  pendingRequests : List ℕ := []
  /-- The requests that have called for the refreshes in flight. -/
  refreshCalls : List ℕ := []
  requests : List ApiRequest := []
deriving DecidableEq

/-- An event. -/
inductive ApiEvent
  | request (url : String)
  /-- A request has a response. -/
  | response (i : ℕ)
  /-- A request fails, with the status of its response if it has one. -/
  | error (i : ℕ) (status : Option ℕ)
  /-- The refresh call of a request ends. -/
  | refreshed (i : ℕ) (result : RefreshResult)
  /-- Other code writes to `localStorage`. -/
  | store (storage : Storage)
deriving DecidableEq

namespace ApiClient

variable (s : ApiClient)

/-- A request changes. -/
def update (i : ℕ) (f : ApiRequest → ApiRequest) : ApiClient :=
  { s with requests := s.requests.modify i f }

/-- The `catch` and `finally` blocks.  The functions of the parked requests are dropped,
uncalled. -/
def abandon (i : ℕ) : ApiClient := { s with
  pendingRequests := []
  storage := {}
  isRefreshing := false
  requests := s.requests.modify i fun request => { request with phase := .rejected } }

/-- The rest of the `try` block, with a new token, and the `finally` block. -/
def renew (i : ℕ) (token : String) (newRefresh : Option String) : ApiClient :=
  let storage := ⟨some token, (truthy newRefresh).or s.storage.refreshToken⟩
  { s with
    storage := storage
    pendingRequests := []
    isRefreshing := false
    requests := (s.pendingRequests ++ [i]).foldl
      (fun requests j => requests.modify j (·.replay storage token)) s.requests }

/-- The error of a request. -/
def fail (i : ℕ) (request : ApiRequest) (status : Option ℕ) : ApiClient :=
  if request.wantsRefresh status then
    if s.isRefreshing then
      { s.update i fun request => { request with phase := .parked } with
        pendingRequests := s.pendingRequests ++ [i] }
    else
      match truthy s.storage.refreshToken with
      | none => (s.update i fun request => { request with retry := true }).abandon i
      | some _ =>
        { s.update i fun request => { request with retry := true, phase := .refreshing } with
          isRefreshing := true
          refreshCalls := s.refreshCalls ++ [i] }
  else s.update i fun request => { request with phase := .rejected }

/-- An event. -/
def next : ApiEvent → Option ApiClient
  | .request url => some { s with requests := s.requests ++
      [ApiRequest.send s.storage { url := url }] }
  | .response i =>
    match s.requests[i]? with
    | some request =>
      if request.phase = .sent then
        some (s.update i fun request => { request with phase := .resolved })
      else none
    | none => none
  | .error i status =>
    match s.requests[i]? with
    | some request => if request.phase = .sent then some (s.fail i request status) else none
    | none => none
  | .refreshed i result =>
    if i ∈ s.refreshCalls then
      let s := { s with refreshCalls := s.refreshCalls.erase i }
      match result.newToken with
      | some token => some (s.renew i token (result.bind (·.refreshToken)))
      | none => some (s.abandon i)
    else none
  | .store storage => some { s with storage := storage }

end ApiClient

/-- The runs of the client. -/
def apiSystem : Lts ApiClient ApiEvent := Lts.ofNext ApiClient.next

/-- The client with what `localStorage` has. -/
def ApiClient.start (storage : Storage) : ApiClient where
  storage := storage

/-! ### Single flight -/

/-- One refresh at a time, which settles what is parked behind it, and no third send. -/
structure SingleFlight (s : ApiClient) (event : ApiEvent) (s' : ApiClient) : Prop where
  /-- At most one refresh call is in flight. -/
  single : s'.refreshCalls.length ≤ 1
  /-- When a refresh ends, what is parked is sent again with the new token, or rejected. -/
  settled : ∀ i result, event = .refreshed i result → ∀ (j : ℕ) request,
    s.requests[j]? = some request → request.phase = .parked →
    ∃ request', s'.requests[j]? = some request' ∧ (request'.phase = .rejected ∨
      ∃ token, result.newToken = some token ∧ request'.phase = .sent ∧
        request'.authorization = some (ApiRequest.bearer token) ∧
        request'.sends = request.sends + 1)
  /-- No request is sent more than twice. -/
  twice : ∀ request ∈ s'.requests, request.sends ≤ 2

/-- A refresh fails only with nothing parked behind it, and succeeds only for requests that have
been sent once. -/
def Settles (s : ApiClient) : ApiEvent → Prop
  | .refreshed i result =>
    match result.newToken with
    | some _ => ∀ j ∈ s.pendingRequests ++ [i], ∀ request, s.requests[j]? = some request →
        request.sends = 1
    | none => s.pendingRequests = []
  | .request _ | .response _ | .error _ _ | .store _ => True

/-- Where a request stands. -/
def ApiClient.phase? (s : ApiClient) (i : ℕ) : Option RequestPhase := s.requests[i]?.map (·.phase)

/-- The requests that wait are those behind the one refresh in flight. -/
structure ApiClient.Good (s : ApiClient) : Prop where
  single : s.refreshCalls.length ≤ 1
  idle : s.isRefreshing = false → s.refreshCalls = [] ∧ s.pendingRequests = []
  nodup : s.pendingRequests.Nodup
  parked : ∀ j, j ∈ s.pendingRequests ↔ s.phase? j = some .parked
  refreshing : ∀ i ∈ s.refreshCalls, s.phase? i = some .refreshing
  sends : ∀ (j : ℕ) request, s.requests[j]? = some request → 1 ≤ request.sends ∧ request.sends ≤ 2

variable {s s' : ApiClient} {event : ApiEvent}

/-- What is done to the requests of a list without repetitions is done once to each. -/
theorem getElem?_foldl_modify {f : ApiRequest → ApiRequest} {js : List ℕ} (hjs : js.Nodup)
    (requests : List ApiRequest) (j : ℕ) :
    (js.foldl (fun requests i => requests.modify i f) requests)[j]? =
      requests[j]?.map fun request => if j ∈ js then f request else request := by
  induction js generalizing requests with
  | nil => simp
  | cons i js ih =>
    obtain ⟨hi, hjs⟩ := List.nodup_cons.1 hjs
    rw [List.foldl_cons, ih hjs, List.getElem?_modify, Option.map_eq_map, Option.map_map]
    congr 1
    funext request
    by_cases hij : i = j
    · subst hij
      simp [hi]
    · simp [hij, Ne.symm hij]

/-- The request interceptor puts the token there that is there. -/
theorem ApiRequest.replay_authorization {request : ApiRequest} {storage : Storage} {token : String}
    (h : storage.accessToken = some token) :
    (request.replay storage token).authorization = some (bearer token) := by
  simp only [replay, send, h, truthy, Option.filter_some]
  split_ifs <;> rfl

namespace ApiClient

theorem getElem?_update {i j : ℕ} {f : ApiRequest → ApiRequest} :
    (s.update i f).requests[j]? =
      s.requests[j]?.map fun request => if i = j then f request else request := by
  simp [update, List.getElem?_modify]

theorem phase?_eq_some {j : ℕ} {phase : RequestPhase} :
    s.phase? j = some phase ↔ ∃ request, s.requests[j]? = some request ∧ request.phase = phase :=
  Option.map_eq_some_iff

theorem phase?_update {i j : ℕ} {f : ApiRequest → ApiRequest} {request : ApiRequest}
    (hi : s.requests[i]? = some request) :
    (s.update i f).phase? j = if i = j then some (f request).phase else s.phase? j := by
  unfold phase?
  rw [getElem?_update]
  by_cases hij : i = j
  · subst hij
    simp [hi]
  · simp [hij]

theorem sends_update {i j : ℕ} {f : ApiRequest → ApiRequest} {request : ApiRequest}
    (h : s.Good) (hsends : ∀ request, (f request).sends = request.sends)
    (hj : (s.update i f).requests[j]? = some request) :
    1 ≤ request.sends ∧ request.sends ≤ 2 := by
  rw [getElem?_update] at hj
  obtain ⟨request₀, hrequest, rfl⟩ := Option.map_eq_some_iff.1 hj
  split_ifs with hij
  · rw [hsends]
    exact h.sends j request₀ hrequest
  · exact h.sends j request₀ hrequest

theorem Good.not_parked (h : s.Good) (hpending : s.pendingRequests = []) (j : ℕ) :
    s.phase? j ≠ some .parked := by
  rw [ne_eq, ← h.parked, hpending]
  simp

/-- A request that goes on without waiting. -/
theorem Good.update (h : s.Good) {i : ℕ} {request : ApiRequest} {f : ApiRequest → ApiRequest}
    (hi : s.requests[i]? = some request) (hsent : request.phase = .sent)
    (hparked : (f request).phase ≠ .parked)
    (hsends : ∀ request, (f request).sends = request.sends) :
    (s.update i f).Good where
  single := h.single
  idle := h.idle
  nodup := h.nodup
  parked j := by
    rw [phase?_update hi]
    show j ∈ s.pendingRequests ↔ _
    rw [h.parked]
    split_ifs with hij
    · subst hij
      simp [phase?, hi, hsent, hparked]
    · rfl
  refreshing j hj := by
    have hphase := h.refreshing j hj
    rw [phase?_update hi]
    split_ifs with hij
    · subst hij
      simp [phase?, hi, hsent] at hphase
    · exact hphase
  sends j request' hj := sends_update h hsends hj

/-- A request that is parked. -/
theorem Good.park (h : s.Good) (hrefreshing : s.isRefreshing = true) {i : ℕ} {request : ApiRequest}
    (hi : s.requests[i]? = some request) (hsent : request.phase = .sent) :
    Good { s.update i fun request => { request with phase := .parked } with
      pendingRequests := s.pendingRequests ++ [i] } where
  single := h.single
  idle hidle := absurd (hrefreshing.symm.trans hidle) (by simp)
  nodup := by
    have hnew : i ∉ s.pendingRequests := by
      rw [h.parked]
      simp [phase?, hi, hsent]
    simpa [List.nodup_append] using ⟨h.nodup, fun j hj heq => hnew (heq ▸ hj)⟩
  parked j := by
    show j ∈ s.pendingRequests ++ [i] ↔ (s.update i _).phase? j = _
    rw [phase?_update hi, List.mem_append, List.mem_singleton, h.parked]
    split_ifs with hij
    · simp [hij]
    · simp [Ne.symm hij]
  refreshing j hj := by
    have hphase := h.refreshing j hj
    show (s.update i _).phase? j = _
    rw [phase?_update hi]
    split_ifs with hij
    · subst hij
      simp [phase?, hi, hsent] at hphase
    · exact hphase
  sends j request' hj := sends_update h (by simp) hj

/-- A request that calls for a refresh, when none is in flight. -/
theorem Good.lead (h : s.Good) (hidle : s.isRefreshing = false) {i : ℕ} {request : ApiRequest}
    (hi : s.requests[i]? = some request) :
    Good { s.update i fun request => { request with retry := true, phase := .refreshing } with
      isRefreshing := true
      refreshCalls := s.refreshCalls ++ [i] } := by
  obtain ⟨hcalls, hpending⟩ := h.idle hidle
  refine ⟨by simp [hcalls], by simp, h.nodup, fun j => ?_, fun j hj => ?_,
    fun j request' hj => sends_update h (by simp) hj⟩
  · show j ∈ s.pendingRequests ↔ (s.update i _).phase? j = _
    rw [phase?_update hi, h.parked]
    split_ifs with hij
    · subst hij
      simp [h.not_parked hpending]
    · rfl
  · rw [hcalls, List.nil_append, List.mem_singleton] at hj
    show (s.update i _).phase? j = _
    rw [phase?_update hi, if_pos hj.symm]

/-- A refresh that has failed with nothing parked behind it. -/
theorem Good.abandon (h : s.Good) (hcalls : s.refreshCalls = []) (hpending : s.pendingRequests = [])
    {i : ℕ} {request : ApiRequest} (hi : s.requests[i]? = some request) : (s.abandon i).Good where
  single := by simp [ApiClient.abandon, hcalls]
  idle _ := ⟨hcalls, rfl⟩
  nodup := List.nodup_nil
  parked j := by
    show j ∈ [] ↔ (s.update i _).phase? j = _
    rw [phase?_update hi]
    split_ifs
    · simp
    · simp [h.not_parked hpending]
  refreshing j hj := by
    have hnil : j ∈ ([] : List ℕ) := hcalls ▸ hj
    cases hnil
  sends j request' hj := sends_update h (by simp) hj

theorem Good.nodup_waiting (h : s.Good) {i : ℕ} (hi : i ∈ s.refreshCalls) :
    (s.pendingRequests ++ [i]).Nodup := by
  have hnew : i ∉ s.pendingRequests := by
    rw [h.parked, h.refreshing i hi]
    simp
  simpa [List.nodup_append] using ⟨h.nodup, fun j hj heq => hnew (heq ▸ hj)⟩

/-- Every request that waits is sent again. -/
theorem getElem?_renew (h : s.Good) {i : ℕ} (hi : i ∈ s.refreshCalls) {token : String}
    {newRefresh : Option String} (j : ℕ) :
    (s.renew i token newRefresh).requests[j]? = s.requests[j]?.map fun request =>
      if j ∈ s.pendingRequests ++ [i] then
        request.replay (s.renew i token newRefresh).storage token
      else request :=
  getElem?_foldl_modify (h.nodup_waiting hi) s.requests j

/-- A refresh that has succeeded, for requests that have been sent once. -/
theorem Good.renew (h : s.Good) {i : ℕ} (hi : i ∈ s.refreshCalls) {token : String}
    {newRefresh : Option String} (honce : ∀ j ∈ s.pendingRequests ++ [i], ∀ request,
      s.requests[j]? = some request → request.sends = 1) :
    Good { s.renew i token newRefresh with refreshCalls := [] } where
  single := by simp
  idle _ := ⟨rfl, rfl⟩
  nodup := List.nodup_nil
  parked j := by
    refine iff_of_false (by simp [ApiClient.renew]) ?_
    show (s.renew i token newRefresh).phase? j ≠ _
    unfold phase?
    rw [getElem?_renew h hi, Option.map_map]
    intro hparked
    obtain ⟨request, hrequest, hphase⟩ := Option.map_eq_some_iff.1 hparked
    simp only [Function.comp] at hphase
    split_ifs at hphase with hwaits
    · cases hphase
    · refine hwaits (List.mem_append_left _ ((h.parked j).2 ?_))
      simp [phase?, hrequest, hphase]
  refreshing j hj := by simp at hj
  sends j request' hj := by
    rw [show ({ s.renew i token newRefresh with refreshCalls := [] } : ApiClient).requests =
      (s.renew i token newRefresh).requests from rfl, getElem?_renew h hi] at hj
    obtain ⟨request, hrequest, rfl⟩ := Option.map_eq_some_iff.1 hj
    split_ifs with hwaits
    · have hsends := honce j hwaits request hrequest
      simp [ApiRequest.replay, ApiRequest.send, hsends]
    · exact h.sends j request hrequest

theorem Good.ended (h : s.Good) : Good { s with refreshCalls := [] } where
  single := by simp
  idle hidle := ⟨rfl, (h.idle hidle).2⟩
  nodup := h.nodup
  parked := h.parked
  refreshing j hj := by simp at hj
  sends := h.sends

theorem Good.fail (h : s.Good) {i : ℕ} {request : ApiRequest} (hi : s.requests[i]? = some request)
    (hsent : request.phase = .sent) (status : Option ℕ) : (s.fail i request status).Good := by
  unfold ApiClient.fail
  split_ifs with hwants hrefreshing
  · exact h.park hrefreshing hi hsent
  · have hidle : s.isRefreshing = false := by simpa using hrefreshing
    split
    next =>
      have hmarked := h.update hi hsent (f := fun request => { request with retry := true })
        (by simp [hsent]) (by simp)
      obtain ⟨hcalls, hpending⟩ := h.idle hidle
      have hi' : (s.update i fun request => { request with retry := true }).requests[i]? =
          some { request with retry := true } := by simp [getElem?_update, hi]
      exact hmarked.abandon hcalls hpending hi'
    next => exact h.lead hidle hi
  · exact h.update hi hsent (by simp) (by simp)

theorem Good.erase_refreshCalls (h : s.Good) {i : ℕ} (hi : i ∈ s.refreshCalls) :
    s.refreshCalls.erase i = [] := by
  refine List.eq_nil_of_length_eq_zero ?_
  have hsingle := h.single
  rw [List.length_erase_of_mem hi]
  omega

/-- The ends of a refresh call. -/
theorem Good.refreshed_cases (h : s.Good) {i : ℕ} {result : RefreshResult}
    (hnext : s.next (.refreshed i result) = some s') : i ∈ s.refreshCalls ∧
      ((∃ token newRefresh, result.newToken = some token ∧
        s' = { s.renew i token newRefresh with refreshCalls := [] }) ∨
      result.newToken = none ∧ s' = ApiClient.abandon { s with refreshCalls := [] } i) := by
  obtain ⟨hi, hnext⟩ := Option.ite_none_right_eq_some.1 hnext
  refine ⟨hi, ?_⟩
  rw [h.erase_refreshCalls hi] at hnext
  split at hnext
  next token htoken =>
    cases hnext
    exact .inl ⟨token, _, htoken, rfl⟩
  next htoken =>
    cases hnext
    exact .inr ⟨htoken, rfl⟩

theorem Good.request (h : s.Good) (url : String) :
    Good { s with requests := s.requests ++ [ApiRequest.send s.storage { url := url }] } := by
  have hcases : ∀ {j : ℕ} {request},
      (s.requests ++ [ApiRequest.send s.storage { url := url }])[j]? = some request →
      s.requests[j]? = some request ∨ (request.phase = .sent ∧ request.sends = 1) := by
    intro j request hj
    rw [List.getElem?_append] at hj
    split_ifs at hj
    · exact .inl hj
    · right
      rw [List.mem_singleton.1 (List.mem_of_getElem? hj)]
      exact ⟨rfl, rfl⟩
  refine ⟨h.single, h.idle, h.nodup, fun j => ?_, fun i hi => ?_, fun j request hj => ?_⟩
  · show j ∈ s.pendingRequests ↔ _
    rw [h.parked, phase?_eq_some, phase?_eq_some]
    constructor
    · rintro ⟨request, hrequest, hphase⟩
      refine ⟨request, ?_, hphase⟩
      obtain ⟨hlt, -⟩ := List.getElem?_eq_some_iff.1 hrequest
      rw [List.getElem?_append_left hlt]
      exact hrequest
    · rintro ⟨request, hrequest, hphase⟩
      rcases hcases hrequest with hold | ⟨hsent, -⟩
      · exact ⟨request, hold, hphase⟩
      · rw [hphase] at hsent
        cases hsent
  · obtain ⟨request, hrequest, hphase⟩ := phase?_eq_some.1 (h.refreshing i hi)
    obtain ⟨hlt, -⟩ := List.getElem?_eq_some_iff.1 hrequest
    refine phase?_eq_some.2 ⟨request, ?_, hphase⟩
    rw [List.getElem?_append_left hlt]
    exact hrequest
  · rcases hcases hj with hold | ⟨-, hsends⟩
    · exact h.sends j request hold
    · omega

/-- **Every step that settles keeps the invariant.** -/
theorem Good.next (h : s.Good) (hnext : s.next event = some s') (hsettles : Settles s event) :
    s'.Good := by
  cases event with
  | request url =>
    cases hnext
    exact h.request url
  | response i =>
    simp only [ApiClient.next] at hnext
    split at hnext
    next request hi =>
      obtain ⟨hsent, heq⟩ := Option.ite_none_right_eq_some.1 hnext
      cases heq
      exact h.update hi hsent (by simp) (by simp)
    next => cases hnext
  | error i status =>
    simp only [ApiClient.next] at hnext
    split at hnext
    next request hi =>
      obtain ⟨hsent, heq⟩ := Option.ite_none_right_eq_some.1 hnext
      cases heq
      exact h.fail hi hsent status
    next => cases hnext
  | refreshed i result =>
    obtain ⟨hi, ⟨token, newRefresh, htoken, rfl⟩ | ⟨htoken, rfl⟩⟩ := h.refreshed_cases hnext
    · simp only [Settles, htoken] at hsettles
      exact h.renew hi hsettles
    · simp only [Settles, htoken] at hsettles
      obtain ⟨request, hrequest, -⟩ := phase?_eq_some.1 (h.refreshing i hi)
      exact h.ended.abandon rfl hsettles hrequest
  | store storage =>
    cases hnext
    exact ⟨h.single, h.idle, h.nodup, h.parked, h.refreshing, h.sends⟩

end ApiClient

/-- A step is one of a single flight if and only if it settles. -/
theorem singleFlight_iff_settles (h : s.Good) (hnext : s.next event = some s') :
    SingleFlight s event s' ↔ Settles s event := by
  constructor
  · intro hsingle
    cases event with
    | request | response | error | store => trivial
    | refreshed i result =>
      obtain ⟨hi, ⟨token, newRefresh, htoken, rfl⟩ | ⟨htoken, rfl⟩⟩ := h.refreshed_cases hnext
      · simp only [Settles, htoken]
        intro j hj request hrequest
        have hreplayed : (s.renew i token newRefresh).requests[j]? =
            some (request.replay (s.renew i token newRefresh).storage token) := by
          rw [ApiClient.getElem?_renew h hi, hrequest, Option.map_some, if_pos hj]
        have htwice : request.sends + 1 ≤ 2 := hsingle.twice _ (List.mem_of_getElem? hreplayed)
        have hfirst := (h.sends j request hrequest).1
        omega
      · simp only [Settles, htoken]
        refine List.eq_nil_iff_forall_not_mem.2 fun j hj => ?_
        obtain ⟨request, hrequest, hphase⟩ := ApiClient.phase?_eq_some.1 ((h.parked j).1 hj)
        obtain ⟨request', hrequest', hrejected | ⟨token, hnew, -⟩⟩ :=
          hsingle.settled i result rfl j request hrequest hphase
        · -- what is parked is dropped, and stays as it is
          have hij : i ≠ j := by
            rintro rfl
            have hrefreshing := h.refreshing i hi
            rw [(h.parked i).1 hj] at hrefreshing
            cases hrefreshing
          have hkept : (ApiClient.abandon { s with refreshCalls := [] } i).requests[j]? =
              some request := (List.getElem?_modify_ne _ _ hij).trans hrequest
          cases hkept.symm.trans hrequest'
          rw [hphase] at hrejected
          cases hrejected
        · rw [htoken] at hnew
          cases hnew
  · intro hsettles
    have hgood := h.next hnext hsettles
    refine ⟨hgood.single, ?_, fun request hrequest => ?_⟩
    · rintro i result rfl j request hrequest hphase
      have hparked : j ∈ s.pendingRequests :=
        (h.parked j).2 (ApiClient.phase?_eq_some.2 ⟨request, hrequest, hphase⟩)
      obtain ⟨hi, ⟨token, newRefresh, htoken, rfl⟩ | ⟨htoken, rfl⟩⟩ := h.refreshed_cases hnext
      · refine ⟨request.replay (s.renew i token newRefresh).storage token, ?_,
          .inr ⟨token, htoken, rfl, ?_, rfl⟩⟩
        · show (s.renew i token newRefresh).requests[j]? = _
          rw [ApiClient.getElem?_renew h hi, hrequest, Option.map_some,
            if_pos (List.mem_append_left _ hparked)]
        · exact ApiRequest.replay_authorization rfl
      · simp only [Settles, htoken] at hsettles
        rw [hsettles] at hparked
        cases hparked
    · obtain ⟨j, hj⟩ := List.mem_iff_getElem?.1 hrequest
      exact (hgood.sends j request hj).2

/-- **The refresh of the client is a single flight** in exactly the runs whose steps settle. -/
theorem singleFlight_iff {storage : Storage} {events : List ApiEvent} :
    (apiSystem.restrict SingleFlight).Run (.start storage) events s' ↔
      (apiSystem.guard Settles).Run (.start storage) events s' :=
  Lts.Run.restrict_iff_guard (I := ApiClient.Good)
    (fun _ _ _ h hnext hsettles => h.next hnext hsettles)
    (fun _ _ _ h hnext => singleFlight_iff_settles h hnext)
    ⟨by simp [ApiClient.start], by simp [ApiClient.start], by simp [ApiClient.start],
      by simp [ApiClient.start, ApiClient.phase?], by simp [ApiClient.start],
      by simp [ApiClient.start]⟩

/-- Two requests are answered 401, the refresh of the first fails. -/
def parkedThenFailed : List ApiEvent :=
  [.request "/orders", .request "/stock", .error 0 (some 401), .error 1 (some 401),
    .refreshed 0 none]

/-- Two requests are answered 401, and the second, sent again after the refresh, once more. -/
def parkedThenUnauthorized : List ApiEvent :=
  [.request "/orders", .request "/stock", .error 0 (some 401), .error 1 (some 401),
    .refreshed 0 (some ⟨some "b", none⟩), .error 1 (some 401), .refreshed 1 (some ⟨some "c", none⟩)]

/-- **A parked request is dropped, and another is sent three times.** -/
theorem parked_not_settled :
    (¬ ∀ events s, apiSystem.Run (.start ⟨some "a", some "r"⟩) events s → s.refreshCalls = [] →
      ∀ request ∈ s.requests, request.phase ≠ .parked) ∧
    ¬ ∀ events s, apiSystem.Run (.start ⟨some "a", some "r"⟩) events s →
      ∀ request ∈ s.requests, request.sends ≤ 2 := by
  constructor
  · intro h
    have hrun : (Lts.runNext ApiClient.next (.start ⟨some "a", some "r"⟩) parkedThenFailed).map
        (fun s => (s.refreshCalls, s.requests[1]?)) =
        some ([], some ⟨"/stock", some "Bearer a", false, .parked, 1⟩) := by decide
    obtain ⟨s, hs, hread⟩ := Lts.exists_run_of_map hrun
    obtain ⟨hcalls, hrequest⟩ := Prod.mk.inj hread
    exact h _ s hs hcalls _ (List.mem_of_getElem? hrequest) rfl
  · intro h
    have hrun : (Lts.runNext ApiClient.next (.start ⟨some "a", some "r"⟩)
        parkedThenUnauthorized).map (fun s => s.requests[1]?) =
        some (some ⟨"/stock", some "Bearer c", true, .sent, 3⟩) := by decide
    obtain ⟨s, hs, hrequest⟩ := Lts.exists_run_of_map hrun
    exact absurd (h _ s hs _ (List.mem_of_getElem? hrequest)) (by decide)

end Web

end OmsWmsTms
