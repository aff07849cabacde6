import ExtractApi.KeyHashes
import ExtractApi.RequestReply

/-!
# The caller-authentication boundary

`CallerAuth` around an application that is not known: which requests it hands on, and what
it does with the others.  A request that is not handed on is answered by one of two fixed
responses, chosen by whether any hash is configured; nothing of the application, of the
messages of the request or of the credential takes part in it.
-/

namespace ExtractApi

open PythonText JsonValue RaisingProgram

variable {S M V : Type}

/-! ## Paths -/

/-- `path` is what is left of the scope's path without its root path, which is only taken
    off where a whole segment ends. -/
def StripsTo (scope : Scope) (path : PyStr) : Prop :=
  let stripped := fun rest => scope.rootPath ≠ [] ∧ scope.path = scope.rootPath ++ rest ∧
    (rest = [] ∨ rest.head? = some 47)
  stripped path ∨ (path = scope.path ∧ ∀ rest, ¬ stripped rest)

theorem getRoutePath_of_stripped {scope : Scope} {rest : PyStr} (hroot : scope.rootPath ≠ [])
    (hpath : scope.path = scope.rootPath ++ rest) (hrest : rest = [] ∨ rest.head? = some 47) :
    getRoutePath scope = rest := by
  have hslash : (py "/").head? = some (47 : CodePoint) := rfl
  unfold getRoutePath
  rw [if_neg hroot, if_neg (by rw [hpath]; simp)]
  rcases hrest with rfl | hhead
  · rw [List.append_nil] at hpath
    rw [if_pos hpath]
  · have hne : rest ≠ [] := by
      rintro rfl
      simp at hhead
    have hlong : scope.path ≠ scope.rootPath := by
      rw [hpath]
      simpa using hne
    rw [if_neg hlong, if_pos]
    · rw [hpath, List.drop_left]
    · rw [hpath, List.getElem?_append_right (le_refl _), Nat.sub_self, ← List.head?_eq_getElem?,
        hhead, hslash]

theorem getRoutePath_of_not_stripped {scope : Scope}
    (h : ∀ rest, ¬ (scope.rootPath ≠ [] ∧ scope.path = scope.rootPath ++ rest ∧
      (rest = [] ∨ rest.head? = some 47))) :
    getRoutePath scope = scope.path := by
  unfold getRoutePath
  split_ifs with hroot hprefix hequal hslash
  · rfl
  · exact absurd ⟨hroot, by rw [hequal, List.append_nil], Or.inl rfl⟩ (h [])
  · obtain ⟨rest, hrest⟩ := hprefix
    refine absurd ⟨hroot, hrest.symm, Or.inr ?_⟩ (h rest)
    rw [← hrest, List.getElem?_append_right (le_refl _), Nat.sub_self,
      ← List.head?_eq_getElem?] at hslash
    exact hslash
  · rfl
  · rfl

theorem getRoutePath_eq_iff {scope : Scope} {path : PyStr} :
    getRoutePath scope = path ↔ StripsTo scope path := by
  unfold StripsTo
  constructor
  · intro h
    by_cases hstripped : ∃ rest, scope.rootPath ≠ [] ∧ scope.path = scope.rootPath ++ rest ∧
        (rest = [] ∨ rest.head? = some 47)
    · obtain ⟨rest, hroot, hpath, hrest⟩ := hstripped
      rw [getRoutePath_of_stripped hroot hpath hrest] at h
      subst h
      exact Or.inl ⟨hroot, hpath, hrest⟩
    · rw [not_exists] at hstripped
      rw [getRoutePath_of_not_stripped hstripped] at h
      exact Or.inr ⟨h.symm, hstripped⟩
  · rintro (⟨hroot, hpath, hrest⟩ | ⟨rfl, hnot⟩)
    · exact getRoutePath_of_stripped hroot hpath hrest
    · exact getRoutePath_of_not_stripped hnot

/-! ## Credentials -/

/-- `Bearer`, one space and a token without spaces. -/
def IsBearer (header token : List Byte) : Prop :=
  ∃ scheme, header = scheme ++ 32 :: token ∧ lowerAscii scheme = bytes "bearer" ∧
    token ≠ [] ∧ 32 ∉ token

theorem not_mem_of_lowerAscii {scheme : List Byte} (h : lowerAscii scheme = bytes "bearer") :
    ∀ b ∈ scheme, b ≠ 32 := by
  rintro b hb rfl
  have hspace : (32 : Byte) ∈ lowerAscii scheme := List.mem_map.mpr ⟨32, hb, rfl⟩
  rw [h] at hspace
  exact absurd hspace (by decide)

theorem bearerToken_eq_some_iff {scope : Scope} {token : List Byte} :
    bearerToken scope = some token ↔
      ∃ header, scope.header "authorization" = some header ∧ IsBearer header token := by
  unfold bearerToken
  constructor
  · intro h
    obtain ⟨header, hheader, htoken⟩ := Option.bind_eq_some_iff.mp h
    simp only at htoken
    split_ifs at htoken with hshape
    obtain ⟨hscheme, hne, hspace⟩ := hshape
    rw [Option.some.injEq] at htoken
    rw [htoken] at hne hspace
    refine ⟨header, hheader, _, ?_, hscheme, hne, hspace⟩
    have hdrop : header.dropWhile (fun b => decide (b ≠ 32)) = 32 :: token := by
      rcases hcut : header.dropWhile (fun b => decide (b ≠ 32)) with _ | ⟨b, rest⟩
      · rw [hcut] at htoken
        exact absurd htoken.symm hne
      · have hhead := List.head_dropWhile_not (fun b : Byte => decide (b ≠ 32))
          (show header.dropWhile (fun b => decide (b ≠ 32)) ≠ [] by rw [hcut]; simp)
        simp only [hcut, List.head_cons] at hhead
        rw [hcut, List.tail_cons] at htoken
        have hb : b = 32 := by simpa using hhead
        rw [hb, htoken]
    rw [← hdrop, List.takeWhile_append_dropWhile]
  · rintro ⟨header, hheader, scheme, rfl, hscheme, hne, hspace⟩
    have hletters := not_mem_of_lowerAscii hscheme
    have htake : (scheme ++ 32 :: token).takeWhile (fun b => decide (b ≠ 32)) = scheme := by
      rw [List.takeWhile_append_of_pos (by simpa using hletters)]
      simp
    have hdrop : (scheme ++ 32 :: token).dropWhile (fun b => decide (b ≠ 32)) = 32 :: token := by
      rw [List.dropWhile_append_of_pos (by simpa using hletters)]
      simp
    simp only [hheader, Option.bind_some, htake, hdrop, List.tail_cons]
    rw [if_pos ⟨hscheme, hne, hspace⟩]

/-- The requests that `CallerAuth` hands on, given the value of the environment variable. -/
def Admitted (lower : PyStr → PyStr) (sha256 : List Byte → List Byte) (raw : Option PyStr)
    (scope : Scope) : Prop :=
  (∃ probe ∈ OPEN_PATHS, StripsTo scope probe) ∨
    ∃ header token, scope.header "authorization" = some header ∧ IsBearer header token ∧
      hexDigest (sha256 token) ∈ envEntries lower raw

/-- Some entry is not blank. -/
def Configured (lower : PyStr → PyStr) (raw : Option PyStr) : Prop :=
  ∃ entry ∈ envEntries lower raw, entry ≠ []

section Parsed

variable {lower : PyStr → PyStr} {sha256 : List Byte → List Byte} {raw : Option PyStr}
  {hashes : List (List Byte)}

theorem configured_iff (hcreate : keyHashesFromEnv lower raw = .ok hashes) :
    Configured lower raw ↔ hashes ≠ [] := by
  rw [Ne, keyHashesFromEnv_eq_nil_iff hcreate]
  simp [Configured]

theorem presentsKey_iff (hsha : ∀ data, (sha256 data).length = 32)
    (hcreate : keyHashesFromEnv lower raw = .ok hashes) (scope : Scope) :
    presentsKey sha256 hashes scope = true ↔
      ∃ header token, scope.header "authorization" = some header ∧ IsBearer header token ∧
        hexDigest (sha256 token) ∈ envEntries lower raw := by
  have hmem : ∀ token, sha256 token ∈ hashes ↔
      hexDigest (sha256 token) ∈ envEntries lower raw := by
    intro token
    apply mem_keyHashesFromEnv hcreate
    intro hnil
    have hlength := hsha token
    rw [hnil] at hlength
    simp at hlength
  unfold presentsKey
  constructor
  · intro h
    rcases htoken : bearerToken scope with _ | token
    · simp [htoken] at h
    · simp only [htoken] at h
      obtain ⟨header, hheader, hbearer⟩ := bearerToken_eq_some_iff.mp htoken
      exact ⟨header, token, hheader, hbearer, (hmem token).mp (matchesKey_iff.mp h)⟩
  · rintro ⟨header, token, hheader, hbearer, hentry⟩
    have htoken := bearerToken_eq_some_iff.mpr ⟨header, hheader, hbearer⟩
    simp only [htoken]
    exact matchesKey_iff.mpr ((hmem token).mpr hentry)

theorem admitted_iff (hsha : ∀ data, (sha256 data).length = 32)
    (hcreate : keyHashesFromEnv lower raw = .ok hashes) (scope : Scope) :
    Admitted lower sha256 raw scope ↔
      isOpenPath scope = true ∨ presentsKey sha256 hashes scope = true := by
  rw [presentsKey_iff hsha hcreate]
  apply or_congr _ Iff.rfl
  unfold isOpenPath
  rw [decide_eq_true_eq]
  constructor
  · rintro ⟨probe, hprobe, hstrips⟩
    rwa [getRoutePath_eq_iff.mpr hstrips]
  · intro hopen
    exact ⟨_, hopen, getRoutePath_eq_iff.mp rfl⟩

end Parsed

/-! ## Refusals -/

/-- The answer to a request that is not handed on. -/
def refusal (configured : Bool) : HttpResponse :=
  if configured then
    { status := 401
      headers := [(py "WWW-Authenticate", py "Bearer")]
      body := some (.obj (codeBody .unauthorized
        (.str (py "a valid API key is required (Authorization: Bearer <key>)")))) }
  else
    { status := 500
      body := some (.obj (codeBody .internalError
        (.str (py "the service is not configured to serve extractions")))) }

theorem run_notConfiguredResponse (w : World S) :
    ∃ facts, notConfiguredResponse.run w = .ok (refusal false) (w.withFacts facts) := by
  apply run_errorResponse
  have hbody := encodable_codeBody .internalError
    (encodable_py "the service is not configured to serve extractions")
  rw [jsonResponse, hbody]
  rfl

theorem run_unauthorizedResponse (w : World S) :
    ∃ facts, unauthorizedResponse.run w = .ok (refusal true) (w.withFacts facts) := by
  apply run_errorResponse
  have hbody := encodable_codeBody .unauthorized
    (encodable_py "a valid API key is required (Authorization: Bearer <key>)")
  have hheaders : ([(py "WWW-Authenticate", py "Bearer")].all fun h =>
      isLatin1 h.1 && isLatin1 h.2) = true := by decide
  rw [jsonResponse, hbody, hheaders]
  rfl

theorem run_noteExtractRoute (scope : Scope) (w : World S) :
    ∃ facts, (noteExtractRoute scope).run w = .ok () (w.withFacts facts) := by
  unfold noteExtractRoute
  split_ifs
  · exact ⟨_, rfl⟩
  · exact ⟨w.facts, rfl⟩

/-! ## The middleware -/

/-- The connection with other facts of the request. -/
def Connection.withFacts (c : Connection S) (facts : Option Facts) : Connection S :=
  { c with world := c.world.withFacts facts }

/-- From `c`, control passes to the application, whichever it is. -/
def HandsOn (middleware : AsgiApp S → AsgiApp S) (scope : Scope) (receive : Receive S)
    (send : Send S) (c : Connection S) : Prop :=
  ∃ facts, ∀ app : AsgiApp S, (middleware app scope receive send).run c =
    (app scope receive send).run (c.withFacts facts)

/-- From `c`, the response is sent, whatever the application and the messages are. -/
def Refuses (middleware : AsgiApp S → AsgiApp S) (scope : Scope) (response : HttpResponse)
    (c : Connection S) : Prop :=
  ∃ facts, ∀ (app : AsgiApp S) (receive : Receive S) (send : Send S),
    (middleware app scope receive send).run c =
      (sendResponse response send).run (c.withFacts facts)

theorem Refuses.not_handsOn {middleware : AsgiApp S → AsgiApp S} {scope : Scope}
    {response : HttpResponse} {c : Connection S} (h : Refuses middleware scope response c)
    (receive : Receive S) (send : Send S) : ¬ HandsOn middleware scope receive send c := by
  rintro ⟨facts, hon⟩
  obtain ⟨facts', hrefused⟩ := h
  have hreturn := (hon fun _ _ _ => pure ()).symm.trans (hrefused _ _ _)
  have hraise := (hon fun _ _ _ => throw .cancelled).symm.trans (hrefused _ _ _)
  have hsame := hreturn.trans hraise.symm
  cases hsame

theorem callerAuth_refuses {sha256 : List Byte → List Byte} {hashes : List (List Byte)}
    {scope : Scope} (hhttp : scope.type = .http) (hguarded : isOpenPath scope = false)
    (hkey : presentsKey sha256 hashes scope = false) (c : Connection S) :
    Refuses (callerAuth sha256 hashes) scope (refusal (decide (hashes ≠ []))) c := by
  obtain ⟨facts, hroute⟩ := run_noteExtractRoute scope c.world
  by_cases hnone : hashes = []
  · obtain ⟨facts', hbuild⟩ := run_notConfiguredResponse (c.world.withFacts facts)
    refine ⟨facts', ?_⟩
    intro app receive send
    simp [callerAuth, hhttp, hguarded, hnone, run_inService, hroute, hbuild]
    rfl
  · obtain ⟨facts', hbuild⟩ := run_unauthorizedResponse (c.world.withFacts facts)
    refine ⟨facts', ?_⟩
    intro app receive send
    simp [callerAuth, hhttp, hguarded, hnone, hkey, run_inService, hroute, hbuild]
    rfl

theorem callerAuth_handsOn {sha256 : List Byte → List Byte} {hashes : List (List Byte)}
    {scope : Scope} (hpass : isOpenPath scope = true ∨ presentsKey sha256 hashes scope = true)
    (receive : Receive S) (send : Send S) (c : Connection S) :
    HandsOn (callerAuth sha256 hashes) scope receive send c := by
  unfold HandsOn callerAuth
  by_cases houter : scope.type ≠ .http ∨ isOpenPath scope = true
  · exact ⟨c.world.facts, fun app => by rw [if_pos houter]; rfl⟩
  · obtain ⟨facts, hroute⟩ := run_noteExtractRoute scope c.world
    rw [not_or] at houter
    have hkey : presentsKey sha256 hashes scope = true := by
      rcases hpass with hopen | hkey
      · exact absurd hopen houter.2
      · exact hkey
    refine ⟨facts, ?_⟩
    intro app
    simp [houter, hkey, keyHashes_ne_nil hkey, run_inService, hroute, Connection.withFacts]

/-- In the whole application, a refused request leaves everything but its own log line as it
    was: its messages, the store, the budget and the provider. -/
theorem handleRequest_of_refused {process : Process S M V} {scope : Scope} (occasion : Occasion S)
    (hhttp : scope.type = .http) (hguarded : isOpenPath scope = false)
    (hkey : presentsKey process.libs.sha256 process.environment.keyHashes scope = false)
    (incoming : List ReceiveMessage) (w : World S) :
    (handleRequest process occasion scope incoming w).sent =
        ((refusal (decide (process.environment.keyHashes ≠ []))).withRequestId
          (incomingRequestId scope occasion.uuid)).messages ∧
      (handleRequest process occasion scope incoming w).incoming = incoming ∧
      (handleRequest process occasion scope incoming w).world.calls = w.calls ∧
      (handleRequest process occasion scope incoming w).world.store = w.store ∧
      (handleRequest process occasion scope incoming w).world.budget = w.budget := by
  let entered : Connection S :=
    { Connection.opened { w with facts := some ∅ } incoming with
      requestId := some (incomingRequestId scope occasion.uuid) }
  obtain ⟨facts, hrefused⟩ := callerAuth_refuses hhttp hguarded hkey entered
  have hguard : (guardedApp process occasion scope serverReceive
      (sendWrapper (incomingRequestId scope occasion.uuid) serverSend)).run entered = _ :=
    (hrefused _ serverReceive _).trans (run_sendResponse _ _)
  have hcontext := requestContext_of_ok (c := .opened w incoming) occasion.uuid
    occasion.durationMs hhttp hguard rfl
  have hserved := serverErrorMiddleware_of_ok hcontext
  unfold handleRequest
  rw [show createApp process occasion = serverErrorMiddleware
    (requestContext occasion.uuid occasion.durationMs (guardedApp process occasion)) from rfl,
    hserved]
  exact ⟨rfl, rfl, rfl, rfl, rfl⟩

/-! ## The contract -/

/-- **Caller authentication is exact and leaks nothing.**  Whatever application `CallerAuth`
    guards, it is handed the requests that are admitted and no others.  Any two requests that
    are not admitted, under any two values of the variable that both hold a hash or both hold
    none, are sent the same response, and nothing is received of either.  In the application
    of `create_app` such a request also leaves the provider, the store and the budget alone. -/
theorem caller_auth_exact (lower : PyStr → PyStr) (sha256 : List Byte → List Byte)
    (hsha : ∀ data, (sha256 data).length = 32) {raw : Option PyStr} {hashes : List (List Byte)}
    (hcreate : keyHashesFromEnv lower raw = .ok hashes) {scope : Scope}
    (hhttp : scope.type = .http) :
    (∀ (receive : Receive S) (send : Send S) (c : Connection S),
      HandsOn (callerAuth sha256 hashes) scope receive send c ↔
        Admitted lower sha256 raw scope) ∧
    (¬ Admitted lower sha256 raw scope →
      (∀ (raw' : Option PyStr) (hashes' : List (List Byte)) (scope' : Scope),
        keyHashesFromEnv lower raw' = .ok hashes' → scope'.type = .http →
        ¬ Admitted lower sha256 raw' scope' → (Configured lower raw ↔ Configured lower raw') →
        ∃ response : HttpResponse,
          (∀ c : Connection S, Refuses (callerAuth sha256 hashes) scope response c) ∧
          ∀ c : Connection S, Refuses (callerAuth sha256 hashes') scope' response c) ∧
      ∀ (process : Process S M V) (occasion : Occasion S) (incoming : List ReceiveMessage)
        (w : World S), process.libs.sha256 = sha256 → process.environment.keyHashes = hashes →
        (handleRequest process occasion scope incoming w).incoming = incoming ∧
          (handleRequest process occasion scope incoming w).world.calls = w.calls ∧
          (handleRequest process occasion scope incoming w).world.store = w.store ∧
          (handleRequest process occasion scope incoming w).world.budget = w.budget) := by
  have hrefused : ∀ {raw : Option PyStr} {hashes : List (List Byte)} {scope : Scope},
      keyHashesFromEnv lower raw = .ok hashes → ¬ Admitted lower sha256 raw scope →
      isOpenPath scope = false ∧ presentsKey sha256 hashes scope = false := by
    intro raw hashes scope hcreate hnot
    rw [admitted_iff hsha hcreate, not_or, Bool.not_eq_true, Bool.not_eq_true] at hnot
    exact hnot
  constructor
  · intro receive send c
    constructor
    · intro hon
      by_contra hnot
      obtain ⟨hguarded, hkey⟩ := hrefused hcreate hnot
      exact (callerAuth_refuses hhttp hguarded hkey c).not_handsOn receive send hon
    · intro hadmitted
      exact callerAuth_handsOn ((admitted_iff hsha hcreate scope).mp hadmitted) receive send c
  -- two refusals say the same, whatever was wrong with either caller
  · intro hnot
    obtain ⟨hguarded, hkey⟩ := hrefused hcreate hnot
    constructor
    · intro raw' hashes' scope' hcreate' hhttp' hnot' hboth
      obtain ⟨hguarded', hkey'⟩ := hrefused hcreate' hnot'
      rw [configured_iff hcreate, configured_iff hcreate'] at hboth
      refine ⟨refusal (decide (hashes ≠ [])), callerAuth_refuses hhttp hguarded hkey, ?_⟩
      rw [decide_eq_decide.mpr hboth]
      exact callerAuth_refuses hhttp' hguarded' hkey'
    · rintro process occasion incoming w rfl rfl
      exact (handleRequest_of_refused _ hhttp hguarded hkey incoming w).2

/-- Where the sample key is configured, it is what gets a request through. -/
theorem caller_auth_exact_sampleKey :
    HandsOn (callerAuth (S := Unit) (fun _ => sampleDigest) [sampleDigest])
      (sampleScope "POST" "/v1/extract" []) serverReceive serverSend
      (.opened ⟨⟨1, 0⟩, (), none, [], []⟩ []) := by
  have hcreate : keyHashesFromEnv id (some (hexDigest sampleDigest)) = .ok [sampleDigest] := by
    decide +kernel
  have hentry : hexDigest sampleDigest ∈ envEntries id (some (hexDigest sampleDigest)) := by
    decide +kernel
  have hbearer : IsBearer (bytes "Bearer key") (bytes "key") :=
    ⟨bytes "Bearer", by decide +kernel, by decide +kernel, by decide, by decide +kernel⟩
  apply ((caller_auth_exact (S := Unit) (M := Unit) (V := Unit) id (fun _ => sampleDigest)
    (fun _ => rfl) hcreate rfl).1 serverReceive serverSend _).mpr
  exact Or.inr ⟨bytes "Bearer key", bytes "key", rfl, hbearer, hentry⟩

end ExtractApi
