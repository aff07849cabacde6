import ExtractApi.RequestReply

/-!
# The contract of the body cap

`BodyCap` compares a declared length by its digits and counts the chunks that arrive.  The
inner application is any application that reads its whole body before it responds
(`WholeBodyApp`): a reader that takes one message after the other, whatever it does with
them, and a response that only begins after the last message.
-/

namespace ExtractApi

open PythonText JsonValue RaisingProgram

variable {S : Type}

/-! ## Declared lengths -/

/-- The number that a string of decimal digits denotes. -/
def denoted (value : List Byte) : ℕ := Nat.ofDigits 10 (value.reverse.map fun b => b.val - 48)

theorem intOfDigits_eq_denoted (value : List Byte) : intOfDigits value = denoted value := by
  unfold intOfDigits denoted
  induction value using List.reverseRecOn with
  | nil => rfl
  | append_singleton value b ih =>
    rw [List.foldl_append, List.foldl_cons, List.foldl_nil, ih, List.reverse_append]
    simp only [List.reverse_singleton, List.singleton_append, List.map_cons, Nat.ofDigits_cons]
    omega

theorem denoted_dropWhile_zero (value : List Byte) :
    denoted (value.dropWhile fun b => b = 48) = denoted value := by
  rw [← intOfDigits_eq_denoted, ← intOfDigits_eq_denoted]
  induction value with
  | nil => rfl
  | cons b value ih =>
    by_cases hzero : b = 48
    · subst hzero
      rw [List.dropWhile_cons_of_pos (by simp), ih]
      rfl
    · rw [List.dropWhile_cons_of_neg (by simpa using hzero)]

theorem lt_pow_length_decimal (limit : ℕ) : limit < 10 ^ (decimal limit).length := by
  unfold decimal
  rw [List.length_map]
  exact (Nat.length_toDigits_le_iff (by decide) Nat.length_toDigits_pos).mp (le_refl _)

theorem pow_length_le_denoted (value : List Byte) {b : Byte} (hdigit : 48 ≤ b.val)
    (hzero : b ≠ 48) : 10 ^ (b :: value).length ≤ 10 * denoted (b :: value) := by
  unfold denoted
  have hne : (b :: value).reverse.map (fun b => b.val - 48) ≠ [] := by simp
  have hlast : ((b :: value).reverse.map fun b => b.val - 48).getLast hne ≠ 0 := by
    have hval : b.val ≠ 48 := fun h => hzero (Fin.ext h)
    simp only [List.reverse_cons, List.map_append, List.map_cons, List.map_nil]
    rw [List.getLast_append_of_ne_nil _ (by simp)]
    simp only [List.getLast_singleton]
    omega
  simpa using Nat.pow_length_le_mul_ofDigits (b := 8) hne hlast

/-- **Comparing the digits compares the numbers.** -/
theorem isOver_iff {limit : ℕ} {value : List Byte} (hdigits : isDigits value = true) :
    isOver limit value = true ↔ limit < denoted value := by
  unfold isOver
  simp only [Bool.or_eq_true, decide_eq_true_eq, intOfDigits_eq_denoted, denoted_dropWhile_zero]
  constructor
  · rintro (hlong | hover)
    · rcases hstripped : value.dropWhile fun b => b = 48 with _ | ⟨b, rest⟩
      · simp [hstripped] at hlong
      · have hmem : b ∈ value :=
          (List.dropWhile_sublist _).subset (hstripped ▸ List.mem_cons_self)
        have hdigit : 48 ≤ b.val := by
          simp only [isDigits, Bool.and_eq_true, List.all_eq_true, decide_eq_true_eq] at hdigits
          exact (hdigits.2 b hmem).1
        have hzero : b ≠ 48 := by
          have hhead := List.head_dropWhile_not (fun b : Byte => decide (b = 48))
            (show value.dropWhile (fun b => decide (b = 48)) ≠ [] by rw [hstripped]; simp)
          simpa [hstripped] using hhead
        have hvalue : denoted (b :: rest) = denoted value := by
          rw [← hstripped, denoted_dropWhile_zero]
        have hpow := pow_length_le_denoted rest hdigit hzero
        have hlimit := lt_pow_length_decimal limit
        rw [hstripped] at hlong
        have hlonger : 10 ^ ((decimal limit).length + 1) ≤ 10 ^ (b :: rest).length :=
          Nat.pow_le_pow_right (by decide) hlong
        rw [pow_succ] at hlonger
        omega
    · exact hover
  · exact Or.inr

/-- Some `content-length` header of digits denotes a number greater than the limit. -/
def DeclaresMore (limit : ℕ) (scope : Scope) : Prop :=
  ∃ value, (bytes "content-length", value) ∈ scope.headers ∧ isDigits value = true ∧
    limit < denoted value

theorem declaresOver_iff {limit : ℕ} {scope : Scope} :
    declaresOver limit scope = true ↔ DeclaresMore limit scope := by
  unfold declaresOver DeclaresMore
  simp only [List.any_eq_true, Bool.and_eq_true, decide_eq_true_eq]
  constructor
  · rintro ⟨⟨name, value⟩, hmem, ⟨hname, hdigits⟩, hover⟩
    simp only at hname hdigits hover
    subst hname
    exact ⟨value, hmem, hdigits, (isOver_iff hdigits).mp hover⟩
  · rintro ⟨value, hmem, hdigits, hover⟩
    exact ⟨_, hmem, ⟨rfl, hdigits⟩, (isOver_iff hdigits).mpr hover⟩

/-! ## Bodies -/

/-- The body bytes of a message. -/
def ReceiveMessage.size : ReceiveMessage → ℕ
  | .httpRequest chunk _ => chunk.length
  | .httpDisconnect => 0

/-- Nothing follows the message. -/
def ReceiveMessage.isLast : ReceiveMessage → Bool
  | .httpRequest _ moreBody => !moreBody
  | .httpDisconnect => true

def bodyBytes (messages : List ReceiveMessage) : ℕ := (messages.map ReceiveMessage.size).sum

@[simp] theorem bodyBytes_cons (message : ReceiveMessage) (messages : List ReceiveMessage) :
    bodyBytes (message :: messages) = message.size + bodyBytes messages := by
  simp [bodyBytes]

/-- The messages of one request: chunks in any number, until the last one or the client's
    disconnection. -/
inductive WholeBody : List ReceiveMessage → Prop
  | last {message : ReceiveMessage} : message.isLast = true → WholeBody [message]
  | more {message : ReceiveMessage} {messages : List ReceiveMessage} :
      message.isLast = false → WholeBody messages → WholeBody (message :: messages)

/-- The count of the cap, if there is one, after so many more bytes. -/
def countUnder (cap : Option ℕ) (received size : ℕ) : ℕ :=
  if cap.isSome then received + size else received

theorem countUnder_add (cap : Option ℕ) (received size size' : ℕ) :
    countUnder cap (countUnder cap received size) size' =
      countUnder cap received (size + size') := by
  rcases cap with _ | limit
  · rfl
  · exact Nat.add_assoc _ _ _

/-! ## Applications that read their whole body -/

/-- What an application does once the body is read. -/
inductive Responder (S : Type) where
  | finish
  | raise (exc : PyExc)
  | cancel
  | send (message : SendMessage) (next : Responder S)
  | receive (next : ReceiveMessage → Responder S)
  | work (effect : World S → World S) (next : World S → Responder S)

def Responder.run (receive : Receive S) (send : Send S) : Responder S → Asgi S Unit
  | .finish => pure ()
  | .raise exc => throw (.exception exc)
  | .cancel => throw .cancelled
  | .send message next => do
      send message
      Responder.run receive send next
  | .receive next => do
      let message ← receive
      Responder.run receive send (next message)
  | .work effect next => do
      modify fun c => { c with world := effect c.world }
      let c ← get
      Responder.run receive send (next c.world)

/-- An application that reads its whole body before it responds.  `State` is what it knows of
    the messages it has taken, `abandon` what its `finally` clauses do when reading is cut
    short. -/
structure WholeBodyApp (S : Type) where
  State : Type
  start : Scope → World S → State × World S
  absorb : State × World S → ReceiveMessage → State × World S
  respond : State → Responder S
  abandon : State → World S → World S

namespace WholeBodyApp

variable (app : WholeBodyApp S)

/-- Reading up to the last message; the number bounds the messages there are. -/
def read (receive : Receive S) : ℕ → app.State → Asgi S app.State
  | 0, state => return state
  | n + 1, state => do
      let message ← tryCatch receive fun raised => do
        modify fun c => { c with world := app.abandon state c.world }
        throw raised
      let c ← get
      set { c with world := (app.absorb (state, c.world) message).2 }
      if message.isLast then return (app.absorb (state, c.world) message).1
      else read receive n (app.absorb (state, c.world) message).1

def toAsgi : AsgiApp S := fun scope receive send => do
  let c ← get
  set { c with world := (app.start scope c.world).2 }
  let state ← app.read receive (c.incoming.length + 1) (app.start scope c.world).1
  (app.respond state).run receive send

/-- The application after it has taken the messages. -/
def feed (messages : List ReceiveMessage) (taken : app.State × World S) : app.State × World S :=
  messages.foldl app.absorb taken

/-! ### Reading under the cap -/

section Reading

variable {c : Connection S}

theorem run_receiveUnder (cap : Option ℕ) {message : ReceiveMessage}
    {incoming : List ReceiveMessage} (hincoming : c.incoming = message :: incoming)
    (hfits : ∀ limit, cap = some limit → c.received + message.size ≤ limit) :
    (receiveUnder cap).run c = .ok message { c with
      incoming := incoming
      received := countUnder cap c.received message.size } := by
  rcases message with ⟨chunk, moreBody⟩ | _
  · have hunder : ¬ (cap.any fun limit => decide (limit < c.received + chunk.length)) = true := by
      rcases cap with _ | limit
      · simp
      · simpa [ReceiveMessage.size] using hfits limit rfl
    have hrun := run_receive_chunk cap hincoming
    rwa [if_neg hunder] at hrun
  · have hcount : countUnder cap c.received 0 = c.received := by
      rcases cap with _ | limit <;> rfl
    rw [run_receive_disconnect cap hincoming, ReceiveMessage.size, hcount]

theorem run_read_over {limit n : ℕ} {state : app.State} {chunk : List Byte} {moreBody : Bool}
    {rest : List ReceiveMessage} (hincoming : c.incoming = .httpRequest chunk moreBody :: rest)
    (hover : limit < c.received + chunk.length) :
    (app.read (counted limit serverReceive) (n + 1) state).run c =
      .error .bodyTooLarge { c with
        incoming := rest
        received := c.received + chunk.length
        world := app.abandon state c.world } := by
  have hany : ((some limit).any fun limit => decide (limit < c.received + chunk.length)) = true :=
    decide_eq_true hover
  have hrun : (counted limit serverReceive).run c =
      .error .bodyTooLarge (c.afterChunk (some limit) chunk rest) := by
    have hrun := run_receive_chunk (some limit) hincoming
    rwa [if_pos hany] at hrun
  simp [read, hrun, Connection.afterChunk]

theorem run_read_of_fits (cap : Option ℕ) {messages : List ReceiveMessage}
    (hwhole : WholeBody messages) :
    ∀ (n : ℕ) (state : app.State) (c : Connection S), messages.length ≤ n →
      c.incoming = messages →
      (∀ limit, cap = some limit → c.received + bodyBytes messages ≤ limit) →
      (app.read (receiveUnder cap) n state).run c =
        .ok (app.feed messages (state, c.world)).1 { c with
          incoming := []
          received := countUnder cap c.received (bodyBytes messages)
          world := (app.feed messages (state, c.world)).2 } := by
  induction hwhole with
  | @last message hlast =>
    intro n state c hlength hincoming hfits
    obtain ⟨n, rfl⟩ := Nat.exists_eq_add_of_le' hlength
    have hrun := run_receiveUnder cap hincoming (by simpa [bodyBytes] using hfits)
    simp [read, hrun, hlast, feed, bodyBytes]
  | @more message messages hmore hwhole ih =>
    intro n state c hlength hincoming hfits
    obtain ⟨n, rfl⟩ := Nat.exists_eq_add_of_le' (Nat.le_trans (Nat.succ_le_succ (Nat.zero_le _))
      hlength)
    simp only [bodyBytes_cons] at hfits ⊢
    have hrun := run_receiveUnder cap hincoming fun limit hcap => by
      have hall := hfits limit hcap
      omega
    let taken := app.absorb (state, c.world) message
    have hrest := ih n taken.1 { c with
      incoming := messages
      received := countUnder cap c.received message.size
      world := taken.2 } (by simpa using hlength) rfl (by
          rintro limit rfl
          have hall := hfits limit rfl
          simp only [countUnder, Option.isSome_some, if_true]
          omega)
    rw [countUnder_add] at hrest
    simpa [read, hrun, hmore, feed] using hrest

/-- Reading the messages from `c` ends at the chunk that crosses the limit. -/
def CutShort (limit n : ℕ) (state : app.State) (messages : List ReceiveMessage)
    (c : Connection S) : Prop :=
  ∃ handed chunk moreBody rest, messages = handed ++ .httpRequest chunk moreBody :: rest ∧
    c.received + bodyBytes handed ≤ limit ∧
    limit < c.received + bodyBytes handed + chunk.length ∧
    (app.read (counted limit serverReceive) n state).run c =
      .error .bodyTooLarge { c with
        incoming := rest
        received := c.received + bodyBytes handed + chunk.length
        world := app.abandon (app.feed handed (state, c.world)).1
          (app.feed handed (state, c.world)).2 }

theorem cutShort_of_first {limit n : ℕ} {state : app.State} {message : ReceiveMessage}
    {rest : List ReceiveMessage} (hincoming : c.incoming = message :: rest)
    (hunder : c.received ≤ limit) (hover : limit < c.received + message.size) :
    app.CutShort limit (n + 1) state (message :: rest) c := by
  rcases message with ⟨chunk, moreBody⟩ | _
  · exact ⟨[], chunk, moreBody, rest, rfl, hunder, hover, app.run_read_over hincoming hover⟩
  · exact absurd hunder (Nat.not_le_of_lt hover)

theorem run_read_of_over {limit : ℕ} {messages : List ReceiveMessage}
    (hwhole : WholeBody messages) :
    ∀ (n : ℕ) (state : app.State) (c : Connection S), messages.length ≤ n →
      c.incoming = messages → c.received ≤ limit → limit < c.received + bodyBytes messages →
      app.CutShort limit n state messages c := by
  induction hwhole with
  | @last message hlast =>
    intro n state c hlength hincoming hunder hover
    obtain ⟨n, rfl⟩ := Nat.exists_eq_add_of_le' hlength
    exact app.cutShort_of_first hincoming hunder (by simpa [bodyBytes] using hover)
  | @more message messages hmore hwhole ih =>
    intro n state c hlength hincoming hunder hover
    obtain ⟨n, rfl⟩ := Nat.exists_eq_add_of_le' (Nat.le_trans (Nat.succ_le_succ (Nat.zero_le _))
      hlength)
    rw [bodyBytes_cons] at hover
    rcases Nat.lt_or_ge limit (c.received + message.size) with hnow | hlater
    · exact app.cutShort_of_first hincoming hunder hnow
    · have hrun : (counted limit serverReceive).run c = .ok message { c with
          incoming := messages
          received := c.received + message.size } :=
        run_receiveUnder (some limit) hincoming (by rintro _ ⟨⟩; exact hlater)
      let taken := app.absorb (state, c.world) message
      let next : Connection S := { c with
        incoming := messages
        received := c.received + message.size
        world := taken.2 }
      have hstep : (app.read (counted limit serverReceive) (n + 1) state).run c =
          (app.read (counted limit serverReceive) n taken.1).run next := by
        simp [read, hrun, hmore, taken, next]
      obtain ⟨handed, chunk, moreBody, rest, hsplit, hbelow, habove, hread⟩ :=
        ih n taken.1 next (by simpa using hlength) rfl hlater
          (by simp only [next]; omega)
      simp only [next, Nat.add_assoc] at hbelow habove hread
      refine ⟨message :: handed, chunk, moreBody, rest, by rw [hsplit]; rfl, ?_, ?_, ?_⟩
      · rwa [bodyBytes_cons]
      · rw [bodyBytes_cons]
        omega
      · rw [hstep, bodyBytes_cons, Nat.add_assoc, Nat.add_assoc]
        exact hread

end Reading

end WholeBodyApp

/-! ## The response -/

/-- Sending only adds to what is sent: the count is a variable of the cap's own. -/
def Outlet (send : Send S) : Prop :=
  ∀ (message : SendMessage) (c : Connection S), ∃ sent status, ∀ received,
    (send message).run { c with received := received } =
      .ok () { c with received := received, sent := sent, status := status }

theorem outlet_serverSend : Outlet (S := S) serverSend := fun message c =>
  ⟨c.sent ++ [message], c.status, fun _ => rfl⟩

/-- The same result with another count. -/
def recount (received : ℕ) :
    EStateM.Result Raised (Connection S) Unit → EStateM.Result Raised (Connection S) Unit
  | .ok a c => .ok a { c with received := received }
  | .error raised c => .error raised { c with received := received }

/-- Once everything is received, the count changes nothing but itself. -/
theorem Responder.run_counted {limit : ℕ} {send : Send S} (hsend : Outlet send) (received : ℕ)
    (responder : Responder S) :
    ∀ {c : Connection S}, c.incoming = [] →
      (responder.run (counted limit serverReceive) send).run { c with received := received } =
        recount received ((responder.run serverReceive send).run c) := by
  induction responder with
  | finish =>
    intro c _
    rfl
  | raise exc =>
    intro c _
    rfl
  | cancel =>
    intro c _
    rfl
  | send message next ih =>
    intro c hincoming
    obtain ⟨sent, status, hrun⟩ := hsend message c
    have hplain : (send message).run c = .ok () { c with sent := sent, status := status } :=
      hrun c.received
    simpa [Responder.run, hrun received, hplain] using
      ih (c := { c with sent := sent, status := status }) hincoming
  | receive next ih =>
    intro c hincoming
    simpa [Responder.run, counted, serverReceive, hincoming] using ih .httpDisconnect hincoming
  | work effect next ih =>
    intro c hincoming
    simpa [Responder.run] using
      ih (effect c.world) (c := { c with world := effect c.world }) hincoming

/-- A response never counts: only the cap's own `receive` raises the cap's exception. -/
theorem Responder.run_ne_tooLarge {send : Send S} (hsend : Outlet send)
    (responder : Responder S) (c c' : Connection S) :
    (responder.run serverReceive send).run c ≠ .error .bodyTooLarge c' := by
  induction responder generalizing c with
  | finish =>
    intro h
    cases h
  | raise exc =>
    intro h
    cases h
  | cancel =>
    intro h
    cases h
  | send message next ih =>
    obtain ⟨sent, status, hrun⟩ := hsend message c
    have hplain : (send message).run c = .ok () { c with sent := sent, status := status } :=
      hrun c.received
    simpa [Responder.run, hplain] using ih _
  | receive next ih =>
    rcases hincoming : c.incoming with _ | ⟨message, incoming⟩
    · simpa [Responder.run, serverReceive, hincoming] using ih _ _
    · simpa [Responder.run, serverReceive, hincoming] using ih _ _
  | work effect next ih => simpa [Responder.run] using ih _ _

/-! ## The contract -/

/-- The 422 of the cap. -/
def tooLargeResponse (limit : ℕ) : HttpResponse where
  status := 422
  body := some (.obj (codeBody .validationFailed
    (.str (py "request body exceeds the " ++ decimal limit ++ py "-byte limit"))))

theorem encodable_decimal (n : ℕ) : encodable (decimal n) = true := by
  have htext : decimal n = py (String.ofList (Nat.toDigits 10 n)) := by simp [decimal, py]
  rw [htext]
  exact encodable_py _

theorem run_refuse (limit : ℕ) (send : Send S) (c : Connection S) :
    ∃ facts, (refuse limit send).run c =
      (sendResponse (tooLargeResponse limit) send).run
        { c with world := c.world.withFacts facts } := by
  have hdetail : encodable (py "request body exceeds the " ++ decimal limit ++
      py "-byte limit") = true := by simp [encodable_append, encodable_decimal, encodable_py]
  have hresponse : jsonResponse (STATUS_BY_CODE .validationFailed)
      (.obj (codeBody .validationFailed (.str (py "request body exceeds the " ++ decimal limit ++
        py "-byte limit")))) [] = .ok (tooLargeResponse limit) := by
    rw [jsonResponse, encodable_codeBody _ hdetail]
    rfl
  obtain ⟨facts, hbuild⟩ := run_errorResponse hresponse c.world
  refine ⟨facts, ?_⟩
  unfold refuse bodyTooLargeResponse
  rw [EStateM.run_bind, run_inService, hbuild]

namespace WholeBodyApp

variable (app : WholeBodyApp S) {scope : Scope} {send : Send S}
  {messages : List ReceiveMessage} {c : Connection S}

/-- The application when it has taken the messages, and no more. -/
def taking (scope : Scope) (messages : List ReceiveMessage) (w : World S) : app.State × World S :=
  app.feed messages (app.start scope w)

theorem run_toAsgi (receive : Receive S) (c : Connection S) :
    (app.toAsgi scope receive send).run c =
      (app.read receive (c.incoming.length + 1) (app.start scope c.world).1 >>= fun state =>
        (app.respond state).run receive send).run
          { c with world := (app.start scope c.world).2 } := by
  simp [toAsgi]

/-- Without the cap, everything is taken before the response. -/
theorem run_toAsgi_plain (scope : Scope) (send : Send S) (hwhole : WholeBody messages)
    (hincoming : c.incoming = messages) :
    (app.toAsgi scope serverReceive send).run c =
      ((app.respond (app.taking scope messages c.world).1).run serverReceive send).run { c with
        incoming := []
        world := (app.taking scope messages c.world).2 } := by
  have hread := run_read_of_fits app none hwhole (c.incoming.length + 1)
    (app.start scope c.world).1 { c with world := (app.start scope c.world).2 }
    (by rw [hincoming]; exact Nat.le_succ _) hincoming (by rintro _ ⟨⟩)
  rw [run_toAsgi, EStateM.run_bind]
  rw [show serverReceive = receiveUnder (S := S) none from rfl, hread]
  rfl

end WholeBodyApp

/-- From `c`, the 422 is sent; `rest` is not received, and the application has left `world`. -/
def RefusesAt (limit : ℕ) (app : WholeBodyApp S) (scope : Scope) (send : Send S)
    (c : Connection S) (rest : List ReceiveMessage) (world : World S) : Prop :=
  ∃ facts received, (bodyCap limit app.toAsgi scope serverReceive send).run c =
    (sendResponse (tooLargeResponse limit) send).run { c with
      incoming := rest
      received := received
      world := world.withFacts facts }

/-- **The cap is exact and transparent.**  Nothing is received of a body that is declared too
    long.  Of a body that is too long the application takes what comes before the chunk that
    crosses the limit, nothing is received after that chunk, and the one response is the
    cap's.  Any other body is taken as it is, and the response passes unchanged.  What the
    application takes never exceeds the limit. -/
theorem body_cap_exact (limit : ℕ) (app : WholeBodyApp S) {scope : Scope} {send : Send S}
    {messages : List ReceiveMessage} {c : Connection S} (hsend : Outlet send)
    (hhttp : scope.type = .http) (hguarded : isOpenPath scope = false)
    (hwhole : WholeBody messages) (hincoming : c.incoming = messages) :
    (DeclaresMore limit scope →
      RefusesAt limit app scope send c messages c.world) ∧
    (¬ DeclaresMore limit scope → limit < bodyBytes messages →
      ∃ handed chunk moreBody rest, messages = handed ++ .httpRequest chunk moreBody :: rest ∧
        bodyBytes handed ≤ limit ∧ limit < bodyBytes handed + chunk.length ∧
        RefusesAt limit app scope send c rest
          (app.abandon (app.taking scope handed c.world).1
            (app.taking scope handed c.world).2)) ∧
    (¬ DeclaresMore limit scope → bodyBytes messages ≤ limit →
      (bodyCap limit app.toAsgi scope serverReceive send).run c =
        recount (bodyBytes messages) ((app.toAsgi scope serverReceive send).run c) ∧
      (app.toAsgi scope serverReceive send).run c =
        ((app.respond (app.taking scope messages c.world).1).run serverReceive send).run { c with
          incoming := []
          world := (app.taking scope messages c.world).2 }) := by
  have houter : ¬ (scope.type ≠ .http ∨ isOpenPath scope = true) := by simp [hhttp, hguarded]
  have hroom : messages.length ≤ c.incoming.length + 1 := by
    rw [hincoming]
    exact Nat.le_succ _
  let entered : Connection S :=
    { c with world := (app.start scope c.world).2, received := 0 }
  constructor
  -- refused on the header, before anything is read
  · intro hdeclared
    obtain ⟨facts, hrefuse⟩ := run_refuse limit send c
    refine ⟨facts, c.received, ?_⟩
    unfold bodyCap
    rw [if_neg houter, if_pos (declaresOver_iff.mpr hdeclared), hrefuse, ← hincoming]
  constructor
  -- refused at the first chunk that passes the cap
  · intro hdeclared hover
    obtain ⟨handed, chunk, moreBody, rest, hsplit, hbelow, habove, hread⟩ :=
      app.run_read_of_over hwhole (c.incoming.length + 1) (app.start scope c.world).1 entered
        hroom hincoming (Nat.zero_le _) (by simpa [entered] using hover)
    simp only [entered, Nat.zero_add] at hbelow habove hread
    obtain ⟨facts, hrefuse⟩ := run_refuse limit send { c with
      incoming := rest
      received := bodyBytes handed + chunk.length
      world := app.abandon (app.taking scope handed c.world).1
        (app.taking scope handed c.world).2 }
    refine ⟨handed, chunk, moreBody, rest, hsplit, hbelow, habove, facts, _, Eq.trans ?_ hrefuse⟩
    unfold bodyCap
    rw [if_neg houter, if_neg (by rwa [declaresOver_iff])]
    simp [WholeBodyApp.run_toAsgi, hread, WholeBodyApp.taking]
  -- never refused: counting does not change what the app does
  · intro hdeclared hfits
    have hplain := app.run_toAsgi_plain scope send hwhole hincoming
    have hread := app.run_read_of_fits (some limit) hwhole (c.incoming.length + 1)
      (app.start scope c.world).1 entered hroom hincoming
      (by rintro _ ⟨⟩; simpa [entered] using hfits)
    let read : Connection S := { c with
      incoming := []
      world := (app.taking scope messages c.world).2 }
    have hcounted : (app.toAsgi scope (counted limit serverReceive) send).run
        { c with received := 0 } = recount (bodyBytes messages)
          (((app.respond (app.taking scope messages c.world).1).run serverReceive send).run
            read) := by
      have hcount : countUnder (some limit) entered.received (bodyBytes messages) =
          bodyBytes messages := Nat.zero_add _
      rw [hcount] at hread
      rw [WholeBodyApp.run_toAsgi, EStateM.run_bind]
      rw [show counted limit serverReceive = receiveUnder (S := S) (some limit) from rfl, hread]
      exact Responder.run_counted hsend _ _ (c := read) rfl
    refine ⟨?_, hplain⟩
    unfold bodyCap
    rw [if_neg houter, if_neg (by rwa [declaresOver_iff]), hplain]
    have hpass := Responder.run_ne_tooLarge hsend
      (app.respond (app.taking scope messages c.world).1) read
    rcases hresult : ((app.respond (app.taking scope messages c.world).1).run serverReceive
      send).run read with ⟨_, c'⟩ | ⟨raised, c'⟩
    · simp [hcounted, hresult, recount]
    · rcases raised with exc | _ | _
      · simp [hcounted, hresult, recount]
      · exact absurd hresult (hpass c')
      · simp [hcounted, hresult, recount]

/-- An application that collects its body and then sends a response. -/
def collector : WholeBodyApp Unit where
  State := List Byte
  start _ w := ([], w)
  absorb taken message :=
    match message with
    | .httpRequest chunk _ => (taken.1 ++ chunk, taken.2)
    | .httpDisconnect => taken
  respond _ := .send (.responseStart 200 []) (.send (.responseBody none) .finish)
  abandon _ w := w

/-- A body of exactly the limit passes as if there were no cap. -/
theorem body_cap_exact_collector :
    (bodyCap 5 collector.toAsgi (sampleScope "POST" "/v1/extract" []) serverReceive serverSend).run
        (.opened ⟨⟨1, 0⟩, (), none, [], []⟩
          [.httpRequest (bytes "abc") true, .httpRequest (bytes "de") false]) =
      recount 5
        ((collector.toAsgi (sampleScope "POST" "/v1/extract" []) serverReceive serverSend).run
          (.opened ⟨⟨1, 0⟩, (), none, [], []⟩
            [.httpRequest (bytes "abc") true, .httpRequest (bytes "de") false])) := by
  have hwhole : WholeBody [.httpRequest (bytes "abc") true, .httpRequest (bytes "de") false] :=
    .more rfl (.last rfl)
  have hundeclared : ¬ DeclaresMore 5 (sampleScope "POST" "/v1/extract" []) := by
    rw [← declaresOver_iff]
    decide
  exact ((body_cap_exact 5 collector outlet_serverSend rfl (by decide) hwhole rfl).2.2
    hundeclared (by decide)).1

end ExtractApi
