import KubectlMatch.Http.Client
/-!
# How a request ends

A request stands at an address, after attempts that were made and time that is over.  What is heard there ends it or
sends it on to another address (`Ends`), and this describes every request and nothing else (`send_eq_iff`,
`request_eq_iff`).  Where there is no response in the end, the cause is of one of three kinds (`Requests.cause_cases`).
-/
namespace KubectlMatch.Http

/-- Where a request stands. -/
structure Stand where
  made : List Attempt
  elapsed : Duration
  address : Address

namespace Stand

variable (net : Network) (limit : Duration) (s : Stand)

def answer : Answer := net s.made s.address

/-- The time at which the answer is there. -/
def clock : Duration := s.elapsed + (s.answer net).duration

/-- The attempts made when it is. -/
def after : List Attempt := s.made ++ [⟨s.address, (s.answer net).reply.isArrival⟩]

/-- Where the request stands if it is sent on. -/
def next (address : Address) : Stand := ⟨s.after net, s.clock net, address⟩

/-- A reply comes in the time allowed. -/
structure Hears (reply : Reply) : Prop where
  reply_eq : (s.answer net).reply = reply
  in_time : ¬ limit < s.clock net

end Stand

/-- How a request ends that may be sent on a number of times, and the attempts it leaves. -/
inductive Ends (net : Network) (limit : Duration) : Nat → Stand → List Attempt → Except Error Received → Prop
  | late {hops : Nat} {s : Stand} (h : limit < s.clock net) :
      Ends net limit hops s (s.after net) (.error (.of .sending s.address .timedOut))
  | unconnected {hops : Nat} {s : Stand} {errno : Errno} (h : s.Hears net limit (.unconnected errno)) :
      Ends net limit hops s (s.after net) (.error (.of .sending s.address (.unconnected errno)))
  | lost {hops : Nat} {s : Stand} {loss : Loss} (h : s.Hears net limit (.lost loss)) :
      Ends net limit hops s (s.after net) (.error (.of .sending s.address (.lost loss)))
  | answered {hops : Nat} {s : Stand} {r : Response} (h : s.Hears net limit (.response r))
      (hstays : r.target? s.address = none) : Ends net limit hops s (s.after net) (.ok ⟨s.address, r, s.clock net⟩)
  | tooMany {s : Stand} {r : Response} {address : Address} (h : s.Hears net limit (.response r))
      (hgoes : r.target? s.address = some address) :
      Ends net limit 0 s (s.after net) (.error (.of .redirecting s.address .tooManyRedirects))
  | unserved {hops : Nat} {s : Stand} {r : Response} {address : Address} (h : s.Hears net limit (.response r))
      (hgoes : r.target? s.address = some address) (hserved : address.isServed = false) :
      Ends net limit (hops + 1) s (s.after net) (.error (.of .building address .badScheme))
  | onward {hops : Nat} {s : Stand} {r : Response} {address : Address} {made : List Attempt}
      {result : Except Error Received} (h : s.Hears net limit (.response r))
      (hgoes : r.target? s.address = some address) (hserved : address.isServed = true)
      (hends : Ends net limit hops (s.next net address) made result) : Ends net limit (hops + 1) s made result

/-- How the request of a resource ends that a text is the address of. -/
inductive Requests (net : Network) (limit : Duration) (url : String) (made : List Attempt) :
    List Attempt → Except Error Received → Prop
  | noAddress {e : AddressError} (h : Address.ofText url = .error e) :
      Requests net limit url made made (.error ⟨.building, none, .badAddress e.message⟩)
  | unserved {address : Address} (h : Address.ofText url = .ok address) (hserved : address.isServed = false) :
      Requests net limit url made made (.error (.of .building address .badScheme))
  | sent {address : Address} {made' : List Attempt} {result : Except Error Received}
      (h : Address.ofText url = .ok address) (hserved : address.isServed = true)
      (hends : Ends net limit redirectLimit ⟨made, ⟨0⟩, address⟩ made' result) :
        Requests net limit url made made' result

variable {net : Network} {limit elapsed : Duration} {hops : Nat} {made made' : List Attempt} {address : Address}
  {result : Except Error Received} {s : Stand} {url : String} {e : Error}

/-! ## One visit -/

/-- A request from where it stands. -/
def Stand.send (net : Network) (limit : Duration) (hops : Nat) (s : Stand) : Except Error Received × List Attempt :=
  (Http.send net limit hops s.elapsed s.address).run s.made

theorem send_late (h : limit < s.clock net) :
    s.send net limit hops = (.error (.of .sending s.address .timedOut), s.after net) := by
  unfold Stand.send
  rw [Http.send]
  show StateT.run (ite (limit < s.clock net) _ _) _ = _
  rw [if_pos h]
  rfl

theorem send_in_time {reply : Reply} (h : s.Hears net limit reply) : s.send net limit hops =
    match reply.read s.address (s.clock net) with
    | .error e => (.error e, s.after net)
    | .ok (.inl received) => (.ok received, s.after net)
    | .ok (.inr address) =>
      match hops with
      | 0 => (.error (.of .redirecting s.address .tooManyRedirects), s.after net)
      | hops + 1 =>
        if address.isServed then (s.next net address).send net limit hops
        else (.error (.of .building address .badScheme), s.after net) := by
  obtain ⟨rfl, hlimit⟩ := h
  unfold Stand.send
  rw [Http.send]
  show StateT.run (ite (limit < s.clock net) _ _) (s.after net) = _
  rw [if_neg hlimit]
  have hread : (net s.made s.address).reply.read s.address (s.elapsed + (net s.made s.address).duration) =
    (s.answer net).reply.read s.address (s.clock net) := rfl
  rw [hread]
  -- whatever is read: both sides go by the same three cases, and by the hops where the request is sent on
  generalize (s.answer net).reply.read s.address (s.clock net) = reading
  rcases reading with e | received | address
  · rfl
  · rfl
  · cases hops with
    | zero => rfl
    | succ hops =>
      dsimp only
      split <;> rfl

theorem read_response {r : Response} : (Reply.response r).read address elapsed =
    match r.target? address with
    | none => .ok (.inl ⟨address, r, elapsed⟩)
    | some next => .ok (.inr next) := rfl

/-! ## The relation and the run -/

theorem Ends.send_eq (h : Ends net limit hops s made result) : s.send net limit hops = (result, made) := by
  induction h with
  | late h => exact send_late h
  | unconnected h => exact send_in_time h
  | lost h => exact send_in_time h
  | answered h hstays => rw [send_in_time h, read_response, hstays]
  | tooMany h hgoes => rw [send_in_time h, read_response, hgoes]
  | unserved h hgoes hserved =>
    rw [send_in_time h, read_response, hgoes]
    dsimp only
    rw [hserved]
    rfl
  | onward h hgoes hserved hends ih =>
    rw [send_in_time h, read_response, hgoes]
    dsimp only
    rw [if_pos hserved, ih]

/-- What is heard at an address ends a request, or sends it on. -/
theorem ends_or_goes (net : Network) (limit : Duration) (hops : Nat) (s : Stand) :
    (∃ made result, Ends net limit hops s made result) ∨
      ∃ r address, s.Hears net limit (.response r) ∧ r.target? s.address = some address := by
  by_cases hlimit : limit < s.clock net
  · exact Or.inl ⟨_, _, .late hlimit⟩
  · cases hreply : (s.answer net).reply with
    | unconnected errno => exact Or.inl ⟨_, _, .unconnected ⟨hreply, hlimit⟩⟩
    | lost loss => exact Or.inl ⟨_, _, .lost ⟨hreply, hlimit⟩⟩
    | response r =>
      cases htarget : r.target? s.address with
      | none => exact Or.inl ⟨_, _, .answered ⟨hreply, hlimit⟩ htarget⟩
      | some address => exact Or.inr ⟨r, address, ⟨hreply, hlimit⟩, htarget⟩

theorem exists_ends (net : Network) (limit : Duration) :
    ∀ (hops : Nat) (s : Stand), ∃ made result, Ends net limit hops s made result
  | 0, s => by
    rcases ends_or_goes net limit 0 s with hends | ⟨r, address, h, hgoes⟩
    · exact hends
    · exact ⟨_, _, .tooMany h hgoes⟩
  | hops + 1, s => by
    rcases ends_or_goes net limit (hops + 1) s with hends | ⟨r, address, h, hgoes⟩
    · exact hends
    · cases hserved : address.isServed with
      | false => exact ⟨_, _, .unserved h hgoes hserved⟩
      | true =>
        obtain ⟨made, result, hends⟩ := exists_ends net limit hops (s.next net address)
        exact ⟨made, result, .onward h hgoes hserved hends⟩

/-- **A request ends as the relation says**, from wherever it stands. -/
theorem send_eq_iff : (send net limit hops elapsed address).run made = (result, made') ↔
    Ends net limit hops ⟨made, elapsed, address⟩ made' result := by
  refine ⟨fun h => ?_, Ends.send_eq⟩
  obtain ⟨after, outcome, hends⟩ := exists_ends net limit hops ⟨made, elapsed, address⟩
  have heq : (result, made') = (outcome, after) := h.symm.trans hends.send_eq
  cases heq
  exact hends

theorem request_eq_iff :
    (request net limit url).run made = (result, made') ↔ Requests net limit url made made' result := by
  constructor
  · intro h
    unfold request at h
    cases haddress : Address.ofText url with
    | error e =>
      rw [haddress] at h
      cases h
      exact .noAddress haddress
    | ok address =>
      rw [haddress] at h
      dsimp only at h
      cases hserved : address.isServed with
      | false =>
        rw [hserved] at h
        cases h
        exact .unserved haddress hserved
      | true =>
        rw [if_pos hserved] at h
        exact .sent haddress hserved (send_eq_iff.1 h)
  · intro h
    unfold request
    cases h with
    | noAddress h => rw [h]; rfl
    | unserved h hserved =>
      rw [h]
      dsimp only
      rw [hserved]
      rfl
    | sent h hserved hends =>
      rw [h]
      dsimp only
      rw [if_pos hserved]
      exact send_eq_iff.2 hends

theorem exists_requests (net : Network) (limit : Duration) (url : String) (made : List Attempt) :
    ∃ made' result, Requests net limit url made made' result :=
  ⟨((request net limit url).run made).2, ((request net limit url).run made).1, request_eq_iff.1 rfl⟩

/-! ## Why there is no response -/

/-- A time ran out: the client's, or the one that the system has for a connection. -/
inductive Cause.RunsOut : Cause → Prop
  | limit : RunsOut .timedOut
  | connecting : RunsOut (.unconnected .timedOut)
  | waiting : RunsOut (.lost (.broken .timedOut))

/-- No connection came about, and not for want of time. -/
inductive Cause.Refuses : Cause → Prop
  | unconnected {errno : Errno} (h : errno ≠ .timedOut) : Refuses (.unconnected errno)

/-- What keeps a response away other than the time and a connection that does not come about. -/
inductive Cause.Defeats : Cause → Prop
  | lost {loss : Loss} (h : loss ≠ .broken .timedOut) : Defeats (.lost loss)
  | tooManyRedirects : Defeats .tooManyRedirects
  | badScheme : Defeats .badScheme
  | badAddress (reason : String) : Defeats (.badAddress reason)

theorem Ends.cause_cases (h : Ends net limit hops s made result) : ∀ e, result = .error e →
    e.cause.RunsOut ∨ e.cause.Refuses ∨ e.cause.Defeats := by
  induction h with
  | late => exact fun e he => Or.inl (by cases he; exact .limit)
  | @unconnected _ _ errno =>
    rintro e ⟨⟩
    by_cases herrno : errno = .timedOut
    · rw [herrno]
      exact Or.inl .connecting
    · exact Or.inr (Or.inl (.unconnected herrno))
  | @lost _ _ loss =>
    rintro e ⟨⟩
    by_cases hloss : loss = .broken .timedOut
    · rw [hloss]
      exact Or.inl .waiting
    · exact Or.inr (Or.inr (.lost hloss))
  | answered => exact fun e he => by cases he
  | tooMany => exact fun e he => Or.inr (Or.inr (by cases he; exact .tooManyRedirects))
  | unserved => exact fun e he => Or.inr (Or.inr (by cases he; exact .badScheme))
  | onward _ _ _ _ ih => exact ih

/-- **Without a response** a time ran out, no connection came about, or there was another cause. -/
theorem Requests.cause_cases (h : Requests net limit url made made' (.error e)) :
    e.cause.RunsOut ∨ e.cause.Refuses ∨ e.cause.Defeats := by
  cases h with
  | noAddress => exact Or.inr (Or.inr (.badAddress _))
  | unserved => exact Or.inr (Or.inr .badScheme)
  | sent _ _ hends => exact hends.cause_cases e rfl

end KubectlMatch.Http
