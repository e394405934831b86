import HttpReplay.Proofs.Client.Effort
import HttpReplay.Proofs.Client.Isolation
import Mathlib.Data.List.Chain

/-!
How far a request is chased through redirects.

A send makes one round trip after another as long as what it gets is a redirect, and no more of them
than its limit allows. What a target would answer to a round trip that is not made cannot be seen,
so the law (`Budgeted`) is about all that it may have in store: whatever outcomes begin with those
that were seen, their first one that is no redirect is the last one seen if it comes in time, and
the one at the limit is if it does not. A send that stops too early breaks this law as much as one
that goes on too long.

The count of redirects is kept from send to send, so that a chain broken off by a failure could eat
up the budget of the next one. It does not, since every way out of a chase sets it back
(`exists_chases_of_chase`), and nothing else touches it (`Used.eq_create`).
-/

set_option autoImplicit false

namespace HttpReplay.Client

open HttpReplay.Task (Event)

variable {target : Target} {settings : Settings} {redirects : Nat} {link link' : Link}
  {request : Bytes} {hops : List Hop} {es : List Event} {reply : Reply}

/-! ## Redirects -/

/-- The field that says where a redirect leads. -/
def locationField : Bytes := Bytes.ofText "Location"

/-- Whether a response is a redirect: the status where a response has it begins with a 3, and there
is a Location. -/
def Followable (response : Bytes) : Prop :=
  12 ≤ response.length ∧ Bytes.ofText "HTTP/" <+: response ∧ response[9]? = some 0x33 ∧
    (Http.header locationField response).isSome = true

theorem status_cons_iff {response : Bytes} {digit : UInt8} :
    (∃ more, Http.status response = some (digit :: more)) ↔
      12 ≤ response.length ∧ Bytes.ofText "HTTP/" <+: response ∧ response[9]? = some digit := by
  have hprefix : (Bytes.strip? (Bytes.ofText "HTTP/") response).isSome = true ↔
      Bytes.ofText "HTTP/" <+: response := by
    rw [Option.isSome_iff_exists]
    exact ⟨fun ⟨rest, h⟩ => ⟨rest, (Bytes.strip?_eq_some.1 h).symm⟩,
      fun ⟨rest, h⟩ => ⟨rest, Bytes.strip?_eq_some.2 h.symm⟩⟩
  rw [← hprefix]
  unfold Http.status
  split
  next h =>
    obtain ⟨hlength, hstart⟩ := h
    have hdrop : response.drop 9 = response[9] :: response.drop 10 := List.drop_eq_getElem_cons _
    have hdigit : response[9]? = some response[9] := List.getElem?_eq_getElem _
    rw [hdrop, List.take_succ_cons, hdigit]
    simp [hlength, hstart]
  next h =>
    constructor
    · rintro ⟨more, hmore⟩
      cases hmore
    · rintro ⟨hlength, hstart, -⟩
      exact absurd ⟨hlength, hstart⟩ h

/-- A response redirects to its Location exactly if it is a redirect. -/
theorem redirection?_eq_some_iff {response location : Bytes} :
    redirection? response = some location ↔
      Followable response ∧ Http.header locationField response = some location := by
  have hfollowable : Followable response ↔ (∃ more, Http.status response = some (0x33 :: more)) ∧
      (Http.header locationField response).isSome = true := by
    rw [status_cons_iff]
    simp only [Followable, and_assoc]
  rw [hfollowable]
  unfold redirection?
  split
  next more hstatus =>
    constructor
    · intro hlocation
      exact ⟨⟨⟨more, hstatus⟩, Option.isSome_iff_exists.2 ⟨_, hlocation⟩⟩, hlocation⟩
    · exact fun h => h.2
  next hother =>
    constructor
    · intro h
      cases h
    · rintro ⟨⟨⟨more, hmore⟩, -⟩, -⟩
      exact absurd hmore (hother more)

/-- A redirect is followed while the limit allows it, and nothing else is. -/
theorem redirectRequest?_eq_some_iff {response next : Bytes} :
    redirectRequest? settings redirects response = some next ↔
      redirects < settings.redirectLimit ∧ Followable response ∧
        ∃ location, Http.header locationField response = some location ∧
          getRequest location = next := by
  unfold redirectRequest?
  split
  next hless =>
    simp only [Option.map_eq_some_iff, redirection?_eq_some_iff, hless, true_and, and_assoc,
      exists_and_left]
  next hmore => simp [hmore]

/-! ## Round trips of one send -/

/-- Whether a round trip calls for another one. -/
def LeadsOn (result : Except Failure Bytes) : Prop :=
  ∃ response, result = .ok response ∧ Followable response

/-- Whether a round trip asks for where the one before it was led. -/
def Follows (h next : Hop) : Prop :=
  ∃ response location, h.result = .ok response ∧
    Http.header locationField response = some location ∧ next.request = getRequest location

/-- What is replied if a round trip is the last one: its response as it is, or a made-up one. -/
inductive RepliesWith : Except Failure Bytes → Reply → Prop
  | answered (response : Bytes) : RepliesWith (.ok response) (.answered response)
  | failed (why : Failure) (today : Moment) :
      RepliesWith (.error why) (.failed why (why.status.response today))

/-- Whether results are the first ones of what a target has in store. -/
def SeenOf (outcomes : Nat → Except Failure Bytes) (results : List (Except Failure Bytes)) : Prop :=
  ∀ i result, results[i]? = some result → result = outcomes i

/-- **The law of redirects** for the results of the round trips that a send made and its reply,
whatever the target has in store. -/
structure Budgeted (limit : Nat) (results : List (Except Failure Bytes)) (reply : Reply) :
    Prop where
  /-- There are no more round trips than the limit allows redirects, and one. -/
  bounded : results.length ≤ limit + 1
  /-- The first outcome that is no redirect, a failure for instance, is the last that is seen, and
  it is the reply, … -/
  stopped : ∀ outcomes, SeenOf outcomes results → ∀ k ≤ limit, (∀ i < k, LeadsOn (outcomes i)) →
    ¬ LeadsOn (outcomes k) → results.length = k + 1 ∧ RepliesWith (outcomes k) reply
  /-- … unless there is none up to the limit: then the response at the limit is. -/
  exhausted : ∀ outcomes, SeenOf outcomes results → (∀ i ≤ limit, LeadsOn (outcomes i)) →
    results.length = limit + 1 ∧ RepliesWith (outcomes limit) reply

namespace SeenOf

variable {outcomes : Nat → Except Failure Bytes} {result : Except Failure Bytes}
  {results : List (Except Failure Bytes)}

theorem head (h : SeenOf outcomes (result :: results)) : result = outcomes 0 := h 0 result rfl

theorem tail (h : SeenOf outcomes (result :: results)) :
    SeenOf (fun i => outcomes (i + 1)) results := fun i r hr => h (i + 1) r hr

end SeenOf

/-- A round trip that is not followed by another obeys the law alone, if it leads nowhere or there
is no budget. -/
theorem budgeted_last {limit : Nat} {result : Except Failure Bytes}
    (hlast : LeadsOn result → limit = 0) (hreply : RepliesWith result reply) :
    Budgeted limit [result] reply := by
  refine ⟨Nat.succ_le_succ (Nat.zero_le limit), fun outcomes hseen k hk hbefore hstop => ?_,
    fun outcomes hseen hall => ?_⟩
  · obtain rfl := hseen.head
    obtain rfl : k = 0 := by
      by_contra hne
      have hzero := hlast (hbefore 0 (Nat.pos_of_ne_zero hne))
      omega
    exact ⟨rfl, hreply⟩
  · obtain rfl := hseen.head
    obtain rfl := hlast (hall 0 (Nat.zero_le limit))
    exact ⟨rfl, hreply⟩

/-- A redirect takes one off the budget of the round trips after it. -/
theorem Budgeted.cons {limit : Nat} {result : Except Failure Bytes}
    {results : List (Except Failure Bytes)} (hleads : LeadsOn result)
    (h : Budgeted limit results reply) : Budgeted (limit + 1) (result :: results) reply := by
  refine ⟨Nat.succ_le_succ h.bounded, fun outcomes hseen k hk hbefore hstop => ?_,
    fun outcomes hseen hall => ?_⟩
  · cases k with
    | zero => exact absurd (hseen.head ▸ hleads) hstop
    | succ k =>
      obtain ⟨hlength, hreply⟩ := h.stopped _ hseen.tail k (Nat.le_of_succ_le_succ hk)
        (fun i hi => hbefore (i + 1) (Nat.succ_lt_succ hi)) hstop
      exact ⟨congrArg Nat.succ hlength, hreply⟩
  · obtain ⟨hlength, hreply⟩ := h.exhausted _ hseen.tail
      fun i hi => hall (i + 1) (Nat.succ_le_succ hi)
    exact ⟨congrArg Nat.succ hlength, hreply⟩

/-- **A chase obeys the law** with the budget that is left. -/
theorem Chases.budgeted (h : Chases target settings redirects link request hops es link' reply)
    (hredirects : redirects ≤ settings.redirectLimit) :
    Budgeted (settings.redirectLimit - redirects) (hops.map Hop.result) reply := by
  induction h with
  | @failed _ h why today _ hresult =>
    refine budgeted_last ?_ (hresult ▸ .failed why today)
    rintro ⟨response, hok, -⟩
    rw [hresult] at hok
    cases hok
  | @answered redirects h response _ hresult hnone =>
    refine budgeted_last ?_ (hresult ▸ .answered response)
    rintro ⟨response', hok, hfollow⟩
    obtain rfl : response = response' := Except.ok.inj (hresult.symm.trans hok)
    -- A redirect that is not followed is so for want of budget.
    by_contra hleft
    obtain ⟨location, hlocation⟩ := Option.isSome_iff_exists.1 hfollow.2.2.2
    have hsome := redirectRequest?_eq_some_iff.2
      ⟨(by omega : redirects < settings.redirectLimit), hfollow, location, hlocation, rfl⟩
    rw [hnone] at hsome
    cases hsome
  | @redirected redirects h _ _ _ _ response next _ hresult hsome _ ih =>
    obtain ⟨hless, hfollow, -⟩ := redirectRequest?_eq_some_iff.1 hsome
    have hleft : settings.redirectLimit - redirects =
        settings.redirectLimit - (redirects + 1) + 1 := by omega
    rw [hleft]
    exact (ih hless).cons ⟨response, hresult, hfollow⟩

/-- The first round trip is for the request itself, each later one for where a redirect led. -/
theorem Chases.requests (h : Chases target settings redirects link request hops es link' reply) :
    hops.head?.map Hop.request = some request ∧ hops.IsChain Follows := by
  induction h with
  | failed | answered => exact ⟨rfl, .singleton _⟩
  | @redirected _ h hops _ _ _ response next _ hresult hsome _ ih =>
    obtain ⟨hfirst, hnext⟩ := ih
    refine ⟨rfl, ?_⟩
    obtain ⟨-, -, location, hlocation, rfl⟩ := redirectRequest?_eq_some_iff.1 hsome
    cases hops with
    | nil => exact .singleton _
    | cons h' hops =>
      exact .cons_cons ⟨response, location, hresult, hlocation, Option.some.inj hfirst⟩ hnext

/-- All that happens in a send happens in its round trips, but for a look at the calendar. -/
theorem Chases.events (h : Chases target settings redirects link request hops es link' reply) :
    ∃ dates : List Moment, es = hops.flatMap Hop.events ++ dates.map Event.date := by
  induction h with
  | failed today => exact ⟨[today], by simp⟩
  | answered => exact ⟨[], by simp⟩
  | redirected _ _ _ _ ih =>
    obtain ⟨dates, rfl⟩ := ih
    exact ⟨dates, by simp⟩

/-! ## Sends -/

/-- What a send came to that made certain round trips and had so much of a budget. -/
structure Chased (limit : Nat) (c : Client) (request : Bytes) (es : List Event) (c' : Client)
    (reply : Reply) (hops : List Hop) : Prop where
  /-- Each round trip begins with the link that the one before it left, … -/
  chained : Chained c.target c.settings c.link hops c'.link
  /-- … and nothing happens but in round trips, save for a look at the calendar. -/
  events : ∃ dates : List Moment, es = hops.flatMap Hop.events ++ dates.map Event.date
  /-- The first round trip is for the request itself, … -/
  first : hops.head?.map Hop.request = some request
  /-- … each later one for where a redirect led. -/
  next : hops.IsChain Follows
  /-- They end where the law says, with the reply that it says. -/
  budgeted : Budgeted limit (hops.map Hop.result) reply

theorem within_send (c : Client) (hcapacity : 0 < c.settings.capacity) (request : Bytes) :
    (c.send request).Within
      ((c.settings.redirectLimit - c.redirects + 1) * roundTripEffort c.settings + 1) :=
  (within_chase hcapacity c.link request).bind (n := 0) fun _ => .done _

/-- **A send follows redirects as far as its limit, and always comes to its end.** This holds of a
client whatever it was used for before: whatever the network does there is a reply, the number of
operations that it takes is bounded, the round trips made obey the law with the full budget, and no
redirect is left counted for the next send. -/
theorem send_chases {c : Client} (h : Used target settings c) (request : Bytes) :
    (∀ net : Network, ∃ es c' reply, net.Allows [] es ∧ (c.send request).Runs es (c', reply)) ∧
      ∀ es c' reply, (c.send request).Runs es (c', reply) →
        es.length ≤ (settings.redirectLimit + 1) * roundTripEffort settings.completed + 1 ∧
        c'.redirects = 0 ∧
        ∃ hops, Chased settings.redirectLimit c request es c' reply hops := by
  obtain ⟨link, rfl⟩ := h.eq_create
  refine ⟨fun net => ?_, fun es c' reply hsend => ?_⟩
  · obtain ⟨es, ⟨c', reply⟩, hnet, hruns⟩ := Task.exists_runs net [] (send _ request)
    exact ⟨es, c', reply, hnet, hruns⟩
  · have heffort := within_send _ (capacity_completed_pos settings) request es _ hsend
    obtain ⟨link', hops, rfl, hchases⟩ := exists_chases_of_send hsend
    obtain ⟨hfirst, hnext⟩ := hchases.requests
    exact ⟨heffort, rfl, hops, hchases.chained, hchases.events, hfirst, hnext,
      hchases.budgeted (Nat.zero_le _)⟩

/-! ## A chain that was broken off

A client that may follow one redirect. The first time the target closes the connection where the
redirect led; the second time it redirects again, and that response is the reply.
-/

/-- A client's settings: it follows one redirect. -/
def oneHop : Settings := ⟨1, true, 0, 0, 200⟩

/-- A redirect. -/
def moved : Bytes := Bytes.ofText "HTTP/1.1 302 Found\r\nLocation: /on\r\n\r\n"

/-- A send that is redirected, at certain times, up to the answer to its second request. -/
def movedEvents (start : Instant) : List Event :=
  [.close, .now start, .dial "site:80" .connected, .now (start + 1), .write rootRequest .written,
    .now (start + 2), .read 200 (.received 0x48 (moved.drop 1)),
    .now (start + 3), .read 1 .timedOut, .now (start + 4),
    .write (getRequest (Bytes.ofText "/on")) .written, .now (start + 5)]

/-- The first send, whose second request is not answered. -/
def brokenOffEvents : List Event :=
  movedEvents 0 ++ [.read 200 .ended, .close, .date ⟨0, 0⟩]

/-- The second send. -/
def exhaustedEvents : List Event :=
  movedEvents 6 ++ [.read 200 (.received 0x48 (moved.drop 1))]

theorem send_chases_exhausted :
    ∃ c c', Used site oneHop c ∧
      (c.send rootRequest).Runs exhaustedEvents (c', .answered moved) ∧
      exhaustedEvents.length ≤
        (oneHop.redirectLimit + 1) * roundTripEffort oneHop.completed + 1 ∧
      c'.redirects = 0 ∧
      ∃ hops, Chased oneHop.redirectLimit c rootRequest exhaustedEvents c' (.answered moved)
        hops := by
  have hfirst : ((create site oneHop).send rootRequest).Runs brokenOffEvents
      (⟨site, oneHop.completed, ⟨false, moved⟩, 0⟩,
        .failed .closed (Failure.closed.status.response ⟨0, 0⟩)) := by decide +kernel
  have hsecond : (send ⟨site, oneHop.completed, ⟨false, moved⟩, 0⟩ rootRequest).Runs
      exhaustedEvents (⟨site, oneHop.completed, ⟨true, moved⟩, 0⟩, .answered moved) := by
    decide +kernel
  have hused : Used site oneHop ⟨site, oneHop.completed, ⟨false, moved⟩, 0⟩ := .send .new hfirst
  exact ⟨_, _, hused, hsecond, (send_chases hused rootRequest).2 _ _ _ hsecond⟩

end HttpReplay.Client
