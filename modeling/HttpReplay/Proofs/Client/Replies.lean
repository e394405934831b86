import HttpReplay.Proofs.Client.Redirects
import HttpReplay.Proofs.Client.Synthetic

/-!
What a reply says of the client that gave it.

A send goes through many stages, any of which may fail and each of which has to leave the connection
in step with what is returned: a connection that outlives a failure breaks every later send. Seen
from outside there are just two cases. Either the response is made up, and then there is no
connection; or it is real, and then the connection is kept exactly if the response fits and its
framing does not tell that something is missing (`ReadLast`). In the second case the response is
what was read since the last request was written and nothing else, so whatever earlier responses
have left in the buffer does not show.

Both cases are settled for single round trips (`stands_of_made`), redirected ones included; a send
is as its last round trip is (`Chases.exists_last`).
-/

set_option autoImplicit false

namespace HttpReplay.Client

open HttpReplay.Task (Event)
open HttpReplay.Reading (Reads)

variable {target : Target} {settings : Settings} {redirects : Nat} {link link' : Link}
  {request : Bytes} {hops : List Hop} {es : List Event} {reply : Reply} {capacity : Nat}

/-! ## Single round trips -/

/-- Whether a response is what was read since a request was last written, as much of it as fits,
and the connection is kept exactly if it fits and is not incomplete as an answer to this request. -/
def ReadLast (capacity : Nat) (es : List Event) (connected : Bool) (response : Bytes) : Prop :=
  ∃ before data after, es = before ++ .write data .written :: after ∧
    (∀ e ∈ after, e.isWrite = false) ∧ response = (Task.received after).take capacity ∧
    (connected = true ↔ response.length < capacity ∧
      Http.framing (Http.isHeadRequest data) response ≠ .incomplete)

/-- What happens around it, as long as nothing is written later, does not change what was read
last. -/
theorem ReadLast.extend {connected : Bool} {response : Bytes} (before : List Event)
    (dates : List Moment) (h : ReadLast capacity es connected response) :
    ReadLast capacity (before ++ es ++ dates.map Event.date) connected response := by
  obtain ⟨earlier, data, after, rfl, hafter, hresponse, hconnected⟩ := h
  have hreceived : Task.received (after ++ dates.map Event.date) = Task.received after := by
    have hdates : Task.received (dates.map Event.date) = [] :=
      Task.received_of_silent (by simp [Event.isSilent])
    rw [Task.received_append, hdates, List.append_nil]
  refine ⟨before ++ earlier, data, after ++ dates.map Event.date, by simp, ?_, ?_, hconnected⟩
  · simpa [or_imp, forall_and, Event.isWrite] using hafter
  · rw [hreceived, hresponse]

/-- What a round trip comes to, after certain events and with or without a connection left. -/
def Stands (capacity : Nat) (es : List Event) (connected : Bool) : Except Failure Bytes → Prop
  | .error _ => connected = false
  | .ok response => response ≠ [] ∧ ReadLast capacity es connected response

/-- Reading stops at the framing exactly if the response fits and is not incomplete. -/
theorem endsWhole_iff {headRequest : Bool} {read : Bytes} {reason : ReadEnd}
    (hread : read ≠ []) (hsettled : Reads.Settled capacity headRequest read reason) :
    reason.endsWhole = true ↔ (read.take capacity).length < capacity ∧
      Http.framing headRequest (read.take capacity) ≠ .incomplete := by
  have htake (hless : read.length < capacity) : read.take capacity = read :=
    List.take_of_length_le (Nat.le_of_lt hless)
  cases reason with
  | framed | drained =>
    obtain ⟨hless, hframing⟩ := hsettled
    simp [htake hless, hless, hframing, ReadEnd.endsWhole]
  | bufferFull =>
    have hfull : capacity ≤ read.length := hsettled
    have hlength : (read.take capacity).length = capacity := List.length_take_of_le hfull
    simp [hlength, ReadEnd.endsWhole]
  | peerClosed | timedOut | failed =>
    obtain ⟨hless, hopen⟩ := hsettled
    simp [htake hless, hopen.resolve_left hread, ReadEnd.endsWhole]

/-- What a round trip comes to that has read something, or nothing, and has kept the connection if
reading stopped at the framing. -/
theorem stands_of_settled {before after : List Event} {data read : Bytes} {reason : ReadEnd}
    {connected : Bool} (hcapacity : 0 < settings.capacity)
    (hsettled : Reads.Settled settings.capacity (Http.isHeadRequest data) read reason)
    (hread : Task.received after = read) (hafter : ∀ e ∈ after, e.isWrite = false)
    (hconnected : connected = reason.endsWhole) :
    Stands settings.capacity (before ++ .write data .written :: after) connected
      (result settings read reason) := by
  unfold result
  split
  next hnil =>
    subst hnil
    -- Nothing is not whole.
    cases reason with
    | framed | drained => exact absurd (hsettled.2.symm.trans (Http.framing_nil _)) (by simp)
    | _ => exact hconnected
  next hne =>
    have htake : read.take settings.capacity ≠ [] := by
      rw [Ne, List.take_eq_nil_iff]
      rintro (hzero | hnil)
      · omega
      · exact hne hnil
    refine ⟨htake, before, data, after, rfl, hafter, by rw [hread], ?_⟩
    rw [hconnected]
    exact endsWhole_iff hne hsettled

theorem stands_of_settles {before after : List Event} {data : Bytes} {outcome : WriteOutcome}
    {out : Except Failure Bytes} (hcapacity : 0 < settings.capacity)
    (h : Settles settings (Http.isHeadRequest data) outcome after link' out) :
    Stands settings.capacity (before ++ .write data outcome :: after) link'.connected out := by
  have hwrites {es : List Event} (hes : ∀ e ∈ es, e.isReading = true) :
      ∀ e ∈ es, e.isWrite = false := fun e he => Event.isWrite_of_isReading (hes e he)
  cases h with
  | writeFailed _ hlink => exact hlink
  | writeTimedOut hlink => exact hlink
  | @kept _ es read reason hreads hwhole hlink =>
    have hsettled := hreads.settled hcapacity (.inl rfl)
    exact stands_of_settled hcapacity hsettled hreads.eq_append_received.symm
      (hwrites hreads.isReading) (hlink.trans hwhole.symm)
  | @dropped _ es read reason hreads hwhole hlink =>
    have hsettled := hreads.settled hcapacity (.inl rfl)
    have hreceived : Task.received (es ++ [.close]) = read := by
      rw [Task.received_append, hreads.eq_append_received]
      simp [Event.received]
    refine stands_of_settled hcapacity hsettled hreceived ?_ (hlink.trans hwhole.symm)
    simpa [or_imp, forall_and, Event.isWrite] using hwrites hreads.isReading

/-- **The law of one round trip**: a failure leaves no connection, and a response is what was read
last. -/
theorem stands_of_made (hcapacity : 0 < settings.capacity) {h : Hop}
    (hmade : Made target settings h) :
    Stands settings.capacity h.events h.after.connected h.result := by
  obtain ⟨why, hopens, hresult⟩ | ⟨opening, ready, time, outcome, after, -, hevents, hsettles⟩ :=
    opens_or_settles_of_roundTrip hcapacity hmade
  · rw [hresult]
    exact hopens.connected_iff
  · rw [hevents, List.append_cons]
    exact stands_of_settles hcapacity hsettles

/-! ## Sends -/

/-- A send ends with a round trip, which its reply and the link that it leaves are those of. -/
theorem Chases.exists_last
    (h : Chases target settings redirects link request hops es link' reply) :
    ∃ last, ∃ before : List Event, ∃ dates : List Moment, Made target settings last ∧
      RepliesWith last.result reply ∧ link' = last.after ∧
      es = before ++ last.events ++ dates.map Event.date := by
  induction h with
  | failed today hmade hresult =>
    exact ⟨_, [], [today], hmade, hresult ▸ .failed _ today, rfl, rfl⟩
  | answered hmade hresult _ =>
    exact ⟨_, [], [], hmade, hresult ▸ .answered _, rfl, by simp⟩
  | @redirected _ h _ _ _ _ _ _ _ _ _ _ ih =>
    obtain ⟨last, before, dates, hmade, hreply, hlink, rfl⟩ := ih
    exact ⟨last, h.events ++ before, dates, hmade, hreply, hlink, by simp⟩

/-- What a send comes to in which certain things happened, with a certain client left. -/
structure Left (capacity : Nat) (es : List Event) (c : Client) (reply : Reply) : Prop where
  /-- Something is returned. -/
  nonempty : reply.response ≠ []
  /-- A made-up response is one by its looks, and there is no connection. -/
  madeUp : ∀ why response, reply = .failed why response →
    why.status.IsMadeUp response ∧ c.isConnected = false
  /-- A real one is what was read last, and there is a connection if nothing of it is missing. -/
  real : ∀ response, reply = .answered response → ReadLast capacity es c.isConnected response

/-- What the last round trip comes to is what the send comes to. -/
theorem Chases.left (hcapacity : 0 < settings.capacity) {c : Client}
    (h : Chases target settings redirects link request hops es c.link reply) :
    Left settings.capacity es c reply := by
  obtain ⟨last, before, dates, hmade, hreply, hlink, rfl⟩ := h.exists_last
  have hstands := stands_of_made hcapacity hmade
  rw [← hlink] at hstands
  cases hresult : last.result with
  | error why =>
    rw [hresult] at hstands hreply
    cases hreply with | failed _ today =>
    have hmadeUp := SyntheticStatus.isMadeUp_response why.status today
    refine ⟨hmadeUp.ne_nil, ?_, nofun⟩
    rintro why' response hsame
    obtain ⟨rfl, rfl⟩ := Reply.failed.inj hsame
    exact ⟨hmadeUp, hstands⟩
  | ok response =>
    rw [hresult] at hstands hreply
    cases hreply
    obtain ⟨hne, hlast⟩ := hstands
    refine ⟨hne, nofun, ?_⟩
    rintro response' hsame
    obtain rfl := Reply.answered.inj hsame
    exact hlast.extend before dates

/-- **After a send the client is in step with what the send returned.** This holds whatever it was
used for before and whatever the network does: there is a reply, and either it is made up and the
connection gone, or it is what was read since the last request was written, as much as fits, and the
connection is kept exactly if all of it fits and it is not known to be incomplete. The same is true
of `get`, which is a send. -/
theorem send_left {c : Client} (h : Used target settings c) (request : Bytes) :
    (∀ net : Network, ∃ es c' reply, net.Allows [] es ∧ (c.send request).Runs es (c', reply)) ∧
      ∀ es c' reply, (c.send request).Runs es (c', reply) →
        Left settings.completed.capacity es c' reply := by
  obtain ⟨link, rfl⟩ := h.eq_create
  refine ⟨fun net => ?_, fun es c' reply hsend => ?_⟩
  · obtain ⟨es, ⟨c', reply⟩, hnet, hruns⟩ := Task.exists_runs net [] (send _ request)
    exact ⟨es, c', reply, hnet, hruns⟩
  · obtain ⟨link', hops, rfl, hchases⟩ := exists_chases_of_send hsend
    exact hchases.left (capacity_completed_pos settings)

/-! ## A buffer that was used before

A client gets a response, drops its connection, and then gets the first bytes of another one before
the target breaks off. The buffer still holds the rest of the first response.
-/

/-- The first response is read whole. -/
def filledEvents : List Event :=
  [.close, .now 0, .dial "site:80" .connected, .now 1, .write rootRequest .written,
    .now 2, .read 100 (.received 0x48 (moved.drop 1))]

/-- The second one is not. -/
def cutShortEvents : List Event :=
  [.close, .now 3, .dial "site:80" .connected, .now 4, .write rootRequest .written,
    .now 5, .read 100 (.received 0x48 (Bytes.ofText "TTP/1.")), .now 6, .read 100 .ended, .close]

theorem send_left_cutShort :
    ∃ c c', Used site plain c ∧ c.link.buffer = moved ∧
      (c.send rootRequest).Runs cutShortEvents (c', .answered (noContent.take 7)) ∧
      c'.link.buffer = noContent.take 7 ++ moved.drop 7 ∧
      Left plain.completed.capacity cutShortEvents c' (.answered (noContent.take 7)) := by
  have hfirst : ((create site plain).get "/").Runs filledEvents
      (⟨site, plain.completed, ⟨true, moved⟩, 0⟩, .answered moved) := by decide +kernel
  have hclose : (disconnect ⟨site, plain.completed, ⟨true, moved⟩, 0⟩).Runs [.close]
      ⟨site, plain.completed, ⟨false, moved⟩, 0⟩ := by decide +kernel
  have hsecond : (send ⟨site, plain.completed, ⟨false, moved⟩, 0⟩ rootRequest).Runs cutShortEvents
      (⟨site, plain.completed, ⟨false, noContent.take 7 ++ moved.drop 7⟩, 0⟩,
        .answered (noContent.take 7)) := by decide +kernel
  have hused := Used.disconnect (.get .new hfirst) hclose
  exact ⟨_, _, hused, rfl, hsecond, rfl, (send_left hused rootRequest).2 _ _ _ hsecond⟩

end HttpReplay.Client
