import HttpReplay.Proofs.Client.RoundTrip
import HttpReplay.Proofs.Client.Wire
import Mathlib.Data.List.TakeWhile

/-!
A client's sends, taken apart into round trips.

`Sends` is what a caller sees of a client that is used again and again: requests, replies and, in
between, whatever the network did. Each reply is the result of the last of several round trips, one
for each redirect followed, and the others cannot be seen from outside. `Trips` lists them all, and
`exists_trips_of_sends` says that every run of sends is made of such a list and nothing else.

`Along` then takes a wire through the list: a law about single round trips that holds along it holds
of every round trip, with the wire as it was before and as it is after it. `Along.of_chained` is the
induction by which such laws are proved.
-/

set_option autoImplicit false

namespace HttpReplay

open HttpReplay.Task (Event runs_done_iff runs_of_bind)

/-- A round trip that was made: what it began with, what happened, and what it came to. -/
structure Hop where
  before : Link
  request : Bytes
  events : List Event
  after : Link
  result : Except Failure Bytes

namespace Hop

/-- What happened before anything was written: the probe, and connecting. -/
def opening (h : Hop) : List Event := h.events.takeWhile (!·.isWrite)

/-- What happened from the write of the request on; nothing if it did not come to that. -/
def exchange (h : Hop) : List Event := h.events.dropWhile (!·.isWrite)

/-- Events without a write are all opening. -/
theorem opening_eq_events {h : Hop} (hnone : ∀ e ∈ h.events, e.isWrite = false) :
    h.opening = h.events ∧ h.exchange = [] := by
  have hall : ∀ e ∈ h.events, (!e.isWrite) = true := fun e he => by rw [hnone e he]; rfl
  refine ⟨List.takeWhile_eq_self_iff.2 hall, List.dropWhile_eq_nil_iff.2 hall⟩

/-- The first write ends the opening. -/
theorem opening_eq_of_write {h : Hop} {opening rest : List Event} {data : Bytes}
    {outcome : WriteOutcome} (hnone : ∀ e ∈ opening, e.isWrite = false)
    (hevents : h.events = opening ++ .write data outcome :: rest) :
    h.opening = opening ∧ h.exchange = .write data outcome :: rest := by
  have hall : ∀ e ∈ opening, (!e.isWrite) = true := fun e he => by rw [hnone e he]; rfl
  have hwrite : (!(Event.write data outcome).isWrite) = false := rfl
  constructor
  · rw [Hop.opening, hevents, List.takeWhile_append_of_pos hall,
      List.takeWhile_cons_of_neg (by rw [hwrite]; simp), List.append_nil]
  · rw [Hop.exchange, hevents, List.dropWhile_append_of_pos hall,
      List.dropWhile_cons_of_neg (by rw [hwrite]; simp)]

end Hop

namespace Client

/-- Whether a hop is a run of a round trip of a client with this target and these settings. -/
def Made (target : Target) (settings : Settings) (h : Hop) : Prop :=
  (roundTrip target settings h.before h.request).Runs h.events (h.after, h.result)

/-- How a request is chased through redirects: the hops, everything that happened, the link that is
left and the reply. -/
inductive Chases (target : Target) (settings : Settings) :
    Nat → Link → Bytes → List Hop → List Event → Link → Reply → Prop
  /-- A round trip failed, and the reply is made up. -/
  | failed {redirects : Nat} {h : Hop} {why : Failure} (today : Moment) :
      Made target settings h → h.result = .error why →
      Chases target settings redirects h.before h.request [h] (h.events ++ [.date today]) h.after
        (.failed why (why.status.response today))
  /-- A response is the reply. -/
  | answered {redirects : Nat} {h : Hop} {response : Bytes} :
      Made target settings h → h.result = .ok response →
      redirectRequest? settings redirects response = none →
      Chases target settings redirects h.before h.request [h] h.events h.after (.answered response)
  /-- A response is a redirect that is followed. -/
  | redirected {redirects : Nat} {h : Hop} {hops : List Hop} {es : List Event} {link : Link}
      {reply : Reply} {response next : Bytes} :
      Made target settings h → h.result = .ok response →
      redirectRequest? settings redirects response = some next →
      Chases target settings (redirects + 1) h.after next hops es link reply →
      Chases target settings redirects h.before h.request (h :: hops) (h.events ++ es) link reply

theorem exists_chases_of_chase {target : Target} {settings : Settings} {redirects count : Nat}
    {link link' : Link} {request : Bytes} {es : List Event} {reply : Reply}
    (h : (chase target settings redirects link request).Runs es (link', count, reply)) :
    count = 0 ∧ ∃ hops, Chases target settings redirects link request hops es link' reply := by
  -- The induction is on the redirects that may still be followed.
  induction hleft : settings.redirectLimit - redirects using Nat.strongRecOn
    generalizing redirects link request es with
  | ind left ih =>
    rw [chase] at h
    obtain ⟨us, vs, ⟨after, result⟩, rfl, htrip, h⟩ := runs_of_bind h
    have hmade : Made target settings ⟨link, request, us, after, result⟩ := htrip
    cases result with
    | error why =>
      -- The made-up reply carries the date, so that is looked at once more.
      simp only at h
      cases h with | date today h =>
      simp only [runs_done_iff, Prod.mk.injEq] at h
      obtain ⟨rfl, rfl, rfl, rfl⟩ := h
      exact ⟨rfl, [_], .failed today hmade rfl⟩
    | ok response =>
      simp only at h
      split at h
      next hnone =>
        simp only [runs_done_iff, Prod.mk.injEq] at h
        obtain ⟨rfl, rfl, rfl, rfl⟩ := h
        rw [List.append_nil]
        exact ⟨rfl, [_], .answered hmade rfl hnone⟩
      next next hsome =>
        have hless := lt_of_redirectRequest? hsome
        obtain ⟨hcount, hops, hchases⟩ := ih _ (by omega) h rfl
        exact ⟨hcount, _ :: hops, .redirected hmade rfl hsome hchases⟩

/-! ## Sends in a row -/

/-- What a client was sent and what it replied, with everything that happened meanwhile. -/
inductive Sends : Client → List (Bytes × Reply) → List Event → Client → Prop
  | nil (c : Client) : Sends c [] [] c
  | cons {c c₁ c' : Client} {request : Bytes} {reply : Reply} {log : List (Bytes × Reply)}
      {es fs : List Event} :
      (c.send request).Runs es (c₁, reply) → Sends c₁ log fs c' →
      Sends c ((request, reply) :: log) (es ++ fs) c'

/-- The same with the round trips that the sends consisted of. -/
inductive Trips : Client → List (Bytes × Reply) → List Hop → List Event → Client → Prop
  | nil (c : Client) : Trips c [] [] [] c
  | cons {c c' : Client} {request : Bytes} {reply : Reply} {log : List (Bytes × Reply)}
      {hops more : List Hop} {es fs : List Event} {link : Link} :
      Chases c.target c.settings c.redirects c.link request hops es link reply →
      Trips { c with link, redirects := 0 } log more fs c' →
      Trips c ((request, reply) :: log) (hops ++ more) (es ++ fs) c'

/-- A send is one request that is chased. It changes nothing of the client but its link, and leaves
no redirects counted. -/
theorem exists_chases_of_send {c c' : Client} {request : Bytes} {es : List Event} {reply : Reply}
    (h : (c.send request).Runs es (c', reply)) :
    ∃ link hops, c' = { c with link, redirects := 0 } ∧
      Chases c.target c.settings c.redirects c.link request hops es link reply := by
  obtain ⟨us, vs, ⟨link, redirects, reply'⟩, rfl, hchase, hdone⟩ := runs_of_bind h
  simp only [runs_done_iff, Prod.mk.injEq] at hdone
  obtain ⟨rfl, rfl, rfl⟩ := hdone
  obtain ⟨rfl, hops, hchases⟩ := exists_chases_of_chase hchase
  rw [List.append_nil]
  exact ⟨link, hops, rfl, hchases⟩

/-- **Every run of sends consists of round trips.** -/
theorem exists_trips_of_sends {c c' : Client} {log : List (Bytes × Reply)} {es : List Event}
    (h : Sends c log es c') : ∃ hops, Trips c log hops es c' := by
  induction h with
  | nil c => exact ⟨[], .nil c⟩
  | cons hsend _ ih =>
    obtain ⟨more, hmore⟩ := ih
    obtain ⟨link, hops, rfl, hchases⟩ := exists_chases_of_send hsend
    exact ⟨hops ++ more, .cons hchases hmore⟩

/-! ## Clients in use -/

/-- The states that a client of a target can come to be in, whatever it is used for and whatever
happens to its connections. -/
inductive Used (target : Target) (settings : Settings) : Client → Prop
  | new : Used target settings (create target settings)
  | send {c c' : Client} {request : Bytes} {es : List Event} {reply : Reply} :
      Used target settings c → (c.send request).Runs es (c', reply) → Used target settings c'
  | get {c c' : Client} {path : String} {es : List Event} {reply : Reply} :
      Used target settings c → (c.get path).Runs es (c', reply) → Used target settings c'
  | reconnect {c c' : Client} {es : List Event} {result : Except Failure Unit} :
      Used target settings c → c.reconnect.Runs es (c', result) → Used target settings c'
  | disconnect {c c' : Client} {es : List Event} :
      Used target settings c → c.disconnect.Runs es c' → Used target settings c'
  | isAlive {c : Client} {es : List Event} {alive : Bool} :
      Used target settings c → c.isAlive.Runs es alive → Used target settings c

/-- Of a client in use nothing but its link is ever different from what it was when it was new. -/
theorem Used.eq_create {target : Target} {settings : Settings} {c : Client}
    (h : Used target settings c) : ∃ link, c = { create target settings with link } := by
  induction h with
  | new => exact ⟨_, rfl⟩
  | send _ hsend ih | get _ hsend ih =>
    obtain ⟨link, rfl⟩ := ih
    obtain ⟨link', hops, rfl, -⟩ := exists_chases_of_send hsend
    exact ⟨link', rfl⟩
  | reconnect _ hconnect ih =>
    obtain ⟨link, rfl⟩ := ih
    obtain ⟨us, vs, ⟨link', result⟩, -, -, hdone⟩ := runs_of_bind hconnect
    simp only [runs_done_iff, Prod.mk.injEq] at hdone
    obtain ⟨-, rfl, -⟩ := hdone
    exact ⟨link', rfl⟩
  | disconnect _ hclose ih =>
    obtain ⟨link, rfl⟩ := ih
    cases hclose with | close hdone =>
    obtain ⟨-, rfl⟩ := runs_done_iff.1 hdone
    exact ⟨link.dropped, rfl⟩
  | isAlive _ _ ih => exact ih

/-! ## Round trips in a row -/

/-- Round trips in a row, each of which begins with the link that the one before it left. -/
inductive Chained (target : Target) (settings : Settings) : Link → List Hop → Link → Prop
  | nil (link : Link) : Chained target settings link [] link
  | cons {h : Hop} {hops : List Hop} {link' : Link} :
      Made target settings h → Chained target settings h.after hops link' →
      Chained target settings h.before (h :: hops) link'

variable {target : Target} {settings : Settings}

theorem Chained.append {link mid link' : Link} {hops more : List Hop}
    (h : Chained target settings link hops mid) (hmore : Chained target settings mid more link') :
    Chained target settings link (hops ++ more) link' := by
  induction h with
  | nil => exact hmore
  | cons hmade _ ih => exact .cons hmade (ih hmore)

theorem Chases.chained {redirects : Nat} {link link' : Link} {request : Bytes} {hops : List Hop}
    {es : List Event} {reply : Reply}
    (h : Chases target settings redirects link request hops es link' reply) :
    Chained target settings link hops link' := by
  induction h with
  | failed _ hmade _ => exact .cons hmade (.nil _)
  | answered hmade _ _ => exact .cons hmade (.nil _)
  | redirected hmade _ _ _ ih => exact .cons hmade ih

theorem Trips.chained {c c' : Client} {log : List (Bytes × Reply)} {hops : List Hop}
    {es : List Event} (h : Trips c log hops es c') :
    Chained c.target c.settings c.link hops c'.link := by
  induction h with
  | nil c => exact .nil _
  | cons hchases _ ih => exact hchases.chained.append ih

end Client

/-! ## The wire along the round trips -/

namespace Wire

open Client (Made Chases Trips Chained)

variable {server : Server} {target : Target} {settings : Client.Settings} {w w' : Wire}

/-- What happens in a send takes the wire where its round trips take it: looking at the date does
nothing to it. -/
theorem run_of_chases {redirects : Nat} {link link' : Link} {request : Bytes} {hops : List Hop}
    {es : List Event} {reply : Reply}
    (h : Chases target settings redirects link request hops es link' reply)
    (hrun : w.run server es = some w') : w.run server (hops.flatMap Hop.events) = some w' := by
  induction h generalizing w with
  | failed today _ _ =>
    obtain ⟨u, hu, hdate⟩ := run_append_eq_some hrun
    obtain rfl : u = w' := Option.some.inj hdate
    rwa [List.flatMap_singleton]
  | answered => rwa [List.flatMap_singleton]
  | redirected _ _ _ _ ih =>
    obtain ⟨u, hu, hrest⟩ := run_append_eq_some hrun
    rw [List.flatMap_cons, run_append, hu]
    exact ih hrest

theorem run_of_trips {c c' : Client} {log : List (Bytes × Reply)} {hops : List Hop}
    {es : List Event} (h : Trips c log hops es c') (hrun : w.run server es = some w') :
    w.run server (hops.flatMap Hop.events) = some w' := by
  induction h generalizing w with
  | nil => exact hrun
  | cons hchases _ ih =>
    obtain ⟨u, hu, hrest⟩ := run_append_eq_some hrun
    rw [List.flatMap_append, run_append, run_of_chases hchases hu]
    exact ih hrest

/-- `Along server P w hops w'`: the round trips take the wire from `w` to `w'`, and the law `P`
holds of each of them between the wire before it and the wire after it. -/
inductive Along (server : Server) (P : Wire → Hop → Wire → Prop) :
    Wire → List Hop → Wire → Prop
  | nil (w : Wire) : Along server P w [] w
  | cons {w u w' : Wire} {h : Hop} {hops : List Hop} :
      w.run server h.events = some u → P w h u → Along server P u hops w' →
      Along server P w (h :: hops) w'

/-- **A law holds along round trips in a row** if it holds of every single one that begins in step
with the wire, and leaves link and wire in step again. `I` says what being in step means. -/
theorem Along.of_chained {P : Wire → Hop → Wire → Prop} {I : Link → Wire → Prop}
    (hlaw : ∀ (h : Hop) (w u : Wire), Made target settings h → w.run server h.events = some u →
      I h.before w → P w h u ∧ I h.after u)
    {link link' : Link} {hops : List Hop} (h : Chained target settings link hops link')
    (hrun : w.run server (hops.flatMap Hop.events) = some w') (hI : I link w) :
    Along server P w hops w' := by
  induction h generalizing w with
  | nil =>
    cases hrun
    exact .nil _
  | cons hmade _ ih =>
    rw [List.flatMap_cons] at hrun
    obtain ⟨u, hu, hrest⟩ := run_append_eq_some hrun
    obtain ⟨hp, hIu⟩ := hlaw _ w u hmade hu hI
    exact .cons hu hp (ih hrest hIu)

/-- One law follows from another along round trips in a row if it does so for every single one that
begins in step, and link and wire stay in step as long as the other law holds. -/
theorem Along.imp_of_chained {P Q : Wire → Hop → Wire → Prop} {I : Link → Wire → Prop}
    (hlaw : ∀ (h : Hop) (w u : Wire), Made target settings h → w.run server h.events = some u →
      I h.before w → P w h u → Q w h u ∧ I h.after u)
    {link link' : Link} {hops : List Hop} (h : Chained target settings link hops link')
    (hP : Along server P w hops w') (hI : I link w) : Along server Q w hops w' := by
  induction h generalizing w with
  | nil =>
    cases hP
    exact .nil _
  | cons hmade _ ih =>
    cases hP with
    | cons hu hp hrest =>
      obtain ⟨hq, hIu⟩ := hlaw _ w _ hmade hu hI hp
      exact .cons hu hq (ih hrest hIu)

end Wire
end HttpReplay
