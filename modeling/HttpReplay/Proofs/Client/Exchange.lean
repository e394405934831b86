import HttpReplay.Proofs.Client.Session

/-!
What one round trip does to the wire.

A connection is only ever used again if nothing is on its way on it; this is what `InStep` asks of
link and wire, and it makes a round trip simple. Making the link ready reads nothing, and from the
write on there is nothing to read but the answer to the request just written (`run_made`). What is
read of it is a beginning, and what is left of it stays on its way exactly where the connection is
kept (`run_settles`).

Whether link and wire are in step *afterwards* is left open here. It depends on where the answer
ends, and thus on the target.
-/

set_option autoImplicit false

namespace HttpReplay

open HttpReplay.Task (Event)

namespace Wire

variable {server : Server} {w w' : Wire} {link link' : Link}

/-- Link and wire are in step: nothing is on its way on a connection that is held. -/
def InStep (link : Link) (w : Wire) : Prop := link.connected = true → w.pending = []

/-- A read brings nothing from a wire on which nothing is on its way. -/
theorem not_deliver_of_clear {most : Nat} {first : UInt8} {more : Bytes} (hw : w.pending = []) :
    w.deliver most (first :: more) = none := by
  simp [deliver, hw]

/-- Making a link ready takes no byte off the wire and leaves nothing on it. -/
theorem run_opens {es : List Event} {result : Except Failure Unit} {u : Wire}
    (h : Client.Opens link es link' result) (hstep : InStep link w)
    (hrun : w.run server es = some u) :
    u = w.cleared ∧ Task.received es = [] := by
  have cleared_of_dialing {dialing : List Event} {v : Wire}
      (hsilent : ∀ e ∈ dialing, e.isSilent = true)
      (h : v.run server (.close :: dialing) = some u) : u = v.cleared := by
    obtain ⟨v', hv, h⟩ := run_cons_eq_some h
    obtain rfl : v.cleared = v' := Option.some.inj hv
    exact run_silent_of_clear hsilent rfl h
  cases h with
  | alive time outcome hlink hended =>
    have hclear : w.pending = [] := hstep hlink
    have hself : w.cleared = w := by cases w; simp only [cleared] at hclear ⊢; rw [hclear]
    cases outcome with
    | received first more => simp [run, step, not_deliver_of_clear hclear] at hrun
    | ended => exact absurd rfl hended
    | failed reason => exact ⟨(Option.some.inj hrun).symm, rfl⟩
    | timedOut => exact ⟨by rw [hself]; exact (Option.some.inj hrun).symm, rfl⟩
  | replaced time _ hsilent _ =>
    refine ⟨cleared_of_dialing hsilent hrun, ?_⟩
    simp [Event.received, Task.received_of_silent hsilent]
  | fresh _ hsilent _ =>
    refine ⟨cleared_of_dialing hsilent hrun, ?_⟩
    simp [Event.received, Task.received_of_silent hsilent]

/-- Bytes that are read off one answer are a beginning of it and belong to its request, and so do
those that are left. -/
theorem taken_of_answering {k : Nat} {sent : Bytes} {taken rest : List (Nat × UInt8)}
    (h : answering k sent = taken ++ rest) :
    taken = answering k (taken.map Prod.snd) ∧ rest = answering k (rest.map Prod.snd) ∧
      sent = taken.map Prod.snd ++ rest.map Prod.snd := by
  refine ⟨?_, ?_, ?_⟩
  · have htake : taken = answering k (sent.take taken.length) := by
      rw [← take_answering, h, List.take_left]
    rw [htake, map_answering]
  · have hdrop : rest = answering k (sent.drop taken.length) := by
      rw [← drop_answering, h, List.drop_left]
    rw [hdrop, map_answering]
  · rw [← List.map_append, ← h, map_answering]

/-- What a read loop takes off a wire that holds one answer is a beginning of it. The rest stays,
unless a read failed. -/
theorem run_reads {capacity k : Nat} {headRequest : Bool} {sent all : Bytes} {es : List Event}
    {reason : ReadEnd} (hw : w.pending = answering k sent)
    (hreads : Reading.Reads capacity headRequest [] es all reason)
    (hrun : w.run server es = some w') :
    all = Task.received es ∧ w'.delivered = w.delivered ++ answering k (Task.received es) ∧
      ∃ rest, sent = all ++ rest ∧
        (w'.pending = answering k rest ∨ w'.pending = [] ∧ ∃ why, reason = .failed why) := by
  obtain ⟨taken, left, hsplit, hbytes, -, hdelivered, hpending⟩ :=
    run_reading hreads.isReading hrun
  obtain ⟨htaken, hleft, hparts⟩ := taken_of_answering (hw.symm.trans hsplit)
  have hall : all = Task.received es := hreads.eq_append_received
  refine ⟨hall, by rw [hdelivered, htaken, hbytes], left.map Prod.snd, ?_, ?_⟩
  · rw [hparts, hbytes, hall]
  · rcases hpending with hkept | ⟨hnone, most, why, hmem⟩
    · exact .inl (hkept.trans hleft)
    · exact .inr ⟨hnone, why, hreads.reason_of_mem rfl hmem⟩

/-- What becomes of the wire from the write on, if nothing but the answer is on its way: either
nothing is read at all and the connection is gone, or the read loop takes a beginning of the answer
and the rest stays on its way where the connection is kept. -/
theorem run_settles {settings : Client.Settings} {headRequest : Bool} {outcome : WriteOutcome}
    {rest : List Event} {out : Except Failure Bytes} {k : Nat} {sent : Bytes}
    (hcapacity : 0 < settings.capacity)
    (h : Client.Settles settings headRequest outcome rest link' out)
    (hw : w.pending = answering k sent) (hrun : w.run server rest = some w') :
    w'.delivered = w.delivered ++ answering k (Task.received rest) ∧
      ((Task.received rest = [] ∧ (∃ why, out = .error why) ∧ link'.connected = false ∧
          w'.pending = []) ∨
        ∃ (reason : ReadEnd) (left : Bytes), sent = Task.received rest ++ left ∧
          Reading.Reads.Settled settings.capacity headRequest (Task.received rest) reason ∧
          out = Client.result settings (Task.received rest) reason ∧
          link'.connected = reason.endsWhole ∧
          w'.pending = if reason.endsWhole then answering k left else []) := by
  cases h with
  | writeFailed reason hlink | writeTimedOut hlink =>
    obtain rfl : w.cleared = w' := Option.some.inj hrun
    exact ⟨by simp [cleared, Event.received, answering], .inl ⟨rfl, ⟨_, rfl⟩, hlink, rfl⟩⟩
  | kept hreads hwhole hlink =>
    rename_i all reason
    obtain ⟨rfl, hdelivered, left, hsplit, hpending⟩ := run_reads hw hreads hrun
    have hsettled := hreads.settled hcapacity (.inl rfl)
    refine ⟨hdelivered, .inr ⟨reason, left, hsplit, hsettled, rfl, hlink.trans hwhole.symm, ?_⟩⟩
    -- The loop did not end by a failure, so what it has not read is still on its way.
    rw [if_pos hwhole]
    rcases hpending with hleft | ⟨-, why, rfl⟩
    · exact hleft
    · cases hwhole
  | dropped hreads hwhole hlink =>
    rename_i es all reason
    obtain ⟨u, hu, hclose⟩ := run_append_eq_some hrun
    obtain rfl : u.cleared = w' := Option.some.inj hclose
    obtain ⟨rfl, hdelivered, left, hsplit, -⟩ := run_reads hw hreads hu
    have hreceived : Task.received (es ++ [Event.close]) = Task.received es := by
      rw [Task.received_append]
      exact List.append_nil _
    rw [hreceived]
    have hsettled := hreads.settled hcapacity (.inl rfl)
    refine ⟨hdelivered, .inr ⟨reason, left, hsplit, hsettled, rfl, hlink.trans hwhole.symm, ?_⟩⟩
    rw [hwhole]
    rfl

/-- What becomes of the wire in a round trip that begins in step with it: either nothing is written,
or the request is written to a wire on which nothing is on its way. -/
theorem run_made {target : Target} {settings : Client.Settings} (hcapacity : 0 < settings.capacity)
    {h : Hop} (hmade : Client.Made target settings h) (hrun : w.run server h.events = some w')
    (hstep : InStep h.before w) :
    Task.received h.opening = [] ∧
      ((h.exchange = [] ∧ w'.delivered = w.delivered ∧ (∃ why, h.result = .error why) ∧
          h.after.connected = false) ∨
        ∃ (outcome : WriteOutcome) (rest : List Event) (u : Wire),
          h.exchange = .write (Client.wire target settings h.request) outcome :: rest ∧
          u.delivered = w.delivered ∧
          u.pending = answering w.asked
            (server w.asked (Client.wire target settings h.request)).sent ∧
          u.run server rest = some w' ∧
          Client.Settles settings
            (Http.isHeadRequest (Client.wire target settings h.request)) outcome rest h.after
            h.result) := by
  rcases Client.opens_or_settles_of_roundTrip hcapacity hmade with
    ⟨why, hopens, hresult⟩ | ⟨opening, ready, time, outcome, rest, hopens, hevents, hsettles⟩
  · obtain ⟨rfl, hreceived⟩ := run_opens hopens hstep hrun
    obtain ⟨hopening, hexchange⟩ := Hop.opening_eq_events hopens.not_isWrite
    exact ⟨by rwa [hopening], .inl ⟨hexchange, rfl, ⟨why, hresult⟩, hopens.connected_iff⟩⟩
  · rw [hevents] at hrun
    obtain ⟨u, hu, hrun⟩ := run_append_eq_some hrun
    obtain ⟨rfl, hreceived⟩ := run_opens hopens hstep hu
    have hnone : ∀ e ∈ opening ++ [Event.now time], e.isWrite = false := by
      intro e he
      rcases List.mem_append.1 he with he | he
      · exact hopens.not_isWrite e he
      · rw [List.mem_singleton.1 he]
        rfl
    obtain ⟨hopening, hexchange⟩ := Hop.opening_eq_of_write (h := h) hnone
      (by rw [hevents, List.append_assoc]; rfl)
    obtain ⟨v, hnow, hrun⟩ := run_cons_eq_some hrun
    obtain rfl : w.cleared = v := Option.some.inj hnow
    obtain ⟨v, hwrite, hrun⟩ := run_cons_eq_some hrun
    obtain rfl := Option.some.inj hwrite
    refine ⟨?_, .inr ⟨outcome, rest, _, hexchange, ?_, ?_, hrun, hsettles⟩⟩
    · rw [hopening, Task.received_append, hreceived]
      rfl
    · rfl
    · rfl

end Wire
end HttpReplay
