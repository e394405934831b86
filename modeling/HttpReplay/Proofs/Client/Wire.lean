import HttpReplay.Proofs.Client.Trace

/-!
The way of the bytes from a target to a client.

A target is given by what it answers: a message for every request written to it, and the part of
the message that it ever sends. When the bytes arrive, in what portions, and whether the connection
stays open, stalls, ends or breaks down is not the target's to say but the list of events', so a
statement about all lists of events covers all of these.

Every byte on its way carries the number of the request that it answers, and keeps it when it is
read. `delivered` is thus a record of what the client read *and of which request it was the answer
to*, which is what a statement about mixed-up answers needs; the client itself cannot see the
numbers. That a request's whole answer is on its way as soon as the request is written loses no
behaviour: what has not been read yet may as well be late.

The wire allows more than a real connection does. A stream may be reported as ended with bytes left,
and a connection that failed may be written to again. What holds here holds there.
-/

set_option autoImplicit false

namespace HttpReplay

/-- What a target answers a request with. -/
structure Answer where
  message : Bytes
  sent : Bytes
  deriving DecidableEq, Repr

/-- A target: its answer to the request with a number, counted from zero, and with certain bytes. -/
abbrev Server := Nat → Bytes → Answer

/-- The bytes between a target and a client. -/
structure Wire where
  /-- How many requests have been written. -/
  asked : Nat
  /-- The bytes that the present connection may still bring, each with its request. -/
  pending : List (Nat × UInt8)
  /-- The bytes that were read, each with its request, the first first. -/
  delivered : List (Nat × UInt8)
  deriving DecidableEq, Repr

namespace Wire

/-- The wire before the first connection. -/
def idle : Wire := ⟨0, [], []⟩

/-- Bytes that answer request `k`. -/
def answering (k : Nat) (data : Bytes) : List (Nat × UInt8) := data.map fun b => (k, b)

/-- Bytes are read: the next ones on their way, and no more than were asked for. -/
def deliver (w : Wire) (most : Nat) (data : Bytes) : Option Wire :=
  if data.length ≤ most ∧ data <+: w.pending.map Prod.snd then
    some { w with
      pending := w.pending.drop data.length
      delivered := w.delivered ++ w.pending.take data.length }
  else none

/-- The wire of a connection that is no more, or of a new one. -/
def cleared (w : Wire) : Wire := { w with pending := [] }

/-- What an operation of the client does to the wire; none where it cannot have that outcome. -/
def step (server : Server) (w : Wire) : Task.Event → Option Wire
  -- A request is answered even if the client takes its write for a failure: it may have come
  -- through.
  | .write data _ =>
    some { w with
      asked := w.asked + 1
      pending := w.pending ++ answering w.asked (server w.asked data).sent }
  | .read most (.received first more) => w.deliver most (first :: more)
  -- A connection that breaks down takes what was on its way with it, and a new one brings nothing.
  | .read _ (.failed _) | .dial _ .connected | .close => some w.cleared
  | _ => some w

def run (server : Server) (w : Wire) : List Task.Event → Option Wire
  | [] => some w
  | e :: es => (w.step server e).bind fun w' => w'.run server es

variable {server : Server} {w w' : Wire} {es fs : List Task.Event}

theorem run_append :
    w.run server (es ++ fs) = (w.run server es).bind fun u => u.run server fs := by
  induction es generalizing w with
  | nil => rfl
  | cons e es ih =>
    simp only [List.cons_append, run, Option.bind_assoc, ih]

/-- A run of two lists passes through a wire in between. -/
theorem run_append_eq_some (h : w.run server (es ++ fs) = some w') :
    ∃ u, w.run server es = some u ∧ u.run server fs = some w' := by
  rw [run_append] at h
  exact Option.bind_eq_some_iff.1 h

theorem run_cons_eq_some {e : Task.Event} (h : w.run server (e :: es) = some w') :
    ∃ u, w.step server e = some u ∧ u.run server es = some w' :=
  Option.bind_eq_some_iff.1 h

@[simp] theorem map_answering (k : Nat) (data : Bytes) :
    (answering k data).map Prod.snd = data := by
  simp [answering, Function.comp_def]

/-- The bytes of one answer are cut like the answer. -/
theorem take_answering (k n : Nat) (data : Bytes) :
    (answering k data).take n = answering k (data.take n) := by
  simp [answering, List.map_take]

theorem drop_answering (k n : Nat) (data : Bytes) :
    (answering k data).drop n = answering k (data.drop n) := by
  simp [answering, List.map_drop]

/-! ## What single operations change -/

/-- An operation that neither sends nor receives leaves what was read, and may clear the rest. -/
theorem step_silent {e : Task.Event} (he : e.isSilent = true) (h : w.step server e = some w') :
    w' = w ∨ w' = w.cleared := by
  cases e with
  | now | date => exact .inl (Option.some.inj h).symm
  | dial address outcome =>
    cases outcome with
    | connected => exact .inr (Option.some.inj h).symm
    | _ => exact .inl (Option.some.inj h).symm
  | handshake => exact .inl (Option.some.inj h).symm
  | close => exact .inr (Option.some.inj h).symm
  | write | read => simp [Task.Event.isSilent] at he

theorem run_silent (hes : ∀ e ∈ es, e.isSilent = true) (h : w.run server es = some w') :
    w' = w ∨ w' = w.cleared := by
  induction es generalizing w with
  | nil => exact .inl (Option.some.inj h).symm
  | cons e es ih =>
    obtain ⟨u, hu, hrun⟩ := run_cons_eq_some h
    have hrest := ih (fun x hx => hes x (List.mem_cons_of_mem _ hx)) hrun
    rcases step_silent (hes e List.mem_cons_self) hu with rfl | rfl
    · exact hrest
    · rcases hrest with rfl | rfl
      · exact .inr rfl
      · exact .inr rfl

/-- Operations that neither send nor receive find a clear wire and leave it as it is. -/
theorem run_silent_of_clear (hes : ∀ e ∈ es, e.isSilent = true) (hw : w.pending = [])
    (h : w.run server es = some w') : w' = w := by
  rcases run_silent hes h with rfl | rfl
  · rfl
  · cases w
    simp only [cleared] at hw ⊢
    rw [hw]

/-- A read takes the next bytes on their way; only a failure loses any. -/
theorem step_reading {e : Task.Event} (he : e.isReading = true) (h : w.step server e = some w') :
    ∃ rest, w.pending = w.pending.take e.received.length ++ rest ∧
      (w.pending.take e.received.length).map Prod.snd = e.received ∧
      w'.asked = w.asked ∧ w'.delivered = w.delivered ++ w.pending.take e.received.length ∧
      (w'.pending = rest ∨
        w'.pending = [] ∧ ∃ most reason, e = .read most (.failed reason)) := by
  refine ⟨w.pending.drop e.received.length, (List.take_append_drop _ _).symm, ?_⟩
  cases e with
  | now =>
    cases h
    simp [Task.Event.received]
  | read most outcome =>
    cases outcome with
    | received first more =>
      simp only [step, deliver, Option.ite_none_right_eq_some, Option.some.injEq] at h
      obtain ⟨⟨-, hprefix⟩, rfl⟩ := h
      refine ⟨?_, rfl, rfl, .inl rfl⟩
      rw [List.map_take]
      exact (List.prefix_iff_eq_take.1 hprefix).symm
    | failed reason =>
      cases h
      simp [Task.Event.received, cleared]
    | ended | timedOut =>
      cases h
      simp [Task.Event.received]
  | write | dial | handshake | date | close => simp [Task.Event.isReading] at he

/-- Reads take bytes in the order in which they are on their way. What is left stays, unless a read
failed. -/
theorem run_reading (hes : ∀ e ∈ es, e.isReading = true) (h : w.run server es = some w') :
    ∃ taken rest, w.pending = taken ++ rest ∧ taken.map Prod.snd = Task.received es ∧
      w'.asked = w.asked ∧ w'.delivered = w.delivered ++ taken ∧
      (w'.pending = rest ∨
        w'.pending = [] ∧ ∃ most reason, .read most (.failed reason) ∈ es) := by
  induction es generalizing w with
  | nil =>
    refine ⟨[], w.pending, rfl, rfl, ?_⟩
    cases h
    simp
  | cons e es ih =>
    obtain ⟨u, hu, hrun⟩ := run_cons_eq_some h
    obtain ⟨rest, hsplit, hbytes, hasked, hdelivered, hpending⟩ :=
      step_reading (hes e List.mem_cons_self) hu
    obtain ⟨taken, left, hsplit', hbytes', hasked', hdelivered', hpending'⟩ :=
      ih (fun x hx => hes x (List.mem_cons_of_mem _ hx)) hrun
    generalize w.pending.take e.received.length = first at *
    have hall : Task.received (e :: es) = (first ++ taken).map Prod.snd := by
      rw [Task.received_cons, List.map_append, hbytes, hbytes']
    have hread : w'.delivered = w.delivered ++ (first ++ taken) := by
      rw [hdelivered', hdelivered, List.append_assoc]
    rcases hpending with hkept | ⟨hlost, most, reason, rfl⟩
    · refine ⟨first ++ taken, left, ?_, hall.symm, hasked'.trans hasked, hread, ?_⟩
      · rw [hsplit, ← hkept, hsplit', List.append_assoc]
      · rcases hpending' with hleft | ⟨hnone, most, reason, hmem⟩
        · exact .inl hleft
        · exact .inr ⟨hnone, most, reason, List.mem_cons_of_mem _ hmem⟩
    · -- After a failure nothing is on its way, so nothing more can have been taken.
      obtain ⟨rfl, rfl⟩ : taken = [] ∧ left = [] := by
        rw [hlost] at hsplit'
        exact List.append_eq_nil_iff.1 hsplit'.symm
      refine ⟨first ++ [], rest, by rw [List.append_nil]; exact hsplit, hall.symm,
        hasked'.trans hasked, hread, .inr ⟨?_, most, reason, List.mem_cons_self⟩⟩
      rcases hpending' with hleft | ⟨hnone, -⟩
      · exact hleft
      · exact hnone

end Wire
end HttpReplay
