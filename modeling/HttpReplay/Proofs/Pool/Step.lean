import HttpReplay.Replay.Pool
import Mathlib.Data.List.Induction

/-!
What a pool can do in one step, said once.

`Worker.Moves` and `Pool.Moves` list the steps, one constructor for each, with what they need and
what they change; `moves_of_step` says that there are no others. An invariant is then shown by going
through the list, and a change to one step touches one constructor and the cases about it.

`Pool.Reachable.induction` is the one induction over runs: what holds of the pool about to be opened
and is kept by every step of a reachable pool holds of every reachable pool.
-/

set_option autoImplicit false

namespace HttpReplay

open Pool (Shared Entry)

/-- What workers rely on of a later shared state: a pool that was told to stop stays so, and whoever
went away does not come back. -/
structure Pool.Shared.Later (shared shared' : Shared) : Prop where
  stopped : shared.stopped = true → shared'.stopped = true
  held : shared'.held = true → shared.held = true

theorem Pool.Shared.Later.not_stopped {shared shared' : Shared} (h : shared.Later shared')
    (hstopped : shared'.stopped = false) : shared.stopped = false :=
  Bool.eq_false_iff.2 fun hbefore => by simp [h.stopped hbefore] at hstopped

theorem Pool.Shared.Later.not_held {shared shared' : Shared} (h : shared.Later shared')
    (hheld : shared.held = false) : shared'.held = false :=
  Bool.eq_false_iff.2 fun hafter => by simp [h.held hafter] at hheld

/-- A count over a list where one element was replaced. -/
theorem Pool.countP_set_add {α : Type} {f : α → Bool} {l : List α} {k : Nat} {a b : α}
    (h : l[k]? = some a) :
    (l.set k b).countP f + (f a).toNat = l.countP f + (f b).toNat := by
  induction l generalizing k with
  | nil => cases h
  | cons c l ih =>
    cases k with
    | zero =>
      obtain rfl := Option.some.inj h
      simp only [List.set_cons_zero, List.countP_cons]
      cases f c <;> cases f b <;> simp
    | succ k =>
      have := ih (k := k) h
      simp only [List.set_cons_succ, List.countP_cons]
      omega

namespace Worker

variable {s : Pool.Settings} {target : Target} {k : Nat}

/-! ## Answered requests -/

/-- What a worker notes about a request that was answered, the latest first. -/
def replyEntries (s : Pool.Settings) (k : Nat) (payload : Bytes) (reply : Reply)
    (started stopped : Moment) : List Entry :=
  (if s.analytics then [.analyzed ⟨Payload.message payload, reply.response, started, stopped⟩]
    else []) ++ [.replayed k payload reply]

/-- What a worker does with the answer. -/
def replyPhase (s : Pool.Settings) (payload : Bytes) (reply : Reply) (roundTrip : Duration) :
    Phase :=
  match s.trackResponses, Payload.Header.decode? payload with
  | true, some header => .handingOver ⟨header.id, reply.response, roundTrip⟩
  | _, _ => .served

/-- An answer changes the log of the shared state, and the client and the phase of the worker. -/
theorem afterReply_eq (k : Nat) (payload : Bytes) (client : Client) (reply : Reply)
    (started stopped : Moment) (roundTrip : Duration) (shared : Shared) (w : Worker) :
    w.afterReply s k payload client reply started stopped roundTrip shared =
      ({ shared with log := replyEntries s k payload reply started stopped ++ shared.log },
        { w with client, phase := replyPhase s payload reply roundTrip }) := by
  unfold afterReply replyEntries replyPhase
  cases s.analytics <;> cases s.trackResponses <;> cases Payload.Header.decode? payload <;> rfl

/-! ## Steps of a worker -/

/-- The steps of worker `k`: the event, and what all workers share and the worker itself before and
after it. -/
inductive Moves (s : Pool.Settings) (target : Target) (k : Nat) :
    Event → Shared → Worker → Shared → Worker → Prop
  /-- It begins to wait. -/
  | rest {shared : Shared} {w : Worker} : w.phase = .resting →
      Moves s target k .proceed shared w
        { shared with counters := shared.counters.enterIdle } (w.goTo .waiting)
  /-- It lines up for the queue. -/
  | lineUp {shared : Shared} {w : Worker} : w.phase = .waiting → k ∉ shared.line →
      Moves s target k .lineUp shared w { shared with line := shared.line ++ [k] } w
  /-- It takes the oldest payload. -/
  | take {shared : Shared} {w : Worker} {line : List Nat} {payload : Bytes} {queue : List Bytes} :
      w.phase = .waiting → shared.line = k :: line → shared.queue = payload :: queue →
      Moves s target k .take shared w
        ({ shared with queue, line }.noting (.taken k w.rotations payload))
        (w.goTo (.woken (.payload payload)))
  /-- Its wait ends for lack of work. -/
  | expire {shared : Shared} {w : Worker} : w.phase = .waiting →
      Moves s target k .expire shared w (shared.leaveLine k) (w.goTo (.woken .timedOut))
  /-- Its wait ends for good. -/
  | stop {shared : Shared} {w : Worker} : w.phase = .waiting →
      shared.stopped = true ∨
        (shared.held = false ∧ shared.queue = [] ∧ shared.line.head? = some k) →
      Moves s target k .stop shared w (shared.leaveLine k) (w.goTo (.woken .stopped))
  /-- It stops counting as idle. -/
  | wake {shared : Shared} {w : Worker} {wake : Wake} : w.phase = .woken wake →
      Moves s target k .proceed shared w
        { shared with counters := shared.counters.leaveIdle } (w.afterWait s wake)
  /-- It sends the request of its payload. -/
  | serve {shared : Shared} {w : Worker} {payload : Bytes} : w.phase = .holding payload →
      Pool.isServable payload = true →
      Moves s target k .proceed shared w shared (w.goTo (.replaying payload))
  /-- It passes its payload over. -/
  | skip {shared : Shared} {w : Worker} {payload : Bytes} : w.phase = .holding payload →
      Pool.isServable payload = false →
      Moves s target k .proceed shared w shared (w.goTo .served)
  /-- Its request is answered. -/
  | reply {shared : Shared} {w : Worker} {payload : Bytes} (client : Client) (reply : Reply)
      (started stopped : Moment) (roundTrip : Duration) : w.phase = .replaying payload →
      Moves s target k (.replied client reply started stopped roundTrip) shared w
        { shared with log := replyEntries s k payload reply started stopped ++ shared.log }
        { w with client, phase := replyPhase s payload reply roundTrip }
  /-- It hands over a response. -/
  | deliver {shared : Shared} {w : Worker} {response : TrackedResponse} :
      w.phase = .handingOver response → shared.held = true →
      shared.responses.length < s.responseRoom →
      Moves s target k .deliver shared w
        ({ shared with responses := shared.responses ++ [response] }.noting (.tracked response))
        (w.goTo .served)
  /-- It gives up handing over a response. -/
  | giveUp {shared : Shared} {w : Worker} {response : TrackedResponse} :
      w.phase = .handingOver response → shared.stopped = true ∨ shared.held = false →
      Moves s target k .giveUp shared w shared (w.goTo .served)
  /-- It is done with a payload. -/
  | finish {shared : Shared} {w : Worker} : w.phase = .served →
      Moves s target k .proceed shared w shared (w.afterPayload s target)
  /-- It looks at the counters before it leaves. -/
  | consider {shared : Shared} {w : Worker} {why : Motive} : w.phase = .retiring why →
      Moves s target k .proceed shared w shared (w.consider s target why shared.counters.word)
  /-- It looks at the counters again. -/
  | reload {shared : Shared} {w : Worker} {why : Motive} {seen : UInt64} :
      w.phase = .swapping why seen →
      Moves s target k .reload shared w shared (w.consider s target why shared.counters.word)
  /-- It leaves. -/
  | leave {shared : Shared} {w : Worker} {why : Motive} :
      w.phase = .swapping why shared.counters.word →
      Moves s target k .swap shared w
        { shared with counters := shared.counters.retire } (w.leave why)
  /-- It sees whether too many others wait. -/
  | check {shared : Shared} {w : Worker} : w.phase = .checking →
      Moves s target k .proceed shared w shared (w.goTo
        (if s.isDynamic && 0 < s.idleWorkers && s.idleCeiling < shared.counters.idle then
          .retiring .surplus else .resting))
  /-- It lets the coordinator know that it has left. -/
  | report {shared : Shared} {w : Worker} : w.phase = .reporting →
      Moves s target k .proceed shared w (shared.ask 0) (w.goTo .gone)
  /-- It gives back its slot because it has to stop. -/
  | retire {shared : Shared} {w : Worker} : w.phase = .stopping →
      Moves s target k .proceed shared w
        { shared with counters := shared.counters.retire } (w.goTo .gone)

/-- **A worker has no other steps.** -/
theorem moves_of_step {e : Event} {shared shared' : Shared} {w w' : Worker}
    (h : w.step s target k shared e = some (shared', w')) :
    Moves s target k e shared w shared' w' := by
  cases e with
  | proceed =>
    simp only [step, proceed] at h
    split at h
    next hphase => cases h; exact .rest hphase
    next wake hphase => cases h; exact .wake hphase
    next payload hphase =>
      cases h
      cases hservable : Pool.isServable payload with
      | true => exact .serve hphase hservable
      | false => exact .skip hphase hservable
    next hphase => cases h; exact .finish hphase
    next why hphase => cases h; exact .consider hphase
    next hphase => cases h; exact .check hphase
    next hphase => cases h; exact .report hphase
    next hphase => cases h; exact .retire hphase
    all_goals cases h
  | lineUp =>
    simp only [step, Option.ite_none_right_eq_some] at h
    obtain ⟨⟨hphase, hline⟩, h⟩ := h
    cases h
    exact .lineUp hphase hline
  | take =>
    simp only [step] at h
    split at h
    next first line payload queue hphase hline hqueue =>
      simp only [Option.ite_none_right_eq_some] at h
      obtain ⟨rfl, h⟩ := h
      cases h
      exact .take hphase hline hqueue
    next => cases h
  | expire =>
    simp only [step, Option.ite_none_right_eq_some] at h
    obtain ⟨hphase, h⟩ := h
    cases h
    exact .expire hphase
  | stop =>
    simp only [step, Option.ite_none_right_eq_some] at h
    obtain ⟨⟨hphase, hover⟩, h⟩ := h
    cases h
    exact .stop hphase (by simpa using hover)
  | replied client reply started stopped roundTrip =>
    simp only [step] at h
    split at h
    next payload hphase =>
      rw [afterReply_eq] at h
      cases h
      exact .reply client reply started stopped roundTrip hphase
    next => cases h
  | deliver =>
    simp only [step] at h
    split at h
    next response hphase =>
      simp only [Option.ite_none_right_eq_some] at h
      obtain ⟨⟨hheld, hroom⟩, h⟩ := h
      cases h
      exact .deliver hphase hheld hroom
    next => cases h
  | giveUp =>
    simp only [step] at h
    split at h
    next response hphase =>
      simp only [Option.ite_none_right_eq_some] at h
      obtain ⟨hover, h⟩ := h
      cases h
      exact .giveUp hphase (by simpa using hover)
    next => cases h
  | swap =>
    simp only [step] at h
    split at h
    next why seen hphase =>
      simp only [Option.ite_none_right_eq_some] at h
      obtain ⟨rfl, h⟩ := h
      cases h
      exact .leave hphase
    next => cases h
  | reload =>
    simp only [step] at h
    split at h
    next why seen hphase => cases h; exact .reload hphase
    next => cases h

/-! ## Where a step leads

The phases that a worker can be in after those steps that decide about more than the phase. -/

theorem afterWait_phase (s : Pool.Settings) (w : Worker) (wake : Wake) :
    (∃ data, wake = .payload data ∧ (w.afterWait s wake).phase = .holding data) ∨
      (wake = .stopped ∧ (w.afterWait s wake).phase = .stopping) ∨
      (wake = .timedOut ∧ ((w.afterWait s wake).phase = .retiring .unused ∨
        (w.afterWait s wake).phase = .checking)) := by
  cases wake with
  | payload data => exact .inl ⟨data, rfl, rfl⟩
  | stopped => exact .inr (.inl ⟨rfl, rfl⟩)
  | timedOut =>
    refine .inr (.inr ⟨rfl, ?_⟩)
    simp only [afterWait]
    split
    · split
      · exact .inl rfl
      · exact .inr rfl
    · exact .inr rfl

theorem afterPayload_phase (s : Pool.Settings) (target : Target) (w : Worker) :
    (w.afterPayload s target).phase = .retiring .recycled ∨
      (w.afterPayload s target).phase = .checking := by
  simp only [afterPayload]
  split
  · split
    · exact .inl rfl
    · exact .inr rfl
  · exact .inr rfl

theorem consider_phase (s : Pool.Settings) (target : Target) (w : Worker) (why : Motive)
    (word : UInt64) :
    (Counters.mayRetire word = true ∧
        (w.consider s target why word).phase = .swapping why word) ∨
      (w.consider s target why word).phase = .checking ∨
      (w.consider s target why word).phase = .resting := by
  unfold consider
  split
  next hmay => exact .inl ⟨hmay, rfl⟩
  next => cases why <;> simp [stay, goTo]

theorem leave_phase (w : Worker) (why : Motive) :
    (w.leave why).phase = .reporting ∨ (w.leave why).phase = .gone := by
  cases why <;> simp [leave, goTo]

/-- Whether a worker in this phase is between two payloads: it holds a slot, does not wait and has
nothing in its hands. -/
def Phase.isBetween : Phase → Bool
  | .resting | .served | .checking | .retiring _ | .swapping _ _ => true
  | _ => false

theorem isBetween_afterPayload (s : Pool.Settings) (target : Target) (w : Worker) :
    (w.afterPayload s target).phase.isBetween = true := by
  obtain h | h := afterPayload_phase s target w <;> rw [h] <;> rfl

theorem isBetween_consider (s : Pool.Settings) (target : Target) (w : Worker) (why : Motive)
    (word : UInt64) : (w.consider s target why word).phase.isBetween = true := by
  obtain ⟨-, h⟩ | h | h := consider_phase s target w why word <;> rw [h] <;> rfl

theorem isBetween_check (surplus : Bool) :
    Phase.isBetween (if surplus then .retiring .surplus else .resting) = true := by
  cases surplus <;> rfl

theorem replyPhase_cases (s : Pool.Settings) (payload : Bytes) (reply : Reply)
    (roundTrip : Duration) :
    (∃ header, s.trackResponses = true ∧ Payload.Header.decode? payload = some header ∧
        replyPhase s payload reply roundTrip =
          .handingOver ⟨header.id, reply.response, roundTrip⟩) ∨
      replyPhase s payload reply roundTrip = .served := by
  unfold replyPhase
  split
  next header htrack hheader => exact .inl ⟨header, htrack, hheader, rfl⟩
  next => exact .inr rfl

theorem Moves.later {k : Nat} {e : Event} {shared shared' : Shared} {w w' : Worker}
    (h : Moves s target k e shared w shared' w') : shared.Later shared' := by
  cases h <;> exact ⟨id, id⟩

end Worker

namespace Pool

variable {s : Settings} {target : Target}

/-! ## Steps of a pool -/

/-- The steps of a pool: the event, and the pool before and after it. -/
inductive Moves (s : Settings) (target : Target) : Event → Pool → Pool → Prop
  /-- A request is written. -/
  | accept {p : Pool} {payload : Bytes} : p.isOpen = true → p.shared.held = true →
      Payload.isRequest payload = true → p.shared.queue.length < s.queueRoom →
      Moves s target (.write payload) p
        { p with
          shared :=
            { p.shared with queue := p.shared.queue ++ [payload] }.noting (.accepted payload)
          writers := p.writers ++ [.measuring] }
  /-- Something else is written. -/
  | pass {p : Pool} {payload : Bytes} : p.isOpen = true → p.shared.held = true →
      Payload.isRequest payload = false → Moves s target (.write payload) p p
  /-- A writer looks how long the queue is. -/
  | measure {p : Pool} {i : Nat} : p.writers[i]? = some .measuring →
      Moves s target (.writer i) p
        { p with
          shared :=
            if s.stats then p.shared.noting (.depth p.shared.queue.length) else p.shared
          writers :=
            if s.isDynamic then p.writers.set i (.comparing p.shared.queue.length)
            else p.writers.eraseIdx i }
  /-- A writer compares the length of the queue with the number of workers. -/
  | compare {p : Pool} {i length : Nat} : p.writers[i]? = some (.comparing length) →
      Moves s target (.writer i) p
        { p with
          writers :=
            if p.shared.counters.active < length then p.writers.set i (.asking length)
            else p.writers.eraseIdx i }
  /-- A writer asks for more workers. -/
  | ask {p : Pool} {i length : Nat} : p.writers[i]? = some (.asking length) →
      Moves s target (.writer i) p
        { p with
          shared := (p.shared.ask length).noting (.asked length)
          writers := p.writers.eraseIdx i }
  /-- A worker takes a step. -/
  | worker {p : Pool} {k : Nat} {e : Worker.Event} {w w' : Worker} {shared' : Shared} :
      p.workers[k]? = some w → Worker.Moves s target k e p.shared w shared' w' →
      Moves s target (.worker k e) p { p with shared := shared', workers := p.workers.set k w' }
  /-- One of the first workers is started. -/
  | start {p : Pool} {left : Nat} : p.coordinator = .opening (left + 1) →
      Moves s target .coordinator p { p.spawn s target with coordinator := .opening left }
  /-- The pool has been opened. -/
  | opened {p : Pool} : p.coordinator = .opening 0 →
      Moves s target .coordinator p
        { p with coordinator := if s.isDynamic then .waiting else .off }
  /-- The coordinator takes a request for workers. -/
  | resize {p : Pool} {requested : Nat} : p.coordinator = .waiting →
      p.shared.resize = some requested →
      Moves s target .coordinator p
        { p with
          shared := { p.shared with resize := none }.noting (.resized requested)
          coordinator := .deciding requested }
  /-- The coordinator decides how many workers to start. -/
  | decide {p : Pool} {requested : Nat} : p.coordinator = .deciding requested →
      Moves s target .coordinator p
        { p with coordinator := .hiring (s.growth requested p.shared.counters.idle) }
  /-- The coordinator starts a worker. -/
  | hire {p : Pool} {left : Nat} : p.coordinator = .hiring (left + 1) →
      Moves s target .coordinator p { p.spawn s target with coordinator := .hiring left }
  /-- The coordinator has started all the workers it wanted. -/
  | hired {p : Pool} : p.coordinator = .hiring 0 →
      Moves s target .coordinator p { p with coordinator := .waiting }
  /-- The coordinator stops. -/
  | stopCoordinator {p : Pool} : p.coordinator = .waiting → p.shared.stopped = true →
      Moves s target .stopCoordinator p { p with coordinator := .off }
  /-- A response is read back. -/
  | read {p : Pool} {response : TrackedResponse} {responses : List TrackedResponse} :
      p.shared.responses = response :: responses →
      Moves s target .read p
        { p with shared := { p.shared with responses }.noting (.readBack response) }
  /-- Everything is told to stop. -/
  | stop {p : Pool} :
      Moves s target .stop p { p with shared := { p.shared with stopped := true } }
  /-- Whoever writes and reads goes away. -/
  | drop {p : Pool} : p.isOpen = true →
      Moves s target .drop p { p with shared := { p.shared with held := false, responses := [] } }

/-- **A pool has no other steps.** -/
theorem moves_of_step {e : Event} {p q : Pool} (h : p.step s target e = some q) :
    Moves s target e p q := by
  cases e with
  | write payload =>
    simp only [step, write, Bool.not_eq_true] at h
    split at h
    next => cases h
    next hopen =>
      simp only [not_or, Bool.not_eq_false] at hopen
      split at h
      next hrequest =>
        simp only [Option.ite_none_right_eq_some] at h
        obtain ⟨hroom, h⟩ := h
        cases h
        exact .accept hopen.1 hopen.2 hrequest hroom
      next hrequest =>
        cases h
        exact .pass hopen.1 hopen.2 (by simpa using hrequest)
  | writer i =>
    simp only [step, advanceWriter] at h
    split at h
    next => cases h
    next hwriter => cases h; exact .measure hwriter
    next length hwriter => cases h; exact .compare hwriter
    next length hwriter => cases h; exact .ask hwriter
  | worker k e =>
    simp only [step, advanceWorker] at h
    split at h
    next => cases h
    next w hw =>
      obtain ⟨⟨shared', w'⟩, hstep, h⟩ := Option.map_eq_some_iff.1 h
      cases h
      exact .worker hw (Worker.moves_of_step hstep)
  | coordinator =>
    simp only [step, coordinate] at h
    split at h
    next left hcoordinator => cases h; exact .start hcoordinator
    next hcoordinator => cases h; exact .opened hcoordinator
    next hcoordinator =>
      split at h
      next => cases h
      next requested hresize => cases h; exact .resize hcoordinator hresize
    next requested hcoordinator => cases h; exact .decide hcoordinator
    next left hcoordinator => cases h; exact .hire hcoordinator
    next hcoordinator => cases h; exact .hired hcoordinator
    next => cases h
  | stopCoordinator =>
    simp only [step, Option.ite_none_right_eq_some] at h
    obtain ⟨⟨hcoordinator, hstopped⟩, h⟩ := h
    cases h
    exact .stopCoordinator hcoordinator hstopped
  | read =>
    simp only [step] at h
    split at h
    next => cases h
    next response responses hresponses => cases h; exact .read hresponses
  | stop =>
    cases h
    exact .stop
  | drop =>
    simp only [step, Option.ite_none_right_eq_some] at h
    obtain ⟨hopen, h⟩ := h
    cases h
    exact .drop hopen

/-! ## What workers see of a step -/

/-- The steps of a pool by what they mean to its workers: one of them moves, there is one more, or
only something else changes. -/
inductive Staffing (s : Settings) (target : Target) : Event → Pool → Pool → Prop
  | worker {p : Pool} {k : Nat} {e : Worker.Event} {w w' : Worker} {shared' : Shared} :
      p.workers[k]? = some w → Worker.Moves s target k e p.shared w shared' w' →
      Staffing s target (.worker k e) p { p with shared := shared', workers := p.workers.set k w' }
  | spawn {p q : Pool} : q.workers = p.workers ++ [Worker.fresh s target] →
      q.shared = { p.shared with counters := p.shared.counters.register } →
      Staffing s target .coordinator p q
  | other {e : Event} {p q : Pool} : (∀ k f, e ≠ .worker k f) → q.workers = p.workers →
      q.shared.counters = p.shared.counters → p.shared.Later q.shared →
      Staffing s target e p q

theorem Moves.staffing {e : Event} {p q : Pool} (h : Moves s target e p q) :
    Staffing s target e p q := by
  cases h with
  | worker hw hmove => exact .worker hw hmove
  | start => exact .spawn rfl rfl
  | hire => exact .spawn rfl rfl
  | measure =>
    refine .other (by simp) rfl ?_ ?_
    · dsimp only
      split <;> rfl
    · dsimp only
      split <;> exact ⟨id, id⟩
  | stop => exact .other (by simp) rfl rfl ⟨fun _ => rfl, id⟩
  | drop => exact .other (by simp) rfl rfl ⟨id, by simp⟩
  | _ => exact .other (by simp) rfl rfl ⟨id, id⟩

theorem Moves.later {e : Event} {p q : Pool} (h : Moves s target e p q) :
    p.shared.Later q.shared := by
  cases h.staffing with
  | worker _ hmove => exact hmove.later
  | spawn _ hshared =>
    rw [hshared]
    exact ⟨id, id⟩
  | other _ _ _ hlater => exact hlater

/-! ## Runs -/

theorem run_append {p : Pool} {es fs : List Event} :
    p.run s target (es ++ fs) = (p.run s target es).bind fun q => q.run s target fs := by
  induction es generalizing p with
  | nil => rfl
  | cons e es ih => simp only [List.cons_append, run, Option.bind_assoc, ih]

/-- **What holds at the start and is kept by every step holds of every reachable pool.** That the
pool before the step is reachable may be used. -/
theorem Reachable.induction {P : Pool → Prop} (hinitial : P (initial s))
    (hstep : ∀ e p q, Reachable s target p → P p → Moves s target e p q → P q)
    {p : Pool} (h : Reachable s target p) : P p := by
  obtain ⟨events, hrun⟩ := h
  -- The induction is on the run from its end: what its last step begins with is reachable.
  induction events using List.reverseRecOn generalizing p with
  | nil =>
    cases hrun
    exact hinitial
  | append_singleton events e ih =>
    rw [run_append] at hrun
    obtain ⟨q, hq, hlast⟩ := Option.bind_eq_some_iff.1 hrun
    obtain ⟨p', hp', hdone⟩ := Option.bind_eq_some_iff.1 hlast
    cases hdone
    exact hstep e q p ⟨events, hq⟩ (ih hq) (moves_of_step hp')

/-- **What holds of a fresh worker, is kept by its steps and is not broken by those of others holds
of every worker of a reachable pool.** -/
theorem Reachable.forall_worker {P : Shared → Worker → Prop}
    (hfresh : ∀ shared, P shared (Worker.fresh s target))
    (hmoves : ∀ {k e shared shared' w w'}, Worker.Moves s target k e shared w shared' w' →
      P shared w → P shared' w')
    (hlater : ∀ {shared shared' w}, shared.Later shared' → P shared w → P shared' w)
    {p : Pool} (h : Reachable s target p) : ∀ w ∈ p.workers, P p.shared w := by
  refine Reachable.induction (P := fun p => ∀ w ∈ p.workers, P p.shared w) ?_ ?_ h
  · intro w hw
    cases hw
  intro e p q _ ih hmove w hw
  cases hmove.staffing with
  | @worker _ k _ w₀ w₁ shared' hw₀ hw₁ =>
    obtain hw | rfl := List.mem_or_eq_of_mem_set hw
    · exact hlater hw₁.later (ih w hw)
    · exact hmoves hw₁ (ih w₀ (List.mem_of_getElem? hw₀))
  | spawn hworkers hshared =>
    rw [hshared]
    rw [hworkers, List.mem_append, List.mem_singleton] at hw
    have hkept : p.shared.Later { p.shared with counters := p.shared.counters.register } := ⟨id, id⟩
    obtain hw | rfl := hw
    · exact hlater hkept (ih w hw)
    · exact hfresh _
  | other _ hworkers _ hlater' => exact hlater hlater' (ih w (hworkers ▸ hw))

end Pool
end HttpReplay
