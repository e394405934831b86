import HttpReplay.Proofs.Pool.Delivery
import HttpReplay.Proofs.Pool.Growth

/-!
How long a worker without work stays.

A dynamic pool without an idle floor, whose workers keep their clients, lets go of a worker for want
of work and for nothing else. What a worker's waits came to, and when it was refused, is told here by
the run (`Pool.outcomes`) and not by the count that the worker keeps: `EndsInWaits n` says that the
last `n` outcomes were waits without work, and the one before them was not. A payload, a refusal and
the start of the worker are thus all alike, since each of them is where such waits begin again.

The worker's own count is then shown to be that number (`Worker.Counts`). It lags behind by a step,
for a wait ends before the worker notes how, and this is the only place where the two differ. The
step lemma says what each step adds to the outcomes and keeps the law, and one induction over the run
carries it to every worker; whatever the others do in between adds nothing.
-/

set_option autoImplicit false

namespace HttpReplay

open Pool (Shared)

/-! ## Waits in a row -/

namespace Worker

/-- What came of a wait, or of the wish to leave. -/
inductive Outcome where
  /-- There was a payload. -/
  | payload
  /-- There was no work for as long as a wait takes. -/
  | timedOut
  /-- The worker wanted to leave and had to stay. -/
  | refused
  deriving DecidableEq, Repr

/-- Whether the last `n` outcomes are waits without work, and the one before them, if any, is not. -/
def EndsInWaits (n : Nat) (outcomes : List Outcome) : Prop :=
  ∃ earlier, outcomes = earlier ++ List.replicate n .timedOut ∧
    earlier.getLast? ≠ some .timedOut

variable {n m : Nat} {outcomes : List Outcome} {o : Outcome}

theorem endsInWaits_nil : EndsInWaits 0 [] := ⟨[], rfl, nofun⟩

/-- One more wait without work is counted, … -/
theorem EndsInWaits.concat (h : EndsInWaits n outcomes) :
    EndsInWaits (n + 1) (outcomes ++ [.timedOut]) := by
  obtain ⟨earlier, rfl, hlast⟩ := h
  refine ⟨earlier, ?_, hlast⟩
  rw [List.append_assoc, ← List.replicate_succ']

/-- … and whatever else happens, there has been none since. -/
theorem endsInWaits_concat (ho : o ≠ .timedOut) : EndsInWaits 0 (outcomes ++ [o]) := by
  refine ⟨outcomes ++ [o], (List.append_nil _).symm, ?_⟩
  rw [List.getLast?_concat]
  exact fun h => ho (Option.some.inj h)

theorem EndsInWaits.unique (h : EndsInWaits n outcomes) (h' : EndsInWaits m outcomes) : n = m := by
  obtain ⟨earlier, rfl, hlast⟩ := h
  obtain ⟨other, heq, hlast'⟩ := h'
  -- Both ends are taken off together until one of them has no waits left.
  induction n generalizing m with
  | zero =>
    cases m with
    | zero => rfl
    | succ m =>
      rw [List.replicate_zero, List.append_nil] at heq
      rw [heq, List.replicate_succ', ← List.append_assoc, List.getLast?_concat] at hlast
      exact absurd rfl hlast
  | succ n ih =>
    cases m with
    | zero =>
      rw [List.replicate_zero, List.append_nil] at heq
      rw [← heq, List.replicate_succ', ← List.append_assoc, List.getLast?_concat] at hlast'
      exact absurd rfl hlast'
    | succ m =>
      rw [List.replicate_succ', List.replicate_succ', ← List.append_assoc, ← List.append_assoc]
        at heq
      rw [ih (List.append_cancel_right heq)]

/-- Waits in a row all come after anything else that has happened. -/
theorem EndsInWaits.behind {later : List Outcome} (ho : o ≠ .timedOut)
    (h : EndsInWaits n (outcomes ++ o :: later)) : EndsInWaits n later := by
  induction later using List.reverseRecOn generalizing n with
  | nil =>
    obtain rfl := h.unique (endsInWaits_concat ho)
    exact endsInWaits_nil
  | append_singleton later last ih =>
    rw [← List.cons_append, ← List.append_assoc] at h
    by_cases hlast : last = .timedOut
    · subst hlast
      obtain ⟨earlier, heq, hearlier⟩ := h
      cases n with
      | zero =>
        rw [List.replicate_zero, List.append_nil] at heq
        rw [← heq, List.getLast?_concat] at hearlier
        exact absurd rfl hearlier
      | succ n =>
        rw [List.replicate_succ', ← List.append_assoc] at heq
        exact (ih ⟨earlier, List.append_cancel_right heq, hearlier⟩).concat
    · obtain rfl := h.unique (endsInWaits_concat hlast)
      exact endsInWaits_concat hlast

/-! ## What a worker counts -/

/-- Whether an event is the end of a wait for a payload. -/
def Event.endsWait : Event → Bool
  | .take | .expire => true
  | _ => false

/-- What comes of an event, if it ends a wait or a try to leave. The counters are as the word
says. -/
def outcome? (w : Worker) (word : UInt64) : Event → Option Outcome
  | .take => some .payload
  | .expire => some .timedOut
  | .proceed | .reload =>
    if w.phase.motive?.isSome && !Counters.mayRetire word then some .refused else none
  | _ => none

/-- How many waits in a row were without work, the one included that the worker has not noted
yet. -/
def emptySoFar (w : Worker) : Nat :=
  match w.phase with
  | .woken (.payload _) => 0
  | .woken .timedOut => w.emptyWaits + 1
  | _ => w.emptyWaits

/-- A worker counts its waits without work, and wants to leave when there were too many. -/
structure Counts (outcomes : List Outcome) (w : Worker) : Prop where
  soFar : EndsInWaits w.emptySoFar outcomes
  /-- Who wants to leave has just had one too many. -/
  tooMany : ∀ why, w.phase.motive? = some why → why = .unused ∧ w.emptyWaits = maxEmptyWaits + 1
  /-- Who does not has had no more than it bears with. -/
  few : w.phase.motive? = none → w.phase.holdsSlot = true → w.emptyWaits ≤ maxEmptyWaits

variable {s : Pool.Settings} {target : Target} {k : Nat} {w w' : Worker}

/-- The count of a worker that does not want to leave. -/
theorem Counts.staying (hsoFar : EndsInWaits w.emptySoFar outcomes)
    (hmotive : w.phase.motive? = none)
    (hfew : w.phase.holdsSlot = true → w.emptyWaits ≤ maxEmptyWaits) : Counts outcomes w := by
  refine ⟨hsoFar, fun why hwhy => ?_, fun _ => hfew⟩
  rw [hmotive] at hwhy
  cases hwhy

/-- The count of a worker that wants to leave for want of work. -/
theorem Counts.leaving (hsoFar : EndsInWaits w.emptySoFar outcomes)
    (hmotive : w.phase.motive? = some .unused) (hcount : w.emptyWaits = maxEmptyWaits + 1) :
    Counts outcomes w := by
  refine ⟨hsoFar, fun why hwhy => ?_, fun hnone => ?_⟩
  · rw [hmotive] at hwhy
    exact ⟨(Option.some.inj hwhy).symm, hcount⟩
  · rw [hmotive] at hnone
    cases hnone

theorem counts_fresh : Counts [] (Worker.fresh s target) :=
  .staying endsInWaits_nil rfl fun _ => Nat.zero_le _

/-- Nothing comes of other events, unless the worker wants to leave. -/
theorem outcome?_eq_none (hmotive : w.phase.motive? = none) {e : Event}
    (hother : e.endsWait = false) (word : UInt64) : w.outcome? word e = none := by
  cases e with
  | take | expire => cases hother
  | proceed | reload =>
    unfold outcome?
    rw [hmotive]
    rfl
  | _ => rfl

/-- A step that has nothing to do with waits, of a worker that is not going to leave. -/
theorem Counts.of_phase (h : Counts outcomes w) (hcount : w'.emptyWaits = w.emptyWaits)
    (hsoFar : w.emptySoFar = w.emptyWaits) (hsoFar' : w'.emptySoFar = w'.emptyWaits)
    (hmotive : w.phase.motive? = none) (hmotive' : w'.phase.motive? = none)
    (hslot : w'.phase.holdsSlot = true → w.phase.holdsSlot = true) : Counts outcomes w' := by
  refine .staying ?_ hmotive' fun hholds => ?_
  · rw [hsoFar', hcount, ← hsoFar]
    exact h.soFar
  · rw [hcount]
    exact h.few hmotive (hslot hholds)

/-- Who wants to leave has noted how its last wait ended. -/
theorem emptySoFar_of_motive? {why : Motive} (hmotive : w.phase.motive? = some why) :
    w.emptySoFar = w.emptyWaits := by
  unfold emptySoFar
  split
  next hphase => rw [hphase] at hmotive; cases hmotive
  next hphase => rw [hphase] at hmotive; cases hmotive
  next => rfl

/-- A worker wants to leave only for want of work, after one wait too many. -/
theorem Counts.waited (h : Counts outcomes w) (why : Motive)
    (hmotive : w.phase.motive? = some why) :
    why = .unused ∧ EndsInWaits (maxEmptyWaits + 1) outcomes := by
  obtain ⟨hunused, hmany⟩ := h.tooMany why hmotive
  have hsoFar := h.soFar
  rw [emptySoFar_of_motive? hmotive, hmany] at hsoFar
  exact ⟨hunused, hsoFar⟩

/-- It does want to leave once that wait is over. -/
theorem Counts.retiring_iff (hdynamic : s.isDynamic = true) (hfloor : s.idleWorkers = 0)
    (h : Counts outcomes w) (hphase : w.phase = .woken .timedOut) :
    (w.afterWait s .timedOut).phase = .retiring .unused ↔
      EndsInWaits (maxEmptyWaits + 1) outcomes := by
  have hfew := h.few (by rw [hphase]; rfl) (by rw [hphase]; rfl)
  have hsoFar := h.soFar
  have hmore : w.emptySoFar = w.emptyWaits + 1 := by rw [emptySoFar, hphase]
  have hcounts : (s.isDynamic && s.idleWorkers == 0) = true := by rw [hdynamic, hfloor]; rfl
  rw [hmore] at hsoFar
  rw [afterWait, if_pos hcounts]
  by_cases hmany : maxEmptyWaits < w.emptyWaits + 1
  · have hfull : w.emptyWaits + 1 = maxEmptyWaits + 1 := by omega
    rw [if_pos hmany, ← hfull]
    exact ⟨fun _ => hsoFar, fun _ => rfl⟩
  · rw [if_neg hmany]
    constructor
    · intro hretiring
      cases hretiring
    · intro hends
      have hfull := hsoFar.unique hends
      omega

/-- A worker notes how its wait ended. -/
theorem Counts.wake (hdynamic : s.isDynamic = true) (hfloor : s.idleWorkers = 0)
    (h : Counts outcomes w) {wake : Wake} (hphase : w.phase = .woken wake) :
    Counts outcomes (w.afterWait s wake) := by
  have hsoFar := h.soFar
  have hfew := h.few (by rw [hphase]; rfl) (by rw [hphase]; rfl)
  cases wake with
  | payload data =>
    have hzero : w.emptySoFar = 0 := by rw [emptySoFar, hphase]
    rw [hzero] at hsoFar
    exact .staying hsoFar rfl fun _ => Nat.zero_le _
  | stopped =>
    have hsame : w.emptySoFar = w.emptyWaits := by rw [emptySoFar, hphase]
    rw [hsame] at hsoFar
    exact .staying hsoFar rfl fun _ => hfew
  | timedOut =>
    have hmore : w.emptySoFar = w.emptyWaits + 1 := by rw [emptySoFar, hphase]
    have hcounts : (s.isDynamic && s.idleWorkers == 0) = true := by rw [hdynamic, hfloor]; rfl
    rw [hmore] at hsoFar
    rw [afterWait, if_pos hcounts]
    by_cases hmany : maxEmptyWaits < w.emptyWaits + 1
    · rw [if_pos hmany]
      refine .leaving hsoFar rfl ?_
      dsimp only
      omega
    · rw [if_neg hmany]
      exact .staying hsoFar rfl fun _ => Nat.le_of_not_lt hmany

/-- A worker that looks at the counters before it leaves goes on, or is refused and begins to count
again. -/
theorem Counts.consider (h : Counts outcomes w) {why : Motive}
    (hmotive : w.phase.motive? = some why) {e : Event} (he : e = .proceed ∨ e = .reload)
    (word : UInt64) :
    Counts (outcomes ++ (w.outcome? word e).toList) (w.consider s target why word) := by
  obtain ⟨rfl, hcount⟩ := h.tooMany why hmotive
  have houtcome : w.outcome? word e =
      if !Counters.mayRetire word then some .refused else none := by
    obtain rfl | rfl := he <;> unfold outcome? <;> rw [hmotive] <;> rfl
  rw [houtcome, Worker.consider]
  by_cases hmay : Counters.mayRetire word = true
  · rw [if_pos hmay, hmay, Bool.not_true, if_neg Bool.false_ne_true, Option.toList_none,
      List.append_nil]
    have hsoFar := h.soFar
    rw [emptySoFar_of_motive? hmotive] at hsoFar
    exact .leaving hsoFar rfl hcount
  · rw [if_neg hmay, if_pos (by simpa using hmay)]
    exact .staying (endsInWaits_concat (by decide)) rfl fun _ => Nat.zero_le _

/-- **Every step of a worker keeps its count right.** -/
theorem Moves.counts (hdynamic : s.isDynamic = true) (hfloor : s.idleWorkers = 0)
    (hrecycle : s.recycle = 0) {e : Event} {shared shared' : Shared}
    (h : Moves s target k e shared w shared' w') (hw : Counts outcomes w) :
    Counts (outcomes ++ (w.outcome? shared.counters.word e).toList) w' := by
  have hsilent {w' : Worker} (hnone : w.phase.motive? = none) (hother : e.endsWait = false)
      (hkept : Counts outcomes w') :
      Counts (outcomes ++ (w.outcome? shared.counters.word e).toList) w' := by
    rw [outcome?_eq_none hnone hother, Option.toList_none, List.append_nil]
    exact hkept
  cases h with
  | @take _ _ line payload queue hphase =>
    exact .staying (endsInWaits_concat (by decide)) rfl
      fun _ => hw.few (by rw [hphase]; rfl) (by rw [hphase]; rfl)
  | expire hphase =>
    have hsame : w.emptySoFar = w.emptyWaits := by rw [emptySoFar, hphase]
    have hsoFar := hw.soFar
    rw [hsame] at hsoFar
    exact .staying hsoFar.concat rfl
      fun _ => hw.few (by rw [hphase]; rfl) (by rw [hphase]; rfl)
  | wake hphase =>
    exact hsilent (by rw [hphase]; rfl) rfl (hw.wake hdynamic hfloor hphase)
  | consider hphase =>
    exact hw.consider (by rw [hphase]; rfl) (.inl rfl) _
  | reload hphase =>
    exact hw.consider (by rw [hphase]; rfl) (.inr rfl) _
  | @leave _ _ why hphase =>
    obtain ⟨rfl, -⟩ := hw.tooMany why (by rw [hphase]; rfl)
    have hsame : w.emptySoFar = w.emptyWaits := by rw [emptySoFar, hphase]
    have hsoFar := hw.soFar
    rw [hsame] at hsoFar
    exact .staying ((List.append_nil outcomes).symm ▸ hsoFar) rfl fun hholds => by cases hholds
  | finish hphase =>
    refine hsilent (by rw [hphase]; rfl) rfl ?_
    have hgoesOn : w.afterPayload s target =
        { w with handled := w.handled + 1, phase := .checking } := by
      simp [afterPayload, hrecycle, goTo]
    rw [hgoesOn]
    exact hw.of_phase rfl (by rw [emptySoFar, hphase]) rfl (by rw [hphase]; rfl) rfl
      (fun _ => by rw [hphase]; rfl)
  | check hphase =>
    refine hsilent (by rw [hphase]; rfl) rfl ?_
    have hnone : (s.isDynamic && 0 < s.idleWorkers && s.idleCeiling < shared.counters.idle) =
        false := by
      rw [hfloor]
      simp
    rw [hnone]
    exact hw.of_phase rfl (by rw [emptySoFar, hphase]) rfl (by rw [hphase]; rfl) rfl
      (fun _ => by rw [hphase]; rfl)
  | @reply _ _ payload _ reply _ _ roundTrip hphase =>
    refine hsilent (by rw [hphase]; rfl) rfl ?_
    obtain ⟨header, -, -, h⟩ | h := replyPhase_cases s payload reply roundTrip <;>
      exact hw.of_phase rfl (by rw [emptySoFar, hphase]) (by rw [emptySoFar, h])
        (by rw [hphase]; rfl) (by rw [h]; rfl) (fun _ => by rw [hphase]; rfl)
  | lineUp hphase => exact hsilent (by rw [hphase]; rfl) rfl hw
  -- The others begin and end with a worker that has noted its waits and is not going to leave.
  | rest hphase | stop hphase | serve hphase | skip hphase | deliver hphase | giveUp hphase
  | report hphase | retire hphase =>
    exact hsilent (by rw [hphase]; rfl) rfl (hw.of_phase rfl (by rw [emptySoFar, hphase])
      rfl (by rw [hphase]; rfl) rfl (by rw [hphase]; simp [goTo, Phase.holdsSlot]))

end Worker

namespace Pool

variable {s : Settings} {target : Target} {k : Nat} {p q r : Pool} {w : Worker}

/-! ## What a run comes to for a worker -/

/-- What comes of an event for worker `k`. -/
def outcome? (k : Nat) (e : Event) (p : Pool) : Option Worker.Outcome :=
  match e with
  | .worker k' f =>
    if k' = k then p.workers[k]?.bind fun w => w.outcome? p.shared.counters.word f else none
  | _ => none

/-- What came of the waits of worker `k` in a run, and of its wishes to leave, the oldest first. -/
def outcomes (s : Settings) (target : Target) (k : Nat) (p : Pool) :
    List Event → List Worker.Outcome
  | [] => []
  | e :: events =>
    match p.step s target e with
    | none => []
    | some q => (outcome? k e p).toList ++ outcomes s target k q events

theorem outcomes_append {es fs : List Event} (hrun : p.run s target es = some q) :
    outcomes s target k p (es ++ fs) =
      outcomes s target k p es ++ outcomes s target k q fs := by
  induction es generalizing p with
  | nil =>
    obtain rfl := Option.some.inj hrun
    rfl
  | cons e es ih =>
    obtain ⟨p', hp', hrest⟩ := Option.bind_eq_some_iff.1 hrun
    rw [List.cons_append, outcomes, outcomes, hp']
    dsimp only
    rw [ih hrest, List.append_assoc]

theorem outcomes_cons {e : Event} {es : List Event} (hstep : p.step s target e = some q) :
    outcomes s target k p (e :: es) = (outcome? k e p).toList ++ outcomes s target k q es := by
  rw [outcomes, hstep]

/-- **All workers count right in every run**, and nothing has happened yet to those that there have
not been. -/
theorem counts_of_run (hdynamic : s.isDynamic = true) (hfloor : s.idleWorkers = 0)
    (hrecycle : s.recycle = 0) {events : List Event}
    (hrun : (initial s).run s target events = some p) :
    (∀ k w, p.workers[k]? = some w →
      Worker.Counts (outcomes s target k (initial s) events) w) ∧
    ∀ k, p.workers.length ≤ k → outcomes s target k (initial s) events = [] := by
  -- The induction is on the run from its end: what its last step begins with is told by the rest.
  induction events using List.reverseRecOn generalizing p with
  | nil =>
    obtain rfl := Option.some.inj hrun
    exact ⟨nofun, fun _ _ => rfl⟩
  | append_singleton events e ih =>
    rw [run_append] at hrun
    obtain ⟨q, hq, hlast⟩ := Option.bind_eq_some_iff.1 hrun
    obtain ⟨p', hp', hdone⟩ := Option.bind_eq_some_iff.1 hlast
    obtain rfl := Option.some.inj hdone
    obtain ⟨hcounts, hnone⟩ := ih hq
    have hmore (k : Nat) : outcomes s target k (initial s) (events ++ [e]) =
        outcomes s target k (initial s) events ++ (outcome? k e q).toList := by
      rw [outcomes_append hq, outcomes_cons hp', outcomes, List.append_nil]
    simp only [hmore]
    cases (moves_of_step hp').staffing with
    | @worker _ k₀ f w₀ w₁ shared' hw₀ hw₁ =>
      have hk₀ := (List.getElem?_eq_some_iff.1 hw₀).1
      have hothers {k : Nat} (hk : k₀ ≠ k) : outcome? k (.worker k₀ f) q = none := if_neg hk
      refine ⟨fun k w hw => ?_, fun k hk => ?_⟩
      · by_cases hk : k₀ = k
        · subst hk
          rw [List.getElem?_set_self hk₀] at hw
          obtain rfl := Option.some.inj hw
          rw [outcome?, if_pos rfl, hw₀]
          exact hw₁.counts hdynamic hfloor hrecycle (hcounts k₀ w₀ hw₀)
        · rw [List.getElem?_set_ne hk] at hw
          rw [hothers hk, Option.toList_none, List.append_nil]
          exact hcounts k w hw
      · rw [List.length_set] at hk
        rw [hothers (by omega), Option.toList_none, List.append_nil]
        exact hnone k hk
    | spawn hworkers _ =>
      have hsilent (k : Nat) : outcome? k .coordinator q = none := rfl
      simp only [hsilent, Option.toList_none, List.append_nil]
      refine ⟨fun k w hw => ?_, fun k hk => ?_⟩
      · rw [hworkers] at hw
        by_cases hk : k < q.workers.length
        · rw [List.getElem?_append_left hk] at hw
          exact hcounts k w hw
        · rw [List.getElem?_append_right (Nat.not_lt.1 hk)] at hw
          obtain rfl := List.mem_singleton.1 (List.mem_of_getElem? hw)
          rw [hnone k (Nat.not_lt.1 hk)]
          exact Worker.counts_fresh
      · rw [hworkers, List.length_append] at hk
        exact hnone k (by omega)
    | other hevent hworkers _ _ =>
      have hsilent (k : Nat) : outcome? k e q = none := by
        cases e with
        | worker k' f => exact absurd rfl (hevent k' f)
        | _ => rfl
      simp only [hsilent, Option.toList_none, List.append_nil, hworkers]
      exact ⟨hcounts, hnone⟩

/-! ## Those who are left -/

/-- Where two are counted there is another one besides any given one. -/
theorem exists_ne_of_two_le_countP {α : Type} {f : α → Bool} {l : List α} (k : Nat)
    (h : 2 ≤ l.countP f) : ∃ j a, j ≠ k ∧ l[j]? = some a ∧ f a = true := by
  induction l generalizing k with
  | nil => simp at h
  | cons c l ih =>
    rw [List.countP_cons] at h
    cases k with
    | zero =>
      have hone : 0 < l.countP f := by
        split at h <;> omega
      obtain ⟨a, ha, hfa⟩ := List.countP_pos_iff.1 hone
      obtain ⟨j, hj⟩ := List.mem_iff_getElem?.1 ha
      exact ⟨j + 1, a, Nat.succ_ne_zero j, hj, hfa⟩
    | succ k =>
      by_cases hc : f c = true
      · exact ⟨0, c, (Nat.succ_ne_zero k).symm, rfl, hc⟩
      · rw [if_neg hc, Nat.add_zero] at h
        obtain ⟨j, a, hj, ha, hfa⟩ := ih k h
        exact ⟨j + 1, a, fun heq => hj (Nat.succ.inj heq), ha, hfa⟩

/-- The pool without worker `k`. -/
def without (p : Pool) (k : Nat) : Pool := { p with workers := p.workers.eraseIdx k }

/-- Nothing is missing in a pool without a worker that has nothing in its hands. -/
theorem inHand_without (hw : p.workers[k]? = some w) (hempty : w.phase.payload? = none) :
    (p.without k).inHand = p.inHand := by
  obtain ⟨hk, hget⟩ := List.getElem?_eq_some_iff.1 hw
  have hsplit : p.workers = p.workers.take k ++ w :: p.workers.drop (k + 1) := by
    rw [← hget, List.getElem_cons_drop, List.take_append_drop]
  rw [inHand, inHand, without, List.eraseIdx_eq_take_drop_succ]
  conv_rhs => rw [hsplit]
  rw [List.filterMap_append, List.filterMap_append,
    List.filterMap_cons_none (f := fun w : Worker => w.phase.payload?) hempty]

/-- What holds when worker `k` leaves a pool for want of work. The outcomes are those of its waits
up to then. -/
structure Unused (k : Nat) (outcomes : List Worker.Outcome) (p : Pool) (w : Worker) : Prop where
  /-- Its last 21 waits were without work, and it has not been refused since they began. -/
  waited : Worker.EndsInWaits 21 outcomes
  /-- It is not the last one. -/
  another : ∃ j other, j ≠ k ∧ p.workers[j]? = some other ∧ other.phase.holdsSlot = true
  /-- It has no payload in its hands and no response. -/
  hands : w.phase.payload? = none ∧ w.phase.record? = none
  /-- What was taken and can be replayed was replayed, or is in the hands of the others. -/
  settled : (p.shared.books.taken.filter isServable).Perm
    ((p.without k).inHand.filter isServable ++ p.shared.books.replayed.map Prod.fst)

/-- How worker `k` comes to give back its slot in a pool that lets go of workers for want of work
only. -/
theorem Reachable.departs (h : Reachable s target p) (hw : p.workers[k]? = some w)
    {outcomes : List Worker.Outcome} (hcounts : Worker.Counts outcomes w) {e : Worker.Event}
    (hstep : p.step s target (.worker k e) = some q)
    (hgives : givesBack k (.worker k e) p q = true) :
    (w.phase = .stopping ∧ (p.shared.stopped = true ∨ p.shared.held = false)) ∨
      Unused k outcomes p w := by
  have hentitled := h.entitled w (List.mem_of_getElem? hw)
  have hretires : q.shared.counters = p.shared.counters.retire := by
    simpa [givesBack] using hgives
  obtain ⟨hself, henter, hleave⟩ := p.shared.counters.retire_ne
  cases moves_of_step hstep with
  | @worker _ _ _ w₀ w' shared' hw₀ hmove =>
    obtain rfl := Option.some.inj (hw.symm.trans hw₀)
    dsimp only at hretires
    cases hmove with
    | @leave _ _ why hphase =>
      obtain ⟨-, hwaited⟩ := hcounts.waited why (by rw [hphase]; rfl)
      rw [hphase] at hentitled
      have htwo := h.tells.two_le_of_mayRetire p.idling_le_live hentitled
      have hempty : w.phase.payload? = none := by rw [hphase]; rfl
      refine .inr ⟨hwaited, exists_ne_of_two_le_countP k htwo, ⟨hempty, by rw [hphase]; rfl⟩, ?_⟩
      rw [inHand_without hw hempty]
      exact h.balance
    | retire hphase =>
      rw [hphase] at hentitled
      exact .inl ⟨hphase, hentitled⟩
    -- No other step gives back a slot.
    | rest => exact absurd hretires.symm henter
    | wake => exact absurd hretires.symm hleave
    | _ => exact absurd hretires.symm hself

/-- How worker `k` bears with want of work, after a run that has led to the pool and to this state of
the worker. -/
structure Patient (s : Settings) (target : Target) (k : Nat) (events : List Event) (p : Pool)
    (w : Worker) : Prop where
  /-- It wants to leave, or tries to, only for want of work and only after 21 waits without work in a
  row, … -/
  tries : ∀ why, w.phase.motive? = some why →
    why = .unused ∧ Worker.EndsInWaits 21 (outcomes s target k (initial s) events)
  /-- … and it does so as soon as the last of them is over. -/
  atOnce : w.phase = .woken .timedOut → ((w.afterWait s .timedOut).phase = .retiring .unused ↔
    Worker.EndsInWaits 21 (outcomes s target k (initial s) events))
  /-- If its next step gives back its slot, then it has to stop, or it leaves for want of work. -/
  departs : ∀ e q, p.step s target (.worker k e) = some q →
    givesBack k (.worker k e) p q = true →
    (w.phase = .stopping ∧ (p.shared.stopped = true ∨ p.shared.held = false)) ∨
      Unused k (outcomes s target k (initial s) events) p w
  /-- If it is refused in its next step, then it does not try again before another 21 waits without
  work in a row. -/
  refused : ∀ e q, p.step s target (.worker k e) = some q →
    outcome? k (.worker k e) p = some .refused →
    ∀ es r w', q.run s target es = some r → r.workers[k]? = some w' → w'.phase.motive? ≠ none →
      Worker.EndsInWaits 21 (outcomes s target k q es)

/-- **A worker leaves for want of work only after 21 waits without work in a row**, in a dynamic pool
without an idle floor whose workers keep their clients, whatever the others do: in a row since it
last took a payload, was refused or was started. It leaves with empty hands and only while another
one has a slot. -/
theorem patience (hdynamic : s.isDynamic = true) (hfloor : s.idleWorkers = 0)
    (hrecycle : s.recycle = 0) {events : List Event}
    (hrun : (initial s).run s target events = some p) (hw : p.workers[k]? = some w) :
    Patient s target k events p w := by
  have hreachable : Reachable s target p := ⟨events, hrun⟩
  have hcounts {events : List Event} {p : Pool} {w : Worker}
      (hrun : (initial s).run s target events = some p) (hw : p.workers[k]? = some w) :
      Worker.Counts (outcomes s target k (initial s) events) w :=
    (counts_of_run hdynamic hfloor hrecycle hrun).1 k w hw
  refine ⟨fun why hwhy => (hcounts hrun hw).waited _ hwhy,
    (hcounts hrun hw).retiring_iff hdynamic hfloor, fun e q hstep hgives => ?_, ?_⟩
  · exact hreachable.departs hw (hcounts hrun hw) hstep hgives
  · intro e q hstep hrefused es r w' hlater hw' hmotive
    obtain ⟨why, hwhy⟩ := Option.ne_none_iff_exists'.1 hmotive
    have hwhole : (initial s).run s target (events ++ .worker k e :: es) = some r := by
      rw [run_append, hrun]
      simp [run, hstep, hlater]
    obtain ⟨-, hends⟩ := (hcounts hwhole hw').waited _ hwhy
    rw [outcomes_append hrun, outcomes_cons hstep, hrefused] at hends
    exact hends.behind (by decide)

/-! ## A payload just in time

A pool of ten workers, one of which has waited twenty times without work when a request is written
that it takes and passes over.
-/

/-- A turn of a worker that waits without work. -/
def waitInVain : List Event :=
  [.worker 0 .proceed, .worker 0 .expire, .worker 0 .proceed, .worker 0 .proceed]

/-- The worker waits twenty times, takes the payload, and waits until it wants to leave and has
looked at the counters. -/
def resumedEvents : List Event :=
  List.replicate 11 .coordinator ++ (List.replicate 20 waitInVain).flatten ++
    [.write [0x31, 0x20], .worker 0 .proceed, .worker 0 .lineUp, .worker 0 .take] ++
    List.replicate 4 (.worker 0 .proceed) ++ (List.replicate 21 waitInVain).flatten

theorem patience_resumed :
    ∃ p w q, (initial {}).run {} (.onHost .http "site" none) resumedEvents = some p ∧
      p.workers[0]? = some w ∧
      outcomes {} (.onHost .http "site" none) 0 (initial {}) resumedEvents =
        List.replicate 20 .timedOut ++ [.payload] ++ List.replicate 21 .timedOut ∧
      p.step {} (.onHost .http "site" none) (.worker 0 .swap) = some q ∧
      givesBack 0 (.worker 0 .swap) p q = true ∧
      Patient {} (.onHost .http "site" none) 0 resumedEvents p w := by
  have hrun : ((initial {}).run {} (.onHost .http "site" none) resumedEvents).any
      (fun p => p.workers[0]?.isSome &&
        (p.step {} (.onHost .http "site" none) (.worker 0 .swap)).any
          fun q => givesBack 0 (.worker 0 .swap) p q) = true := by decide +kernel
  obtain ⟨p, hp, hstate⟩ := (Option.any_eq_true _ _).1 hrun
  obtain ⟨hsome, hstep⟩ := Bool.and_eq_true_iff.1 hstate
  obtain ⟨w, hw⟩ := Option.isSome_iff_exists.1 hsome
  obtain ⟨q, hq, hgives⟩ := (Option.any_eq_true _ _).1 hstep
  have houtcomes : outcomes {} (.onHost .http "site" none) 0 (initial {}) resumedEvents =
      List.replicate 20 .timedOut ++ [.payload] ++ List.replicate 21 .timedOut := by decide +kernel
  exact ⟨p, w, q, hp, hw, houtcomes, hq, hgives, patience rfl rfl rfl hp hw⟩

end Pool
end HttpReplay
