import HttpReplay.Client.Task

/-!
What a task did, as a list.

A task is a tree of operations, and a behaviour of the network picks one path through it. `Runs`
is that path: the operations in their order, each with the outcome it had, and the result at the
end. It says nothing about which outcomes can occur, so a statement about all `Runs` is one about
every network; a particular kind of network is a condition on the list.

The one law that everything above rests on is `runs_of_bind`: the operations of a task followed by
another are those of the one followed by those of the other. It turns a run of a client into runs
of its parts without unfolding any of them.
-/

set_option autoImplicit false

namespace HttpReplay.Task

/-- One operation of a task, with its outcome. -/
inductive Event where
  | now (time : Instant)
  | date (today : Moment)
  | dial (address : String) (outcome : DialOutcome)
  | handshake (host : String) (outcome : HandshakeOutcome)
  | write (data : Bytes) (outcome : WriteOutcome)
  | read (most : Nat) (outcome : ReadOutcome)
  | close
  deriving DecidableEq, Repr

namespace Event

/-- The bytes that an operation brought in. -/
def received : Event → Bytes
  | .read _ (.received first more) => first :: more
  | _ => []

/-- Whether an operation is a write, come to what it may. -/
def isWrite : Event → Bool
  | .write _ _ => true
  | _ => false

/-- Whether an operation can neither send nor receive: it looks at a clock or opens or closes. -/
def isSilent : Event → Bool
  | .write _ _ | .read _ _ => false
  | _ => true

/-- Whether an operation is a read or a look at the clock. -/
def isReading : Event → Bool
  | .now _ | .read _ _ => true
  | _ => false

theorem isWrite_of_isSilent {e : Event} (h : e.isSilent = true) : e.isWrite = false := by
  cases e with
  | write => cases h
  | _ => rfl

theorem isWrite_of_isReading {e : Event} (h : e.isReading = true) : e.isWrite = false := by
  cases e with
  | write => cases h
  | _ => rfl

end Event

/-- The bytes that a list of operations brought in. -/
def received (events : List Event) : Bytes := events.flatMap Event.received

@[simp] theorem received_nil : received [] = [] := rfl

@[simp] theorem received_cons (e : Event) (es : List Event) :
    received (e :: es) = e.received ++ received es := by
  simp only [received, List.flatMap_cons]

@[simp] theorem received_append (es fs : List Event) :
    received (es ++ fs) = received es ++ received fs := by
  simp only [received, List.flatMap_append]

/-- Operations that cannot receive bring in nothing. -/
theorem received_of_silent {es : List Event} (h : ∀ e ∈ es, e.isSilent = true) :
    received es = [] := by
  induction es with
  | nil => rfl
  | cons e es ih =>
    have hes : received es = [] := ih fun x hx => h x (List.mem_cons_of_mem _ hx)
    have he : e.isSilent = true := h e List.mem_cons_self
    rw [received_cons, hes, List.append_nil]
    cases e <;> first | rfl | simp [Event.isSilent] at he

variable {α β : Type}

/-- `t.Runs es a`: the operations `es`, with their outcomes, take `t` to its result `a`. -/
inductive Runs : Task α → List Event → α → Prop
  | done (a : α) : Runs (.done a) [] a
  | now {next : Instant → Task α} {es : List Event} {a : α} (time : Instant) :
      Runs (next time) es a → Runs (.now next) (.now time :: es) a
  | date {next : Moment → Task α} {es : List Event} {a : α} (today : Moment) :
      Runs (next today) es a → Runs (.date next) (.date today :: es) a
  | dial {address : String} {limit : Instant} {next : DialOutcome → Task α} {es : List Event}
      {a : α} (outcome : DialOutcome) :
      Runs (next outcome) es a → Runs (.dial address limit next) (.dial address outcome :: es) a
  | handshake {host : String} {limit : Instant} {next : HandshakeOutcome → Task α}
      {es : List Event} {a : α} (outcome : HandshakeOutcome) :
      Runs (next outcome) es a → Runs (.handshake host limit next) (.handshake host outcome :: es) a
  | write {data : Bytes} {limit : Instant} {next : WriteOutcome → Task α} {es : List Event} {a : α}
      (outcome : WriteOutcome) :
      Runs (next outcome) es a → Runs (.write data limit next) (.write data outcome :: es) a
  | read {most : Nat} {limit : Instant} {next : ReadOutcome → Task α} {es : List Event} {a : α}
      (outcome : ReadOutcome) :
      Runs (next outcome) es a → Runs (.read most limit next) (.read most outcome :: es) a
  | close {next : Task α} {es : List Event} {a : α} :
      Runs next es a → Runs (.close next) (.close :: es) a

theorem runs_done_iff {a b : α} {es : List Event} :
    (done a).Runs es b ↔ es = [] ∧ b = a := by
  constructor
  · intro h
    cases h
    exact ⟨rfl, rfl⟩
  · rintro ⟨rfl, rfl⟩
    exact .done b

/-- A run of two tasks in a row is a run of the one and then of the other. -/
theorem runs_of_bind {t : Task α} {f : α → Task β} {es : List Event} {b : β}
    (h : (t.bind f).Runs es b) :
    ∃ us vs a, es = us ++ vs ∧ t.Runs us a ∧ (f a).Runs vs b := by
  induction t generalizing es with
  | done a => exact ⟨[], es, a, rfl, .done a, h⟩
  | now next ih =>
    cases h with | now time h =>
    obtain ⟨us, vs, a, rfl, hu, hv⟩ := ih time h
    exact ⟨.now time :: us, vs, a, rfl, .now time hu, hv⟩
  | date next ih =>
    cases h with | date today h =>
    obtain ⟨us, vs, a, rfl, hu, hv⟩ := ih today h
    exact ⟨.date today :: us, vs, a, rfl, .date today hu, hv⟩
  | dial address limit next ih =>
    cases h with | dial outcome h =>
    obtain ⟨us, vs, a, rfl, hu, hv⟩ := ih outcome h
    exact ⟨.dial address outcome :: us, vs, a, rfl, .dial outcome hu, hv⟩
  | handshake host limit next ih =>
    cases h with | handshake outcome h =>
    obtain ⟨us, vs, a, rfl, hu, hv⟩ := ih outcome h
    exact ⟨.handshake host outcome :: us, vs, a, rfl, .handshake outcome hu, hv⟩
  | write data limit next ih =>
    cases h with | write outcome h =>
    obtain ⟨us, vs, a, rfl, hu, hv⟩ := ih outcome h
    exact ⟨.write data outcome :: us, vs, a, rfl, .write outcome hu, hv⟩
  | read most limit next ih =>
    cases h with | read outcome h =>
    obtain ⟨us, vs, a, rfl, hu, hv⟩ := ih outcome h
    exact ⟨.read most outcome :: us, vs, a, rfl, .read outcome hu, hv⟩
  | close next ih =>
    cases h with | close h =>
    obtain ⟨us, vs, a, rfl, hu, hv⟩ := ih h
    exact ⟨.close :: us, vs, a, rfl, .close hu, hv⟩

/-! ## Following a list of events -/

/-- Takes a task through a list of events. There is a result if they lead it exactly to its end. -/
def follow : Task α → List Event → Option α
  | .done a, [] => some a
  | .now next, .now time :: es => (next time).follow es
  | .date next, .date today :: es => (next today).follow es
  | .dial address _ next, .dial address' outcome :: es =>
    if address = address' then (next outcome).follow es else none
  | .handshake host _ next, .handshake host' outcome :: es =>
    if host = host' then (next outcome).follow es else none
  | .write data _ next, .write data' outcome :: es =>
    if data = data' then (next outcome).follow es else none
  | .read most _ next, .read most' outcome :: es =>
    if most = most' then (next outcome).follow es else none
  | .close next, .close :: es => next.follow es
  | _, _ => none

theorem follow_of_runs {t : Task α} {es : List Event} {a : α} (h : t.Runs es a) :
    t.follow es = some a := by
  induction h with
  | done a => rfl
  | now _ _ ih | date _ _ ih | close _ ih => exact ih
  | dial _ _ ih | handshake _ _ ih | write _ _ ih | read _ _ ih =>
    rw [follow, if_pos rfl]
    exact ih

theorem runs_of_follow {t : Task α} {es : List Event} {a : α} (h : t.follow es = some a) :
    t.Runs es a := by
  -- The cases left out are those in which the list has another operation than the task.
  fun_induction follow t es with
  | case1 => exact Option.some.inj h ▸ .done _
  | case2 next time es ih => exact .now time (ih h)
  | case3 next today es ih => exact .date today (ih h)
  | case4 _ next _ outcome es ih => exact .dial outcome (ih h)
  | case6 _ next _ outcome es ih => exact .handshake outcome (ih h)
  | case8 _ next _ outcome es ih => exact .write outcome (ih h)
  | case10 _ next _ outcome es ih => exact .read outcome (ih h)
  | case12 next es ih => exact .close (ih h)
  | _ => simp at h

/-- Whether a list of events is a run can be computed. -/
theorem runs_iff_follow {t : Task α} {es : List Event} {a : α} :
    t.Runs es a ↔ t.follow es = some a :=
  ⟨follow_of_runs, runs_of_follow⟩

instance [DecidableEq α] (t : Task α) (es : List Event) (a : α) : Decidable (t.Runs es a) :=
  decidable_of_iff _ runs_iff_follow.symm

end HttpReplay.Task
