import HttpReplay.Client.Basic
import HttpReplay.Proofs.Client.Trace

/-!
How much a client asks of the network.

A task is a finite tree along each of its paths, so whatever a network does leads it to its end
(`Task.exists_runs`). How far that end is the tree alone does not tell: a read loop may take its
bytes one by one, and a target may redirect for ever. `Task.Within` bounds the number of operations
on every path at once. It goes from parts to wholes, so that each part of a client has a bound of
its own, and what ends the two loops shows in theirs: each read but the last takes up room in the
buffer, and each round trip but the last takes one off the redirects that are left.
-/

set_option autoImplicit false

namespace HttpReplay

open HttpReplay.Task (Event)

/-- Everything that the world outside may do: the outcome of each operation, which may depend on
all that happened before. -/
structure Network where
  now : List Event → Instant
  date : List Event → Moment
  dial : List Event → String → DialOutcome
  handshake : List Event → String → HandshakeOutcome
  write : List Event → Bytes → WriteOutcome
  read : List Event → Nat → ReadOutcome

namespace Network

/-- Whether an operation has the outcome that the network gives it. -/
def Gives (net : Network) (past : List Event) : Event → Prop
  | .now time => time = net.now past
  | .date today => today = net.date past
  | .dial address outcome => outcome = net.dial past address
  | .handshake host outcome => outcome = net.handshake past host
  | .write data outcome => outcome = net.write past data
  | .read most outcome => outcome = net.read past most
  | .close => True

/-- Whether all operations of a list have the outcomes that the network gives them. -/
def Allows (net : Network) : List Event → List Event → Prop
  | _, [] => True
  | past, e :: es => net.Gives past e ∧ net.Allows (past ++ [e]) es

end Network

namespace Task

variable {α β : Type} {m n : Nat}

/-- **Every task ends**, whatever the network does. -/
theorem exists_runs (net : Network) (past : List Event) (t : Task α) :
    ∃ es a, net.Allows past es ∧ t.Runs es a := by
  induction t generalizing past with
  | done a => exact ⟨[], a, trivial, .done a⟩
  | now next ih =>
    obtain ⟨es, a, hnet, hruns⟩ := ih (net.now past) (past ++ [.now (net.now past)])
    exact ⟨.now _ :: es, a, ⟨rfl, hnet⟩, .now _ hruns⟩
  | date next ih =>
    obtain ⟨es, a, hnet, hruns⟩ := ih (net.date past) (past ++ [.date (net.date past)])
    exact ⟨.date _ :: es, a, ⟨rfl, hnet⟩, .date _ hruns⟩
  | dial address limit next ih =>
    obtain ⟨es, a, hnet, hruns⟩ :=
      ih (net.dial past address) (past ++ [.dial address (net.dial past address)])
    exact ⟨.dial address _ :: es, a, ⟨rfl, hnet⟩, .dial _ hruns⟩
  | handshake host limit next ih =>
    obtain ⟨es, a, hnet, hruns⟩ :=
      ih (net.handshake past host) (past ++ [.handshake host (net.handshake past host)])
    exact ⟨.handshake host _ :: es, a, ⟨rfl, hnet⟩, .handshake _ hruns⟩
  | write data limit next ih =>
    obtain ⟨es, a, hnet, hruns⟩ :=
      ih (net.write past data) (past ++ [.write data (net.write past data)])
    exact ⟨.write data _ :: es, a, ⟨rfl, hnet⟩, .write _ hruns⟩
  | read most limit next ih =>
    obtain ⟨es, a, hnet, hruns⟩ :=
      ih (net.read past most) (past ++ [.read most (net.read past most)])
    exact ⟨.read most _ :: es, a, ⟨rfl, hnet⟩, .read _ hruns⟩
  | close next ih =>
    obtain ⟨es, a, hnet, hruns⟩ := ih (past ++ [.close])
    exact ⟨.close :: es, a, ⟨trivial, hnet⟩, .close hruns⟩

/-! ## Counting operations -/

/-- Whether a task comes to its end within so many operations, whatever their outcomes. -/
def Within (t : Task α) (n : Nat) : Prop := ∀ es a, t.Runs es a → es.length ≤ n

namespace Within

theorem mono {t : Task α} (h : t.Within m) (hle : m ≤ n) : t.Within n :=
  fun es a hruns => Nat.le_trans (h es a hruns) hle

theorem done (a : α) : (Task.done a).Within n := by
  intro es b h
  cases h
  exact Nat.zero_le n

theorem now {next : Instant → Task α} (h : ∀ time, (next time).Within n) :
    (Task.now next).Within (n + 1) := by
  intro es a hruns
  cases hruns with
  | now time hruns => exact Nat.succ_le_succ (h time _ _ hruns)

theorem date {next : Moment → Task α} (h : ∀ today, (next today).Within n) :
    (Task.date next).Within (n + 1) := by
  intro es a hruns
  cases hruns with
  | date today hruns => exact Nat.succ_le_succ (h today _ _ hruns)

theorem dial {address : String} {limit : Instant} {next : DialOutcome → Task α}
    (h : ∀ outcome, (next outcome).Within n) : (Task.dial address limit next).Within (n + 1) := by
  intro es a hruns
  cases hruns with
  | dial outcome hruns => exact Nat.succ_le_succ (h outcome _ _ hruns)

theorem handshake {host : String} {limit : Instant} {next : HandshakeOutcome → Task α}
    (h : ∀ outcome, (next outcome).Within n) :
    (Task.handshake host limit next).Within (n + 1) := by
  intro es a hruns
  cases hruns with
  | handshake outcome hruns => exact Nat.succ_le_succ (h outcome _ _ hruns)

theorem write {data : Bytes} {limit : Instant} {next : WriteOutcome → Task α}
    (h : ∀ outcome, (next outcome).Within n) : (Task.write data limit next).Within (n + 1) := by
  intro es a hruns
  cases hruns with
  | write outcome hruns => exact Nat.succ_le_succ (h outcome _ _ hruns)

theorem read {most : Nat} {limit : Instant} {next : ReadOutcome → Task α}
    (h : ∀ outcome, (next outcome).Within n) : (Task.read most limit next).Within (n + 1) := by
  intro es a hruns
  cases hruns with
  | read outcome hruns => exact Nat.succ_le_succ (h outcome _ _ hruns)

theorem close {next : Task α} (h : next.Within n) : (Task.close next).Within (n + 1) := by
  intro es a hruns
  cases hruns with
  | close hruns => exact Nat.succ_le_succ (h _ _ hruns)

/-- One task after another takes the operations of both. -/
theorem bind {t : Task α} {f : α → Task β} (ht : t.Within m) (hf : ∀ a, (f a).Within n) :
    (t.bind f).Within (m + n) := by
  intro es b hruns
  obtain ⟨us, vs, a, rfl, hu, hv⟩ := runs_of_bind hruns
  have hus := ht us a hu
  have hvs := hf a vs b hv
  rw [List.length_append]
  omega

end Within
end Task

/-! ## The parts of a client -/

/-- Each turn of the read loop looks at the clock and reads, and each but the last fills some of the
buffer. -/
theorem Reading.within_loop {capacity : Nat} {deadline : Instant} {headRequest : Bool}
    {buffer : Bytes} {n : Nat} (hfits : n < capacity) :
    (loop capacity deadline headRequest buffer n).Within (2 * (capacity - n)) := by
  induction hroom : capacity - n using Nat.strongRecOn generalizing buffer n with
  | ind room ih =>
    obtain ⟨left, rfl⟩ : ∃ left, room = left + 1 := ⟨room - 1, by omega⟩
    rw [loop, Nat.mul_succ]
    refine .now fun time => .read fun outcome => ?_
    cases outcome with
    | timedOut | failed | ended => exact .done _
    | received first more =>
      dsimp only
      split
      next => exact .done _
      next hroomy =>
        have hsome : 0 < ((first :: more).take (capacity - n)).length := by
          rw [List.length_take, List.length_cons]
          omega
        have hagain (buffer' : Bytes) : (loop capacity deadline headRequest buffer'
            (n + ((first :: more).take (capacity - n)).length)).Within (2 * left) :=
          (ih _ (by omega) (by omega) rfl).mono (by omega)
        split
        · exact .done _
        · split
          · exact .done _
          · exact hagain _
        · exact hagain _

namespace Client

variable {target : Target} {settings : Settings}

theorem within_probe (link : Link) : (probe link).Within 2 := by
  unfold probe
  split
  · refine .now fun time => .read fun outcome => ?_
    cases outcome <;> exact .done _
  · exact .done _

theorem within_secure (link : Link) : (secure target settings link).Within 3 := by
  unfold secure
  dsimp only
  split
  · refine .now fun time => .handshake fun outcome => ?_
    cases outcome with
    | secured => exact .done _
    | failed | timedOut => exact .close (.done _)
  · exact .close (.done _)

theorem within_connect (link : Link) : (connect target settings link).Within 6 := by
  unfold connect
  refine .close (.now fun time => .dial fun outcome => ?_)
  cases outcome with
  | connected =>
    dsimp only
    split
    · exact within_secure _
    · exact .done _
  | unresolved | noAddress | refused | timedOut => exact .done _

theorem within_ensureConnected (link : Link) : (ensureConnected target settings link).Within 8 := by
  refine Task.Within.bind (n := 6) (within_probe link) fun alive => ?_
  cases alive with
  | true => exact .done _
  | false => exact within_connect link

theorem within_receive (hcapacity : 0 < settings.capacity) (link : Link) (headRequest : Bool)
    (deadline : Instant) :
    (receive settings link headRequest deadline).Within (2 * settings.capacity + 1) := by
  refine (Reading.within_loop hcapacity).bind fun r => ?_
  dsimp only
  split
  · exact .done _
  · exact .close (.done _)

/-- How many operations a round trip takes at most: those that make the link ready, a look at the
clock and the write, and then two for each byte that the buffer holds and one to close. -/
def roundTripEffort (settings : Settings) : Nat := 2 * settings.capacity + 11

theorem within_roundTrip (hcapacity : 0 < settings.capacity) (link : Link) (request : Bytes) :
    (roundTrip target settings link request).Within (roundTripEffort settings) := by
  have hrest : 8 + (2 * settings.capacity + 3) = roundTripEffort settings := by
    rw [roundTripEffort]
    omega
  refine hrest ▸ (within_ensureConnected link).bind fun (ready, opened) => ?_
  cases opened with
  | error why => exact .done _
  | ok =>
    refine .now fun time => .write fun outcome => ?_
    cases outcome with
    | written => exact within_receive hcapacity _ _ _
    | failed | timedOut => exact .close (.done _)

/-- A chase takes one round trip for each redirect that is left, one more, and a look at the
calendar. -/
theorem within_chase (hcapacity : 0 < settings.capacity) {redirects : Nat} (link : Link)
    (request : Bytes) :
    (chase target settings redirects link request).Within
      ((settings.redirectLimit - redirects + 1) * roundTripEffort settings + 1) := by
  induction hleft : settings.redirectLimit - redirects using Nat.strongRecOn
    generalizing redirects link request with
  | ind left ih =>
    rw [chase]
    have hsplit : (left + 1) * roundTripEffort settings + 1 =
        roundTripEffort settings + (left * roundTripEffort settings + 1) := by
      rw [Nat.succ_mul]
      omega
    refine hsplit ▸ (within_roundTrip hcapacity link request).bind fun (after, result) => ?_
    cases result with
    | error why => exact (Task.Within.date fun today => .done _).mono (Nat.le_add_left 1 _)
    | ok response =>
      dsimp only
      split
      next => exact .done _
      next next hsome =>
        have hless := lt_of_redirectRequest? hsome
        obtain ⟨fewer, rfl⟩ : ∃ fewer, left = fewer + 1 := ⟨left - 1, by omega⟩
        exact ih fewer (Nat.lt_succ_self fewer) after next (by omega)

end Client
end HttpReplay
