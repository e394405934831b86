import HttpReplay.Client.Basic
import HttpReplay.Proofs.Client.Reading

/-!
What one round trip can do, said once.

A round trip has two phases, and the wire tells them apart: until the request is written nothing of
its answer can be on its way, so whatever a read brings in then, the probe's one byte included,
belongs to an earlier request. `Opens` lists what can happen in the first phase, `Settles` what can
happen from the write on, and `opens_or_settles_of_roundTrip` puts them together. After a response
was read the connection is kept exactly where the loop ended because of the framing
(`keeps_eq_endsWhole`): the further test after a read that timed out never succeeds, since a loop
that goes on to read holds an incomplete response.
-/

set_option autoImplicit false

namespace HttpReplay

/-- Whether reading stopped because of the framing of what was read. -/
def ReadEnd.endsWhole : ReadEnd → Bool
  | .framed | .drained => true
  | .bufferFull | .peerClosed | .timedOut | .failed _ => false

namespace Client

open HttpReplay.Task (Event runs_done_iff runs_of_bind)
open HttpReplay.Reading (Reads)

variable {target : Target} {settings : Settings} {link link' : Link} {request : Bytes}
  {es : List Event} {headRequest : Bool}

/-! ## Making sure of a connection -/

/-- The probe reads where there is a connection, and takes it for dead only if the stream ended. -/
theorem probe_runs {alive : Bool} (h : (probe link).Runs es alive) :
    (link.connected = false ∧ es = [] ∧ alive = false) ∨
      (link.connected = true ∧ ∃ time outcome, es = [.now time, .read 1 outcome] ∧
        alive = !decide (outcome = .ended)) := by
  unfold probe at h
  split at h
  next hconnected =>
    cases h with | now time h =>
    cases h with | read outcome h =>
    refine .inr ⟨hconnected, time, outcome, ?_⟩
    cases outcome with
    | ended | received | failed | timedOut =>
      obtain ⟨rfl, rfl⟩ := runs_done_iff.1 h
      exact ⟨rfl, by simp⟩
  next hconnected =>
    obtain ⟨rfl, rfl⟩ := runs_done_iff.1 h
    exact .inl ⟨by simpa using hconnected, rfl, rfl⟩

/-- What securing a connection leaves behind. -/
theorem secure_runs {result : Except Failure Unit}
    (h : (secure target settings link).Runs es (link', result)) :
    (∀ e ∈ es, e.isSilent = true) ∧ link'.connected = result.isOk := by
  unfold secure at h
  simp only at h
  split at h
  · cases h with | now time h =>
    cases h with | handshake outcome h =>
    cases outcome with
    | secured =>
      simp only [runs_done_iff, Prod.mk.injEq] at h
      obtain ⟨rfl, rfl, rfl⟩ := h
      exact ⟨by simp [Event.isSilent], rfl⟩
    | failed | timedOut =>
      simp only at h
      cases h with | close h =>
      simp only [runs_done_iff, Prod.mk.injEq] at h
      obtain ⟨rfl, rfl, rfl⟩ := h
      exact ⟨by simp [Event.isSilent], rfl⟩
  · cases h with | close h =>
    simp only [runs_done_iff, Prod.mk.injEq] at h
    obtain ⟨rfl, rfl, rfl⟩ := h
    exact ⟨by simp [Event.isSilent], rfl⟩

/-- Connecting drops the old connection before anything else and neither reads nor writes. There is
a connection afterwards exactly if it succeeded. -/
theorem connect_runs {result : Except Failure Unit}
    (h : (connect target settings link).Runs es (link', result)) :
    ∃ dialing, es = .close :: dialing ∧ (∀ e ∈ dialing, e.isSilent = true) ∧
      link'.connected = result.isOk := by
  unfold connect at h
  simp only at h
  cases h with | close h =>
  cases h with | now time h =>
  cases h with | dial outcome h =>
  refine ⟨_, rfl, ?_⟩
  cases outcome with
  | connected =>
    simp only at h
    split at h
    · obtain ⟨hsilent, hlink⟩ := secure_runs h
      refine ⟨?_, hlink⟩
      simp only [List.forall_mem_cons]
      exact ⟨rfl, rfl, hsilent⟩
    · simp only [runs_done_iff, Prod.mk.injEq] at h
      obtain ⟨rfl, rfl, rfl⟩ := h
      exact ⟨by simp [Event.isSilent], rfl⟩
  | unresolved | noAddress | refused | timedOut =>
    simp only [runs_done_iff, Prod.mk.injEq] at h
    obtain ⟨rfl, rfl, rfl⟩ := h
    exact ⟨by simp [Event.isSilent], rfl⟩

/-- How a link is made ready: through which events, to which link, and whether it worked. -/
inductive Opens : Link → List Event → Link → Except Failure Unit → Prop
  | alive {link : Link} (time : Instant) (outcome : ReadOutcome) :
      link.connected = true → outcome ≠ .ended →
      Opens link [.now time, .read 1 outcome] link (.ok ())
  | replaced {link link' : Link} {dialing : List Event} {result : Except Failure Unit}
      (time : Instant) :
      link.connected = true → (∀ e ∈ dialing, e.isSilent = true) →
      link'.connected = result.isOk →
      Opens link (.now time :: .read 1 .ended :: .close :: dialing) link' result
  | fresh {link link' : Link} {dialing : List Event} {result : Except Failure Unit} :
      link.connected = false → (∀ e ∈ dialing, e.isSilent = true) →
      link'.connected = result.isOk →
      Opens link (.close :: dialing) link' result

theorem opens_of_ensureConnected {result : Except Failure Unit}
    (h : (ensureConnected target settings link).Runs es (link', result)) :
    Opens link es link' result := by
  obtain ⟨probing, rest, alive, rfl, hprobe, h⟩ := runs_of_bind h
  rcases probe_runs hprobe with ⟨hlink, rfl, rfl⟩ | ⟨hlink, time, outcome, rfl, rfl⟩
  · obtain ⟨dialing, rfl, hsilent, hlink'⟩ := connect_runs h
    exact .fresh hlink hsilent hlink'
  · by_cases hended : outcome = .ended
    · subst hended
      obtain ⟨dialing, rfl, hsilent, hlink'⟩ := connect_runs (by simpa using h)
      exact .replaced time hlink hsilent hlink'
    · simp only [hended, decide_false, Bool.not_false, if_true, runs_done_iff, Prod.mk.injEq] at h
      obtain ⟨rfl, rfl, rfl⟩ := h
      exact .alive time outcome hlink hended

/-- A link is ready exactly if there is a connection. -/
theorem Opens.connected_iff {result : Except Failure Unit} (h : Opens link es link' result) :
    link'.connected = result.isOk := by
  cases h with
  | alive time outcome hlink _ => exact hlink
  | replaced _ _ _ hlink' => exact hlink'
  | fresh _ _ hlink' => exact hlink'

/-- Nothing is written to make a link ready. -/
theorem Opens.not_isWrite {result : Except Failure Unit} (h : Opens link es link' result) :
    ∀ e ∈ es, e.isWrite = false := by
  have silent {dialing : List Event} (hs : ∀ e ∈ dialing, e.isSilent = true) :
      ∀ e ∈ dialing, e.isWrite = false := fun e he => Event.isWrite_of_isSilent (hs e he)
  cases h with
  | alive => simp [Event.isWrite]
  | replaced _ _ hsilent _ =>
    simp only [List.forall_mem_cons]
    exact ⟨rfl, rfl, rfl, silent hsilent⟩
  | fresh _ hsilent _ =>
    simp only [List.forall_mem_cons]
    exact ⟨rfl, silent hsilent⟩

/-! ## From the write on -/

/-- The failure of a round trip that read nothing. -/
def nothingRead (settings : Settings) : ReadEnd → Failure
  | .timedOut => .readTimeout settings.timeout
  | .failed why => .read why
  | .framed | .drained | .bufferFull | .peerClosed => .closed

/-- What a round trip comes to that has read `all` until the loop ended for `reason`. -/
def result (settings : Settings) (all : Bytes) (reason : ReadEnd) : Except Failure Bytes :=
  if all = [] then .error (nothingRead settings reason) else .ok (all.take settings.capacity)

/-- How a round trip ends from the outcome of its write on: through which events, in which link,
with what. -/
inductive Settles (settings : Settings) (headRequest : Bool) :
    WriteOutcome → List Event → Link → Except Failure Bytes → Prop
  /-- The request could not be written. -/
  | writeFailed {link' : Link} (reason : String) : link'.connected = false →
      Settles settings headRequest (.failed reason) [.close] link' (.error (.write reason))
  /-- The request was not written in time. -/
  | writeTimedOut {link' : Link} : link'.connected = false →
      Settles settings headRequest .timedOut [.close] link'
        (.error (.writeTimeout settings.timeout))
  /-- The response ended where its framing says, and the connection is kept. -/
  | kept {link' : Link} {es : List Event} {all : Bytes} {reason : ReadEnd} :
      Reads settings.capacity headRequest [] es all reason → reason.endsWhole = true →
      link'.connected = true →
      Settles settings headRequest .written es link' (result settings all reason)
  /-- Reading ended in any other way, and the connection is dropped. -/
  | dropped {link' : Link} {es : List Event} {all : Bytes} {reason : ReadEnd} :
      Reads settings.capacity headRequest [] es all reason → reason.endsWhole = false →
      link'.connected = false →
      Settles settings headRequest .written (es ++ [.close]) link' (result settings all reason)

/-- The connection is kept exactly if the loop ended because of the framing. -/
theorem keeps_eq_endsWhole {r : Reading.Result} {all : Bytes} (hcapacity : 0 < settings.capacity)
    (hreads : Reads settings.capacity headRequest [] es all r.reason)
    (hresponse : r.response = all.take settings.capacity)
    (hcount : r.count = min all.length settings.capacity) :
    keeps headRequest r = r.reason.endsWhole := by
  have hsettled := hreads.settled hcapacity (.inl rfl)
  cases hreason : r.reason with
  | timedOut =>
    rw [hreason] at hsettled
    obtain ⟨hless, hopen⟩ := hsettled
    simp only [keeps, hreason, ReadEnd.endsWhole, Bool.and_eq_false_iff, decide_eq_false_iff_not,
      bne_eq_false_iff_eq]
    -- Nothing was read, or what was read is incomplete: either fails the test for keeping it.
    rcases hopen with rfl | hincomplete
    · exact .inl (by simp [hcount])
    · exact .inr (by rwa [hresponse, List.take_of_length_le (Nat.le_of_lt hless)])
  | framed | drained | bufferFull | peerClosed | failed => simp [keeps, hreason, ReadEnd.endsWhole]

theorem outcome_eq_result {r : Reading.Result} {all : Bytes} (hcapacity : 0 < settings.capacity)
    (hresponse : r.response = all.take settings.capacity)
    (hcount : r.count = min all.length settings.capacity) :
    outcome settings r = result settings all r.reason := by
  have hzero : r.count = 0 ↔ all = [] := by
    rw [hcount, ← List.length_eq_zero_iff]
    omega
  unfold outcome result
  by_cases hall : all = []
  · rw [if_pos (hzero.2 hall), if_pos hall]
    cases r.reason <;> rfl
  · rw [if_neg (mt hzero.1 hall), if_neg hall, hresponse]

theorem settles_of_receive {deadline : Instant} {out : Except Failure Bytes}
    (hcapacity : 0 < settings.capacity)
    (h : (receive settings link headRequest deadline).Runs es (link', out)) :
    Settles settings headRequest .written es link' out := by
  obtain ⟨reading, rest, r, rfl, hread, h⟩ := runs_of_bind h
  obtain ⟨all, hreads, hresponse, hcount⟩ :=
    Reading.exists_reads_of_readResponse hcapacity hread
  have hkeeps := keeps_eq_endsWhole hcapacity hreads hresponse hcount
  have hout := outcome_eq_result hcapacity hresponse hcount
  simp only [hkeeps, hout] at h
  split at h
  next hwhole =>
    simp only [runs_done_iff, Prod.mk.injEq] at h
    obtain ⟨rfl, rfl, rfl⟩ := h
    rw [List.append_nil]
    exact .kept hreads hwhole hwhole
  next hwhole =>
    cases h with | close h =>
    simp only [runs_done_iff, Prod.mk.injEq] at h
    obtain ⟨rfl, rfl, rfl⟩ := h
    have hwhole' : r.reason.endsWhole = false := by simpa using hwhole
    exact .dropped hreads hwhole' hwhole'

/-- **Every run of a round trip** either fails to get a connection, or writes the request on one and
goes on from the outcome of that. -/
theorem opens_or_settles_of_roundTrip {out : Except Failure Bytes}
    (hcapacity : 0 < settings.capacity)
    (h : (roundTrip target settings link request).Runs es (link', out)) :
    (∃ why, Opens link es link' (.error why) ∧ out = .error why) ∨
      ∃ opening ready time outcome rest, Opens link opening ready (.ok ()) ∧
        es = opening ++ .now time :: .write (wire target settings request) outcome :: rest ∧
        Settles settings (Http.isHeadRequest (wire target settings request)) outcome rest
          link' out := by
  obtain ⟨opening, rest, ⟨ready, opened⟩, rfl, hopen, h⟩ := runs_of_bind h
  have hopens := opens_of_ensureConnected hopen
  cases opened with
  | error why =>
    simp only [runs_done_iff, Prod.mk.injEq] at h
    obtain ⟨rfl, rfl, rfl⟩ := h
    rw [List.append_nil]
    exact .inl ⟨why, hopens, rfl⟩
  | ok =>
    simp only at h
    cases h with | now time h =>
    cases h with | write outcome h =>
    refine .inr ⟨opening, ready, time, outcome, _, hopens, rfl, ?_⟩
    cases outcome with
    | written => exact settles_of_receive hcapacity h
    | failed reason =>
      simp only at h
      cases h with | close h =>
      simp only [runs_done_iff, Prod.mk.injEq] at h
      obtain ⟨rfl, rfl, rfl⟩ := h
      exact .writeFailed reason rfl
    | timedOut =>
      simp only at h
      cases h with | close h =>
      simp only [runs_done_iff, Prod.mk.injEq] at h
      obtain ⟨rfl, rfl, rfl⟩ := h
      exact .writeTimedOut rfl

end Client
end HttpReplay
