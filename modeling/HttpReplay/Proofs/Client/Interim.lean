import HttpReplay.Proofs.Client.Isolation
import HttpReplay.Proofs.Http.Scan

/-!
Interim responses, and where they shift the answers.

A target may send interim responses, `100 Continue` and the like, before the final one. Each of
them is a head without a body, and a client that takes it for the response to its request stops
reading where it ends. This is what the framing makes it do: no body can follow a code of one
hundred and something, so the first interim response is complete as soon as its head is, whatever
may come after it (`Http.IsInterim.framing_append`).

So it depends on the portions that the bytes come in whether answers are kept apart. If the portion
that brings the last byte of the first interim response brings the whole rest of the answer as well,
all is well: the response is the whole answer, interim responses included. Otherwise the connection
is kept with the rest on its way, and the next request is answered with it. `unmixed_iff_unbroken`
says that nothing else matters, for one round trip, and `interim_unmixed_iff` says it for all the
round trips of a client.
-/

set_option autoImplicit false

namespace HttpReplay

open HttpReplay.Task (Event)
open HttpReplay.Reading (Reads)

namespace Http

/-! ## Interim responses -/

/-- Whether a message is an interim response: a head with a code of one hundred and something, and
nothing after it. -/
def IsInterim (message : Bytes) : Prop :=
  ∃ h, responseHead message = .found h [] ∧ 100 ≤ h.start.code ∧ h.start.code < 200

variable {headRequest : Bool} {first start : Bytes}

/-- **An interim response counts as complete**, whatever comes after it. -/
theorem IsInterim.framing_append (h : IsInterim first) (more : Bytes) :
    framing headRequest (first ++ more) = .complete := by
  obtain ⟨head, hhead, hlow, hhigh⟩ := h
  have hbodiless : isBodiless head.start.code = true := by
    simp [isBodiless, hlow, hhigh]
  rw [framing, firm_responseHead.found_append hhead more]
  simp only [Delimiter.ofHead, hbodiless, Bool.or_true, if_true]
  rfl

/-- Any beginning of it is incomplete. -/
theorem IsInterim.framing_of_prefix (h : IsInterim first) (hstart : start <+: first)
    (hne : start ≠ first) : framing headRequest start = .incomplete := by
  obtain ⟨head, hhead, -, -⟩ := h
  rw [framing, firm_responseHead.cut_of_prefix hhead hstart hne]

theorem IsInterim.ne_nil (h : IsInterim first) : first ≠ [] := by
  rintro rfl
  have hcomplete : framing false ([] ++ []) = .complete := h.framing_append []
  cases (framing_nil false).symm.trans hcomplete

/-- An answer in stages: interim responses, at least one of them, and the final response. -/
structure Staged (headRequest : Bool) where
  first : Bytes
  others : List Bytes
  final : Bytes
  first_isInterim : IsInterim first
  others_isInterim : ∀ message ∈ others, IsInterim message
  final_endsExactly : EndsExactly headRequest final
  final_not_isInterim : ∀ h rest, responseHead final = .found h rest →
    ¬ (100 ≤ h.start.code ∧ h.start.code < 200)

def Staged.message (a : Staged headRequest) : Bytes := a.first ++ (a.others.flatten ++ a.final)

end Http

/-- A target that answers every request in stages. -/
abbrev Stages := (k : Nat) → (request : Bytes) → Http.Staged (Http.isHeadRequest request)

/-- It sends all of its answers. -/
def Stages.server (t : Stages) : Server := fun k request =>
  ⟨(t k request).message, (t k request).message⟩

namespace Client

open Wire (InStep answering)

variable {t : Stages} {target : Target} {settings : Settings}

/-! ## One round trip -/

/-- A round trip that keeps its answer to itself: all that it reads answers its own request, all
that it returns was read in it, and a connection that it keeps has nothing on its way. -/
structure Unmixed (settings : Settings) (w : Wire) (h : Hop) (w' : Wire) : Prop where
  opening : Task.received h.opening = []
  own : w'.delivered = w.delivered ++ answering w.asked (Task.received h.exchange)
  returned : ∀ response, h.result = .ok response →
    response = (Task.received h.exchange).take settings.capacity
  clear : h.after.connected = true → w'.pending = []

/-- A round trip in which no portion ends between the first interim response and the end of the
answer: if the one has been read, so has the other. -/
def Unbroken (t : Stages) (target : Target) (settings : Settings) (w : Wire) (h : Hop)
    (_ : Wire) : Prop :=
  (t w.asked (wire target settings h.request)).first <+: Task.received h.exchange →
    Task.received h.exchange = (t w.asked (wire target settings h.request)).message

/-- The read loop stops at the framing exactly if it got past the first interim response, unless the
buffer is full. Past that response the bytes are complete and before its end they are not, so what
comes later in the answer is never looked at. -/
theorem endsWhole_iff_of_settled {headRequest : Bool} {capacity : Nat} {first read : Bytes}
    {reason : ReadEnd} (hfirst : Http.IsInterim first) (hstart : first <+: read ∨ read <+: first)
    (hless : read.length < capacity)
    (hsettled : Reads.Settled capacity headRequest read reason) :
    reason.endsWhole = true ↔ first <+: read := by
  constructor
  · intro hwhole
    by_contra hnot
    have hincomplete : Http.framing headRequest read = .incomplete :=
      hfirst.framing_of_prefix (hstart.resolve_left hnot)
        fun hsame => hnot (hsame ▸ List.prefix_refl _)
    cases reason with
    | framed | drained => exact absurd (hincomplete.symm.trans hsettled.2) (by simp)
    | _ => cases hwhole
  · rintro ⟨more, rfl⟩
    have hcomplete : Http.framing headRequest (first ++ more) = .complete :=
      hfirst.framing_append more
    cases reason with
    | framed | drained => rfl
    | bufferFull => exact absurd hless (Nat.not_lt.2 hsettled)
    | peerClosed | timedOut | failed =>
      obtain hnil | hincomplete := hsettled.2
      · exact absurd (List.append_eq_nil_iff.1 hnil).1 hfirst.ne_nil
      · exact absurd (hincomplete.symm.trans hcomplete) (by simp)

/-- From the write on, all that is read is the request's own; and the connection is kept with
something on its way exactly if reading stopped between the first interim response and the end. -/
theorem clear_iff_of_settles {server : Server} {headRequest : Bool} {a : Http.Staged headRequest}
    {outcome : WriteOutcome} {rest : List Event} {link' : Link} {out : Except Failure Bytes}
    {k : Nat} {w w' : Wire} (hcapacity : 0 < settings.capacity)
    (hfits : a.message.length ≤ settings.capacity)
    (h : Settles settings headRequest outcome rest link' out)
    (hw : w.pending = answering k a.message) (hrun : w.run server rest = some w') :
    w'.delivered = w.delivered ++ answering k (Task.received rest) ∧
      (∀ response, out = .ok response →
        response = (Task.received rest).take settings.capacity) ∧
      ((link'.connected = true → w'.pending = []) ↔
        (a.first <+: Task.received rest → Task.received rest = a.message)) := by
  have hfirst := a.first_isInterim
  obtain ⟨hdelivered, ⟨hnil, ⟨why, rfl⟩, hlink, hclear⟩ |
    ⟨reason, left, hsplit, hsettled, rfl, hlink, hpending⟩⟩ := Wire.run_settles hcapacity h hw hrun
  · refine ⟨hdelivered, nofun, fun _ hread => ?_, fun _ _ => hclear⟩
    rw [hnil] at hread
    exact absurd (List.prefix_nil.1 hread) hfirst.ne_nil
  · refine ⟨hdelivered, ?_, ?_⟩
    · intro response hresult
      unfold result at hresult
      split at hresult
      · cases hresult
      · exact (Except.ok.inj hresult).symm
    have hprefix : Task.received rest <+: a.message := ⟨left, hsplit.symm⟩
    have hclear : Task.received rest = a.message ↔ left = [] := by
      rw [hsplit]
      exact ⟨fun h => by simpa using h, fun h => by simp [h]⟩
    rw [hlink, hclear, hpending]
    by_cases hless : (Task.received rest).length < settings.capacity
    · have hstart : a.first <+: Task.received rest ∨ Task.received rest <+: a.first :=
        List.prefix_or_prefix_of_prefix (List.prefix_append _ _) hprefix
      rw [← endsWhole_iff_of_settled hfirst hstart hless hsettled]
      refine imp_congr_right fun hwhole => ?_
      rw [if_pos hwhole]
      simp [answering]
    · -- A full buffer holds the whole answer.
      have hall := hprefix.eq_of_length_le (Nat.le_trans hfits (Nat.not_lt.1 hless))
      have hleft := hclear.1 hall
      simp [hleft, answering]

/-- **A round trip keeps its answer to itself exactly if the answer is unbroken.** -/
theorem unmixed_iff_unbroken (hcapacity : 0 < settings.capacity)
    (hfits : ∀ k request, (t k request).message.length ≤ settings.capacity) {h : Hop}
    {w w' : Wire} (hmade : Made target settings h) (hrun : w.run t.server h.events = some w')
    (hstep : InStep h.before w) :
    Unmixed settings w h w' ↔ Unbroken t target settings w h w' := by
  obtain ⟨hopening, ⟨hexchange, hdelivered, ⟨why, hresult⟩, hlink⟩ |
    ⟨outcome, rest, u, hexchange, hdelivered, hpending, hrest, hsettles⟩⟩ :=
    Wire.run_made hcapacity hmade hrun hstep
  · have hnil : Task.received h.exchange = [] := by
      rw [hexchange]
      rfl
    have hunbroken : Unbroken t target settings w h w' := by
      intro hread
      rw [hnil] at hread
      exact absurd (List.prefix_nil.1 hread) (t _ _).first_isInterim.ne_nil
    have hunmixed : Unmixed settings w h w' := by
      refine ⟨hopening, ?_, ?_, ?_⟩
      · rw [hnil, hdelivered]
        exact (List.append_nil _).symm
      · intro response hresponse
        rw [hresult] at hresponse
        cases hresponse
      · intro hconnected
        rw [hlink] at hconnected
        cases hconnected
    exact ⟨fun _ => hunbroken, fun _ => hunmixed⟩
  · obtain ⟨hread, hreturned, hclear⟩ := clear_iff_of_settles hcapacity
      (hfits w.asked (wire target settings h.request)) hsettles hpending hrest
    have hreceived : Task.received h.exchange = Task.received rest := by
      rw [hexchange]
      rfl
    unfold Unbroken
    rw [hreceived, ← hclear]
    constructor
    · exact fun hunmixed => hunmixed.clear
    · intro hkept
      refine ⟨hopening, ?_, ?_, hkept⟩
      · rw [hread, hdelivered, hreceived]
      · rwa [hreceived]

/-! ## All round trips -/

/-- Answers that are kept apart all along leave link and wire in step. -/
theorem inStep_of_unmixed {server : Server} {link link' : Link} {hops : List Hop} {w w' : Wire}
    (h : Chained target settings link hops link')
    (halong : Wire.Along server (Unmixed settings) w hops w') (hstep : InStep link w) :
    InStep link' w' := by
  induction h generalizing w with
  | nil =>
    cases halong
    exact hstep
  | cons _ _ ih =>
    cases halong with
    | cons _ hunmixed hrest => exact ih hrest hunmixed.clear

/-- **Interim responses shift no answers exactly if they are unbroken.** However often a new client
is used against a target that answers in stages, all of whose answers fit in the buffer: answers are
kept apart in all of its round trips exactly if no portion of any answer ends between the first
interim response and the end of the answer. -/
theorem interim_unmixed_iff {settings : Settings}
    (hfits : ∀ k request, (t k request).message.length ≤ settings.completed.capacity)
    {log : List (Bytes × Reply)} {es : List Event} {c : Client} {w : Wire}
    (h : Sends (create target settings) log es c)
    (hrun : Wire.idle.run t.server es = some w) :
    ∃ hops, Trips (create target settings) log hops es c ∧
      Wire.idle.run t.server (hops.flatMap Hop.events) = some w ∧
      (Wire.Along t.server (Unmixed settings.completed) Wire.idle hops w ↔
        Wire.Along t.server (Unbroken t target settings.completed) Wire.idle hops w) := by
  obtain ⟨hops, htrips⟩ := exists_trips_of_sends h
  have hcapacity := capacity_completed_pos settings
  have hchained := htrips.chained
  have hstart : InStep (create target settings).link Wire.idle := fun _ => rfl
  refine ⟨hops, htrips, Wire.run_of_trips htrips hrun, fun hunmixed => ?_, fun hunbroken => ?_⟩
  · refine Wire.Along.imp_of_chained (I := InStep) ?_ hchained hunmixed hstart
    intro hop v u hmade hu hstep hlaw
    exact ⟨(unmixed_iff_unbroken hcapacity hfits hmade hu hstep).1 hlaw, hlaw.clear⟩
  · refine Wire.Along.imp_of_chained (I := InStep) ?_ hchained hunbroken hstart
    intro hop v u hmade hu hstep hlaw
    have hunmixed := (unmixed_iff_unbroken hcapacity hfits hmade hu hstep).2 hlaw
    exact ⟨hunmixed, hunmixed.clear⟩

/-! ## A broken answer

A target that says `100 Continue` first. The portion that the client reads ends there, and so it
takes the final response to its first request for the answer to the second, less the byte that the
probe has eaten.
-/

/-- An interim response. -/
def goOn : Bytes := Bytes.ofText "HTTP/1.1 100 Continue\r\n\r\n"

/-- An interim response and a final one without a body. -/
def twoStaged (headRequest : Bool) : Http.Staged headRequest where
  first := goOn
  others := []
  final := noContent
  first_isInterim := ⟨⟨⟨1, 100⟩, []⟩, by decide +kernel, by decide, by decide⟩
  others_isInterim := nofun
  final_endsExactly := by cases headRequest <;> decide +kernel
  final_not_isInterim := by
    have hhead : Http.responseHead noContent = .found ⟨⟨1, 204⟩, []⟩ [] := by decide +kernel
    intro h rest hfound
    rw [hhead] at hfound
    cases hfound
    decide

/-- Two sends, the first of which reads the interim response alone. -/
def brokenEvents : List Event :=
  [.close, .now 0, .dial "site:80" .connected, .now 1, .write rootRequest .written,
    .now 2, .read 100 (.received 0x48 (goOn.drop 1)),
    .now 3, .read 1 (.received 0x48 []), .now 4, .write rootRequest .written,
    .now 5, .read 100 (.received 0x54 (noContent.drop 2))]

/-- The target that answers so. -/
def twoStages : Stages := fun _ request => twoStaged (Http.isHeadRequest request)

theorem fits_twoStages (k : Nat) (request : Bytes) :
    (twoStages k request).message.length ≤ plain.completed.capacity := by
  have hlength : (goOn ++ ([].flatten ++ noContent)).length ≤ plain.completed.capacity := by
    decide +kernel
  exact hlength

/-- What the client is left with: a connection, and the answer to its second request on it. -/
theorem sends_broken :
    ∃ c w, Sends (create site plain)
        [(rootRequest, .answered goOn), (rootRequest, .answered (noContent.drop 1))]
        brokenEvents c ∧
      Wire.idle.run twoStages.server brokenEvents = some w ∧ c.link.connected = true ∧
      w.delivered = answering 0 (goOn ++ noContent) ∧
      w.pending = answering 1 (goOn ++ noContent) := by
  have hfirst : ((create site plain).send rootRequest).Runs (brokenEvents.take 7)
      (⟨site, plain.completed, ⟨true, goOn⟩, 0⟩, .answered goOn) := by decide +kernel
  have hsecond : (send ⟨site, plain.completed, ⟨true, goOn⟩, 0⟩ rootRequest).Runs
      (brokenEvents.drop 7)
      (⟨site, plain.completed, ⟨true, noContent.drop 1 ++ goOn.drop 15⟩, 0⟩,
        .answered (noContent.drop 1)) := by decide +kernel
  have hrun : Wire.idle.run twoStages.server brokenEvents =
      some ⟨2, answering 1 (goOn ++ noContent), answering 0 (goOn ++ noContent)⟩ := by
    decide +kernel
  exact ⟨_, _, .cons hfirst (.cons hsecond (.nil _)), hrun, rfl, rfl, rfl⟩

/-- **Interim responses do shift answers.** It is not so that a client keeps the answers of every
target apart that answers in stages. -/
theorem interim_mixed :
    ¬ ∀ (t : Stages) (target : Target) (settings : Settings),
      (∀ k request, (t k request).message.length ≤ settings.completed.capacity) →
      ∀ (log : List (Bytes × Reply)) (es : List Event) (c : Client) (w : Wire),
        Sends (create target settings) log es c → Wire.idle.run t.server es = some w →
        ∃ hops, Trips (create target settings) log hops es c ∧
          Wire.Along t.server (Unmixed settings.completed) Wire.idle hops w := by
  intro h
  obtain ⟨c, w, hsends, hrun, hconnected, -, hpending⟩ := sends_broken
  obtain ⟨hops, htrips, halong⟩ := h twoStages site plain fits_twoStages _ _ c w hsends hrun
  have hclear := inStep_of_unmixed htrips.chained halong (fun _ => rfl) hconnected
  rw [hpending] at hclear
  have hsome : answering 1 (goOn ++ noContent) ≠ [] := by decide +kernel
  exact hsome hclear

theorem interim_unmixed_iff_broken :
    ∃ c w, (∀ k request, (twoStages k request).message.length ≤ plain.completed.capacity) ∧
      Sends (create site plain)
        [(rootRequest, .answered goOn), (rootRequest, .answered (noContent.drop 1))]
        brokenEvents c ∧
      Wire.idle.run twoStages.server brokenEvents = some w ∧
      ∃ hops, Trips (create site plain)
          [(rootRequest, .answered goOn), (rootRequest, .answered (noContent.drop 1))]
          hops brokenEvents c ∧
        Wire.idle.run twoStages.server (hops.flatMap Hop.events) = some w ∧
        (Wire.Along twoStages.server (Unmixed plain.completed) Wire.idle hops w ↔
          Wire.Along twoStages.server (Unbroken twoStages site plain.completed) Wire.idle
            hops w) := by
  obtain ⟨c, w, hsends, hrun, -⟩ := sends_broken
  exact ⟨c, w, fits_twoStages, hsends, hrun, interim_unmixed_iff fits_twoStages hsends hrun⟩

end Client
end HttpReplay
