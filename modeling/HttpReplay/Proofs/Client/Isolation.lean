import HttpReplay.Proofs.Client.Exchange
import HttpReplay.Proofs.Http.Verdict

/-!
No byte of one response is ever taken for part of another.

The statement is about a client that is used for any number of sends, with any redirects between
them, against a target whose messages are recognised as whole exactly at their last byte and which
may at any time stop sending: the bytes come in any portions, at any time, and then the connection
stays open, stalls, ends or breaks down. `Isolated` says what one round trip then is: the probe
reads nothing, every byte read later answers the request just written, and what is returned is the
message, its beginning as far as the buffer holds it, as much of it as came, or a failure, the
connection being kept in the first of these cases only.

The invariant that carries it is short (`InStep`): as long as a connection is held, nothing is on
its way. It is what the rule for keeping a connection is for. A loop that ends because the framing
says so has read the message to its end, since every shorter beginning is incomplete; every other
loop drops the connection, and with it whatever is still to come.
-/

set_option autoImplicit false

namespace HttpReplay

open HttpReplay.Task (Event)
open HttpReplay.Reading (Reads)

/-- Whether a target answers every request with part of a message that ends exactly, or all of it.
-/
def Server.SendsExact (server : Server) : Prop :=
  ∀ k request, Http.EndsExactly (Http.isHeadRequest request) (server k request).message ∧
    (server k request).sent <+: (server k request).message

namespace Client

open Wire (InStep answering)

variable {server : Server} {target : Target} {settings : Settings}

/-- What a round trip that wrote its request may come to, given the message that answers it: the
bytes it read, what it returns and whether it keeps the connection. -/
inductive Returns (capacity : Nat) (message : Bytes) :
    Bytes → Except Failure Bytes → Bool → Prop
  /-- The message was read to its end. -/
  | whole : message.length < capacity → Returns capacity message message (.ok message) true
  /-- The message filled the buffer. -/
  | cut {read : Bytes} : capacity ≤ read.length → read <+: message →
      Returns capacity message read (.ok (message.take capacity)) false
  /-- Only the beginning of the message came. -/
  | part {read : Bytes} : read ≠ [] → read <+: message → read ≠ message →
      Returns capacity message read (.ok read) false
  /-- Nothing came. -/
  | nothing (why : Failure) : Returns capacity message [] (.error why) false

/-- **The law of one round trip**: nothing is read before the request is written, all that is read
afterwards answers this request, and it is returned as `Returns` says. -/
def Isolated (server : Server) (target : Target) (settings : Settings) (w : Wire) (h : Hop)
    (w' : Wire) : Prop :=
  Task.received h.opening = [] ∧
    ((h.exchange = [] ∧ w'.delivered = w.delivered ∧ (∃ why, h.result = .error why) ∧
        h.after.connected = false) ∨
      ∃ outcome rest, h.exchange = .write (wire target settings h.request) outcome :: rest ∧
        w'.delivered = w.delivered ++ answering w.asked (Task.received rest) ∧
        Returns settings.capacity (server w.asked (wire target settings h.request)).message
          (Task.received rest) h.result h.after.connected)

/-- Reading stops at the framing of what was read only at the end of a message that ends exactly:
every other beginning of it is incomplete. -/
theorem eq_of_endsWhole {headRequest : Bool} {capacity : Nat} {read message : Bytes}
    {reason : ReadEnd} (hexact : Http.EndsExactly headRequest message) (hread : read <+: message)
    (hsettled : Reads.Settled capacity headRequest read reason)
    (hwhole : reason.endsWhole = true) : read = message := by
  by_contra hne
  have hincomplete := hexact.2 read hread hne
  cases reason with
  | framed | drained => exact absurd (hincomplete.symm.trans hsettled.2) (by simp)
  | _ => cases hwhole

/-- What a round trip comes to that has read a beginning of a message that ends exactly. -/
theorem returns_of_settled {headRequest : Bool} {read message : Bytes} {reason : ReadEnd}
    (hcapacity : 0 < settings.capacity) (hexact : Http.EndsExactly headRequest message)
    (hread : read <+: message)
    (hsettled : Reads.Settled settings.capacity headRequest read reason) :
    Returns settings.capacity message read (result settings read reason) reason.endsWhole := by
  have hmessage : message ≠ [] := by
    rintro rfl
    exact absurd (Http.framing_nil headRequest ▸ hexact.1) (by simp)
  have short (hless : read.length < settings.capacity)
      (hopen : read = [] ∨ Http.framing headRequest read = .incomplete) :
      Returns settings.capacity message read (result settings read reason) false := by
    by_cases hnil : read = []
    · rw [result, if_pos hnil, hnil]
      exact .nothing _
    · have hincomplete := hopen.resolve_left hnil
      have hne : read ≠ message := by
        rintro rfl
        exact absurd (hincomplete.symm.trans hexact.1) (by simp)
      rw [result, if_neg hnil, List.take_of_length_le (Nat.le_of_lt hless)]
      exact .part hnil hread hne
  cases reason with
  | framed | drained =>
    obtain rfl := eq_of_endsWhole hexact hread hsettled rfl
    rw [result, if_neg hmessage, List.take_of_length_le (Nat.le_of_lt hsettled.1)]
    exact .whole hsettled.1
  | peerClosed | timedOut | failed => exact short hsettled.1 hsettled.2
  | bufferFull =>
    have hfull : settings.capacity ≤ read.length := hsettled
    have hnil : read ≠ [] := by
      rintro rfl
      rw [List.length_nil] at hfull
      omega
    -- The bytes that fit are those of the message as well.
    have htake : read.take settings.capacity = message.take settings.capacity := by
      obtain ⟨rest, rfl⟩ := hread
      rw [List.take_append_of_le_length hfull]
    rw [result, if_neg hnil, htake]
    exact .cut hfull hread

/-- What was read from the write on, and what became of it. -/
theorem returns_of_settles {headRequest : Bool} {outcome : WriteOutcome} {rest : List Event}
    {link' : Link} {out : Except Failure Bytes} {k : Nat} {message sent : Bytes} {w w' : Wire}
    (hcapacity : 0 < settings.capacity) (hexact : Http.EndsExactly headRequest message)
    (hsent : sent <+: message)
    (h : Settles settings headRequest outcome rest link' out)
    (hw : w.pending = answering k sent) (hrun : w.run server rest = some w') :
    w'.delivered = w.delivered ++ answering k (Task.received rest) ∧
      Returns settings.capacity message (Task.received rest) out link'.connected ∧
      InStep link' w' := by
  obtain ⟨hdelivered, ⟨hnil, ⟨why, rfl⟩, hlink, hclear⟩ |
    ⟨reason, left, hsplit, hsettled, rfl, hlink, hpending⟩⟩ := Wire.run_settles hcapacity h hw hrun
  · refine ⟨hdelivered, ?_, fun _ => hclear⟩
    rw [hnil, hlink]
    exact .nothing why
  · have hstart : Task.received rest <+: sent := ⟨left, hsplit.symm⟩
    have hread : Task.received rest <+: message := hstart.trans hsent
    refine ⟨hdelivered, hlink ▸ returns_of_settled hcapacity hexact hread hsettled, ?_⟩
    intro hconnected
    have hwhole : reason.endsWhole = true := hlink.symm.trans hconnected
    have hall := eq_of_endsWhole hexact hread hsettled hwhole
    -- The whole message was read, so what was sent has no more.
    have hsame : Task.received rest = sent :=
      hstart.eq_of_length_le (hall ▸ hsent.length_le)
    have hleft : left = [] := by simpa [← hsame] using hsplit
    rw [hpending, if_pos hwhole, hleft]
    rfl

/-- A round trip that begins in step with the wire obeys the law and leaves them in step. -/
theorem isolated_of_made (hcapacity : 0 < settings.capacity) (hserver : server.SendsExact)
    {h : Hop} {w w' : Wire} (hmade : Made target settings h)
    (hrun : w.run server h.events = some w') (hstep : InStep h.before w) :
    Isolated server target settings w h w' ∧ InStep h.after w' := by
  obtain ⟨hopening, ⟨hexchange, hdelivered, hresult, hlink⟩ |
    ⟨outcome, rest, u, hexchange, hdelivered, hpending, hrest, hsettles⟩⟩ :=
    Wire.run_made hcapacity hmade hrun hstep
  · refine ⟨⟨hopening, .inl ⟨hexchange, hdelivered, hresult, hlink⟩⟩, fun hconnected => ?_⟩
    rw [hlink] at hconnected
    cases hconnected
  · obtain ⟨hexact, hsent⟩ := hserver w.asked (wire target settings h.request)
    -- From here on nothing is on its way but the answer to this request.
    obtain ⟨hread, hreturns, hstep'⟩ :=
      returns_of_settles hcapacity hexact hsent hsettles hpending hrest
    rw [hdelivered] at hread
    exact ⟨⟨hopening, .inr ⟨outcome, rest, hexchange, hread, hreturns⟩⟩, hstep'⟩

theorem capacity_completed_pos (settings : Settings) : 0 < settings.completed.capacity := by
  unfold Settings.completed
  simp only
  split
  · decide
  · omega

/-- **Responses are isolated.** However often a new client is used, and whatever happens to its
connections, every one of its round trips obeys the law, as long as the target's messages end
exactly where they are recognised as whole. -/
theorem sends_isolated {settings : Settings} (hserver : server.SendsExact)
    {log : List (Bytes × Reply)} {es : List Event} {c : Client} {w : Wire}
    (h : Sends (create target settings) log es c) (hrun : Wire.idle.run server es = some w) :
    ∃ hops, Trips (create target settings) log hops es c ∧
      Wire.Along server (Isolated server target settings.completed) Wire.idle hops w := by
  obtain ⟨hops, htrips⟩ := exists_trips_of_sends h
  refine ⟨hops, htrips, ?_⟩
  have law (h : Hop) (w u : Wire) (hmade : Made target settings.completed h)
      (hu : w.run server h.events = some u) (hstep : InStep h.before w) :=
    isolated_of_made (capacity_completed_pos settings) hserver hmade hu hstep
  exact Wire.Along.of_chained law htrips.chained (Wire.run_of_trips htrips hrun) (fun _ => rfl)

/-! ## A client in use

A target without a body in its responses, which sends the first one whole and breaks off in the
middle of the second. The first response comes in two portions and is kept apart from the second.
-/

/-- A target that is spoken to in the clear. -/
def site : Target := .onHost .http "site" none

/-- A client's settings: requests are written as they are, and responses have 100 bytes at most. -/
def plain : Settings := ⟨0, true, 0, 0, 100⟩

/-- A request that is written as it is. -/
def rootRequest : Bytes := Bytes.ofText "GET / HTTP/1.1\r\n\r\n"

/-- A response without a body. -/
def noContent : Bytes := Bytes.ofText "HTTP/1.1 204\r\n\r\n"

/-- A target that breaks off in the middle of every response but the first. -/
def faltering : Server := fun k _ => ⟨noContent, if k = 0 then noContent else noContent.take 7⟩

/-- Two sends to the faltering target, the first of which opens the connection. -/
def falteringEvents : List Event :=
  [.close, .now 0, .dial "site:80" .connected, .now 1, .write rootRequest .written,
    .now 2, .read 100 (.received 0x48 (Bytes.ofText "TTP/")),
    .now 3, .read 100 (.received 0x31 (Bytes.ofText ".1 204\r\n\r\n")),
    .now 4, .read 1 .timedOut, .now 5, .write rootRequest .written,
    .now 6, .read 100 (.received 0x48 (Bytes.ofText "TTP/1.")),
    .now 7, .read 100 .ended, .close]

theorem faltering_sendsExact : faltering.SendsExact := by
  intro k request
  have hexact : ∀ headRequest, Http.EndsExactly headRequest noContent := by decide +kernel
  refine ⟨hexact _, ?_⟩
  by_cases hk : k = 0
  · simp only [faltering, if_pos hk]
    exact List.prefix_refl _
  · simp only [faltering, if_neg hk]
    exact List.take_prefix 7 _

theorem sends_isolated_faltering :
    faltering.SendsExact ∧
      ∃ c w, Sends (create site plain)
          [(rootRequest, .answered noContent), (rootRequest, .answered (noContent.take 7))]
          falteringEvents c ∧
        Wire.idle.run faltering falteringEvents = some w ∧
        ∃ hops, Trips (create site plain)
            [(rootRequest, .answered noContent), (rootRequest, .answered (noContent.take 7))]
            hops falteringEvents c ∧
          Wire.Along faltering (Isolated faltering site plain.completed) Wire.idle hops w := by
  have hfirst : ((create site plain).send rootRequest).Runs (falteringEvents.take 9)
      (⟨site, plain.completed, ⟨true, noContent⟩, 0⟩, .answered noContent) := by decide +kernel
  have hsecond : (send ⟨site, plain.completed, ⟨true, noContent⟩, 0⟩ rootRequest).Runs
      (falteringEvents.drop 9)
      (⟨site, plain.completed, ⟨false, noContent⟩, 0⟩, .answered (noContent.take 7)) := by
    decide +kernel
  have hsends := Sends.cons hfirst (.cons hsecond (.nil _))
  have hrun : Wire.idle.run faltering falteringEvents =
      some ⟨2, [], Wire.answering 0 noContent ++ Wire.answering 1 (noContent.take 7)⟩ := by
    decide +kernel
  exact ⟨faltering_sendsExact, _, _, hsends, hrun,
    sends_isolated faltering_sendsExact hsends hrun⟩

end Client
end HttpReplay
