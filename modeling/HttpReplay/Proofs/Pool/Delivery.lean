import HttpReplay.Proofs.Payload.RoundTrip
import HttpReplay.Proofs.Pool.Step

/-!
What is written to a pool is replayed exactly once.

A payload that can be replayed is, at every moment, in one of three places: in the queue, in the
hands of one worker, or among those that were replayed. The hands of a worker are its phase
(`Worker.Phase.payload?`), so no payload is held anywhere that a step could forget about: a wait
that ends for lack of work, or because everything is to stop, ends with empty hands, and a worker
that wants to leave has nothing in them.

The steps of a pool are therefore told apart by what they do to its books and to the hands of its
workers (`Deals`), and everything here is a sum that each of these few kinds of steps keeps. The
books (`Shared.books`) are the queue, the responses and what the log says; every entry is made when
it happens, so what was accepted, taken and replayed is read off the log.

Responses are held in the same way until they are handed over. Here giving up is possible, but only
once everything was told to stop or nobody is there to read them.
-/

set_option autoImplicit false

namespace HttpReplay

open Pool (Shared Entry)
open Payload (Header)

/-! ## Hands -/

namespace Worker

/-- The payload that a worker in this phase has taken and not replayed yet. -/
def Phase.payload? : Phase → Option Bytes
  | .woken (.payload payload) | .holding payload | .replaying payload => some payload
  | _ => none

/-- The response that a worker in this phase is to hand over. -/
def Phase.record? : Phase → Option TrackedResponse
  | .handingOver response => some response
  | _ => none

/-- What an answer leaves in the hands of a worker: a response, if they are tracked. -/
def answer? (s : Pool.Settings) (payload : Bytes) (reply : Reply) (roundTrip : Duration) :
    Option TrackedResponse :=
  if s.trackResponses then
    (Header.decode? payload).map fun header => ⟨header.id, reply.response, roundTrip⟩
  else none

theorem Phase.hands_of_isBetween {phase : Phase} (h : phase.isBetween = true) :
    phase.payload? = none ∧ phase.record? = none := by
  cases phase <;> first | exact ⟨rfl, rfl⟩ | cases h

theorem hands_replyPhase (s : Pool.Settings) (payload : Bytes) (reply : Reply)
    (roundTrip : Duration) :
    (replyPhase s payload reply roundTrip).payload? = none ∧
      (replyPhase s payload reply roundTrip).record? = answer? s payload reply roundTrip := by
  unfold replyPhase answer?
  cases s.trackResponses <;> cases Header.decode? payload <;> exact ⟨rfl, rfl⟩

end Worker

namespace Pool

/-- The payloads that workers have taken and not replayed yet. -/
def inHand (p : Pool) : List Bytes := p.workers.filterMap fun w => w.phase.payload?

def handingOver (p : Pool) : List TrackedResponse := p.workers.filterMap fun w => w.phase.record?

/-- What is found in a list where one element was replaced. -/
theorem filterMap_set_perm {α β : Type} {f : α → Option β} {l : List α} {k : Nat} {a b : α}
    (h : l[k]? = some a) :
    ((f a).toList ++ (l.set k b).filterMap f).Perm ((f b).toList ++ l.filterMap f) := by
  have hcons (c : α) (l : List α) : (c :: l).filterMap f = (f c).toList ++ l.filterMap f := by
    rw [List.filterMap_cons]
    cases f c <;> rfl
  induction l generalizing k with
  | nil => cases h
  | cons c l ih =>
    cases k with
    | zero =>
      obtain rfl := Option.some.inj h
      rw [List.set_cons_zero, hcons, hcons]
      exact List.perm_append_comm_assoc ..
    | succ k =>
      rw [List.set_cons_succ, hcons, hcons]
      -- What is found in the head stays in front of neither side, so both sides are turned.
      refine (List.perm_append_comm_assoc ..).trans ?_
      refine ((ih h).append_left _).trans ?_
      exact List.perm_append_comm_assoc ..

/-! ## Books -/

def Entry.accepted? : Entry → Option Bytes
  | .accepted payload => some payload
  | _ => none

def Entry.taken? : Entry → Option Bytes
  | .taken _ _ payload => some payload
  | _ => none

/-- The payload that was replayed, and the response to it. -/
def Entry.replayed? : Entry → Option (Bytes × Bytes)
  | .replayed _ payload reply => some (payload, reply.response)
  | _ => none

/-- The request and the response that were analysed. -/
def Entry.analyzed? : Entry → Option (Bytes × Bytes)
  | .analyzed exchange => some (exchange.request, exchange.response)
  | _ => none

/-- The response that was handed over. -/
def Entry.tracked? : Entry → Option TrackedResponse
  | .tracked response => some response
  | _ => none

def Entry.readBack? : Entry → Option TrackedResponse
  | .readBack response => some response
  | _ => none

/-- What has passed through a pool and what waits in it, the oldest first everywhere. -/
structure Books where
  /-- The payloads that wait. -/
  queue : List Bytes
  /-- The responses that wait to be read back. -/
  responses : List TrackedResponse
  /-- The payloads that were accepted. -/
  accepted : List Bytes
  /-- The payloads that workers took. -/
  taken : List Bytes
  /-- The payloads that were replayed, with their responses. -/
  replayed : List (Bytes × Bytes)
  /-- The requests that were analysed, with their responses. -/
  analyzed : List (Bytes × Bytes)
  /-- The responses that were handed over. -/
  tracked : List TrackedResponse
  /-- The responses that were read back. -/
  readBack : List TrackedResponse

def Shared.books (shared : Shared) : Books where
  queue := shared.queue
  responses := shared.responses
  accepted := (shared.log.filterMap Entry.accepted?).reverse
  taken := (shared.log.filterMap Entry.taken?).reverse
  replayed := (shared.log.filterMap Entry.replayed?).reverse
  analyzed := (shared.log.filterMap Entry.analyzed?).reverse
  tracked := (shared.log.filterMap Entry.tracked?).reverse
  readBack := (shared.log.filterMap Entry.readBack?).reverse

/-- The books are kept in three places. -/
theorem books_congr {shared shared' : Shared} (hqueue : shared'.queue = shared.queue)
    (hresponses : shared'.responses = shared.responses) (hlog : shared'.log = shared.log) :
    shared'.books = shared.books := by
  unfold Shared.books
  rw [hqueue, hresponses, hlog]

/-- Entries about the size of a pool are not in its books. -/
theorem books_noting (shared : Shared) (length : Nat) :
    (shared.noting (.depth length)).books = shared.books ∧
      (shared.noting (.asked length)).books = shared.books ∧
      (shared.noting (.resized length)).books = shared.books := by
  simp [Shared.books, Shared.noting, List.filterMap_cons, Entry.accepted?, Entry.taken?,
    Entry.replayed?, Entry.analyzed?, Entry.tracked?, Entry.readBack?]

def Books.replay (s : Settings) (b : Books) (payload : Bytes) (reply : Reply) : Books :=
  { b with
    replayed := b.replayed ++ [(payload, reply.response)]
    analyzed := b.analyzed ++
      if s.analytics then [(Payload.message payload, reply.response)] else [] }

variable {s : Settings} {target : Target}

/-- The steps of a pool by what they do to its books and to the hands of its workers. -/
inductive Deals (s : Settings) : Pool → Pool → Prop
  /-- Nothing changes hands. -/
  | keep {p q : Pool} : q.shared.books = p.shared.books → q.inHand.Perm p.inHand →
      q.handingOver.Perm p.handingOver → Deals s p q
  /-- A payload is accepted. -/
  | accept {p q : Pool} {payload : Bytes} : Payload.isRequest payload = true →
      q.shared.books = { p.shared.books with
        queue := p.shared.queue ++ [payload]
        accepted := p.shared.books.accepted ++ [payload] } →
      q.inHand.Perm p.inHand → q.handingOver.Perm p.handingOver → Deals s p q
  /-- A worker takes the oldest payload of the queue. -/
  | take {p q : Pool} {payload : Bytes} {queue : List Bytes} : p.shared.queue = payload :: queue →
      q.shared.books = { p.shared.books with
        queue, taken := p.shared.books.taken ++ [payload] } →
      q.inHand.Perm (payload :: p.inHand) → q.handingOver.Perm p.handingOver → Deals s p q
  /-- A worker passes its payload over. -/
  | skip {p q : Pool} {payload : Bytes} : isServable payload = false →
      q.shared.books = p.shared.books → p.inHand.Perm (payload :: q.inHand) →
      q.handingOver.Perm p.handingOver → Deals s p q
  /-- A worker replays its payload. -/
  | reply {p q : Pool} {w : Worker} {payload : Bytes} {reply : Reply} {roundTrip : Duration} :
      w ∈ p.workers → w.phase = .replaying payload →
      q.shared.books = p.shared.books.replay s payload reply →
      p.inHand.Perm (payload :: q.inHand) →
      q.handingOver.Perm
        ((Worker.answer? s payload reply roundTrip).toList ++ p.handingOver) → Deals s p q
  /-- A worker hands its response over. -/
  | deliver {p q : Pool} {response : TrackedResponse} :
      q.shared.books = { p.shared.books with
        responses := p.shared.responses ++ [response]
        tracked := p.shared.books.tracked ++ [response] } →
      q.inHand.Perm p.inHand → p.handingOver.Perm (response :: q.handingOver) → Deals s p q
  /-- A worker throws its response away. -/
  | giveUp {p q : Pool} {response : TrackedResponse} :
      p.shared.stopped = true ∨ p.shared.held = false → q.shared.books = p.shared.books →
      q.inHand.Perm p.inHand → p.handingOver.Perm (response :: q.handingOver) → Deals s p q
  /-- A response is read back. -/
  | read {p q : Pool} {response : TrackedResponse} {responses : List TrackedResponse} :
      p.shared.responses = response :: responses →
      q.shared.books = { p.shared.books with
        responses, readBack := p.shared.books.readBack ++ [response] } →
      q.inHand.Perm p.inHand → q.handingOver.Perm p.handingOver → Deals s p q
  /-- Whoever writes and reads goes away. -/
  | drop {p q : Pool} : q.shared.held = false →
      q.shared.books = { p.shared.books with responses := [] } →
      q.inHand.Perm p.inHand → q.handingOver.Perm p.handingOver → Deals s p q

/-- A new worker has nothing in its hands. -/
theorem books_spawn (p : Pool) (target : Target) :
    (p.spawn s target).shared.books = p.shared.books ∧
      (p.spawn s target).inHand = p.inHand ∧ (p.spawn s target).handingOver = p.handingOver := by
  have hshared : (p.spawn s target).shared =
      { p.shared with counters := p.shared.counters.register } := rfl
  refine ⟨?_, ?_, ?_⟩
  · rw [hshared]
    exact books_congr rfl rfl rfl
  · unfold inHand spawn
    rw [List.filterMap_append]
    exact List.append_nil _
  · unfold handingOver spawn
    rw [List.filterMap_append]
    exact List.append_nil _

/-- A worker that has the same in its hands after a step changes nothing in the books. -/
theorem Deals.of_hands {p : Pool} {k : Nat} {w w' : Worker} {shared' : Shared}
    (hw : p.workers[k]? = some w) (hpayload : w'.phase.payload? = w.phase.payload?)
    (hrecord : w'.phase.record? = w.phase.record?) (hbooks : shared'.books = p.shared.books) :
    Deals s p { p with shared := shared', workers := p.workers.set k w' } := by
  have hin := filterMap_set_perm (f := fun w : Worker => w.phase.payload?) (b := w') hw
  have hout := filterMap_set_perm (f := fun w : Worker => w.phase.record?) (b := w') hw
  rw [hpayload] at hin
  rw [hrecord] at hout
  exact .keep hbooks ((List.perm_append_left_iff _).1 hin) ((List.perm_append_left_iff _).1 hout)

/-- A worker between two payloads has nothing in its hands before a step and nothing after it. -/
theorem Deals.between {p : Pool} {k : Nat} {w w' : Worker} (hw : p.workers[k]? = some w)
    (h : w.phase.isBetween = true) (h' : w'.phase.isBetween = true) :
    Deals s p { p with workers := p.workers.set k w' } := by
  obtain ⟨hpayload, hrecord⟩ := Worker.Phase.hands_of_isBetween h
  obtain ⟨hpayload', hrecord'⟩ := Worker.Phase.hands_of_isBetween h'
  exact .of_hands hw (hpayload'.trans hpayload.symm) (hrecord'.trans hrecord.symm) rfl

/-- **A step of a worker is a deal.** -/
theorem Deals.of_moves {p : Pool} {k : Nat} {e : Worker.Event} {w w' : Worker} {shared' : Shared}
    (hw : p.workers[k]? = some w) (h : Worker.Moves s target k e p.shared w shared' w') :
    Deals s p { p with shared := shared', workers := p.workers.set k w' } := by
  have hin := filterMap_set_perm (f := fun w : Worker => w.phase.payload?) (b := w') hw
  have hout := filterMap_set_perm (f := fun w : Worker => w.phase.record?) (b := w') hw
  have hmem := List.mem_of_getElem? hw
  cases h with
  | take hphase _ hqueue =>
    rw [hphase] at hin hout
    refine .take hqueue ?_ hin hout
    simp only [Shared.books, Shared.noting]
    rw [List.filterMap_cons_some (f := Entry.taken?) rfl, List.reverse_cons]
    rfl
  | skip hphase hservable =>
    rw [hphase] at hin hout
    exact .skip hservable rfl hin.symm hout
  | @reply _ _ payload client reply started stopped roundTrip hphase =>
    have hhands := Worker.hands_replyPhase s payload reply roundTrip
    rw [hphase] at hin hout
    dsimp only at hin hout
    rw [hhands.1] at hin
    rw [hhands.2] at hout
    refine .reply hmem hphase ?_ hin.symm hout
    simp only [Shared.books, Books.replay, Worker.replyEntries]
    cases s.analytics <;>
      simp [List.filterMap_cons, Entry.accepted?, Entry.taken?, Entry.replayed?,
        Entry.analyzed?, Entry.tracked?, Entry.readBack?]
  | deliver hphase =>
    rw [hphase] at hin hout
    refine .deliver ?_ hin hout.symm
    simp only [Shared.books, Shared.noting]
    rw [List.filterMap_cons_some (f := Entry.tracked?) rfl, List.reverse_cons]
    rfl
  | giveUp hphase hover =>
    rw [hphase] at hin hout
    exact .giveUp hover rfl hin hout.symm
  -- Nothing changes hands in the other steps: a payload stays with its worker, …
  | @wake _ _ wake hphase =>
    obtain ⟨data, rfl, h⟩ | ⟨rfl, h⟩ | ⟨rfl, h | h⟩ := Worker.afterWait_phase s w wake <;>
      exact .of_hands hw (by rw [hphase, h]; rfl) (by rw [hphase, h]; rfl) rfl
  | serve hphase => exact .of_hands hw (by rw [hphase]; rfl) (by rw [hphase]; rfl) rfl
  -- … and a worker without one gets none.
  | finish hphase => exact .between hw (by rw [hphase]; rfl) (Worker.isBetween_afterPayload ..)
  | consider hphase | reload hphase =>
    exact .between hw (by rw [hphase]; rfl) (Worker.isBetween_consider ..)
  | check hphase => exact .between hw (by rw [hphase]; rfl) (Worker.isBetween_check _)
  | @leave _ _ why hphase =>
    obtain h | h := Worker.leave_phase w why <;>
      exact .of_hands hw (by rw [hphase, h]; rfl) (by rw [hphase, h]; rfl) rfl
  | lineUp => exact .of_hands hw rfl rfl rfl
  | rest hphase | expire hphase | stop hphase | report hphase | retire hphase =>
    exact .of_hands hw (by rw [hphase]; rfl) (by rw [hphase]; rfl) rfl

/-- **A step of a pool is a deal.** -/
theorem Moves.deals {e : Event} {p q : Pool} (h : Moves s target e p q) : Deals s p q := by
  cases h with
  | worker hw hmove => exact .of_moves hw hmove
  | accept _ _ hrequest =>
    refine .accept hrequest ?_ (.refl _) (.refl _)
    simp only [Shared.books, Shared.noting]
    rw [List.filterMap_cons_some (f := Entry.accepted?) rfl, List.reverse_cons]
    rfl
  | measure =>
    refine .keep ?_ (.refl _) (.refl _)
    dsimp only
    split
    · exact (books_noting _ _).1
    · rfl
  | start | hire =>
    obtain ⟨hbooks, hin, hout⟩ := books_spawn (s := s) p target
    exact .keep hbooks (.of_eq hin) (.of_eq hout)
  | read hresponses =>
    refine .read hresponses ?_ (.refl _) (.refl _)
    simp only [Shared.books, Shared.noting]
    rw [List.filterMap_cons_some (f := Entry.readBack?) rfl, List.reverse_cons]
    rfl
  | ask =>
    refine .keep ?_ (.refl _) (.refl _)
    exact (books_noting _ _).2.1.trans (books_congr rfl rfl rfl)
  | resize =>
    refine .keep ?_ (.refl _) (.refl _)
    exact (books_noting _ _).2.2.trans (books_congr rfl rfl rfl)
  | drop => exact .drop rfl rfl (.refl _) (.refl _)
  | _ => exact .keep (books_congr rfl rfl rfl) (.refl _) (.refl _)

/-! ## Payloads -/

/-- What holds of the pool about to be opened and is kept by every deal holds of every reachable
pool. -/
theorem Reachable.deals {P : Pool → Prop} (hinitial : P (initial s))
    (hdeals : ∀ p q, Reachable s target p → P p → Deals s p q → P q) {p : Pool}
    (h : Reachable s target p) : P p :=
  Reachable.induction hinitial (fun _ p q hp ih hmove => hdeals p q hp ih hmove.deals) h

/-- **Payloads are taken in the order they were accepted in**, and those that were not taken yet
wait in that order, too. -/
theorem Reachable.order {p : Pool} (h : Reachable s target p) :
    p.shared.books.accepted = p.shared.books.taken ++ p.shared.queue := by
  refine Reachable.deals
    (P := fun p => p.shared.books.accepted = p.shared.books.taken ++ p.shared.books.queue) rfl ?_ h
  intro p q _ ih hdeal
  cases hdeal with
  | accept _ hbooks =>
    rw [hbooks]
    dsimp only
    rw [ih, List.append_assoc]
    rfl
  | take hqueue hbooks =>
    rw [hbooks]
    dsimp only
    rw [ih, List.append_assoc]
    exact congrArg _ hqueue
  | keep hbooks | skip _ hbooks | reply _ _ hbooks | deliver hbooks | giveUp _ hbooks
  | read _ hbooks | drop _ hbooks =>
    rw [hbooks]
    exact ih

theorem Reachable.isRequest_of_accepted {p : Pool} (h : Reachable s target p) :
    ∀ payload ∈ p.shared.books.accepted, Payload.isRequest payload = true := by
  refine Reachable.deals
    (P := fun p => ∀ payload ∈ p.shared.books.accepted, Payload.isRequest payload = true)
    (fun _ h => absurd h List.not_mem_nil) ?_ h
  intro p q _ ih hdeal
  cases hdeal with
  | accept hrequest hbooks =>
    rw [hbooks]
    intro payload hpayload
    obtain hpayload | hpayload := List.mem_append.1 hpayload
    · exact ih payload hpayload
    · exact List.mem_singleton.1 hpayload ▸ hrequest
  | keep hbooks | take _ hbooks | skip _ hbooks | reply _ _ hbooks | deliver hbooks
  | giveUp _ hbooks | read _ hbooks | drop _ hbooks =>
    rw [hbooks]
    exact ih

/-- What a worker replays could be replayed. -/
theorem Reachable.isServable_of_replaying {p : Pool} (h : Reachable s target p) :
    ∀ w ∈ p.workers, ∀ payload, w.phase = .replaying payload →
      isServable payload = true := by
  refine h.forall_worker
    (P := fun _ w => ∀ payload, w.phase = .replaying payload → isServable payload = true)
    (fun _ _ h => nomatch h) ?_ (fun _ ih => ih)
  intro k e shared shared' w w' hmove ih payload hpayload
  have busy {phase : Worker.Phase} (h : phase.isBetween = true) : phase ≠ .replaying payload := by
    rintro rfl
    cases h
  cases hmove with
  | serve _ hservable =>
    cases hpayload
    exact hservable
  | lineUp => exact ih payload hpayload
  | @wake _ _ wake =>
    obtain ⟨data, -, h⟩ | ⟨-, h⟩ | ⟨-, h | h⟩ := Worker.afterWait_phase s w wake <;>
      exact nomatch h.symm.trans hpayload
  | finish => exact absurd hpayload (busy (Worker.isBetween_afterPayload ..))
  | consider | reload => exact absurd hpayload (busy (Worker.isBetween_consider ..))
  | check => exact absurd hpayload (busy (Worker.isBetween_check _))
  | @leave _ _ why =>
    obtain h | h := Worker.leave_phase w why <;> exact nomatch h.symm.trans hpayload
  | @reply _ _ payload client reply _ _ roundTrip =>
    obtain ⟨header, -, -, h⟩ | h := Worker.replyPhase_cases s payload reply roundTrip <;>
      exact nomatch h.symm.trans hpayload
  | rest | take | expire | stop | skip | deliver | giveUp | report | retire =>
    exact nomatch hpayload

/-- **Of the payloads that were taken, those that can be replayed are in somebody's hands or were
replayed.** -/
theorem Reachable.balance {p : Pool} (h : Reachable s target p) :
    (p.shared.books.taken.filter isServable).Perm
      (p.inHand.filter isServable ++ p.shared.books.replayed.map Prod.fst) := by
  rw [List.perm_iff_count]
  refine Reachable.deals (P := fun p => ∀ payload,
    (p.shared.books.taken.filter isServable).count payload =
      (p.inHand.filter isServable ++ p.shared.books.replayed.map Prod.fst).count payload)
    (fun _ => rfl) ?_ h
  intro p q hp ih hdeal payload
  have hone := ih payload
  rw [List.count_append] at hone ⊢
  cases hdeal with
  | keep hbooks hin | accept _ hbooks hin | deliver hbooks hin | giveUp _ hbooks hin
  | read _ hbooks hin | drop _ hbooks hin =>
    rw [hbooks, (hin.filter _).count_eq]
    exact hone
  | @take taken _ _ hbooks hin =>
    -- It is one more among those taken, and one more in somebody's hands.
    have hhands := (hin.filter isServable).count_eq payload
    have htaken : (taken :: p.inHand).filter isServable =
        [taken].filter isServable ++ p.inHand.filter isServable := List.filter_append [taken] _
    rw [htaken, List.count_append] at hhands
    rw [hbooks]
    dsimp only
    rw [List.filter_append, List.count_append]
    omega
  | @skip skipped hservable hbooks hin =>
    -- What is passed over did not count in anybody's hands.
    have hhands := (hin.filter isServable).count_eq payload
    rw [List.filter_cons_of_neg (by simp [hservable])] at hhands
    rw [hbooks]
    omega
  | @reply w replayed reply _ hw hphase hbooks hin =>
    -- It leaves the hands of the worker for the book of those replayed.
    have hservable := hp.isServable_of_replaying w hw replayed hphase
    have hhands := (hin.filter isServable).count_eq payload
    rw [List.filter_cons_of_pos hservable, List.count_cons] at hhands
    rw [hbooks]
    simp only [Books.replay, List.map_append, List.map_cons, List.map_nil, List.count_append,
      List.count_cons, List.count_nil]
    omega

/-! ## Responses -/

/-- **Each payload that is replayed is analysed once**, if exchanges are analysed at all. -/
theorem Reachable.analyzed {p : Pool} (h : Reachable s target p) :
    p.shared.books.analyzed =
      if s.analytics then
        p.shared.books.replayed.map fun (payload, response) => (Payload.message payload, response)
      else [] := by
  refine Reachable.deals (P := fun p => p.shared.books.analyzed =
    if s.analytics then
      p.shared.books.replayed.map fun (payload, response) => (Payload.message payload, response)
    else []) (by split <;> rfl) ?_ h
  intro p q _ ih hdeal
  cases hdeal with
  | reply _ _ hbooks =>
    rw [hbooks, Books.replay]
    dsimp only
    rw [ih]
    split
    · rw [List.map_append]
      rfl
    · rfl
  | keep hbooks | accept _ hbooks | take _ hbooks | skip _ hbooks | deliver hbooks
  | giveUp _ hbooks | read _ hbooks | drop _ hbooks =>
    rw [hbooks]
    exact ih

end Pool

namespace TrackedResponse

/-- The id of a response, and the response. -/
def key (r : TrackedResponse) : Bytes × Bytes := (r.id, r.response)

end TrackedResponse

namespace Pool

variable {s : Settings} {target : Target}

/-- What should be handed over for a payload that was replayed. -/
def owed? (s : Settings) : Bytes × Bytes → Option (Bytes × Bytes)
  | (payload, response) =>
    if s.trackResponses then (Header.decode? payload).map fun header => (header.id, response)
    else none

theorem map_key_answer? (payload : Bytes) (reply : Reply) (roundTrip : Duration) :
    (Worker.answer? s payload reply roundTrip).toList.map TrackedResponse.key =
      (owed? s (payload, reply.response)).toList := by
  unfold Worker.answer? owed?
  dsimp only
  cases s.trackResponses <;> cases Header.decode? payload <;> rfl

/-- **Until everything is told to stop or nobody is left, each response that is owed is in
somebody's hands or was handed over.** -/
theorem Reachable.owed {p : Pool} (h : Reachable s target p) (hstopped : p.shared.stopped = false)
    (hheld : p.shared.held = true) :
    (p.shared.books.replayed.filterMap (owed? s)).Perm
      ((p.shared.books.tracked ++ p.handingOver).map TrackedResponse.key) := by
  rw [List.perm_iff_count]
  revert hstopped hheld
  refine Reachable.induction (P := fun p => p.shared.stopped = false → p.shared.held = true →
    ∀ key, (p.shared.books.replayed.filterMap (owed? s)).count key =
      ((p.shared.books.tracked ++ p.handingOver).map TrackedResponse.key).count key)
    (fun _ _ _ => rfl) ?_ h
  intro e p q _ ih hmove hstopped hheld key
  have hstopped' := hmove.later.not_stopped hstopped
  have hheld' := hmove.later.held hheld
  have hone := ih hstopped' hheld' key
  rw [List.map_append, List.count_append] at hone ⊢
  cases hmove.deals with
  | keep hbooks _ hout | accept _ hbooks _ hout | take _ hbooks _ hout | skip _ hbooks _ hout
  | read _ hbooks _ hout =>
    rw [hbooks, (hout.map _).count_eq]
    exact hone
  | @reply w payload reply _ _ _ hbooks _ hout =>
    have hhands := (hout.map TrackedResponse.key).count_eq key
    rw [List.map_append, map_key_answer?, List.count_append] at hhands
    have howed : ([(payload, reply.response)].filterMap (owed? s)) =
        (owed? s (payload, reply.response)).toList := by
      rw [List.filterMap_cons]
      cases owed? s (payload, reply.response) <;> rfl
    rw [hbooks]
    simp only [Books.replay]
    rw [List.filterMap_append, howed, List.count_append]
    omega
  | deliver hbooks _ hout =>
    have hhands := (hout.map TrackedResponse.key).count_eq key
    rw [List.map_cons, List.count_cons] at hhands
    rw [hbooks]
    simp only [List.map_append, List.map_cons, List.map_nil, List.count_append, List.count_cons,
      List.count_nil]
    omega
  | giveUp hover =>
    -- Nobody gives up as long as the pool goes on and somebody is there to read.
    rw [hstopped', hheld'] at hover
    simp at hover
  | drop hgone =>
    rw [hgone] at hheld
    cases hheld

/-- Responses are read back in the order they were handed over in, and wait in that order. -/
theorem Reachable.readBack {p : Pool} (h : Reachable s target p) (hheld : p.shared.held = true) :
    p.shared.books.tracked = p.shared.books.readBack ++ p.shared.responses := by
  revert hheld
  refine Reachable.induction (P := fun p => p.shared.held = true →
    p.shared.books.tracked = p.shared.books.readBack ++ p.shared.books.responses)
    (fun _ => rfl) ?_ h
  intro e p q _ ih hmove hheld
  have hone := ih (hmove.later.held hheld)
  cases hmove.deals with
  | deliver hbooks =>
    rw [hbooks]
    dsimp only
    rw [hone, List.append_assoc]
    rfl
  | read hresponses hbooks =>
    rw [hbooks]
    dsimp only
    rw [hone, List.append_assoc]
    exact congrArg _ hresponses
  | drop hgone =>
    rw [hgone] at hheld
    cases hheld
  | keep hbooks | accept _ hbooks | take _ hbooks | skip _ hbooks | reply _ _ hbooks
  | giveUp _ hbooks =>
    rw [hbooks]
    exact hone

/-- The ids of responses are tokens, as they were read. -/
theorem Reachable.isId {p : Pool} (h : Reachable s target p) :
    ∀ r, r ∈ p.handingOver ∨ r ∈ p.shared.books.tracked → Header.IsId r.id := by
  refine Reachable.deals
    (P := fun p => ∀ r, r ∈ p.handingOver ∨ r ∈ p.shared.books.tracked → Header.IsId r.id)
    (fun _ h => (h.elim (absurd · List.not_mem_nil) (absurd · List.not_mem_nil))) ?_ h
  intro p q _ ih hdeal r hr
  cases hdeal with
  | keep hbooks _ hout | accept _ hbooks _ hout | take _ hbooks _ hout | skip _ hbooks _ hout
  | read _ hbooks _ hout | drop _ hbooks _ hout =>
    rw [hbooks, hout.mem_iff] at hr
    exact ih r hr
  | @reply w payload reply roundTrip _ _ hbooks _ hout =>
    rw [hbooks, hout.mem_iff, List.mem_append, Option.mem_toList] at hr
    obtain (hr | hr) | hr := hr
    · unfold Worker.answer? at hr
      split at hr
      · obtain ⟨header, hheader, rfl⟩ := Option.map_eq_some_iff.1 hr
        exact Header.isId_of_decode? hheader
      · cases hr
    · exact ih r (.inl hr)
    · exact ih r (.inr hr)
  | deliver hbooks _ hout =>
    have hmem := fun r => hout.mem_iff (a := r)
    rw [hbooks] at hr
    obtain hr | hr := hr
    · exact ih r (.inl ((hmem r).2 (List.mem_cons_of_mem _ hr)))
    · obtain hr | hr := List.mem_append.1 hr
      · exact ih r (.inr hr)
      · obtain rfl := List.mem_singleton.1 hr
        exact ih r (.inl ((hmem r).2 List.mem_cons_self))
  | giveUp _ hbooks _ hout =>
    rw [hbooks] at hr
    exact ih r (hr.imp_left fun hr => hout.mem_iff.2 (List.mem_cons_of_mem _ hr))

/-! ## Delivery -/

/-- **Every payload that can be replayed and was accepted** waits, is in somebody's hands or was
replayed. What was accepted is a request, so it only matters whether it can be served. -/
theorem Reachable.once {p : Pool} (h : Reachable s target p) :
    (p.shared.books.accepted.filter isReplayable).Perm
      (p.shared.queue.filter isReplayable ++ p.inHand.filter isReplayable ++
        p.shared.books.replayed.map Prod.fst) := by
  have hrequest {payload : Bytes} (hpayload : payload ∈ p.shared.books.accepted) :
      isReplayable payload = isServable payload := by
    rw [isReplayable, h.isRequest_of_accepted payload hpayload, Bool.true_and]
  have hqueue : p.shared.queue.filter isReplayable = p.shared.queue.filter isServable :=
    List.filter_congr fun payload hpayload =>
      hrequest (h.order ▸ List.mem_append_right _ hpayload)
  have hin : p.inHand.filter isReplayable = p.inHand.filter isServable := by
    refine List.filter_congr fun payload hpayload => ?_
    cases hservable : isServable payload with
    | false => rw [isReplayable, hservable, Bool.and_false]
    | true =>
      -- What is in somebody's hands was taken, and so it was accepted before.
      have htaken := h.balance.mem_iff.2
        (List.mem_append_left _ (List.mem_filter.2 ⟨hpayload, hservable⟩))
      rw [hrequest (h.order ▸ List.mem_append_left _ (List.mem_filter.1 htaken).1), hservable]
  rw [List.filter_congr fun payload hpayload => hrequest hpayload, hqueue, hin, h.order,
    List.filter_append, List.append_assoc]
  exact List.perm_append_comm.trans (h.balance.append_left _)

/-- Nothing else is replayed. -/
theorem Reachable.isReplayable_of_replayed {p : Pool} (h : Reachable s target p) :
    ∀ exchange ∈ p.shared.books.replayed, isReplayable exchange.1 = true := by
  intro exchange hexchange
  have haccepted := h.once.mem_iff.2
    (List.mem_append_right _ (List.mem_map_of_mem (f := Prod.fst) hexchange))
  exact (List.mem_filter.1 haccepted).2

/-- What a pool has done with what was written to it. -/
structure Delivered (s : Settings) (p : Pool) : Prop where
  /-- Every payload that can be replayed and was accepted waits in the queue, is in the hands of a
  worker or was replayed, and it is so once. -/
  once : (p.shared.books.accepted.filter isReplayable).Perm
    (p.shared.queue.filter isReplayable ++ p.inHand.filter isReplayable ++
      p.shared.books.replayed.map Prod.fst)
  /-- Nothing else is replayed. So what was replayed has a header, and an id to answer under. -/
  replayable : ∀ exchange ∈ p.shared.books.replayed, isReplayable exchange.1 = true
  /-- Payloads are taken in the order they were accepted in. -/
  order : p.shared.books.accepted = p.shared.books.taken ++ p.shared.queue
  /-- Each payload that was replayed was analysed once, if exchanges are analysed. -/
  analyzed : p.shared.books.analyzed =
    if s.analytics then
      p.shared.books.replayed.map fun (payload, response) => (Payload.message payload, response)
    else []
  /-- For each payload that was replayed there is one response under its id, if responses are
  tracked. It is about to be handed over, or has been. -/
  owed : p.shared.stopped = false → p.shared.held = true →
    (p.shared.books.replayed.filterMap (owed? s)).Perm
      ((p.shared.books.tracked ++ p.handingOver).map TrackedResponse.key)
  /-- Responses are read back in the order they were handed over in. -/
  readBack : p.shared.held = true →
    p.shared.books.tracked = p.shared.books.readBack ++ p.shared.responses
  /-- What is read back is a payload that holds the response under the id of its request. -/
  framed : ∀ r ∈ p.shared.books.tracked, ∀ now,
    Header.decode? (r.payload now) = some ⟨.replayedResponse, r.id, now.stamp,
      some (Int64.ofNat r.roundTrip)⟩ ∧
    Payload.message (r.payload now) = r.response

/-- **A pool replays every payload exactly once**, whatever its writers, its workers and its
coordinator do and whenever waits end, and passes on one response for it. -/
theorem delivered {p : Pool} (h : Reachable s target p) : Delivered s p := by
  refine ⟨h.once, h.isReplayable_of_replayed, h.order, h.analyzed, h.owed, h.readBack, ?_⟩
  intro r hr now
  have hid := h.isId r (.inr hr)
  exact ⟨Header.decode?_encode hid _, Payload.message_encode hid.no_lf _⟩

/-! ## A wait that ends

A pool of two workers. The wait of the first in line ends just when a payload is written; the other
one takes the payload, replays it and hands the response over, which is read back.
-/

/-- A pool of two workers that tracks responses and analyses exchanges. -/
def serving : Settings where
  workers := 2
  trackResponses := true
  analytics := true

def captured : Bytes := Bytes.ofText "1 a 7\nGET / HTTP/1.1\r\n\r\n"

/-- The run in which one worker waits in vain and the other replays the request. -/
def servingEvents : List Event :=
  List.replicate 3 .coordinator ++
    [.worker 0 .proceed, .worker 1 .proceed, .worker 0 .lineUp, .worker 1 .lineUp,
      .write captured, .worker 0 .expire, .worker 1 .take, .worker 0 .proceed,
      .worker 1 .proceed, .worker 1 .proceed,
      .worker 1 (.replied (Client.create (.onHost .http "site" none) serving.client)
        (.answered (Bytes.ofText "HTTP/1.1 204\r\n\r\n")) ⟨0, 0⟩ ⟨0, 5⟩ 5),
      .worker 1 .deliver, .read]

theorem delivered_serving :
    ∃ p, Reachable serving (.onHost .http "site" none) p ∧
      p.shared.books.replayed = [(captured, Bytes.ofText "HTTP/1.1 204\r\n\r\n")] ∧
      p.shared.books.readBack = [⟨Bytes.ofText "a", Bytes.ofText "HTTP/1.1 204\r\n\r\n", 5⟩] ∧
      Delivered serving p := by
  have hrun : ((initial serving).run serving (.onHost .http "site" none) servingEvents).any
      (fun p => p.shared.books.replayed == [(captured, Bytes.ofText "HTTP/1.1 204\r\n\r\n")] &&
        p.shared.books.readBack ==
          [⟨Bytes.ofText "a", Bytes.ofText "HTTP/1.1 204\r\n\r\n", 5⟩]) = true := by
    decide +kernel
  obtain ⟨p, hp, hbooks⟩ := (Option.any_eq_true _ _).1 hrun
  simp only [Bool.and_eq_true, beq_iff_eq] at hbooks
  have hreachable : Reachable serving (.onHost .http "site" none) p := ⟨servingEvents, hp⟩
  exact ⟨p, hreachable, hbooks.1, hbooks.2, delivered hreachable⟩

end Pool
end HttpReplay
