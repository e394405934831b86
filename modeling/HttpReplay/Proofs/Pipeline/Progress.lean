import HttpReplay.Proofs.Payload.RoundTrip
import HttpReplay.Proofs.Pipeline.Machine
import HttpReplay.Proofs.Pool.Progress

/-!
Pools that an emitter both writes to and reads from do not block it.

All that a pool with something to do needs from outside is that its responses are read. They are read
by a copier, which writes each of them to the outputs, pools among them, and a pool can let whoever
writes to it wait. So it could be that all pools wait for their copiers and all these copiers for
pools. What prevents this is the first byte of a payload: a response is no request, and a pool passes
over what is no request without looking at its queue. Hence a copier that reads from a pool never
carries anything that it could have to wait with (`Sound.innocent`), and it has a step whenever there
is something to read (`Sound.exists_own_step`). The rest is a matter of the pool alone
(`Pool.Reachable.advances`).

For this it has to be known of each copier that waits at a pool why it does: a request that is in the
queue has a writer of its own, which ends the wait (`Outlet.Authored`).
-/

set_option autoImplicit false

namespace HttpReplay

/-! ## Innocent payloads -/

/-- What is read back from a pool is no request. -/
theorem TrackedResponse.isRequest_payload (r : TrackedResponse) (now : Moment) :
    Payload.isRequest (r.payload now) = false := by
  rw [← Bool.not_eq_true, payload, Payload.isRequest_encode]
  nofun

namespace Emitter

/-- A copier in this phase goes on, and has nothing in its hands that is a request. -/
def Phase.IsInnocent : Phase → Prop
  | .reading => True
  | .holding payload outputs => Payload.isRequest payload = false ∧ outputs ≠ []
  | .writing payload _ _ => Payload.isRequest payload = false
  | .ended => False

/-- What may happen to a copier that has nothing in its hands that is a request, for that to
remain so. -/
def Event.IsInnocent : Event → Prop
  | .receive payload => Payload.isRequest payload = false
  | .hand | .written _ => True
  | .close | .crash | .stop => False

theorem isInnocent_phaseFor {payload : Bytes} (h : Payload.isRequest payload = false)
    (outputs : List Nat) : (phaseFor payload outputs).IsInnocent := by
  unfold phaseFor
  split
  next => trivial
  next hne => exact ⟨h, fun hnil => hne (List.isEmpty_iff.2 hnil)⟩

theorem Copier.Moves.isInnocent {s : Settings} {stopped : Bool} {i : Nat} {e : Event}
    {c c' : Copier} {entry : Option Entry} (h : Copier.Moves s stopped i e c c' entry)
    (he : e.IsInnocent) (hc : c.phase.IsInnocent) : c'.phase.IsInnocent := by
  cases h with
  | receive payload => exact isInnocent_phaseFor he _
  | hand hphase =>
    rw [hphase] at hc
    exact hc.1
  | written success hphase =>
    rw [hphase] at hc
    exact isInnocent_phaseFor hc _
  | close | crash | stop => exact he.elim

end Emitter

namespace Pipeline

variable {w : Wiring} {p q : Pipeline} {i j : Nat} {o o' : Outlet}

/-! ## Parts of a step -/

theorem outlet?_setOutlet (h : p.outlet? j = some o) (o' : Outlet) (k : Nat) :
    (p.setOutlet j o').outlet? k = if j = k then some o' else p.outlet? k := by
  have hj := (List.getElem?_eq_some_iff.1 (Option.join_eq_some_iff.1 h)).1
  rw [outlet?, setOutlet, List.getElem?_set, if_pos hj]
  split <;> rfl

/-- An outlet of a pipeline is the one that was set, or was there before. -/
theorem outlet?_of_setOutlet (h : p.outlet? j = some o) {k : Nat} {o₁ : Outlet}
    (ho₁ : (p.setOutlet j o').outlet? k = some o₁) :
    (k = j ∧ o₁ = o') ∨ p.outlet? k = some o₁ := by
  rw [outlet?_setOutlet h] at ho₁
  by_cases hk : j = k
  · rw [if_pos hk] at ho₁
    cases ho₁
    exact .inl ⟨hk.symm, rfl⟩
  · rw [if_neg hk] at ho₁
    exact .inr ho₁

theorem setOutlet_self (h : p.outlet? j = some o) : p.setOutlet j o = p := by
  obtain ⟨hj, hself⟩ := List.getElem?_eq_some_iff.1 (Option.join_eq_some_iff.1 h)
  rw [setOutlet, ← hself, List.set_getElem_self]

theorem writing?_eq_some_iff {payload : Bytes} : p.writing? i = some (payload, j) ↔
    ∃ c more, p.emitter.copiers[i]? = some c ∧ c.phase = .writing payload j more := by
  constructor
  · intro h
    unfold writing? at h
    split at h
    next payload' j' more turn hc =>
      cases h
      exact ⟨_, more, hc, rfl⟩
    next => cases h
  · rintro ⟨⟨phase, turn⟩, more, hc, hphase⟩
    cases hphase
    rw [writing?, hc]

/-- A copier's step changes that copier and no other, and no pool. -/
theorem stepCopier_eq_some {e : Emitter.Event} (h : p.stepCopier w i e = some q) :
    ∃ c c' entry, p.emitter.copiers[i]? = some c ∧
      Emitter.Copier.Moves w.emitter p.emitter.stopped i e c c' entry ∧
      q.emitter.copiers = p.emitter.copiers.set i c' ∧ q.outlets = p.outlets := by
  obtain ⟨emitter, hemitter, rfl⟩ := Option.map_eq_some_iff.1 h
  have hact : p.emitter.act w.emitter (.copier i e) = some emitter := hemitter
  cases Emitter.moves_iff.1 hact with
  | copier hc hmove => exact ⟨_, _, _, hc, hmove, rfl, rfl⟩

theorem exists_stepCopier {e : Emitter.Event} {c c' : Emitter.Copier}
    {entry : Option Emitter.Entry} (hc : p.emitter.copiers[i]? = some c)
    (hmove : Emitter.Copier.Moves w.emitter p.emitter.stopped i e c c' entry) :
    ∃ q, p.stepCopier w i e = some q := by
  have hact := Emitter.moves_iff.2 (.copier hc hmove)
  exact ⟨_, Option.map_eq_some_iff.2 ⟨_, hact, rfl⟩⟩

theorem stepPool_eq_some {e : Pool.Event} (h : p.stepPool j e = some q) :
    ∃ o o', p.outlet? j = some o ∧ o.step e = some o' ∧ q = p.setOutlet j o' := by
  obtain ⟨o, ho, h⟩ := Option.bind_eq_some_iff.1 h
  obtain ⟨o', ho', rfl⟩ := Option.map_eq_some_iff.1 h
  exact ⟨o, o', ho, ho', rfl⟩

theorem stepPool_of_step {e : Pool.Event} {pool : Pool} (ho : p.outlet? j = some o)
    (hstep : o.pool.step o.settings o.target e = some pool) :
    p.stepPool j e = some (p.setOutlet j { o with pool }) := by
  rw [stepPool, ho, Option.bind_some, Outlet.step, hstep]
  rfl

/-! ## The invariant -/

/-- Each of a pool's writers writes for a copier of its own, which waits for it with a request. -/
structure Outlet.Authored (o : Outlet) (p : Pipeline) (j : Nat) : Prop where
  nodup : o.authors.Nodup
  length : o.authors.length = o.pool.writers.length
  writing : ∀ i ∈ o.authors, ∃ payload, p.writing? i = some (payload, j) ∧
    Payload.isRequest payload = true

/-- What holds of a pipeline at any time before anything is told to stop. -/
structure Sound (w : Wiring) (p : Pipeline) : Prop where
  outlets : ∀ j, (p.outlet? j).map Outlet.output = w.plugins.outputs[j]?.filter (· ≠ .stdout)
  runs : ∀ j o, p.outlet? j = some o → o.Runs
  authored : ∀ j o, p.outlet? j = some o → o.Authored p j
  /-- A copier that reads from a pool goes on and carries no request. -/
  innocent : ∀ i j, w.origin? i = some j →
    ∃ c, p.emitter.copiers[i]? = some c ∧ c.phase.IsInnocent

theorem Outlet.Runs.step {e : Pool.Event} (h : o.Runs) (hstep : o.step e = some o')
    (he : e.goesOn = true) : o'.Runs := by
  obtain ⟨pool, hpool, rfl⟩ := Option.map_eq_some_iff.1 hstep
  obtain ⟨hopen, hheld, hstopped⟩ :=
    (Pool.moves_of_step hpool).goesOn he h.isOpen h.held h.stopped
  exact ⟨h.reachable.step hpool, hopen, hheld, hstopped⟩

/-- Whom the writers of a pool write for depends on the copiers alone. -/
theorem Outlet.Authored.of_emitter_eq (h : o.Authored p j) (hemitter : q.emitter = p.emitter) :
    o.Authored q j := by
  refine ⟨h.nodup, h.length, fun i hi => ?_⟩
  rw [writing?, hemitter]
  exact h.writing i hi

theorem Sound.setOutlet (h : Sound w p) (ho : p.outlet? j = some o) (houtput : o'.output = o.output)
    (hruns : o'.Runs) (hauthored : o'.Authored p j) : Sound w (p.setOutlet j o') := by
  refine ⟨fun k => ?_, fun k o₁ ho₁ => ?_, fun k o₁ ho₁ => ?_, h.innocent⟩
  · rw [outlet?_setOutlet ho, ← h.outlets k]
    by_cases hk : j = k
    · subst hk
      rw [if_pos rfl, ho, Option.map_some, Option.map_some, houtput]
    · rw [if_neg hk]
  · rcases outlet?_of_setOutlet ho ho₁ with ⟨rfl, rfl⟩ | hold
    · exact hruns
    · exact h.runs k o₁ hold
  · rcases outlet?_of_setOutlet ho ho₁ with ⟨rfl, rfl⟩ | hold
    · exact hauthored.of_emitter_eq rfl
    · exact (h.authored k o₁ hold).of_emitter_eq rfl

/-- A step of a pool that its writers have nothing to do with. -/
theorem Sound.stepPool {e : Pool.Event} (h : Sound w p) (hstep : p.stepPool j e = some q)
    (hgoes : e.goesOn = true) (hspares : e.sparesWriters = true) : Sound w q := by
  obtain ⟨o, o', ho, ho', rfl⟩ := stepPool_eq_some hstep
  have hruns := (h.runs j o ho).step ho' hgoes
  obtain ⟨hnodup, hlength, hwriting⟩ := h.authored j o ho
  obtain ⟨pool, hpool, rfl⟩ := Option.map_eq_some_iff.1 ho'
  refine h.setOutlet ho rfl hruns ⟨hnodup, ?_, hwriting⟩
  rw [hlength, (Pool.moves_of_step hpool).writers hspares]

/-- A step of a copier that no writer writes for. -/
theorem Sound.stepCopier {e : Emitter.Event} (h : Sound w p) (hstep : p.stepCopier w i e = some q)
    (hfree : ∀ j o, p.outlet? j = some o → i ∉ o.authors)
    (hown : w.origin? i ≠ none → e.IsInnocent) : Sound w q := by
  obtain ⟨c, c', entry, hc, hmove, hcopiers, houtlets⟩ := stepCopier_eq_some hstep
  have houtlet (k : Nat) : q.outlet? k = p.outlet? k := by rw [outlet?, outlet?, houtlets]
  refine ⟨fun k => ?_, fun k o₁ ho₁ => ?_, fun k o₁ ho₁ => ?_, fun k k' hk => ?_⟩
  · rw [houtlet]
    exact h.outlets k
  · rw [houtlet] at ho₁
    exact h.runs k o₁ ho₁
  · rw [houtlet] at ho₁
    obtain ⟨hnodup, hlength, hwriting⟩ := h.authored k o₁ ho₁
    refine ⟨hnodup, hlength, fun i' hi' => ?_⟩
    have hne : i ≠ i' := fun heq => hfree k o₁ ho₁ (heq ▸ hi')
    rw [writing?, hcopiers, List.getElem?_set_ne hne]
    exact hwriting i' hi'
  · obtain ⟨c₁, hc₁, hinnocent⟩ := h.innocent k k' hk
    rw [hcopiers, List.getElem?_set]
    by_cases hik : i = k
    · subst hik
      rw [if_pos rfl, if_pos (List.getElem?_eq_some_iff.1 hc).1]
      rw [hc] at hc₁
      cases hc₁
      have hsome : w.origin? i ≠ none := by
        rw [hk]
        nofun
      exact ⟨c', rfl, hmove.isInnocent (hown hsome) hinnocent⟩
    · rw [if_neg hik]
      exact ⟨c₁, hc₁, hinnocent⟩

/-- No writer writes for a copier that does not write, … -/
theorem Sound.free_of_none (h : Sound w p) (hnone : p.writing? i = none) :
    ∀ j o, p.outlet? j = some o → i ∉ o.authors := by
  intro j o ho hi
  obtain ⟨payload, hwriting, -⟩ := (h.authored j o ho).writing i hi
  rw [hnone] at hwriting
  cases hwriting

/-- … or that does not write a request to a pool. -/
theorem Sound.free_of_writing (h : Sound w p) {payload : Bytes}
    (hwriting : p.writing? i = some (payload, j))
    (hother : Payload.isRequest payload = false ∨ p.outlet? j = none) :
    ∀ k o, p.outlet? k = some o → i ∉ o.authors := by
  intro k o ho hi
  obtain ⟨payload', hwriting', hrequest⟩ := (h.authored k o ho).writing i hi
  rw [hwriting] at hwriting'
  cases hwriting'
  rcases hother with hno | hnone
  · rw [hno] at hrequest
    cases hrequest
  · rw [hnone] at ho
    cases ho

/-- Whoever reads or begins to write does not write yet. -/
theorem writing?_eq_none {e : Emitter.Event} (hstep : p.stepCopier w i e = some q)
    (he : (∃ payload, e = .receive payload) ∨ e = .close ∨ e = .hand) : p.writing? i = none := by
  obtain ⟨c, c', entry, hc, hmove, -, -⟩ := stepCopier_eq_some hstep
  obtain ⟨phase, turn⟩ := c
  rw [writing?, hc]
  cases hmove with
  | receive _ hphase | close hphase | hand hphase =>
    cases hphase
    rfl
  | written | crash | stop => rcases he with ⟨payload, he⟩ | he | he <;> cases he

/-- A request that is accepted has a writer, and its copier waits. -/
theorem Sound.accept (h : Sound w p) {payload : Bytes} (hwriting : p.writing? i = some (payload, j))
    (ho : p.outlet? j = some o) (hrequest : Payload.isRequest payload = true) (hnew : i ∉ o.authors)
    (haccept : o.accept i payload = some o') : Sound w (p.setOutlet j o') := by
  obtain ⟨o₁, ho₁, rfl⟩ := Option.map_eq_some_iff.1 haccept
  have hruns := (h.runs j o ho).step ho₁ rfl
  obtain ⟨pool, hpool, rfl⟩ := Option.map_eq_some_iff.1 ho₁
  obtain ⟨hnodup, hlength, hauthors⟩ := h.authored j o ho
  refine h.setOutlet ho rfl ⟨hruns.reachable, hruns.isOpen, hruns.held, hruns.stopped⟩ ⟨?_, ?_, ?_⟩
  · refine List.nodup_append.2 ⟨hnodup, List.pairwise_singleton _ i, ?_⟩
    rintro i₁ hi₁ i₂ hi₂ rfl
    rw [List.mem_singleton] at hi₂
    exact hnew (hi₂ ▸ hi₁)
  · cases Pool.moves_of_step hpool with
    | accept =>
      rw [List.length_append, List.length_append, hlength]
      rfl
    | pass _ _ hno =>
      rw [hno] at hrequest
      cases hrequest
  · intro i₁ hi₁
    rcases List.mem_append.1 hi₁ with hi₁ | hi₁
    · exact hauthors i₁ hi₁
    · rw [List.mem_singleton.1 hi₁]
      exact ⟨payload, hwriting, hrequest⟩

/-- A writer that is not done has the same copiers waiting, … -/
theorem Sound.writer (h : Sound w p) {n : Nat} (ho : p.outlet? j = some o)
    (hstep : o.step (.writer n) = some o')
    (hmore : ¬ o'.pool.writers.length < o.pool.writers.length) : Sound w (p.setOutlet j o') := by
  have hruns := (h.runs j o ho).step hstep rfl
  obtain ⟨pool, hpool, rfl⟩ := Option.map_eq_some_iff.1 hstep
  obtain ⟨hnodup, hlength, hauthors⟩ := h.authored j o ho
  refine h.setOutlet ho rfl hruns ⟨hnodup, ?_, hauthors⟩
  rcases (Pool.moves_of_step hpool).length_writers with hsame | hless
  · exact hlength.trans hsame.symm
  · dsimp only at hmore
    omega

/-- … and one that is done lets its copier go on. -/
theorem Sound.done (h : Sound w p) {n : Nat} (ho : p.outlet? j = some o)
    (hstep : o.step (.writer n) = some o')
    (hless : o'.pool.writers.length < o.pool.writers.length) (hi : o.authors[n]? = some i)
    (hcopier : (p.setOutlet j { o' with authors := o.authors.eraseIdx n }).stepCopier w i
      (.written true) = some q) : Sound w q := by
  have hruns := (h.runs j o ho).step hstep rfl
  obtain ⟨pool, hpool, rfl⟩ := Option.map_eq_some_iff.1 hstep
  obtain ⟨hnodup, hlength, hauthors⟩ := h.authored j o ho
  obtain ⟨hn, hself⟩ := List.getElem?_eq_some_iff.1 hi
  have hsound : Sound w (p.setOutlet j { o with pool, authors := o.authors.eraseIdx n }) := by
    refine h.setOutlet ho rfl ⟨hruns.reachable, hruns.isOpen, hruns.held, hruns.stopped⟩
      ⟨hnodup.eraseIdx n, ?_, fun i₁ hi₁ => hauthors i₁ (List.mem_of_mem_eraseIdx hi₁)⟩
    have hwriters := (Pool.moves_of_step hpool).length_writers
    have hauthors := List.length_eraseIdx_add_one hn
    dsimp only at hless ⊢
    omega
  refine hsound.stepCopier hcopier ?_ fun _ => trivial
  intro k o₁ ho₁ hi₁
  obtain ⟨payload, hwriting, -⟩ := hauthors i (List.mem_of_getElem? hi)
  obtain ⟨payload', hwriting', -⟩ := (hsound.authored k o₁ ho₁).writing i hi₁
  obtain rfl : k = j := by
    have heq := hwriting'.symm.trans hwriting
    cases heq
    rfl
  -- The copier was erased, and there was no other place for it.
  rw [outlet?_setOutlet ho, if_pos rfl] at ho₁
  cases ho₁
  obtain ⟨m, hm, hne, hagain⟩ := List.mem_eraseIdx_iff_getElem.1 hi₁
  exact hne ((List.getElem_inj hnodup).1 (hagain.trans hself.symm))

theorem Sound.moves {e : Event} (h : Sound w p) (hmove : Moves w e p q) : Sound w q := by
  cases hmove with
  | receive horigin hstep =>
    have hfree := h.free_of_none (writing?_eq_none hstep (.inl ⟨_, rfl⟩))
    exact h.stepCopier hstep hfree (absurd horigin)
  | close horigin hstep =>
    have hfree := h.free_of_none (writing?_eq_none hstep (.inr (.inl rfl)))
    exact h.stepCopier hstep hfree (absurd horigin)
  | @read _ p' _ i j now o r rest horigin ho hresponses hpool hstep =>
    have hp' := h.stepPool hpool rfl rfl
    have hfree := hp'.free_of_none (writing?_eq_none hstep (.inl ⟨_, rfl⟩))
    exact hp'.stepCopier hstep hfree fun _ => r.isRequest_payload now
  | hand hstep =>
    have hfree := h.free_of_none (writing?_eq_none hstep (.inr (.inr rfl)))
    exact h.stepCopier hstep hfree fun _ => trivial
  | accept hwriting ho hrequest hnew haccept => exact h.accept hwriting ho hrequest hnew haccept
  | @pass _ p' _ i j payload o hwriting ho hno hpool hstep =>
    have hspares : (Pool.Event.write payload).sparesWriters = true := by
      rw [Pool.Event.sparesWriters, hno]
      rfl
    have hp' := h.stepPool hpool rfl hspares
    obtain ⟨o₁, o₂, -, -, rfl⟩ := stepPool_eq_some hpool
    exact hp'.stepCopier hstep (hp'.free_of_writing hwriting (.inl hno)) fun _ => trivial
  | written hwriting hnone hstep =>
    exact h.stepCopier hstep (h.free_of_writing hwriting (.inr hnone)) fun _ => trivial
  | writer ho hstep hmore => exact h.writer ho hstep hmore
  | done ho hstep hless hi hcopier => exact h.done ho hstep hless hi hcopier
  | worker hpool | coordinator hpool => exact h.stepPool hpool rfl rfl

theorem Starts.sound (h : Starts w p) : Sound w p := by
  refine ⟨h.outlets, fun j o ho => (h.ready j o ho).toRuns, fun j o ho => ?_, fun i j hij => ?_⟩
  · have hready := h.ready j o ho
    refine ⟨?_, ?_, ?_⟩
    · rw [hready.authors]
      exact List.nodup_nil
    · rw [hready.authors, hready.writers]
      rfl
    · rw [hready.authors]
      nofun
  · have hi := (List.getElem?_eq_some_iff.1 (Option.join_eq_some_iff.1 hij)).1
    rw [w.length_origins] at hi
    refine ⟨⟨.reading, 0⟩, ?_, trivial⟩
    rw [h.emitter, Emitter.initial, List.getElem?_replicate, if_pos hi]

theorem Reachable.sound (h : Reachable w p) : Sound w p := by
  induction h with
  | start hstarts => exact hstarts.sound
  | step _ hstep ih => exact ih.moves (moves_iff.1 hstep)

/-! ## Going on -/

/-- The steps by which the pool of output `j` goes on or its own copier does: one that yields what is
read from the pool. None of them waits for time to pass. -/
inductive Advances (w : Wiring) (p : Pipeline) (j : Nat) : Event → Prop
  /-- A worker goes on. -/
  | worker {o : Outlet} {k : Nat} {e : Worker.Event} : p.outlet? j = some o →
      o.pool.Advances k e → Advances w p j (.worker j k e)
  /-- The copier reads a response … -/
  | read {i : Nat} (now : Moment) : w.origin? i = some j → Advances w p j (.read i now)
  /-- … and begins and ends its writes. -/
  | hand {i : Nat} : w.origin? i = some j → Advances w p j (.hand i)
  | write {i : Nat} : w.origin? i = some j → Advances w p j (.write i)
  | written {i : Nat} (success : Bool) : w.origin? i = some j → Advances w p j (.written i success)

/-- Where responses are tracked there is a copier that reads them. -/
theorem Sound.exists_origin (h : Sound w p) (ho : p.outlet? j = some o)
    (htracked : o.settings.trackResponses = true) : ∃ i, w.origin? i = some j := by
  have houtput := h.outlets j
  rw [ho, Option.map_some, eq_comm, Option.filter_eq_some_iff] at houtput
  have hinput : o.output.asInput? ≠ none := by
    rw [Outlet.output, Output.asInput?, if_pos htracked]
    nofun
  obtain ⟨i, hi⟩ := List.mem_iff_getElem?.1 (w.registered j o.output houtput.1 hinput)
  exact ⟨i, Option.join_eq_some_iff.2 hi⟩

/-- **Writing to a pool what is no request is done at once**, and nothing becomes of it. -/
theorem Sound.exists_pass (h : Sound w p) {payload : Bytes}
    (hwriting : p.writing? i = some (payload, j)) (ho : p.outlet? j = some o)
    (hno : Payload.isRequest payload = false) :
    ∃ q, p.step w (.write i) = some q ∧ q.outlets = p.outlets := by
  obtain ⟨c, more, hc, hphase⟩ := writing?_eq_some_iff.1 hwriting
  have hruns := h.runs j o ho
  have hpool : p.stepPool j (.write payload) = some p := by
    have hsame : o.pool.step o.settings o.target (.write payload) = some o.pool :=
      Pool.write_eq_self hruns.isOpen hruns.held hno
    rw [stepPool_of_step ho hsame, setOutlet_self ho]
  obtain ⟨q, hq⟩ := exists_stepCopier (w := w) hc (.written true hphase)
  obtain ⟨-, -, -, -, -, -, houtlets⟩ := stepCopier_eq_some hq
  exact ⟨q, moves_iff.2 (.pass hwriting ho hno hpool hq), houtlets⟩

/-- **The copier of a pool always has a step** when there is something to read. -/
theorem Sound.exists_own_step (h : Sound w p) (ho : p.outlet? j = some o)
    (hi : w.origin? i = some j) (hresponses : o.pool.shared.responses ≠ []) :
    ∃ e q, Advances w p j e ∧ p.step w e = some q := by
  obtain ⟨c, hc, hinnocent⟩ := h.innocent i j hi
  cases hphase : c.phase with
  | reading =>
    obtain ⟨r, rest, hresponses⟩ := List.exists_cons_of_ne_nil hresponses
    obtain ⟨pool, hpool⟩ : ∃ pool, o.pool.step o.settings o.target .read = some pool := by
      rw [Pool.step, hresponses]
      exact ⟨_, rfl⟩
    have hread := stepPool_of_step ho hpool
    obtain ⟨q, hq⟩ := exists_stepCopier (w := w) (p := p.setOutlet j { o with pool }) hc
      (.receive (r.payload ⟨0, 0⟩) hphase)
    exact ⟨.read i ⟨0, 0⟩, q, .read _ hi, moves_iff.2 (.read hi ho hresponses hread hq)⟩
  | holding payload outputs =>
    rw [hphase] at hinnocent
    obtain ⟨output, more, rfl⟩ := List.exists_cons_of_ne_nil hinnocent.2
    obtain ⟨q, hq⟩ := exists_stepCopier (w := w) hc (.hand hphase)
    exact ⟨.hand i, q, .hand hi, moves_iff.2 (.hand hq)⟩
  | writing payload k more =>
    rw [hphase] at hinnocent
    have hwriting := writing?_eq_some_iff.2 ⟨c, more, hc, hphase⟩
    rcases hk : p.outlet? k with _ | o₁
    · obtain ⟨q, hq⟩ := exists_stepCopier (w := w) hc (.written true hphase)
      exact ⟨.written i true, q, .written true hi, moves_iff.2 (.written hwriting hk hq)⟩
    · obtain ⟨q, hq, -⟩ := h.exists_pass hwriting hk hinnocent
      exact ⟨.write i, q, .write hi, hq⟩
  | ended =>
    rw [hphase] at hinnocent
    exact hinnocent.elim

/-- **A writer goes on at any time**, and when it is done its copier is. -/
theorem Sound.exists_writer (h : Sound w p) (ho : p.outlet? j = some o) {n : Nat}
    (hn : n < o.pool.writers.length) : ∃ q, p.step w (.writer j n) = some q := by
  obtain ⟨pool, hpool⟩ : ∃ pool, o.pool.step o.settings o.target (.writer n) = some pool :=
    Pool.exists_step_writer hn
  have hstep : o.step (.writer n) = some { o with pool } := by
    rw [Outlet.step, hpool]
    rfl
  by_cases hless : pool.writers.length < o.pool.writers.length
  · have hauthored := h.authored j o ho
    rw [← hauthored.length] at hn
    obtain ⟨payload, hwriting, -⟩ := hauthored.writing _ (List.getElem_mem hn)
    obtain ⟨c, more, hc, hphase⟩ := writing?_eq_some_iff.1 hwriting
    obtain ⟨q, hq⟩ := exists_stepCopier (w := w)
      (p := p.setOutlet j { o with pool, authors := o.authors.eraseIdx n }) hc
      (.written true hphase)
    exact ⟨q, moves_iff.2 (.done ho hstep hless (List.getElem?_eq_getElem hn) hq)⟩
  · exact ⟨_, moves_iff.2 (.writer ho hstep hless)⟩

/-- What keeps a pipeline from being stuck. -/
structure Unstuck (w : Wiring) (p : Pipeline) : Prop where
  /-- A pool that has a payload in its queue or a response to hand over goes on, or its own copier
  does, provided that three times its idle floor is a size. -/
  advances : ∀ j o, p.outlet? j = some o → o.settings.idleWorkers * 3 ≤ Numeral.maxSize →
    o.pool.shared.queue ≠ [] ∨ o.pool.handingOver ≠ [] →
    ∃ e q, Advances w p j e ∧ p.step w e = some q
  /-- What is read back from a pool is no request, … -/
  returned : ∀ (r : TrackedResponse) (now : Moment), Payload.isRequest (r.payload now) = false
  /-- … and so whoever reads it back has no request to write. -/
  innocent : ∀ i j, w.origin? i = some j → ∀ payload k, p.writing? i = some (payload, k) →
    Payload.isRequest payload = false
  /-- Writing that to a pool is done at once, however full the pool's queue is, and leaves all pools
  as they are: nothing is replayed for it. -/
  passed : ∀ i payload j o, p.writing? i = some (payload, j) → p.outlet? j = some o →
    Payload.isRequest payload = false →
    ∃ q, p.step w (.write i) = some q ∧ q.outlets = p.outlets
  /-- A writer whose request is in the queue goes on at any time. -/
  accepted : ∀ j o, p.outlet? j = some o → ∀ n < o.pool.writers.length,
    ∃ q, p.step w (.writer j n) = some q

/-- **Pools whose responses are read back by their own emitter do not block it**, however many
there are, however little room they have, and whatever the other inputs yield: in broadcast or in
turns, in every state before anything is told to stop, each pool that has something to do goes on, or
the copier that reads from it does. -/
theorem never_stuck (h : Reachable w p) : Unstuck w p := by
  have hsound := h.sound
  refine ⟨fun j o ho hfloor hwork => ?_, TrackedResponse.isRequest_payload,
    fun i j hi payload k hwriting => ?_, fun i payload j o => hsound.exists_pass,
    fun j o ho n => hsound.exists_writer ho⟩
  · have hruns := hsound.runs j o ho
    rcases hruns.reachable.advances hfloor hruns.isOpen hruns.stopped hruns.held hwork with
      ⟨k, e, pool, hadvance, hstep⟩ | ⟨htracked, hresponses⟩
    · exact ⟨.worker j k e, _, .worker ho hadvance,
        moves_iff.2 (.worker (stepPool_of_step ho hstep))⟩
    · obtain ⟨i, hi⟩ := hsound.exists_origin ho htracked
      exact hsound.exists_own_step ho hi hresponses
  · obtain ⟨c, hc, hinnocent⟩ := hsound.innocent i j hi
    obtain ⟨c', more, hc', hphase⟩ := writing?_eq_some_iff.1 hwriting
    rw [hc] at hc'
    cases hc'
    rw [hphase] at hinnocent
    exact hinnocent

/-! ## Nowhere to go

An input that makes up requests, and a pool of one worker with room for one request and one response.
The input is ahead of the pool: its third request fills the queue, and its fourth waits for room. The
worker has its second response to hand over and waits for room, too. The pool's own copier reads the
first.
-/

/-- A pool of one worker that has as little room as can be. -/
def tight : Pool.Settings where
  workers := 1
  trackResponses := true
  queueCapacity := 1
  responseCapacity := 1

def tightTarget : Target := .onHost .http "site" none

def tightWiring : Wiring :=
  ((Wiring.none false).withInput (.dummy 0)).withOutput (.replay tightTarget tight)

def tightStart : Pipeline where
  emitter := Emitter.initial 2
  outlets := [some ⟨tightTarget, tight, Pool.opened tight tightTarget, []⟩]

/-- The input yields a request. -/
def yieldRequest : List Event :=
  [.receive 0 (Payload.ofRequest 0 ⟨0, 0⟩ DummyInput.request), .hand 0]

/-- The input's request gets into the queue. -/
def queueRequest : List Event := yieldRequest ++ [.write 0, .writer 0 0]

/-- The worker replays a request. -/
def replayRequest : List Event :=
  [.worker 0 0 .proceed, .worker 0 0 .lineUp, .worker 0 0 .take, .worker 0 0 .proceed,
    .worker 0 0 .proceed,
    .worker 0 0 (.replied (Client.create tightTarget tight.client) (.answered []) ⟨0, 0⟩ ⟨0, 5⟩ 5)]

def congestedEvents : List Event :=
  queueRequest ++ replayRequest ++
    [.worker 0 0 .deliver, .worker 0 0 .proceed, .worker 0 0 .proceed] ++
    queueRequest ++ replayRequest ++ queueRequest ++ yieldRequest

theorem starts_tight : Starts tightWiring tightStart := by
  refine ⟨rfl, fun j => ?_, fun j o ho => ?_⟩
  · rcases j with _ | j
    · decide +kernel
    · rfl
  · rcases j with _ | j
    · cases ho
      exact ⟨⟨⟨[.coordinator, .coordinator], by decide +kernel⟩, rfl, rfl, rfl⟩, rfl, rfl, rfl⟩
    · cases ho

theorem never_stuck_congested :
    ∃ p o, Reachable tightWiring p ∧ p.outlet? 0 = some o ∧ o.pool.shared.queue.length = 1 ∧
      o.pool.handingOver.length = 1 ∧ p.step tightWiring (.write 0) = none ∧
      p.step tightWiring (.worker 0 0 .deliver) = none ∧ Unstuck tightWiring p := by
  have hrun : (tightStart.run tightWiring congestedEvents).any
      (fun p => (p.outlet? 0).any (fun o => o.pool.shared.queue.length == 1 &&
        o.pool.handingOver.length == 1) && p.step tightWiring (.write 0) == none &&
        p.step tightWiring (.worker 0 0 .deliver) == none) = true := by decide +kernel
  obtain ⟨p, hp, hstate⟩ := (Option.any_eq_true _ _).1 hrun
  simp only [Bool.and_eq_true, beq_iff_eq] at hstate
  obtain ⟨⟨hpool, hwrite⟩, hdeliver⟩ := hstate
  obtain ⟨o, ho, hfull⟩ := (Option.any_eq_true _ _).1 hpool
  simp only [Bool.and_eq_true, beq_iff_eq] at hfull
  have hreachable := (Reachable.start starts_tight).run hp
  exact ⟨p, o, hreachable, ho, hfull.1, hfull.2, hwrite, hdeliver, never_stuck hreachable⟩

end Pipeline
end HttpReplay
