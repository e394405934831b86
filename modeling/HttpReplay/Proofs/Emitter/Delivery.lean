import HttpReplay.Proofs.Emitter.Step
import Mathlib.Data.List.Infix

/-!
What an emitter hands to its outputs.

Which payloads of an input an output should get is a matter of their order alone (`Settings.due`):
all of them, or every so manieth. What a copier has handed to an output, and the payload that it
still has for it, if it has one, are together what the output should have got (`Accounts`). This one
equation, kept by every step, holds for both ways of handing out. That an output has got a prefix of
what it should, and how far apart two outputs can be, is read off it: at most one payload is missing
anywhere, and it is missing at the outputs that come last.

That copiers do not get in each other's way is a statement about two runs. In the second, some of
the inputs do something else or nothing at all, and writes end otherwise; for the other inputs
everything comes out the same (`exists_run_of_similar`).
-/

set_option autoImplicit false

namespace HttpReplay.Emitter

/-! ## What an output should get -/

namespace Settings

variable (s : Settings)

/-- The output that is in turn after so many payloads. -/
def turnAfter (payloads : List Bytes) (turn : Nat) : Nat :=
  payloads.foldl (fun turn _ => s.nextTurn turn) turn

/-- The payloads that output `j` should get, the first one being handed out in this turn. -/
def due (j : Nat) : Nat → List Bytes → List Bytes
  | _, [] => []
  | turn, payload :: rest =>
    (if j ∈ s.targets turn then [payload] else []) ++ due j (s.nextTurn turn) rest

theorem turnAfter_concat (payloads : List Bytes) (payload : Bytes) (turn : Nat) :
    s.turnAfter (payloads ++ [payload]) turn = s.nextTurn (s.turnAfter payloads turn) := by
  rw [turnAfter, List.foldl_append]
  rfl

theorem due_concat (j turn : Nat) (payloads : List Bytes) (payload : Bytes) :
    s.due j turn (payloads ++ [payload]) =
      s.due j turn payloads ++
        if j ∈ s.targets (s.turnAfter payloads turn) then [payload] else [] := by
  induction payloads generalizing turn with
  | nil => exact List.append_nil _
  | cons first payloads ih =>
    rw [List.cons_append, due, due, ih, List.append_assoc]
    rfl

theorem nodup_targets (turn : Nat) : (s.targets turn).Nodup := by
  unfold targets
  split
  · exact List.nodup_nil
  · split
    · exact List.pairwise_singleton _ turn
    · exact List.nodup_range

end Settings

variable {s : Settings}

theorem targets_of_broadcast (hsplit : s.split = false) (turn : Nat) :
    s.targets turn = List.range s.outputs := by
  rw [Settings.targets]
  by_cases hnone : s.outputs = 0
  · rw [if_pos hnone, hnone, List.range_zero]
  · rw [if_neg hnone, hsplit, if_neg Bool.false_ne_true]

/-- Without turns every output should get every payload. -/
theorem due_of_broadcast (hsplit : s.split = false) {j : Nat} (hj : j < s.outputs) (turn : Nat)
    (payloads : List Bytes) : s.due j turn payloads = payloads := by
  induction payloads generalizing turn with
  | nil => rfl
  | cons payload payloads ih =>
    rw [Settings.due, targets_of_broadcast hsplit, if_pos (List.mem_range.2 hj), ih]
    rfl

/-- Every so manieth of a list of payloads, from number `j` on. -/
def everyNth (n j : Nat) (payloads : List Bytes) : List Bytes :=
  (payloads.zipIdx.filter fun x => x.2 % n == j).map Prod.fst

/-- In turns an output should get the payloads whose numbers leave its own. -/
theorem due_of_split (hsplit : s.split = true) {j : Nat} (hj : j < s.outputs)
    (payloads : List Bytes) : s.due j 0 payloads = everyNth s.outputs j payloads := by
  have hsome : s.outputs ≠ 0 := by omega
  -- The payloads are numbered from any number on, so that the turn can change.
  have hgeneral : ∀ k, s.due j (k % s.outputs) payloads =
      ((payloads.zipIdx k).filter fun x => x.2 % s.outputs == j).map Prod.fst := by
    induction payloads with
    | nil => intro k; rfl
    | cons payload payloads ih =>
      intro k
      have hturn : s.nextTurn (k % s.outputs) = (k + 1) % s.outputs := by
        rw [Settings.nextTurn, if_neg hsome, hsplit, if_pos rfl, Nat.mod_add_mod]
      have htargets : s.targets (k % s.outputs) = [k % s.outputs] := by
        rw [Settings.targets, if_neg hsome, hsplit, if_pos rfl]
      rw [Settings.due, hturn, htargets, ih (k + 1), List.zipIdx_cons]
      by_cases hmine : k % s.outputs = j
      · simp [hmine]
      · have hother : j ≠ k % s.outputs := fun h => hmine h.symm
        simp [hmine, hother]
  have hzero := hgeneral 0
  rwa [Nat.zero_mod] at hzero

/-! ## Accounts -/

/-- A copier in this phase has this payload for these outputs yet. One that has ended may have
left it at that. -/
def Phase.Has : Phase → Bytes → List Nat → Prop
  | .reading, _, left => left = []
  | .holding payload outputs, payload', left => payload' = payload ∧ left = outputs ∧ left ≠ []
  | .writing payload _ more, payload', left => payload' = payload ∧ left = more
  | .ended, _, _ => True

theorem has_phaseFor (payload : Bytes) (left : List Nat) :
    (phaseFor payload left).Has payload left := by
  unfold phaseFor
  split
  next hempty => exact List.isEmpty_iff.1 hempty
  next hne => exact ⟨rfl, rfl, fun hnil => hne (List.isEmpty_iff.2 hnil)⟩

/-- What a copier has handed out of what it has received, and what is left to be handed out of the
latest payload. -/
structure Accounts (s : Settings) (c : Copier) (received : List Bytes) (handed : Nat → List Bytes)
    (payload : Bytes) (left : List Nat) : Prop where
  turn : c.turn = s.turnAfter received 0
  has : c.phase.Has payload left
  /-- Those that are left are the last. -/
  last : ∃ turn, left <:+ s.targets turn
  /-- What was handed out and what is left is what is due. -/
  balance : ∀ j, handed j ++ (if j ∈ left then [payload] else []) = s.due j 0 received

variable {stopped : Bool} {i : Nat} {event : Event} {c c' : Copier} {entry : Option Entry}
  {received : List Bytes} {handed : Nat → List Bytes} {payload : Bytes} {left : List Nat}

theorem Accounts.congr {handed' : Nat → List Bytes} (h : Accounts s c received handed payload left)
    (hturn : c'.turn = c.turn) (hhas : c'.phase.Has payload left)
    (hhanded : ∀ j, handed' j = handed j) : Accounts s c' received handed' payload left := by
  refine ⟨hturn.trans h.turn, hhas, h.last, fun j => ?_⟩
  rw [hhanded]
  exact h.balance j

/-- A payload that is received is left for all of its outputs. -/
theorem Accounts.receive {handed' : Nat → List Bytes} (h : Accounts s c received handed payload [])
    (hhanded : ∀ j, handed' j = handed j) (new : Bytes) :
    Accounts s ⟨phaseFor new (s.targets c.turn), s.nextTurn c.turn⟩ (received ++ [new]) handed' new
      (s.targets c.turn) := by
  refine ⟨?_, has_phaseFor _ _, ⟨c.turn, List.suffix_refl _⟩, fun j => ?_⟩
  · rw [s.turnAfter_concat, ← h.turn]
  · have hbalance := h.balance j
    rw [if_neg List.not_mem_nil, List.append_nil] at hbalance
    rw [hhanded, s.due_concat, ← h.turn, ← hbalance]

/-- What an output is handed is left for the others. -/
theorem Accounts.hand {handed' : Nat → List Bytes} {output : Nat} {more : List Nat}
    (h : Accounts s c received handed payload (output :: more))
    (hhanded : ∀ j, handed' j = handed j ++ if j = output then [payload] else []) :
    Accounts s { c with phase := .writing payload output more } received handed' payload more := by
  obtain ⟨turn, hsuffix⟩ := h.last
  have hnodup : output ∉ more :=
    (List.nodup_cons.1 ((s.nodup_targets turn).sublist hsuffix.sublist)).1
  refine ⟨h.turn, ⟨rfl, rfl⟩, ⟨turn, (List.suffix_cons output more).trans hsuffix⟩, fun j => ?_⟩
  rw [hhanded, ← h.balance j]
  by_cases hj : j = output
  · rw [hj, if_pos rfl, if_neg hnodup, if_pos List.mem_cons_self, List.append_nil]
  · have hmem : j ∈ output :: more ↔ j ∈ more := by rw [List.mem_cons, or_iff_right hj]
    rw [if_neg hj, List.append_nil]
    simp only [hmem]

/-- **Every step keeps the accounts**, and where an input ends nothing is left. -/
theorem Accounts.step (h : Accounts s c received handed payload left)
    (hmove : Copier.Moves s stopped i event c c' entry) :
    ∃ payload' left', Accounts s c' (received ++ newlyReceived i entry)
        (fun j => handed j ++ newlyHanded i j entry) payload' left' ∧
      (event = .close → c'.phase = .ended ∧ left' = []) := by
  have hnone (j : Nat) : handed j ++ newlyHanded i j none = handed j := List.append_nil _
  have hhas := h.has
  cases hmove with
  | receive new hphase =>
    rw [hphase] at hhas
    obtain rfl : left = [] := hhas
    have hnew : newlyReceived i (some (.received i new)) = [new] := by
      simp [newlyReceived, Entry.received?]
    rw [hnew]
    exact ⟨new, s.targets c.turn, h.receive (fun j => List.append_nil _) new,
      fun hclose => by cases hclose⟩
  | close hphase =>
    rw [hphase] at hhas
    obtain rfl : left = [] := hhas
    rw [newlyReceived, Option.bind_none, Option.toList_none, List.append_nil]
    exact ⟨payload, [], h.congr rfl trivial hnone, fun _ => ⟨rfl, rfl⟩⟩
  | @hand _ held output more hphase =>
    rw [hphase] at hhas
    obtain ⟨rfl, rfl, -⟩ := hhas
    have hother : newlyReceived i (some (.handed i output payload)) = [] := rfl
    have hnew (j : Nat) : newlyHanded i j (some (.handed i output payload)) =
        if j = output then [payload] else [] := by
      by_cases hj : j = output
      · simp [newlyHanded, Entry.handed?, hj]
      · have hne : output ≠ j := fun heq => hj heq.symm
        simp [newlyHanded, Entry.handed?, hj, hne]
    rw [hother, List.append_nil]
    exact ⟨payload, more, h.hand fun j => congrArg _ (hnew j), fun hclose => by cases hclose⟩
  | @written _ held output more success hphase =>
    rw [hphase] at hhas
    obtain ⟨rfl, rfl⟩ := hhas
    have hother : newlyReceived i (some (.written i output success)) = [] := rfl
    rw [hother, List.append_nil]
    exact ⟨payload, left, h.congr rfl (has_phaseFor _ _) fun j => List.append_nil _,
      fun hclose => by cases hclose⟩
  | crash | stop =>
    rw [newlyReceived, Option.bind_none, Option.toList_none, List.append_nil]
    exact ⟨payload, left, h.congr rfl trivial hnone, fun hclose => by cases hclose⟩

/-- A copier that has ended takes no step. -/
theorem Copier.Moves.not_ended (h : Copier.Moves s stopped i event c c' entry) :
    c.phase ≠ .ended := by
  intro hended
  cases h with
  | receive _ hphase | close hphase | hand hphase | written _ hphase | crash hphase =>
    rw [hended] at hphase
    cases hphase
  | stop _ hphase => exact hphase hended

/-- The accounts of all copiers after a list of actions. -/
def Settled (s : Settings) (inputs : Nat) (as : List Action) (e : Emitter) : Prop :=
  e.copiers.length = inputs ∧ ∀ i c, e.copiers[i]? = some c →
    ∃ payload left, Accounts s c (e.received i) (e.handed i) payload left ∧
      (.copier i .close ∈ as → c.phase = .ended ∧ left = [])

theorem settled_of_run {inputs : Nat} {as : List Action} {e : Emitter}
    (h : (initial inputs).run s as = some e) : Settled s inputs as e := by
  refine run_induction (P := Settled s inputs) ?_ ?_ h
  · refine ⟨List.length_replicate, fun i c hc => ?_⟩
    obtain rfl := List.eq_of_mem_replicate (List.mem_of_getElem? hc)
    have hdue (j : Nat) : [] ++ (if j ∈ ([] : List Nat) then [([] : Bytes)] else []) = [] := rfl
    exact ⟨[], [], ⟨rfl, rfl, ⟨0, List.nil_suffix⟩, hdue⟩, nofun⟩
  rintro as a e e' ⟨hlength, ih⟩ hmove
  cases hmove with
  | stop =>
    refine ⟨hlength, fun i c hc => ?_⟩
    obtain ⟨payload, left, haccounts, hclosed⟩ := ih i c hc
    refine ⟨payload, left, haccounts, fun hmem => hclosed ?_⟩
    simpa using hmem
  | @copier _ k event c₀ c₁ entry hc₀ hmove =>
    refine ⟨List.length_set.trans hlength, fun i c hc => ?_⟩
    rw [received_step, funext (handed_step entry i)]
    by_cases hi : k = i
    · subst hi
      obtain ⟨hk, -⟩ := List.getElem?_eq_some_iff.1 hc₀
      rw [List.getElem?_set_self hk] at hc
      obtain rfl := Option.some.inj hc
      obtain ⟨payload, left, haccounts, hclosed⟩ := ih k c₀ hc₀
      obtain ⟨payload', left', haccounts', hclosing⟩ := haccounts.step hmove
      refine ⟨payload', left', haccounts', fun hmem => ?_⟩
      rcases List.mem_append.1 hmem with hbefore | hnow
      · -- It has not ended before, or it could not have moved.
        exact absurd (hclosed hbefore).1 hmove.not_ended
      · exact hclosing (Action.copier.inj (List.mem_singleton.1 hnow)).2.symm
    · rw [List.getElem?_set_ne hi] at hc
      obtain ⟨payload, left, haccounts, hclosed⟩ := ih i c hc
      obtain ⟨hreceived, hhanded⟩ := hmove.newly_of_ne hi
      refine ⟨payload, left, ?_, fun hmem => hclosed ?_⟩
      · rw [hreceived, List.append_nil]
        exact haccounts.congr rfl haccounts.has fun j => by rw [hhanded, List.append_nil]
      · rcases List.mem_append.1 hmem with hbefore | hnow
        · exact hbefore
        · exact absurd (Action.copier.inj (List.mem_singleton.1 hnow)).1.symm hi

/-! ## Runs that differ elsewhere -/

/-- The event, whatever came of a write. -/
def Event.blind : Event → Event
  | .written _ => .written true
  | event => event

def Action.blind : Action → Action
  | .copier i event => .copier i event.blind
  | .stop => .stop

/-- Whether an action has to do with one of these inputs. -/
def Action.concerns (K : Nat → Bool) : Action → Bool
  | .copier i _ => K i
  | .stop => true

/-- Two emitters that are the same as far as these inputs are concerned. -/
structure Agrees (K : Nat → Bool) (e e' : Emitter) : Prop where
  stopped : e'.stopped = e.stopped
  copiers : ∀ i, K i = true → e'.copiers[i]? = e.copiers[i]?
  received : ∀ i, K i = true → e'.received i = e.received i
  handed : ∀ i, K i = true → ∀ j, e'.handed i j = e.handed i j

/-- What comes of a write changes nothing but what is said about it. -/
theorem Copier.Moves.of_blind {event' : Event} (h : Copier.Moves s stopped i event c c' entry)
    (hblind : event'.blind = event.blind) :
    ∃ entry', Copier.Moves s stopped i event' c c' entry' ∧
      (∀ k, newlyReceived k entry' = newlyReceived k entry) ∧
      ∀ k j, newlyHanded k j entry' = newlyHanded k j entry := by
  cases h with
  | written success hphase =>
    cases event' with
    | written success' => exact ⟨_, .written success' hphase, fun _ => rfl, fun _ _ => rfl⟩
    | _ => cases hblind
  | receive payload hphase =>
    cases event' <;> cases hblind
    exact ⟨_, .receive payload hphase, fun _ => rfl, fun _ _ => rfl⟩
  | close hphase =>
    cases event' <;> cases hblind
    exact ⟨_, .close hphase, fun _ => rfl, fun _ _ => rfl⟩
  | hand hphase =>
    cases event' <;> cases hblind
    exact ⟨_, .hand hphase, fun _ => rfl, fun _ _ => rfl⟩
  | crash hphase =>
    cases event' <;> cases hblind
    exact ⟨_, .crash hphase, fun _ => rfl, fun _ _ => rfl⟩
  | stop hstopped hphase =>
    cases event' <;> cases hblind
    exact ⟨_, .stop hstopped hphase, fun _ => rfl, fun _ _ => rfl⟩

variable {K : Nat → Bool} {a : Action} {e e' f : Emitter}

/-- An emitter that agrees can do the same, whatever comes of a write, and agrees afterwards. -/
theorem Agrees.step (h : Agrees K e f) (hmove : Moves s a e e') (ha : a.concerns K = true)
    {b : Action} (hblind : b.blind = a.blind) : ∃ f', Moves s b f f' ∧ Agrees K e' f' := by
  cases hmove with
  | stop =>
    cases b with
    | stop => exact ⟨f.stop, .stop, rfl, h.copiers, h.received, h.handed⟩
    | copier => cases hblind
  | @copier _ i event c c' entry hc hmove =>
    cases b with
    | stop => cases hblind
    | copier i' event' =>
      obtain ⟨rfl, hevent⟩ := Action.copier.inj hblind
      obtain ⟨entry', hmove', hreceived, hhanded⟩ := hmove.of_blind hevent
      rw [← h.stopped] at hmove'
      refine ⟨_, .copier ((h.copiers i' ha).trans hc) hmove', h.stopped, ?_, ?_, ?_⟩
      · intro k hk
        rw [List.getElem?_set, List.getElem?_set, h.copiers k hk]
        by_cases hi : i' = k
        · subst hi
          have hf := (List.getElem?_eq_some_iff.1 ((h.copiers i' ha).trans hc)).1
          have he := (List.getElem?_eq_some_iff.1 hc).1
          rw [if_pos rfl, if_pos rfl, if_pos hf, if_pos he]
        · rw [if_neg hi, if_neg hi]
      · intro k hk
        rw [received_step, received_step, h.received k hk, hreceived]
      · intro k hk j
        rw [handed_step, handed_step, h.handed k hk, hhanded]

/-- What concerns none of the inputs leaves the agreement alone. -/
theorem Agrees.skip (h : Agrees K e f) (hmove : Moves s a e e') (ha : a.concerns K = false) :
    Agrees K e' f := by
  cases hmove with
  | stop => cases ha
  | @copier _ i event c c' entry hc hmove =>
    have hother {k : Nat} (hk : K k = true) : i ≠ k := by
      rintro rfl
      exact Bool.false_ne_true (ha.symm.trans hk)
    refine ⟨h.stopped, fun k hk => ?_, fun k hk => ?_, fun k hk j => ?_⟩
    · rw [List.getElem?_set_ne (hother hk)]
      exact h.copiers k hk
    · rw [received_step, (hmove.newly_of_ne (hother hk)).1, List.append_nil]
      exact h.received k hk
    · rw [handed_step, (hmove.newly_of_ne (hother hk)).2, List.append_nil]
      exact h.handed k hk j

/-- **A run can be had with some inputs left out and writes that end otherwise**, and comes out the
same for the inputs that are left. -/
theorem exists_run_of_similar {inputs : Nat} {as : List Action}
    (h : (initial inputs).run s as = some e) {bs : List Action}
    (hbs : bs.map Action.blind = (as.filter (Action.concerns K)).map Action.blind) :
    ∃ f, (initial inputs).run s bs = some f ∧ Agrees K e f := by
  refine run_induction (P := fun as e => ∀ bs : List Action,
    bs.map Action.blind = (as.filter (Action.concerns K)).map Action.blind →
      ∃ f, (initial inputs).run s bs = some f ∧ Agrees K e f) ?_ ?_ h bs hbs
  · intro bs hbs
    obtain rfl := List.map_eq_nil_iff.1 hbs
    exact ⟨initial inputs, rfl, rfl, fun _ _ => rfl, fun _ _ => rfl, fun _ _ _ => rfl⟩
  intro as a e e' ih hmove bs hbs
  rw [List.filter_append, List.map_append] at hbs
  cases ha : a.concerns K with
  | false =>
    rw [List.filter_singleton, ha, cond_false, List.map_nil, List.append_nil] at hbs
    obtain ⟨f, hf, hagrees⟩ := ih bs hbs
    exact ⟨f, hf, hagrees.skip hmove ha⟩
  | true =>
    rw [List.filter_singleton, ha, cond_true, List.map_singleton] at hbs
    obtain ⟨bs, last, rfl, hbefore, hlast⟩ := List.map_eq_append_iff.1 hbs
    obtain ⟨b, rfl, hblind⟩ := List.map_eq_singleton_iff.1 hlast
    obtain ⟨f, hf, hagrees⟩ := ih bs hbefore
    obtain ⟨f', hmove', hagrees'⟩ := hagrees.step hmove ha hblind
    refine ⟨f', ?_, hagrees'⟩
    rw [run_append, hf, Option.bind_some, run, moves_iff.2 hmove']
    rfl

/-! ## The end of an input -/

/-- A step of one copier, as a step of the emitter. -/
theorem exists_act (hc : e.copiers[i]? = some c)
    (hmove : Copier.Moves s e.stopped i event c c' entry) :
    ∃ e', e.act s (.copier i event) = some e' ∧ e'.copiers[i]? = some c' ∧
      e'.received i = e.received i ++ newlyReceived i entry := by
  refine ⟨_, moves_iff.2 (.copier hc hmove), ?_, received_step entry i⟩
  exact List.getElem?_set_self (List.getElem?_eq_some_iff.1 hc).1

/-- What a copier does that gets no more payloads, and whose writes end like this. -/
def Event.IsClosing (success : Bool) (event : Event) : Prop :=
  event = .hand ∨ event = .written success ∨ event = .close

/-- What brings the copier of input `i` to an end: it hands out what it has, and ends. -/
structure Closing (s : Settings) (success : Bool) (i : Nat) (e : Emitter) (events : List Event)
    (e' : Emitter) : Prop where
  closing : ∀ event ∈ events, Event.IsClosing success event
  closed : .close ∈ events
  run : e.run s (events.map (Action.copier i)) = some e'
  received : e'.received i = e.received i

theorem Closing.cons {success : Bool} {events : List Event} {e₁ : Emitter}
    (h : Closing s success i e₁ events e') (hevent : event.IsClosing success)
    (hact : e.act s (.copier i event) = some e₁) (hreceived : e₁.received i = e.received i) :
    Closing s success i e (event :: events) e' := by
  refine ⟨?_, List.mem_cons_of_mem _ h.closed, ?_, h.received.trans hreceived⟩
  · rw [List.forall_mem_cons]
    exact ⟨hevent, h.closing⟩
  · rw [List.map_cons, Emitter.run, hact, Option.bind_some]
    exact h.run

theorem exists_closing_of_phaseFor (success : Bool) (payload : Bytes) (left : List Nat)
    (hc : e.copiers[i]? = some c) (hphase : c.phase = phaseFor payload left) :
    ∃ events e', Closing s success i e events e' := by
  induction left generalizing e c with
  | nil =>
    obtain ⟨e', he', -, hreceived⟩ := exists_act hc (.close hphase)
    refine ⟨[.close], e', ?_, List.mem_singleton.2 rfl, ?_, hreceived.trans (List.append_nil _)⟩
    · intro event hevent
      exact .inr (.inr (List.mem_singleton.1 hevent))
    · rw [List.map_singleton, run, he']
      rfl
  | cons output more ih =>
    -- It begins the next write, is done with it, and goes on with the rest.
    obtain ⟨e₁, he₁, hc₁, hreceived₁⟩ := exists_act hc (.hand hphase)
    obtain ⟨e₂, he₂, hc₂, hreceived₂⟩ := exists_act (s := s) hc₁ (.written success rfl)
    obtain ⟨events, e', hclosing⟩ := ih hc₂ rfl
    have hrest := hclosing.cons (.inr (.inl rfl)) he₂ (hreceived₂.trans (List.append_nil _))
    exact ⟨_, e', hrest.cons (.inl rfl) he₁ (hreceived₁.trans (List.append_nil _))⟩

/-- **A copier that gets no more payloads can always go on to its end**, whatever comes of its
writes. -/
theorem exists_closing (success : Bool) (hc : e.copiers[i]? = some c)
    (hhas : c.phase.Has payload left) (hended : c.phase ≠ .ended) :
    ∃ events e', Closing s success i e events e' := by
  cases hphase : c.phase with
  | reading => exact exists_closing_of_phaseFor success [] [] hc hphase
  | holding held outputs =>
    rw [hphase] at hhas
    obtain ⟨-, rfl, hne⟩ := hhas
    refine exists_closing_of_phaseFor success held left hc ?_
    rw [hphase, phaseFor, if_neg fun hempty => hne (List.isEmpty_iff.1 hempty)]
  | writing held output more =>
    obtain ⟨e₁, he₁, hc₁, hreceived⟩ := exists_act (s := s) hc (.written success hphase)
    obtain ⟨events, e', hclosing⟩ := exists_closing_of_phaseFor success held more hc₁ rfl
    exact ⟨_, e', hclosing.cons (.inr (.inl rfl)) he₁ (hreceived.trans (List.append_nil _))⟩
  | ended => exact absurd hphase hended

/-! ## Delivery -/

/-- Those that are left are the last, so whoever comes after one of them is one of them. -/
theorem mem_of_suffix_range {n j k : Nat} {left : List Nat} (h : left <:+ List.range n)
    (hj : j ∈ left) (hjk : j ≤ k) (hk : k < n) : k ∈ left := by
  obtain ⟨start, hwhole⟩ := h
  have hmem : k ∈ start ++ left := hwhole ▸ List.mem_range.2 hk
  rcases List.mem_append.1 hmem with hbefore | hafter
  · have hsorted : (start ++ left).Pairwise (· < ·) := hwhole ▸ List.pairwise_lt_range
    have hlt := (List.pairwise_append.1 hsorted).2.2 k hbefore j hj
    omega
  · exact hafter

/-- What an output should have got of these payloads. -/
def Settings.share (s : Settings) (j : Nat) (payloads : List Bytes) : List Bytes :=
  if s.split then everyNth s.outputs j payloads else payloads

theorem due_eq_share {j : Nat} (hj : j < s.outputs) (payloads : List Bytes) :
    s.due j 0 payloads = s.share j payloads := by
  unfold Settings.share
  cases hsplit : s.split with
  | false => exact due_of_broadcast hsplit hj 0 payloads
  | true => exact due_of_split hsplit hj payloads

/-- What an emitter has done after a run. -/
structure Delivers (s : Settings) (inputs : Nat) (as : List Action) (e : Emitter) : Prop where
  /-- Of the payloads of an input, every output was handed the first ones: of all of them, … -/
  broadcast : s.split = false → ∀ i < inputs, ∀ j < s.outputs, e.handed i j <+: e.received i
  /-- … or of those whose numbers leave the output's own when divided by the number of outputs. -/
  inTurn : s.split = true → ∀ i < inputs, ∀ j < s.outputs,
    e.handed i j <+: everyNth s.outputs j (e.received i)
  /-- Where every output should get every payload, a later output never has more than an earlier
  one, and no output has two more than another. -/
  abreast : s.split = false → ∀ i < inputs, ∀ j k, j ≤ k → k < s.outputs →
    (e.handed i k).length ≤ (e.handed i j).length ∧
      (e.handed i j).length ≤ (e.handed i k).length + 1
  /-- Once a copier has found its input ended, every output has got all that it should. -/
  whole : ∀ i < inputs, .copier i .close ∈ as → ∀ j < s.outputs,
    e.handed i j = s.share j (e.received i)
  /-- It comes to that: a copier that has not ended and gets no more payloads can go on until it
  finds so, whatever comes of its writes. -/
  closing : ∀ i c, e.copiers[i]? = some c → c.phase ≠ .ended → ∀ success, ∃ events e',
    Closing s success i e events e' ∧ ∀ j < s.outputs, e'.handed i j = s.share j (e.received i)
  /-- What comes of writes, and what becomes of some of the inputs, makes no difference to the
  others: leave out all that these did, let writes end in any other way, and the emitter can still
  do the rest, to the same effect. -/
  apart : ∀ (K : Nat → Bool) (bs : List Action),
    bs.map Action.blind = (as.filter (Action.concerns K)).map Action.blind →
      ∃ f, (initial inputs).run s bs = some f ∧ Agrees K e f

/-- What an output was handed and what is left for it is what it should have got. -/
theorem balance_of_settled {inputs : Nat} {as : List Action} (h : Settled s inputs as e)
    (hi : i < inputs) : ∃ payload left, (∃ turn, left <:+ s.targets turn) ∧
      ∀ j < s.outputs, e.handed i j ++ (if j ∈ left then [payload] else []) =
        s.share j (e.received i) := by
  obtain ⟨hlength, haccounts⟩ := h
  obtain ⟨payload, left, haccounts, -⟩ := haccounts i _ (List.getElem?_eq_getElem (hlength ▸ hi))
  refine ⟨payload, left, haccounts.last, fun j hj => ?_⟩
  rw [haccounts.balance j, due_eq_share hj]

theorem prefix_of_settled {inputs : Nat} {as : List Action} (h : Settled s inputs as e)
    (hi : i < inputs) {j : Nat} (hj : j < s.outputs) :
    e.handed i j <+: s.share j (e.received i) := by
  obtain ⟨payload, left, -, hbalance⟩ := balance_of_settled h hi
  exact ⟨_, hbalance j hj⟩

/-- Without turns, what is left is left for the outputs that come last. -/
theorem abreast_of_settled {inputs : Nat} {as : List Action} (h : Settled s inputs as e)
    (hsplit : s.split = false) (hi : i < inputs) {j k : Nat} (hjk : j ≤ k) (hk : k < s.outputs) :
    (e.handed i k).length ≤ (e.handed i j).length ∧
      (e.handed i j).length ≤ (e.handed i k).length + 1 := by
  obtain ⟨payload, left, ⟨turn, hlast⟩, hbalance⟩ := balance_of_settled h hi
  rw [targets_of_broadcast hsplit] at hlast
  -- Both counts fall short of the same one, the later output's at least as much.
  have hfirst := congrArg List.length (hbalance j (Nat.lt_of_le_of_lt hjk hk))
  have hsecond := congrArg List.length (hbalance k hk)
  have hmem : j ∈ left → k ∈ left := fun hj => mem_of_suffix_range hlast hj hjk hk
  simp only [Settings.share, hsplit, Bool.false_eq_true, if_false, List.length_append]
    at hfirst hsecond
  by_cases hj : j ∈ left
  · rw [if_pos hj] at hfirst
    rw [if_pos (hmem hj)] at hsecond
    omega
  · rw [if_neg hj, List.length_nil] at hfirst
    have hone : (if k ∈ left then [payload] else []).length ≤ 1 := by
      split <;> simp
    omega

theorem whole_of_settled {inputs : Nat} {as : List Action} (h : Settled s inputs as e)
    (hi : i < inputs) (hclose : .copier i .close ∈ as) {j : Nat} (hj : j < s.outputs) :
    e.handed i j = s.share j (e.received i) := by
  obtain ⟨hlength, haccounts⟩ := h
  obtain ⟨payload, left, haccounts, hclosed⟩ :=
    haccounts i _ (List.getElem?_eq_getElem (hlength ▸ hi))
  obtain ⟨-, rfl⟩ := hclosed hclose
  rw [← due_eq_share hj, ← haccounts.balance j, if_neg List.not_mem_nil, List.append_nil]

/-- What a copier can still do to hand out all that it should. -/
theorem exists_closing_of_run {inputs : Nat} {as : List Action}
    (h : (initial inputs).run s as = some e) (hc : e.copiers[i]? = some c)
    (hended : c.phase ≠ .ended) (success : Bool) :
    ∃ events e', Closing s success i e events e' ∧
      ∀ j < s.outputs, e'.handed i j = s.share j (e.received i) := by
  obtain ⟨hlength, haccounts⟩ := settled_of_run h
  obtain ⟨payload, left, haccounts, -⟩ := haccounts i c hc
  obtain ⟨events, e', hclosing⟩ := exists_closing (s := s) success hc haccounts.has hended
  have hrun : (initial inputs).run s (as ++ events.map (Action.copier i)) = some e' := by
    rw [run_append, h, Option.bind_some]
    exact hclosing.run
  have hi : i < inputs := hlength ▸ (List.getElem?_eq_some_iff.1 hc).1
  refine ⟨events, e', hclosing, fun j hj => ?_⟩
  rw [← hclosing.received]
  refine whole_of_settled (settled_of_run hrun) hi (List.mem_append_right _ ?_) hj
  exact List.mem_map_of_mem hclosing.closed

/-- **An emitter hands to its outputs what they should get, in order**, however its copiers' steps
interleave, whatever comes of writes and whenever it is told to stop. -/
theorem run_delivers {inputs : Nat} {as : List Action}
    (h : (initial inputs).run s as = some e) : Delivers s inputs as e := by
  have hsettled := settled_of_run h
  refine ⟨?_, ?_, ?_, ?_, ?_, ?_⟩
  · intro hsplit i hi j hj
    simpa [Settings.share, hsplit] using prefix_of_settled hsettled hi hj
  · intro hsplit i hi j hj
    simpa [Settings.share, hsplit] using prefix_of_settled hsettled hi hj
  · intro hsplit i hi j k hjk hk
    exact abreast_of_settled hsettled hsplit hi hjk hk
  · intro i hi hclose j hj
    exact whole_of_settled hsettled hi hclose hj
  · intro i c hc hended success
    exact exists_closing_of_run h hc hended success
  · intro K bs hbs
    exact exists_run_of_similar h hbs

/-! ## A payload that is cut short

Two inputs and three outputs, of which the second fails. The first input yields a payload, which all
outputs are handed, and ends; the second yields one, which the first output is handed before
everything is told to stop.
-/

def interrupted : List Action :=
  [.copier 0 (.receive [1]), .copier 0 .hand, .copier 1 (.receive [2]), .copier 0 (.written true),
    .copier 0 .hand, .copier 0 (.written false), .copier 1 .hand, .copier 0 .hand, .stop,
    .copier 0 (.written true), .copier 0 .close, .copier 1 .stop]

theorem run_delivers_interrupted :
    ∃ e, (initial 2).run ⟨3, false⟩ interrupted = some e ∧
      e.handed 0 2 = [[1]] ∧ e.handed 1 0 = [[2]] ∧ e.handed 1 1 = [] ∧
      Delivers ⟨3, false⟩ 2 interrupted e := by
  have hrun : ((initial 2).run ⟨3, false⟩ interrupted).any
      (fun e => e.handed 0 2 == [[1]] && e.handed 1 0 == [[2]] && e.handed 1 1 == []) =
        true := by decide +kernel
  obtain ⟨e, he, hhanded⟩ := (Option.any_eq_true _ _).1 hrun
  simp only [Bool.and_eq_true, beq_iff_eq] at hhanded
  exact ⟨e, he, hhanded.1.1, hhanded.1.2, hhanded.2, run_delivers he⟩

end HttpReplay.Emitter
