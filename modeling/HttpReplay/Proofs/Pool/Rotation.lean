import HttpReplay.Proofs.Pool.Size
import Mathlib.Data.List.Perm.Subperm

/-!
How long a worker keeps a client.

Which client a worker took each of its payloads for is in the log (`Shared.clientsUsed`). With a
limit of `r` payloads a client, the list of them can only be `r` times the first, then `r` times the
second, and so on, cut short somewhere: the payload numbered `m` is taken for client `m / r`. This is
the whole law (`Worker.Rotates`), and it holds in dynamic pools as in those of fixed size. They only
differ in what can happen when the limit is reached. A worker of a dynamic pool may leave then, and is
for some steps in between still there with a client that it must not use again; a worker of a fixed
pool has its next client at once.

A payload counts from when it is taken to when the worker is done with it (`Phase.isBusy`), whether
it is replayed or passed over.
-/

set_option autoImplicit false

namespace HttpReplay

open Pool (Shared Entry)

namespace Pool

/-- The client that worker `k` has taken a payload for, if the entry says that it has. -/
def Entry.takenBy? (k : Nat) : Entry → Option Nat
  | .taken worker client _ => if worker = k then some client else none
  | _ => none

/-- The clients that worker `k` has taken payloads for, one after the other. -/
def Shared.clientsUsed (shared : Shared) (k : Nat) : List Nat :=
  (shared.log.filterMap (Entry.takenBy? k)).reverse

/-- They are read off the log. -/
theorem clientsUsed_congr {shared shared' : Shared} {k : Nat} (h : shared'.log = shared.log) :
    shared'.clientsUsed k = shared.clientsUsed k := by
  rw [Shared.clientsUsed, h]
  rfl

/-- Entries about anything but a payload that was taken are not about clients. -/
theorem clientsUsed_noting {shared : Shared} {k : Nat} {entry : Entry}
    (h : entry.takenBy? k = none) : (shared.noting entry).clientsUsed k = shared.clientsUsed k := by
  rw [Shared.clientsUsed, Shared.noting, List.filterMap_cons_none h]
  rfl

end Pool

namespace Worker

variable {s : Pool.Settings} {target : Target} {k : Nat}

/-- Whether a worker in this phase has taken a payload that it is not done with. -/
def Phase.isBusy : Phase → Bool
  | .woken (.payload _) | .holding _ | .replaying _ | .handingOver _ | .served => true
  | _ => false

/-- **The only step that uses a client for a payload** is the one that takes it. -/
theorem Moves.clientsUsed {e : Event} {shared shared' : Shared} {w w' : Worker}
    (h : Moves s target k e shared w shared' w') (i : Nat) :
    shared'.clientsUsed i =
      shared.clientsUsed i ++ if e = .take ∧ k = i then [w.rotations] else [] := by
  cases h with
  | @take _ _ line payload queue =>
    by_cases hi : k = i
    · rw [if_pos ⟨rfl, hi⟩, Shared.clientsUsed, Shared.noting,
        List.filterMap_cons_some (by rw [Entry.takenBy?, if_pos hi]), List.reverse_cons]
      rfl
    · rw [if_neg fun h => hi h.2, List.append_nil]
      exact Pool.clientsUsed_noting (by rw [Entry.takenBy?, if_neg hi])
  | @reply _ _ payload client reply started stopped roundTrip =>
    rw [if_neg (fun h => by cases h.1), List.append_nil]
    unfold Shared.clientsUsed replyEntries
    cases s.analytics <;> rfl
  | deliver =>
    rw [if_neg (fun h => by cases h.1), List.append_nil]
    exact Pool.clientsUsed_noting rfl
  | _ =>
    rw [if_neg (fun h => by cases h.1)]
    exact (Pool.clientsUsed_congr rfl).trans (List.append_nil _).symm

/-- How many payloads a worker has taken, when all its clients before this one were used to the
limit. -/
def taken (s : Pool.Settings) (w : Worker) : Nat :=
  w.rotations * s.recycle + w.handled + w.phase.isBusy.toNat

/-- What a worker has used its clients for, in a pool that has a limit for that. -/
structure Rotates (s : Pool.Settings) (target : Target) (used : List Nat) (w : Worker) : Prop where
  /-- Each client was used up to the limit before the next one was used. -/
  used : used = (List.range (w.taken s)).map (· / s.recycle)
  /-- The limit is kept. -/
  limit : w.handled + w.phase.isBusy.toNat ≤ s.recycle
  /-- A worker that has reached it is on its way out, or out, or is about to have another client. -/
  reached : w.handled = s.recycle → s.isDynamic = true ∧
    (w.phase.motive? = some .recycled ∨ w.phase.holdsSlot = false)
  /-- Nobody else wants to leave for that reason. -/
  recycled : w.phase.motive? = some .recycled → w.handled = s.recycle
  /-- A client that was not used yet is a new one. -/
  fresh : w.handled = 0 → w.phase.isBusy = false → w.client = Client.create target s.client

variable {used : List Nat} {w w' : Worker}

/-- A worker that is started has used no client yet. -/
theorem rotates_fresh (hlimit : 0 < s.recycle) : Rotates s target [] (Worker.fresh s target) := by
  refine ⟨?_, Nat.zero_le _, fun hreached => ?_, nofun, fun _ _ => rfl⟩
  · have hzero : (Worker.fresh s target).taken s = 0 := Nat.zero_mul _
    rw [hzero]
    rfl
  · exact absurd hreached (Nat.ne_of_lt hlimit)

/-- A worker with its slot and no mind to leave has not reached the limit. -/
theorem Rotates.handled_lt (h : Rotates s target used w) (hslot : w.phase.holdsSlot = true)
    (hmotive : w.phase.motive? ≠ some .recycled) : w.handled < s.recycle := by
  have hlimit := h.limit
  have hne : w.handled ≠ s.recycle := by
    intro hreached
    rcases (h.reached hreached).2 with hleaving | hout
    · exact hmotive hleaving
    · rw [hslot] at hout
      cases hout
  omega

/-- A step that uses no client and has nothing to do with the limit. -/
theorem Rotates.congr (h : Rotates s target used w) (hrotations : w'.rotations = w.rotations)
    (hhandled : w'.handled = w.handled) (hbusy : w'.phase.isBusy = w.phase.isBusy)
    (hclient : w'.client = w.client ∨ w.phase.isBusy = true)
    (hout : w.handled = s.recycle →
      w'.phase.motive? = some .recycled ∨ w'.phase.holdsSlot = false)
    (hmotive : w'.phase.motive? = some .recycled → w.handled = s.recycle) :
    Rotates s target used w' := by
  have htaken : w'.taken s = w.taken s := by
    rw [taken, taken, hrotations, hhandled, hbusy]
  refine ⟨htaken ▸ h.used, ?_, ?_, ?_, ?_⟩
  · rw [hhandled, hbusy]
    exact h.limit
  · rw [hhandled]
    exact fun hreached => ⟨(h.reached hreached).1, hout hreached⟩
  · rw [hhandled]
    exact hmotive
  · intro hnone hidle
    rw [hhandled] at hnone
    rw [hbusy] at hidle
    rcases hclient with hsame | hbusy'
    · exact hsame.trans (h.fresh hnone hidle)
    · rw [hidle] at hbusy'
      cases hbusy'

/-- A worker that stays has not reached the limit, before the step and after it. -/
theorem Rotates.of_lt (h : Rotates s target used w) (hslot : w.phase.holdsSlot = true)
    (hmotive : w.phase.motive? ≠ some .recycled) (hrotations : w'.rotations = w.rotations)
    (hhandled : w'.handled = w.handled) (hbusy : w'.phase.isBusy = w.phase.isBusy)
    (hclient : w'.client = w.client ∨ w.phase.isBusy = true)
    (hmotive' : w'.phase.motive? ≠ some .recycled) : Rotates s target used w' := by
  have hlt := h.handled_lt hslot hmotive
  refine h.congr hrotations hhandled hbusy hclient (fun hreached => ?_) (fun hleaving => ?_)
  · omega
  · exact absurd hleaving hmotive'

/-- A worker takes a payload for the client that it has. -/
theorem Rotates.take (h : Rotates s target used w) (hphase : w.phase = .waiting)
    (payload : Bytes) :
    Rotates s target (used ++ [w.rotations]) (w.goTo (.woken (.payload payload))) := by
  have hlt : w.handled < s.recycle :=
    h.handled_lt (by rw [hphase]; rfl) (by rw [hphase]; nofun)
  have hbefore : w.taken s = w.rotations * s.recycle + w.handled := by
    rw [taken, hphase]
    rfl
  have hafter : (w.goTo (.woken (.payload payload))).taken s = w.taken s + 1 := by
    rw [hbefore]
    rfl
  have hdiv : w.taken s / s.recycle = w.rotations := by
    rw [hbefore, Nat.mul_comm, Nat.mul_add_div (by omega), Nat.div_eq_of_lt hlt, Nat.add_zero]
  refine ⟨?_, hlt, fun hreached => ?_, nofun, nofun⟩
  · rw [hafter, List.range_succ, List.map_append, ← h.used, List.map_singleton, hdiv]
  · exact absurd hreached (Nat.ne_of_lt hlt)

/-- The next client, once the limit is reached. -/
theorem Rotates.rotate (h : used = (List.range (w.rotations * s.recycle + s.recycle)).map
    (· / s.recycle)) (hlimit : 0 < s.recycle) :
    Rotates s target used ((w.rotate s target).goTo .checking) := by
  have htaken : ((w.rotate s target).goTo .checking).taken s =
      w.rotations * s.recycle + s.recycle := by
    change (w.rotations + 1) * s.recycle + 0 + 0 = _
    rw [Nat.add_zero, Nat.add_zero, Nat.succ_mul]
  refine ⟨htaken ▸ h, Nat.zero_le _, fun hreached => ?_, nofun, fun _ _ => rfl⟩
  exact absurd hreached (Nat.ne_of_lt hlimit)

/-- A worker is done with a payload. -/
theorem Rotates.finish (h : Rotates s target used w) (hphase : w.phase = .served)
    (hlimit : 0 < s.recycle) : Rotates s target used (w.afterPayload s target) := by
  have hbound := h.limit
  have hused := h.used
  have hbusy : w.phase.isBusy.toNat = 1 := by rw [hphase]; rfl
  rw [hbusy] at hbound
  rw [taken, hbusy, Nat.add_assoc] at hused
  unfold afterPayload
  by_cases hreached : s.recycle ≤ w.handled + 1
  · have hfull : w.handled + 1 = s.recycle := by omega
    have hcondition : (decide (0 < s.recycle) && decide (s.recycle ≤ w.handled + 1)) = true := by
      simp [hlimit, hreached]
    rw [hfull] at hused
    simp only [hcondition, if_true]
    cases hdynamic : s.isDynamic with
    | true =>
      refine ⟨?_, ?_, fun _ => ⟨hdynamic, .inl rfl⟩, fun _ => hfull, nofun⟩
      · change used = (List.range (w.rotations * s.recycle + (w.handled + 1) + 0)).map _
        rw [hfull]
        exact hused
      · exact hbound
    | false => exact Rotates.rotate (w := { w with handled := w.handled + 1 }) hused hlimit
  · have hcondition : (decide (0 < s.recycle) && decide (s.recycle ≤ w.handled + 1)) = false := by
      simp [hreached]
    simp only [hcondition]
    refine ⟨hused, hbound, fun hfull => ?_, nofun, nofun⟩
    exact absurd (Nat.le_of_eq hfull.symm) hreached

/-- A worker whose wait is over has the client that it had, … -/
theorem afterWait_client (s : Pool.Settings) (w : Worker) (wake : Wake) :
    (w.afterWait s wake).client = w.client ∧ (w.afterWait s wake).rotations = w.rotations ∧
      (w.afterWait s wake).handled = w.handled := by
  cases wake with
  | payload | stopped => exact ⟨rfl, rfl, rfl⟩
  | timedOut =>
    simp only [afterWait]
    split
    · split <;> exact ⟨rfl, rfl, rfl⟩
    · exact ⟨rfl, rfl, rfl⟩

/-- … and a payload if it has taken one. -/
theorem isBusy_afterWait (s : Pool.Settings) (w : Worker) (wake : Wake) :
    (w.afterWait s wake).phase.isBusy = (Phase.woken wake).isBusy ∧
      (w.afterWait s wake).phase.motive? ≠ some .recycled := by
  obtain ⟨data, rfl, h⟩ | ⟨rfl, h⟩ | ⟨rfl, h | h⟩ := afterWait_phase s w wake <;>
    rw [h] <;> exact ⟨rfl, nofun⟩

/-- A worker looks at the counters before it leaves. -/
theorem Rotates.consider (h : Rotates s target used w) {why : Motive}
    (hmotive : w.phase.motive? = some why) (hslot : w.phase.holdsSlot = true)
    (hbusy : w.phase.isBusy = false) (hlimit : 0 < s.recycle) (word : UInt64) :
    Rotates s target used (w.consider s target why word) := by
  unfold Worker.consider
  by_cases hmay : Counters.mayRetire word = true
  · rw [if_pos hmay]
    refine h.congr rfl rfl hbusy.symm (.inl rfl) (fun hreached => ?_) (fun hleaving => ?_)
    · rcases (h.reached hreached).2 with hsame | hout
      · exact .inl (hmotive.symm.trans hsame)
      · rw [hslot] at hout
        cases hout
    · exact h.recycled (hmotive.trans hleaving)
  · rw [if_neg hmay]
    cases why with
    | recycled =>
      have hused := h.used
      rw [taken, h.recycled hmotive, hbusy] at hused
      exact Rotates.rotate hused hlimit
    | unused | surplus =>
      exact h.of_lt hslot (by rw [hmotive]; nofun) rfl rfl hbusy.symm (.inl rfl) nofun

/-- **Every step of a worker keeps the law of its clients.** -/
theorem Moves.rotates {e : Event} {shared shared' : Shared} (hlimit : 0 < s.recycle)
    (h : Moves s target k e shared w shared' w')
    (hw : Rotates s target (shared.clientsUsed k) w) :
    Rotates s target (shared'.clientsUsed k) w' := by
  have hused := h.clientsUsed k
  cases h with
  | @take _ _ line payload queue hphase =>
    rw [hused, if_pos ⟨rfl, rfl⟩]
    exact hw.take hphase payload
  | finish hphase => exact hw.finish hphase hlimit
  | consider hphase | reload hphase =>
    exact hw.consider (by rw [hphase]; rfl) (by rw [hphase]; rfl) (by rw [hphase]; rfl) hlimit _
  | @leave _ _ why hphase =>
    have hhandled : (w.leave why).handled = w.handled ∧ (w.leave why).rotations = w.rotations ∧
        (w.leave why).client = w.client := by cases why <;> exact ⟨rfl, rfl, rfl⟩
    have hgone : (w.leave why).phase.holdsSlot = false ∧ (w.leave why).phase.isBusy = false ∧
        (w.leave why).phase.motive? = none := by cases why <;> exact ⟨rfl, rfl, rfl⟩
    refine hw.congr hhandled.2.1 hhandled.1 ?_ (.inl hhandled.2.2) (fun _ => .inr hgone.1) ?_
    · rw [hgone.2.1, hphase]
      rfl
    · rw [hgone.2.2]
      nofun
  | report hphase =>
    exact hw.congr rfl rfl (by rw [hphase]; rfl) (.inl rfl) (fun _ => .inr rfl) nofun
  | @reply _ _ payload client reply started stopped roundTrip hphase =>
    rw [hused, if_neg (fun h => by cases h.1), List.append_nil]
    have hphase' : (replyPhase s payload reply roundTrip).isBusy = true ∧
        (replyPhase s payload reply roundTrip).motive? = none := by
      obtain ⟨header, -, -, h⟩ | h := replyPhase_cases s payload reply roundTrip <;>
        rw [h] <;> exact ⟨rfl, rfl⟩
    refine hw.of_lt (by rw [hphase]; rfl) (by rw [hphase]; nofun) rfl rfl ?_ ?_ ?_
    · rw [hphase]
      exact hphase'.1
    · exact .inr (by rw [hphase]; rfl)
    · dsimp only
      rw [hphase'.2]
      nofun
  | @wake _ _ wake hphase =>
    obtain ⟨hclient, hrotations, hhandled⟩ := afterWait_client s w wake
    obtain ⟨hbusy, hmotive⟩ := isBusy_afterWait s w wake
    exact hw.of_lt (by rw [hphase]; rfl) (by rw [hphase]; nofun) hrotations hhandled
      (by rw [hphase]; exact hbusy) (.inl hclient) hmotive
  | check hphase =>
    have hcheck (surplus : Bool) :
        Rotates s target (shared.clientsUsed k)
          (w.goTo (if surplus then .retiring .surplus else .resting)) := by
      cases surplus <;>
        exact hw.of_lt (by rw [hphase]; rfl) (by rw [hphase]; nofun) rfl rfl
          (by rw [hphase]; rfl) (.inl rfl) nofun
    exact hcheck _
  | lineUp => exact hw
  | deliver hphase =>
    rw [hused, if_neg (fun h => by cases h.1), List.append_nil]
    exact hw.of_lt (by rw [hphase]; rfl) (by rw [hphase]; nofun) rfl rfl
      (by rw [hphase]; rfl) (.inl rfl) nofun
  | rest hphase | expire hphase | stop hphase | serve hphase | skip hphase | giveUp hphase
  | retire hphase =>
    exact hw.of_lt (by rw [hphase]; rfl) (by rw [hphase]; nofun) rfl rfl
      (by rw [hphase]; rfl) (.inl rfl) nofun

end Worker

namespace Pool

variable {s : Settings} {target : Target} {p : Pool}

/-- Nothing but a worker uses clients. -/
theorem Moves.clientsUsed {e : Event} {q : Pool} (h : Moves s target e p q)
    (hworker : ∀ k f, e ≠ .worker k f) (k : Nat) :
    q.shared.clientsUsed k = p.shared.clientsUsed k := by
  cases h with
  | worker => exact absurd rfl (hworker _ _)
  | accept | ask | resize | read => exact clientsUsed_noting rfl
  | measure =>
    dsimp only
    split
    · exact clientsUsed_noting rfl
    · rfl
  | start | hire =>
    dsimp only
    rw [shared_spawn]
    exact clientsUsed_congr rfl
  | _ => rfl

/-- **The law of clients holds of every worker**, and a worker that there has not been has used
none. -/
theorem Reachable.rotates (h : Reachable s target p) (hlimit : 0 < s.recycle) :
    (∀ k w, p.workers[k]? = some w →
      Worker.Rotates s target (p.shared.clientsUsed k) w) ∧
    ∀ k, p.workers.length ≤ k → p.shared.clientsUsed k = [] := by
  refine Reachable.induction (P := fun p => (∀ k w, p.workers[k]? = some w →
      Worker.Rotates s target (p.shared.clientsUsed k) w) ∧
    ∀ k, p.workers.length ≤ k → p.shared.clientsUsed k = []) ?_ ?_ h
  · exact ⟨nofun, fun _ _ => rfl⟩
  rintro e p q - ⟨ih, hnone⟩ hmove
  have hothers := hmove.clientsUsed
  cases hmove.staffing with
  | @worker _ k₀ f w₀ w₁ shared' hw₀ hw₁ =>
    have hused := hw₁.clientsUsed
    have hk₀ := (List.getElem?_eq_some_iff.1 hw₀).1
    refine ⟨fun k w hw => ?_, fun k hk => ?_⟩
    · by_cases hk : k₀ = k
      · subst hk
        rw [List.getElem?_set_self hk₀] at hw
        obtain rfl := Option.some.inj hw
        exact hw₁.rotates hlimit (ih k₀ w₀ hw₀)
      · rw [List.getElem?_set_ne hk] at hw
        rw [hused, if_neg fun h => hk h.2, List.append_nil]
        exact ih k w hw
    · rw [List.length_set] at hk
      rw [hused, if_neg fun h => by omega, List.append_nil]
      exact hnone k hk
  | spawn hworkers hshared =>
    have hkept (k : Nat) := hothers (by simp) k
    refine ⟨fun k w hw => ?_, fun k hk => ?_⟩
    · rw [hkept]
      rw [hworkers] at hw
      by_cases hk : k < p.workers.length
      · rw [List.getElem?_append_left hk] at hw
        exact ih k w hw
      · rw [hnone k (Nat.not_lt.1 hk)]
        rw [List.getElem?_append_right (Nat.not_lt.1 hk)] at hw
        obtain rfl := List.mem_singleton.1 (List.mem_of_getElem? hw)
        exact Worker.rotates_fresh hlimit
    · rw [hworkers, List.length_append] at hk
      rw [hkept]
      exact hnone k (by omega)
  | other hevent hworkers _ _ =>
    have hkept := hothers hevent
    rw [hworkers]
    simp only [hkept]
    exact ⟨ih, hnone⟩

/-- Not more than `r` numbers have the same quotient by `r`. -/
theorem count_map_div_le {r : Nat} (hr : 0 < r) (n c : Nat) :
    ((List.range n).map (· / r)).count c ≤ r := by
  rw [List.count, List.countP_map, List.countP_eq_length_filter]
  have hsubset : (List.range n).filter ((· == c) ∘ (· / r)) ⊆ List.range' (c * r) r := by
    intro m hm
    have hquotient : m / r = c := by simpa using (List.mem_filter.1 hm).2
    have hbelow := Nat.div_mul_le_self m r
    have habove := Nat.lt_mul_of_div_lt (Nat.lt_succ_self (m / r)) hr
    rw [Nat.succ_mul] at habove
    rw [List.mem_range'_1, ← hquotient]
    omega
  have hnodup : ((List.range n).filter ((· == c) ∘ (· / r))).Nodup := List.nodup_range.filter _
  calc ((List.range n).filter ((· == c) ∘ (· / r))).length
      ≤ (List.range' (c * r) r).length := (List.Nodup.subperm hnodup hsubset).length_le
    _ = r := List.length_range'

/-! ## What stays as it was set -/

/-- What a worker has used its clients for. -/
structure Moderate (s : Settings) (target : Target) (used : List Nat) (w : Worker) : Prop where
  /-- No client was used for more payloads than the limit says. -/
  limit : ∀ client, used.count client ≤ s.recycle
  /-- A client that was not used yet is a new one. -/
  fresh : w.handled = 0 → w.phase.isBusy = false → w.client = Client.create target s.client
  /-- In a pool of fixed size the payload numbered `m` is taken for the client numbered `m / r`, … -/
  inTurn : 1 ≤ s.workers → used = (List.range used.length).map (· / s.recycle)
  /-- … and a worker has had as many clients as the payloads that it is done with have used up. -/
  atOnce : 1 ≤ s.workers →
    w.rotations = (used.length - w.phase.isBusy.toNat) / s.recycle

theorem Reachable.moderate (h : Reachable s target p) (hlimit : 0 < s.recycle) {k : Nat}
    {w : Worker} (hw : p.workers[k]? = some w) :
    Moderate s target (p.shared.clientsUsed k) w := by
  have hrotates := (h.rotates hlimit).1 k w hw
  have hlength : (p.shared.clientsUsed k).length = w.taken s := by
    rw [hrotates.used, List.length_map, List.length_range]
  refine ⟨fun client => ?_, hrotates.fresh, fun _ => ?_, fun hfixed => ?_⟩
  · rw [hrotates.used]
    exact count_map_div_le hlimit _ client
  · rw [hlength]
    exact hrotates.used
  · -- In a pool of fixed size nobody is there with a client that it must not use any more.
    have hhandled : w.handled < s.recycle := by
      have hbound := hrotates.limit
      have hne : w.handled ≠ s.recycle := by
        intro hreached
        have hdynamic := (hrotates.reached hreached).1
        rw [isDynamic_eq_false_iff.2 hfixed] at hdynamic
        cases hdynamic
      omega
    rw [hlength, Worker.taken, Nat.add_sub_cancel, Nat.mul_comm, Nat.mul_add_div hlimit,
      Nat.div_eq_of_lt hhandled, Nat.add_zero]

/-- **A pool of a given number of workers has that many**, from when it is open until it is told to
stop or whoever writes and reads is gone, whatever its writers, its workers and time do: so many
were ever started, so many hold a slot, and the counters show so many if their upper half can. **And
no client is used for more payloads than the limit says**, in any pool at any time; in a pool of
fixed size a worker has its next client as soon as it is done with the last of so many. -/
theorem steady (h : Reachable s target p) :
    (1 ≤ s.workers → p.isOpen = true → p.shared.stopped = false → p.shared.held = true →
        p.shared.counters.spawned = s.workers ∧ p.live = s.workers ∧
          (s.workers < 2 ^ 32 → p.shared.counters.active = s.workers)) ∧
      (0 < s.recycle → ∀ k w, p.workers[k]? = some w →
        Moderate s target (p.shared.clientsUsed k) w) := by
  refine ⟨fun hfixed hopen hstopped hheld => ?_, fun hlimit _ _ hw => h.moderate hlimit hw⟩
  have hlive := h.live_of_fixed (isDynamic_eq_false_iff.2 hfixed) hopen hstopped hheld
  refine ⟨h.spawned_of_fixed hfixed hopen, hlive, fun hfew => ?_⟩
  rw [h.tells.active_eq p.idling_le_live (hlive ▸ hfew), hlive]

/-- One worker more than the upper half of the word can count. -/
def crowded : Settings where
  workers := 2 ^ 32

theorem steady_crowded :
    ∃ p, Reachable crowded (.onHost .http "site" none) p ∧ p.isOpen = true ∧
      p.shared.stopped = false ∧ p.shared.held = true ∧
      p.shared.counters.spawned = crowded.workers ∧ p.live = crowded.workers ∧
      p.shared.counters.active = 0 := by
  have hreachable := reachable_opened crowded (.onHost .http "site" none)
  have hopen := isOpen_opened crowded (.onHost .http "site" none)
  obtain ⟨counters, hshared⟩ := shared_opened crowded (.onHost .http "site" none)
  have hidling := idling_opened crowded (.onHost .http "site" none)
  -- The pool is too large to be looked at.
  generalize opened crowded (.onHost .http "site" none) = p at *
  have hstopped : p.shared.stopped = false := by rw [hshared]; rfl
  have hheld : p.shared.held = true := by rw [hshared]; rfl
  have hfixed : 1 ≤ crowded.workers := by decide
  have hlive : p.live = crowded.workers :=
    hreachable.live_of_fixed (isDynamic_eq_false_iff.2 hfixed) hopen hstopped hheld
  have hspawned := hreachable.spawned_of_fixed hfixed hopen
  refine ⟨p, hreachable, hopen, hstopped, hheld, hspawned, hlive, ?_⟩
  rw [hreachable.active_eq, hlive, hidling]
  decide

/-! ## Two payloads a client

A pool of two workers that are done with a client after two payloads. One of them takes all three
payloads that are written, none of which can be replayed.
-/

def paired : Settings where
  workers := 2
  recycle := 2

/-- One turn of a worker that takes a payload and passes it over. -/
def passOver : List Event :=
  [.worker 1 .proceed, .worker 1 .lineUp, .worker 1 .take] ++
    List.replicate 4 (.worker 1 .proceed)

def pairedEvents : List Event :=
  List.replicate 3 .coordinator ++ List.replicate 3 (.write [0x31, 0x20]) ++ [.writer 0] ++
    passOver ++ passOver ++ passOver

theorem steady_paired :
    ∃ p w, Reachable paired (.onHost .http "site" none) p ∧ p.isOpen = true ∧
      p.shared.stopped = false ∧ p.shared.held = true ∧ p.workers[1]? = some w ∧
      p.shared.counters.spawned = 2 ∧ p.shared.counters.active = 2 ∧
      Moderate paired (.onHost .http "site" none) [0, 0, 1] w := by
  have hrun : ((initial paired).run paired (.onHost .http "site" none) pairedEvents).any
      (fun p => p.isOpen && !p.shared.stopped && p.shared.held && p.workers[1]?.isSome &&
        p.shared.clientsUsed 1 == [0, 0, 1]) = true := by decide +kernel
  obtain ⟨p, hp, hstate⟩ := (Option.any_eq_true _ _).1 hrun
  simp only [Bool.and_eq_true, Bool.not_eq_true', beq_iff_eq] at hstate
  obtain ⟨⟨⟨⟨hopen, hstopped⟩, hheld⟩, hsome⟩, hused⟩ := hstate
  obtain ⟨w, hw⟩ := Option.isSome_iff_exists.1 hsome
  obtain ⟨hsize, hclients⟩ := steady ⟨pairedEvents, hp⟩
  obtain ⟨hspawned, -, hactive⟩ := hsize (by decide) hopen hstopped hheld
  refine ⟨p, w, ⟨pairedEvents, hp⟩, hopen, hstopped, hheld, hw, hspawned, hactive (by decide), ?_⟩
  rw [← hused]
  exact hclients (by decide) 1 w hw

end Pool
end HttpReplay
