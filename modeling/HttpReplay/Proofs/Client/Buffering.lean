import HttpReplay.Proofs.Client.Isolation

/-!
The read loop, told by the outcomes of its reads.

What the loop does is fixed by what its reads bring in, so it can be told without the loop: put the
bytes of the first reads together, and stop at the first count of reads after which they fill the
buffer, or have a verdict, or the next read brings nothing (`StopsAt`). The buffer plays no part in
this. At every turn it is what it was at the beginning, written over with the bytes so far, and
`settle` says what the loop comes to from there with no bytes cut off and no position computed
(`loop_eq`). A loop that is entered at some turn is then followed backwards from the turn at which
reading stops (`settle_runs_iff`).

The second half is about positions. A loop that works with two buffers reads into the one and
copies from there into the other, and each of its slices could be out of range. `sliced` is this
loop with every slice checked, and with two buffers of one size no check ever fails (`sliced_eq`):
what is copied is never more than there is room for, and a verdict is only asked for while there is
room left, so a read that brought a whole buffer has filled the other one before it could be taken
for a sign that more is coming.
-/

set_option autoImplicit false

namespace HttpReplay

open HttpReplay.Task (Event runs_done_iff)

/-- The bytes that a read brings in, if it brings in any. -/
def ReadOutcome.data? : ReadOutcome → Option Bytes
  | received first more => some (first :: more)
  | ended | failed _ | timedOut => none

namespace Reading

variable {capacity k j n : Nat} {headRequest : Bool} {deadline : Instant}
  {outcomes : Nat → ReadOutcome} {clock : Nat → Instant}
  {buffer bytes before data : Bytes} {reason : ReadEnd}

/-! ## Where reading stops -/

/-- The bytes of the first reads put together, as long as each of them brings some in. -/
def gathered? (outcomes : Nat → ReadOutcome) : Nat → Option Bytes
  | 0 => some []
  | k + 1 => (gathered? outcomes k).bind fun bytes => (outcomes k).data?.map (bytes ++ ·)

/-- Why nothing is read after these bytes, if that is so. -/
def enough? (capacity : Nat) (headRequest : Bool) (bytes : Bytes) : Option ReadEnd :=
  if capacity ≤ bytes.length then some .bufferFull
  else match Http.framing headRequest bytes with
    | .complete => some .framed
    | .unframed => some .drained
    | .incomplete => none

/-- Why reading stops with these bytes and this outcome of the next read, if it stops. -/
def stop? (capacity : Nat) (headRequest : Bool) (bytes : Bytes) (next : ReadOutcome) :
    Option ReadEnd :=
  (enough? capacity headRequest bytes).or next.end?

/-- Reading stops after the first `k` reads that bring bytes in, and not before. -/
structure StopsAt (capacity : Nat) (headRequest : Bool) (outcomes : Nat → ReadOutcome) (k : Nat)
    (bytes : Bytes) (reason : ReadEnd) : Prop where
  gathered : gathered? outcomes k = some bytes
  stops : stop? capacity headRequest bytes (outcomes k) = some reason
  least : ∀ j < k, ∃ earlier, gathered? outcomes j = some earlier ∧
    stop? capacity headRequest earlier (outcomes j) = none

theorem gathered?_succ {first : UInt8} {more : Bytes} (h : gathered? outcomes k = some bytes)
    (hk : outcomes k = .received first more) :
    gathered? outcomes (k + 1) = some (bytes ++ first :: more) := by
  rw [gathered?, h, hk]
  rfl

theorem le_length_of_gathered? (h : gathered? outcomes k = some bytes) : k ≤ bytes.length := by
  induction k generalizing bytes with
  | zero => exact Nat.zero_le _
  | succ k ih =>
    rw [gathered?, Option.bind_eq_some_iff] at h
    obtain ⟨earlier, hearlier, hbytes⟩ := h
    obtain ⟨data, hdata, rfl⟩ := Option.map_eq_some_iff.1 hbytes
    have hk := ih hearlier
    cases houtcome : outcomes k with
    | received first more =>
      rw [houtcome] at hdata
      obtain rfl := Option.some.inj hdata
      rw [List.length_append, List.length_cons]
      omega
    | ended | failed | timedOut =>
      rw [houtcome] at hdata
      cases hdata

/-- Reading goes on only where there is room and no verdict, and only with a read that brings bytes
in. -/
theorem stop?_eq_none_iff {next : ReadOutcome} :
    stop? capacity headRequest bytes next = none ↔
      enough? capacity headRequest bytes = none ∧
        ∃ first more, next = .received first more := by
  rw [stop?, Option.or_eq_none_iff]
  cases next with
  | received first more => simp [ReadOutcome.end?]
  | ended | failed | timedOut => simp [ReadOutcome.end?]

theorem enough?_eq_none_iff :
    enough? capacity headRequest bytes = none ↔
      bytes.length < capacity ∧ Http.framing headRequest bytes = .incomplete := by
  rw [enough?]
  by_cases hfull : capacity ≤ bytes.length
  · rw [if_pos hfull]
    constructor
    · intro h
      cases h
    · rintro ⟨hroom, -⟩
      omega
  · rw [if_neg hfull]
    cases Http.framing headRequest bytes <;> simp [Nat.lt_of_not_le hfull]

theorem enough?_of_full (h : capacity ≤ bytes.length) :
    enough? capacity headRequest bytes = some .bufferFull := if_pos h

/-- How many reads were made that brought nothing in. -/
def emptyReads : ReadEnd → Nat
  | .bufferFull | .framed | .drained => 0
  | .peerClosed | .timedOut | .failed _ => 1

theorem emptyReads_of_enough (h : enough? capacity headRequest bytes = some reason) :
    emptyReads reason = 0 := by
  rw [enough?] at h
  split at h
  · obtain rfl := Option.some.inj h
    rfl
  · split at h
    · obtain rfl := Option.some.inj h
      rfl
    · obtain rfl := Option.some.inj h
      rfl
    · cases h

/-- Reading that stops for any other reason than a full buffer stops with room left. -/
theorem StopsAt.length_lt (h : StopsAt capacity headRequest outcomes k bytes reason)
    (hreason : reason ≠ .bufferFull) : bytes.length < capacity := by
  by_contra hfull
  have hstop := h.stops
  rw [stop?, enough?_of_full (Nat.le_of_not_lt hfull)] at hstop
  exact hreason (Option.some.inj hstop).symm

/-- Reading that stops for want of bytes stops with bytes that are incomplete. -/
theorem StopsAt.incomplete (h : StopsAt capacity headRequest outcomes k bytes .timedOut) :
    Http.framing headRequest bytes = .incomplete := by
  have hstop := h.stops
  rw [stop?] at hstop
  cases henough : enough? capacity headRequest bytes with
  | none => exact (enough?_eq_none_iff.1 henough).2
  | some why =>
    rw [henough] at hstop
    obtain rfl : why = .timedOut := Option.some.inj hstop
    cases emptyReads_of_enough henough

/-- **Reading stops**, after as many reads as there is room for bytes at most. -/
theorem exists_stopsAt (capacity : Nat) (headRequest : Bool) (outcomes : Nat → ReadOutcome) :
    ∃ k bytes reason, k ≤ capacity ∧ StopsAt capacity headRequest outcomes k bytes reason := by
  -- Up to any count of reads it has stopped, or all of them have brought bytes in.
  have hprogress : ∀ m, (∃ k bytes reason, k < m ∧
        StopsAt capacity headRequest outcomes k bytes reason) ∨
      ∃ bytes, gathered? outcomes m = some bytes ∧ ∀ j < m, ∃ earlier,
        gathered? outcomes j = some earlier ∧
          stop? capacity headRequest earlier (outcomes j) = none := by
    intro m
    induction m with
    | zero => exact .inr ⟨[], rfl, fun j hj => absurd hj (Nat.not_lt_zero j)⟩
    | succ m ih =>
      rcases ih with ⟨k, bytes, reason, hk, hstops⟩ | ⟨bytes, hbytes, hleast⟩
      · exact .inl ⟨k, bytes, reason, Nat.lt_succ_of_lt hk, hstops⟩
      · cases hstop : stop? capacity headRequest bytes (outcomes m) with
        | some reason => exact .inl ⟨m, bytes, reason, Nat.lt_succ_self m, hbytes, hstop, hleast⟩
        | none =>
          obtain ⟨-, first, more, hm⟩ := stop?_eq_none_iff.1 hstop
          refine .inr ⟨_, gathered?_succ hbytes hm, fun j hj => ?_⟩
          by_cases hlast : j = m
          · exact hlast ▸ ⟨bytes, hbytes, hstop⟩
          · exact hleast j (by omega)
  rcases hprogress capacity with ⟨k, bytes, reason, hk, hstops⟩ | ⟨bytes, hbytes, hleast⟩
  · exact ⟨k, bytes, reason, Nat.le_of_lt hk, hstops⟩
  · have hfull : enough? capacity headRequest bytes = some .bufferFull :=
      enough?_of_full (le_length_of_gathered? hbytes)
    refine ⟨capacity, bytes, .bufferFull, Nat.le_refl _, hbytes, ?_, hleast⟩
    rw [stop?, hfull]
    rfl

/-! ## The loop without positions -/

/-- What the loop returns that has read these bytes into a buffer. -/
def resultOf (capacity : Nat) (buffer bytes : Bytes) (reason : ReadEnd) : Result :=
  ⟨overwrite buffer 0 (bytes.take capacity), min bytes.length capacity, reason⟩

/-- What the loop comes to that has read these bytes. -/
def settle (capacity : Nat) (deadline : Instant) (headRequest : Bool) (buffer bytes : Bytes) :
    Task Result :=
  match enough? capacity headRequest bytes with
  | some reason => .done (resultOf capacity buffer bytes reason)
  | none => loop capacity deadline headRequest (overwrite buffer 0 bytes) bytes.length

theorem settle_of_enough (h : enough? capacity headRequest bytes = some reason) :
    settle capacity deadline headRequest buffer bytes =
      .done (resultOf capacity buffer bytes reason) := by
  rw [settle, h]

theorem settle_of_none (h : enough? capacity headRequest bytes = none) :
    settle capacity deadline headRequest buffer bytes =
      loop capacity deadline headRequest (overwrite buffer 0 bytes) bytes.length := by
  rw [settle, h]

theorem overwrite_zero (buffer data : Bytes) :
    overwrite buffer 0 data = data ++ buffer.drop data.length := by
  rw [overwrite, List.take_zero, List.nil_append, Nat.zero_add]

/-- Bytes written one after the other are bytes written at once. -/
theorem overwrite_overwrite (buffer before data : Bytes) :
    overwrite (overwrite buffer 0 before) before.length data =
      overwrite buffer 0 (before ++ data) := by
  rw [overwrite_zero, overwrite_zero, overwrite, List.take_left, List.drop_append,
    List.drop_eq_nil_of_le (Nat.le_add_right _ _), List.nil_append, List.drop_drop,
    List.length_append, Nat.add_sub_cancel_left]

theorem take_overwrite_zero (buffer data : Bytes) :
    (overwrite buffer 0 data).take data.length = data := by
  rw [overwrite_zero, List.take_left]

theorem resultOf_response : (resultOf capacity buffer bytes reason).response =
    bytes.take capacity := by
  have hlength : min bytes.length capacity = (bytes.take capacity).length := by
    rw [List.length_take, Nat.min_comm]
  rw [Result.response, resultOf, hlength, take_overwrite_zero]

theorem resultOf_of_fits (h : bytes.length ≤ capacity) :
    resultOf capacity buffer bytes reason = ⟨overwrite buffer 0 bytes, bytes.length, reason⟩ := by
  rw [resultOf, List.take_of_length_le h, Nat.min_eq_left h]

theorem resultOf_of_full (h : capacity ≤ bytes.length) : resultOf capacity buffer bytes reason =
    ⟨overwrite buffer 0 (bytes.take capacity), capacity, reason⟩ := by
  rw [resultOf, Nat.min_eq_right h]

/-- **One turn of the loop**: it reads, and goes on from the bytes it has then. -/
theorem loop_eq (hfits : before.length < capacity) :
    loop capacity deadline headRequest (overwrite buffer 0 before) before.length =
      .now fun now => .read capacity (readLimit deadline now before.length) fun
        | .received first more =>
          settle capacity deadline headRequest buffer (before ++ first :: more)
        | .ended => .done (resultOf capacity buffer before .peerClosed)
        | .failed why => .done (resultOf capacity buffer before (.failed why))
        | .timedOut => .done (resultOf capacity buffer before .timedOut) := by
  have hbefore (reason : ReadEnd) : resultOf capacity buffer before reason = _ :=
    resultOf_of_fits (Nat.le_of_lt hfits)
  rw [loop]
  congr 1
  funext now
  congr 1
  funext outcome
  cases outcome with
  | ended | failed | timedOut => exact congrArg Task.done (hbefore _).symm
  | received first more =>
    have hlength : (before ++ first :: more).length = before.length + (first :: more).length :=
      List.length_append
    have hsize : ((first :: more).take (capacity - before.length)).length =
        min (capacity - before.length) (first :: more).length := List.length_take
    dsimp only
    by_cases hfull : capacity ≤ (before ++ first :: more).length
    · -- What is written is what fits of all the bytes.
      have hcut : before ++ (first :: more).take (capacity - before.length) =
          (before ++ first :: more).take capacity := by
        rw [List.take_append, List.take_of_length_le (Nat.le_of_lt hfits)]
      have hcount : before.length + ((first :: more).take (capacity - before.length)).length =
          capacity := by omega
      rw [dif_pos (Nat.le_of_eq hcount.symm), hcount, overwrite_overwrite, hcut,
        settle_of_enough (enough?_of_full hfull), resultOf_of_full hfull]
    · have hall : (first :: more).take (capacity - before.length) = first :: more :=
        List.take_of_length_le (by omega)
      have hshort : (first :: more).length < capacity := by omega
      have hafter (reason : ReadEnd) :
          resultOf capacity buffer (before ++ first :: more) reason = _ :=
        resultOf_of_fits (Nat.le_of_not_le hfull)
      rw [dif_neg (by omega), hall, ← hlength, overwrite_overwrite, take_overwrite_zero, settle,
        enough?, if_neg hfull]
      cases Http.framing headRequest (before ++ first :: more) with
      | complete => exact congrArg Task.done (hafter .framed).symm
      | unframed =>
        rw [if_pos hshort]
        exact congrArg Task.done (hafter .drained).symm
      | incomplete => rfl

/-! ## Following the loop -/

/-- Some turns of the loop, the first of them with the `j`th outcome. -/
def turns (capacity : Nat) (clock : Nat → Instant) (outcomes : Nat → ReadOutcome) :
    Nat → Nat → List Event
  | _, 0 => []
  | j, m + 1 =>
    .now (clock j) :: .read capacity (outcomes j) :: turns capacity clock outcomes (j + 1) m

theorem turns_eq_nil_iff {m : Nat} : turns capacity clock outcomes j m = [] ↔ m = 0 := by
  cases m with
  | zero => exact ⟨fun _ => rfl, fun _ => rfl⟩
  | succ m => simp [turns]

/-- A task that looks at the clock and reads goes through one turn. -/
theorem runs_turn_iff {limit : Instant → Instant} {next : Instant → ReadOutcome → Task Result}
    {m : Nat} {r : Result} :
    (Task.now fun now => .read capacity (limit now) (next now)).Runs
        (turns capacity clock outcomes j m) r ↔
      ∃ fewer, m = fewer + 1 ∧ (next (clock j) (outcomes j)).Runs
        (turns capacity clock outcomes (j + 1) fewer) r := by
  cases m with
  | zero =>
    constructor
    · intro h
      cases h
    · rintro ⟨fewer, hfewer, -⟩
      omega
  | succ m =>
    constructor
    · intro h
      cases h with | now time h =>
      cases h with | read outcome h =>
      exact ⟨m, rfl, h⟩
    · rintro ⟨fewer, hfewer, h⟩
      obtain rfl : m = fewer := by omega
      exact .now _ (.read _ h)

/-- A loop that has read some of the bytes after which reading stops makes the reads that are left,
and returns all of these bytes. -/
theorem settle_runs_iff (hstops : StopsAt capacity headRequest outcomes k bytes reason) {d m : Nat}
    {r : Result} (hj : j + d = k) (hbefore : gathered? outcomes j = some before) :
    (settle capacity deadline headRequest buffer before).Runs
        (turns capacity clock outcomes j m) r ↔
      m = d + emptyReads reason ∧ r = resultOf capacity buffer bytes reason := by
  -- The induction is on the reads that are left until reading stops.
  induction d generalizing j before m with
  | zero =>
    obtain rfl : j = k := hj
    obtain rfl : bytes = before := Option.some.inj (hstops.gathered.symm.trans hbefore)
    have hstop := hstops.stops
    rw [stop?] at hstop
    cases henough : enough? capacity headRequest bytes with
    | some why =>
      obtain rfl : why = reason := by
        rw [henough] at hstop
        exact Option.some.inj hstop
      rw [settle_of_enough henough, runs_done_iff, turns_eq_nil_iff, emptyReads_of_enough henough]
    | none =>
      rw [henough, Option.none_or] at hstop
      rw [settle_of_none henough, loop_eq (enough?_eq_none_iff.1 henough).1, runs_turn_iff]
      -- The next read brings nothing in, so it is the last one.
      cases houtcome : outcomes j with
      | received first more =>
        rw [houtcome] at hstop
        cases hstop
      | ended | failed | timedOut =>
        rw [houtcome] at hstop
        obtain rfl := Option.some.inj hstop
        dsimp only
        constructor
        · rintro ⟨fewer, rfl, h⟩
          obtain ⟨hnil, hr⟩ := runs_done_iff.1 h
          exact ⟨congrArg (· + 1) (turns_eq_nil_iff.1 hnil), hr⟩
        · rintro ⟨rfl, rfl⟩
          exact ⟨0, rfl, .done _⟩
  | succ d ih =>
    obtain ⟨earlier, hearlier, hgoes⟩ := hstops.least j (by omega)
    obtain rfl : earlier = before := Option.some.inj (hearlier.symm.trans hbefore)
    obtain ⟨henough, first, more, houtcome⟩ := stop?_eq_none_iff.1 hgoes
    rw [settle_of_none henough, loop_eq (enough?_eq_none_iff.1 henough).1, runs_turn_iff, houtcome]
    dsimp only
    have hnext (fewer : Nat) := ih (m := fewer) (by omega) (gathered?_succ hbefore houtcome)
    simp only [hnext]
    constructor
    · rintro ⟨fewer, rfl, rfl, hr⟩
      exact ⟨by omega, hr⟩
    · rintro ⟨hm, hr⟩
      exact ⟨d + emptyReads reason, by omega, rfl, hr⟩

/-! ## Positions -/

/-- Copies the first bytes of one buffer over another from position `n` on, if there are so many in
both. -/
def copy? (source : Bytes) (count : Nat) (target : Bytes) (n : Nat) : Option Bytes :=
  if count ≤ source.length ∧ n + count ≤ target.length then
    some (overwrite target n (source.take count))
  else none

theorem length_overwrite (h : n + data.length ≤ buffer.length) :
    (overwrite buffer n data).length = buffer.length := by
  rw [overwrite, List.length_append, List.length_append, List.length_take, List.length_drop]
  omega

theorem copy?_eq_some {source target copied : Bytes} {count : Nat}
    (h : copy? source count target n = some copied) :
    copied.length = target.length ∧ n + count ≤ target.length := by
  rw [copy?] at h
  split at h
  next hroom =>
    obtain ⟨hsource, htarget⟩ := hroom
    obtain rfl := Option.some.inj h
    have hcount : (source.take count).length = count := List.length_take_of_le hsource
    exact ⟨length_overwrite (by omega), htarget⟩
  next => cases h

/-- A copy of some bytes that does not fill the target leaves less room in it. -/
theorem room_lt_of_copy? {source target copied : Bytes} {arrived : Nat} (hsome : arrived ≠ 0)
    (hcopy : copy? source (min arrived (target.length - n)) target n = some copied)
    (hroom : n + min arrived (target.length - n) ≠ copied.length) :
    copied.length - (n + min arrived (target.length - n)) < target.length - n := by
  have hcopied := copy?_eq_some hcopy
  omega

/-- Reads on with `n` bytes in the buffer, by way of a second buffer. There is no result where a
slice is out of range. -/
def sliced (deadline : Instant) (headRequest : Bool) (buffer reading : Bytes) (n : Nat) :
    Task (Option Result) :=
  .now fun now =>
  .read reading.length (readLimit deadline now n) fun
    | .timedOut => .done (some ⟨buffer, n, .timedOut⟩)
    | .failed why => .done (some ⟨buffer, n, .failed why⟩)
    | .ended => .done (some ⟨buffer, n, .peerClosed⟩)
    | .received first more =>
      let arrived := (first :: more).take reading.length
      -- A read into an empty buffer looks like the end of the stream.
      if hnone : arrived.length = 0 then .done (some ⟨buffer, n, .peerClosed⟩)
      else
        let reading' := overwrite reading 0 arrived
        let count := min arrived.length (buffer.length - n)
        match hcopy : copy? reading' count buffer n with
        | none => .done none
        | some buffer' =>
          if hfull : n + count = buffer'.length then .done (some ⟨buffer', n + count, .bufferFull⟩)
          else if n + count ≤ buffer'.length then
            have : buffer'.length - (n + count) < buffer.length - n :=
              room_lt_of_copy? hnone hcopy hfull
            match Http.framing headRequest (buffer'.take (n + count)) with
            | .complete => .done (some ⟨buffer', n + count, .framed⟩)
            | .unframed =>
              if arrived.length < reading'.length then .done (some ⟨buffer', n + count, .drained⟩)
              else sliced deadline headRequest buffer' reading' (n + count)
            | .incomplete => sliced deadline headRequest buffer' reading' (n + count)
          else .done none
termination_by buffer.length - n
decreasing_by all_goals assumption

/-- What is copied of the bytes that arrived in a second buffer of the same size is as much of them
as there is room for. -/
theorem copy?_arrived {reading data : Bytes} (hfits : n ≤ buffer.length) :
    copy? (overwrite reading 0 (data.take buffer.length)) (data.take (buffer.length - n)).length
      buffer n = some (overwrite buffer n (data.take (buffer.length - n))) := by
  have hmore : data.take (buffer.length - n) <+: data.take buffer.length :=
    List.take_prefix_take_left (Nat.sub_le _ _)
  have harrived := hmore.trans (List.prefix_append _ (reading.drop (data.take buffer.length).length))
  rw [← overwrite_zero] at harrived
  have hcopied : (data.take (buffer.length - n)).length ≤ buffer.length - n :=
    List.length_take_le _ _
  rw [copy?, if_pos ⟨harrived.length_le, by omega⟩, ← List.prefix_iff_eq_take.1 harrived]

/-- **No slice is ever out of range**, and the second buffer changes nothing. -/
theorem sliced_eq {reading : Bytes} (hbuffer : buffer.length = capacity)
    (hreading : reading.length = capacity) (hfits : n < capacity) :
    sliced deadline headRequest buffer reading n =
      (loop capacity deadline headRequest buffer n).bind fun r => .done (some r) := by
  -- As for the loop itself, the induction is on the room that is left in the buffer.
  induction hroom : capacity - n using Nat.strongRecOn generalizing buffer reading n with
  | ind room ih =>
    subst hbuffer
    rw [sliced, loop]
    simp only [Task.bind]
    rw [hreading]
    congr 1
    funext now
    congr 1
    funext outcome
    cases outcome with
    | ended | failed | timedOut => rfl
    | received first more =>
      have harrived : ((first :: more).take buffer.length).length =
          min buffer.length (first :: more).length := List.length_take
      have hdata : ((first :: more).take (buffer.length - n)).length =
          min (buffer.length - n) (first :: more).length := List.length_take
      have hsome : 0 < (first :: more).length := Nat.zero_lt_succ _
      have hcount : min ((first :: more).take buffer.length).length (buffer.length - n) =
          ((first :: more).take (buffer.length - n)).length := by omega
      have hcopy : copy? (overwrite reading 0 ((first :: more).take buffer.length))
          ((first :: more).take (buffer.length - n)).length buffer n = some _ :=
        copy?_arrived (Nat.le_of_lt hfits)
      have hlength : (overwrite buffer n ((first :: more).take (buffer.length - n))).length =
          buffer.length := length_overwrite (by omega)
      dsimp only
      rw [dif_neg (by omega)]
      split
      next hnone =>
        rw [hcount, hcopy] at hnone
        cases hnone
      next buffer' hbuffer' =>
        rw [hcount, hcopy] at hbuffer'
        obtain rfl := Option.some.inj hbuffer'
        simp only [hcount, hlength]
        by_cases hfull : n + ((first :: more).take (buffer.length - n)).length = buffer.length
        · rw [dif_pos hfull, dif_pos (Nat.le_of_eq hfull.symm)]
          rfl
        · rw [dif_neg hfull, dif_neg (by omega), if_pos (by omega)]
          have hreading' : (overwrite reading 0 ((first :: more).take buffer.length)).length =
              buffer.length := by
            rw [length_overwrite (by omega), hreading]
          have hagain := ih _ (by omega) hlength hreading' (by omega) rfl
            (n := n + ((first :: more).take (buffer.length - n)).length)
          cases Http.framing headRequest _ with
          | complete => rfl
          | unframed =>
            -- The buffer has room left, so the read was a short one for either loop.
            rw [if_pos (by omega), if_pos (by omega)]
            rfl
          | incomplete => exact hagain

end Reading

namespace Client

open HttpReplay.Reading (StopsAt emptyReads turns sliced readResponse)

variable {target : Target} {settings : Settings}

/-! ## Round trips -/

/-- **A connection on which a response was waited for in vain is dropped**, whether something of it
had come or nothing. -/
theorem not_connected_of_timedOut (hcapacity : 0 < settings.capacity) {h : Hop}
    (hmade : Made target settings h) {most : Nat} (hmem : .read most .timedOut ∈ h.exchange) :
    h.after.connected = false ∧ h.events.getLast? = some .close := by
  obtain ⟨before, request, events, after, result⟩ := h
  rcases opens_or_settles_of_roundTrip hcapacity hmade with
    ⟨why, hopens, -⟩ | ⟨opening, ready, time, outcome, rest, hopens, hevents, hsettles⟩
  · rw [(Hop.opening_eq_events hopens.not_isWrite).2] at hmem
    cases hmem
  · have hnone : ∀ e ∈ opening ++ [Event.now time], e.isWrite = false := by
      intro e he
      rcases List.mem_append.1 he with he | he
      · exact hopens.not_isWrite e he
      · rw [List.mem_singleton.1 he]
        rfl
    rw [List.append_cons] at hevents
    rw [(Hop.opening_eq_of_write hnone hevents).2, List.mem_cons] at hmem
    replace hmem := hmem.resolve_left (by simp)
    dsimp only at hevents hsettles ⊢
    rw [hevents]
    cases hsettles with
    | writeFailed | writeTimedOut => simp at hmem
    | kept hreads hwhole _ =>
      rw [hreads.reason_of_mem rfl hmem] at hwhole
      cases hwhole
    | dropped _ _ hlink =>
      rw [← List.cons_append, ← List.append_assoc, List.getLast?_concat]
      exact ⟨hlink, rfl⟩

end Client

namespace Reading

/-- **The read loop stops at the first place where it may**: with a full buffer, or else with a
verdict, or else for a read that brings nothing in. It returns the bytes that were read, as many as
fit, whatever the buffer held before, and loses some of them only where it says that the buffer is
full. No slice of its two buffers is out of range. After a read that was not in time the bytes are
incomplete, and a round trip drops its connection. -/
theorem readResponse_exact {capacity : Nat} (hcapacity : 0 < capacity) :
    (∀ deadline headRequest buffer clock outcomes, ∃ k bytes, ∃ r : Result,
      StopsAt capacity headRequest outcomes k bytes r.reason ∧ k ≤ capacity ∧
        (∀ m r', (readResponse capacity deadline headRequest buffer).Runs
          (turns capacity clock outcomes 0 m) r' ↔ m = k + emptyReads r.reason ∧ r' = r) ∧
        r.count = min bytes.length capacity ∧ r.response = bytes.take r.count ∧
        (r.response ≠ bytes → r.reason = .bufferFull) ∧
        (r.reason = .timedOut → Http.framing headRequest r.response = .incomplete)) ∧
    (∀ deadline headRequest buffer reading, buffer.length = capacity →
      reading.length = capacity → sliced deadline headRequest buffer reading 0 =
        (readResponse capacity deadline headRequest buffer).bind fun r => .done (some r)) ∧
    ∀ target settings, settings.capacity = capacity → ∀ h, Client.Made target settings h →
      ∀ most, .read most .timedOut ∈ h.exchange →
        h.after.connected = false ∧ h.events.getLast? = some .close := by
  refine ⟨fun deadline headRequest buffer clock outcomes => ?_,
    fun deadline headRequest buffer reading hbuffer hreading =>
      sliced_eq hbuffer hreading hcapacity,
    fun target settings hsettings h hmade most hmem =>
      Client.not_connected_of_timedOut (hsettings ▸ hcapacity) hmade hmem⟩
  obtain ⟨k, bytes, reason, hk, hstops⟩ := exists_stopsAt capacity headRequest outcomes
  have hnothing : enough? capacity headRequest [] = none :=
    enough?_eq_none_iff.2 ⟨hcapacity, Http.framing_nil headRequest⟩
  have hstart : settle capacity deadline headRequest buffer [] =
      readResponse capacity deadline headRequest buffer := by
    rw [settle_of_none hnothing, overwrite_zero]
    rfl
  have hresponse : (resultOf capacity buffer bytes reason).response = bytes.take capacity :=
    resultOf_response
  refine ⟨k, bytes, resultOf capacity buffer bytes reason, hstops, hk, fun m r' => ?_, rfl, ?_, ?_,
    ?_⟩
  · rw [← hstart]
    exact settle_runs_iff hstops (Nat.zero_add k) rfl
  · rw [hresponse, resultOf, ← Nat.min_comm capacity, ← List.take_take, List.take_length]
  · intro hlost
    by_contra hreason
    have hroom := hstops.length_lt hreason
    rw [hresponse, List.take_of_length_le (Nat.le_of_lt hroom)] at hlost
    exact hlost rfl
  · rintro (rfl : reason = .timedOut)
    have hroom := hstops.length_lt (by simp)
    rw [hresponse, List.take_of_length_le (Nat.le_of_lt hroom)]
    exact hstops.incomplete

/-- A target that sends the beginning of a response in two portions and no more. -/
def falters : Nat → ReadOutcome
  | 0 => .received 0x48 (Bytes.ofText "TTP")
  | 1 => .received 0x2F (Bytes.ofText "1.1")
  | _ => .timedOut

/-- A round trip to it. -/
def faltering : Hop :=
  { before := ⟨false, []⟩
    request := Client.rootRequest
    events := [.close, .now 0, .dial "site:80" .connected, .now 0,
      .write Client.rootRequest .written] ++ turns 100 (fun _ => 0) falters 0 3 ++ [.close]
    after := ⟨false, Bytes.ofText "HTTP/1.1"⟩
    result := .ok (Bytes.ofText "HTTP/1.1") }

theorem readResponse_exact_faltering :
    0 < 100 ∧
      StopsAt 100 false falters 2 (Bytes.ofText "HTTP/1.1") .timedOut ∧
      Http.framing false (Bytes.ofText "HTTP/1.1") = .incomplete ∧
      (List.replicate 100 (0 : UInt8)).length = 100 ∧
      sliced 7 false (List.replicate 100 0) (List.replicate 100 1) 0 =
        ((readResponse 100 7 false (List.replicate 100 0)).bind fun r => .done (some r)) ∧
      Client.Made Client.site Client.plain faltering ∧
      .read 100 .timedOut ∈ faltering.exchange ∧ faltering.after.connected = false := by
  obtain ⟨hlaw, hslices, hdrops⟩ := readResponse_exact (show 0 < 100 by decide)
  obtain ⟨k, bytes, r, hstops, -, hruns, -, hresponse, -, hincomplete⟩ :=
    hlaw 7 false [] (fun _ => 0) falters
  have hrun : (readResponse 100 7 false []).Runs (turns 100 (fun _ => 0) falters 0 3)
      ⟨Bytes.ofText "HTTP/1.1", 8, .timedOut⟩ := by decide +kernel
  obtain ⟨hk, rfl⟩ := (hruns _ _).1 hrun
  obtain rfl : k = 2 := by
    simp only [emptyReads] at hk
    omega
  have hbytes : some bytes = some (Bytes.ofText "HTTP/1.1") :=
    hstops.gathered.symm.trans (by decide +kernel)
  obtain rfl := Option.some.inj hbytes
  have hmade : Client.Made Client.site Client.plain faltering := by
    unfold Client.Made
    decide +kernel
  have hmem : .read 100 .timedOut ∈ faltering.exchange := by decide +kernel
  exact ⟨by decide, hstops, hincomplete rfl, List.length_replicate,
    hslices 7 false _ _ List.length_replicate List.length_replicate, hmade, hmem,
    (hdrops _ _ rfl _ hmade 100 hmem).1⟩

end Reading
end HttpReplay
