import HttpReplay.Http.Framing
import HttpReplay.Proofs.Bytes.Cut

/-!
Rules for lines: where they decide, and what they have found.

Two things are said here of every rule that reads a line. A rule that is given a line feed does not
wait for more: it finds its line or calls the bytes malformed (`Ends`). And what it has found tells how
the bytes were written, down to the one freedom that there is, a carriage return at the end
(`field_eq_found_iff`, `requestLine_eq_found_iff`). Together they let a proof about an edited head work
on the written lines alone.

A rule that stops short of the end of the line leaves the line feed to the next one (`Within`), so both
properties go from parts to whole as firmness does, and only the rules that look at bytes themselves
need an argument.
-/

set_option autoImplicit false

namespace HttpReplay.Http

open Bytes (lf cr colon space)

variable {α β : Type} {s rest run : Bytes} {p : UInt8 → Bool} {stop : UInt8}

namespace Scan

theorem map_eq_found_iff {f : α → β} {scan : Scan α} {b : β} :
    scan.map f = .found b rest ↔ ∃ a, scan = .found a rest ∧ f a = b := by
  cases scan <;> simp [Scan.map, and_comm]

theorem andThen_eq_found_iff {scan : Scan α} {next : α → Bytes → Scan β} {b : β} :
    scan.andThen next = .found b rest ↔
      ∃ a left, scan = .found a left ∧ next a left = .found b rest := by
  cases scan <;> simp [Scan.andThen]

end Scan

/-- Bytes of a class are none that is not of it. -/
theorem not_mem_of_class (h : ∀ b ∈ s, p b = true) {b : UInt8} (hb : p b = false) : b ∉ s :=
  fun hmem => by
    rw [h b hmem] at hb
    cases hb

/-! ## Rules decide within a line -/

/-- A rule that decides within a line: it finds something there or the bytes are malformed. -/
def Ends (rule : Bytes → Scan α) : Prop :=
  ∀ s, lf ∈ s → rule s = .bad ∨ ∃ a rest, rule s = .found a rest

/-- A rule that decides within a line and leaves the line feed that ends it. -/
def Within (rule : Bytes → Scan α) : Prop :=
  ∀ s, lf ∈ s → rule s = .bad ∨ ∃ a rest, rule s = .found a rest ∧ lf ∈ rest

theorem Within.andThen {rule : Bytes → Scan α} {next : α → Bytes → Scan β} (h : Within rule)
    (hnext : ∀ a, Ends (next a)) : Ends fun s => (rule s).andThen next := by
  intro s hs
  dsimp only
  obtain hbad | ⟨a, rest, hfound, hrest⟩ := h s hs
  · rw [hbad]
    exact .inl rfl
  · rw [hfound]
    exact hnext a rest hrest

namespace Ends

theorem map {rule : Bytes → Scan α} (f : α → β) (h : Ends rule) : Ends fun s => (rule s).map f := by
  intro s hs
  dsimp only
  obtain hbad | ⟨a, rest, hfound⟩ := h s hs
  · rw [hbad]
    exact .inl rfl
  · rw [hfound]
    exact .inr ⟨f a, rest, rfl⟩

theorem bad : Ends fun _ => (.bad : Scan α) := fun _ _ => .inl rfl

end Ends

/-- Where a byte stands that is not of the class, a run of the class ends. -/
theorem exists_spanThen (h : ∃ b ∈ s, p b = false) :
    ∃ run stop rest, spanThen p s = .found (run, stop) rest := by
  induction s with
  | nil =>
    obtain ⟨b, hb, -⟩ := h
    cases hb
  | cons c s ih =>
    rw [spanThen]
    by_cases hc : p c = true
    · rw [if_pos hc]
      obtain ⟨b, hb, hstop⟩ := h
      obtain rfl | hb := List.mem_cons.1 hb
      · rw [hc] at hstop
        cases hstop
      · obtain ⟨run, stop, rest, hfound⟩ := ih ⟨b, hb, hstop⟩
        exact ⟨c :: run, stop, rest, by rw [hfound]; rfl⟩
    · rw [if_neg hc]
      exact ⟨[], c, s, rfl⟩

/-- **A run, and the first byte that is not of its class.** -/
theorem spanThen_eq_found_iff :
    spanThen p s = .found (run, stop) rest ↔
      s = run ++ stop :: rest ∧ (∀ b ∈ run, p b = true) ∧ p stop = false := by
  induction s generalizing run with
  | nil => simp [spanThen]
  | cons c s ih =>
    rw [spanThen]
    by_cases hc : p c = true
    · rw [if_pos hc, Scan.map_eq_found_iff]
      constructor
      · rintro ⟨⟨run, stop⟩, hfound, hsame⟩
        cases hsame
        obtain ⟨rfl, hrun, hstop⟩ := ih.1 hfound
        exact ⟨rfl, List.forall_mem_cons.2 ⟨hc, hrun⟩, hstop⟩
      · rintro ⟨hs, hrun, hstop⟩
        cases run with
        | nil =>
          obtain ⟨rfl, -⟩ := List.cons.inj hs
          rw [hc] at hstop
          cases hstop
        | cons b run =>
          obtain ⟨rfl, hrest⟩ := List.cons.inj hs
          exact ⟨(run, stop), ih.2 ⟨hrest, (List.forall_mem_cons.1 hrun).2, hstop⟩, rfl⟩
    · rw [if_neg hc]
      constructor
      · intro hsame
        cases hsame
        exact ⟨rfl, by simp, by simpa using hc⟩
      · rintro ⟨hs, hrun, -⟩
        cases run with
        | nil =>
          obtain ⟨rfl, rfl⟩ := List.cons.inj hs
          rfl
        | cons b run =>
          obtain ⟨rfl, -⟩ := List.cons.inj hs
          exact absurd (hrun c List.mem_cons_self) hc

/-- How a line can end in front of its line feed. -/
def IsLineEnd (ending : Bytes) : Prop := ending = [] ∨ ending = [cr]

/-- A line has one line feed. -/
theorem IsLineEnd.lf_not_mem_append {ending : Bytes} (h : IsLineEnd ending) (hs : lf ∉ s) :
    lf ∉ s ++ ending := by
  have hcr : lf ≠ cr := by decide
  obtain rfl | rfl := h <;> simp [hs, hcr]

theorem lineEnd_eq_found_iff :
    lineEnd s = .found () rest ↔ ∃ ending, s = ending ++ lf :: rest ∧ IsLineEnd ending := by
  constructor
  · intro h
    cases s with
    | nil => cases h
    | cons b s =>
      simp only [lineEnd] at h
      split at h
      next hlf =>
        cases h
        exact ⟨[], by rw [hlf]; rfl, .inl rfl⟩
      next =>
        split at h
        next hcr =>
          cases s with
          | nil => cases h
          | cons c s =>
            dsimp only at h
            split at h
            next hlf =>
              cases h
              exact ⟨[cr], by rw [hcr, hlf]; rfl, .inr rfl⟩
            next => cases h
        next => cases h
  · rintro ⟨ending, rfl, rfl | rfl⟩ <;> rfl

theorem ends_lineEnd : Ends lineEnd := by
  intro s hs
  cases s with
  | nil => cases hs
  | cons b s =>
    simp only [lineEnd]
    split
    next => exact .inr ⟨_, _, rfl⟩
    next hlf =>
      split
      next =>
        cases s with
        | nil => exact absurd (List.mem_singleton.1 hs).symm hlf
        | cons c s =>
          dsimp only
          split
          next => exact .inr ⟨_, _, rfl⟩
          next => exact .inl rfl
      next => exact .inl rfl

/-! ## Runs in front of a byte -/

theorem runThen_eq_found_iff (hstop : p stop = false) :
    runThen p stop s = .found run rest ↔
      s = run ++ stop :: rest ∧ run ≠ [] ∧ ∀ b ∈ run, p b = true := by
  rw [runThen, Scan.andThen_eq_found_iff]
  constructor
  · rintro ⟨⟨run', stop'⟩, left, hspan, hfound⟩
    obtain ⟨rfl, hrun, -⟩ := spanThen_eq_found_iff.1 hspan
    dsimp only at hfound
    split at hfound
    next => cases hfound
    next hgood =>
      cases hfound
      simp only [Bool.or_eq_true, List.isEmpty_iff, bne_iff_ne, ne_eq, not_or, not_not] at hgood
      obtain ⟨hne, rfl⟩ := hgood
      exact ⟨rfl, hne, hrun⟩
  · rintro ⟨rfl, hne, hrun⟩
    refine ⟨(run, stop), rest, spanThen_eq_found_iff.2 ⟨rfl, hrun, hstop⟩, ?_⟩
    simp [hne]

theorem within_runThen (hlf : p lf = false) (hstop : stop ≠ lf) : Within (runThen p stop) := by
  intro s hs
  obtain ⟨run, stop', rest, hspan⟩ := exists_spanThen ⟨lf, hs, hlf⟩
  obtain ⟨rfl, hrun, -⟩ := spanThen_eq_found_iff.1 hspan
  rw [runThen, hspan]
  dsimp only [Scan.andThen]
  split
  next => exact .inl rfl
  next hgood =>
    simp only [Bool.or_eq_true, List.isEmpty_iff, bne_iff_ne, ne_eq, not_or, not_not] at hgood
    obtain ⟨-, rfl⟩ := hgood
    -- The line feed is neither in the run nor the byte that ends it.
    have hrest : lf ∈ rest := by simpa [not_mem_of_class hrun hlf, Ne.symm hstop] using hs
    exact .inr ⟨run, rest, rfl, hrest⟩

theorem valueLine_eq_found_iff :
    valueLine s = .found run rest ↔
      ∃ ending, s = run ++ (ending ++ lf :: rest) ∧ IsLineEnd ending ∧
        ∀ b ∈ run, isValueByte b = true := by
  rw [valueLine, Scan.andThen_eq_found_iff]
  constructor
  · rintro ⟨⟨run', stop⟩, left, hspan, hfound⟩
    obtain ⟨rfl, hrun, -⟩ := spanThen_eq_found_iff.1 hspan
    obtain ⟨⟨⟩, hline, rfl⟩ := Scan.map_eq_found_iff.1 hfound
    obtain ⟨ending, hending, hend⟩ := lineEnd_eq_found_iff.1 hline
    exact ⟨ending, by rw [hending], hend, hrun⟩
  · rintro ⟨ending, rfl, hend, hrun⟩
    have hlf : isValueByte lf = false := by decide
    have hcr : isValueByte cr = false := by decide
    obtain rfl | rfl := hend
    · exact ⟨(run, lf), rest, spanThen_eq_found_iff.2 ⟨rfl, hrun, hlf⟩, rfl⟩
    · exact ⟨(run, cr), lf :: rest, spanThen_eq_found_iff.2 ⟨rfl, hrun, hcr⟩, rfl⟩

theorem ends_valueLine : Ends valueLine := by
  intro s hs
  have hlf : isValueByte lf = false := by decide
  obtain ⟨run, stop, rest, hspan⟩ := exists_spanThen ⟨lf, hs, hlf⟩
  obtain ⟨rfl, hrun, -⟩ := spanThen_eq_found_iff.1 hspan
  have hrest : lf ∈ stop :: rest := (List.mem_append.1 hs).resolve_left (not_mem_of_class hrun hlf)
  rw [valueLine, hspan]
  exact ends_lineEnd.map (fun _ => run) (stop :: rest) hrest

/-! ## Fields -/

theorem ends_field : Ends field :=
  (within_runThen (by decide) (by decide)).andThen fun _ => ends_valueLine.map _

/-- **A field was written as a name, a colon straight after it, and a value to the end of the line.** -/
theorem field_eq_found_iff {f : Field} :
    field s = .found f rest ↔
      ∃ value ending, s = f.name ++ colon :: (value ++ (ending ++ lf :: rest)) ∧ IsLineEnd ending ∧
        f.name ≠ [] ∧ (∀ b ∈ f.name, isToken b = true) ∧ (∀ b ∈ value, isValueByte b = true) ∧
        f.value = Bytes.trimBlanks value := by
  have hcolon : isToken colon = false := by decide
  rw [field, Scan.andThen_eq_found_iff]
  constructor
  · rintro ⟨name, left, hname, hfound⟩
    obtain ⟨rfl, hne, htoken⟩ := (runThen_eq_found_iff hcolon).1 hname
    obtain ⟨value, hvalue, rfl⟩ := Scan.map_eq_found_iff.1 hfound
    obtain ⟨ending, rfl, hend, hbytes⟩ := valueLine_eq_found_iff.1 hvalue
    exact ⟨value, ending, rfl, hend, hne, htoken, hbytes, rfl⟩
  · rintro ⟨value, ending, rfl, hend, hne, htoken, hbytes, hvalue⟩
    refine ⟨f.name, _, (runThen_eq_found_iff hcolon).2 ⟨rfl, hne, htoken⟩, ?_⟩
    rw [Scan.map_eq_found_iff]
    exact ⟨value, valueLine_eq_found_iff.2 ⟨ending, rfl, hend, hbytes⟩, by rw [← hvalue]⟩

/-! ## First lines of requests -/

/-- The bytes of a version before its digit. -/
def versionStart : Bytes := Bytes.ofText "HTTP/1."

/-- The digit that a version ends in. -/
def versionDigit (minor : Nat) : UInt8 := if minor = 0 then 0x30 else 0x31

theorem version_eq_found_iff {minor : Nat} :
    version s = .found minor rest ↔ s = versionStart ++ versionDigit minor :: rest ∧ minor ≤ 1 := by
  rw [version]
  constructor
  · intro h
    split at h
    next digit left hstrip =>
      rw [Bytes.strip?_eq_some.1 hstrip]
      split at h
      next hdigit =>
        cases h
        exact ⟨by rw [hdigit]; rfl, by decide⟩
      next =>
        split at h
        next hdigit =>
          cases h
          exact ⟨by rw [hdigit]; rfl, by decide⟩
        next => cases h
    next => cases h
    next => split at h <;> cases h
  · rintro ⟨rfl, hminor⟩
    have hstrip : Bytes.strip? (Bytes.ofText "HTTP/1.") (versionStart ++ versionDigit minor :: rest) =
        some (versionDigit minor :: rest) := Bytes.strip?_eq_some.2 rfl
    rw [hstrip]
    obtain rfl | rfl : minor = 0 ∨ minor = 1 := by omega
    · rfl
    · rfl

theorem lf_not_mem_versionStart : lf ∉ versionStart := by decide +kernel

theorem within_version : Within version := by
  intro s hs
  rw [version]
  split
  next digit rest hstrip =>
    rw [Bytes.strip?_eq_some.1 hstrip] at hs
    have hs : lf ∈ digit :: rest := (List.mem_append.1 hs).resolve_left lf_not_mem_versionStart
    split
    next hdigit =>
      subst hdigit
      exact .inr ⟨0, rest, rfl, by simpa [lf] using hs⟩
    next =>
      split
      next hdigit =>
        subst hdigit
        exact .inr ⟨1, rest, rfl, by simpa [lf] using hs⟩
      next => exact .inl rfl
  next hstrip =>
    rw [Bytes.strip?_eq_some.1 hstrip, List.append_nil] at hs
    exact absurd hs lf_not_mem_versionStart
  next =>
    split
    next hshort =>
      -- A version cut short has no line feed.
      have hstart := List.isPrefixOf_iff_prefix.1 hshort.2
      exact absurd (hstart.mem hs) lf_not_mem_versionStart
    next => exact .inl rfl

theorem ends_requestLine : Ends requestLine := by
  refine (within_runThen (by decide) (by decide)).andThen fun method => ?_
  refine (within_runThen (by decide) (by decide)).andThen fun target => ?_
  split
  · exact .bad
  · exact within_version.andThen fun minor => ends_lineEnd.map _

namespace RequestLine

/-- The line as it is written, short of its end. -/
def toBytes (line : RequestLine) : Bytes :=
  line.method ++ space :: (line.target ++ space :: (versionStart ++ [versionDigit line.minor]))

/-- A line that the grammar allows. -/
structure WellFormed (line : RequestLine) : Prop where
  method_ne_nil : line.method ≠ []
  method_token : ∀ b ∈ line.method, isToken b = true
  target_ne_nil : line.target ≠ []
  target_byte : ∀ b ∈ line.target, isTargetByte b = true
  target_text : (Utf8.decode? line.target).isSome = true
  minor_le : line.minor ≤ 1

end RequestLine

/-- **The first line of a request was written as a method, a target and a version**, one space between
them. -/
theorem requestLine_eq_found_iff {line : RequestLine} :
    requestLine s = .found line rest ↔
      line.WellFormed ∧ ∃ ending, IsLineEnd ending ∧ s = line.toBytes ++ (ending ++ lf :: rest) := by
  have hmethodStop : isToken space = false := by decide
  have htargetStop : isTargetByte space = false := by decide
  rw [requestLine, Scan.andThen_eq_found_iff]
  constructor
  · rintro ⟨method, afterMethod, hrun, hfromTarget⟩
    obtain ⟨target, afterTarget, hrun', hfromVersion⟩ := Scan.andThen_eq_found_iff.1 hfromTarget
    obtain ⟨rfl, hmethod⟩ := (runThen_eq_found_iff hmethodStop).1 hrun
    obtain ⟨rfl, htarget⟩ := (runThen_eq_found_iff htargetStop).1 hrun'
    split at hfromVersion
    next => cases hfromVersion
    next htext =>
      obtain ⟨minor, left, hversion, hfromEnd⟩ := Scan.andThen_eq_found_iff.1 hfromVersion
      obtain ⟨⟨⟩, hline, rfl⟩ := Scan.map_eq_found_iff.1 hfromEnd
      obtain ⟨rfl, hminor⟩ := version_eq_found_iff.1 hversion
      obtain ⟨ending, rfl, hend⟩ := lineEnd_eq_found_iff.1 hline
      rw [Option.isNone_iff_eq_none, ← ne_eq, ← Option.isSome_iff_ne_none] at htext
      exact ⟨⟨hmethod.1, hmethod.2, htarget.1, htarget.2, htext, hminor⟩, ending, hend, by
        simp [RequestLine.toBytes]⟩
  · rintro ⟨hline, ending, hend, rfl⟩
    have htext : ¬ (Utf8.decode? line.target).isNone = true := by
      rw [Option.isNone_iff_eq_none, ← ne_eq, ← Option.isSome_iff_ne_none]
      exact hline.target_text
    refine ⟨line.method, line.target ++ space :: (versionStart ++
      versionDigit line.minor :: (ending ++ lf :: rest)), ?_, ?_⟩
    · rw [runThen_eq_found_iff hmethodStop]
      exact ⟨by simp [RequestLine.toBytes], hline.method_ne_nil, hline.method_token⟩
    rw [Scan.andThen_eq_found_iff]
    refine ⟨line.target, versionStart ++ versionDigit line.minor :: (ending ++ lf :: rest), ?_, ?_⟩
    · rw [runThen_eq_found_iff htargetStop]
      exact ⟨rfl, hline.target_ne_nil, hline.target_byte⟩
    rw [if_neg htext, Scan.andThen_eq_found_iff]
    refine ⟨line.minor, ending ++ lf :: rest, version_eq_found_iff.2 ⟨rfl, hline.minor_le⟩, ?_⟩
    rw [Scan.map_eq_found_iff]
    exact ⟨(), lineEnd_eq_found_iff.2 ⟨ending, rfl, hend⟩, rfl⟩

/-! ## First lines of responses -/

theorem within_digit : Within digit := by
  intro s hs
  cases s with
  | nil => cases hs
  | cons b s =>
    rw [digit]
    split
    next hb =>
      have hne : lf ≠ b := by
        rintro rfl
        exact absurd hb.1 (by decide)
      exact .inr ⟨_, s, rfl, (List.mem_cons.1 hs).resolve_left hne⟩
    next => exact .inl rfl

/-- A rule that asks for a space first. -/
theorem Ends.space {rule : Bytes → Scan α} (h : Ends rule) :
    Ends fun s => match s with
      | [] => .cut
      | b :: s => if b ≠ space then .bad else rule s := by
  intro s hs
  cases s with
  | nil => cases hs
  | cons b s =>
    dsimp only
    split
    next => exact .inl rfl
    next hb =>
      have hne : lf ≠ b := by
        rw [not_not.1 hb]
        decide
      exact h s ((List.mem_cons.1 hs).resolve_left hne)

theorem ends_reason : Ends reason := by
  intro s hs
  cases s with
  | nil => cases hs
  | cons b s =>
    rw [reason]
    split
    next hb =>
      have hne : lf ≠ b := by
        rw [hb]
        decide
      exact ends_valueLine.map _ s ((List.mem_cons.1 hs).resolve_left hne)
    next => exact ends_lineEnd _ hs

theorem ends_statusLine : Ends statusLine :=
  within_version.andThen fun _ => .space <|
    within_digit.andThen fun _ => within_digit.andThen fun _ =>
      within_digit.andThen fun _ => ends_reason.map _

end HttpReplay.Http
