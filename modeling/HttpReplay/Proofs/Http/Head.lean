import HttpReplay.Proofs.Http.Scan

/-!
Heads that are written are found.

The grammar of heads refuses much, and what it does find in a string is told by the string alone.
The lemmas here go the other way: they name the parts that a line is written from and say that the
rule for it finds these parts and leaves what follows. Where a part is fixed text, it is enough to
run the rule on that text, since its verdict is firm (`Firm.found_append`); so only those parts need
a lemma that vary from one head to the next.
-/

set_option autoImplicit false

namespace HttpReplay.Http

/-- A run of bytes of a class is found up to the first byte that is not of it. -/
theorem spanThen_append {p : UInt8 → Bool} {run : Bytes} {stop : UInt8}
    (hrun : ∀ b ∈ run, p b = true) (hstop : p stop = false) (rest : Bytes) :
    spanThen p (run ++ stop :: rest) = .found (run, stop) rest := by
  induction run with
  | nil => simp [spanThen, hstop]
  | cons b run ih =>
    have hb : p b = true := hrun b List.mem_cons_self
    rw [List.cons_append, spanThen, if_pos hb, ih fun x hx => hrun x (List.mem_cons_of_mem b hx)]
    rfl

theorem lineEnd_crlf (rest : Bytes) : lineEnd (Bytes.crlf ++ rest) = .found () rest := rfl

/-- What is written on a line is found on it. -/
theorem valueLine_append {value : Bytes} (hvalue : ∀ b ∈ value, isValueByte b = true)
    (rest : Bytes) : valueLine (value ++ (Bytes.crlf ++ rest)) = .found value rest := by
  have hspan : spanThen isValueByte (value ++ Bytes.cr :: (Bytes.lf :: rest)) =
      .found (value, Bytes.cr) (Bytes.lf :: rest) := spanThen_append hvalue rfl _
  have hline : lineEnd (Bytes.cr :: Bytes.lf :: rest) = .found () rest := lineEnd_crlf rest
  rw [valueLine]
  change (spanThen isValueByte (value ++ Bytes.cr :: (Bytes.lf :: rest))).andThen _ = _
  rw [hspan]
  dsimp only [Scan.andThen]
  rw [hline]
  rfl

/-- A name is found in front of the colon after it. -/
theorem runThen_append {name : Bytes} (hne : name ≠ []) (hname : ∀ b ∈ name, isToken b = true)
    (rest : Bytes) :
    runThen isToken Bytes.colon (name ++ Bytes.colon :: rest) = .found name rest := by
  have hcolon : isToken Bytes.colon = false := by decide
  rw [runThen, spanThen_append hname hcolon]
  simp [Scan.andThen, hne]

/-- A field is found as it is written, blanks around its value left out. -/
theorem field_append {name value : Bytes} (hne : name ≠ [])
    (hname : ∀ b ∈ name, isToken b = true) (hvalue : ∀ b ∈ value, isValueByte b = true)
    (rest : Bytes) :
    field (name ++ Bytes.colon :: (value ++ (Bytes.crlf ++ rest))) =
      .found ⟨name, Bytes.trimBlanks value⟩ rest := by
  rw [field, runThen_append hne hname]
  dsimp only [Scan.andThen]
  rw [valueLine_append hvalue]
  rfl

end HttpReplay.Http
