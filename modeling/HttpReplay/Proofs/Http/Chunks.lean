import HttpReplay.Proofs.Http.Verdict
import HttpReplay.Proofs.Text.Numeral

/-!
Bodies in chunks, as they may be written.

A body in chunks is a list of chunks with a size line each, a last size line of zero, and trailer lines
(`ChunkedBody`). Senders have liberties in how they write it, in the numerals, in what stands behind them
and in what the data is, and the walk over a body has to come out at its last byte whatever they do with
them. What carries the proof is that each part is walked over in one step, by an equation that holds
whatever comes after it (`SizeLine.chunksComplete_append`, `Chunk.chunksComplete_append`,
`trailerComplete_line`), and that no step can be made on less than the part. So the verdict on a body turns
at the end of the whole because it turns at the end of the last part (`TurnsAtEnd.append`).
-/

set_option autoImplicit false

namespace HttpReplay.Http

open Bytes (lf cr crlf semicolon)

/-! ## Verdicts that turn at the end -/

section TurnsAtEnd

variable {α : Type} {before after : α} {verdict next : Bytes → α} {a b start : Bytes}

/-- The verdict is `after` on the whole and `before` on every shorter beginning of it. -/
def TurnsAtEnd (verdict : Bytes → α) (before after : α) (s : Bytes) : Prop :=
  verdict s = after ∧ ∀ start, start <+: s → start ≠ s → verdict start = before

/-- What is short of two parts is short of the first, or has all of the first and is short of the
second. -/
theorem prefix_append_cases (h : start <+: a ++ b) (hne : start ≠ a ++ b) :
    (start <+: a ∧ start ≠ a) ∨ ∃ s, start = a ++ s ∧ s <+: b ∧ s ≠ b := by
  obtain hshort | ⟨s, rfl⟩ := List.prefix_or_prefix_of_prefix h (List.prefix_append a b)
  · by_cases hsame : start = a
    · refine .inr ⟨[], by simpa using hsame, List.nil_prefix, ?_⟩
      rintro rfl
      exact hne (by simpa using hsame)
    · exact .inl ⟨hshort, hsame⟩
  · refine .inr ⟨s, rfl, (List.prefix_append_right_inj a).1 h, ?_⟩
    rintro rfl
    exact hne rfl

/-- A part that is walked over in one step, and not before it is all there, puts off the turn to the end
of what comes after it. -/
theorem TurnsAtEnd.append (hbefore : ∀ start, start <+: a → start ≠ a → verdict start = before)
    (hstep : ∀ s, verdict (a ++ s) = next s) (h : TurnsAtEnd next before after b) :
    TurnsAtEnd verdict before after (a ++ b) := by
  refine ⟨(hstep b).trans h.1, fun start hstart hne => ?_⟩
  obtain ⟨hshort, hne⟩ | ⟨s, rfl, hs, hne⟩ := prefix_append_cases hstart hne
  · exact hbefore start hshort hne
  · exact (hstep s).trans (h.2 s hs hne)

end TurnsAtEnd

/-! ## Size lines -/

/-- Bytes that can stand on a line. -/
def IsInline (s : Bytes) : Prop := cr ∉ s ∧ lf ∉ s

/-- What is short of a line and its end has no line feed. -/
theorem IsInline.lf_not_mem_of_prefix {line start : Bytes} (hline : IsInline line)
    (h : start <+: line ++ crlf) (hne : start ≠ line ++ crlf) : lf ∉ start := by
  have hlast : line ++ crlf = line ++ [cr] ++ [lf] := by simp [crlf]
  rw [hlast] at h hne
  have hshort := (List.prefix_concat_iff.1 h).resolve_left hne
  have hcr : lf ≠ cr := by decide
  intro hmem
  simpa [hline.2, hcr] using hshort.mem hmem

/-- A size line as it may be written: the numeral in hexadecimal digits, their letters in either case and
any number of zeros in front, and an extension behind a semicolon if there is one. A machine can count as
many bytes and the two that end their line. -/
structure SizeLine where
  size : Nat
  numeral : Bytes
  extension : Option Bytes
  spells : Numeral.Spells 16 numeral size
  size_le : size + 2 ≤ Numeral.maxSize
  extension_inline : ∀ e ∈ extension, IsInline e

namespace SizeLine

variable (l : SizeLine) {start rest : Bytes}

def suffix : Bytes := l.extension.elim [] (semicolon :: ·)

def toBytes : Bytes := l.numeral ++ l.suffix

theorem isInline : IsInline l.toBytes := by
  have hnumeral {b : UInt8} (hb : ¬ (0x30 ≤ b ∧ b ≤ 0x39 ∨ 0x41 ≤ b ∧ b ≤ 0x66)) : b ∉ l.numeral :=
    fun hmem => hb (l.spells.of_mem (by decide) hmem)
  have hcr := hnumeral (b := cr) (by decide)
  have hlf := hnumeral (b := lf) (by decide)
  have hmarks : cr ≠ semicolon ∧ lf ≠ semicolon := by decide
  rw [IsInline, toBytes, suffix]
  cases he : l.extension with
  | none => simp [hcr, hlf]
  | some e =>
    obtain ⟨hecr, helf⟩ := l.extension_inline e he
    simp [hcr, hlf, hecr, helf, hmarks]

/-- **A size line says its size.** -/
theorem chunkSize?_toBytes : chunkSize? l.toBytes = some l.size := by
  have hnumeral : ∀ b ∈ l.numeral, (b != semicolon) = true := by
    intro b hb
    rw [bne_iff_ne]
    rintro rfl
    exact absurd (l.spells.of_mem (by decide) hb) (by decide)
  have hstop : l.suffix.takeWhile (· != semicolon) = [] := by
    rw [suffix]
    cases l.extension <;> rfl
  rw [chunkSize?, toBytes, List.takeWhile_append_of_pos hnumeral, hstop, List.append_nil]
  exact Numeral.size?_of_spells (by decide) l.spells (Nat.le_of_add_right_le l.size_le)

/-- Without its line feed a size line is not read. -/
theorem chunksComplete_of_prefix (h : start <+: l.toBytes ++ crlf) (hne : start ≠ l.toBytes ++ crlf) :
    chunksComplete start = false := by
  have hlf := l.isInline.lf_not_mem_of_prefix h hne
  exact chunksComplete_of_none ((Bytes.splitAtPattern?_eq_none_iff crlf_ne_nil).2
    fun hinside => hlf (hinside.mem (by decide)))

/-- **The step over a size line**, whatever comes after it. -/
theorem chunksComplete_append (rest : Bytes) :
    chunksComplete (l.toBytes ++ crlf ++ rest) =
      if l.size = 0 then trailerComplete rest
      else decide (l.size + 2 ≤ rest.length) && chunksComplete (rest.drop (l.size + 2)) := by
  have hlf : lf ∉ l.toBytes ++ crlf.dropLast := by
    have hcr : lf ∉ crlf.dropLast := by decide
    simp [l.isInline.2, hcr]
  have hleftmost : ¬ crlf <:+: l.toBytes ++ crlf.dropLast :=
    fun hinside => hlf (hinside.mem (by decide))
  rw [chunksComplete_of_split (Bytes.splitAtPattern?_append crlf_ne_nil hleftmost rest),
    l.chunkSize?_toBytes]

end SizeLine

/-! ## Chunks -/

/-- A chunk: its data, of any bytes but not empty, and a line with the size of them. -/
structure Chunk where
  line : SizeLine
  data : Bytes
  data_ne_nil : data ≠ []
  size_eq : line.size = data.length

namespace Chunk

variable (c : Chunk) {start : Bytes}

def toBytes : Bytes := c.line.toBytes ++ crlf ++ (c.data ++ crlf)

theorem size_ne_zero : c.line.size ≠ 0 := by
  rw [c.size_eq]
  exact List.length_pos_iff.2 c.data_ne_nil |>.ne'

/-- **The step over a chunk**: nothing in its data is looked at. -/
theorem chunksComplete_append (rest : Bytes) :
    chunksComplete (c.toBytes ++ rest) = chunksComplete rest := by
  have hlength : (c.data ++ crlf).length = c.line.size + 2 := by
    rw [List.length_append, c.size_eq]
    rfl
  have hroom : c.line.size + 2 ≤ (c.data ++ crlf ++ rest).length := by
    rw [List.length_append, hlength]
    exact Nat.le_add_right _ _
  rw [toBytes, List.append_assoc, c.line.chunksComplete_append, if_neg c.size_ne_zero,
    decide_eq_true hroom, Bool.true_and, ← hlength, List.drop_left]

theorem chunksComplete_of_prefix (h : start <+: c.toBytes) (hne : start ≠ c.toBytes) :
    chunksComplete start = false := by
  obtain ⟨hshort, hne⟩ | ⟨s, rfl, hs, hne⟩ := prefix_append_cases h hne
  · exact c.line.chunksComplete_of_prefix hshort hne
  · have hless : s.length < c.line.size + 2 := by
      have hle := hs.length_le
      have hlength : s.length ≠ (c.data ++ crlf).length := fun h => hne (hs.eq_of_length h)
      rw [List.length_append, ← c.size_eq] at hle hlength
      exact Nat.lt_of_le_of_ne hle hlength
    rw [c.line.chunksComplete_append, if_neg c.size_ne_zero, decide_eq_false (Nat.not_le.2 hless),
      Bool.false_and]

end Chunk

/-! ## Trailers -/

/-- **The empty line after the last chunk** is one that follows the end of a line, which may be that of
the last chunk's own size line. -/
theorem trailerComplete_iff (rest : Bytes) :
    trailerComplete rest = true ↔ crlf ++ crlf <:+: crlf ++ rest := by
  have hcrlf : crlf ++ rest = cr :: lf :: rest := rfl
  have hsecond : ¬ crlf ++ crlf <+: lf :: rest := by
    rintro ⟨s, hs⟩
    exact absurd (List.cons.inj hs).1 (by decide)
  rw [trailerComplete, Bool.or_eq_true, Bytes.isSome_strip?_iff, Bytes.hasPattern_iff blankLine_ne_nil,
    hcrlf, List.infix_cons_iff, List.infix_cons_iff, or_iff_right hsecond, ← hcrlf,
    List.prefix_append_right_inj]

/-- Trailer lines and the empty line after them. -/
def trailerBytes (trailers : List Bytes) : Bytes := trailers.flatMap (· ++ crlf) ++ crlf

/-- **The step over a trailer line**: no empty line begins on a line that is not empty. -/
theorem trailerComplete_line {t : Bytes} (hne : t ≠ []) (ht : IsInline t) (rest : Bytes) :
    trailerComplete (t ++ crlf ++ rest) = trailerComplete rest := by
  have hfirst : ¬ crlf <+: t ++ (crlf ++ rest) := by
    obtain ⟨b, t, rfl⟩ := List.exists_cons_of_ne_nil hne
    intro hprefix
    obtain ⟨rfl, -⟩ := List.cons_prefix_cons.1 hprefix
    exact ht.1 List.mem_cons_self
  rw [Bool.eq_iff_iff, trailerComplete_iff rest, List.append_assoc, trailerComplete, Bool.or_eq_true,
    Bytes.isSome_strip?_iff, Bytes.hasPattern_iff blankLine_ne_nil, or_iff_right hfirst]
  exact Bytes.infix_append_iff_of_not_mem ht.1

theorem trailerComplete_of_prefix {t start : Bytes} (ht : IsInline t) (h : start <+: t ++ crlf)
    (hne : start ≠ t ++ crlf) : trailerComplete start = false := by
  have hlf := ht.lf_not_mem_of_prefix h hne
  rw [Bool.eq_false_iff, ne_eq, trailerComplete, Bool.or_eq_true, Bytes.isSome_strip?_iff,
    Bytes.hasPattern_iff blankLine_ne_nil]
  rintro (hstart | hinside)
  · exact hlf (hstart.mem (by decide))
  · exact hlf (hinside.mem (by decide))

theorem turnsAtEnd_trailers {trailers : List Bytes} (hne : ∀ t ∈ trailers, t ≠ [])
    (hinline : ∀ t ∈ trailers, IsInline t) :
    TurnsAtEnd trailerComplete false true (trailerBytes trailers) := by
  induction trailers with
  | nil => exact ⟨by decide, fun _ => trailerComplete_of_prefix ⟨List.not_mem_nil, List.not_mem_nil⟩⟩
  | cons t ts ih =>
    have hparts : trailerBytes (t :: ts) = t ++ crlf ++ trailerBytes ts := by simp [trailerBytes]
    rw [hparts]
    exact .append (fun _ => trailerComplete_of_prefix (hinline t List.mem_cons_self))
      (trailerComplete_line (hne t List.mem_cons_self) (hinline t List.mem_cons_self))
      (ih (fun t ht => hne t (List.mem_cons_of_mem _ ht))
        fun t ht => hinline t (List.mem_cons_of_mem _ ht))

/-! ## Whole bodies -/

/-- A body in chunks as it may be written. -/
structure ChunkedBody where
  chunks : List Chunk
  last : SizeLine
  trailers : List Bytes
  last_size : last.size = 0
  trailer_ne_nil : ∀ t ∈ trailers, t ≠ []
  trailer_inline : ∀ t ∈ trailers, IsInline t

namespace ChunkedBody

def toBytes (body : ChunkedBody) : Bytes :=
  body.chunks.flatMap Chunk.toBytes ++ (body.last.toBytes ++ crlf ++ trailerBytes body.trailers)

/-- **A body in chunks is all there at its last byte and not before.** -/
theorem turnsAtEnd (body : ChunkedBody) : TurnsAtEnd chunksComplete false true body.toBytes := by
  rw [toBytes]
  -- The chunks are walked over one after the other, and none of them ends the body.
  induction body.chunks with
  | nil =>
    rw [List.flatMap_nil, List.nil_append]
    refine .append (fun _ => body.last.chunksComplete_of_prefix) (fun rest => ?_)
      (turnsAtEnd_trailers body.trailer_ne_nil body.trailer_inline)
    rw [body.last.chunksComplete_append, if_pos body.last_size]
  | cons c cs ih =>
    rw [List.flatMap_cons, List.append_assoc]
    exact .append (fun _ => c.chunksComplete_of_prefix) c.chunksComplete_append ih

end ChunkedBody

end HttpReplay.Http
