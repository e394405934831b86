import HttpReplay.Http.Message
import HttpReplay.Proofs.Bytes.Cut
import Mathlib.Data.List.Basic

/-!
Reading a field and setting it.

The search for a field goes through the lines of a message until one bears the name, and its result is
a place: the value with the bytes on either side. What the search does is said once, as a relation
between a block of lines and the place (`Located`), with a case for the line that bears the name and
one for a line that is passed over. An edit puts another value in the place, or a new line in front of
the block, and all that is said of it follows by induction on the search: it takes the same way through
the edited lines (`Located.replace`), and a search for another name does not see the edit
(`Located.value_replace`).

None of this asks whether the lines are fields, so it holds of any bytes at all. It depends on the value
that is set: one that ends its line early or begins or ends in blanks would not be read back as it is.
-/

set_option autoImplicit false

namespace HttpReplay.Http

open Bytes (lf cr colon space isBlank)

variable {name other value text ending line block rest startLine message : Bytes} {p : Place}

/-! ## Lines -/

/-- How a line with a certain text may end in front of its line feed. -/
def IsEnding (text ending : Bytes) : Prop :=
  ending = [cr] ∨ ending = [] ∧ text.getLast? ≠ some cr

theorem splitLineEnd_eq_iff :
    splitLineEnd line = (text, ending) ↔ line = text ++ ending ∧ IsEnding text ending := by
  unfold splitLineEnd IsEnding
  split
  next hcr =>
    obtain ⟨start, rfl⟩ := List.getLast?_eq_some_iff.1 hcr
    rw [List.dropLast_concat, Prod.mk.injEq]
    constructor
    · rintro ⟨rfl, rfl⟩
      exact ⟨rfl, .inl rfl⟩
    · rintro ⟨hline, rfl | ⟨rfl, hlast⟩⟩
      · exact ⟨(List.append_inj' hline rfl).1, rfl⟩
      · rw [List.append_nil] at hline
        rw [← hline] at hlast
        exact absurd hcr hlast
  next hcr =>
    rw [Prod.mk.injEq]
    constructor
    · rintro ⟨rfl, rfl⟩
      exact ⟨(List.append_nil line).symm, .inr ⟨rfl, hcr⟩⟩
    · rintro ⟨rfl, rfl | ⟨rfl, -⟩⟩
      · simp at hcr
      · exact ⟨List.append_nil text, rfl⟩

theorem locateInBlock?_of_not_mem (h : lf ∉ block) : locateInBlock? name block = none := by
  rw [locateInBlock?]
  split
  next => rfl
  next hcut =>
    rw [Bytes.splitAtByte?_eq_none_iff.2 h] at hcut
    cases hcut

/-- The search looks at one line and, unless it stops there, goes on below it. -/
theorem locateInBlock?_line (h : lf ∉ line) (name rest : Bytes) :
    locateInBlock? name (line ++ lf :: rest) =
      if (splitLineEnd line).1.isEmpty then none
      else match locateOnLine? name (splitLineEnd line).1 with
        | some place =>
          some { place with after := place.after ++ (splitLineEnd line).2 ++ [lf] ++ rest }
        | none => (locateInBlock? name rest).map (·.behind (line ++ [lf])) := by
  rw [locateInBlock?]
  split
  next hcut =>
    rw [Bytes.splitAtByte?_append h] at hcut
    cases hcut
  next hcut =>
    rw [Bytes.splitAtByte?_append h] at hcut
    obtain ⟨rfl, rfl⟩ := Prod.mk.inj (Option.some.inj hcut)
    rfl

theorem locate?_line (h : lf ∉ startLine) (name block : Bytes) :
    locate? name (startLine ++ lf :: block) =
      (locateInBlock? name block).map (·.behind (startLine ++ [lf])) := by
  rw [locate?, Bytes.splitAtByte?_append h]

/-! ## The search on one line -/

theorem sameLetters_iff {s t : Bytes} :
    Bytes.sameLetters s t = true ↔ Bytes.lower s = Bytes.lower t := beq_iff_eq

/-- A field of one name is not found under another. -/
theorem not_sameLetters_other {fieldName : Bytes} (hname : Bytes.sameLetters fieldName name = true)
    (hother : Bytes.sameLetters other name = false) : ¬ Bytes.sameLetters fieldName other = true := by
  rw [sameLetters_iff] at hname ⊢
  rw [hname]
  intro hsame
  rw [sameLetters_iff.2 hsame.symm] at hother
  cases hother

/-- A value that can stand on a line and is read back as it is. -/
structure IsValue (value : Bytes) : Prop where
  ne_nil : value ≠ []
  no_cr : cr ∉ value
  no_lf : lf ∉ value
  first_not_blank : ∀ b ∈ value.head?, isBlank b = false
  last_not_blank : ∀ b ∈ value.getLast?, isBlank b = false

/-- The text of a line with a colon, in the parts that the search cuts it into. -/
structure FieldText where
  /-- What stands before the first colon. -/
  name : Bytes
  /-- The blanks in front of the value. -/
  lead : Bytes
  value : Bytes
  /-- The blanks after the value. -/
  trail : Bytes
  no_colon : colon ∉ name
  lead_blank : ∀ b ∈ lead, isBlank b = true
  trail_blank : ∀ b ∈ trail, isBlank b = true
  first_not_blank : ∀ b ∈ (value ++ trail).head?, isBlank b = false
  last_not_blank : ∀ b ∈ value.getLast?, isBlank b = false

namespace FieldText

variable (f : FieldText)

def toBytes : Bytes := f.name ++ colon :: (f.lead ++ (f.value ++ f.trail))

def place : Place := ⟨f.name ++ [colon] ++ f.lead, f.value, f.trail⟩

/-- The same text with another value. -/
def replace (value : Bytes) (h : IsValue value) : FieldText :=
  { f with
    value := value
    first_not_blank := by
      obtain ⟨b, value, rfl⟩ := List.exists_cons_of_ne_nil h.ne_nil
      exact h.first_not_blank
    last_not_blank := h.last_not_blank }

theorem toBytes_ne_nil : f.toBytes ≠ [] := by simp [toBytes]

end FieldText

/-- Every text with a colon has such parts. -/
theorem exists_fieldText (h : colon ∈ text) : ∃ f : FieldText, f.toBytes = text := by
  obtain ⟨name, afterColon, rfl, hname⟩ := List.eq_append_cons_of_mem h
  obtain ⟨lead, rest, hlead⟩ : ∃ lead rest, Bytes.spanBlanks afterColon = (lead, rest) := ⟨_, _, rfl⟩
  obtain ⟨value, trail, htrail⟩ :
      ∃ value trail, Bytes.splitTrailingBlanks rest = (value, trail) := ⟨_, _, rfl⟩
  obtain ⟨rfl, htrailBlank, hlast⟩ := Bytes.splitTrailingBlanks_eq_iff.1 htrail
  obtain ⟨rfl, hleadBlank, hfirst⟩ := Bytes.spanBlanks_eq_iff.1 hlead
  exact ⟨⟨name, lead, value, trail, hname, hleadBlank, htrailBlank, hfirst, hlast⟩, rfl⟩

/-- The search finds the value of a line whose name it looks for. -/
theorem locateOnLine?_text (f : FieldText) (name : Bytes) :
    locateOnLine? name f.toBytes =
      if Bytes.sameLetters f.name name = true then some f.place else none := by
  have hlead : Bytes.spanBlanks (f.lead ++ (f.value ++ f.trail)) = (f.lead, f.value ++ f.trail) :=
    Bytes.spanBlanks_eq_iff.2 ⟨rfl, f.lead_blank, f.first_not_blank⟩
  have htrail : Bytes.splitTrailingBlanks (f.value ++ f.trail) = (f.value, f.trail) :=
    Bytes.splitTrailingBlanks_eq_iff.2 ⟨rfl, f.trail_blank, f.last_not_blank⟩
  rw [locateOnLine?, FieldText.toBytes, Bytes.splitAtByte?_append f.no_colon]
  dsimp only
  rw [hlead]
  dsimp only
  rw [htrail]
  rfl

theorem locateOnLine?_of_not_mem (h : colon ∉ text) : locateOnLine? name text = none := by
  rw [locateOnLine?, Bytes.splitAtByte?_eq_none_iff.2 h]

/-- **What is found on a line** is the value of a field of that name. -/
theorem exists_of_locateOnLine? (h : locateOnLine? name text = some p) :
    ∃ f : FieldText, f.toBytes = text ∧ Bytes.sameLetters f.name name = true ∧ p = f.place := by
  by_cases hcolon : colon ∈ text
  · obtain ⟨f, rfl⟩ := exists_fieldText hcolon
    rw [locateOnLine?_text] at h
    split at h
    next hname => exact ⟨f, rfl, hname, (Option.some.inj h).symm⟩
    next => cases h
  · rw [locateOnLine?_of_not_mem hcolon] at h
    cases h

/-! ## The search in a block -/

/-- **The way of a search through a block of lines**, and the place it ends in. -/
inductive Located (name : Bytes) : Bytes → Place → Prop
  /-- The line bears the name. -/
  | here (f : FieldText) (ending rest : Bytes) (hname : Bytes.sameLetters f.name name = true)
      (hending : IsEnding f.toBytes ending) (hlf : lf ∉ f.toBytes) :
      Located name (f.toBytes ++ ending ++ lf :: rest)
        { f.place with after := f.place.after ++ ending ++ [lf] ++ rest }
  /-- The line is passed over. -/
  | later (line : Bytes) {block : Bytes} {place : Place} (hlf : lf ∉ line)
      (htext : (splitLineEnd line).1 ≠ []) (hnone : locateOnLine? name (splitLineEnd line).1 = none)
      (h : Located name block place) :
      Located name (line ++ lf :: block) (place.behind (line ++ [lf]))

theorem lf_not_mem_append_ending (h : lf ∉ text) (hending : IsEnding text ending) :
    lf ∉ text ++ ending := by
  have hcr : lf ≠ cr := by decide
  obtain rfl | ⟨rfl, -⟩ := hending <;> simp [h, hcr]

theorem locateInBlock?_eq_some_iff {place : Place} :
    locateInBlock? name block = some place ↔ Located name block place := by
  constructor
  · intro h
    induction block using Bytes.lines_induction generalizing place with
    | last block hlf =>
      rw [locateInBlock?_of_not_mem hlf] at h
      cases h
    | line line rest hlf ih =>
      rw [locateInBlock?_line hlf] at h
      split at h
      next => cases h
      next htext =>
        split at h
        next p hp =>
          obtain ⟨f, hf, hname, rfl⟩ := exists_of_locateOnLine? hp
          obtain ⟨ending, hline⟩ : ∃ ending, splitLineEnd line = (f.toBytes, ending) :=
            ⟨_, by rw [hf]⟩
          rw [hline] at h
          obtain ⟨rfl, hending⟩ := splitLineEnd_eq_iff.1 hline
          cases h
          exact .here f ending rest hname hending fun hmem => hlf (List.mem_append_left _ hmem)
        next hnone =>
          obtain ⟨place, hplace, rfl⟩ := Option.map_eq_some_iff.1 h
          exact .later line hlf (by simpa using htext) hnone (ih hplace)
  · intro h
    induction h with
    | here f ending rest hname hending hlf =>
      rw [locateInBlock?_line (lf_not_mem_append_ending hlf hending),
        splitLineEnd_eq_iff.2 ⟨rfl, hending⟩]
      dsimp only
      rw [if_neg (by simp [f.toBytes_ne_nil]), locateOnLine?_text, if_pos hname]
    | later line hlf htext hnone _ ih =>
      rw [locateInBlock?_line hlf, if_neg (by simpa using htext), hnone, ih, Option.map_some]

/-- The place that a search ends in is one of the block it went through. -/
theorem Located.whole_eq {place : Place} (h : Located name block place) : place.whole = block := by
  induction h with
  | here f ending rest => simp [Place.whole, FieldText.place, FieldText.toBytes]
  | later line hlf htext hnone _ ih =>
    rw [← ih]
    simp [Place.whole, Place.behind]

/-- A value stands on its line. -/
theorem Located.lf_not_mem_value {place : Place} (h : Located name block place) :
    lf ∉ place.value := by
  induction h with
  | here f ending rest hname hending hlf =>
    simp only [FieldText.toBytes, List.mem_append, List.mem_cons, not_or] at hlf
    exact hlf.2.2.2.1
  | later line hlf htext hnone _ ih => exact ih

/-! ## The value of a field in a block -/

/-- The value of the first field called `name` in a block of lines. -/
def valueInBlock? (name block : Bytes) : Option Bytes := (locateInBlock? name block).map (·.value)

theorem valueInBlock?_line (h : lf ∉ line) (name rest : Bytes) :
    valueInBlock? name (line ++ lf :: rest) =
      if (splitLineEnd line).1.isEmpty then none
      else match locateOnLine? name (splitLineEnd line).1 with
        | some place => some place.value
        | none => valueInBlock? name rest := by
  rw [valueInBlock?, locateInBlock?_line h]
  split
  next => rfl
  next =>
    split
    next => rfl
    next =>
      rw [Option.map_map]
      rfl

/-- A line with a field on it answers for the field's name, and for no other. -/
theorem valueInBlock?_field (f : FieldText) (hending : IsEnding f.toBytes ending)
    (hlf : lf ∉ f.toBytes) (name rest : Bytes) :
    valueInBlock? name (f.toBytes ++ ending ++ lf :: rest) =
      if Bytes.sameLetters f.name name = true then some f.value else valueInBlock? name rest := by
  rw [valueInBlock?_line (lf_not_mem_append_ending hlf hending),
    splitLineEnd_eq_iff.2 ⟨rfl, hending⟩]
  dsimp only
  rw [if_neg (by simp [f.toBytes_ne_nil]), locateOnLine?_text]
  by_cases hname : Bytes.sameLetters f.name name = true
  · rw [if_pos hname, if_pos hname]
    rfl
  · rw [if_neg hname, if_neg hname]

theorem header_line (h : lf ∉ startLine) (name block : Bytes) :
    header name (startLine ++ lf :: block) = valueInBlock? name block := by
  rw [header, locate?_line h, Option.map_map]
  rfl

/-- **A value that is looked up holds no line feed**, whatever the message is. -/
theorem lf_not_mem_of_header (h : header name message = some value) : lf ∉ value := by
  by_cases hmessage : lf ∈ message
  · obtain ⟨startLine, block, rfl, hstart⟩ := List.eq_append_cons_of_mem hmessage
    rw [header_line hstart] at h
    obtain ⟨place, hplace, rfl⟩ := Option.map_eq_some_iff.1 h
    exact (locateInBlock?_eq_some_iff.1 hplace).lf_not_mem_value
  · rw [header, locate?, Bytes.splitAtByte?_eq_none_iff.2 hmessage] at h
    cases h

/-! ## Another value in the place -/

namespace FieldText

variable (f : FieldText) (hvalue : IsValue value)

include hvalue in
/-- With another value in it, the text of a line ends in that value or in the blanks after it. -/
theorem isEnding_replace (h : IsEnding f.toBytes ending) :
    IsEnding (f.replace value hvalue).toBytes ending := by
  obtain hcr | ⟨hnil, -⟩ := h
  · exact .inl hcr
  · refine .inr ⟨hnil, fun hlast => ?_⟩
    have hparts : (f.replace value hvalue).toBytes =
        (f.name ++ colon :: f.lead) ++ (value ++ f.trail) := by simp [toBytes, replace]
    have hne : value ++ f.trail ≠ [] := by simp [hvalue.ne_nil]
    rw [hparts, List.getLast?_append_of_ne_nil _ hne] at hlast
    obtain hmem | hmem := List.mem_append.1 (List.mem_of_getLast? hlast)
    · exact hvalue.no_cr hmem
    · exact absurd (f.trail_blank cr hmem) (by decide)

/-- The line with another value in it, seen from the place of the value. -/
theorem whole_replace (ending rest : Bytes) :
    ({ f.place with
        value := value, after := f.place.after ++ ending ++ [lf] ++ rest } : Place).whole =
      (f.replace value hvalue).toBytes ++ ending ++ lf :: rest := by
  simp [Place.whole, place, toBytes, replace]

theorem lf_not_mem_replace (h : lf ∉ f.toBytes) : lf ∉ (f.replace value hvalue).toBytes := by
  have hlf := hvalue.no_lf
  simp only [toBytes, replace, List.mem_append, List.mem_cons, not_or] at h ⊢
  exact ⟨h.1, h.2.1, h.2.2.1, hlf, h.2.2.2.2⟩

end FieldText

theorem Place.whole_behind (line : Bytes) (place : Place) (value : Bytes) :
    ({ place.behind (line ++ [lf]) with value := value } : Place).whole =
      line ++ lf :: ({ place with value := value } : Place).whole := by
  simp [Place.whole, Place.behind]

/-- **The search takes the same way** when the value in its place is another. -/
theorem Located.replace {place : Place} (h : Located name block place) (hvalue : IsValue value) :
    Located name ({ place with value := value } : Place).whole { place with value := value } := by
  induction h with
  | here f ending rest hname hending hlf =>
    rw [f.whole_replace hvalue]
    exact .here (f.replace value hvalue) ending rest hname (f.isEnding_replace hvalue hending)
      (f.lf_not_mem_replace hvalue hlf)
  | later line hlf htext hnone _ ih =>
    rw [Place.whole_behind]
    exact .later line hlf htext hnone ih

/-- **A search for another name does not see the edit.** -/
theorem Located.value_replace {place : Place} (h : Located name block place)
    (hvalue : IsValue value) (hother : Bytes.sameLetters other name = false) :
    valueInBlock? other ({ place with value := value } : Place).whole = valueInBlock? other block := by
  induction h with
  | here f ending rest hname hending hlf =>
    have hdiffer := not_sameLetters_other hname hother
    rw [f.whole_replace hvalue, valueInBlock?_field _ (f.isEnding_replace hvalue hending)
      (f.lf_not_mem_replace hvalue hlf), valueInBlock?_field f hending hlf, if_neg hdiffer]
    exact if_neg hdiffer
  | later line hlf htext hnone _ ih =>
    rw [Place.whole_behind, valueInBlock?_line hlf, valueInBlock?_line hlf, ih]

/-! ## Setting a field -/

/-- A field that is written anew, with one space in front of its value. -/
def newField (name value : Bytes) (hname : colon ∉ name) (hvalue : IsValue value) : FieldText where
  name := name
  lead := [space]
  value := value
  trail := []
  no_colon := hname
  lead_blank := List.forall_mem_singleton.2 rfl
  trail_blank := by simp
  first_not_blank := by simpa using hvalue.first_not_blank
  last_not_blank := hvalue.last_not_blank

/-- A block with `value` as the value of the field `name`: in the place of the first such field's
value, or on a new line in front. -/
def setInBlock (name value block : Bytes) : Bytes :=
  match locateInBlock? name block with
  | some place => ({ place with value := value } : Place).whole
  | none => name ++ [colon, space] ++ value ++ Bytes.crlf ++ block

/-- Setting a field is a matter of the block alone. -/
theorem setHeader_line (h : lf ∉ startLine) (name value block : Bytes) :
    setHeader name value (startLine ++ lf :: block) =
      startLine ++ lf :: setInBlock name value block := by
  rw [setHeader, locate?_line h, setInBlock, Bytes.splitAtByte?_append h]
  cases locateInBlock? name block with
  | none => simp
  | some place => simp [Place.whole, Place.behind]

/-- The line that is put in front is a field. -/
theorem isEnding_newField (hname : colon ∉ name) (hvalue : IsValue value) :
    IsEnding (newField name value hname hvalue).toBytes [cr] := .inl rfl

theorem lf_not_mem_newField (hname : colon ∉ name) (hlf : lf ∉ name) (hvalue : IsValue value) :
    lf ∉ (newField name value hname hvalue).toBytes := by
  have hcolon : lf ≠ colon := by decide
  have hspace : lf ≠ space := by decide
  simp [newField, FieldText.toBytes, hlf, hvalue.no_lf, hcolon, hspace]

theorem setInBlock_of_none (h : locateInBlock? name block = none) (hname : colon ∉ name)
    (hvalue : IsValue value) :
    setInBlock name value block =
      (newField name value hname hvalue).toBytes ++ [cr] ++ lf :: block := by
  rw [setInBlock, h]
  simp [newField, FieldText.toBytes, Bytes.crlf]

/-- **After a field is set the search ends at the value that was set**, and at the same place for every
value. -/
theorem locateInBlock?_setInBlock (block : Bytes) (hcolon : colon ∉ name) (hlf : lf ∉ name)
    (hvalue : IsValue value) :
    ∃ place : Place, locateInBlock? name (setInBlock name value block) = some place ∧
      place.value = value ∧
      ∀ other, ({ place with value := other } : Place).whole = setInBlock name other block := by
  cases hplace : locateInBlock? name block with
  | some place =>
    have hfound := (locateInBlock?_eq_some_iff.1 hplace).replace hvalue
    refine ⟨{ place with value := value }, ?_, rfl, fun other => ?_⟩
    · rw [setInBlock, hplace]
      exact locateInBlock?_eq_some_iff.2 hfound
    · rw [setInBlock, hplace]
  | none =>
    have hfound : Located name _ _ := .here (newField name value hcolon hvalue) [cr] block
      (sameLetters_iff.2 rfl) (isEnding_newField hcolon hvalue) (lf_not_mem_newField hcolon hlf hvalue)
    rw [← setInBlock_of_none hplace hcolon hvalue] at hfound
    refine ⟨_, locateInBlock?_eq_some_iff.2 hfound, rfl, fun other => ?_⟩
    rw [setInBlock, hplace]
    simp [Place.whole, FieldText.place, newField, Bytes.crlf]

/-- The field that is set has the value it is set to. -/
theorem valueInBlock?_setInBlock_self (hcolon : colon ∉ name) (hlf : lf ∉ name)
    (hvalue : IsValue value) : valueInBlock? name (setInBlock name value block) = some value := by
  obtain ⟨place, hplace, hread, -⟩ := locateInBlock?_setInBlock block hcolon hlf hvalue
  rw [valueInBlock?, hplace, Option.map_some, hread]

/-- Fields of other names keep their values. -/
theorem valueInBlock?_setInBlock (hcolon : colon ∉ name) (hlf : lf ∉ name) (hvalue : IsValue value)
    (hother : Bytes.sameLetters other name = false) :
    valueInBlock? other (setInBlock name value block) = valueInBlock? other block := by
  cases hplace : locateInBlock? name block with
  | some place =>
    rw [setInBlock, hplace]
    exact (locateInBlock?_eq_some_iff.1 hplace).value_replace hvalue hother
  | none =>
    have hdiffer : ¬ Bytes.sameLetters (newField name value hcolon hvalue).name other = true :=
      not_sameLetters_other (sameLetters_iff.2 rfl) hother
    rw [setInBlock_of_none hplace hcolon hvalue, valueInBlock?_field _ (isEnding_newField hcolon hvalue)
      (lf_not_mem_newField hcolon hlf hvalue), if_neg hdiffer]

/-- **Reading and setting a field obey the laws of a store**, in any bytes with a line feed: what was
set is read, fields of other names are read as before, of two settings the second counts, and setting
what was read changes nothing, whatever it is. -/
theorem setHeader_laws (hmessage : lf ∈ message) (hcolon : colon ∉ name) (hlf : lf ∉ name)
    (hvalue : IsValue value) :
    header name (setHeader name value message) = some value ∧
      (∀ other, Bytes.sameLetters other name = false →
        header other (setHeader name value message) = header other message) ∧
      (∀ value', setHeader name value' (setHeader name value message) =
        setHeader name value' message) ∧
      ∀ old, header name message = some old → setHeader name old message = message := by
  obtain ⟨startLine, block, rfl, hstart⟩ := List.eq_append_cons_of_mem hmessage
  obtain ⟨place, hplace, -, hwhole⟩ := locateInBlock?_setInBlock block hcolon hlf hvalue
  rw [setHeader_line hstart]
  refine ⟨?_, fun other hother => ?_, fun value' => ?_, fun old hold => ?_⟩
  · rw [header_line hstart, valueInBlock?_setInBlock_self hcolon hlf hvalue]
  · rw [header_line hstart, header_line hstart, valueInBlock?_setInBlock hcolon hlf hvalue hother]
  · rw [setHeader_line hstart, setHeader_line hstart, ← hwhole value', setInBlock, hplace]
  · rw [header_line hstart] at hold
    obtain ⟨place, hplace, rfl⟩ := Option.map_eq_some_iff.1 hold
    have hwhole := (locateInBlock?_eq_some_iff.1 hplace).whole_eq
    rw [setHeader_line hstart, setInBlock, hplace]
    exact congrArg (startLine ++ lf :: ·) hwhole

/-- Lines with and without a colon, a carriage return inside a line, a field without a value, and the
same field again on a line that does not end. -/
def raggedMessage : Bytes :=
  Bytes.ofText "x\nno colon\r\nA:\r 1\r\r\nhOST:\t \r\nB: 2\n\nHost: c"

theorem setHeader_laws_ragged :
    lf ∈ raggedMessage ∧ colon ∉ hostField ∧ lf ∉ hostField ∧ IsValue (Bytes.ofText "b c") ∧
      header hostField raggedMessage = some [] ∧
      header hostField (setHeader hostField (Bytes.ofText "b c") raggedMessage) =
        some (Bytes.ofText "b c") ∧
      header (Bytes.ofText "b") (setHeader hostField (Bytes.ofText "b c") raggedMessage) =
        header (Bytes.ofText "b") raggedMessage ∧
      setHeader hostField [] raggedMessage = raggedMessage := by
  have hmessage : lf ∈ raggedMessage := by decide +kernel
  have hcolon : colon ∉ hostField := by decide +kernel
  have hlf : lf ∉ hostField := by decide +kernel
  have hvalue : IsValue (Bytes.ofText "b c") :=
    ⟨by decide +kernel, by decide +kernel, by decide +kernel, by decide +kernel, by decide +kernel⟩
  have hold : header hostField raggedMessage = some [] := by decide +kernel
  obtain ⟨hread, hother, -, hsame⟩ := setHeader_laws hmessage hcolon hlf hvalue
  exact ⟨hmessage, hcolon, hlf, hvalue, hold, hread, hother _ (by decide +kernel), hsame [] hold⟩

end HttpReplay.Http
