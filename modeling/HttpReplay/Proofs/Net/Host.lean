import HttpReplay.Net.Host
import HttpReplay.Proofs.Text.Percent
import HttpReplay.Proofs.Unicode.Blank

/-!
No host has white space in it.

A text with white space outside brackets names no host (`parse_of_isBlank`), whatever else is in it.
It does not help to write the white space so that it is decoded into something else: decoding keeps
it (`Text.mem_of_decode?`), and the form of a name has a space or a control in its place
(`Unicode.exists_of_nameForm?`), which is in one of the labels then. Such a character is forbidden in
a label of ASCII and in every other one, and Punycode has no digit for it and does not lose it.
-/

set_option autoImplicit false

namespace HttpReplay

open Unicode (IsLow)

/-- Nothing but separators is lost where a text is cut. -/
theorem Text.exists_mem_parts {α : Type} {p : α → Bool} {cs : List α} {c : α}
    (hc : p c = false) (hmem : c ∈ cs) : ∃ part ∈ parts p cs, c ∈ part := by
  induction cs with
  | nil => cases hmem
  | cons d rest ih =>
    rw [parts]
    split
    next hd =>
      rcases List.mem_cons.1 hmem with rfl | hmem
      · rw [hc] at hd
        cases hd
      · obtain ⟨part, hpart, hin⟩ := ih hmem
        exact ⟨part, List.mem_cons_of_mem _ hpart, hin⟩
    next hd =>
      split
      next hnil => exact absurd hnil (parts_ne_nil p rest)
      next first more heq =>
        rcases List.mem_cons.1 hmem with rfl | hmem
        · exact ⟨c :: first, List.mem_cons_self, List.mem_cons_self⟩
        · obtain ⟨part, hpart, hin⟩ := ih hmem
          rw [heq] at hpart
          rcases List.mem_cons.1 hpart with rfl | hpart
          · exact ⟨d :: part, List.mem_cons_self, List.mem_cons_of_mem d hin⟩
          · exact ⟨part, List.mem_cons_of_mem _ hpart, hin⟩

namespace Net

variable {c : Char}

/-! ## Punycode -/

namespace Punycode

theorem digit?_of_isLow (hc : IsLow c) : digit? c = none := by
  have hbelow {first : Char} (hfirst : 0x20 < first.toNat) : ¬ first ≤ c :=
    fun hle => Nat.not_lt.2 hc (Nat.lt_of_lt_of_le hfirst hle)
  rw [digit?, if_neg fun h => hbelow (by decide) h.1, if_neg fun h => hbelow (by decide) h.1,
    if_neg fun h => hbelow (by decide) h.1]

/-- A numeral ends in front of every space and control. -/
theorem mem_of_readNumeral (hc : IsLow c) {bias k weight acc n : Nat} {cs rest : List Char}
    (hmem : c ∈ cs) (h : readNumeral bias k weight acc cs = some (n, rest)) : c ∈ rest := by
  induction cs generalizing k weight acc with
  | nil => cases hmem
  | cons d tail ih =>
    simp only [readNumeral, Option.bind_eq_some_iff] at h
    obtain ⟨value, hvalue, h⟩ := h
    have htail : c ∈ tail := by
      rcases List.mem_cons.1 hmem with rfl | hmem
      · rw [digit?_of_isLow hc] at hvalue
        cases hvalue
      · exact hmem
    split at h
    next => cases h
    next =>
      split at h
      next =>
        obtain ⟨-, rfl⟩ := Prod.mk.inj (Option.some.inj h)
        exact htail
      next =>
        split at h
        next => cases h
        next => exact ih htail h

/-- What is inserted is written without spaces and controls, and nothing is taken out for it. -/
theorem insertRead_spec {bias code place : Nat} {isFirst : Bool} {text cs whole : List Char}
    (h : insertRead bias code place isFirst text cs = some whole) :
    (∀ c ∈ cs, ¬ IsLow c) ∧ ∀ c ∈ text, c ∈ whole := by
  -- A numeral takes at least one character, so the induction is on the length.
  induction hlength : cs.length using Nat.strongRecOn
    generalizing bias code place isFirst text cs with
  | ind length ih =>
    cases cs with
    | nil =>
      rw [insertRead] at h
      obtain rfl := Option.some.inj h
      exact ⟨fun c hc => absurd hc List.not_mem_nil, fun c hc => hc⟩
    | cons d tail =>
      rw [insertRead] at h
      split at h
      next => cases h
      next n left hread =>
        dsimp only at h
        split at h
        next =>
          have hshorter := length_readNumeral _ _ _ _ _ _ _ hread
          obtain ⟨hlow, hkept⟩ := ih left.length (hlength ▸ hshorter) h rfl
          refine ⟨fun c hmem hc => hlow c (mem_of_readNumeral hc hmem hread) hc, fun c hmem => ?_⟩
          have hplace : (place + n) % (text.length + 1) ≤ text.length :=
            Nat.le_of_lt_succ (Nat.mod_lt _ (Nat.succ_pos _))
          exact hkept c ((List.mem_insertIdx hplace).2 (.inr hmem))
        next => cases h

/-- Only a hyphen is lost at the last hyphen. -/
theorem mem_lastHyphen {cs : List Char} (hmem : c ∈ cs) (hother : c ≠ '-') :
    c ∈ (lastHyphen cs).1 ∨ c ∈ (lastHyphen cs).2 := by
  rw [lastHyphen]
  split
  next => exact .inr hmem
  next =>
    have hsplit := List.takeWhile_append_dropWhile (p := (· != '-')) (l := cs.reverse)
    have hreverse := List.mem_reverse.2 hmem
    rw [← hsplit, List.mem_append] at hreverse
    rcases hreverse with htail | hfront
    · exact .inr (List.mem_reverse.2 htail)
    · left
      rw [List.mem_reverse]
      cases hrest : cs.reverse.dropWhile (· != '-') with
      | nil =>
        rw [hrest] at hfront
        cases hfront
      | cons hyphen front =>
        have hhyphen := List.head?_dropWhile_not (· != '-') cs.reverse
        rw [hrest] at hfront hsplit hhyphen
        rcases List.mem_cons.1 hfront with rfl | hfront
        · exact absurd (by simpa using hhyphen) hother
        · generalize cs.reverse.takeWhile (· != '-') = tail at hsplit ⊢
          rw [← hsplit, ← List.drop_drop, List.drop_left]
          exact hfront

/-- Nothing low gets lost or hidden where Punycode is read. -/
theorem mem_of_decode? (hc : IsLow c) {written text : List Char} (hmem : c ∈ written)
    (h : decode? written = some text) : c ∈ text := by
  rw [decode?] at h
  dsimp only at h
  split at h
  next =>
    obtain ⟨hlow, hkept⟩ := insertRead_spec h
    have hother : c ≠ '-' := by
      rintro rfl
      exact absurd hc (by decide)
    rcases mem_lastHyphen hmem hother with hascii | hnumbers
    · exact hkept c hascii
    · exact absurd hc (hlow c hnumbers)
  next => cases h

end Punycode

/-! ## Names -/

namespace DomainName

theorem isForbidden_of_isLow (hc : IsLow c) : isForbidden c = true := by
  have hlow : decide (c.toNat ≤ 0x20) = true := decide_eq_true hc
  rw [isForbidden, hlow, Bool.true_or, Bool.true_or]

theorem isWellFormed_of_isLow (hc : IsLow c) {label : List Char} (hmem : c ∈ label) :
    isWellFormed label = false := by
  have hany : label.any isForbidden = true := List.any_eq_true.2 ⟨c, hmem, isForbidden_of_isLow hc⟩
  rw [isWellFormed, hany, Bool.not_true, Bool.and_false]

theorem Label.read?_of_isLow (hc : IsLow c) {spelled : List Char} (hmem : c ∈ spelled) :
    read? spelled = none := by
  unfold read?
  split
  next hascii =>
    split
    next hmarker =>
      -- What Punycode spells has it too, and is not well formed then.
      have hwritten : c ∈ spelled.drop marker.length := by
        obtain ⟨written, rfl⟩ := List.isPrefixOf_iff_prefix.1 hmarker
        rcases List.mem_append.1 hmem with hmem | hmem
        · have hvisible : marker.all (0x20 < ·.toNat) = true := by decide
          exact absurd (of_decide_eq_true (List.all_eq_true.1 hvisible c hmem)) (Nat.not_lt.2 hc)
        · rwa [List.drop_left]
      cases hdecode : Punycode.decode? (spelled.drop marker.length) with
      | none => simp [hdecode]
      | some text =>
        have hbad := isWellFormed_of_isLow hc (Punycode.mem_of_decode? hc hwritten hdecode)
        simp [hdecode, hbad]
    next =>
      have hany : spelled.any isForbidden = true :=
        List.any_eq_true.2 ⟨c, hmem, isForbidden_of_isLow hc⟩
      rw [if_pos hany]
  next => simp [isWellFormed_of_isLow hc hmem]

/-- **No domain name has white space in it.** -/
theorem toAscii?_of_isBlank (hc : Text.isBlank c = true) {name : List Char} (hmem : c ∈ name) :
    toAscii? name = none := by
  unfold toAscii?
  cases hform : Unicode.nameForm? name with
  | none => rfl
  | some form =>
    obtain ⟨d, hd, hlow⟩ := Unicode.exists_of_nameForm? hc hmem hform
    have hdot : (d == '.') = false := by
      rw [beq_eq_false_iff_ne]
      rintro rfl
      exact absurd hlow (by decide)
    obtain ⟨part, hpart, hin⟩ := Text.exists_mem_parts (p := (· == '.')) hdot hd
    cases hlabels : (Text.parts (· == '.') form).mapM Label.read? with
    | none => simp [hlabels]
    | some labels =>
      obtain ⟨label, -, hread⟩ := Unicode.exists_of_mapM hlabels hpart
      rw [Label.read?_of_isLow hlow hin] at hread
      cases hread

end DomainName

/-! ## Hosts -/

/-- **No host has white space in it**, except perhaps in brackets. -/
theorem Host.parse_of_isBlank (hc : Text.isBlank c = true) (text : String)
    (hmem : c ∈ text.toList)
    (hbrackets : text.toList.head? = some '[' → text.toList.getLast? ≠ some ']') :
    ∃ why, parse text = .error why := by
  unfold parse
  split
  next hfirst =>
    exact ⟨.ipv6, if_pos (bne_iff_ne.2 (hbrackets hfirst))⟩
  next =>
    have hnone : (Utf8.decode? (Text.percentDecode (Bytes.ofText text))).bind
        DomainName.toAscii? = none := by
      cases hdecode : Utf8.decode? (Text.percentDecode (Bytes.ofText text)) with
      | none => rfl
      | some name => exact DomainName.toAscii?_of_isBlank hc (Text.mem_of_decode? hc hmem hdecode)
    rw [hnone]
    exact ⟨.domainName, rfl⟩

end Net
end HttpReplay
