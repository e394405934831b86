import HttpReplay.Payload.Header
import HttpReplay.Proofs.Bytes.Cut
import HttpReplay.Proofs.Text.Numeral
import Mathlib.Data.List.Basic

/-!
What is written on the header line of a payload reads back.

The reader cuts the first line off, cuts it into tokens and reads each of them. That cuts and numerals
read back is known, so what is left is the line: a token comes out of it as it went in if it is neither
empty nor cut, and the only token that is not of this library's own making is the id: all that is asked
of it is `Header.IsId`.

Ids that were read satisfy that condition, so whatever is answered under the id of a request that
was read is read back under the same id. It follows that the condition is necessary, too: a header
with any other id may still read back, its fields shifted, but never as what was written
(`reads_back_iff`).
-/

set_option autoImplicit false

namespace HttpReplay

/-! ## Header lines -/

/-- A kind has one token. -/
theorem Payload.Kind.ofToken?_eq_some {token : Bytes} {kind : Payload.Kind}
    (h : Payload.Kind.ofToken? token = some kind) : token = [kind.token] := by
  unfold Payload.Kind.ofToken? at h
  split at h
  next => cases h; rfl
  next => cases h; rfl
  next => cases h; rfl
  next => cases h

namespace Payload.Header

open Bytes (space lf)

/-- An id that the header line can carry: one token of it. -/
structure IsId (id : Bytes) : Prop where
  ne_nil : id ≠ []
  no_space : space ∉ id
  no_lf : lf ∉ id

theorem number?_ofInt (n : Int64) : number? (Numeral.ofInt n.toInt) = some n := by
  rw [number?, Numeral.ofInt_eq,
    Utf8.decode?_ascii fun _ hc => (Numeral.toNat_of_mem_charsOf hc).2, Option.bind_some,
    Numeral.int64?_charsOf]

/-- The numerals of a header line are tokens too. -/
theorem isId_ofInt (n : Int) : IsId (Numeral.ofInt n) where
  ne_nil := Numeral.ofInt_ne_nil n
  no_space h := absurd (Numeral.mem_ofInt h) (by decide)
  no_lf h := absurd (Numeral.mem_ofInt h) (by decide)

/-- A line of tokens with a space between any two. -/
def lineOf (tokens : List Bytes) (last : Bytes) : Bytes :=
  tokens.flatMap (· ++ [space]) ++ last

theorem tokens_lineOf {tokens : List Bytes} {last : Bytes} (htokens : ∀ token ∈ tokens, IsId token)
    (hlast : IsId last) (message : Bytes) :
    Header.tokens (lineOf tokens last ++ lf :: message) = tokens ++ [last] := by
  have hlf : lf ∉ lineOf tokens last := by
    simp only [lineOf, List.mem_append, List.mem_flatMap, List.mem_singleton, not_or, not_exists,
      not_and]
    exact ⟨fun token htoken => ⟨(htokens token htoken).no_lf, by decide⟩, hlast.no_lf⟩
  have hpieces : Bytes.pieces space (lineOf tokens last) = tokens ++ [last] := by
    clear hlf
    induction tokens with
    | nil => exact Bytes.pieces_of_not_mem hlast.no_space
    | cons token tokens ih =>
      have hline : lineOf (token :: tokens) last = token ++ space :: lineOf tokens last := by
        simp [lineOf]
      rw [hline, Bytes.pieces_append (htokens token List.mem_cons_self).no_space,
        ih fun token htoken => htokens token (List.mem_cons_of_mem _ htoken), List.cons_append]
  rw [Header.tokens, Bytes.splitAtByte?_append hlf]
  dsimp only
  -- No piece is empty, so the reader passes none over.
  rw [hpieces, List.filter_eq_self.2]
  intro token htoken
  have hne : token ≠ [] := by
    obtain htoken | htoken := List.mem_append.1 htoken
    · exact (htokens token htoken).ne_nil
    · exact List.mem_singleton.1 htoken ▸ hlast.ne_nil
  simpa using hne

/-- **A header whose id is one token reads back** in front of any message. -/
theorem decode?_encode {h : Header} (hid : IsId h.id) (message : Bytes) :
    decode? (Payload.encode h message) = some h := by
  -- With a latency the line has four tokens, and without one three.
  have hkind : IsId [h.kind.token] := by
    cases h.kind <;> exact ⟨List.cons_ne_nil _ _, by decide, by decide⟩
  have hnumbers := number?_ofInt h.timestamp
  obtain ⟨kind, id, timestamp, latency⟩ := h
  cases latency with
  | none =>
    have hline : Payload.encode ⟨kind, id, timestamp, none⟩ message =
        lineOf [[kind.token], id] (Numeral.ofInt timestamp.toInt) ++ lf :: message := by
      simp [Payload.encode, encode, lineOf]
    rw [decode?, hline, tokens_lineOf (by simpa using ⟨hkind, hid⟩) (isId_ofInt _)]
    simp [ofTokens?, hnumbers]
  | some latency =>
    have hline : Payload.encode ⟨kind, id, timestamp, some latency⟩ message =
        lineOf [[kind.token], id, Numeral.ofInt timestamp.toInt] (Numeral.ofInt latency.toInt) ++
          lf :: message := by
      simp [Payload.encode, encode, lineOf]
    rw [decode?, hline,
      tokens_lineOf (by simpa using ⟨hkind, hid, isId_ofInt _⟩) (isId_ofInt _)]
    simp [ofTokens?, hnumbers, number?_ofInt]

/-- The tokens of a payload could all be ids. -/
theorem isId_of_mem_tokens {payload token : Bytes} (h : token ∈ Header.tokens payload) :
    IsId token := by
  unfold Header.tokens at h
  split at h
  next => cases h
  next line rest hcut =>
    obtain ⟨hpiece, hne⟩ := List.mem_filter.1 h
    obtain ⟨hspace, hline⟩ := Bytes.of_mem_pieces hpiece
    obtain ⟨-, -, -, hbefore⟩ := Bytes.splitWhere?_eq_some hcut
    refine ⟨by simpa using hne, hspace, fun hlf => ?_⟩
    exact absurd (hbefore lf (hline lf hlf)) (by simp)

/-- A header that was read begins with the token of its kind and its id. -/
theorem exists_of_ofTokens? {tokens : List Bytes} {h : Header} (hh : ofTokens? tokens = some h) :
    ∃ more, tokens = [h.kind.token] :: h.id :: more := by
  unfold ofTokens? at hh
  split at hh
  next kindToken id timestamp more =>
    simp only [Option.bind_eq_bind, Option.bind_eq_some_iff] at hh
    obtain ⟨kind, hkind, timestamp, -, hh⟩ := hh
    obtain rfl : kindToken = [kind.token] := Kind.ofToken?_eq_some hkind
    -- With or without a latency, the kind and the id are those of the first two tokens.
    split at hh
    next =>
      cases hh
      exact ⟨_, rfl⟩
    next =>
      obtain ⟨latency, -, hh⟩ := Option.bind_eq_some_iff.1 hh
      cases hh
      exact ⟨_, rfl⟩
  next => cases hh

/-- An id that was read is one token. -/
theorem isId_of_decode? {payload : Bytes} {h : Header} (hh : decode? payload = some h) :
    IsId h.id := by
  obtain ⟨more, htokens⟩ := exists_of_ofTokens? hh
  exact isId_of_mem_tokens (by rw [htokens]; simp)

end Payload.Header

namespace Payload

open Bytes (space lf)

/-- **The message of a payload is the one that was framed**, unless its id ends the line. -/
theorem message_encode {h : Header} (hid : lf ∉ h.id) (message : Bytes) :
    Payload.message (encode h message) = message := by
  obtain ⟨line, hline, hlf⟩ : ∃ line, h.encode = line ++ [lf] ∧ lf ∉ line := by
    have hnumber := fun n => (Header.isId_ofInt n).no_lf
    have hkind : lf ≠ h.kind.token := by cases h.kind <;> decide
    refine ⟨_, rfl, ?_⟩
    simp only [List.mem_append, List.mem_cons, List.not_mem_nil, or_false, not_or]
    refine ⟨⟨⟨⟨⟨hkind, by decide⟩, hid⟩, by decide⟩, hnumber _⟩, ?_⟩
    split
    · simpa using ⟨by decide, hnumber _⟩
    · exact List.not_mem_nil
  rw [Payload.message, encode, hline, List.append_assoc, List.singleton_append,
    Bytes.splitAtByte?_append hlf]

/-- An id that ends the line leaves the rest of the line to the message. -/
theorem length_message_encode {h : Header} (hid : lf ∈ h.id) (message : Bytes) :
    message.length < (Payload.message (encode h message)).length := by
  obtain ⟨before, after, hsplit, hbefore⟩ := List.eq_append_cons_of_mem hid
  obtain ⟨rest, hrest⟩ : ∃ rest, h.encode =
      ([h.kind.token, space] ++ before) ++ lf :: (after ++ space :: rest) := by
    rw [Header.encode, hsplit]
    simp
  have hlf : lf ∉ [h.kind.token, space] ++ before := by
    have hkind : lf ≠ h.kind.token := by cases h.kind <;> decide
    have hspace : lf ≠ space := by decide
    simp [hkind, hspace, hbefore]
  -- What comes before the first line feed is the line now.
  generalize [h.kind.token, space] ++ before = line at hrest hlf
  have hmessage : Payload.message (encode h message) = after ++ space :: (rest ++ message) := by
    rw [Payload.message, encode, hrest, List.append_assoc, List.cons_append,
      Bytes.splitAtByte?_append hlf]
    simp
  rw [hmessage]
  simp only [List.length_append, List.length_cons]
  omega

theorem message_encode_iff {h : Header} {message : Bytes} :
    Payload.message (encode h message) = message ↔ lf ∉ h.id := by
  refine ⟨fun hsame hid => ?_, fun hid => message_encode hid message⟩
  have hlonger := length_message_encode hid message
  rw [hsame] at hlonger
  exact Nat.lt_irrefl _ hlonger

/-- The first two bytes of a payload tell whether it is a request. -/
theorem isRequest_encode {h : Header} {message : Bytes} :
    isRequest (encode h message) = true ↔ h.kind = .request := by
  cases hkind : h.kind <;> simp [isRequest, encode, Header.encode, hkind, Kind.token, Bytes.strip?]

/-- **What a header line gives back**, whatever its id: the header exactly if the id is not empty
and holds neither a space nor a line feed, the message exactly if the id holds no line feed, and in
any case whether the payload is a request. -/
theorem reads_back_iff (h : Header) (message : Bytes) :
    (Header.decode? (encode h message) = some h ↔ h.id ≠ [] ∧ space ∉ h.id ∧ lf ∉ h.id) ∧
      (Payload.message (encode h message) = message ↔ lf ∉ h.id) ∧
      (isRequest (encode h message) = true ↔ h.kind = .request) := by
  refine ⟨⟨fun hdecode => ?_, fun ⟨hne, hspace, hlf⟩ => ?_⟩, message_encode_iff, isRequest_encode⟩
  · have hid := Header.isId_of_decode? hdecode
    exact ⟨hid.ne_nil, hid.no_space, hid.no_lf⟩
  · exact Header.decode?_encode ⟨hne, hspace, hlf⟩ message

/-- An id with a space in it reads back as another header: its second part is taken for the time. -/
example : Header.decode? (encode ⟨.request, [0x61, 0x20, 0x37], 5, none⟩ []) =
    some ⟨.request, [0x61], 7, some 5⟩ := by decide +kernel

end Payload
end HttpReplay
