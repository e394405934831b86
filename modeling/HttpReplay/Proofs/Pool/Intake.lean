import HttpReplay.Proofs.Payload.RoundTrip
import HttpReplay.Proofs.Pool.Delivery
import HttpReplay.Proofs.Pool.Progress

/-!
What a pool takes in.

Whether a payload is a request is asked twice. A pool looks at the first two bytes when the payload is
written to it, and everybody else reads the header line, whose reader passes over spaces where it expects
none. The two answers are compared by what comes first. A payload that begins with no space begins with its
first token, and where a header was read that is the token of the kind with a space behind it
(`Header.eq_append_of_decode?`). Where a payload begins with a space, its first byte is no token.

So the quick look errs in one direction only. It takes no response for a request, and nothing else than
spaces in front makes it overlook one (`intake_of_decoded`).
-/

set_option autoImplicit false

namespace HttpReplay

/-! ## The beginning of a payload -/

namespace Payload

open Bytes (space lf)

variable {payload : Bytes} {h : Header}

namespace Header

/-- Where a line begins with no space its first token stands at the beginning, and a space behind it if
there are more. -/
theorem eq_append_of_tokens {first second : Bytes} {more : List Bytes}
    (htokens : tokens payload = first :: second :: more) (hfirst : payload.head? ≠ some space) :
    ∃ rest, payload = first ++ space :: rest := by
  unfold tokens at htokens
  split at htokens
  next => cases htokens
  next line rest hcut =>
    obtain ⟨rfl, -⟩ := Bytes.splitAtByte?_eq_some_iff.1 hcut
    by_cases hspace : space ∈ line
    · obtain ⟨start, others, rfl, hstart⟩ := List.eq_append_cons_of_mem hspace
      have hne : start ≠ [] := by
        rintro rfl
        exact hfirst rfl
      rw [Bytes.pieces_append hstart, List.filter_cons_of_pos (by simpa using hne)] at htokens
      obtain ⟨rfl, -⟩ := List.cons.inj htokens
      exact ⟨others ++ lf :: rest, by simp⟩
    · -- Without a space the line is one piece.
      have hlength := congrArg List.length htokens
      have hle := List.length_filter_le (!·.isEmpty) [line]
      rw [Bytes.pieces_of_not_mem hspace] at hlength
      simp only [List.length_cons, List.length_nil] at hlength hle
      omega

/-- **A payload that was read begins with the token of its kind and a space**, unless it begins with a
space. -/
theorem eq_append_of_decode? (hdecode : decode? payload = some h)
    (hfirst : payload.head? ≠ some space) : ∃ rest, payload = h.kind.token :: space :: rest := by
  obtain ⟨more, htokens⟩ := exists_of_ofTokens? hdecode
  exact eq_append_of_tokens htokens hfirst

end Header

/-- The two bytes that a request is known by. -/
theorem isRequest_eq_true_iff :
    isRequest payload = true ↔ ∃ rest, payload = Kind.request.token :: space :: rest := by
  rw [isRequest, Option.isSome_iff_exists]
  exact exists_congr fun rest => Bytes.strip?_eq_some

/-- **A payload that was read is known for a request** exactly if it is one and begins with no space. -/
theorem isRequest_iff_of_decode? (hdecode : Header.decode? payload = some h) :
    isRequest payload = true ↔ h.kind = .request ∧ payload.head? ≠ some space := by
  constructor
  · intro hrequest
    obtain ⟨rest, rfl⟩ := isRequest_eq_true_iff.1 hrequest
    have hfirst : (Kind.request.token :: space :: rest).head? ≠ some space :=
      fun h => absurd (Option.some.inj h) (by decide)
    obtain ⟨rest', hsame⟩ := Header.eq_append_of_decode? hdecode hfirst
    have htoken : Kind.request.token = h.kind.token := (List.cons.inj hsame).1
    refine ⟨?_, hfirst⟩
    -- No two kinds share a token.
    cases hkind : h.kind with
    | request => rfl
    | originResponse | replayedResponse =>
      rw [hkind] at htoken
      exact absurd htoken (by decide)
  · rintro ⟨hkind, hfirst⟩
    obtain ⟨rest, hparts⟩ := Header.eq_append_of_decode? hdecode hfirst
    rw [hkind] at hparts
    exact isRequest_eq_true_iff.2 ⟨rest, hparts⟩

end Payload

/-! ## The pool -/

namespace Pool

open Payload (Header)
open Bytes (space)

variable {s : Settings} {p : Pool} {payload : Bytes} {h : Header}

/-- A pool that can be written to passes over what it does not know for a request, and nothing else. -/
theorem write_eq_self_iff (hopen : p.isOpen = true) (hheld : p.shared.held = true) :
    p.write s payload = some p ↔ Payload.isRequest payload = false := by
  refine ⟨fun hself => ?_, write_eq_self hopen hheld⟩
  by_contra hrequest
  rw [Bool.not_eq_false] at hrequest
  rw [write, if_neg (by simp [hopen, hheld]), if_pos hrequest] at hself
  split at hself
  next =>
    -- The queue would be as long as before.
    have hqueue := congrArg (fun p => p.shared.queue.length) (Option.some.inj hself)
    simp [Shared.noting] at hqueue
  next => cases hself

/-- **What a pool makes of a payload whose header reads back.** It knows the payload for a request exactly
if it is one and begins with no space. Every other payload it passes over, requests behind a space among
them, and what it has taken in was a request in every case. -/
theorem intake_of_decoded (hdecode : Header.decode? payload = some h) :
    (Payload.isRequest payload = true ↔ h.kind = .request ∧ payload.head? ≠ some space) ∧
      (∀ (s : Settings) (p : Pool), p.isOpen = true → p.shared.held = true →
        (p.write s payload = some p ↔ h.kind ≠ .request ∨ payload.head? = some space)) ∧
      ∀ (s : Settings) (target : Target) (p : Pool), Reachable s target p →
        payload ∈ p.shared.books.accepted → h.kind = .request := by
  have hiff := Payload.isRequest_iff_of_decode? hdecode
  refine ⟨hiff, fun s p hopen hheld => ?_, fun s target p hreachable haccepted => ?_⟩
  · rw [write_eq_self_iff hopen hheld, ← Bool.not_eq_true, hiff, not_and_or, not_not]
  · exact (hiff.1 (hreachable.isRequest_of_accepted payload haccepted)).1

/-- A captured request behind a space. -/
def indented : Bytes := Bytes.ofText " 1 a 5\nGET / HTTP/1.1\r\n\r\n"

/-- **Requests are overlooked.** It is not so that every payload that is read as a request is known for
one. -/
theorem request_overlooked :
    ¬ ∀ (payload : Bytes) (h : Header), Header.decode? payload = some h →
      (Payload.isRequest payload = true ↔ h.kind = .request) := by
  intro hclaim
  have hdecode : Header.decode? indented = some ⟨.request, Bytes.ofText "a", 5, none⟩ := by
    decide +kernel
  have hno : Payload.isRequest indented = false := by decide +kernel
  rw [(hclaim indented _ hdecode).2 rfl] at hno
  cases hno

/-- The request behind a space could be replayed, and a pool passes it over. Without the space it is
taken in. -/
theorem intake_of_decoded_indented :
    Header.decode? indented = some ⟨.request, Bytes.ofText "a", 5, none⟩ ∧
      isServable indented = true ∧ Payload.isRequest indented = false ∧
      (opened {} (.onHost .http "site" none)).write {} indented =
        some (opened {} (.onHost .http "site" none)) ∧
      Header.decode? indented.tail = some ⟨.request, Bytes.ofText "a", 5, none⟩ ∧
      Payload.isRequest indented.tail = true := by
  have hdecode : Header.decode? indented = some ⟨.request, Bytes.ofText "a", 5, none⟩ := by
    decide +kernel
  have hdecode' : Header.decode? indented.tail = some ⟨.request, Bytes.ofText "a", 5, none⟩ := by
    decide +kernel
  have hspace : indented.head? = some space := by decide +kernel
  have hnone : indented.tail.head? ≠ some space := by decide +kernel
  obtain ⟨hknown, hpassed, -⟩ := intake_of_decoded hdecode
  have hno : Payload.isRequest indented = false := by
    rw [← Bool.not_eq_true, hknown]
    exact fun hboth => hboth.2 hspace
  exact ⟨hdecode, by decide +kernel, hno, (hpassed _ _ rfl rfl).2 (.inr hspace), hdecode',
    (intake_of_decoded hdecode').1.2 ⟨rfl, hnone⟩⟩

end Pool
end HttpReplay
