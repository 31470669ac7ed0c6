import CloudVinyl.Lib.Varnishd

set_option relaxedAutoImplicit false
set_option autoImplicit false

/-!
# The attempts of a fetch

A fetch that ends in `return (retry)` is repeated from `vcl_backend_fetch` on, with one more in
`bereq.retries`, as long as the parameter `max_retries` allows. The backends of the attempts are
kept in a list.

Whether a backend answers, and what time it is, may be different in each attempt: the engine
decides by the state, of which the number of retries is a part.

## Main definitions

* `Vcl.attempts` — the backends that the attempts of a fetch go to.

## Main results

* `Vcl.attempts_bounded` — the rule for bounds on the attempts, by an invariant of the state.
-/

namespace Vcl

variable {B W : Type}

section Attempts

variable (V : Varnishd B W) (P : Program)

/-- The state with which the next attempt starts. -/
def State.retry (s : State B W) : State B W := { s with retries := s.retries + 1 }

/-- The outcome of `vcl_backend_fetch`. -/
def fetched (s : State B W) : Result B W := exec V.toEngine P.backendFetch s

/-- The backend that the attempt goes to. -/
def sentTo (s : State B W) : Option B :=
  match (fetched V P s).ret with
  | some .fetch => some (fetched V P s).state.backend
  | _ => none

/-- The subroutine that follows the attempt. -/
def followUp (s : State B W) : Code :=
  if V.answered (fetched V P s).state then P.backendResponse else P.backendError

/-- The outcome of the attempt. -/
def followed (s : State B W) : Result B W :=
  exec V.toEngine (followUp V P s) (fetched V P s).state

/-- The backends of the attempts, of which at most `n` are retries. -/
def attempts : ℕ → State B W → List B
  | 0, s => (sentTo V P s).toList
  | n + 1, s =>
    match sentTo V P s with
    | none => []
    | some b =>
      b :: if (followed V P s).ret = some .retry then attempts n (followed V P s).state.retry
        else []

end Attempts

section Bounded

variable {V : Varnishd B W} {P : Program} {I : State B W → Prop} {Q : B → Prop} {N : ℕ}
  (fetch : ∀ s, I s → I (fetched V P s).state ∧ (fetched V P s).state.retries = s.retries)
  (backend : ∀ s, I s → Q s.backend)
  (retry : ∀ c ∈ [P.backendResponse, P.backendError], ∀ s, I s →
    (exec V.toEngine c s).ret = some .retry →
      s.retries < N ∧ I (exec V.toEngine c s).state.retry ∧
      (exec V.toEngine c s).state.retries = s.retries)

include fetch backend retry

/-- **Bounds on the attempts.** If every attempt keeps the invariant and the number of retries, and
a retry is asked for only while the number is below `N`, then there are no more than `N` retries,
and what the invariant says about the backend holds of all attempts. -/
theorem attempts_bounded (n : ℕ) {s : State B W} (hs : I s) (hN : s.retries ≤ N) :
    (attempts V P n s).length + s.retries ≤ N + 1 ∧ ∀ b ∈ attempts V P n s, Q b := by
  have hfirst {s : State B W} (hs : I s) : ∀ b, sentTo V P s = some b → Q b := by
    intro b hb
    unfold sentTo at hb
    split at hb
    · exact Option.some.inj hb ▸ backend _ (fetch s hs).1
    · cases hb
  induction n generalizing s with
  | zero =>
    cases h : sentTo V P s with
    | none =>
      simp only [attempts, h, Option.toList_none, List.length_nil]
      exact ⟨by omega, by simp⟩
    | some b =>
      simp only [attempts, h, Option.toList_some, List.length_singleton, List.mem_singleton]
      exact ⟨by omega, fun b' hb' => hb' ▸ hfirst hs b h⟩
  | succ n ih =>
    cases h : sentTo V P s with
    | none =>
      simp only [attempts, h, List.length_nil]
      exact ⟨by omega, by simp⟩
    | some b =>
      obtain ⟨hI, hretries⟩ := fetch s hs
      have hmem : followUp V P s ∈ [P.backendResponse, P.backendError] := by
        unfold followUp
        split_ifs <;> simp
      simp only [attempts, h, List.length_cons, List.forall_mem_cons]
      split_ifs with hagain
      · obtain ⟨hlt, hnext, hsame⟩ := retry _ hmem _ hI hagain
        have hcount : (followed V P s).state.retry.retries = s.retries + 1 := by
          change (followed V P s).state.retries + 1 = s.retries + 1
          exact congrArg (· + 1) (hsame.trans hretries)
        have hnext : I (followed V P s).state.retry := hnext
        obtain ⟨hlen, hall⟩ := ih hnext (by omega)
        exact ⟨by omega, hfirst hs b h, hall⟩
      · exact ⟨by simp only [List.length_nil]; omega, hfirst hs b h, by simp⟩

end Bounded

end Vcl
