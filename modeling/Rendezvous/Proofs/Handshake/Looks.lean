import Rendezvous.Proofs.Handshake.Budget

/-! How many looks a search takes, whoever watches it: one for each whole wait in the budget and one
more. As long as that is a number of 32 bits, the counter of the looks tells their number. -/

namespace Rendezvous.Handshake

open Procedure

variable {σ : Type} {agents : Agents σ} {o : Options} {endpoint : String} {c : Correlation}

namespace Backoff

variable {b : Backoff}

/-- The shortest wait that is not cut to the budget, as long as the clock keeps it. -/
def pace (b : Backoff) : Nat := min (min b.initial.nanos b.cap.nanos) (1000000 * longestWait)

/-- How often the shortest wait fits into the budget, rounded up. -/
def rounds (b : Backoff) : Nat := (b.budget.nanos + b.pace - 1) / b.pace

theorem pace_pos (hinitial : 0 < b.initial.nanos) (hcap : 0 < b.cap.nanos) : 0 < b.pace := by
  unfold pace longestWait
  omega

theorem min_le_delay (b : Backoff) (attempt : Nat) :
    min b.initial.nanos b.cap.nanos ≤ (b.delay attempt).nanos := by
  have hinitial : b.initial.nanos ≤ b.initial.nanos * growth b.factor attempt :=
    Nat.le_mul_of_pos_right _ (growth_pos b.factor attempt)
  rw [nanos_delay]
  omega

theorem lt_rounds_iff (hpace : 0 < b.pace) {n : Nat} :
    n < b.rounds ↔ n * b.pace < b.budget.nanos := by
  rw [rounds, Nat.lt_iff_add_one_le, Nat.le_div_iff_mul_le hpace, Nat.succ_mul]
  omega

theorem le_ticksAfter (b : Backoff) (attempt elapsed : Nat) :
    min b.pace (b.budget.nanos - 1000000 * elapsed) ≤ 1000000 * b.ticksAfter attempt elapsed := by
  have hpace := b.min_le_delay attempt
  unfold pace ticksAfter
  omega

end Backoff

/-- Each look in vain uses up a whole wait, or the rest of the budget. -/
theorem Searched.count_le {start polls time finish : Nat} {xs : List Exchange}
    {ending : Ending Sighting} (h : Searched o endpoint c start polls time xs finish ending)
    (hpace : 0 < o.backoff.pace) (hstart : start ≤ time) (hpolls : polls ≤ o.backoff.rounds)
    (htime : min (polls * o.backoff.pace) o.backoff.budget.nanos ≤ 1000000 * (time - start)) :
    polls + xs.length ≤ o.backoff.rounds + 1 := by
  induction h with
  | refused call error => exact Nat.succ_le_succ hpolls
  | seen shows => exact Nat.succ_le_succ hpolls
  | spent misses late => exact Nat.succ_le_succ hpolls
  | @again polls x xs finish ending misses left rest ih =>
    have hdue : x.time ≤ x.due := Nat.le_add_right ..
    have helapsed : x.elapsed start = x.due - start := rfl
    have hroom : polls * o.backoff.pace < o.backoff.budget.nanos := by omega
    have hticks := o.backoff.le_ticksAfter (polls % UInt32.size) (x.elapsed start)
    have hmore := ih (by omega) ((Backoff.lt_rounds_iff hpace).mpr hroom)
      (by rw [Nat.succ_mul]; omega)
    rw [List.length_cons]
    omega

def Ending.polls? : Ending Sighting → Option UInt32
  | .done seen => some seen.polls
  | .failed (.noRequest _ _ polls _) => some polls
  | _ => none

theorem Searched.polls_eq {start polls time finish : Nat} {xs : List Exchange}
    {ending : Ending Sighting} (h : Searched o endpoint c start polls time xs finish ending)
    {reported : UInt32} (hr : ending.polls? = some reported) :
    reported = .ofNat (polls + xs.length) := by
  induction h with
  | @refused polls x f call error => cases f <;> cases hr
  | seen shows => exact (Option.some.inj hr).symm
  | spent misses late => exact (Option.some.inj hr).symm
  | @again polls x xs finish ending misses left rest ih =>
    rw [ih hr, List.length_cons, Nat.add_assoc, Nat.add_comm 1]

theorem ends_awaitRequest (hinitial : 0 < o.backoff.initial.nanos)
    (hcap : 0 < o.backoff.cap.nanos) (agents : Agents σ) (endpoint : String) (stock : Nat)
    (c : Correlation) (w : World σ) : Ends agents w (awaitRequest o endpoint stock c) := by
  change Ends agents w (look o endpoint c w.moment (looksWithin o.backoff stock) 0)
  rw [looksWithin_eq, ← bind_done (look ..)]
  apply ends_look hinitial hcap
  · intro seen v
    simp [Ends, run]
  · simp only [World.moment]
    omega

/-- A search ends, with no more looks than there are whole waits in the budget, rounded up, and one.
If that is a number of 32 bits, the counter always tells the looks: it is reported as their number,
and the wait behind each look is the one for as many looks as lie before it. -/
theorem search_looks_bounded (agents : Agents σ) (o : Options) (endpoint : String) (stock : Nat)
    (c : Correlation) (w : World σ) (hinitial : 0 < o.backoff.initial.nanos)
    (hcap : 0 < o.backoff.cap.nanos) :
    let r := (awaitRequest o endpoint stock c).run agents w
    let xs := transcript agents w.agents r.calls
    r.ending ≠ .endless ∧
      (∀ x ∈ xs, x.call = .listConnections o.aliasName) ∧
      xs.length ≤ o.backoff.rounds + 1 ∧
      (o.backoff.rounds + 1 < UInt32.size →
        (∀ polls, r.ending.polls? = some polls → polls.toNat = xs.length) ∧
        ∀ k x y, xs[k]? = some x → xs[k + 1]? = some y →
          y.time = x.due + o.backoff.ticksAfter k (x.elapsed w.now)) := by
  intro r xs
  generalize hquiet : (awaitRequest o endpoint stock c).run agents w.unwatched = q
  have hsearched := searched_awaitRequest agents o endpoint stock c w hinitial hcap
  simp only [hquiet] at hsearched
  -- A search that is watched makes the first looks of the one that is not.
  have hsub : xs <+: transcript agents w.agents q.calls := by
    have hcalls : r.calls <+: q.calls := hquiet ▸ calls_prefix_unwatched _ w
    have hxs : xs = (transcript agents w.agents q.calls).take r.calls.length := by
      rw [← transcript_take, ← List.prefix_iff_eq_take.mp hcalls]
    exact hxs ▸ List.take_prefix ..
  have hcount : xs.length ≤ o.backoff.rounds + 1 := by
    have hall := hsearched.count_le (Backoff.pace_pos hinitial hcap) (Nat.le_refl _)
      (Nat.zero_le _) (by omega)
    have := hsub.length_le
    omega
  refine ⟨ends_awaitRequest hinitial hcap agents endpoint stock c w,
    fun x hx => hsearched.call_eq x (hsub.subset hx), hcount,
    fun hfew => ⟨fun polls hpolls => ?_, fun k x y hx hy => ?_⟩⟩
  · have hsame : q = ⟨r.calls, r.ending, r.world.unwatched⟩ := by
      rw [← hquiet]
      refine run_unwatched _ w fun i hi => ?_
      rw [hi] at hpolls
      cases hpolls
    rw [hsame] at hsearched
    rw [hsearched.polls_eq hpolls, Nat.zero_add]
    exact UInt32.toNat_ofNat_of_lt' (Nat.lt_of_le_of_lt hcount hfew)
  · have hkeep : ∀ {i : Nat} {z : Exchange}, xs[i]? = some z →
        (transcript agents w.agents q.calls)[i]? = some z := by
      intro i z hz
      obtain ⟨hi, rfl⟩ := List.getElem?_eq_some_iff.mp hz
      exact List.prefix_iff_getElem?.mp hsub i hi
    have hk := (List.getElem?_eq_some_iff.mp hx).1
    have htime := hsearched.time_eq (hkeep hx) (hkeep hy)
    rwa [Nat.zero_add, Nat.mod_eq_of_lt (by omega)] at htime

/-- Two whole waits of ten milliseconds and a cut one fit into twenty-five, and all four looks are
taken. -/
theorem brief_search_takes_all_looks :
    0 < briefOptions.backoff.initial.nanos ∧ 0 < briefOptions.backoff.cap.nanos ∧
      briefOptions.backoff.rounds + 1 = 4 ∧ (vainSearch briefOptions).calls.length = 4 ∧
      (transcript (Agent.Script.agents fun _ => "") quietScript
        (vainSearch briefOptions).calls).length ≤ briefOptions.backoff.rounds + 1 := by
  have hinitial : 0 < briefOptions.backoff.initial.nanos := by decide
  have hcap : 0 < briefOptions.backoff.cap.nanos := by decide
  exact ⟨hinitial, hcap, by decide, by decide +kernel,
    (search_looks_bounded (Agent.Script.agents fun _ => "") briefOptions "" 1 ⟨⟨"inv-1"⟩, none⟩
      quietWorld hinitial hcap).2.2.1⟩

/-- Three waits of forty years, the last one cut, fit into a hundred, which makes four looks. As no
wait is longer than thirty years there are five. -/
theorem slow_search_takes_more_looks :
    let b := slowOptions.backoff
    let d := min b.initial.nanos b.cap.nanos
    0 < d ∧ (b.budget.nanos + d - 1) / d + 1 = 4 ∧ (vainSearch slowOptions).calls.length = 5 := by
  intro b d
  exact ⟨by decide, by decide, by decide +kernel⟩

end Rendezvous.Handshake
