import Rendezvous.Proofs.Handshake.Looks

/-! How long a search waits between two looks. The waits of a policy grow, and a search makes them
one after the other, none of them longer than thirty years. One that is cut to the rest of the
budget is the last. -/

namespace Rendezvous.Handshake

open Procedure

variable {σ α : Type} {agents : Agents σ} {w w' : World σ}

/-! ### The waits of a policy -/

namespace Backoff

variable {b b' : Backoff} {attempt attempt' : Nat} {waited waited' d d' : Span}

/-- Of the numbers that make up a wait none is greater than that of another policy. -/
structure AtMost (b b' : Backoff) : Prop where
  initial : b.initial.nanos ≤ b'.initial.nanos
  cap : b.cap.nanos ≤ b'.cap.nanos
  factor : b.factor.toNat ≤ b'.factor.toNat

theorem AtMost.refl (b : Backoff) : b.AtMost b :=
  ⟨Nat.le_refl _, Nat.le_refl _, Nat.le_refl _⟩

theorem growth_le_growth {f f' : UInt32} (hfactor : f.toNat ≤ f'.toNat)
    (hattempt : attempt ≤ attempt') : growth f attempt ≤ growth f' attempt' := by
  have hpow : (max f.toNat 1).pow attempt ≤ (max f'.toNat 1).pow attempt' :=
    calc (max f.toNat 1).pow attempt
      _ ≤ (max f'.toNat 1).pow attempt := Nat.pow_le_pow_left (by omega) _
      _ ≤ (max f'.toNat 1).pow attempt' := Nat.pow_le_pow_right (by omega) hattempt
  rw [growth_eq, growth_eq]
  omega

theorem delay_le_delay (h : b.AtMost b') (hattempt : attempt ≤ attempt') :
    (b.delay attempt).nanos ≤ (b'.delay attempt').nanos := by
  have hproduct := Nat.mul_le_mul h.initial (growth_le_growth h.factor hattempt)
  have hcap := h.cap
  rw [nanos_delay, nanos_delay]
  omega

theorem delay_le_cap (b : Backoff) (attempt : Nat) : (b.delay attempt).nanos ≤ b.cap.nanos := by
  rw [nanos_delay]
  exact Nat.min_le_right ..

theorem growth_zero (attempt : Nat) : growth 0 attempt = growth 1 attempt := by
  simp [growth]

theorem delay_zero_factor (b : Backoff) (attempt : Nat) :
    { b with factor := 0 : Backoff }.delay attempt =
      { b with factor := 1 : Backoff }.delay attempt := by
  unfold delay
  dsimp only
  rw [growth_zero]

theorem add_nanos_next?_le (h : b.next? attempt waited = some d) :
    waited.nanos + d.nanos ≤ b.budget.nanos := by
  have hlt := lt_of_next? h
  have hnanos := nanos_next? h
  omega

theorem nanos_next?_le (h : b.next? attempt waited = some d) :
    d.nanos ≤ (b.delay attempt).nanos := by
  rw [nanos_next? h]
  exact Nat.min_le_left ..

/-- The more of the budget is used up, the shorter is the next wait. -/
theorem exists_next?_of_le (hle : waited.nanos ≤ waited'.nanos)
    (h : b.next? attempt waited' = some d') :
    ∃ d, b.next? attempt waited = some d ∧ d'.nanos ≤ d.nanos := by
  have hlt := lt_of_next? h
  obtain ⟨d, hd, -⟩ := next?_eq_some (b := b) attempt (Nat.lt_of_le_of_lt hle hlt)
  have hnanos := nanos_next? hd
  have hnanos' := nanos_next? h
  exact ⟨d, hd, by omega⟩

/-- A wait is shorter than the policy has it: it is cut to the rest of the budget. -/
def Cuts (b : Backoff) (attempt : Nat) (d : Span) : Prop := d.nanos < (b.delay attempt).nanos

/-- A wait that is cut lasts until the budget is used up. -/
theorem Cuts.nanos_eq (hcuts : b.Cuts attempt d) (h : b.next? attempt waited = some d) :
    waited.nanos + d.nanos = b.budget.nanos := by
  have hlt := lt_of_next? h
  have hnanos := nanos_next? h
  unfold Cuts at hcuts
  omega

/-- What is true of all waits of a policy. -/
structure Regular (b : Backoff) : Prop where
  /-- Waits do not get shorter when the attempt or a number of the policy grows. -/
  grows : ∀ b' attempt attempt', b.AtMost b' → attempt ≤ attempt' →
    (b.delay attempt).nanos ≤ (b'.delay attempt').nanos
  within : ∀ attempt, min b.initial.nanos b.cap.nanos ≤ (b.delay attempt).nanos ∧
    (b.delay attempt).nanos ≤ b.cap.nanos
  zeroFactor : ∀ attempt, { b with factor := 0 : Backoff }.delay attempt =
    { b with factor := 1 : Backoff }.delay attempt
  spent : ∀ attempt waited, b.next? attempt waited = none ↔ b.budget.nanos ≤ waited.nanos
  shrinks : ∀ attempt waited waited' d', waited.nanos ≤ waited'.nanos →
    b.next? attempt waited' = some d' →
    ∃ d, b.next? attempt waited = some d ∧ d'.nanos ≤ d.nanos
  room : ∀ attempt waited d, b.next? attempt waited = some d →
    waited.nanos + d.nanos ≤ b.budget.nanos
  idle : ∀ attempt waited d, b.next? attempt waited = some d → d.nanos = 0 →
    b.initial.nanos = 0 ∨ b.cap.nanos = 0

theorem regular (b : Backoff) : b.Regular where
  grows := fun _ _ _ => delay_le_delay
  within := fun attempt => ⟨b.min_le_delay attempt, b.delay_le_cap attempt⟩
  zeroFactor := b.delay_zero_factor
  spent := fun _ _ => next?_eq_none_iff
  shrinks := fun _ _ _ _ => exists_next?_of_le
  room := fun _ _ _ => add_nanos_next?_le
  idle := fun _ _ _ h => (nanos_next?_eq_zero_iff h).mp

end Backoff

/-! ### The waits of a performance -/

namespace Procedure

/-- The pauses that a performance makes, in their order. One that is cut short is among them. -/
def pauses (agents : Agents σ) : Procedure α → World σ → List Span
  | .done _, _ | .fail _, _ | .stall, _ => []
  | .now k, w => (k w.moment).pauses agents w
  | .reach m k, w =>
    match w.progress.advance m w.stamp with
    | .ok p => (k p).pauses agents { w with progress := p }
    | .error _ => []
  | .pause d k, w =>
    match w.wait (ticksOf d) with
    | (some _, _) => [d]
    | (none, w') => d :: k.pauses agents w'
  | .ask c k, w =>
    match w.called agents c with
    | (some _, _) => []
    | (none, w') =>
      match (agents.ask c w.agents).1.answer with
      | .error _ => []
      | .ok a => (k a).pauses agents w'

variable {c : Agent.Call} {k : c.Answer → Procedure α}

theorem pauses_ask_cut {i : Interruption} (called : w.called agents c = (some i, w')) :
    (ask c k).pauses agents w = [] := by
  simp only [pauses, called]

theorem pauses_ask_failed {f : Agent.Fault} (called : w.called agents c = (none, w'))
    (error : (agents.ask c w.agents).1.answer = .error f) : (ask c k).pauses agents w = [] := by
  simp only [pauses, called, error]

theorem pauses_ask_answered {a : c.Answer} (called : w.called agents c = (none, w'))
    (ok : (agents.ask c w.agents).1.answer = .ok a) :
    (ask c k).pauses agents w = (k a).pauses agents w' := by
  simp only [pauses, called, ok]

end Procedure

/-! ### The waits of a search -/

/-- The looks of a search that began at `start`, from the one behind `polls` earlier looks on, and
the pauses between them. The looks are counted in 32 bits. -/
inductive Paced (b : Backoff) (start : Nat) : (polls : Nat) → List Exchange → List Span → Prop
  | stalled {polls} : Paced b start polls [] []
  | ended {polls x} : Paced b start polls [x] []
  | again {polls x xs d ds} (since : start ≤ x.time)
      (next : b.next? (polls % UInt32.size) (.saturate (1000000 * x.elapsed start)) = some d)
      (time : ∀ y ∈ xs.head?, y.time = x.due + ticksOf d)
      (rest : Paced b start (polls + 1) xs ds) : Paced b start polls (x :: xs) (d :: ds)

section Look

variable {o : Options} {endpoint : String} {c : Correlation} {since : Moment}

theorem time_of_ask {call : Agent.Call} {k : call.Answer → Procedure α} {x : Exchange}
    (hx : x ∈ (transcript agents w.agents ((ask call k).run agents w).calls).head?) :
    x.time = w.now := by
  obtain ⟨later, hlater⟩ := run_ask_calls agents w call k
  rw [← hlater] at hx
  cases hx
  rfl

/-- A look is taken at once. -/
theorem time_of_look {looks : Nat} {polls : UInt32} {x : Exchange}
    (hx : x ∈ (transcript agents w.agents
      ((look o endpoint c since looks polls).run agents w).calls).head?) : x.time = w.now := by
  cases looks with
  | zero => cases hx
  | succ looks =>
    rw [← bind_done (look ..), bind_look_succ] at hx
    exact time_of_ask hx

theorem paced_look (looks polls : Nat) (w : World σ) (hsince : since.tick ≤ w.now) :
    Paced o.backoff since.tick polls
      (transcript agents w.agents ((look o endpoint c since looks (.ofNat polls)).run agents w).calls)
      ((look o endpoint c since looks (.ofNat polls)).pauses agents w) := by
  induction looks generalizing polls w with
  | zero => exact .stalled
  | succ looks ih =>
    rw [← bind_done (look o endpoint c since (looks + 1) (.ofNat polls)), bind_look_succ,
      ← UInt32.ofNat_one, ← UInt32.ofNat_add, UInt32.toNat_ofNat']
    simp only [bind_done]
    rcases hcalled : w.called agents (.listConnections o.aliasName) with ⟨i | i, w'⟩
    · cases ha : (agents.ask (.listConnections o.aliasName) w.agents).1.answer with
      | error f =>
        rw [run_ask_failed _ hcalled ha, pauses_ask_failed hcalled ha]
        exact .ended
      | ok listed =>
        have hafter := World.after_of_called hcalled
        have hnow := hafter.late rfl
        rw [run_ask_answered _ hcalled ha, pauses_ask_answered hcalled ha]
        simp only [transcript]
        rw [← hafter.agents]
        cases hselect : c.select o.matching o.targetState listed with
        | some record => exact .ended
        | none =>
          simp only [run, pauses]
          cases hd : o.backoff.next? (polls % UInt32.size) (elapsed since w'.moment) with
          | none => exact .ended
          | some d =>
            simp only [run, pauses]
            have hnext : o.backoff.next? (polls % UInt32.size) (.saturate (1000000 * (w.now +
                (agents.ask (.listConnections o.aliasName) w.agents).1.latency - since.tick))) =
                some d := by
              rw [← hnow]
              exact hd
            have hw := w'.waits (ticksOf d)
            generalize w'.wait (ticksOf d) = r at hw ⊢
            cases hw with
            | cut g i t watched interrupts =>
              exact .again hsince hnext (fun y hy => by cases hy) .stalled
            | whole quiet =>
              have hlater : since.tick ≤ w'.now + ticksOf d := by omega
              refine .again hsince hnext (fun y hy => ?_)
                (ih (polls + 1) { w' with now := w'.now + ticksOf d } hlater)
              rw [time_of_look (w := { w' with now := w'.now + ticksOf d }) hy, Exchange.due]
              exact congrArg (· + ticksOf d) hnow
    · rw [run_ask_cut _ hcalled, pauses_ask_cut hcalled]
      exact .ended

end Look

namespace Paced

variable {b : Backoff} {start polls k : Nat} {x y : Exchange} {xs : List Exchange}
  {d d' : Span} {ds : List Span}

theorem next (h : Paced b start polls xs ds) (hd : ds[k]? = some d) :
    ∃ x, xs[k]? = some x ∧
      b.next? ((polls + k) % UInt32.size) (.saturate (1000000 * x.elapsed start)) = some d := by
  induction h generalizing k with
  | stalled => simp at hd
  | ended => simp at hd
  | @again polls x xs d₀ ds since next time rest ih =>
    cases k with
    | zero =>
      cases hd
      exact ⟨x, rfl, next⟩
    | succ k =>
      rw [show polls + (k + 1) = polls + 1 + k by omega]
      exact ih hd

theorem between (h : Paced b start polls xs ds) (hx : xs[k]? = some x)
    (hy : xs[k + 1]? = some y) : ∃ d, ds[k]? = some d ∧ y.time = x.due + ticksOf d := by
  induction h generalizing k with
  | stalled => simp at hx
  | ended => simp at hy
  | @again polls x₀ xs d ds since next time rest ih =>
    cases k with
    | zero =>
      cases hx
      refine ⟨d, rfl, time y ?_⟩
      rw [List.head?_eq_getElem?]
      exact hy
    | succ k => exact ih hx hy

/-- A pause that takes no more than thirty years lasts as long as it is to. -/
theorem nanos_le_ticksOf (h : d.millisUp ≤ longestWait) : d.nanos ≤ 1000000 * ticksOf d := by
  rw [ticksOf, Nat.min_eq_left h]
  unfold Span.millisUp
  omega

/-- No look in vain is followed by a pause once the budget is used up. -/
theorem nil_of_cuts (h : Paced b start polls (x :: xs) (d :: ds))
    (hcuts : b.Cuts (polls % UInt32.size) d) (hshort : d.millisUp ≤ longestWait) : ds = [] := by
  cases h with
  | again since next time rest =>
    cases rest with
    | stalled => rfl
    | ended => rfl
    | @again _ y ys d' ds since' next' time' rest' =>
      have hbudget := hcuts.nanos_eq next
      have hlt := Backoff.lt_of_next? next'
      have htime := time y rfl
      have hlast := nanos_le_ticksOf hshort
      have hdue : x.time ≤ x.due := Nat.le_add_right ..
      have hdue' : y.time ≤ y.due := Nat.le_add_right ..
      have hbounded := b.budget.bounded
      rw [Span.nanos_saturate] at hbudget hlt
      unfold Exchange.elapsed at hbudget hlt
      omega

theorem last (h : Paced b start polls xs ds) (hd : ds[k]? = some d)
    (hcuts : b.Cuts ((polls + k) % UInt32.size) d) (hshort : d.millisUp ≤ longestWait) :
    ds.length = k + 1 := by
  induction h generalizing k with
  | stalled => simp at hd
  | ended => simp at hd
  | @again polls x xs d₀ ds since next time rest ih =>
    cases k with
    | zero =>
      cases hd
      rw [nil_of_cuts (.again since next time rest) hcuts hshort]
      rfl
    | succ k =>
      rw [show polls + (k + 1) = polls + 1 + k by omega] at hcuts
      rw [List.length_cons, ih hd hcuts]

/-- What comes after a pause is no shorter, unless it is cut or the count begins again. -/
theorem grows (h : Paced b start polls xs ds) (hd : ds[k]? = some d) (d' : Span)
    (hcount : ¬UInt32.size ∣ polls + (k + 1)) :
    d.nanos ≤ d'.nanos ∨ b.Cuts ((polls + (k + 1)) % UInt32.size) d' := by
  obtain ⟨x, -, hnext⟩ := h.next hd
  have hle := Backoff.nanos_next?_le hnext
  have hattempt : (polls + k) % UInt32.size ≤ (polls + (k + 1)) % UInt32.size := by
    unfold UInt32.size at hcount ⊢
    omega
  have hgrows := Backoff.delay_le_delay (.refl b) hattempt
  unfold Backoff.Cuts
  omega

end Paced

/-- What a search makes of the waits of its policy: its looks, and the pauses between them. -/
structure Paces (b : Backoff) (start : Nat) (xs : List Exchange) (ds : List Span) : Prop where
  /-- From an answer to the next look there is one pause. -/
  between : ∀ k x y, xs[k]? = some x → xs[k + 1]? = some y →
    ∃ d, ds[k]? = some d ∧ y.time = x.due + ticksOf d
  /-- Each pause is the wait that comes next, by what has been used up of the budget. -/
  next : ∀ k d, ds[k]? = some d → ∃ x, xs[k]? = some x ∧
    b.next? (k % UInt32.size) (.saturate (1000000 * x.elapsed start)) = some d
  /-- A pause that is cut to the rest of the budget is the last one, if the clock keeps it. -/
  last : ∀ k d, ds[k]? = some d → b.Cuts (k % UInt32.size) d → d.millisUp ≤ longestWait →
    ds.length = k + 1
  /-- No pause takes less time than the one before it, but for the last, which may be cut. Only where
  the count of the looks begins again do the pauses begin again. -/
  ordered : ∀ k d d', ds[k]? = some d → ds[k + 1]? = some d' → ¬UInt32.size ∣ k + 1 →
    ticksOf d ≤ ticksOf d' ∨ b.Cuts ((k + 1) % UInt32.size) d' ∧ ds.length = k + 2

theorem Paced.paces {b : Backoff} {start : Nat} {xs : List Exchange} {ds : List Span}
    (h : Paced b start 0 xs ds) : Paces b start xs ds := by
  have hlast : ∀ k d, ds[k]? = some d → b.Cuts (k % UInt32.size) d → d.millisUp ≤ longestWait →
      ds.length = k + 1 := by
    intro k d hd hcuts hshort
    exact h.last hd (by rwa [Nat.zero_add]) hshort
  refine ⟨fun k x y => h.between, fun k d hd => ?_, hlast, fun k d d' hd hd' hcount => ?_⟩
  · obtain ⟨x, hx, hnext⟩ := h.next hd
    rw [Nat.zero_add] at hnext
    exact ⟨x, hx, hnext⟩
  · have hgrows := h.grows hd d' (by rwa [Nat.zero_add])
    rw [Nat.zero_add] at hgrows
    rcases hgrows with hle | hcuts
    · exact .inl (ticksOf_le_ticksOf hle)
    · rcases Nat.le_total d'.millisUp longestWait with hshort | hlong
      · exact .inr ⟨hcuts, hlast (k + 1) d' hd' hcuts hshort⟩
      · -- As long as the clock keeps any wait, and so no shorter than the one before.
        have hlongest : ticksOf d' = longestWait := Nat.min_eq_right hlong
        exact .inl (hlongest ▸ Nat.min_le_right ..)

/-- Two pauses of ten milliseconds, and what is left of twenty-five. -/
example : (awaitRequest briefOptions "" 1 ⟨⟨"inv-1"⟩, none⟩).pauses (Agent.Script.agents fun _ => "")
    quietWorld = [.ofMillis 10, .ofMillis 10, .ofMillis 5] := by
  decide +kernel

end Rendezvous.Handshake
