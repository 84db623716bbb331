import Rendezvous.Proofs.Handshake.Interruption
import Rendezvous.Proofs.Handshake.Polling
import Rendezvous.Proofs.Handshake.Unwatched

/-! How the search for the request keeps to its budget: when it looks, and when it gives up. -/

namespace Rendezvous.Handshake

open Procedure

variable {σ : Type} {agents : Agents σ} {o : Options} {endpoint : String} {c : Correlation}
  {start : Nat}

/-- The milliseconds from an answer, which came `elapsed` milliseconds after the start, to the look
that follows it. -/
def Backoff.ticksAfter (b : Backoff) (attempt elapsed : Nat) : Nat :=
  min ((999999 + min (b.delay attempt).nanos (b.budget.nanos - 1000000 * elapsed)) / 1000000)
    longestWait

namespace Backoff

variable {b : Backoff} {attempt : Nat} {since m : Moment}

theorem next?_of_spent (h : b.budget.nanos ≤ 1000000 * (m.tick - since.tick)) :
    b.next? attempt (elapsed since m) = none := by
  have hbounded := b.budget.bounded
  rw [next?_eq_none_iff, elapsed, Span.nanos_saturate]
  omega

theorem nanos_next? {waited d : Span} (h : b.next? attempt waited = some d) :
    d.nanos = min (b.delay attempt).nanos (b.budget.nanos - waited.nanos) := by
  unfold next? Span.remaining? at h
  rw [if_pos (lt_of_next? h)] at h
  cases h
  exact Span.nanos_shorter _ _

theorem next?_of_left (attempt : Nat)
    (h : 1000000 * (m.tick - since.tick) < b.budget.nanos) :
    ∃ d, b.next? attempt (elapsed since m) = some d ∧
      ticksOf d = b.ticksAfter attempt (m.tick - since.tick) := by
  have hbounded := b.budget.bounded
  have helapsed : (elapsed since m).nanos = 1000000 * (m.tick - since.tick) := by
    rw [elapsed, Span.nanos_saturate]
    omega
  obtain ⟨d, hd, -⟩ := next?_eq_some attempt (by rwa [helapsed])
  refine ⟨d, hd, ?_⟩
  rw [ticksOf, Span.millisUp, nanos_next? hd, helapsed, ticksAfter]

theorem ticksAfter_pos (attempt : Nat) (hinitial : 0 < b.initial.nanos) (hcap : 0 < b.cap.nanos)
    {elapsed : Nat} (h : 1000000 * elapsed < b.budget.nanos) :
    0 < b.ticksAfter attempt elapsed := by
  have hdelay : (b.delay attempt).nanos ≠ 0 := by
    rw [Ne, nanos_delay_eq_zero_iff]
    omega
  unfold ticksAfter longestWait
  omega

/-- What is left of the budget leads no further than the budget itself. -/
theorem add_ticksAfter_le (b : Backoff) (attempt : Nat) {elapsed : Nat}
    (h : 1000000 * elapsed < b.budget.nanos) :
    elapsed + b.ticksAfter attempt elapsed ≤ b.budget.millisUp := by
  unfold ticksAfter Span.millisUp
  omega

end Backoff

namespace Exchange

/-- A listing in which the request is not to be found. -/
def Misses (o : Options) (c : Correlation) (x : Exchange) : Prop :=
  ∃ listed, x.Brings (.listConnections o.aliasName) listed ∧
    c.select o.matching o.targetState listed = none

/-- A listing in which the request is on the connection of `record`. -/
def Shows (o : Options) (c : Correlation) (x : Exchange) (record : ConnectionRecord) : Prop :=
  ∃ listed, x.Brings (.listConnections o.aliasName) listed ∧
    c.select o.matching o.targetState listed = some record

def elapsed (start : Nat) (x : Exchange) : Nat := x.due - start

end Exchange

/-- The course of a search that looks at `time`, after `polls` earlier looks: its listings, when it
is over and what comes of it. The looks are counted in 32 bits. -/
inductive Searched (o : Options) (endpoint : String) (c : Correlation) (start : Nat) :
    (polls time : Nat) → List Exchange → Nat → Ending Sighting → Prop
  | refused {polls x f} (call : x.call = .listConnections o.aliasName)
      (error : x.reply.answer = .error f) :
      Searched o endpoint c start polls x.time [x] x.due (.failed (.ofFault .awaitRequest f))
  | seen {polls x record} (shows : x.Shows o c record) :
      Searched o endpoint c start polls x.time [x] x.due
        (.done ⟨⟨record.connectionId⟩, .ofNat (polls + 1)⟩)
  | spent {polls x} (misses : x.Misses o c)
      (late : o.backoff.budget.nanos ≤ 1000000 * x.elapsed start) :
      Searched o endpoint c start polls x.time [x] x.due
        (.failed (.noRequest endpoint o.targetState (.ofNat (polls + 1))
          (.saturate (1000000 * x.elapsed start))))
  | again {polls x xs finish ending} (misses : x.Misses o c)
      (left : 1000000 * x.elapsed start < o.backoff.budget.nanos)
      (rest : Searched o endpoint c start (polls + 1)
        (x.due + o.backoff.ticksAfter (polls % UInt32.size) (x.elapsed start)) xs finish ending) :
      Searched o endpoint c start polls x.time (x :: xs) finish ending

/-- A procedure searches for the request, with `polls` looks behind it. -/
def Searches (agents : Agents σ) (o : Options) (endpoint : String) (c : Correlation)
    (start polls : Nat) (w : World σ) (p : Procedure Sighting) : Prop :=
  Searched o endpoint c start polls w.now (transcript agents w.agents (p.run agents w).calls)
    (p.run agents w).world.now (p.run agents w).ending

/-- A look, and what follows it while the budget lasts. -/
theorem searches_look_succ {since : Moment} {looks polls : Nat} {w : World σ}
    (hwatch : w.watch = none) (hsince : since.tick ≤ w.now)
    (hmore : ∀ e (v : World σ), v.watch = none → w.now ≤ since.tick + e →
      1000000 * e < o.backoff.budget.nanos →
      v.now = since.tick + e + o.backoff.ticksAfter (polls % UInt32.size) e →
      Searches agents o endpoint c since.tick (polls + 1) v
        (look o endpoint c since looks (.ofNat (polls + 1)))) :
    Searches agents o endpoint c since.tick polls w
      (look o endpoint c since (looks + 1) (.ofNat polls)) := by
  have hcalled := World.called_of_unwatched agents hwatch (.listConnections o.aliasName)
  rw [← bind_done (look o endpoint c since (looks + 1) (.ofNat polls)), bind_look_succ,
    ← UInt32.ofNat_one, ← UInt32.ofNat_add, UInt32.toNat_ofNat']
  simp only [bind_done]
  unfold Searches
  cases ha : (agents.ask (.listConnections o.aliasName) w.agents).1.answer with
  | error f =>
    rw [run_ask_failed _ hcalled ha]
    exact .refused (x := ⟨w.now, _, _⟩) rfl ha
  | ok listed =>
    have hbrings : Exchange.Brings ⟨w.now, .listConnections o.aliasName, _⟩ _ listed :=
      Exchange.brings_mk ha
    rw [run_ask_answered _ hcalled ha]
    cases hselect : c.select o.matching o.targetState listed with
    | some record =>
      simp only [run]
      exact .seen ⟨listed, hbrings, hselect⟩
    | none =>
      have hmisses : Exchange.Misses o c ⟨w.now, .listConnections o.aliasName, _⟩ :=
        ⟨listed, hbrings, hselect⟩
      generalize hx : Exchange.mk w.now (.listConnections o.aliasName) _ = x at hmisses
      have hdue : (w.answered agents (.listConnections o.aliasName)).now = x.due := hx ▸ rfl
      have hle : w.now ≤ x.due := hx ▸ Nat.le_add_right ..
      have hwatch' : (w.answered agents (.listConnections o.aliasName)).watch = none := hwatch
      have helapsed : (w.answered agents (.listConnections o.aliasName)).moment.tick - since.tick =
          x.elapsed since.tick := hx ▸ rfl
      simp only [run]
      by_cases hover : o.backoff.budget.nanos ≤ 1000000 * x.elapsed since.tick
      · rw [Backoff.next?_of_spent (by rwa [helapsed]), elapsed, helapsed]
        subst hx
        exact .spent hmisses hover
      · have hleft := Nat.lt_of_not_le hover
        have hspare := hleft
        rw [← helapsed] at hspare
        obtain ⟨d, hd, hticks⟩ := Backoff.next?_of_left (polls % UInt32.size) hspare
        rw [hd]
        simp only [run, World.wait_of_unwatched hwatch', hticks, helapsed, hdue]
        have hrest := hmore (x.elapsed since.tick)
          { w.answered agents (.listConnections o.aliasName) with
            now := x.due + o.backoff.ticksAfter (polls % UInt32.size) (x.elapsed since.tick) }
          hwatch (by unfold Exchange.elapsed; omega) hleft
          (by unfold Exchange.elapsed; dsimp only; omega)
        subst hx
        exact .again hmisses hleft hrest

/-- A search in which time passes between two looks comes to an end within its budget. -/
theorem searches_look {since : Moment} (hinitial : 0 < o.backoff.initial.nanos)
    (hcap : 0 < o.backoff.cap.nanos) (looks polls : Nat) (w : World σ) (hwatch : w.watch = none)
    (hsince : since.tick ≤ w.now) (henough : since.tick + o.backoff.budget.millisUp ≤ w.now + looks) :
    Searches agents o endpoint c since.tick polls w
      (look o endpoint c since (looks + 1) (.ofNat polls)) := by
  induction looks generalizing polls w with
  | zero =>
    apply searches_look_succ hwatch hsince
    intro e v _ hle hleft _
    have := o.backoff.add_ticksAfter_le (polls % UInt32.size) hleft
    have := Backoff.ticksAfter_pos (polls % UInt32.size) hinitial hcap hleft
    omega
  | succ looks ih =>
    apply searches_look_succ hwatch hsince
    intro e v hwatch' hle hleft hnow
    have := Backoff.ticksAfter_pos (polls % UInt32.size) hinitial hcap hleft
    exact ih (polls + 1) v hwatch' (by omega) (by omega)

section Course

variable {polls time finish k : Nat} {x : Exchange} {xs : List Exchange} {ending : Ending Sighting}

theorem Exchange.Brings.unique {call : Agent.Call} {a b : call.Answer} (ha : x.Brings call a)
    (hb : x.Brings call b) : a = b := by
  obtain ⟨_, _, _, rfl⟩ := ha
  exact Except.ok.inj hb.answer_eq

theorem Exchange.Misses.not_shows {record : ConnectionRecord} (h : x.Misses o c) :
    ¬x.Shows o c record := by
  obtain ⟨listed, hbrings, hnone⟩ := h
  rintro ⟨listed', hbrings', hsome⟩
  rw [hbrings.unique hbrings', hsome] at hnone
  cases hnone

namespace Searched

/-- From any of its looks on, a search is one that looks then. -/
theorem atLook (h : Searched o endpoint c start polls time xs finish ending)
    (hx : xs[k]? = some x) :
    Searched o endpoint c start (polls + k) x.time (xs.drop k) finish ending := by
  induction h generalizing k with
  | refused call error =>
    cases k with
    | zero =>
      cases hx
      exact .refused call error
    | succ k => simp at hx
  | seen shows =>
    cases k with
    | zero =>
      cases hx
      exact .seen shows
    | succ k => simp at hx
  | spent misses late =>
    cases k with
    | zero =>
      cases hx
      exact .spent misses late
    | succ k => simp at hx
  | @again polls y ys finish ending misses left rest ih =>
    cases k with
    | zero =>
      cases hx
      exact .again misses left rest
    | succ k =>
      rw [show polls + (k + 1) = polls + 1 + k by omega]
      exact ih hx

theorem exists_first (h : Searched o endpoint c start polls time xs finish ending) :
    ∃ x, xs[0]? = some x ∧ x.time = time := by
  cases h <;> exact ⟨_, rfl, rfl⟩

/-- What passes between two looks. -/
theorem time_eq {y : Exchange} (h : Searched o endpoint c start polls time xs finish ending)
    (hx : xs[k]? = some x) (hy : xs[k + 1]? = some y) :
    y.time = x.due + o.backoff.ticksAfter ((polls + k) % UInt32.size) (x.elapsed start) := by
  have hk := h.atLook hx
  obtain ⟨hlt, hget⟩ := List.getElem?_eq_some_iff.mp hx
  rw [List.drop_eq_getElem_cons hlt, hget] at hk
  have hnext : (xs.drop (k + 1))[0]? = some y := by rw [List.getElem?_drop, ← hy, Nat.add_zero]
  generalize xs.drop (k + 1) = ys at hk hnext
  generalize x.time = t at hk
  cases hk with
  | again misses left rest =>
    obtain ⟨y', hy', htime⟩ := rest.exists_first
    cases hy'.symm.trans hnext
    exact htime
  | _ => cases hnext

theorem call_eq (h : Searched o endpoint c start polls time xs finish ending) :
    ∀ x ∈ xs, x.call = .listConnections o.aliasName := by
  induction h with
  | refused call error => simpa using call
  | seen shows =>
    obtain ⟨listed, hbrings, -⟩ := shows
    simpa using hbrings.call_eq
  | spent misses late =>
    obtain ⟨listed, hbrings, -⟩ := misses
    simpa using hbrings.call_eq
  | again misses left rest ih =>
    obtain ⟨listed, hbrings, -⟩ := misses
    exact List.forall_mem_cons.mpr ⟨hbrings.call_eq, ih⟩

theorem le_time (h : Searched o endpoint c start polls time xs finish ending) :
    ∀ x ∈ xs, time ≤ x.time := by
  induction h with
  | refused call error => simp
  | seen shows => simp
  | spent misses late => simp
  | @again polls x ys finish ending misses left rest ih =>
    refine List.forall_mem_cons.mpr ⟨Nat.le_refl _, fun y hy => ?_⟩
    have hdue : x.time ≤ x.due := Nat.le_add_right ..
    have := ih y hy
    omega

theorem time_le (h : Searched o endpoint c start polls time xs finish ending)
    (htime : time ≤ start + o.backoff.budget.millisUp) :
    ∀ x ∈ xs, x.time ≤ start + o.backoff.budget.millisUp := by
  induction h with
  | refused call error => simpa using htime
  | seen shows => simpa using htime
  | spent misses late => simpa using htime
  | @again polls x ys finish ending misses left rest ih =>
    have hnext := o.backoff.add_ticksAfter_le (polls % UInt32.size) left
    refine List.forall_mem_cons.mpr ⟨htime, ih ?_⟩
    unfold Exchange.elapsed at hnext ⊢
    omega

/-- Time passes between two looks, so the budget leaves room for so many of them. -/
theorem length_le (h : Searched o endpoint c start polls time xs finish ending)
    (hinitial : 0 < o.backoff.initial.nanos) (hcap : 0 < o.backoff.cap.nanos)
    (htime : time ≤ start + o.backoff.budget.millisUp) :
    time + xs.length ≤ start + o.backoff.budget.millisUp + 1 := by
  induction h with
  | refused call error => exact Nat.succ_le_succ htime
  | seen shows => exact Nat.succ_le_succ htime
  | spent misses late => exact Nat.succ_le_succ htime
  | @again polls x xs finish ending misses left rest ih =>
    have hnext := o.backoff.add_ticksAfter_le (polls % UInt32.size) left
    have hpos := Backoff.ticksAfter_pos (polls % UInt32.size) hinitial hcap left
    have hdue : x.time ≤ x.due := Nat.le_add_right ..
    have hle : x.due + o.backoff.ticksAfter (polls % UInt32.size) (x.elapsed start) ≤
        start + o.backoff.budget.millisUp := by
      unfold Exchange.elapsed at hnext ⊢
      omega
    have := ih hle
    rw [List.length_cons]
    omega

theorem of_error {f : Agent.Fault} (hf : x.reply.answer = .error f)
    (h : Searched o endpoint c start polls time (x :: xs) finish ending) :
    xs = [] ∧ finish = x.due ∧ ending = .failed (.ofFault .awaitRequest f) := by
  cases h with
  | refused call error =>
    rw [error] at hf
    cases hf
    exact ⟨rfl, rfl, rfl⟩
  | seen shows =>
    obtain ⟨listed, hbrings, -⟩ := shows
    exact absurd hf (hbrings.answer_ne f)
  | spent misses late =>
    obtain ⟨listed, hbrings, -⟩ := misses
    exact absurd hf (hbrings.answer_ne f)
  | again misses left rest =>
    obtain ⟨listed, hbrings, -⟩ := misses
    exact absurd hf (hbrings.answer_ne f)

theorem of_shows {record : ConnectionRecord} (hs : x.Shows o c record)
    (h : Searched o endpoint c start polls time (x :: xs) finish ending) :
    xs = [] ∧ finish = x.due ∧ ending = .done ⟨⟨record.connectionId⟩, .ofNat (polls + 1)⟩ := by
  cases h with
  | refused call error =>
    obtain ⟨listed, hbrings, -⟩ := hs
    exact absurd error (hbrings.answer_ne _)
  | seen shows =>
    obtain ⟨listed, hbrings, hsome⟩ := shows
    obtain ⟨listed', hbrings', hsome'⟩ := hs
    rw [hbrings.unique hbrings', hsome'] at hsome
    cases hsome
    exact ⟨rfl, rfl, rfl⟩
  | spent misses late => exact absurd hs misses.not_shows
  | again misses left rest => exact absurd hs misses.not_shows

/-- Behind a look in vain the search is given up, or goes on after a wait. -/
theorem of_misses (hm : x.Misses o c)
    (h : Searched o endpoint c start polls time (x :: xs) finish ending) :
    (o.backoff.budget.nanos ≤ 1000000 * x.elapsed start ∧ xs = [] ∧ finish = x.due ∧
      ending = .failed (.noRequest endpoint o.targetState (.ofNat (polls + 1))
        (.saturate (1000000 * x.elapsed start)))) ∨
    (1000000 * x.elapsed start < o.backoff.budget.nanos ∧
      Searched o endpoint c start (polls + 1)
        (x.due + o.backoff.ticksAfter (polls % UInt32.size) (x.elapsed start)) xs finish
          ending) := by
  cases h with
  | refused call error =>
    obtain ⟨listed, hbrings, -⟩ := hm
    exact absurd error (hbrings.answer_ne _)
  | seen shows => exact absurd shows hm.not_shows
  | spent misses late => exact .inl ⟨late, rfl, rfl, rfl⟩
  | again misses left rest => exact .inr ⟨left, rest⟩

/-- Only a search that has looked in vain to the end of its budget is given up. -/
theorem misses_of_noRequest {e t : String} {p : UInt32} {d : Span}
    (h : Searched o endpoint c start polls time xs finish ending)
    (he : ending = .failed (.noRequest e t p d)) :
    (∀ x ∈ xs, x.Misses o c) ∧
      ∃ x, xs.getLast? = some x ∧ o.backoff.budget.nanos ≤ 1000000 * x.elapsed start := by
  induction h with
  | @refused polls x f call error => cases f <;> cases he
  | seen shows => cases he
  | spent misses late => exact ⟨by simpa using misses, _, rfl, late⟩
  | again misses left rest ih =>
    obtain ⟨hall, last, hlast, hover⟩ := ih he
    refine ⟨List.forall_mem_cons.mpr ⟨misses, hall⟩, last, ?_, hover⟩
    rw [List.getLast?_cons, hlast]
    rfl

end Searched

end Course

/-- What a search that begins at `start` makes of its budget. It counts its looks in 32 bits. -/
structure KeepsBudget (o : Options) (endpoint : String) (c : Correlation) (start : Nat)
    (xs : List Exchange) (finish : Nat) (ending : Ending Sighting) : Prop where
  /-- The first look is taken at once. -/
  first : ∃ x, xs[0]? = some x ∧ x.time = start
  listings : ∀ x ∈ xs, x.call = .listConnections o.aliasName
  within : ∀ x ∈ xs, x.time ≤ start + o.backoff.budget.millisUp
  count : xs.length ≤ o.backoff.budget.millisUp + 1
  /-- While the budget lasts, a look in vain is followed by another one. -/
  next : ∀ k x, xs[k]? = some x → x.Misses o c →
    1000000 * x.elapsed start < o.backoff.budget.nanos →
    ∃ y, xs[k + 1]? = some y ∧
      y.time = x.due + o.backoff.ticksAfter (k % UInt32.size) (x.elapsed start)
  /-- Behind it, a look in vain is the last one. -/
  spent : ∀ k x, xs[k]? = some x → x.Misses o c →
    o.backoff.budget.nanos ≤ 1000000 * x.elapsed start →
    xs.length = k + 1 ∧ finish = x.due ∧
      ending = .failed (.noRequest endpoint o.targetState (.ofNat (k + 1))
        (.saturate (1000000 * x.elapsed start)))
  /-- A request that is listed counts, however late the answer. -/
  seen : ∀ k x record, xs[k]? = some x → x.Shows o c record →
    xs.length = k + 1 ∧ finish = x.due ∧ ending = .done ⟨⟨record.connectionId⟩, .ofNat (k + 1)⟩
  refused : ∀ k x f, xs[k]? = some x → x.reply.answer = .error f →
    xs.length = k + 1 ∧ finish = x.due ∧ ending = .failed (.ofFault .awaitRequest f)
  /-- The search is given up just when all listings are in vain up to one that is answered at the
  end of the budget or later. -/
  gives_up : (∃ e t p d, ending = .failed (.noRequest e t p d)) ↔
    ∃ (n : Nat) (x : Exchange), xs[n]? = some x ∧
      o.backoff.budget.nanos ≤ 1000000 * x.elapsed start ∧
      ∀ k ≤ n, ∀ y : Exchange, xs[k]? = some y → y.Misses o c
  /-- What is reported of a search that is given up. -/
  report : ∀ e t p d, ending = .failed (.noRequest e t p d) →
    e = endpoint ∧ t = o.targetState ∧ p = .ofNat xs.length ∧ o.backoff.budget.nanos ≤ d.nanos ∧
      ∃ x, xs.getLast? = some x ∧ finish = x.due ∧
        d.nanos = min (1000000 * x.elapsed start) Span.longest.nanos
  /-- If answers take no time, the last look falls on the end of the budget. -/
  prompt : (∀ x ∈ xs, x.reply.latency = 0) → (∃ e t p d, ending = .failed (.noRequest e t p d)) →
    ∃ x, xs.getLast? = some x ∧ x.time = start + o.backoff.budget.millisUp

section Keeping

variable {finish : Nat} {xs : List Exchange} {ending : Ending Sighting} {k : Nat} {x : Exchange}

theorem length_eq_of_drop_eq_nil (hx : xs[k]? = some x) (h : xs.drop (k + 1) = []) :
    xs.length = k + 1 := by
  obtain ⟨hlt, -⟩ := List.getElem?_eq_some_iff.mp hx
  have := List.drop_eq_nil_iff.mp h
  omega

namespace Searched

/-- The look at place `k`, and all that follows it. -/
theorem head (h : Searched o endpoint c start 0 start xs finish ending) (hx : xs[k]? = some x) :
    Searched o endpoint c start k x.time (x :: xs.drop (k + 1)) finish ending := by
  have hk := h.atLook hx
  obtain ⟨hlt, hget⟩ := List.getElem?_eq_some_iff.mp hx
  rwa [List.drop_eq_getElem_cons hlt, hget, Nat.zero_add] at hk

theorem spent_at (h : Searched o endpoint c start 0 start xs finish ending)
    (hx : xs[k]? = some x) (hm : x.Misses o c)
    (hover : o.backoff.budget.nanos ≤ 1000000 * x.elapsed start) :
    xs.length = k + 1 ∧ finish = x.due ∧
      ending = .failed (.noRequest endpoint o.targetState (.ofNat (k + 1))
        (.saturate (1000000 * x.elapsed start))) := by
  rcases (h.head hx).of_misses hm with ⟨-, hnil, hfinish, hending⟩ | ⟨hleft, -⟩
  · exact ⟨length_eq_of_drop_eq_nil hx hnil, hfinish, hending⟩
  · omega

theorem next_at (h : Searched o endpoint c start 0 start xs finish ending)
    (hx : xs[k]? = some x) (hm : x.Misses o c)
    (hleft : 1000000 * x.elapsed start < o.backoff.budget.nanos) :
    ∃ y, xs[k + 1]? = some y ∧
      y.time = x.due + o.backoff.ticksAfter (k % UInt32.size) (x.elapsed start) := by
  rcases (h.head hx).of_misses hm with ⟨hover, -⟩ | ⟨-, hrest⟩
  · omega
  · obtain ⟨y, hy, htime⟩ := hrest.exists_first
    rw [List.getElem?_drop] at hy
    exact ⟨y, hy, htime⟩

/-- A search that is given up has been given up at its last look. -/
theorem exists_last (h : Searched o endpoint c start 0 start xs finish ending) {e t : String}
    {p : UInt32} {d : Span} (he : ending = .failed (.noRequest e t p d)) :
    ∃ (n : Nat) (x : Exchange), xs[n]? = some x ∧ xs.getLast? = some x ∧
      o.backoff.budget.nanos ≤ 1000000 * x.elapsed start ∧ ∀ y ∈ xs, y.Misses o c := by
  obtain ⟨hall, x, hlast, hover⟩ := h.misses_of_noRequest he
  exact ⟨xs.length - 1, x, by rw [← hlast, List.getLast?_eq_getElem?], hlast, hover, hall⟩

theorem gives_up_iff (h : Searched o endpoint c start 0 start xs finish ending) :
    (∃ e t p d, ending = .failed (.noRequest e t p d)) ↔
      ∃ (n : Nat) (x : Exchange), xs[n]? = some x ∧
        o.backoff.budget.nanos ≤ 1000000 * x.elapsed start ∧
        ∀ k ≤ n, ∀ y : Exchange, xs[k]? = some y → y.Misses o c := by
  constructor
  · rintro ⟨e, t, p, d, he⟩
    obtain ⟨n, x, hx, -, hover, hall⟩ := h.exists_last he
    exact ⟨n, x, hx, hover, fun k _ y hy => hall y (List.mem_of_getElem? hy)⟩
  · rintro ⟨n, x, hx, hover, hmiss⟩
    obtain ⟨-, -, hending⟩ := h.spent_at hx (hmiss n (Nat.le_refl n) x hx) hover
    exact ⟨_, _, _, _, hending⟩

theorem report (h : Searched o endpoint c start 0 start xs finish ending) {e t : String} {p : UInt32}
    {d : Span} (he : ending = .failed (.noRequest e t p d)) :
    e = endpoint ∧ t = o.targetState ∧ p = .ofNat xs.length ∧ o.backoff.budget.nanos ≤ d.nanos ∧
      ∃ x, xs.getLast? = some x ∧ finish = x.due ∧
        d.nanos = min (1000000 * x.elapsed start) Span.longest.nanos := by
  obtain ⟨n, x, hx, hlast, hover, hall⟩ := h.exists_last he
  obtain ⟨hlength, hfinish, hending⟩ := h.spent_at hx (hall x (List.mem_of_getElem? hx)) hover
  rw [he] at hending
  cases hending
  have hwaited : (Span.saturate (1000000 * x.elapsed start)).nanos =
      min (1000000 * x.elapsed start) Span.longest.nanos := Span.nanos_saturate _
  have hbounded : o.backoff.budget.nanos < Span.longest.nanos + 1 := o.backoff.budget.bounded
  exact ⟨rfl, rfl, congrArg _ hlength.symm, by omega, x, hlast, hfinish, hwaited⟩

/-- Answers that take no time are all within the budget, so the last one is at its end. -/
theorem prompt (h : Searched o endpoint c start 0 start xs finish ending)
    (hlatency : ∀ x ∈ xs, x.reply.latency = 0) {e t : String} {p : UInt32} {d : Span}
    (he : ending = .failed (.noRequest e t p d)) :
    ∃ x, xs.getLast? = some x ∧ x.time = start + o.backoff.budget.millisUp := by
  obtain ⟨n, x, hx, hlast, hover, -⟩ := h.exists_last he
  have hmem := List.mem_of_getElem? hx
  have hstart := h.le_time x hmem
  have hle := h.time_le (Nat.le_add_right ..) x hmem
  refine ⟨x, hlast, Nat.le_antisymm hle ?_⟩
  rw [Exchange.elapsed, Exchange.due, hlatency x hmem] at hover
  unfold Span.millisUp
  omega

theorem keepsBudget (hinitial : 0 < o.backoff.initial.nanos) (hcap : 0 < o.backoff.cap.nanos)
    (h : Searched o endpoint c start 0 start xs finish ending) :
    KeepsBudget o endpoint c start xs finish ending where
  first := h.exists_first
  listings := h.call_eq
  within := h.time_le (Nat.le_add_right ..)
  count := by
    have := h.length_le hinitial hcap (Nat.le_add_right ..)
    omega
  next := fun _ _ hx hm hleft => h.next_at hx hm hleft
  spent := fun _ _ hx hm hover => h.spent_at hx hm hover
  seen := fun k x record hx hs => by
    obtain ⟨hnil, hfinish, hending⟩ := (h.head hx).of_shows hs
    exact ⟨length_eq_of_drop_eq_nil hx hnil, hfinish, hending⟩
  refused := fun k x f hx hf => by
    obtain ⟨hnil, hfinish, hending⟩ := (h.head hx).of_error hf
    exact ⟨length_eq_of_drop_eq_nil hx hnil, hfinish, hending⟩
  gives_up := h.gives_up_iff
  report := fun _ _ _ _ he => h.report he
  prompt := fun hlatency ⟨_, _, _, _, he⟩ => h.prompt hlatency he

end Searched

end Keeping

/-- The course of a search that nobody watches. -/
theorem searched_awaitRequest (agents : Agents σ) (o : Options) (endpoint : String) (stock : Nat)
    (c : Correlation) (w : World σ) (hinitial : 0 < o.backoff.initial.nanos)
    (hcap : 0 < o.backoff.cap.nanos) :
    let r := (awaitRequest o endpoint stock c).run agents w.unwatched
    Searched o endpoint c w.now 0 w.now (transcript agents w.agents r.calls) r.world.now
      r.ending := by
  intro r
  have hr : r = (look o endpoint c w.moment (o.backoff.budget.millisUp + stock + 1) 0).run agents
      w.unwatched := by
    rw [← looksWithin_eq]
    rfl
  have hsearches : Searches agents o endpoint c w.moment.tick 0 w.unwatched
      (look o endpoint c w.moment (o.backoff.budget.millisUp + stock + 1) 0) := by
    refine searches_look hinitial hcap _ 0 _ rfl (Nat.le_refl _) ?_
    simp only [World.moment, World.unwatched]
    omega
  rwa [Searches, ← hr] at hsearches

/-- A search for the request keeps to its budget, with no wait above thirty years. -/
theorem search_keeps_budget (agents : Agents σ) (o : Options) (c : Correlation) (w : World σ)
    (hinitial : 0 < o.backoff.initial.nanos) (hcap : 0 < o.backoff.cap.nanos) :
    let r := performStep agents
      (awaitRequest o (agents.endpoint .inviter) (agents.stock w.agents) c) w
    KeepsBudget o (agents.endpoint .inviter) c w.now (transcript agents w.agents r.calls)
      r.world.now r.ending :=
  (searched_awaitRequest agents o (agents.endpoint .inviter) (agents.stock w.agents) c w hinitial
    hcap).keepsBudget hinitial hcap

/-- A look every ten milliseconds, for twenty-five. -/
def briefOptions : Options :=
  { Options.standard with backoff := .fixed (.ofMillis 10) (.ofMillis 25) }

/-- A look every forty years, for a hundred. -/
def slowOptions : Options :=
  { Options.standard with backoff := .fixed (.ofSeconds 1261440000) (.ofSeconds 3153600000) }

/-- A search that is given up in the end, by itself. -/
def vainSearch (o : Options) : Run Agent.Script Sighting :=
  performStep (Agent.Script.agents fun _ => "")
    (awaitRequest o "" ((Agent.Script.agents fun _ => "").stock quietScript) ⟨⟨"inv-1"⟩, none⟩)
    quietWorld

theorem brief_search_keeps_budget :
    0 < briefOptions.backoff.initial.nanos ∧ 0 < briefOptions.backoff.cap.nanos ∧
      (vainSearch briefOptions).calls.map Logged.time = [0, 10, 20, 25] ∧
      KeepsBudget briefOptions "" ⟨⟨"inv-1"⟩, none⟩ 0
        (transcript (Agent.Script.agents fun _ => "") quietScript (vainSearch briefOptions).calls)
        (vainSearch briefOptions).world.now (vainSearch briefOptions).ending := by
  have hinitial : 0 < briefOptions.backoff.initial.nanos := by decide
  have hcap : 0 < briefOptions.backoff.cap.nanos := by decide
  have hendpoint : (Agent.Script.agents fun _ => "").endpoint .inviter = "" := rfl
  have hkeeps := search_keeps_budget (Agent.Script.agents fun _ => "") briefOptions
    ⟨⟨"inv-1"⟩, none⟩ quietWorld hinitial hcap
  rw [hendpoint] at hkeeps
  exact ⟨hinitial, hcap, by decide +kernel, hkeeps⟩

/-- The first listing is answered at once and in vain, and the policy has the search wait for forty
years then. The second look comes after thirty. -/
theorem slow_search_looks_early :
    (vainSearch slowOptions).calls.map Logged.time =
        [0, 946080000000, 1892160000000, 2838240000000, 3153600000000] ∧
      slowOptions.backoff.next? 0 (elapsed quietWorld.moment quietWorld.moment) =
        some (.ofMillis 1261440000000) := by
  constructor <;> decide +kernel

end Rendezvous.Handshake
