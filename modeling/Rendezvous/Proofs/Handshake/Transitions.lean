import Mathlib.Data.List.Chain
import Rendezvous.Handshake.Progress

/-! Whatever moves are tried, a handshake goes through its milestones in their order, and what it
keeps of them are just the moves that were made. -/

namespace Rendezvous.Handshake

def Milestone.inOrder : List Milestone :=
  [.start, .invitationCreated, .invitationReceived, .inviteeAccepted, .requestObserved, .finalized]

/-- The steps from one milestone to the next. -/
def Milestone.forward : List (Milestone × Milestone) := inOrder.zip inOrder.tail

theorem Milestone.inOrder_index (m : Milestone) : inOrder[m.index]? = some m := by
  cases m <;> rfl

theorem Milestone.take_forward_of_next? {m target : Milestone} (h : m.next? = some target) :
    forward.take target.index = forward.take m.index ++ [(m, target)] := by
  cases m <;> cases h <;> decide

def Transition.ends (t : Transition) : Milestone × Milestone := (t.source, t.target)

/-- A call that is to move a handshake on, and the time at which it is made. -/
structure Move where
  target : Milestone
  time : Stamp

def Move.attempt (m : Move) : StateM Progress (Except Failure Unit) :=
  Progress.proceed m.target m.time

/-- Makes one call after the other and gives their results. -/
def attempts (ms : List Move) : StateM Progress (List (Except Failure Unit)) :=
  ms.mapM Move.attempt

def successes (ms : List Move) (results : List (Except Failure Unit)) : List Move :=
  ((ms.zip results).filter fun x => x.2.isOk).map Prod.fst

theorem successes_cons_ok (m : Move) (ms : List Move) (results : List (Except Failure Unit)) :
    successes (m :: ms) (.ok () :: results) = m :: successes ms results := rfl

theorem successes_cons_error (m : Move) (ms : List Move) (f : Failure)
    (results : List (Except Failure Unit)) :
    successes (m :: ms) (.error f :: results) = successes ms results := rfl

namespace Progress

/-- The transitions are a beginning of the steps forward, each one goes on where the one before it
ended, and the milestone is the one behind them. -/
structure InOrder (p : Progress) : Prop where
  forward : p.transitions.map Transition.ends <+: Milestone.forward
  contiguous : p.transitions.IsChain fun t u => t.target = u.source
  first : ∀ t ∈ p.transitions.head?, t.source = .start
  milestone : p.milestone = (p.transitions.getLast?.map Transition.target).getD .start
  place : Milestone.inOrder[p.transitions.length]? = some p.milestone
  length_le : p.transitions.length ≤ 5

/-- What one call does: it goes on to the next milestone, or it is refused and changes nothing. -/
structure Answers (p : Progress) (m : Move) (result : Except Failure Unit) (q : Progress) :
    Prop where
  ok_iff : result = .ok () ↔ p.milestone.next? = some m.target
  moved : result = .ok () → q.milestone = m.target ∧ q.startedAt = p.startedAt ∧
    q.transitions = p.transitions ++ [⟨p.milestone, m.target, m.time⟩]
  refused : result ≠ .ok () → result = .error (.badTransition p.milestone m.target) ∧ q = p

/-- The transitions are the steps that lead to the milestone. -/
def MatchesMilestone (p : Progress) : Prop :=
  p.transitions.map Transition.ends = Milestone.forward.take p.milestone.index

variable {p q : Progress} {m : Move} {result : Except Failure Unit}

theorem matchesMilestone_begin (time : Stamp) : (begin time).MatchesMilestone := rfl

theorem MatchesMilestone.length_eq (h : p.MatchesMilestone) :
    p.transitions.length = p.milestone.index := by
  have hlength := congrArg List.length h
  rw [List.length_map, List.length_take] at hlength
  rw [hlength]
  cases p.milestone <;> rfl

theorem MatchesMilestone.inOrder (h : p.MatchesMilestone) : p.InOrder where
  forward := by
    rw [h]
    exact List.take_prefix _ _
  contiguous := by
    -- Only the ends of a transition count, so each milestone leaves one list to look at.
    have hchain : (p.transitions.map Transition.ends).IsChain fun t u => t.2 = u.1 := by
      rw [h]
      cases p.milestone <;> decide
    rwa [List.isChain_map] at hchain
  first := by
    have hhead : ∀ t ∈ (p.transitions.map Transition.ends).head?, t.1 = .start := by
      rw [h]
      cases p.milestone <;> decide
    intro t ht
    rw [List.head?_map, ht] at hhead
    exact hhead t.ends rfl
  milestone := by
    have hlast : ((p.transitions.map Transition.ends).getLast?.map Prod.snd).getD .start =
        p.milestone := by
      rw [h]
      cases p.milestone <;> decide
    rw [← hlast, List.getLast?_map, Option.map_map]
    rfl
  place := by
    rw [h.length_eq]
    exact Milestone.inOrder_index _
  length_le := by
    rw [h.length_eq]
    cases p.milestone <;> decide

theorem answers_attempt (p : Progress) (m : Move) :
    p.Answers m (m.attempt.run p).1 (m.attempt.run p).2 := by
  rw [Move.attempt, run_proceed]
  by_cases h : p.milestone.next? = some m.target
  · simp only [advance, if_pos h]
    exact ⟨by simp [h], fun _ => ⟨rfl, rfl, rfl⟩, by simp⟩
  · simp only [advance, if_neg h]
    exact ⟨by simp [h], by simp, fun _ => ⟨rfl, rfl⟩⟩

theorem MatchesMilestone.of_answers (h : p.MatchesMilestone) (ha : p.Answers m result q) :
    q.MatchesMilestone := by
  by_cases hok : result = .ok ()
  · obtain ⟨hmilestone, -, htransitions⟩ := ha.moved hok
    rw [MatchesMilestone, htransitions, List.map_append, h, hmilestone,
      Milestone.take_forward_of_next? (ha.ok_iff.mp hok)]
    rfl
  · obtain ⟨-, rfl⟩ := ha.refused hok
    exact h

theorem Answers.startedAt_eq (h : p.Answers m result q) : q.startedAt = p.startedAt := by
  by_cases hok : result = .ok ()
  · exact (h.moved hok).2.1
  · rw [(h.refused hok).2]

end Progress

section Attempts

variable {p : Progress} {m : Move} {ms : List Move}

@[simp] theorem run_attempts_cons (m : Move) (ms : List Move) (p : Progress) :
    (attempts (m :: ms)).run p =
      ((m.attempt.run p).1 :: ((attempts ms).run (m.attempt.run p).2).1,
        ((attempts ms).run (m.attempt.run p).2).2) := by
  simp [attempts]
  rfl

theorem length_attempts (ms : List Move) (p : Progress) :
    ((attempts ms).run p).1.length = ms.length := by
  induction ms generalizing p with
  | nil => rfl
  | cons m ms ih => simp [ih]

theorem Progress.MatchesMilestone.attempts (h : p.MatchesMilestone) (ms : List Move) :
    ((attempts ms).run p).2.MatchesMilestone := by
  induction ms generalizing p with
  | nil => exact h
  | cons m ms ih =>
    rw [run_attempts_cons]
    exact ih (h.of_answers (p.answers_attempt m))

theorem startedAt_attempts (ms : List Move) (p : Progress) :
    ((attempts ms).run p).2.startedAt = p.startedAt := by
  induction ms generalizing p with
  | nil => rfl
  | cons m ms ih =>
    rw [run_attempts_cons, ih]
    exact (p.answers_attempt m).startedAt_eq

/-- Each call is put to the progress that the calls before it have left. -/
theorem answers_attempts {k : Nat} (hk : ms[k]? = some m) (p : Progress) :
    ∃ result, ((attempts ms).run p).1[k]? = some result ∧
      ((attempts (ms.take k)).run p).2.Answers m result
        ((attempts (ms.take (k + 1))).run p).2 := by
  induction ms generalizing k p with
  | nil => simp at hk
  | cons n ms ih =>
    cases k with
    | zero =>
      obtain rfl : n = m := by simpa using hk
      exact ⟨(n.attempt.run p).1, by simp, p.answers_attempt n⟩
    | succ k =>
      obtain ⟨result, hresult, ha⟩ := ih (by simpa using hk) (n.attempt.run p).2
      exact ⟨result, by simpa using hresult, by simpa using ha⟩

/-- The calls that are refused can be left out. -/
theorem run_attempts_successes (ms : List Move) (p : Progress) :
    (attempts (successes ms ((attempts ms).run p).1)).run p =
      (List.replicate (successes ms ((attempts ms).run p).1).length (.ok ()),
        ((attempts ms).run p).2) := by
  induction ms generalizing p with
  | nil => rfl
  | cons m ms ih =>
    have ha := p.answers_attempt m
    rw [run_attempts_cons]
    cases hresult : (m.attempt.run p).1 with
    | ok =>
      rw [successes_cons_ok, run_attempts_cons, ih, hresult]
      rfl
    | error f =>
      have hp : (m.attempt.run p).2 = p := (ha.refused (by simp [hresult])).2
      rw [successes_cons_error, hp]
      exact ih p

end Attempts

/-- Whatever moves are tried from the beginning on, the progress is in order. Each call goes on to
the next milestone or is refused, and the progress is the one that the calls that succeed lead to by
themselves. -/
theorem attempts_keep_order (start : Stamp) (ms : List Move) :
    let (results, p) := (attempts ms).run (.begin start)
    p.InOrder ∧ p.startedAt = start ∧ results.length = ms.length ∧
      (∀ k m, ms[k]? = some m → ∃ result, results[k]? = some result ∧
        ((attempts (ms.take k)).run (.begin start)).2.Answers m result
          ((attempts (ms.take (k + 1))).run (.begin start)).2) ∧
      (attempts (successes ms results)).run (.begin start) =
        (List.replicate (successes ms results).length (.ok ()), p) := by
  have htold := (Progress.matchesMilestone_begin start).attempts ms
  exact ⟨htold.inOrder, startedAt_attempts ms _, length_attempts ms _,
    fun k m hk => answers_attempts hk _, run_attempts_successes ms _⟩

/-- A move that skips milestones and one that goes back, each before a good one. -/
example :
    let (results, p) := (attempts [⟨.inviteeAccepted, ⟨1⟩⟩, ⟨.invitationCreated, ⟨2⟩⟩,
      ⟨.start, ⟨3⟩⟩, ⟨.invitationReceived, ⟨4⟩⟩]).run (.begin ⟨0⟩)
    results = [.error (.badTransition .start .inviteeAccepted), .ok (),
        .error (.badTransition .invitationCreated .start), .ok ()] ∧
      p.transitions = [⟨.start, .invitationCreated, ⟨2⟩⟩,
        ⟨.invitationCreated, .invitationReceived, ⟨4⟩⟩] :=
  ⟨rfl, rfl⟩

end Rendezvous.Handshake
