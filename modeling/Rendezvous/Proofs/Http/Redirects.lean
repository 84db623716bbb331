import Rendezvous.Proofs.Http.Reception

/-! The requests that a call is sent on as. -/

namespace Rendezvous.Http

open Agent (Call)

def Incoming.responses (i : Incoming) : List Response := i.deliveries.filterMap Delivery.response

/-- Some of the responses turn one request into another. -/
inductive Redirects (came : List Response) : Request → Request → Prop
  | own (q : Request) : Redirects came q q
  | sentOn {q next x : Request} {r : Response} {followed : Nat} (mem : r ∈ came)
      (leads : q.redirection followed r = .leads next) (rest : Redirects came next x) :
      Redirects came q x

variable {q next x : Request} {r : Response} {came : List Response}

/-- A request is sent on by a redirect that names another place. -/
theorem Request.redirection_eq_leads {followed : Nat}
    (h : q.redirection followed r = .leads next) :
    r.location ≠ none ∧ ∃ u, q.destination? r = some u ∧ next = q.movedTo r.status u := by
  unfold redirection at h
  split at h
  · split at h
    · cases h
    rename_i u hu
    split at h
    · cases h
    split at h
    · cases h
      refine ⟨fun hnone => ?_, u, hu, rfl⟩
      simp [destination?, hnone] at hu
    · cases h
  · cases h

namespace Redirects

theorem apiKey_eq (h : Redirects came q x) : x.apiKey = q.apiKey := by
  induction h with
  | own q => rfl
  | sentOn mem leads rest ih =>
    obtain ⟨-, u, -, rfl⟩ := Request.redirection_eq_leads leads
    exact ih

/-- Responses that name no place send nothing on. -/
theorem eq_of_unplaced (h : Redirects came q x) (unplaced : ∀ r ∈ came, r.location = none) :
    x = q := by
  cases h with
  | own q => rfl
  | sentOn mem leads rest =>
    exact absurd (unplaced _ mem) (Request.redirection_eq_leads leads).1

theorem mono {came' : List Response} (h : Redirects came q x) (hsub : came ⊆ came') :
    Redirects came' q x := by
  induction h with
  | own q => exact .own q
  | sentOn mem leads rest ih => exact .sentOn (hsub mem) leads ih

end Redirects

theorem redirects_of_mem_pursue {limit followed elapsed : Nat} {ds : List Delivery}
    (h : x ∈ (pursue limit followed elapsed q ds).sent) :
    Redirects (ds.filterMap Delivery.response) q x := by
  fun_induction pursue limit followed elapsed q ds with
  | case7 followed elapsed q d later headed intime r hr next leads p ih =>
    rcases List.mem_cons.mp h with rfl | h
    · exact .own x
    · rw [List.filterMap_cons, hr]
      exact .sentOn List.mem_cons_self leads ((ih h).mono (List.subset_cons_self _ _))
  | _ =>
    obtain rfl := List.mem_singleton.mp h
    exact .own x

/-- The requests of a call are its client's own one and those that come of it. -/
theorem exists_redirects_of_mem_requests {c : Client} {call : Call} {next : Option Incoming}
    (h : x ∈ c.requests call next) :
    ∃ q, c.request call = .ok q ∧ Redirects (next.elim [] Incoming.responses) q x := by
  rw [Client.requests, Client.pursuit] at h
  cases hq : c.request call with
  | error o =>
    rw [hq] at h
    cases h
  | ok q =>
    rw [hq] at h
    refine ⟨q, rfl, ?_⟩
    have hredirects := redirects_of_mem_pursue h
    cases next <;> exact hredirects

end Rendezvous.Http
