import Rendezvous.Agent.Endpoint
import Rendezvous.Proofs.Text.Runs

/-! What trimming takes off the end of a text, and what it leaves. -/

namespace Rendezvous

theorem Text.dropEndWhile_eq_iff {α : Type} {p : α → Bool} {xs ys : List α} :
    dropEndWhile p xs = ys ↔
      (∃ zs, xs = ys ++ zs ∧ ∀ z ∈ zs, p z = true) ∧ ∀ y ∈ ys.getLast?, p y = false := by
  constructor
  · rintro rfl
    refine ⟨⟨(xs.reverse.takeWhile p).reverse, ?_, fun z hz => ?_⟩, fun y hy => ?_⟩
    · rw [dropEndWhile, ← List.reverse_append, List.takeWhile_append_dropWhile,
        List.reverse_reverse]
    · exact List.all_eq_true.mp List.all_takeWhile z (List.mem_reverse.mp hz)
    · rw [dropEndWhile, List.getLast?_reverse] at hy
      have hstop := List.head?_dropWhile_not p xs.reverse
      rw [Option.mem_def.mp hy] at hstop
      exact hstop
  · rintro ⟨⟨zs, rfl, hzs⟩, hlast⟩
    rw [dropEndWhile, List.reverse_append,
      List.dropWhile_append_of_pos fun z hz => hzs z (List.mem_reverse.mp hz)]
    rw [← List.head?_reverse] at hlast
    cases hback : ys.reverse with
    | nil => simpa using hback
    | cons y r =>
      rw [List.dropWhile_cons_of_neg (by simp [hlast y (by simp [hback])]), ← hback,
        List.reverse_reverse]

theorem Text.dropEndWhile_append {α : Type} (p : α → Bool) (xs ys : List α) :
    dropEndWhile p (xs ++ ys) =
      if dropEndWhile p ys = [] then dropEndWhile p xs else xs ++ dropEndWhile p ys := by
  simp only [dropEndWhile, List.reverse_append, List.dropWhile_append, List.isEmpty_iff,
    List.reverse_eq_nil_iff]
  split
  · rfl
  · rw [List.reverse_append, List.reverse_reverse]

theorem Text.mem_of_mem_dropEndWhile {α : Type} {p : α → Bool} {xs : List α} {x : α}
    (h : x ∈ dropEndWhile p xs) : x ∈ xs := by
  obtain ⟨⟨zs, hzs, -⟩, -⟩ := dropEndWhile_eq_iff.mp (rfl : dropEndWhile p xs = _)
  rw [hzs]
  exact List.mem_append_left zs h

/-- Only at the end is anything trimmed off a text that starts with no white space. -/
theorem Text.exists_trim_append {s : String} (h : ∀ c ∈ s.toList.head?, isBlank c = false) :
    ∃ zs, s.toList = (trim s).toList ++ zs ∧ ∀ z ∈ zs, isBlank z = true := by
  have hfirst : s.toList.dropWhile isBlank = s.toList := dropWhile_of_stop h
  obtain ⟨hsplit, -⟩ := Text.dropEndWhile_eq_iff.mp (rfl : dropEndWhile isBlank s.toList = _)
  rwa [trim, hfirst, String.toList_ofList]

theorem Text.trim_eq_self_iff {s : String} :
    trim s = s ↔ (∀ c ∈ s.toList.head?, isBlank c = false) ∧
      ∀ c ∈ s.toList.getLast?, isBlank c = false := by
  constructor
  · intro h
    rw [← String.toList_inj, trim, String.toList_ofList] at h
    obtain ⟨⟨back, hsplit, -⟩, hlast⟩ := Text.dropEndWhile_eq_iff.mp h
    refine ⟨fun c hc => stops_dropWhile (p := isBlank) (s := s.toList) ?_, hlast⟩
    rw [hsplit, List.head?_append, Option.mem_def.mp hc]
    rfl
  · rintro ⟨hfirst, hlast⟩
    have hback : dropEndWhile isBlank s.toList = s.toList :=
      Text.dropEndWhile_eq_iff.mpr ⟨⟨[], by simp⟩, hlast⟩
    rw [trim, dropWhile_of_stop hfirst, hback, String.ofList_toList]

/-- What is trimmed has no white space around it. -/
theorem Text.trim_trim (s : String) : trim (trim s) = trim s := by
  obtain ⟨⟨back, hsplit, -⟩, hlast⟩ :=
    Text.dropEndWhile_eq_iff.mp (rfl : dropEndWhile isBlank (s.toList.dropWhile isBlank) = _)
  refine trim_eq_self_iff.mpr ?_
  rw [trim, String.toList_ofList]
  refine ⟨fun c hc => stops_dropWhile (p := isBlank) (s := s.toList) ?_, hlast⟩
  rw [hsplit, List.head?_append, Option.mem_def.mp hc]
  rfl

namespace Endpoint

variable {s t : String}

theorem trimSlashes_eq_iff :
    trimSlashes s = t ↔
      (∃ n, s.toList = t.toList ++ List.replicate n '/') ∧ t.toList.getLast? ≠ some '/' := by
  have hlast : (∀ c ∈ t.toList.getLast?, (c == '/') = false) ↔ t.toList.getLast? ≠ some '/' := by
    cases t.toList.getLast? <;> simp
  rw [trimSlashes, ← String.toList_inj, String.toList_ofList, Text.dropEndWhile_eq_iff, hlast]
  refine and_congr_left fun _ => ⟨?_, ?_⟩
  · rintro ⟨zs, hs, hzs⟩
    have hslashes : zs = List.replicate zs.length '/' :=
      List.eq_replicate_of_mem fun z hz => by simpa using hzs z hz
    exact ⟨zs.length, by rw [hs, ← hslashes]⟩
  · rintro ⟨n, hs⟩
    exact ⟨_, hs, fun z hz => by simp [List.eq_of_mem_replicate hz]⟩

theorem trimSlashes_eq_self (h : s.toList.getLast? ≠ some '/') : trimSlashes s = s :=
  trimSlashes_eq_iff.mpr ⟨⟨0, by simp⟩, h⟩

end Endpoint

end Rendezvous
