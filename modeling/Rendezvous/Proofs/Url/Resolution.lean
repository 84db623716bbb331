import Rendezvous.Proofs.Text.Percent
import Rendezvous.Url.Parse

/-! Where the segments of a web address lead: the place that a path stands for as long as more
segments come behind it. -/

namespace Rendezvous.Url

variable {done xs ys : List (List Char)} {s path : List Char}

/-- Goes over one segment that is not the last one. The segments done are given last one first. -/
def step (done : List (List Char)) (s : List Char) : List (List Char) :=
  if isDoubleDot s then done.tail
  else if isSingleDot s then done
  else Text.percentEncode isPlainInPath s :: done

def Leads (s : List Char) : Prop := isSingleDot s = false ∧ isDoubleDot s = false

/-- The segments of the place to which a path leads. What follows the path is put behind them. -/
def directory (path : List Char) : List (List Char) :=
  match path with
  | [] => []
  | _ :: r => ((splitPath isWebSlash r).foldl step []).reverse

theorem toList_pathText (parts : List String) :
    (Path.segments parts).text.toList = (parts.map String.toList).flatMap ('/' :: ·) := by
  simp [Path.text, String.toList_join, List.flatMap_map]

theorem toList_text_pathOf (segments : List (List Char)) :
    (pathOf segments).text.toList = segments.flatMap ('/' :: ·) := by
  rw [pathOf, toList_pathText, List.map_map]
  simp [Function.comp_def]

theorem percentDecode_of_dropPoint? {r : List Char} (h : dropPoint? s = some r) :
    Text.percentDecode s = 0x2E :: Text.percentDecode r := by
  unfold dropPoint? at h
  split at h
  · cases h
    exact Text.percentDecode_cons (by decide) _
  · split at h
    · rename_i e _ he
      cases h
      rcases he with rfl | rfl
      · exact Text.percentDecode_percentByte 0x2E _
      · exact Text.percentDecode_percentByte 0x2E _
    · cases h
  · cases h

theorem percentDecode_of_isSingleDot (h : isSingleDot s = true) :
    Text.percentDecode s = Text.encodeUtf8 ['.'] :=
  percentDecode_of_dropPoint? (eq_of_beq h)

theorem percentDecode_of_isDoubleDot (h : isDoubleDot s = true) :
    Text.percentDecode s = Text.encodeUtf8 ['.', '.'] := by
  obtain ⟨r, hs, hr⟩ := Option.bind_eq_some_iff.mp (eq_of_beq h)
  rw [percentDecode_of_dropPoint? hs, percentDecode_of_dropPoint? hr]
  rfl

theorem shorten_eq_tail (done : List (List Char)) : shorten false done = done.tail := by
  match done with
  | [] => rfl
  | [_] => rfl
  | _ :: _ :: _ => rfl

theorem step_of_leads (h : Leads s) (done : List (List Char)) :
    step done s = Text.percentEncode isPlainInPath s :: done := by
  simp [step, h.1, h.2]

theorem resolveFrom_cons (h : ys ≠ []) (s : List Char) (done : List (List Char)) :
    resolveFrom false done (s :: ys) = resolveFrom false (step done s) ys := by
  rw [resolveFrom, step, shorten_eq_tail, List.isEmpty_eq_false_iff.mpr h]
  simp only [Bool.false_eq_true, if_false, Bool.false_and]
  split
  · rfl
  · split <;> rfl

theorem resolveFrom_append (h : ys ≠ []) (xs done : List (List Char)) :
    resolveFrom false done (xs ++ ys) = resolveFrom false (xs.foldl step done) ys := by
  induction xs generalizing done with
  | nil => rfl
  | cons x xs ih =>
    rw [List.cons_append, resolveFrom_cons (List.append_ne_nil_of_right_ne_nil xs h), ih,
      List.foldl_cons]

/-- A path that ends with a segment that leads nowhere ends with a slash. -/
theorem resolveFrom_singleton (s : List Char) (done : List (List Char)) :
    resolveFrom false done [s] =
      (step done s).reverse ++ if isDoubleDot s || isSingleDot s then [[]] else [] := by
  rw [resolveFrom, step, shorten_eq_tail]
  cases isDoubleDot s <;> cases isSingleDot s <;> simp [resolveFrom]

theorem exists_resolveFrom (h : xs ≠ []) (done : List (List Char)) :
    ∃ n, resolveFrom false done xs = (xs.foldl step done).reverse ++ List.replicate n [] := by
  obtain ⟨init, s, rfl⟩ : ∃ init s, xs = init ++ [s] :=
    ⟨xs.dropLast, xs.getLast h, (List.dropLast_concat_getLast h).symm⟩
  rw [resolveFrom_append (List.cons_ne_nil s []), resolveFrom_singleton, List.foldl_append]
  split
  · exact ⟨1, rfl⟩
  · exact ⟨0, rfl⟩

theorem resolveFrom_of_leads (h : ∀ s ∈ xs, Leads s) (done : List (List Char)) :
    resolveFrom false done xs = done.reverse ++ xs.map (Text.percentEncode isPlainInPath) := by
  induction xs generalizing done with
  | nil => simp [resolveFrom]
  | cons x xs ih =>
    have hx := h x List.mem_cons_self
    have hrest := ih fun s hs => h s (List.mem_cons_of_mem x hs)
    cases xs with
    | nil => simp [resolveFrom_singleton, step_of_leads hx, hx.1, hx.2]
    | cons y xs =>
      rw [resolveFrom_cons (List.cons_ne_nil y xs), hrest, step_of_leads hx]
      simp

theorem splitPath_ne_nil (t : List Char) : splitPath isWebSlash t ≠ [] :=
  List.splitOnP_ne_nil isWebSlash t

/-- What is put behind a path goes on from the place to which the path leads. -/
theorem resolve_append (path : List Char) {c : Char} (hc : isWebSlash c = true) (t : List Char) :
    resolve false (splitPath isWebSlash (path ++ c :: t).tail) =
      resolveFrom false (directory path).reverse (splitPath isWebSlash t) := by
  cases path with
  | nil => rfl
  | cons d r =>
    have hsplit : splitPath isWebSlash ((d :: r) ++ c :: t).tail =
        splitPath isWebSlash r ++ splitPath isWebSlash t := List.splitOnP_append_cons r t hc
    rw [hsplit, resolve, resolveFrom_append (splitPath_ne_nil t), directory,
      List.reverse_reverse]

theorem splitPath_slashes (n : Nat) :
    splitPath isWebSlash (List.replicate n '/') = List.replicate (n + 1) [] := by
  induction n with
  | zero => rfl
  | succ n ih =>
    have hsplit : splitPath isWebSlash ([] ++ '/' :: List.replicate n '/') =
        splitPath isWebSlash [] ++ splitPath isWebSlash (List.replicate n '/') :=
      List.splitOnP_append_cons [] _ rfl
    rw [List.nil_append] at hsplit
    rw [List.replicate_succ, hsplit, ih]
    rfl

/-- A path resolves to the place to which it leads, but for slashes at its end. -/
theorem exists_resolve_slashes (path : List Char) (n : Nat) :
    ∃ m, resolve false (splitPath isWebSlash (path ++ List.replicate n '/').tail) =
      directory path ++ List.replicate m [] := by
  cases n with
  | zero =>
    cases path with
    | nil => exact ⟨1, rfl⟩
    | cons c r =>
      rw [List.replicate_zero, List.append_nil, List.tail_cons]
      exact exists_resolveFrom (splitPath_ne_nil r) []
  | succ n =>
    refine ⟨n + 1, ?_⟩
    have hleads : ∀ s ∈ List.replicate (n + 1) ([] : List Char), Leads s := by
      intro s hs
      rw [List.eq_of_mem_replicate hs]
      exact ⟨rfl, rfl⟩
    rw [List.replicate_succ, resolve_append path rfl, splitPath_slashes,
      resolveFrom_of_leads hleads, List.reverse_reverse, List.map_replicate]
    rfl

/-- The segments of a path that is written out are read back from it. -/
theorem splitPath_flatMap (hne : xs ≠ []) (hxs : ∀ s ∈ xs, ∀ c ∈ s, isWebSlash c = false) :
    splitPath isWebSlash (xs.flatMap ('/' :: ·)).tail = xs := by
  induction xs with
  | nil => exact absurd rfl hne
  | cons x xs ih =>
    have hx : ∀ c ∈ x, isWebSlash c = false := hxs x List.mem_cons_self
    cases xs with
    | nil => simpa [splitPath] using List.splitOnP_eq_singleton hx
    | cons y xs =>
      have hrest := ih (List.cons_ne_nil y xs) fun s hs => hxs s (List.mem_cons_of_mem x hs)
      simp only [List.flatMap_cons, List.cons_append, List.tail_cons] at hrest ⊢
      rw [splitPath, List.splitOnP_append_cons_of_forall_mem hx '/' rfl]
      exact congrArg (x :: ·) hrest

theorem not_mem_splitPath {s t : List Char} (h : s ∈ splitPath isWebSlash t) : '/' ∉ s := by
  induction t generalizing s with
  | nil =>
    obtain rfl : s = [] := by simpa [splitPath, List.splitOnP_nil] using h
    exact List.not_mem_nil
  | cons c t ih =>
    rw [splitPath, List.splitOnP_cons_eq_if_modifyHead] at h
    split at h
    · rcases List.mem_cons.mp h with rfl | h
      · exact List.not_mem_nil
      · exact ih h
    · rename_i hc
      obtain ⟨x, xs, hsplit⟩ := List.exists_cons_of_ne_nil (splitPath_ne_nil t)
      rw [hsplit] at ih
      rw [splitPath] at hsplit
      rw [hsplit, List.modifyHead_cons] at h
      rcases List.mem_cons.mp h with rfl | h
      · rintro (_ | ⟨_, hx⟩)
        · exact hc rfl
        · exact ih List.mem_cons_self hx
      · exact ih (List.mem_cons_of_mem x h)

theorem not_mem_foldl_step (hdone : ∀ s ∈ done, '/' ∉ s) (hxs : ∀ s ∈ xs, '/' ∉ s) :
    ∀ s ∈ xs.foldl step done, '/' ∉ s := by
  induction xs generalizing done with
  | nil => exact hdone
  | cons x xs ih =>
    refine ih (fun s hs => ?_) fun s hs => hxs s (List.mem_cons_of_mem x hs)
    unfold step at hs
    split at hs
    · exact hdone s (List.mem_of_mem_tail hs)
    · split at hs
      · exact hdone s hs
      · rcases List.mem_cons.mp hs with rfl | hs
        · intro hslash
          rcases Text.mem_percentEncode hslash with ⟨hmem, -⟩ | hpercent | hunreserved
          · exact hxs x List.mem_cons_self hmem
          · exact absurd hpercent (by decide)
          · exact absurd hunreserved (by decide)
        · exact hdone s hs

theorem not_mem_of_mem_directory {s : List Char} (h : s ∈ directory path) : '/' ∉ s := by
  cases path with
  | nil => cases h
  | cons c r =>
    have hnone : ∀ s ∈ ([] : List (List Char)), '/' ∉ s := nofun
    exact not_mem_foldl_step hnone (fun s => not_mem_splitPath) s (List.mem_reverse.mp h)

end Rendezvous.Url
