import Rendezvous.Handshake.Matching

/-! Which record of a listing is selected, and at which place it stands: the own one while it is
listed, by either rule, and in its absence the last one that is ready, one with the alias first. -/

namespace Rendezvous

def ConnectionRecord.HasState (target : String) (r : ConnectionRecord) : Prop :=
  r.state = target ∨ r.rfc23State = some target

theorem ConnectionRecord.isIn_iff {r : ConnectionRecord} {target : String} :
    r.isIn target = true ↔ r.HasState target := by
  simp [isIn, HasState]

namespace Handshake

/-- `x` stands at place `k` and is the first of `xs` with `p`. -/
structure FirstAt {α : Type} (p : α → Prop) (xs : List α) (k : Nat) (x : α) : Prop where
  place : xs[k]? = some x
  holds : p x
  before : ∀ j y, j < k → xs[j]? = some y → ¬p y

/-- `x` stands at place `k` and is the last of `xs` with `p`. -/
structure LastAt {α : Type} (p : α → Prop) (xs : List α) (k : Nat) (x : α) : Prop where
  place : xs[k]? = some x
  holds : p x
  after : ∀ j y, k < j → xs[j]? = some y → ¬p y

section Places

variable {α : Type} {p : α → Bool} {q : α → Prop} {xs : List α} {k : Nat} {x : α}

def placed (p : α → Bool) (xs : List α) : List (α × Nat) := xs.zipIdx.filter fun y => p y.1

theorem mem_placed : (x, k) ∈ placed p xs ↔ xs[k]? = some x ∧ p x = true := by
  rw [placed, List.mem_filter, List.mk_mem_zipIdx_iff_getElem?]

theorem placed_pairwise (p : α → Bool) (xs : List α) :
    (placed p xs).Pairwise fun y z => y.2 < z.2 := by
  have hplaces : (xs.zipIdx.map Prod.snd).Pairwise (· < ·) := by
    rw [List.zipIdx_map_snd]
    exact List.pairwise_lt_range'
  exact (List.pairwise_map.mp hplaces).filter _

theorem firstAt_of_head? (hpq : ∀ y, p y = true ↔ q y) (h : (placed p xs).head? = some (x, k)) :
    FirstAt q xs k x := by
  obtain ⟨rest, hrest⟩ := List.head?_eq_some_iff.mp h
  obtain ⟨hx, hp⟩ := mem_placed.mp (hrest ▸ List.mem_cons_self)
  refine ⟨hx, (hpq x).mp hp, fun j y hj hy hq => ?_⟩
  have hmem : (y, j) ∈ placed p xs := mem_placed.mpr ⟨hy, (hpq y).mpr hq⟩
  have hsorted := placed_pairwise p xs
  rw [hrest] at hmem hsorted
  rcases List.mem_cons.mp hmem with heq | hmem
  · cases heq
    omega
  · have hlt := List.rel_of_pairwise_cons hsorted hmem
    omega

theorem lastAt_of_getLast? (hpq : ∀ y, p y = true ↔ q y)
    (h : (placed p xs).getLast? = some (x, k)) : LastAt q xs k x := by
  obtain ⟨rest, hrest⟩ := List.getLast?_eq_some_iff.mp h
  obtain ⟨hx, hp⟩ := mem_placed.mp (List.mem_of_getLast? h)
  refine ⟨hx, (hpq x).mp hp, fun j y hj hy hq => ?_⟩
  have hmem : (y, j) ∈ placed p xs := mem_placed.mpr ⟨hy, (hpq y).mpr hq⟩
  have hsorted := placed_pairwise p xs
  rw [hrest] at hmem hsorted
  rcases List.mem_append.mp hmem with hmem | heq
  · have hlt := (List.pairwise_append.mp hsorted).2.2 _ hmem _ (List.mem_singleton_self _)
    omega
  · cases List.mem_singleton.mp heq
    omega

theorem placed_ne_nil (hpq : ∀ y, p y = true ↔ q y) (h : ∃ y ∈ xs, q y) : placed p xs ≠ [] := by
  obtain ⟨y, hy, hq⟩ := h
  obtain ⟨k, hk⟩ := List.getElem?_of_mem hy
  exact List.ne_nil_of_mem (mem_placed.mpr ⟨hk, (hpq y).mpr hq⟩)

theorem exists_firstAt (hpq : ∀ y, p y = true ↔ q y) (h : ∃ y ∈ xs, q y) :
    ∃ k x, (placed p xs).head? = some (x, k) ∧ FirstAt q xs k x := by
  obtain ⟨⟨x, k⟩, hx⟩ := Option.isSome_iff_exists.mp (List.isSome_head?.mpr (placed_ne_nil hpq h))
  exact ⟨k, x, hx, firstAt_of_head? hpq hx⟩

theorem exists_lastAt (hpq : ∀ y, p y = true ↔ q y) (h : ∃ y ∈ xs, q y) :
    ∃ k x, (placed p xs).getLast? = some (x, k) ∧ LastAt q xs k x := by
  obtain ⟨⟨x, k⟩, hx⟩ := Option.isSome_iff_exists.mp
    (List.getLast?_isSome.mpr (placed_ne_nil hpq h))
  exact ⟨k, x, hx, lastAt_of_getLast? hpq hx⟩

theorem placed_eq_nil (hpq : ∀ y, p y = true ↔ q y) (h : ∀ y ∈ xs, ¬q y) : placed p xs = [] := by
  rw [List.eq_nil_iff_forall_not_mem]
  rintro ⟨y, k⟩ hy
  obtain ⟨hplace, hp⟩ := mem_placed.mp hy
  exact h y (List.mem_of_getElem? hplace) ((hpq y).mp hp)

end Places

namespace Correlation

variable {α β : Type} {c : Correlation} {rule : Matching} {target : String}
  {listed : List ConnectionRecord}

theorem choose_of_own {record : α → ConnectionRecord} {xs : List α} {own : α}
    (h : (xs.find? fun x => (record x).connectionId == c.connectionId.text) = some own)
    (rule : Matching) :
    c.choose rule target record xs = if (record own).isIn target then some own else none := by
  simp only [choose, h]

/-- While the own record is listed the rule makes no difference. -/
theorem select_of_listed (h : ∃ x ∈ listed, x.connectionId = c.connectionId.text)
    (rule rule' : Matching) : c.select rule target listed = c.select rule' target listed := by
  have hsome : (listed.find? fun x => x.connectionId == c.connectionId.text).isSome := by
    simpa using h
  obtain ⟨own, hown⟩ := Option.isSome_iff_exists.mp hsome
  have hrule : ∀ rule : Matching,
      c.select rule target listed = if own.isIn target then some own else none :=
    choose_of_own hown
  rw [hrule, hrule]

/-- In the absence of the own record the rule decides. -/
theorem choose_of_unlisted {record : α → ConnectionRecord} {xs : List α}
    (h : ∀ x ∈ xs, (record x).connectionId ≠ c.connectionId.text) (target : String) :
    c.choose .strict target record xs = none ∧
      c.choose .lastMatch target record xs =
        (c.aliasName.bind fun a => (xs.filter fun x =>
          (record x).isIn target && (record x).aliasName == some a).getLast?).or
            (xs.filter fun x => (record x).isIn target).getLast? := by
  have hnone : (xs.find? fun x => (record x).connectionId == c.connectionId.text) = none := by
    rw [List.find?_eq_none]
    intro x hx
    simpa using h x hx
  constructor
  · simp only [choose, hnone]
  · simp only [choose, hnone, List.filter_filter, Bool.and_comm]

theorem choose_map (record : α → ConnectionRecord) (f : β → α) (xs : List β) :
    c.choose rule target record (xs.map f) =
      (c.choose rule target (fun x => record (f x)) xs).map f := by
  simp only [choose, List.find?_map, Function.comp_def]
  cases xs.find? fun x => (record (f x)).connectionId == c.connectionId.text with
  | some own =>
    simp only [Option.map_some]
    split <;> rfl
  | none =>
    cases rule with
    | strict => rfl
    | lastMatch =>
      simp only [Option.map_none, List.filter_map, List.getLast?_map, Function.comp_def,
        Option.map_or, Option.map_bind]

/-- What is chosen is in the target state. It is the own record, or stands in for it. -/
theorem choose_cases {record : α → ConnectionRecord} {xs : List α} {y : α}
    (h : c.choose rule target record xs = some y) :
    y ∈ xs ∧ (record y).isIn target = true ∧
      ((record y).connectionId = c.connectionId.text ∨
        rule = .lastMatch ∧ ∀ x ∈ xs, (record x).connectionId ≠ c.connectionId.text) := by
  cases hfind : xs.find? fun x => (record x).connectionId == c.connectionId.text with
  | some own =>
    rw [choose_of_own hfind] at h
    split at h
    · rename_i hready
      cases h
      exact ⟨List.mem_of_find?_eq_some hfind, hready, .inl (by simpa using List.find?_some hfind)⟩
    · cases h
  | none =>
    have hunlisted : ∀ x ∈ xs, (record x).connectionId ≠ c.connectionId.text := by
      simpa using List.find?_eq_none.mp hfind
    obtain ⟨hstrict, hlast⟩ := choose_of_unlisted hunlisted target
    cases rule with
    | strict =>
      rw [hstrict] at h
      cases h
    | lastMatch =>
      rw [hlast] at h
      have hmem : y ∈ xs ∧ (record y).isIn target = true := by
        rcases Option.or_eq_some_iff.mp h with hnamed | ⟨-, hready⟩
        · obtain ⟨a, -, hnamed⟩ := Option.bind_eq_some_iff.mp hnamed
          have hy := List.mem_filter.mp (List.mem_of_getLast? hnamed)
          exact ⟨hy.1, (Bool.and_eq_true_iff.mp hy.2).1⟩
        · exact List.mem_filter.mp (List.mem_of_getLast? hready)
      exact ⟨hmem.1, hmem.2, .inr ⟨rfl, hunlisted⟩⟩

/-- What is chosen by the own name is chosen by either rule. -/
theorem choose_of_strict {record : α → ConnectionRecord} {xs : List α} {y : α}
    (h : c.choose .strict target record xs = some y) (rule : Matching) :
    c.choose rule target record xs = some y := by
  cases hfind : xs.find? fun x => (record x).connectionId == c.connectionId.text with
  | some own => rwa [choose_of_own hfind] at h ⊢
  | none =>
    have hunlisted : ∀ x ∈ xs, (record x).connectionId ≠ c.connectionId.text := by
      simpa using List.find?_eq_none.mp hfind
    rw [(choose_of_unlisted hunlisted target).1] at h
    cases h

/-- What comes of a listing by a rule: a record and its place, or nothing. -/
def Gives (c : Correlation) (rule : Matching) (target : String) (listed : List ConnectionRecord)
    (picked : Option (ConnectionRecord × Nat)) : Prop :=
  c.select rule target listed = picked.map Prod.fst ∧
    c.selectIndex rule target listed = picked.map Prod.snd

theorem gives_iff {picked : Option (ConnectionRecord × Nat)} :
    c.Gives rule target listed picked ↔
      c.choose rule target Prod.fst listed.zipIdx = picked := by
  have hselect : c.choose rule target id (listed.zipIdx.map Prod.fst) =
      (c.choose rule target Prod.fst listed.zipIdx).map Prod.fst := choose_map id Prod.fst _
  rw [List.zipIdx_map_fst] at hselect
  unfold Gives select selectIndex
  rw [hselect]
  generalize c.choose rule target Prod.fst listed.zipIdx = chosen
  constructor
  · rintro ⟨hrecord, hplace⟩
    cases chosen with
    | none => cases picked <;> simp_all
    | some y => cases picked <;> simp_all [Prod.ext_iff]
  · rintro rfl
    exact ⟨rfl, rfl⟩

def Unlisted (c : Correlation) (listed : List ConnectionRecord) : Prop :=
  ∀ x ∈ listed, x.connectionId ≠ c.connectionId.text

theorem Unlisted.zipIdx (h : c.Unlisted listed) :
    ∀ x ∈ listed.zipIdx, x.1.connectionId ≠ c.connectionId.text := by
  rintro ⟨x, k⟩ hx
  exact h x (List.mem_of_getElem? (List.mk_mem_zipIdx_iff_getElem?.mp hx))

/-- The rule by which a record is selected from a listing, clause by clause. -/
structure KeepsRule (c : Correlation) (target : String) (listed : List ConnectionRecord) :
    Prop where
  /-- By either rule the first record of the own name decides alone. -/
  own : (∃ x ∈ listed, x.connectionId = c.connectionId.text) →
    ∃ k record, FirstAt (fun x => x.connectionId = c.connectionId.text) listed k record ∧
      ∀ rule, (record.HasState target → c.Gives rule target listed (some (record, k))) ∧
        (¬record.HasState target → c.Gives rule target listed none)
  strict : c.Unlisted listed → c.Gives .strict target listed none
  /-- The last record with the alias goes first. -/
  named : c.Unlisted listed → ∀ a, c.aliasName = some a →
    (∃ x ∈ listed, x.HasState target ∧ x.aliasName = some a) →
    ∃ k record, LastAt (fun x => x.HasState target ∧ x.aliasName = some a) listed k record ∧
      c.Gives .lastMatch target listed (some (record, k))
  /-- If there is none, the last record of all. -/
  unnamed : c.Unlisted listed →
    (∀ a, c.aliasName = some a → ∀ x ∈ listed, x.HasState target → x.aliasName ≠ some a) →
    (∃ x ∈ listed, x.HasState target) →
    ∃ k record, LastAt (ConnectionRecord.HasState target) listed k record ∧
      c.Gives .lastMatch target listed (some (record, k))
  nothing : c.Unlisted listed →
    (c.Gives .lastMatch target listed none ↔ ∀ x ∈ listed, ¬x.HasState target)
  /-- What is selected is listed, and in the target state. -/
  sound : ∀ rule record, c.select rule target listed = some record →
    ∃ k, c.selectIndex rule target listed = some k ∧ listed[k]? = some record ∧
      record.HasState target
  agree : ∀ record k, c.Gives .strict target listed (some (record, k)) →
    c.Gives .lastMatch target listed (some (record, k))

/-- In the absence of the own record the last one with the alias is looked for, and then the last
one. -/
theorem choose_lastMatch_of_unlisted (h : c.Unlisted listed) (target : String) :
    c.choose .lastMatch target Prod.fst listed.zipIdx =
      (c.aliasName.bind fun a =>
        (placed (fun x => x.isIn target && x.aliasName == some a) listed).getLast?).or
          (placed (fun x => x.isIn target) listed).getLast? :=
  (choose_of_unlisted h.zipIdx target).2

/-- Selection goes by the rule. -/
theorem select_keeps_rule (c : Correlation) (target : String) (listed : List ConnectionRecord) :
    c.KeepsRule target listed := by
  have hready : ∀ x : ConnectionRecord, x.isIn target = true ↔ x.HasState target :=
    fun _ => ConnectionRecord.isIn_iff
  have hnamed : ∀ a (x : ConnectionRecord), (x.isIn target && x.aliasName == some a) = true ↔
      x.HasState target ∧ x.aliasName = some a := by
    intro a x
    rw [Bool.and_eq_true, hready, beq_iff_eq]
  constructor
  case own =>
    intro hlisted
    obtain ⟨k, own, hhead, hfirst⟩ := exists_firstAt
      (p := fun x : ConnectionRecord => x.connectionId == c.connectionId.text)
      (fun _ => beq_iff_eq) hlisted
    rw [placed, List.head?_filter] at hhead
    refine ⟨k, own, hfirst, fun rule => ⟨fun hstate => ?_, fun hstate => ?_⟩⟩
    · rw [gives_iff, choose_of_own hhead, if_pos ((hready own).mpr hstate)]
    · rw [gives_iff, choose_of_own hhead, if_neg (mt (hready own).mp hstate)]
  case strict =>
    intro h
    rw [gives_iff]
    exact (choose_of_unlisted h.zipIdx target).1
  case named =>
    intro h a ha hexists
    obtain ⟨k, x, hlast, hat⟩ := exists_lastAt (hnamed a) hexists
    refine ⟨k, x, hat, ?_⟩
    rw [gives_iff, choose_lastMatch_of_unlisted h, ha, Option.bind_some, hlast, Option.some_or]
  case unnamed =>
    intro h hunnamed hexists
    obtain ⟨k, x, hlast, hat⟩ := exists_lastAt hready hexists
    refine ⟨k, x, hat, ?_⟩
    have hnone : (c.aliasName.bind fun a =>
        (placed (fun x => x.isIn target && x.aliasName == some a) listed).getLast?) = none := by
      rw [Option.bind_eq_none_iff]
      intro a ha
      rw [placed_eq_nil (hnamed a) fun x hx hq => hunnamed a ha x hx hq.1 hq.2, List.getLast?_nil]
    rw [gives_iff, choose_lastMatch_of_unlisted h, hnone, Option.none_or, hlast]
  case nothing =>
    intro h
    rw [gives_iff, choose_lastMatch_of_unlisted h, Option.or_eq_none_iff, Option.bind_eq_none_iff,
      List.getLast?_eq_none_iff]
    constructor
    · rintro ⟨-, hnil⟩ x hx hstate
      exact placed_ne_nil hready ⟨x, hx, hstate⟩ hnil
    · intro hnot
      refine ⟨fun a _ => ?_, placed_eq_nil hready hnot⟩
      rw [placed_eq_nil (hnamed a) fun x hx hq => hnot x hx hq.1, List.getLast?_nil]
  case sound =>
    intro rule record hselect
    obtain ⟨hrecord, hplace⟩ :=
      gives_iff.mpr (Eq.refl (c.choose rule target Prod.fst listed.zipIdx))
    rw [hselect, eq_comm, Option.map_eq_some_iff] at hrecord
    obtain ⟨⟨x, k⟩, hchoose, rfl⟩ := hrecord
    obtain ⟨hmem, hstate, -⟩ := choose_cases hchoose
    rw [hchoose] at hplace
    exact ⟨k, hplace, List.mk_mem_zipIdx_iff_getElem?.mp hmem, (hready x).mp hstate⟩
  case agree =>
    intro record k h
    rw [gives_iff] at h ⊢
    exact choose_of_strict h .lastMatch

-- The third record is the last one with the alias, though another one is listed behind it.
example : (⟨⟨"inv-1"⟩, some "run-7"⟩ : Correlation).selectIndex .lastMatch "request"
    [{ ConnectionRecord.bare "a" "request" with aliasName := some "run-7" },
      { ConnectionRecord.bare "b" "request" with aliasName := some "someone-else" },
      { ConnectionRecord.bare "c" "request" with aliasName := some "run-7" },
      .bare "d" "request"] = some 2 := by
  decide

end Correlation

end Handshake

end Rendezvous
