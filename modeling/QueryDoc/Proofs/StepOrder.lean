import Mathlib.Data.Fintype.Card
import Mathlib.Data.Fintype.EquivFin
import Mathlib.Data.Fintype.Sets
import Mathlib.Data.List.Perm.Subperm
import Mathlib.Order.WellFounded
import QueryDoc.Proofs.ActRun

/-!
Ordering a plan's steps.

`Plan.stepsInOrder` takes a plan's steps in passes (see `QueryDoc.Plan`). A plan can be run
when its step ids are distinct, every dependency names a step, and no step depends on itself
through a chain of dependencies (`Plan.Schedulable`). Main statement: `stepsInOrder_spec`.

One invariant (`Taken`) carries the proof through the passes: the steps taken so far have
distinct ids, come from the plan and follow their dependencies. A pass keeps it, and takes a
step whenever some untaken step has all its dependencies taken. A schedulable plan has one
until all are taken: a step no untaken step waits on, found by well-founded recursion along
the dependencies.
-/

namespace QueryDoc

namespace Plan

/-- Step `a` depends on step `b`: a step with id `a` lists `b` among its dependencies. -/
def DependsOn (p : Plan) (a b : String) : Prop :=
  ∃ s ∈ p.steps, s.id = a ∧ b ∈ s.dependsOn

/-- A plan whose steps can be put in an order: distinct ids, dependencies that name steps,
and no step that depends on itself through a chain of dependencies. -/
structure Schedulable (p : Plan) : Prop where
  ids_nodup : (p.steps.map Step.id).Nodup
  deps_named : ∀ s ∈ p.steps, ∀ d ∈ s.dependsOn, d ∈ p.steps.map Step.id
  acyclic : ∀ a, ¬ Relation.TransGen p.DependsOn a a

/-- A plan whose dependencies go down along some ranking of the ids has no cycle. -/
theorem acyclic_of_rank (p : Plan) (rank : String → Nat)
    (h : ∀ a b, p.DependsOn a b → rank b < rank a) (a : String) :
    ¬ Relation.TransGen p.DependsOn a a := by
  -- along a chain of dependencies the rank only goes down
  have hdown : ∀ {x y}, Relation.TransGen p.DependsOn x y → rank y < rank x := by
    intro x y hxy
    induction hxy with
    | single hd => exact h _ _ hd
    | tail _ hd ih => exact Nat.lt_trans (h _ _ hd) ih
  exact fun hcyc => Nat.lt_irrefl _ (hdown hcyc)

end Plan

/-- Each step of the list comes after every step it depends on. -/
def DepsFirst (order : List Step) : Prop :=
  ∀ pre s post, order = pre ++ s :: post → ∀ d ∈ s.dependsOn, d ∈ pre.map Step.id

theorem depsFirst_nil : DepsFirst [] := by
  intro pre s post h
  simp at h

/-- A step whose dependencies are all among those of an ordered list can follow it. -/
theorem DepsFirst.snoc {taken : List Step} {s : Step} (h : DepsFirst taken)
    (hs : ∀ d ∈ s.dependsOn, d ∈ taken.map Step.id) : DepsFirst (taken ++ [s]) := by
  intro pre t post heq
  rcases List.eq_nil_or_concat post with rfl | ⟨post', u, rfl⟩
  · -- `t` is the new step, and everything before it was taken
    obtain ⟨rfl, ht⟩ := List.append_inj' heq rfl
    cases ht
    exact hs
  · have heq' : taken ++ [s] = (pre ++ t :: post') ++ [u] := by simpa using heq
    exact h pre t post' (List.append_inj' heq' rfl).1

/-- In an order with distinct ids that runs each step after its dependencies, a dependency
stands before the step that needs it. -/
theorem DepsFirst.idxOf_lt {order : List Step} (h : DepsFirst order)
    (hn : (order.map Step.id).Nodup) {s : Step} (hs : s ∈ order) {d : String}
    (hd : d ∈ s.dependsOn) : (order.map Step.id).idxOf d < (order.map Step.id).idxOf s.id := by
  obtain ⟨pre, post, rfl⟩ := List.append_of_mem hs
  have hpre : d ∈ pre.map Step.id := h pre s post rfl d hd
  have hfresh : s.id ∉ pre.map Step.id := by
    rw [List.map_append, List.map_cons, List.nodup_append] at hn
    exact fun hin => hn.2.2 _ hin _ List.mem_cons_self rfl
  rw [List.map_append, List.map_cons, List.idxOf_append, List.idxOf_append, if_pos hpre,
    if_neg hfresh, List.idxOf_cons_self]
  exact Nat.lt_of_lt_of_le (List.idxOf_lt_length_of_mem hpre) (Nat.le_add_left _ _)

/-- A plan that has an order, with distinct ids, in which each step follows its
dependencies, is schedulable. -/
theorem Plan.Schedulable.of_order {p : Plan} {order : List Step} (hperm : order.Perm p.steps)
    (hn : (order.map Step.id).Nodup) (hd : DepsFirst order) : p.Schedulable where
  ids_nodup := (hperm.map Step.id).nodup_iff.1 hn
  deps_named := by
    intro s hs d hdep
    obtain ⟨pre, post, rfl⟩ := List.append_of_mem (hperm.mem_iff.2 hs)
    have hpre := hd pre s post rfl d hdep
    have hsub : pre.map Step.id ⊆ p.steps.map Step.id := fun x hx =>
      (hperm.map Step.id).subset (by simp only [List.map_append]; exact List.mem_append_left _ hx)
    exact hsub hpre
  acyclic := p.acyclic_of_rank (fun a => (order.map Step.id).idxOf a) (by
    rintro a b ⟨s, hs, rfl, hb⟩
    exact hd.idxOf_lt hn (hperm.mem_iff.2 hs) hb)

/-! ### One pass -/

/-- What the passes keep of the steps taken so far: `done` holds their ids, which are
distinct; they are steps of the plan; and each follows its dependencies. -/
structure Taken (steps : List Step) (done : List String) (taken : List Step) : Prop where
  done_eq : done = taken.map Step.id
  nodup : done.Nodup
  mem : ∀ s ∈ taken, s ∈ steps
  depsFirst : DepsFirst taken

theorem taken_nil (steps : List Step) : Taken steps [] [] :=
  ⟨rfl, List.nodup_nil, fun _ h => absurd h List.not_mem_nil, depsFirst_nil⟩

/-- The steps taken are a sub-multiset of the plan's steps, so never more than it has. -/
theorem Taken.subperm {steps : List Step} {done : List String} {taken : List Step}
    (h : Taken steps done taken) : taken.Subperm steps :=
  List.subperm_of_subset (List.Nodup.of_map Step.id (h.done_eq ▸ h.nodup)) h.mem

/-- Taking a new step whose dependencies are all taken keeps the invariant. -/
theorem Taken.snoc {steps : List Step} {done : List String} {taken : List Step} {s : Step}
    (h : Taken steps done taken) (hs : s ∈ steps) (hnew : s.id ∉ done)
    (hready : ∀ d ∈ s.dependsOn, d ∈ done) : Taken steps (done ++ [s.id]) (taken ++ [s]) where
  done_eq := by rw [h.done_eq, List.map_append, List.map_singleton]
  nodup := List.nodup_append.2 ⟨h.nodup, List.nodup_singleton _,
    fun a ha b hb => by rw [List.mem_singleton] at hb; subst hb; exact fun e => hnew (e ▸ ha)⟩
  mem := fun t ht => by
    rcases List.mem_append.1 ht with ht | ht
    · exact h.mem t ht
    · rw [List.mem_singleton.1 ht]; exact hs
  depsFirst := h.depsFirst.snoc (h.done_eq ▸ hready)

/-- A pass only adds to the steps taken. -/
theorem orderPass_grows (done : List String) (taken l : List Step) :
    ∃ new, (orderPass done taken l).2 = taken ++ new := by
  induction l generalizing done taken with
  | nil => exact ⟨[], by simp [orderPass]⟩
  | cons s rest ih =>
    rw [orderPass]
    split
    · exact ih done taken
    split
    · obtain ⟨new, hnew⟩ := ih (done ++ [s.id]) (taken ++ [s])
      exact ⟨s :: new, by simp [hnew]⟩
    · exact ih done taken

/-- A pass over steps of the plan keeps the invariant. -/
theorem orderPass_taken {steps : List Step} (l : List Step) (hl : ∀ s ∈ l, s ∈ steps)
    {done : List String} {taken : List Step} (h : Taken steps done taken) :
    Taken steps (orderPass done taken l).1 (orderPass done taken l).2 := by
  induction l generalizing done taken with
  | nil => simpa [orderPass] using h
  | cons s rest ih =>
    have hrest : ∀ t ∈ rest, t ∈ steps := fun t ht => hl t (List.mem_cons_of_mem _ ht)
    rw [orderPass]
    split
    · exact ih hrest h
    rename_i hdone
    split
    · rename_i hready
      refine ih hrest (h.snoc (hl s List.mem_cons_self) (by simpa using hdone) ?_)
      simpa using hready
    · exact ih hrest h

/-- A pass takes a step whenever one of its steps is new and has all its dependencies
taken. -/
theorem orderPass_progress {l : List Step} {s : Step} (hs : s ∈ l) {done : List String}
    (hnew : s.id ∉ done) (hready : ∀ d ∈ s.dependsOn, d ∈ done) (taken : List Step) :
    taken.length < (orderPass done taken l).2.length := by
  induction l generalizing done taken with
  | nil => exact absurd hs List.not_mem_nil
  | cons t rest ih =>
    rw [orderPass]
    split
    · rename_i hdone
      -- `t` was taken before, so it is not `s`
      have hst : s ≠ t := fun e => hnew (by simpa [e] using hdone)
      exact ih ((List.mem_cons.1 hs).resolve_left hst) hnew hready taken
    split
    · obtain ⟨new, hgrow⟩ := orderPass_grows (done ++ [t.id]) (taken ++ [t]) rest
      rw [hgrow]
      simp
    · rename_i hwait
      have hst : s ≠ t := fun e => hwait (by subst e; simpa using hready)
      exact ih ((List.mem_cons.1 hs).resolve_left hst) hnew hready taken

/-! ### Passes -/

/-- The passes either give an order or the one validation error. -/
theorem orderPasses_ok_or_invalid (steps : List Step) (fuel : Nat) (done : List String)
    (taken : List Step) :
    (∃ order, orderPasses steps fuel done taken = .ok order) ∨
      orderPasses steps fuel done taken =
        invalid "execution plan has unsatisfiable step dependencies" := by
  induction fuel generalizing done taken with
  | zero => exact .inr rfl
  | succ fuel ih =>
    rw [orderPasses]
    split
    · exact .inl ⟨_, rfl⟩
    dsimp only
    split
    · exact .inr rfl
    · exact ih _ _

/-- An order the passes give keeps the invariant and holds every step. -/
theorem orderPasses_ok {steps : List Step} {fuel : Nat} {done : List String}
    {taken order : List Step} (h : Taken steps done taken)
    (hok : orderPasses steps fuel done taken = .ok order) :
    Taken steps (order.map Step.id) order ∧ steps.length ≤ order.length := by
  induction fuel generalizing done taken with
  | zero => cases hok
  | succ fuel ih =>
    rw [orderPasses] at hok
    split at hok
    · rename_i hall
      cases hok
      exact ⟨h.done_eq ▸ h, hall⟩
    dsimp only at hok
    split at hok
    · cases hok
    · exact ih (orderPass_taken steps (fun _ hs => hs) h) hok

/-- Once the passes allowed outnumber the steps still to take, more passes change nothing:
each pass before the last takes a step. -/
theorem orderPasses_fuel {steps : List Step} {fuel fuel' : Nat} {done : List String}
    {taken : List Step} (h : Taken steps done taken) (henough : steps.length < fuel + taken.length)
    (hmore : fuel ≤ fuel') :
    orderPasses steps fuel' done taken = orderPasses steps fuel done taken := by
  induction fuel generalizing fuel' done taken with
  | zero =>
    have := h.subperm.length_le
    omega
  | succ fuel ih =>
    obtain ⟨fuel', rfl⟩ : ∃ k, fuel' = k + 1 := ⟨fuel' - 1, by omega⟩
    rw [orderPasses, orderPasses]
    split
    · rfl
    dsimp only
    split
    · rfl
    · rename_i hprogress
      obtain ⟨new, hgrow⟩ := orderPass_grows done taken steps
      have hlong : taken.length + 1 ≤ (orderPass done taken steps).2.length := by
        rw [hgrow] at hprogress ⊢
        simp only [List.length_append, beq_iff_eq] at hprogress ⊢
        omega
      exact ih (orderPass_taken steps (fun _ hs => hs) h) (by omega) (by omega)

/-- In a schedulable plan, while steps remain, one of them is new and has all its
dependencies taken. -/
theorem Plan.Schedulable.exists_ready {p : Plan} (hp : p.Schedulable) {done : List String}
    {taken : List Step} (h : Taken p.steps done taken) (hlt : taken.length < p.steps.length) :
    ∃ s ∈ p.steps, s.id ∉ done ∧ ∀ d ∈ s.dependsOn, d ∈ done := by
  classical
  -- some id is not taken yet: the ids are distinct and outnumber those taken
  have hleft : ∃ a ∈ p.steps.map Step.id, a ∉ done := by
    by_contra hall
    push Not at hall
    have hle := (List.subperm_of_subset hp.ids_nodup hall).length_le
    rw [h.done_eq, List.length_map, List.length_map] at hle
    omega
  obtain ⟨a, ha, hna⟩ := hleft
  -- the ids, ordered by "is a dependency of, through a chain", are well founded
  let below : {x // x ∈ p.steps.map Step.id} → {x // x ∈ p.steps.map Step.id} → Prop :=
    fun x y => Relation.TransGen p.DependsOn y.1 x.1
  have : IsTrans _ below := ⟨fun _ _ _ hxy hyz => hyz.trans hxy⟩
  have : Std.Irrefl below := ⟨fun x => hp.acyclic x.1⟩
  obtain ⟨⟨m, hm⟩, hmnew, hmin⟩ := (Finite.wellFounded_of_trans_of_irrefl below).has_min
    {x | x.1 ∉ done} ⟨⟨a, ha⟩, hna⟩
  obtain ⟨s, hs, rfl⟩ := List.mem_map.1 hm
  refine ⟨s, hs, hmnew, fun d hd => ?_⟩
  by_contra hnd
  exact hmin ⟨d, hp.deps_named s hs d hd⟩ hnd (.single ⟨s, hs, rfl, hd⟩)

/-- A schedulable plan is ordered as long as the passes allowed outnumber the steps still to
take. -/
theorem Plan.Schedulable.orderPasses_ok {p : Plan} (hp : p.Schedulable) {fuel : Nat}
    {done : List String} {taken : List Step} (h : Taken p.steps done taken)
    (henough : p.steps.length < fuel + taken.length) :
    ∃ order, orderPasses p.steps fuel done taken = .ok order := by
  induction fuel generalizing done taken with
  | zero =>
    have := h.subperm.length_le
    omega
  | succ fuel ih =>
    rw [orderPasses]
    split
    · exact ⟨_, rfl⟩
    rename_i hlt
    obtain ⟨s, hs, hnew, hready⟩ := hp.exists_ready h (by omega)
    have hprogress := orderPass_progress hs hnew hready taken
    dsimp only
    rw [if_neg (by simp only [beq_iff_eq]; omega)]
    exact ih (orderPass_taken p.steps (fun _ hs => hs) h) (by omega)

/-- The step ids of a chain are `write-i`, `write-(i+1)`, …. -/
theorem Plan.map_id_chainSteps (i : Nat) (stmts : List Sql.Stmt) :
    (Plan.chainSteps i stmts).map Step.id =
      (List.range' i stmts.length).map fun j => "write-" ++ toString j := by
  induction stmts generalizing i with
  | nil => rfl
  | cons s ss ih =>
    obtain ⟨step, hcons, hid, -⟩ := Plan.chainSteps_cons i s ss
    rw [hcons, List.map_cons, ih, hid, List.length_cons, List.range'_succ, List.map_cons]

/-- Ordering a plan's steps: a plan is ordered exactly when it is schedulable, and the order
is then a permutation of its steps that runs each step after its dependencies; any other plan
is refused with the validation error; more passes than steps change nothing; and a chained
plan runs its statements in the order given, as `write-0`, `write-1`, …. -/
theorem stepsInOrder_spec :
    (∀ p : Plan,
      (∀ fuel, p.steps.length + 1 ≤ fuel → orderPasses p.steps fuel [] [] = p.stepsInOrder) ∧
      (p.Schedulable →
        ∃ order, p.stepsInOrder = .ok order ∧ order.Perm p.steps ∧ DepsFirst order) ∧
      (¬ p.Schedulable →
        p.stepsInOrder = invalid "execution plan has unsatisfiable step dependencies")) ∧
    ∀ stmts : List Sql.Stmt,
      (Plan.chained stmts).stepsInOrder = .ok (Plan.chained stmts).steps ∧
      (Plan.chained stmts).steps.map Step.stmt = stmts ∧
      (Plan.chained stmts).steps.map Step.id =
        (List.range stmts.length).map fun i => "write-" ++ toString i := by
  refine ⟨fun p => ⟨?_, ?_, ?_⟩, fun stmts => ⟨?_, ?_, ?_⟩⟩
  · intro fuel hfuel
    exact orderPasses_fuel (taken_nil p.steps) (by simp) hfuel
  · intro hp
    obtain ⟨order, hok⟩ : ∃ order, p.stepsInOrder = .ok order :=
      hp.orderPasses_ok (taken_nil p.steps) (by simp)
    obtain ⟨ht, hlen⟩ := orderPasses_ok (taken_nil p.steps) hok
    exact ⟨order, hok, ht.subperm.perm_of_length_le hlen, ht.depsFirst⟩
  · intro hp
    refine (orderPasses_ok_or_invalid p.steps _ [] []).resolve_left ?_
    rintro ⟨order, hok⟩
    obtain ⟨ht, hlen⟩ := orderPasses_ok (taken_nil p.steps) hok
    exact hp (.of_order (ht.subperm.perm_of_length_le hlen) (ht.done_eq ▸ ht.nodup) ht.depsFirst)
  · exact Plan.stepsInOrder_chained stmts
  · exact (Plan.map_chainSteps id 0 stmts).trans (List.map_id stmts)
  · rw [Plan.chained, Plan.multi, Plan.map_id_chainSteps, List.range_eq_range']

/-- Three steps: `c` after `a` and `b`, then `a`, then `b` after `a`. -/
def threeSteps : Plan :=
  let s := Sql.Stmt.select Sql.Query.empty
  .multi [(Step.new "c" s "third").afterAll ["a", "b"], Step.new "a" s "first",
    (Step.new "b" s "second").after "a"]

/-- Two steps that wait for each other. -/
def twoStepCycle : Plan :=
  let s := Sql.Stmt.select Sql.Query.empty
  .multi [(Step.new "a" s "first").after "b", (Step.new "b" s "second").after "a"]

theorem threeSteps_ordered_twoStepCycle_refused :
    threeSteps.Schedulable ∧
      (∃ order, threeSteps.stepsInOrder = .ok order ∧ order.Perm threeSteps.steps ∧
        DepsFirst order) ∧
      orderPasses threeSteps.steps 10 [] [] = threeSteps.stepsInOrder ∧
      ¬ twoStepCycle.Schedulable ∧
      twoStepCycle.stepsInOrder = invalid "execution plan has unsatisfiable step dependencies" := by
  have hthree : threeSteps.Schedulable := by
    refine ⟨by decide, by decide, threeSteps.acyclic_of_rank
      (fun x => if x = "a" then 0 else if x = "b" then 1 else 2) ?_⟩
    rintro a b ⟨s, hs, rfl, hb⟩
    simp only [threeSteps, Plan.multi, List.mem_cons, List.not_mem_nil, or_false] at hs
    rcases hs with rfl | rfl | rfl <;> simp [Step.new, Step.after, Step.afterAll] at hb <;>
      rcases hb with rfl | rfl <;> decide
  have hcycle : ¬ twoStepCycle.Schedulable := fun h =>
    h.acyclic "a" (.tail (.single ⟨_, List.mem_cons_self, rfl, List.mem_singleton_self "b"⟩)
      ⟨_, List.mem_cons_of_mem _ List.mem_cons_self, rfl, List.mem_singleton_self "a"⟩)
  exact ⟨hthree, (stepsInOrder_spec.1 threeSteps).2.1 hthree,
    (stepsInOrder_spec.1 threeSteps).1 10 (by decide), hcycle,
    (stepsInOrder_spec.1 twoStepCycle).2.2 hcycle⟩

end QueryDoc
