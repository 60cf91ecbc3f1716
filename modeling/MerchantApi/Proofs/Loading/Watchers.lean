import MerchantApi.Proofs.Loading
/-!
# What watchers see

A watcher keeps the number of changes that there were when it last looked at the
counter.  Nothing but a look of its own moves that number, and every change moves
the one of the counter, so that the two differ exactly when the counter has changed
since, even if it has changed back.
-/

namespace MerchantApi

namespace Counter

theorem version_of_foldlM {changes : List Change} {c d : Counter}
    (h : changes.foldlM after? c = some d) : d.version = c.version + changes.length := by
  induction changes generalizing c with
  | nil =>
    obtain rfl := Option.some.inj h
    rfl
  | cons change changes ih =>
    rw [List.foldlM_cons, Option.bind_eq_bind, Option.bind_eq_some_iff] at h
    obtain ⟨e, hfirst, hrest⟩ := h
    have hversion : e.version = c.version + 1 := by
      cases change with
      | acquired =>
        obtain rfl := Option.some.inj hfirst
        rfl
      | dropped =>
        rw [after?] at hfirst
        split at hfirst
        · obtain rfl := Option.some.inj hfirst
          rfl
        · cases hfirst
    rw [ih hrest, hversion, List.length_cons]
    omega

end Counter

namespace LoadingBoard

open Counter

/-! ## Looks -/

/-- The steps of a watcher that let it know of the changes so far, by what they show. -/
inductive Look (name : String) : Step → Outcome → Prop where
  | opened (handle : Nat) : Look name (.subscribe handle name) .done
  | observed (changed : Option Bool) (value : Nat) :
    Look name (.observe name) (.observed changed value)

/-- The last look of a watcher in a run, with the steps before it and since. -/
structure LastLook (name : String) (steps before : List Step) (look : Step)
    (since : List Step) : Prop where
  steps_eq : steps = before ++ look :: since
  looks : Look name look ((fresh.after before).step look).2
  last : ∀ earlier s later, since = earlier ++ s :: later →
    ¬ Look name s ((fresh.after (before ++ look :: earlier)).step s).2

def Subscribed (name : String) (steps : List Step) : Prop :=
  ∃ before handle since, steps = before ++ .subscribe handle name :: since ∧
    (fresh.after before).alive handle = true

private theorem after_append (b : LoadingBoard) (steps later : List Step) :
    b.after (steps ++ later) = (b.after steps).after later :=
  List.foldl_append

private theorem after_concat (b : LoadingBoard) (steps : List Step) (s : Step) :
    b.after (steps ++ [s]) = ((b.after steps).step s).1 := by
  rw [after_append]
  rfl

private theorem getElem?_run (b : LoadingBoard) (steps : List Step) (s : Step) (later : List Step) :
    (b.run (steps ++ s :: later))[steps.length]? = some ((b.after steps).step s) := by
  induction steps generalizing b with
  | nil => rfl
  | cons first steps ih => exact ih (b.step first).1

/-! ## What a step does to a watcher -/

private theorem seen?_watch_self (b : LoadingBoard) (name : String) :
    (b.watch name).seen? name = some b.counter.version := by
  simp [seen?, watch]

private theorem seen?_watch_of_ne {name other : String} (h : other ≠ name) (b : LoadingBoard) :
    (b.watch other).seen? name = b.seen? name := by
  rw [seen?, seen?, watch, List.find?_cons_of_neg (by simpa using h), List.find?_filter]
  congr 2
  funext w
  by_cases hw : w.1 = name
  · simp [hw, Ne.symm h]
  · simp [hw]

private theorem seen?_drop (b : LoadingBoard) (name other : String) :
    (b.drop other).seen? name = b.seen? name := by
  rw [LoadingBoard.drop]
  split <;> rfl

private theorem seen?_acquire (b : LoadingBoard) (name other : String) :
    (b.acquire other).seen? name = b.seen? name :=
  seen?_drop { b with counter := b.counter.acquire } name other

theorem seen?_step_of_look {b : LoadingBoard} {name : String} {s : Step}
    (h : Look name s (b.step s).2) :
    (b.step s).1.seen? name = some b.counter.version ∧ (b.step s).1.counter = b.counter := by
  generalize houtcome : (b.step s).2 = outcome at h
  cases h with
  | opened handle =>
    rw [step] at houtcome ⊢
    split at houtcome
    · rename_i halive
      rw [if_pos halive]
      exact ⟨b.seen?_watch_self name, rfl⟩
    · cases houtcome
  | observed changed value =>
    rw [step] at houtcome ⊢
    cases hseen : b.seen? name with
    | none =>
      rw [hseen] at houtcome
      cases houtcome
    | some version => exact ⟨b.seen?_watch_self name, rfl⟩

theorem seen?_step_of_not_look {b : LoadingBoard} {name : String} {s : Step}
    (h : ¬ Look name s (b.step s).2) : (b.step s).1.seen? name = b.seen? name := by
  cases s with
  | acquire handle other =>
    rw [step]
    split
    · exact b.seen?_acquire name other
    · rfl
  | release other => exact b.seen?_drop name other
  | clone handle =>
    rw [step]
    split <;> rfl
  | forget handle =>
    rw [step]
    split <;> rfl
  | subscribe handle other =>
    rw [step] at h ⊢
    split
    · rename_i halive
      rw [if_pos halive] at h
      refine seen?_watch_of_ne (fun heq => h ?_) b
      exact heq ▸ .opened handle
    · rfl
  | observe other =>
    rw [step] at h ⊢
    cases hseen : b.seen? other with
    | none => rfl
    | some version =>
      rw [hseen] at h
      refine seen?_watch_of_ne (fun heq => h ?_) b
      exact heq ▸ .observed _ _
  | count => rfl

/-! ## The last look -/

theorem seen?_after_of_no_look {b : LoadingBoard} {name : String} {since : List Step}
    (h : ∀ earlier s later, since = earlier ++ s :: later →
      ¬ Look name s ((b.after earlier).step s).2) :
    (b.after since).seen? name = b.seen? name := by
  induction since generalizing b with
  | nil => rfl
  | cons s since ih =>
    refine (ih ?_).trans (seen?_step_of_not_look (h [] s since rfl))
    exact fun earlier other later hsince => h (s :: earlier) other later (hsince ▸ rfl)

/-- A watcher has seen the changes up to its last look. -/
theorem LastLook.seen? {name : String} {steps before : List Step} {look : Step}
    {since : List Step} (h : LastLook name steps before look since) :
    (fresh.after steps).seen? name = some (fresh.after (before ++ [look])).counter.version := by
  obtain ⟨hseen, hcounter⟩ := seen?_step_of_look h.looks
  rw [← after_concat] at hseen hcounter
  rw [h.steps_eq, List.append_cons, after_append, seen?_after_of_no_look, hseen, hcounter]
  intro earlier s later hsince
  rw [← after_append, ← List.append_cons]
  exact h.last earlier s later hsince

private theorem concat_eq_append_cons {α : Type} {xs before since : List α} {last x : α}
    (h : xs ++ [last] = before ++ x :: since) :
    (since = [] ∧ xs = before ∧ last = x) ∨
      ∃ rest, since = rest ++ [last] ∧ xs = before ++ x :: rest := by
  obtain rfl | ⟨rest, other, rfl⟩ := List.eq_nil_or_concat' since
  · obtain ⟨rfl, hlast⟩ := List.append_inj' h rfl
    exact Or.inl ⟨rfl, rfl, List.singleton_inj.1 hlast⟩
  · rw [← List.cons_append, ← List.append_assoc] at h
    obtain ⟨rfl, hlast⟩ := List.append_inj' h rfl
    exact Or.inr ⟨rest, by rw [hlast], rfl⟩

theorem exists_lastLook_concat {name : String} {steps : List Step} {s : Step}
    (h : Look name s ((fresh.after steps).step s).2 ∨
      ∃ before look since, LastLook name steps before look since) :
    ∃ before look since, LastLook name (steps ++ [s]) before look since := by
  by_cases hlook : Look name s ((fresh.after steps).step s).2
  · refine ⟨steps, s, [], rfl, hlook, fun earlier other later hnil => ?_⟩
    simp at hnil
  · obtain ⟨before, look, since, hlast⟩ := h.resolve_left hlook
    refine ⟨before, look, since ++ [s], ?_, hlast.looks, ?_⟩
    · rw [hlast.steps_eq, List.append_assoc, List.cons_append]
    · intro earlier other later hsince
      obtain ⟨-, rfl, rfl⟩ | ⟨rest, -, hrest⟩ := concat_eq_append_cons hsince
      · rwa [← hlast.steps_eq]
      · exact hlast.last earlier other rest hrest

/-! ## Watchers that are open -/

theorem Subscribed.concat {name : String} {steps : List Step} (h : Subscribed name steps)
    (s : Step) : Subscribed name (steps ++ [s]) := by
  obtain ⟨before, handle, since, rfl, halive⟩ := h
  exact ⟨before, handle, since ++ [s], by simp, halive⟩

theorem exists_lastLook {name : String} {steps : List Step} (h : Subscribed name steps) :
    ∃ before look since, LastLook name steps before look since := by
  induction steps using List.reverseRecOn with
  | nil =>
    obtain ⟨before, handle, since, hnil, -⟩ := h
    simp at hnil
  | append_singleton steps s ih =>
    obtain ⟨before, handle, since, hsteps, halive⟩ := h
    apply exists_lastLook_concat
    obtain ⟨-, rfl, rfl⟩ | ⟨rest, -, hrest⟩ := concat_eq_append_cons hsteps
    · left
      rw [step, if_pos halive]
      exact .opened handle
    · exact Or.inr (ih ⟨before, handle, rest, hrest, halive⟩)

/-- There is no watcher of a name that was never opened. -/
theorem subscribed_of_seen? {name : String} {steps : List Step} {version : Nat}
    (h : (fresh.after steps).seen? name = some version) : Subscribed name steps := by
  induction steps using List.reverseRecOn generalizing version with
  | nil => cases h
  | append_singleton steps s ih =>
    rw [after_concat] at h
    by_cases hlook : Look name s ((fresh.after steps).step s).2
    · generalize houtcome : ((fresh.after steps).step s).2 = outcome at hlook
      cases hlook with
      | opened handle =>
        rw [step] at houtcome
        split at houtcome
        · rename_i halive
          exact ⟨steps, handle, [], rfl, halive⟩
        · cases houtcome
      | observed changed value =>
        cases hseen : (fresh.after steps).seen? name with
        | none =>
          rw [step, hseen] at houtcome
          cases houtcome
        | some version => exact (ih hseen).concat _
    · rw [seen?_step_of_not_look hlook] at h
      exact (ih h).concat s

/-! ## Boards without changes -/

theorem isClosed_iff (b : LoadingBoard) :
    b.isClosed = true ↔ b.guards = [] ∧ ∀ handle, b.alive handle = false := by
  have hhandles : (∀ alive ∈ b.handles, alive = false) ↔ ∀ handle, b.alive handle = false := by
    constructor
    · intro h handle
      rw [alive]
      cases hhandle : b.handles[handle]? with
      | none => rfl
      | some state => exact h state (List.mem_of_getElem? hhandle)
    · intro h state hmem
      obtain ⟨handle, hhandle⟩ := List.mem_iff_getElem?.1 hmem
      have hdead := h handle
      rw [alive, hhandle] at hdead
      exact hdead
  rw [isClosed, Bool.and_eq_true, List.isEmpty_iff, ← hhandles]
  simp

theorem guards_drop_of_dropChanges {b : LoadingBoard} {name : String}
    (h : b.dropChanges name = []) : (b.drop name).guards = b.guards := by
  rw [LoadingBoard.drop]
  rw [dropChanges] at h
  split
  · rename_i hname
    rw [if_pos hname] at h
    cases h
  · rfl

theorem guards_step_of_changes {b : LoadingBoard} {s : Step} (h : b.changes s = []) :
    (b.step s).1.guards = b.guards := by
  cases s with
  | acquire handle name =>
    rw [changes] at h
    rw [step]
    split
    · rename_i halive
      rw [if_pos halive] at h
      cases h
    · rfl
  | release name => exact guards_drop_of_dropChanges h
  | clone handle =>
    rw [step]
    split <;> rfl
  | forget handle => exact (b.step_forget handle).2
  | subscribe handle name =>
    rw [step]
    split <;> rfl
  | observe name =>
    rw [step]
    split <;> rfl
  | count => rfl

theorem guards_after_of_runChanges {b : LoadingBoard} {steps : List Step}
    (h : b.runChanges steps = []) : (b.after steps).guards = b.guards := by
  induction steps generalizing b with
  | nil => rfl
  | cons s steps ih =>
    rw [runChanges, List.append_eq_nil_iff] at h
    exact (ih h.2).trans (guards_step_of_changes h.1)

theorem version_after (b : LoadingBoard) (hexact : b.Exact) (steps : List Step) :
    (b.after steps).counter.version = b.counter.version + (b.runChanges steps).length :=
  version_of_foldlM (hexact.run steps).2

theorem LastLook.observe {name : String} {steps before : List Step} {look : Step}
    {since : List Step} (h : LastLook name steps before look since) :
    let now := fresh.after steps
    let last := fresh.after (before ++ [look])
    now = last.after since ∧
      (now.step (.observe name)).2 =
        .observed (if now.isClosed then none else some (decide (last.runChanges since ≠ [])))
          now.guards.length := by
  intro now last
  have hnow : now = last.after since := by
    rw [← after_append, ← List.append_cons, ← h.steps_eq]
  have hcount : now.counter.count = now.guards.length := (exact_fresh.run steps).1
  have hversion := version_after last (exact_fresh.run _).1 since
  have hchanged : last.counter.version ≠ now.counter.version ↔ last.runChanges since ≠ [] := by
    rw [hnow, hversion, ← List.length_pos_iff]
    omega
  refine ⟨hnow, ?_⟩
  rw [step, h.seen?, hcount]
  dsimp only
  rw [decide_eq_decide.2 hchanged]

/-- What watchers see at every moment of every run.  A watcher is there from the time that
it was opened on; it reads the number of guards, finds the counter closed exactly when
neither a guard nor a handle is left, and is told of a change exactly when there were
changes since its last look. -/
theorem watchers_see_changes (steps later : List Step) (name : String) :
    let now := fresh.after steps
    let seen := now.step (.observe name)
    (fresh.run (steps ++ .observe name :: later))[steps.length]? = some seen ∧
    (¬ Subscribed name steps → seen.2 = .done) ∧
    (Subscribed name steps → ∃ before look since, LastLook name steps before look since) ∧
    ∀ before look since, LastLook name steps before look since →
      let last := fresh.after (before ++ [look])
      ∃ changed, seen.2 = .observed changed now.guards.length ∧
        (changed = none ↔ now.guards = [] ∧ ∀ handle, now.alive handle = false) ∧
        (changed = none → seen.2 = .observed none 0) ∧
        (∀ flag, changed = some flag → (flag = true ↔ last.runChanges since ≠ [])) ∧
        (changed = some false → now.guards = last.guards) := by
  intro now seen
  refine ⟨getElem?_run fresh steps (.observe name) later, ?_, exists_lastLook, ?_⟩
  · intro hnone
    cases hversion : now.seen? name with
    | none =>
      change (now.step (.observe name)).2 = .done
      rw [step, hversion]
    | some version => exact absurd (subscribed_of_seen? hversion) hnone
  · intro before look since hlast last
    obtain ⟨hnow, hseen⟩ := hlast.observe
    refine ⟨_, hseen, ?_⟩
    by_cases hclosed : now.isClosed = true
    · obtain ⟨hguards, halive⟩ := now.isClosed_iff.1 hclosed
      rw [if_pos hclosed] at hseen ⊢
      refine ⟨⟨fun _ => ⟨hguards, halive⟩, fun _ => rfl⟩, fun _ => ?_, ?_, ?_⟩
      · exact hseen.trans (by rw [hguards, List.length_nil])
      · rintro flag ⟨⟩
      · rintro ⟨⟩
    · rw [if_neg hclosed]
      refine ⟨⟨?_, fun h => absurd (now.isClosed_iff.2 h) hclosed⟩, ?_, ?_, ?_⟩
      · rintro ⟨⟩
      · rintro ⟨⟩
      · rintro flag ⟨⟩
        exact decide_eq_true_iff
      · intro hsame
        have hnothing : last.runChanges since = [] :=
          not_not.1 (of_decide_eq_false (Option.some.inj hsame))
        exact (congrArg guards hnow).trans (guards_after_of_runChanges hnothing)

def lateGuard : List Step := [.subscribe 0 "w", .acquire 0 "g", .forget 0]

theorem lastLook_of_forall {name : String} {steps before : List Step} {look : Step}
    {since : List Step} (hsteps : steps = before ++ look :: since)
    (hlook : Look name look ((fresh.after before).step look).2)
    (hsince : ∀ s ∈ since, s ≠ .observe name ∧ ∀ handle, s ≠ .subscribe handle name) :
    LastLook name steps before look since := by
  refine ⟨hsteps, hlook, fun earlier s later heq hother => ?_⟩
  obtain ⟨hobserve, hsubscribe⟩ := hsince s (heq ▸ List.mem_append_right _ List.mem_cons_self)
  generalize ((fresh.after _).step s).2 = outcome at hother
  cases hother with
  | opened handle => exact hsubscribe handle rfl
  | observed changed value => exact hobserve rfl

theorem watchers_see_changes_lateGuard :
    ((fresh.after lateGuard).step (.observe "w")).2 = .observed (some true) 1 ∧
    ((fresh.after (lateGuard ++ [.observe "w", .release "g"])).step (.observe "w")).2 =
      .observed none 0 := by
  constructor
  · obtain ⟨-, -, -, hsees⟩ := watchers_see_changes lateGuard [] "w"
    have hlast : LastLook "w" lateGuard [] (.subscribe 0 "w") [.acquire 0 "g", .forget 0] :=
      lastLook_of_forall rfl (.opened 0) (by simp)
    obtain ⟨changed, hseen, hclosed, -, htold, -⟩ := hsees _ _ _ hlast
    cases changed with
    | none => cases (hclosed.1 rfl).1
    | some flag =>
      obtain rfl := (htold flag rfl).2 (List.cons_ne_nil _ _)
      exact hseen
  · obtain ⟨-, -, -, hsees⟩ :=
      watchers_see_changes (lateGuard ++ [.observe "w", .release "g"]) [] "w"
    have hlast : LastLook "w" (lateGuard ++ [.observe "w", .release "g"]) lateGuard
        (.observe "w") [.release "g"] :=
      lastLook_of_forall rfl (.observed (some true) 1) (by simp)
    obtain ⟨changed, -, hclosed, hnone, -⟩ := hsees _ _ _ hlast
    refine hnone (hclosed.2 ⟨rfl, fun handle => ?_⟩)
    cases handle <;> rfl

end LoadingBoard

end MerchantApi
