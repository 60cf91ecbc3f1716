import Mathlib.Data.List.Forall2
/-!
# Steps that may fail

What is known of a chain of steps from its end: a chain that succeeds went
through a success of every step, and steps that leave a value as it is or fail
do the same in a row.
-/

namespace MerchantApi.Outcome

variable {α β γ ε : Type}

theorem bind_eq_ok_iff {x : Except ε α} {f : α → Except ε β} {b : β} :
    (x >>= f) = .ok b ↔ ∃ a, x = .ok a ∧ f a = .ok b := by
  cases x with
  | error e => exact ⟨nofun, nofun⟩
  | ok a => exact ⟨fun h => ⟨a, rfl, h⟩, fun ⟨_, ha, hb⟩ => Except.ok.inj ha ▸ hb⟩

theorem map_eq_ok_iff {x : Except ε α} {f : α → β} {b : β} :
    x.map f = .ok b ↔ ∃ a, x = .ok a ∧ f a = b := by
  cases x with
  | error e => exact ⟨nofun, nofun⟩
  | ok a =>
    exact ⟨fun h => ⟨a, rfl, Except.ok.inj h⟩,
      fun ⟨_, ha, hb⟩ => congrArg _ (Except.ok.inj ha ▸ hb)⟩

theorem mapM_eq_ok_iff {f : α → Except ε β} {xs : List α} {ys : List β} :
    xs.mapM f = .ok ys ↔ List.Forall₂ (fun x y => f x = .ok y) xs ys := by
  induction xs generalizing ys with
  | nil =>
    rw [List.mapM_nil, List.forall₂_nil_left_iff]
    exact ⟨fun h => (Except.ok.inj h).symm, fun h => h ▸ rfl⟩
  | cons x xs ih =>
    rw [List.mapM_cons, bind_eq_ok_iff, List.forall₂_cons_left_iff]
    constructor
    · rintro ⟨y, hy, hrest⟩
      obtain ⟨ys, hys, hcons⟩ := bind_eq_ok_iff.1 hrest
      exact ⟨y, ys, hy, ih.1 hys, (Except.ok.inj hcons).symm⟩
    · rintro ⟨y, ys, hy, hys, rfl⟩
      exact ⟨y, hy, bind_eq_ok_iff.2 ⟨ys, ih.2 hys, rfl⟩⟩

theorem bind_eq_error_iff {x : Except ε α} {f : α → Except ε β} {e : ε} :
    (x >>= f) = .error e ↔ x = .error e ∨ ∃ a, x = .ok a ∧ f a = .error e := by
  cases x with
  | error other =>
    constructor
    · exact fun h => Or.inl (congrArg Except.error (Except.error.inj h))
    · rintro (h | ⟨a, ha, -⟩)
      · exact congrArg Except.error (Except.error.inj h)
      · cases ha
  | ok a =>
    constructor
    · exact fun h => Or.inr ⟨a, rfl, h⟩
    · rintro (h | ⟨b, hb, h⟩)
      · cases h
      · exact Except.ok.inj hb ▸ h

theorem mapM_eq_error_iff {f : α → Except ε β} {xs : List α} {e : ε} :
    xs.mapM f = .error e ↔ ∃ earlier x later, xs = earlier ++ x :: later ∧
      (∀ y ∈ earlier, ∃ b, f y = .ok b) ∧ f x = .error e := by
  induction xs with
  | nil =>
    constructor
    · exact fun h => nomatch h
    · rintro ⟨earlier, x, later, hxs, -, -⟩
      cases earlier <;> cases hxs
  | cons head xs ih =>
    rw [List.mapM_cons, bind_eq_error_iff]
    constructor
    · rintro (hhead | ⟨b, hb, htail⟩)
      · exact ⟨[], head, xs, rfl, nofun, hhead⟩
      · rcases bind_eq_error_iff.1 htail with hxs | ⟨bs, -, hpure⟩
        · obtain ⟨earlier, x, later, rfl, hearlier, hx⟩ := ih.1 hxs
          exact ⟨head :: earlier, x, later, rfl, List.forall_mem_cons.2 ⟨⟨b, hb⟩, hearlier⟩, hx⟩
        · cases hpure
    · rintro ⟨earlier, x, later, hxs, hearlier, hx⟩
      cases earlier with
      | nil =>
        obtain ⟨rfl, rfl⟩ := List.cons.inj hxs
        exact Or.inl hx
      | cons first earlier =>
        obtain ⟨rfl, rfl⟩ := List.cons.inj hxs
        obtain ⟨⟨b, hb⟩, hearlier⟩ := List.forall_mem_cons.1 hearlier
        refine Or.inr ⟨b, hb, bind_eq_error_iff.2 (Or.inl ?_)⟩
        exact ih.2 ⟨earlier, x, later, rfl, hearlier, hx⟩

theorem mapM_eq_error_of_alike {f g : α → Except ε β} {xs : List α} {e : ε}
    (h : ∀ x ∈ xs, f x = g x ∨ (∃ b, f x = .ok b) ∧ ∃ c, g x = .ok c)
    (herror : xs.mapM f = .error e) : xs.mapM g = .error e := by
  obtain ⟨earlier, x, later, rfl, hearlier, hx⟩ := mapM_eq_error_iff.1 herror
  refine mapM_eq_error_iff.2 ⟨earlier, x, later, rfl, fun y hy => ?_, ?_⟩
  · rcases h y (List.mem_append_left _ hy) with heq | ⟨-, hg⟩
    · rw [← heq]
      exact hearlier y hy
    · exact hg
  · rcases h x (List.mem_append_right _ List.mem_cons_self) with heq | ⟨⟨b, hb⟩, -⟩
    · rw [← heq, hx]
    · rw [hb] at hx
      cases hx

/-- Steps that are the same or succeed both, element by element, fail alike. -/
theorem mapM_eq_error_congr {f g : α → Except ε β} {xs : List α} {e : ε}
    (h : ∀ x ∈ xs, f x = g x ∨ (∃ b, f x = .ok b) ∧ ∃ c, g x = .ok c) :
    xs.mapM f = .error e ↔ xs.mapM g = .error e :=
  ⟨mapM_eq_error_of_alike h,
    mapM_eq_error_of_alike fun x hx => (h x hx).imp Eq.symm And.symm⟩

theorem mapM_cons_eq_error_iff {f : α → Except ε β} {x : α} {xs : List α} {e : ε} :
    (x :: xs).mapM f = .error e ↔
      f x = .error e ∨ ∃ b, f x = .ok b ∧ xs.mapM f = .error e := by
  rw [List.mapM_cons, bind_eq_error_iff]
  refine or_congr_right (exists_congr fun b => and_congr_right fun _ => ?_)
  rw [bind_eq_error_iff]
  constructor
  · rintro (h | ⟨_, _, hpure⟩)
    · exact h
    · cases hpure
  · exact Or.inl

/-- Steps whose failure does not hang on where they start fail in a row as they
do when each of them starts anew. -/
theorem foldlM_eq_error_iff {f : β → α → Except ε β} {xs : List α} {e : ε}
    (hstep : ∀ x ∈ xs, ∀ b c e, f b x = .error e → f c x = .error e) (b : β) :
    xs.foldlM f b = .error e ↔ xs.mapM (f b) = .error e := by
  induction xs generalizing b with
  | nil => exact ⟨nofun, nofun⟩
  | cons x xs ih =>
    have hrest := fun y hy => hstep y (List.mem_cons_of_mem x hy)
    have hanew : ∀ c, xs.mapM (f c) = .error e ↔ xs.mapM (f b) = .error e := by
      intro c
      apply mapM_eq_error_congr
      intro y hy
      cases hb : f b y with
      | error cause => exact Or.inl (hrest y hy b c cause hb)
      | ok d =>
        cases hc : f c y with
        | error cause =>
          rw [hrest y hy c b cause hc] at hb
          cases hb
        | ok d' => exact Or.inr ⟨⟨d', rfl⟩, d, rfl⟩
    rw [List.foldlM_cons, bind_eq_error_iff, mapM_cons_eq_error_iff]
    simp only [ih hrest, hanew]

theorem foldlM_congr {f g : β → α → Except ε β} {xs : List α}
    (h : ∀ b, ∀ x ∈ xs, f b x = g b x) (b : β) : xs.foldlM f b = xs.foldlM g b := by
  induction xs generalizing b with
  | nil => rfl
  | cons x xs ih =>
    rw [List.foldlM_cons, List.foldlM_cons, h b x List.mem_cons_self]
    exact congrArg _ (funext (ih fun b y hy => h b y (List.mem_cons_of_mem _ hy)))

/-- A change that every step takes along is taken along by all of them. -/
theorem foldlM_map_comm {f : β → α → Except ε β} {change : β → β} (P : β → Prop) {xs : List α}
    (hcomm : ∀ b, P b → ∀ x ∈ xs, f (change b) x = (f b x).map change)
    (hkeep : ∀ b, P b → ∀ x ∈ xs, ∀ c, f b x = .ok c → P c) {b : β} (hb : P b) :
    xs.foldlM f (change b) = (xs.foldlM f b).map change := by
  induction xs generalizing b with
  | nil => rfl
  | cons x xs ih =>
    rw [List.foldlM_cons, List.foldlM_cons, hcomm b hb x List.mem_cons_self]
    cases hx : f b x with
    | error e => rfl
    | ok c =>
      exact ih (fun b hb y hy => hcomm b hb y (List.mem_cons_of_mem _ hy))
        (fun b hb y hy => hkeep b hb y (List.mem_cons_of_mem _ hy))
        (hkeep b hb x List.mem_cons_self c hx)

/-- Steps whose success does not hang on where they start succeed in a row
exactly when each of them does. -/
theorem exists_foldlM_eq_ok_iff {f : β → α → Except ε β} {xs : List α}
    (hstep : ∀ x ∈ xs, ∀ b c d, f b x = .ok d → ∃ d', f c x = .ok d') {b : β} :
    (∃ c, xs.foldlM f b = .ok c) ↔ ∀ x ∈ xs, ∃ c, f b x = .ok c := by
  induction xs generalizing b with
  | nil => exact ⟨fun _ => nofun, fun _ => ⟨b, rfl⟩⟩
  | cons x xs ih =>
    have htail := fun y hy => hstep y (List.mem_cons_of_mem _ hy)
    simp only [List.foldlM_cons, bind_eq_ok_iff, List.forall_mem_cons]
    constructor
    · rintro ⟨c, d, hx, hrest⟩
      refine ⟨⟨d, hx⟩, fun y hy => ?_⟩
      obtain ⟨d', hd'⟩ := (ih htail).1 ⟨c, hrest⟩ y hy
      exact htail y hy d b d' hd'
    · rintro ⟨⟨d, hx⟩, hrest⟩
      obtain ⟨c, hc⟩ := (ih htail).2 fun y hy => by
        obtain ⟨d', hd'⟩ := hrest y hy
        exact htail y hy b d d' hd'
      exact ⟨c, d, hx, hc⟩

/-- What every step keeps is kept by all of them. -/
theorem foldlM_induction {f : β → α → Except ε β} (P : β → Prop) {xs : List α}
    (hstep : ∀ b, P b → ∀ x ∈ xs, ∀ c, f b x = .ok c → P c) {b c : β} (hb : P b)
    (h : xs.foldlM f b = .ok c) : P c := by
  induction xs generalizing b with
  | nil =>
    cases h
    exact hb
  | cons x xs ih =>
    rw [List.foldlM_cons, bind_eq_ok_iff] at h
    obtain ⟨d, hx, hrest⟩ := h
    have hd : P d := hstep b hb x List.mem_cons_self d hx
    exact ih (fun b hb y hy => hstep b hb y (List.mem_cons_of_mem _ hy)) hd hrest

/-- Steps that change nothing when they succeed change nothing in a row. -/
theorem eq_of_foldlM_eq_ok {f : β → α → Except ε β} {xs : List α} {b c : β}
    (hstep : ∀ x ∈ xs, ∀ d, f b x = .ok d → d = b) (h : xs.foldlM f b = .ok c) : c = b :=
  foldlM_induction (· = b) (fun _ hd x hx _ hc => hstep x hx _ (hd ▸ hc)) rfl h

theorem foldlM_eq_ok_self_iff {f : β → α → Except ε β} {xs : List α} {b : β}
    (hstep : ∀ x ∈ xs, ∀ d, f b x = .ok d → d = b) :
    xs.foldlM f b = .ok b ↔ ∀ x ∈ xs, f b x = .ok b := by
  induction xs with
  | nil => exact ⟨fun _ x hx => absurd hx List.not_mem_nil, fun _ => rfl⟩
  | cons x xs ih =>
    have hrest := ih fun y hy => hstep y (List.mem_cons_of_mem _ hy)
    rw [List.foldlM_cons, bind_eq_ok_iff, List.forall_mem_cons, ← hrest]
    constructor
    · rintro ⟨d, hd, htail⟩
      obtain rfl : d = b := hstep x List.mem_cons_self d hd
      exact ⟨hd, htail⟩
    · exact fun ⟨hx, htail⟩ => ⟨b, hx, htail⟩

end MerchantApi.Outcome
