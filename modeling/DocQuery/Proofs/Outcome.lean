import Mathlib.Data.List.Forall2

/-!
# Computations that may fail

What is known of a computation from its result, and the computations on the members of a list one
after the other.

## Main definitions

* `Gives` — what a computation results in has a property, if it succeeds.
* `ExtendedBy` — a computation that succeeds wherever another one does, with the same result.
* `SucceedAlike` — two computations that extend one another.

## Main results

* `bind_eq_ok_iff`, `map_eq_ok_iff` — what has succeeded if the whole has.
* `exists_mapM_eq_ok`, `mapM_eq_ok_iff` — a list is done if each of its members is.
* `Gives.bind`, `Gives.mapM` — the whole has a property by those of its parts.
* `ExtendedBy.bind`, `ExtendedBy.mapM` — extending a part extends the whole.
* `SucceedAlike.bind` — so does what succeeds alike in its parts.
-/

namespace DocQuery

variable {ε α β γ : Type}

@[simp] theorem ok_bind (a : α) (f : α → Except ε β) : (Except.ok a >>= f) = f a := rfl

@[simp] theorem error_bind (e : ε) (f : α → Except ε β) :
    ((Except.error e : Except ε α) >>= f) = .error e := rfl

@[simp] theorem map_ok (f : α → β) (a : α) : f <$> (Except.ok a : Except ε α) = .ok (f a) := rfl

@[simp] theorem map_error (f : α → β) (e : ε) :
    f <$> (Except.error e : Except ε α) = .error e := rfl

@[simp] theorem pure_eq_ok (a : α) : (pure a : Except ε α) = .ok a := rfl

theorem bind_eq_ok_iff {x : Except ε α} {f : α → Except ε β} {b : β} :
    (x >>= f) = .ok b ↔ ∃ a, x = .ok a ∧ f a = .ok b := by
  cases x with
  | error e => simp
  | ok a => simp

theorem map_eq_ok_iff {x : Except ε α} {f : α → β} {b : β} :
    f <$> x = .ok b ↔ ∃ a, x = .ok a ∧ f a = b := by
  cases x with
  | error e => simp
  | ok a => simp

/-! ### Lists -/

theorem mapM_eq_ok_iff {f : α → Except ε β} {l : List α} {l' : List β} :
    l.mapM f = .ok l' ↔ List.Forall₂ (fun a b => f a = .ok b) l l' := by
  induction l generalizing l' with
  | nil =>
    rw [List.mapM_nil, pure_eq_ok, List.forall₂_nil_left_iff, Except.ok.injEq, eq_comm]
  | cons a l ih =>
    rw [List.mapM_cons, bind_eq_ok_iff]
    simp only [bind_eq_ok_iff, pure_eq_ok, Except.ok.injEq, List.forall₂_cons_left_iff]
    constructor
    · rintro ⟨b, hb, l'', hl, rfl⟩
      exact ⟨b, l'', hb, ih.mp hl, rfl⟩
    · rintro ⟨b, l'', hb, hl, rfl⟩
      exact ⟨b, hb, l'', ih.mpr hl, rfl⟩

theorem mapM_congr {f : α → Except ε β} {g : γ → Except ε β} {l : List α} {l' : List γ}
    (h : List.Forall₂ (fun a c => f a = g c) l l') : l.mapM f = l'.mapM g := by
  induction h with
  | nil => rfl
  | cons ha _ ih => rw [List.mapM_cons, List.mapM_cons, ha, ih]

/-- What is made of each member and its result can be made of all of them in the end. -/
theorem mapM_map_eq_zipWith {f : α → Except ε β} {g : α → β → γ} {l : List α} :
    (l.mapM fun a => g a <$> f a) = List.zipWith g l <$> l.mapM f := by
  induction l with
  | nil => rfl
  | cons a l ih =>
    rw [List.mapM_cons, List.mapM_cons, ih]
    cases f a with
    | error e => rfl
    | ok b => cases l.mapM f <;> rfl

theorem foldlM_congr {f : β → α → Except ε β} {g : β → γ → Except ε β} {l : List α} {l' : List γ}
    (h : List.Forall₂ (fun a c => ∀ b, f b a = g b c) l l') (start : β) :
    l.foldlM f start = l'.foldlM g start := by
  induction h generalizing start with
  | nil => rfl
  | cons ha _ ih =>
    rw [List.foldlM_cons, List.foldlM_cons, ha]
    exact congrArg _ (funext ih)

/-- Lists whose members agree in pairs on what is taken from them are mapped to the same list. -/
theorem map_congr_of_forall₂ {f : α → β} {g : γ → β} {l : List α} {l' : List γ}
    (h : List.Forall₂ (fun a c => f a = g c) l l') : l.map f = l'.map g := by
  induction h with
  | nil => rfl
  | cons ha _ ih => rw [List.map_cons, List.map_cons, ha, ih]

/-- What follows for a member from its counterpart holds of all members. -/
theorem forall_mem_of_forall₂ {r : α → β → Prop} {p : β → Prop} {l : List α} {l' : List β}
    (h : List.Forall₂ r l l') (hp : ∀ a b, r a b → p b) : ∀ b ∈ l', p b := by
  induction h with
  | nil => exact List.forall_mem_nil p
  | cons hr _ ih => exact List.forall_mem_cons.mpr ⟨hp _ _ hr, ih⟩

/-- The same for what follows from a member and its counterpart together. -/
theorem forall_mem_of_forall₂_of_forall_mem {r : α → β → Prop} {p : α → Prop} {q : β → Prop}
    {l : List α} {l' : List β} (h : List.Forall₂ r l l') (hl : ∀ a ∈ l, p a)
    (hpq : ∀ a b, r a b → p a → q b) : ∀ b ∈ l', q b := by
  induction h with
  | nil => exact List.forall_mem_nil q
  | cons hr _ ih =>
    obtain ⟨ha, hrest⟩ := List.forall_mem_cons.mp hl
    exact List.forall_mem_cons.mpr ⟨hpq _ _ hr ha, ih hrest⟩

/-- If a computation succeeds on each member with a related result, it does so on the list. -/
theorem exists_mapM_eq_ok {f : α → Except ε β} {r : α → β → Prop} {l : List α}
    (h : ∀ a ∈ l, ∃ b, f a = .ok b ∧ r a b) :
    ∃ l', l.mapM f = .ok l' ∧ List.Forall₂ r l l' := by
  induction l with
  | nil => exact ⟨[], rfl, .nil⟩
  | cons a l ih =>
    obtain ⟨b, hb, hr⟩ := h a List.mem_cons_self
    obtain ⟨l', hl, hrs⟩ := ih fun x hx => h x (List.mem_cons_of_mem a hx)
    refine ⟨b :: l', ?_, .cons hr hrs⟩
    rw [List.mapM_cons, hb, hl]
    rfl

/-- If a computation succeeds on a list, it does so on each member. -/
theorem exists_of_mapM_eq_ok {f : α → Except ε β} {l : List α} {l' : List β}
    (h : l.mapM f = .ok l') : ∀ a ∈ l, ∃ b, f a = .ok b :=
  forall_mem_of_forall₂ (mapM_eq_ok_iff.mp h).flip fun b _ hb => ⟨b, hb⟩

/-! ### What holds of results -/

/-- What the computation results in has the property, if it succeeds. -/
def Gives (x : Except ε α) (p : α → Prop) : Prop :=
  ∀ a, x = .ok a → p a

namespace Gives

variable {x : Except ε α} {p : α → Prop} {q : β → Prop}

theorem ok {a : α} (h : p a) : Gives (.ok a : Except ε α) p := by
  rintro b ⟨⟩
  exact h

theorem error (e : ε) : Gives (.error e : Except ε α) p :=
  nofun

theorem imp {p' : α → Prop} (h : Gives x p) (himp : ∀ a, p a → p' a) : Gives x p' :=
  fun a ha => himp a (h a ha)

theorem bind {f : α → Except ε β} (h : Gives x p) (hf : ∀ a, p a → Gives (f a) q) :
    Gives (x >>= f) q := by
  intro b hb
  obtain ⟨a, ha, hfa⟩ := bind_eq_ok_iff.mp hb
  exact hf a (h a ha) b hfa

/-- Nothing need be known of what the first part results in. -/
theorem bind_any {f : α → Except ε β} (hf : ∀ a, Gives (f a) q) : Gives (x >>= f) q := by
  intro b hb
  obtain ⟨a, -, hfa⟩ := bind_eq_ok_iff.mp hb
  exact hf a b hfa

theorem map {f : α → β} (h : Gives x p) (hf : ∀ a, p a → q (f a)) : Gives (f <$> x) q := by
  intro b hb
  obtain ⟨a, ha, rfl⟩ := map_eq_ok_iff.mp hb
  exact hf a (h a ha)

theorem mapError {ε' : Type} {f : ε → ε'} (h : Gives x p) : Gives (x.mapError f) p := by
  cases x with
  | error e => exact error _
  | ok a => exact ok (h a rfl)

/-- The results for the members of a list are related to them one by one. -/
theorem mapM_forall₂ {r : α → β → Prop} {f : α → Except ε β} {l : List α}
    (h : ∀ a ∈ l, Gives (f a) (r a)) : Gives (l.mapM f) (List.Forall₂ r l) := by
  induction l with
  | nil => exact ok .nil
  | cons a l ih =>
    obtain ⟨ha, hl⟩ := List.forall_mem_cons.mp h
    rw [List.mapM_cons]
    exact ha.bind fun b hb => (ih hl).bind fun bs hbs => ok (.cons hb hbs)

theorem mapM {f : α → Except ε β} {l : List α} (h : ∀ a ∈ l, Gives (f a) q) :
    Gives (l.mapM f) fun l' => ∀ b ∈ l', q b :=
  (mapM_forall₂ h).imp fun _ hl' => forall_mem_of_forall₂ hl' fun _ _ hb => hb

end Gives

/-! ### Computations that extend one another -/

/-- Where the first computation succeeds, the second one does with the same result. -/
def ExtendedBy (x y : Except ε α) : Prop :=
  ∀ a, x = .ok a → y = .ok a

namespace ExtendedBy

theorem refl (x : Except ε α) : ExtendedBy x x :=
  fun _ h => h

theorem trans {x y z : Except ε α} (hxy : ExtendedBy x y) (hyz : ExtendedBy y z) :
    ExtendedBy x z :=
  fun a h => hyz a (hxy a h)

/-- Only what the first part results in has to be looked at. -/
theorem bind_of_eq_ok {x y : Except ε α} {f g : α → Except ε β} (h : ExtendedBy x y)
    (hf : ∀ a, x = .ok a → ExtendedBy (f a) (g a)) : ExtendedBy (x >>= f) (y >>= g) := by
  intro b hb
  obtain ⟨a, ha, hfa⟩ := bind_eq_ok_iff.mp hb
  exact bind_eq_ok_iff.mpr ⟨a, h a ha, hf a ha b hfa⟩

theorem bind {x y : Except ε α} {f g : α → Except ε β} (h : ExtendedBy x y)
    (hf : ∀ a, ExtendedBy (f a) (g a)) : ExtendedBy (x >>= f) (y >>= g) :=
  h.bind_of_eq_ok fun a _ => hf a

theorem map {x y : Except ε α} (f : α → β) (h : ExtendedBy x y) :
    ExtendedBy (f <$> x) (f <$> y) := by
  intro b hb
  obtain ⟨a, ha, hfa⟩ := map_eq_ok_iff.mp hb
  exact map_eq_ok_iff.mpr ⟨a, h a ha, hfa⟩

theorem mapM {f : α → Except ε β} {g : γ → Except ε β} {l : List α} {l' : List γ}
    (h : List.Forall₂ (fun a c => ExtendedBy (f a) (g c)) l l') :
    ExtendedBy (l.mapM f) (l'.mapM g) := by
  induction h with
  | nil => exact refl _
  | cons ha _ ih =>
    rw [List.mapM_cons, List.mapM_cons]
    exact ha.bind fun b => ih.bind fun bs => refl _

end ExtendedBy

/-! ### Computations that succeed alike -/

/-- One computation succeeds where the other does, with the same result.  Where they fail, the
errors may differ. -/
def SucceedAlike (x y : Except ε α) : Prop :=
  ∀ a, x = .ok a ↔ y = .ok a

namespace SucceedAlike

theorem refl (x : Except ε α) : SucceedAlike x x :=
  fun _ => Iff.rfl

theorem trans {x y z : Except ε α} (hxy : SucceedAlike x y) (hyz : SucceedAlike y z) :
    SucceedAlike x z :=
  fun a => (hxy a).trans (hyz a)

theorem bind {x y : Except ε α} {f g : α → Except ε β} (h : SucceedAlike x y)
    (hf : ∀ a, SucceedAlike (f a) (g a)) : SucceedAlike (x >>= f) (y >>= g) := by
  intro b
  rw [bind_eq_ok_iff, bind_eq_ok_iff]
  constructor
  · rintro ⟨a, hx, hfa⟩
    exact ⟨a, (h a).mp hx, (hf a b).mp hfa⟩
  · rintro ⟨a, hy, hga⟩
    exact ⟨a, (h a).mpr hy, (hf a b).mpr hga⟩

end SucceedAlike

end DocQuery
