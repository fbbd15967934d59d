import TenantBroker.Proofs.Cluster.Conduct

/-!
# Programs that mirror each other

A program between whose calls others work on the cluster is compared with one that runs by itself
from another state. The first mirrors the second if the two end in the same way, whatever the others
do. What is assumed and what is shown are relations between the states of the two. The rules follow
the structure of programs, so the two sides are taken apart together.
-/

namespace TenantBroker.Cluster.Program

open Relation (ReflTransGen)

variable {α β γ δ ε σ : Type} {handle : Handler σ} {Between : σ → σ → Prop}

/-- The first program, between whose calls others act, ends as the second one does by itself. -/
def Mirrors (handle : Handler σ) (Between : σ → σ → Prop) (Q : α → β → σ → σ → Prop)
    (p : Program α) (q : Program β) (s t : σ) : Prop :=
  p.Safe handle Between (fun _ ↦ True)
    (fun value s' ↦ Q value (q.run handle t).1 s' (q.run handle t).2) s

/-- Two programs that are done mirror each other if what is to be shown lasts. -/
theorem mirrors_done {Q : α → β → σ → σ → Prop} {a : α} {b : β} {s t : σ}
    (h : ∀ s', ReflTransGen Between s s' → Q a b s' t) :
    Mirrors handle Between Q (.done a) (.done b) s t := fun s' hs' ↦ ⟨trivial, h s' hs'⟩

/-- Two programs with a call mirror each other if they do after their calls. -/
theorem mirrors_call {Q : α → β → σ → σ → Prop} {c c' : Call}
    {next : Except Failure c.Reply → Program α} {next' : Except Failure c'.Reply → Program β}
    {s t : σ}
    (h : ∀ s', ReflTransGen Between s s' → Mirrors handle Between Q (next (handle c s').1)
      (next' (handle c' t).1) (handle c s').2 (handle c' t).2) :
    Mirrors handle Between Q (.call c next) (.call c' next') s t :=
  fun s' hs' ↦ ⟨trivial, h s' hs'⟩

/-- Programs that mirror each other go on to do so. -/
theorem Mirrors.bind {Q : α → β → σ → σ → Prop} {R : γ → δ → σ → σ → Prop} {p : Program α}
    {q : Program β} {f : α → Program γ} {g : β → Program δ} {s t : σ}
    (h : Mirrors handle Between Q p q s t)
    (hf : ∀ a b s' t', Q a b s' t' → Mirrors handle Between R (f a) (g b) s' t') :
    Mirrors handle Between R (p.bind f) (q.bind g) s t := by
  unfold Mirrors
  rw [run_bind]
  exact Safe.bind h fun value s' _ hQ ↦ hf _ _ _ _ hQ

/-! ## Programs that may fail -/

/-- Two outcomes of the same sort: values that are related, or one error. Something holds after a
success and something after an error. -/
inductive Alike (R : α → β → Prop) (B C : Prop) : Except ε α → Except ε β → Prop
  | ok {a : α} {b : β} (hR : R a b) (hB : B) : Alike R B C (.ok a) (.ok b)
  | error (e : ε) (hC : C) : Alike R B C (.error e) (.error e)

/-- Outcomes of the same sort remain so if less is to hold after a success. -/
theorem Alike.mono {R : α → β → Prop} {B B' C : Prop} {o : Except ε α} {o' : Except ε β}
    (h : Alike R B C o o') (hB : B → B') : Alike R B' C o o' := by
  cases h with
  | ok hR hB' => exact .ok hR (hB hB')
  | error e hC => exact .error e hC

/-- From related states the two programs come to outcomes of the same sort. -/
def Agree (handle : Handler σ) (Between : σ → σ → Prop) (A B C : σ → σ → Prop) (R : α → β → Prop)
    (p : Program (Except ε α)) (q : Program (Except ε β)) : Prop :=
  ∀ s t, A s t →
    Mirrors handle Between (fun o o' s' t' ↦ Alike R (B s' t') (C s' t') o o') p q s t

/-- A relation of states that nothing between two calls of the first program can falsify. -/
def Enduring (Between : σ → σ → Prop) (A : σ → σ → Prop) : Prop := ∀ t, Stable Between (A · t)

variable {A B C D : σ → σ → Prop} {R : α → β → Prop} {S : γ → δ → Prop}

/-- A relation that lasts outlasts any number of changes. -/
theorem Enduring.many (hA : Enduring Between A) {s s' t : σ} (h : ReflTransGen Between s s')
    (hs : A s t) : A s' t := (hA t).many h hs

/-- Agreement goes over to weaker relations after a success. -/
theorem agree_mono {B' : σ → σ → Prop} (hB : ∀ s t, B s t → B' s t) {p : Program (Except ε α)}
    {q : Program (Except ε β)} (h : Agree handle Between A B C R p q) :
    Agree handle Between A B' C R p q :=
  fun s t hs ↦ Safe.mono (h s t hs) fun _ _ _ ho ↦ ho.mono (hB _ _)

/-- Programs that are done with values agree if the values are related. -/
theorem agree_ok (hA : Enduring Between A) {a : α} {b : β} (h : R a b) :
    Agree (ε := ε) handle Between A A C R (.done (.ok a)) (.done (.ok b)) :=
  fun _ _ hs ↦ mirrors_done fun _ hs' ↦ .ok h (hA.many hs' hs)

/-- Programs that are done with one error agree. -/
theorem agree_error (hA : Enduring Between A) (e : ε) :
    Agree handle Between A B A R (.done (.error e)) (.done (.error e)) :=
  fun _ _ hs ↦ mirrors_done fun _ hs' ↦ .error e (hA.many hs' hs)

/-- Programs with a call agree if they mirror each other after their calls. -/
theorem agree_call (hA : Enduring Between A) {c c' : Call}
    {next : Except Failure c.Reply → Program (Except ε α)}
    {next' : Except Failure c'.Reply → Program (Except ε β)}
    (h : ∀ s t, A s t → Mirrors handle Between
      (fun o o' s' t' ↦ Alike R (B s' t') (C s' t') o o') (next (handle c s).1)
      (next' (handle c' t).1) (handle c s).2 (handle c' t).2) :
    Agree handle Between A B C R (.call c next) (.call c' next') :=
  fun _ _ hs ↦ mirrors_call fun _ hs' ↦ h _ _ (hA.many hs' hs)

/-- Programs agree one after the other. -/
theorem agree_andThen (hC : Enduring Between C) {p : Program (Except ε α)}
    {q : Program (Except ε β)} {f : α → Program (Except ε γ)} {g : β → Program (Except ε δ)}
    (hp : Agree handle Between A B C R p q)
    (hf : ∀ a b, R a b → Agree handle Between B D C S (f a) (g b)) :
    Agree handle Between A D C S (p.andThen f) (q.andThen g) := by
  intro s t hs
  refine (hp s t hs).bind fun o o' s' t' ho ↦ ?_
  cases ho with
  | ok hR hB => exact hf _ _ hR s' t' hB
  | error e hC' => exact agree_error hC e s' t' hC'

/-- Changing the outcomes, if they stay of the same sort, changes nothing. -/
theorem agree_map {ε' : Type} (hB : Enduring Between B) (hC : Enduring Between C)
    {p : Program (Except ε α)} {q : Program (Except ε β)} {f : Except ε α → Except ε' γ}
    {g : Except ε β → Except ε' δ} (hp : Agree handle Between A B C R p q)
    (hok : ∀ a b, R a b → ∃ c d, f (.ok a) = .ok c ∧ g (.ok b) = .ok d ∧ S c d)
    (herror : ∀ e, ∃ e', f (.error e) = .error e' ∧ g (.error e) = .error e') :
    Agree handle Between A B C S (p.map f) (q.map g) := by
  intro s t hs
  refine (hp s t hs).bind fun o o' s' t' ho ↦ ?_
  cases ho with
  | @ok a b hR hB' =>
    obtain ⟨c, d, hc, hd, hS⟩ := hok a b hR
    rw [hc, hd]
    exact agree_ok hB hS s' t' hB'
  | error e hC' =>
    obtain ⟨e', he, he'⟩ := herror e
    rw [he, he']
    exact agree_error hC e' s' t' hC'

end TenantBroker.Cluster.Program
