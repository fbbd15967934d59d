import Mathlib.Logic.Relation
import TenantBroker.Cluster.Program

/-!
# The conduct of programs

Properties of a program by recursion on it. `Only` bounds the calls that it makes, whatever the
replies, and `OnlyUnder` those that it makes while the replies are of some sort. `Safe` says that it
keeps an invariant and ends with a postcondition although the state may change between any two of
its calls. `Leads` is safety from an assertion to another one, which is reached only if the program
succeeds, and `Achieves` says that it does succeed; both compose along `andThen`. `Succeeds` is
about a run that nothing interrupts.
-/

namespace TenantBroker.Cluster.Program

open Relation (ReflTransGen)

variable {α β ε : Type}

/-! ## The calls of a program -/

/-- Whatever the replies, all calls of the program are of one sort. -/
def Only (P : Call → Prop) : Program α → Prop
  | .done _ => True
  | .call c next => P c ∧ ∀ reply, (next reply).Only P

/-- While the replies are of some sort, all calls of the program are of one sort. -/
def OnlyUnder (R : (c : Call) → Except Failure c.Reply → Prop) (P : Call → Prop) :
    Program α → Prop
  | .done _ => True
  | .call c next => P c ∧ ∀ reply, R c reply → (next reply).OnlyUnder R P

variable {P : Call → Prop} {R : (c : Call) → Except Failure c.Reply → Prop}

/-- A program that is done makes no call. -/
@[simp] theorem only_done (value : α) : (Program.done value).Only P := trivial

/-- A program that is done makes no call while the replies are of any sort. -/
@[simp] theorem onlyUnder_done (value : α) : (Program.done value).OnlyUnder R P := trivial

/-- Replies of any sort do not bound the calls further. -/
theorem onlyUnder_true {p : Program α} : p.OnlyUnder (fun _ _ ↦ True) P ↔ p.Only P := by
  induction p with
  | done value => exact Iff.rfl
  | call c next ih => simp only [OnlyUnder, Only, ih, true_implies]

/-- Calls of one sort are calls of every wider sort. -/
theorem only_mono {P R : Call → Prop} (h : ∀ c, P c → R c) {p : Program α} (hp : p.Only P) :
    p.Only R := by
  induction p with
  | done value => trivial
  | call c next ih => exact ⟨h c hp.1, fun reply ↦ ih reply (hp.2 reply)⟩

/-- The calls of two programs in a row are those of the first and those of the second. -/
theorem onlyUnder_bind {p : Program α} {f : α → Program β} (hp : p.OnlyUnder R P)
    (hf : ∀ value, (f value).OnlyUnder R P) : (p.bind f).OnlyUnder R P := by
  induction p with
  | done value => exact hf value
  | call c next ih => exact ⟨hp.1, fun reply hreply ↦ ih reply (hp.2 reply hreply)⟩

/-- Changing the value does not change the calls. -/
theorem onlyUnder_map {p : Program α} {f : α → β} (hp : p.OnlyUnder R P) :
    (p.map f).OnlyUnder R P := onlyUnder_bind hp fun _ ↦ trivial

/-- Going on after a success adds the calls of the second program. -/
theorem onlyUnder_andThen {p : Program (Except ε α)} {f : α → Program (Except ε β)}
    (hp : p.OnlyUnder R P) (hf : ∀ value, (f value).OnlyUnder R P) :
    (p.andThen f).OnlyUnder R P := by
  apply onlyUnder_bind hp
  intro outcome
  cases outcome with
  | error e => trivial
  | ok value => exact hf value

/-- The calls of two programs in a row, whatever the replies. -/
theorem only_bind {p : Program α} {f : α → Program β} (hp : p.Only P)
    (hf : ∀ value, (f value).Only P) : (p.bind f).Only P := by
  simp only [← onlyUnder_true] at *
  exact onlyUnder_bind hp hf

/-- The calls of a program whose value is changed, whatever the replies. -/
theorem only_map {p : Program α} {f : α → β} (hp : p.Only P) : (p.map f).Only P :=
  only_bind hp fun _ ↦ trivial

/-- The calls of a program that goes on after a success, whatever the replies. -/
theorem only_andThen {p : Program (Except ε α)} {f : α → Program (Except ε β)} (hp : p.Only P)
    (hf : ∀ value, (f value).Only P) : (p.andThen f).Only P := by
  simp only [← onlyUnder_true] at *
  exact onlyUnder_andThen hp hf

/-! ## Invariants under interference -/

variable {σ : Type}

/-- Whatever happens between its calls, the program keeps the invariant, and it ends with the
postcondition. -/
def Safe (handle : Handler σ) (Between : σ → σ → Prop) (I : σ → Prop) (Q : α → σ → Prop) :
    Program α → σ → Prop
  | .done value, s => ∀ t, ReflTransGen Between s t → I t ∧ Q value t
  | .call c next, s => ∀ t, ReflTransGen Between s t →
      I t ∧ (next (handle c t).1).Safe handle Between I Q (handle c t).2

variable {handle : Handler σ} {Between : σ → σ → Prop} {I A B C : σ → Prop} {Q : α → σ → Prop}

/-- An assertion that nothing between two calls can falsify. -/
def Stable (Between : σ → σ → Prop) (A : σ → Prop) : Prop := ∀ ⦃s t⦄, Between s t → A s → A t

/-- A stable assertion outlasts any number of changes. -/
theorem Stable.many (hA : Stable Between A) {s t : σ} (h : ReflTransGen Between s t) (hs : A s) :
    A t := by
  induction h with
  | refl => exact hs
  | tail _ step ih => exact hA step ih

/-- The invariant holds where a safe program stands. -/
theorem Safe.invariant {p : Program α} {s : σ} (h : p.Safe handle Between I Q s) : I s := by
  cases p with
  | done value => exact (h s .refl).1
  | call c next => exact (h s .refl).1

/-- What happens between two calls does not end safety. -/
theorem Safe.between {p : Program α} {s t : σ} (h : p.Safe handle Between I Q s)
    (step : Between s t) : p.Safe handle Between I Q t := by
  cases p with
  | done value =>
    intro u hu
    exact h u (.head step hu)
  | call c next =>
    intro u hu
    exact h u (.head step hu)

/-- A program that is done has reached its postcondition. -/
theorem Safe.post {value : α} {s : σ} (h : (Program.done value).Safe handle Between I Q s) :
    Q value s := (h s .refl).2

/-- A call leaves a safe program where it is safe. -/
theorem Safe.next {c : Call} {next : Except Failure c.Reply → Program α} {s : σ}
    (h : (Program.call c next).Safe handle Between I Q s) :
    (next (handle c s).1).Safe handle Between I Q (handle c s).2 := (h s .refl).2

/-- A weaker postcondition is reached too. -/
theorem Safe.mono {R : α → σ → Prop} {p : Program α} {s : σ} (h : p.Safe handle Between I Q s)
    (hR : ∀ value t, I t → Q value t → R value t) : p.Safe handle Between I R s := by
  induction p generalizing s with
  | done value =>
    intro t ht
    exact ⟨(h t ht).1, hR value t (h t ht).1 (h t ht).2⟩
  | call c next ih =>
    intro t ht
    exact ⟨(h t ht).1, ih _ (h t ht).2⟩

/-- Safety of one program after another. -/
theorem Safe.bind {R : β → σ → Prop} {p : Program α} {f : α → Program β} {s : σ}
    (h : p.Safe handle Between I Q s)
    (hf : ∀ value t, I t → Q value t → (f value).Safe handle Between I R t) :
    (p.bind f).Safe handle Between I R s := by
  induction p generalizing s with
  | done value => exact hf value s h.invariant h.post
  | call c next ih =>
    intro t ht
    exact ⟨(h t ht).1, ih _ (h t ht).2⟩

/-- Changing the value changes the postcondition along. -/
theorem Safe.map {R : β → σ → Prop} {p : Program α} {f : α → β} {s : σ}
    (h : p.Safe handle Between I (fun value t ↦ R (f value) t) s) :
    (p.map f).Safe handle Between I R s := by
  induction p generalizing s with
  | done value => exact h
  | call c next ih =>
    intro t ht
    exact ⟨(h t ht).1, ih _ (h t ht).2⟩

/-- A program is safe if each of its calls keeps the invariant and an assertion. -/
theorem safe_of_only (hI : Stable Between I) (hA : Stable Between A)
    (hkeep : ∀ c, P c → ∀ s, I s → A s → I (handle c s).2 ∧ A (handle c s).2)
    {p : Program α} {s : σ} (hp : p.Only P) (hIs : I s) (hAs : A s) :
    p.Safe handle Between I (fun _ t ↦ A t) s := by
  induction p generalizing s with
  | done value =>
    intro t ht
    exact ⟨hI.many ht hIs, hA.many ht hAs⟩
  | call c next ih =>
    intro t ht
    have hIt := hI.many ht hIs
    obtain ⟨hI', hA'⟩ := hkeep c hp.1 t hIt (hA.many ht hAs)
    exact ⟨hIt, ih _ (hp.2 _) hI' hA'⟩

/-- From an assertion the program is safe, and if it succeeds another assertion holds. -/
def Leads (handle : Handler σ) (Between : σ → σ → Prop) (I A B : σ → Prop)
    (p : Program (Except ε α)) : Prop :=
  ∀ s, I s → A s → p.Safe handle Between I (fun outcome t ↦ ∀ value, outcome = .ok value → B t) s

/-- A program that is done is safe where the invariant holds, and what follows from its success if
it has succeeded. -/
theorem safe_done (hI : Stable Between I) (hB : Stable Between B) {outcome : Except ε α} {s : σ}
    (hIs : I s) (h : ∀ value, outcome = .ok value → B s) :
    (Program.done outcome).Safe handle Between I (fun o t ↦ ∀ value, o = .ok value → B t) s :=
  fun _ ht ↦ ⟨hI.many ht hIs, fun value hv ↦ hB.many ht (h value hv)⟩

/-- A call leads on if the program does from every state in which the call can be made. -/
theorem leads_call (hI : Stable Between I) (hA : Stable Between A) {c : Call}
    {next : Except Failure c.Reply → Program (Except ε α)}
    (h : ∀ s, I s → A s → (next (handle c s).1).Safe handle Between I
      (fun outcome t ↦ ∀ value, outcome = .ok value → B t) (handle c s).2) :
    Leads handle Between I A B (.call c next) :=
  fun _ hIs hAs t ht ↦ ⟨hI.many ht hIs, h t (hI.many ht hIs) (hA.many ht hAs)⟩

/-- Two programs lead on one after the other. -/
theorem leads_andThen (hI : Stable Between I) {p : Program (Except ε α)}
    {f : α → Program (Except ε β)} (hp : Leads handle Between I A B p)
    (hf : ∀ value, Leads handle Between I B C (f value)) :
    Leads handle Between I A C (p.andThen f) := by
  intro s hIs hAs
  refine (hp s hIs hAs).bind fun outcome t hIt hBt ↦ ?_
  cases outcome with
  | error e =>
    intro u hu
    exact ⟨hI.many hu hIt, fun _ hv ↦ nomatch hv⟩
  | ok value => exact hf value t hIt (hBt value rfl)

/-- Changing the outcome without making a success of an error leads to the same. -/
theorem leads_map {δ : Type} {p : Program (Except ε α)} {g : Except ε α → Except δ β}
    (hp : Leads handle Between I A B p)
    (hg : ∀ outcome value, g outcome = .ok value → ∃ first, outcome = .ok first) :
    Leads handle Between I A B (p.map g) := by
  intro s hIs hAs
  refine Safe.map ((hp s hIs hAs).mono fun outcome t _ hB value hv ↦ ?_)
  obtain ⟨first, hfirst⟩ := hg outcome value hv
  exact hB first hfirst

/-- From an assertion the program is safe and succeeds, and then another assertion holds. -/
def Achieves (handle : Handler σ) (Between : σ → σ → Prop) (I A B : σ → Prop)
    (p : Program (Except ε α)) : Prop :=
  ∀ s, I s → A s →
    p.Safe handle Between I (fun outcome t ↦ (∃ value, outcome = .ok value) ∧ B t) s

/-- A program that is done with a success achieves what holds already. -/
theorem achieves_done (hI : Stable Between I) (hA : Stable Between A) (value : α) :
    Achieves (ε := ε) handle Between I A A (.done (.ok value)) :=
  fun _ hIs hAs _ ht ↦ ⟨hI.many ht hIs, ⟨value, rfl⟩, hA.many ht hAs⟩

/-- A call achieves what the program does from every state in which the call can be made. -/
theorem achieves_call (hI : Stable Between I) (hA : Stable Between A) {c : Call}
    {next : Except Failure c.Reply → Program (Except ε α)}
    (h : ∀ s, I s → A s → (next (handle c s).1).Safe handle Between I
      (fun outcome t ↦ (∃ value, outcome = .ok value) ∧ B t) (handle c s).2) :
    Achieves handle Between I A B (.call c next) :=
  fun _ hIs hAs t ht ↦ ⟨hI.many ht hIs, h t (hI.many ht hIs) (hA.many ht hAs)⟩

/-- Two programs achieve something one after the other. -/
theorem achieves_andThen {p : Program (Except ε α)} {f : α → Program (Except ε β)}
    (hp : Achieves handle Between I A B p) (hf : ∀ value, Achieves handle Between I B C (f value)) :
    Achieves handle Between I A C (p.andThen f) := by
  intro s hIs hAs
  refine (hp s hIs hAs).bind fun outcome t hIt hBt ↦ ?_
  obtain ⟨⟨value, rfl⟩, hBt⟩ := hBt
  exact hf value t hIt hBt

/-- Changing the outcome, if a success stays one, achieves the same. -/
theorem achieves_map {δ : Type} {p : Program (Except ε α)} {g : Except ε α → Except δ β}
    (hp : Achieves handle Between I A B p) (hg : ∀ value, ∃ result, g (.ok value) = .ok result) :
    Achieves handle Between I A B (p.map g) := by
  intro s hIs hAs
  refine Safe.map ((hp s hIs hAs).mono fun outcome t _ hB ↦ ?_)
  obtain ⟨⟨value, rfl⟩, hBt⟩ := hB
  exact ⟨hg value, hBt⟩

/-! ## Runs that nothing interrupts -/

/-- A safe program that nothing interrupts reaches its postcondition. -/
theorem Safe.run {p : Program α} {s : σ} (h : p.Safe handle Between I Q s) :
    Q (p.run handle s).1 (p.run handle s).2 := by
  induction p generalizing s with
  | done value => exact h.post
  | call c next ih => exact ih _ h.next

/-- A run keeps what every call of the program keeps. -/
theorem run_of_only (hkeep : ∀ c, P c → ∀ s, I s → I (handle c s).2) {p : Program α} {s : σ}
    (hp : p.Only P) (hs : I s) : I (p.run handle s).2 := by
  induction p generalizing s with
  | done value => exact hs
  | call c next ih => exact ih _ (hp.2 _) (hkeep c hp.1 s hs)

variable {s t u : σ} {p : Program (Except ε α)} {f : α → Program (Except ε β)}

/-- After a success the second program goes on. -/
theorem run_andThen_ok {value : α} (h : p.run handle s = (.ok value, t)) :
    (p.andThen f).run handle s = (f value).run handle t := by
  unfold Program.andThen
  rw [run_bind, h]

/-- After an error there is nothing more to do. -/
theorem run_andThen_error {e : ε} (h : p.run handle s = (.error e, t)) :
    (p.andThen f).run handle s = (.error e, t) := by
  unfold Program.andThen
  rw [run_bind, h]
  rfl

/-- The program, run from one state without interruption, succeeds in another one. -/
def Succeeds (handle : Handler σ) (p : Program (Except ε α)) (s t : σ) : Prop :=
  ∃ value, p.run handle s = (.ok value, t)

/-- Two programs succeed one after the other. -/
theorem Succeeds.andThen (hp : Succeeds handle p s t)
    (hf : ∀ value, Succeeds handle (f value) t u) : Succeeds handle (p.andThen f) s u := by
  obtain ⟨value, hvalue⟩ := hp
  obtain ⟨result, hresult⟩ := hf value
  refine ⟨result, ?_⟩
  rw [run_andThen_ok hvalue]
  exact hresult

/-- A program succeeds along with its outcome changed, if a success stays one. -/
theorem Succeeds.map {δ : Type} {g : Except ε α → Except δ β}
    (hp : Succeeds handle p s t) (hg : ∀ value, ∃ result, g (.ok value) = .ok result) :
    Succeeds handle (p.map g) s t := by
  obtain ⟨value, hvalue⟩ := hp
  obtain ⟨result, hresult⟩ := hg value
  refine ⟨result, ?_⟩
  rw [run_map, hvalue]
  exact congrArg (·, t) hresult

end TenantBroker.Cluster.Program
