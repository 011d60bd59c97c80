import SynapseOS.Lib.Transition

/-! Infinite runs of a partial step function: what holds from some time on, and weak fairness. -/

namespace SynapseOS.Transition

variable {σ α ι : Type} {step : σ → α → Option σ} {ok : σ → α → Prop}

structure Schedule (step : σ → α → Option σ) (ok : σ → α → Prop) where
  states : ℕ → σ
  actions : ℕ → α
  allowed : ∀ n, ok (states n) (actions n)
  taken : ∀ n, step (states n) (actions n) = some (states (n + 1))

namespace Schedule

variable (run : Schedule step ok)

def Finally (holds : σ → Prop) : Prop := ∃ n, ∀ m ≥ n, holds (run.states m)

/-- What stays due is done in the end. -/
def Fair (due : σ → Prop) (done : α → Prop) : Prop :=
  ∀ n, (∀ m ≥ n, due (run.states m)) → ∃ m ≥ n, done (run.actions m)

variable {run}

theorem keeps {inv : σ → Prop} {n : ℕ} (initial : inv (run.states n))
    (keeps : ∀ s a t, inv s → ok s a → step s a = some t → inv t) : ∀ m ≥ n, inv
      (run.states m) := by
  intro m later
  induction m, later using Nat.le_induction with
  | base => exact initial
  | succ k _ ih => exact keeps _ _ _ ih (run.allowed k) (run.taken k)

/-- What is due until it is done is done at a time at which it is due. -/
theorem fair_done {due : σ → Prop} {done : α → Prop} {n : ℕ} (fair : run.Fair due done)
    (initial : due (run.states n))
    (persists : ∀ m ≥ n, due (run.states m) → ¬ done (run.actions m) → due (run.states (m + 1))) :
    ∃ m ≥ n, done (run.actions m) ∧ due (run.states m) := by
  by_contra never
  have always : ∀ m ≥ n, due (run.states m) := by
    intro m later
    induction m, later using Nat.le_induction with
    | base => exact initial
    | succ k before ih => exact persists k before ih fun did => never ⟨k, before, did, ih⟩
  obtain ⟨m, later, did⟩ := fair n always
  exact never ⟨m, later, did, always m later⟩

theorem finally_all {holds : ι → σ → Prop} (items : List ι)
    (each : ∀ i ∈ items, run.Finally (holds i)) :
    run.Finally fun s => ∀ i ∈ items, holds i s := by
  induction items with
  | nil => exact ⟨0, fun m _ => nofun⟩
  | cons first rest ih =>
      obtain ⟨n, own⟩ := each first List.mem_cons_self
      obtain ⟨m, others⟩ := ih fun i among => each i (List.mem_cons_of_mem _ among)
      refine ⟨max n m, fun k later i among => ?_⟩
      rcases List.mem_cons.mp among with rfl | among
      · exact own k (le_trans (le_max_left n m) later)
      · exact others k (le_trans (le_max_right n m) later) i among

theorem finally_mono {weak strong : σ → Prop} (implies : ∀ s, strong s → weak s)
    (held : run.Finally strong) : run.Finally weak := by
  obtain ⟨n, always⟩ := held
  exact ⟨n, fun m later => implies _ (always m later)⟩

def still (s : σ) (a : α) (allowed : ok s a) (taken : step s a = some s) : Schedule step ok :=
  ⟨fun _ => s, fun _ => a, fun _ => allowed, fun _ => taken⟩

def cons (s : σ) (a : α) (future : Schedule step ok) (allowed : ok s a)
    (taken : step s a = some (future.states 0)) : Schedule step ok where
  states
    | 0 => s
    | n + 1 => future.states n
  actions
    | 0 => a
    | n + 1 => future.actions n
  allowed
    | 0 => allowed
    | n + 1 => future.allowed n
  taken
    | 0 => taken
    | n + 1 => future.taken n

/-- A finite run to a state that an action leaves alone is the front of an infinite one that stays
there. -/
theorem of_execute {check : σ → α → Bool} (sound : ∀ s a, check s a = true → ok s a) {s t : σ}
    {actions : List α}
    {rest : α} (executed : execute step check s actions = some t) (allowed : ok t rest)
    (stays : step t rest = some t) :
    ∃ future : Schedule step ok, future.states 0 = s ∧
    ∀ n ≥ actions.length, future.states n = t := by
  induction actions generalizing s with
  | nil =>
      obtain rfl : s = t := Option.some.inj executed
      exact ⟨still s rest allowed stays, rfl, fun _ _ => rfl⟩
  | cons a later ih =>
      unfold execute at executed
      split at executed
      · next passed =>
          obtain ⟨u, taken, remaining⟩ := Option.bind_eq_some_iff.mp executed
          obtain ⟨future, begins, settles⟩ := ih remaining
          refine ⟨cons s a future (sound s a passed) (begins ▸ taken), rfl, fun n beyond => ?_⟩
          cases n with
          | zero => cases beyond
          | succ m => exact settles m (Nat.le_of_succ_le_succ beyond)
      · cases executed

end Schedule

end SynapseOS.Transition
