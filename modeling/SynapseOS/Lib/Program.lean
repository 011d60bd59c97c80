import Mathlib.Tactic

/-! Programs over a state that return a value or raise an exception, and their triples. The
state a program raises in is kept, as a handler sees it. -/

namespace SynapseOS

def Program (σ ε α : Type) : Type := σ → Except ε α × σ

namespace Program

variable {σ ε α β : Type}

def give (a : α) : Program σ ε α := fun s => (.ok a, s)

def andThen (body : Program σ ε α) (rest : α → Program σ ε β) : Program σ ε β := fun s =>
  match body s with
  | (.ok a, t) => rest a t
  | (.error e, t) => (.error e, t)

instance : Monad (Program σ ε) where
  pure := give
  bind := andThen

def raise (e : ε) : Program σ ε α := fun s => (.error e, s)

def look : Program σ ε σ := fun s => (.ok s, s)

def update (f : σ → σ) : Program σ ε Unit := fun s => (.ok (), f s)

def attempt (body : Program σ ε α) : Program σ ε (Except ε α) :=
  fun s => (.ok (body s).1, (body s).2)

def resume : Except ε α → Program σ ε α
  | .ok a => give a
  | .error e => raise e

section Equations

variable (s : σ)

@[simp] theorem pure_run (a : α) : (pure a : Program σ ε α) s = (.ok a, s) := rfl

@[simp] theorem raise_run (e : ε) : (raise e : Program σ ε α) s = (.error e, s) := rfl

@[simp] theorem look_run (rest : σ → Program σ ε β) : (look >>= rest) s = rest s s := rfl

@[simp] theorem update_run (f : σ → σ) (rest : Unit → Program σ ε β) :
    (update f >>= rest) s = rest () (f s) := rfl

@[simp] theorem resume_ok_run (a : α) (rest : α → Program σ ε β) :
    (resume (.ok a) >>= rest) s = rest a s := rfl

@[simp] theorem resume_error_run (e : ε) (rest : α → Program σ ε β) :
    (resume (.error e) >>= rest) s = (.error e, s) := rfl

@[simp] theorem attempt_run (body : Program σ ε α) (rest : Except ε α → Program σ ε β) :
    (attempt body >>= rest) s = rest (body s).1 (body s).2 := rfl

end Equations

section Runs

variable {body : Program σ ε α} {s t : σ}

theorem run_ok {rest : α → Program σ ε β} {a : α} (run : body s = (.ok a, t)) :
    (body >>= rest) s = rest a t := by
  show andThen body rest s = rest a t
  unfold andThen
  rw [run]

theorem run_error {rest : α → Program σ ε β} {e : ε} (run : body s = (.error e, t)) :
    (body >>= rest) s = (.error e, t) := by
  show andThen body rest s = (.error e, t)
  unfold andThen
  rw [run]

/-- A sequence raises if its last part does. -/
theorem run_raises {rest : α → Program σ ε β} (raises : ∀ a s, ∃ e t, rest a s = (.error e, t))
    (s : σ) : ∃ e t, (body >>= rest) s = (.error e, t) := by
  rcases run : body s with ⟨e | a, middle⟩
  · exact ⟨e, middle, run_error run⟩
  · obtain ⟨e, t, last⟩ := raises a middle
    exact ⟨e, t, (run_ok run).trans last⟩

theorem run_returned {rest : α → Program σ ε β} {b : β} (run : (body >>= rest) s = (.ok b, t)) :
    ∃ a u, body s = (.ok a, u) ∧ rest a u = (.ok b, t) := by
  change andThen body rest s = (.ok b, t) at run
  unfold andThen at run
  rcases parts : body s with ⟨_ | a, u⟩
  · rw [parts] at run
    cases run
  · rw [parts] at run
    exact ⟨a, u, rfl, run⟩

theorem run_raised {rest : α → Program σ ε β} {e : ε} (run : (body >>= rest) s = (.error e, t)) :
    body s = (.error e, t) ∨ ∃ a u, body s = (.ok a, u) ∧ rest a u = (.error e, t) := by
  change andThen body rest s = (.error e, t) at run
  unfold andThen at run
  rcases parts : body s with ⟨raised | a, u⟩
  · rw [parts] at run
    cases run
    exact .inl rfl
  · rw [parts] at run
    exact .inr ⟨a, u, rfl, run⟩

theorem run_attempt {rest : Except ε α → Program σ ε β} {outcome : Except ε α}
    (run : body s = (outcome, t)) : (attempt body >>= rest) s = rest outcome t := by
  rw [attempt_run, run]

end Runs

def within {τ : Type} (part : τ → σ) (put : σ → τ → τ) (body : Program σ ε α) : Program τ ε α :=
  fun whole => ((body (part whole)).1, put (body (part whole)).2 whole)

/-- The body leaves the state as it is. -/
def Still (body : Program σ ε α) : Prop := ∀ s, (body s).2 = s

section Still

variable {body : Program σ ε α}

theorem still_pure (a : α) : Still (pure a : Program σ ε α) := fun _ => rfl

theorem still_raise (e : ε) : Still (raise e : Program σ ε α) := fun _ => rfl

theorem still_bind {rest : α → Program σ ε β} (first : Still body)
    (next : ∀ a, Still (rest a)) : Still (body >>= rest) := by
  intro s
  have same := first s
  show (andThen body rest s).2 = s
  unfold andThen
  revert same
  rcases body s with ⟨_ | a, t⟩
  · exact id
  · intro same
    exact (next a t).trans same

theorem still_attempt (first : Still body) : Still (attempt body) := first

theorem still_resume (outcome : Except ε α) : Still (resume outcome : Program σ ε α) := by
  cases outcome with
  | error e => exact still_raise e
  | ok a => exact still_pure a

theorem still_ite {condition : Prop} [Decidable condition] {yes no : Program σ ε α}
    (holds : Still yes) (fails_ : Still no) : Still (if condition then yes else no) := by
  split
  · exact holds
  · exact fails_

/-- A body that leaves the state as it is has an outcome and nothing more. -/
theorem still_run (still : Still body) (s : σ) : body s = ((body s).1, s) :=
  Prod.ext rfl (still s)

theorem still_end (still : Still body) {s t : σ} {outcome : Except ε α}
    (run : body s = (outcome, t)) : t = s := by
  have same := still s
  rwa [run] at same

end Still

/-- However the body ends, its last state is so related to its first. -/
def Keeps (related : σ → σ → Prop) (body : Program σ ε α) : Prop := ∀ s, related s (body s).2

section Keeps

variable {related : σ → σ → Prop} {body : Program σ ε α}

theorem keeps_still (reflexive : ∀ s, related s s) (still : Still body) : Keeps related body := by
  intro s
  rw [still s]
  exact reflexive s

theorem keeps_bind (transitive : ∀ s t u, related s t → related t u → related s u)
    {rest : α → Program σ ε β} (first : Keeps related body) (next : ∀ a, Keeps related (rest a)) :
    Keeps related (body >>= rest) := by
  intro s
  have start := first s
  rcases run : body s with ⟨e | a, t⟩
  · rw [run] at start
    rw [run_error run]
    exact start
  · rw [run] at start
    rw [run_ok run]
    exact transitive _ _ _ start (next a t)

theorem keeps_attempt (first : Keeps related body) : Keeps related (attempt body) := first

end Keeps

def Raises (p : ε → Prop) (body : Program σ ε α) : Prop := ∀ s e t, body s = (.error e, t) → p e

section Raises

variable {p : ε → Prop} {body : Program σ ε α}

theorem raises_pure (a : α) : Raises p (pure a : Program σ ε α) := by
  intro s e t run
  cases run

theorem raises_raise {e : ε} (holds : p e) : Raises p (raise e : Program σ ε α) := by
  intro s raised t run
  cases run
  exact holds

theorem raises_bind {rest : α → Program σ ε β} (first : Raises p body)
    (next : ∀ a, Raises p (rest a)) : Raises p (body >>= rest) := by
  intro s e t run
  rcases run_raised run with raised | ⟨a, u, _, raised⟩
  · exact first s e t raised
  · exact next a u e t raised

theorem raises_look : Raises p (look : Program σ ε σ) := by
  intro s e t run
  cases run

theorem raises_update (f : σ → σ) : Raises p (update f : Program σ ε Unit) := by
  intro s e t run
  cases run

end Raises

/-- From a state with `pre` the body returns into `post` or raises into `fails`. -/
def Triple (pre : σ → Prop) (body : Program σ ε α) (post : α → σ → Prop) (fails : ε → σ → Prop) :
    Prop :=
  ∀ s, pre s → match body s with
    | (.ok a, t) => post a t
    | (.error e, t) => fails e t

def Outcome (post : α → σ → Prop) (fails : ε → σ → Prop) : Except ε α → σ → Prop
  | .ok a => post a
  | .error e => fails e

section Rules

variable {pre : σ → Prop} {post : α → σ → Prop} {fails : ε → σ → Prop} {body : Program σ ε α}

theorem triple_outcome (triple : Triple pre body post fails) {s : σ} (start : pre s) :
    Outcome post fails (body s).1 (body s).2 := by
  have outcome := triple s start
  revert outcome
  rcases body s with ⟨_ | a, t⟩
  · exact id
  · exact id

theorem triple_weaken {strong : σ → Prop} {weakPost : α → σ → Prop} {weakFails : ε → σ → Prop}
    (triple : Triple pre body post fails) (start : ∀ s, strong s → pre s)
    (returns : ∀ a t, post a t → weakPost a t) (raises : ∀ e t, fails e t → weakFails e t) :
    Triple strong body weakPost weakFails := by
  intro s held
  have outcome := triple s (start s held)
  revert outcome
  rcases body s with ⟨_ | a, t⟩
  · exact raises _ t
  · exact returns a t

theorem triple_give (a : α) (start : ∀ s, pre s → post a s) :
    Triple pre (pure a : Program σ ε α) post fails := start

theorem triple_raise (e : ε) (start : ∀ s, pre s → fails e s) :
    Triple pre (raise e : Program σ ε α) post fails := start

theorem triple_bind {m : α → σ → Prop} {rest : α → Program σ ε β} {last : β → σ → Prop}
    (first : Triple pre body m fails) (next : ∀ a, Triple (m a) (rest a) last fails) :
    Triple pre (body >>= rest) last fails := by
  intro s held
  have outcome := first s held
  show match andThen body rest s with
    | (.ok b, t) => last b t
    | (.error e, t) => fails e t
  unfold andThen
  revert outcome
  rcases body s with ⟨_ | a, t⟩
  · exact id
  · exact next a t

theorem triple_map {f : α → β} {last : β → σ → Prop}
    (triple : Triple pre body (fun a => last (f a)) fails) : Triple pre (f <$> body) last fails :=
  triple_bind triple fun a => triple_give (f a) fun _ held => held

theorem triple_look {last : β → σ → Prop} {rest : σ → Program σ ε β}
    (next : ∀ s, Triple (fun t => t = s ∧ pre t) (rest s) last fails) :
    Triple pre (look >>= rest) last fails :=
  fun s held => next s s ⟨rfl, held⟩

theorem triple_look_at {s : σ} {last : β → σ → Prop} {rest : σ → Program σ ε β}
    (next : Triple (fun t => t = s) (rest s) last fails) :
    Triple (fun t => t = s) (look >>= rest) last fails := by
  rintro t rfl
  exact next t rfl

theorem triple_update_at {s : σ} {last : β → σ → Prop} {rest : Unit → Program σ ε β} (f : σ → σ)
    (next : Triple (fun t => t = f s) (rest ()) last fails) :
    Triple (fun t => t = s) (update f >>= rest) last fails := by
  rintro t rfl
  exact next (f t) rfl

theorem triple_attempt {last : ε → σ → Prop} (triple : Triple pre body post fails) :
    Triple pre (attempt body) (Outcome post fails) last :=
  fun _ held => triple_outcome triple held

theorem triple_resume {last : ε → σ → Prop} (outcome : Except ε α)
    (raises : ∀ e s, outcome = .error e → fails e s → last e s) :
    Triple (Outcome post fails outcome) (resume outcome) post last := by
  cases outcome with
  | error e => exact triple_raise e fun s held => raises e s rfl held
  | ok a => exact triple_give a fun s held => held

/-- Going on with an outcome that is known. -/
theorem triple_resumed {last : β → σ → Prop} {rest : α → Program σ ε β} (outcome : Except ε α)
    (returns : ∀ a, outcome = .ok a → Triple pre (rest a) last fails)
    (raises : ∀ e s, outcome = .error e → pre s → fails e s) :
    Triple pre (resume outcome >>= rest) last fails := by
  cases outcome with
  | error e => exact fun s held => raises e s rfl held
  | ok a => exact returns a rfl

theorem triple_ite {condition : Prop} [Decidable condition] {yes no : Program σ ε α}
    (holds : condition → Triple pre yes post fails)
    (fails_ : ¬ condition → Triple pre no post fails) :
    Triple pre (if condition then yes else no) post fails := by
  split
  · next held => exact holds held
  · next missed => exact fails_ missed

end Rules

end Program

end SynapseOS
