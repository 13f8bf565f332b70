import AsusSMC.Framework.EventSystem

/-!
# One thread and its surroundings

A thread runs a list of statements one after the other while the surroundings
act on the same state. A statement may return from the whole program early. A
schedule is a list of events: `thread` lets the thread run its next statement,
`env e` is an act of the surroundings. Every interleaving is a schedule, and
nothing is assumed about fairness.

`always_of_stages` is the invariant rule: the invariant may depend on the
statements still to run.
-/

namespace Thread

open EventSystem

variable {κ σ ε : Type*}

/-- The statements still to run, and the shared state. -/
structure Config (κ σ : Type*) where
  rest : List κ
  state : σ

/-- One event of a schedule. -/
inductive Event (ε : Type*)
  | thread
  | env (e : ε)
  deriving DecidableEq

/-- The program has returned. -/
def Config.Returned (c : Config κ σ) : Prop := c.rest = []

/-- What is left of a program after a statement: everything, or nothing if the
statement returned from the program. -/
def remaining (continues : Bool) (rest : List κ) : List κ := if continues then rest else []

@[simp] theorem remaining_true (rest : List κ) : remaining true rest = rest := rfl

@[simp] theorem remaining_false (rest : List κ) : remaining false rest = [] := rfl

theorem remaining_suffix (continues : Bool) (rest : List κ) :
    remaining continues rest <:+ rest := by
  cases continues with
  | true => exact List.suffix_rfl
  | false => exact List.nil_suffix

/-- `exec` runs a statement and tells whether the program goes on, `react` is an
act of the surroundings. A thread that has returned does nothing. -/
def step (exec : κ → σ → Bool × σ) (react : ε → σ → σ) (c : Config κ σ) : Event ε → Config κ σ
  | .thread =>
    match c.rest with
    | [] => c
    | k :: rest => ⟨remaining (exec k c.state).1 rest, (exec k c.state).2⟩
  | .env e => ⟨c.rest, react e c.state⟩

/-- The program alone: every statement, up to the first that returns. -/
def runAll (exec : κ → σ → Bool × σ) : List κ → σ → Bool × σ
  | [], s => (true, s)
  | k :: rest, s =>
    if (exec k s).1 then runAll exec rest (exec k s).2 else (false, (exec k s).2)

variable {exec : κ → σ → Bool × σ} {react : ε → σ → σ}

/-- **Relation rule.** A program moves the state along a preorder that its statements
move it along. -/
theorem runAll_related {R : σ → σ → Prop} (hrefl : ∀ s, R s s)
    (htrans : ∀ s s' s'', R s s' → R s' s'' → R s s'') (prog : List κ)
    (hexec : ∀ k ∈ prog, ∀ s, R s (exec k s).2) (s : σ) : R s (runAll exec prog s).2 := by
  induction prog generalizing s with
  | nil => exact hrefl s
  | cons k rest ih =>
    have hk : R s (exec k s).2 := hexec k List.mem_cons_self s
    rw [runAll]
    split
    · exact htrans _ _ _ hk (ih (fun k hk => hexec k (List.mem_cons_of_mem _ hk)) _)
    · exact hk

/-- What no statement changes, the program does not change. -/
theorem runAll_frame {τ : Type*} {f : σ → τ} (hexec : ∀ k s, f (exec k s).2 = f s)
    (prog : List κ) (s : σ) : f (runAll exec prog s).2 = f s :=
  runAll_related (R := fun s s' => f s' = f s) (fun _ => rfl) (fun _ _ _ h h' => h'.trans h) prog
    (fun k _ s => hexec k s) s

/-- What is left of a program after a statement that occurs once. -/
theorem rest_eq_of_suffix [DecidableEq κ] {prog : List κ} (hprog : prog.Nodup) {k : κ}
    {rest : List κ} (h : k :: rest <:+ prog) : rest = prog.drop (prog.idxOf k + 1) := by
  obtain ⟨before, rfl⟩ := h
  have hbefore : k ∉ before := fun hmem =>
    (List.nodup_append.mp hprog).2.2 k hmem k List.mem_cons_self rfl
  have hidx : (before ++ k :: rest).idxOf k = before.length := by
    rw [List.idxOf_append_of_notMem hbefore, List.idxOf_cons_self, Nat.add_zero]
  rw [hidx, List.drop_append, List.drop_of_length_le (Nat.le_succ _)]
  simp

/-- One program after the other. -/
theorem runAll_append (prog prog' : List κ) (s : σ) :
    runAll exec (prog ++ prog') s
      = if (runAll exec prog s).1 then runAll exec prog' (runAll exec prog s).2
        else (false, (runAll exec prog s).2) := by
  induction prog generalizing s with
  | nil => rfl
  | cons k rest ih =>
    rw [List.cons_append, runAll, runAll]
    split
    · exact ih _
    · rfl

/-- A program of statements that never return runs to its end. -/
theorem runAll_fst (hexec : ∀ k s, (exec k s).1 = true) (prog : List κ) (s : σ) :
    (runAll exec prog s).1 = true := by
  induction prog generalizing s with
  | nil => rfl
  | cons k rest ih =>
    rw [runAll, if_pos (hexec k s)]
    exact ih _

/-- **A program on a part of the state.** If the statements `f k` do to the part that
`get` and `put` are about what the statements `k` do, so do the programs. -/
theorem runAll_map {κ' τ : Type*} {exec' : κ' → τ → Bool × τ} {f : κ' → κ} (get : σ → τ)
    (put : σ → τ → σ)
    (hexec : ∀ k s, exec (f k) s = ((exec' k (get s)).1, put s (exec' k (get s)).2))
    (hget : ∀ s t, get (put s t) = t) (hput : ∀ s t t', put (put s t) t' = put s t')
    (hself : ∀ s, put s (get s) = s) (prog : List κ') (s : σ) :
    runAll exec (prog.map f) s
      = ((runAll exec' prog (get s)).1, put s (runAll exec' prog (get s)).2) := by
  induction prog generalizing s with
  | nil => rw [List.map_nil, runAll, runAll, hself]
  | cons k rest ih =>
    rw [List.map_cons, runAll, runAll, hexec]
    dsimp only
    split
    · rw [ih, hget, hput]
    · rfl

/-- **Staged invariant rule.** -/
theorem always_of_stages (Inv : List κ → σ → Prop) {prog : List κ} {s : σ} (hs : Inv prog s)
    (hexec : ∀ k rest s, Inv (k :: rest) s → Inv (remaining (exec k s).1 rest) (exec k s).2)
    (hreact : ∀ e rest s, Inv rest s → Inv rest (react e s)) (es : List (Event ε)) :
    Always (step exec react) (fun c => Inv c.rest c.state) ⟨prog, s⟩ es := by
  refine Always.of_step (P := fun c : Config κ σ => Inv c.rest c.state) hs ?_ es
  rintro ⟨rest, s⟩ e h
  cases e with
  | env e => exact hreact e rest s h
  | thread =>
    cases rest with
    -- the program has returned, and the event does nothing
    | nil => exact h
    | cons k rest => exact hexec k rest s h

end Thread
