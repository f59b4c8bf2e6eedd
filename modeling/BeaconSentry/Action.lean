/-!
This module contains actions: pieces of work in a world that end with a value or an error and leave the world
changed either way.
-/

namespace BeaconSentry

instance decidableEqExcept {ε α : Type} [DecidableEq ε] [DecidableEq α] : DecidableEq (Except ε α)
  | .ok value, .ok value' => decidable_of_iff (value = value') (by simp)
  | .error error, .error error' => decidable_of_iff (error = error') (by simp)
  | .ok _, .error _ => isFalse nofun
  | .error _, .ok _ => isFalse nofun

section

variable {ε ε' ε'' α : Type}

@[simp] theorem mapError_ok (tell : ε → ε') (value : α) : (Except.ok value).mapError tell = .ok value := rfl

@[simp] theorem mapError_error (tell : ε → ε') (error : ε) :
    (Except.error error : Except ε α).mapError tell = .error (tell error) := rfl

theorem mapError_comp (tell : ε → ε') (tell' : ε' → ε'') (result : Except ε α) :
    (result.mapError tell).mapError tell' = result.mapError (tell' ∘ tell) := by
  cases result <;> rfl

theorem mapError_eq_ok_iff {tell : ε → ε'} {result : Except ε α} {value : α} :
    result.mapError tell = .ok value ↔ result = .ok value := by
  cases result <;> simp

end

/-- A piece of work in a world of type `ω`. -/
structure Action (ω ε α : Type) where
  /-- Do the work. -/
  run : ω → Except ε α × ω

namespace Action

variable {ω ε ε' α β : Type}

def done (value : α) : Action ω ε α := ⟨fun world => (.ok value, world)⟩

def fail (error : ε) : Action ω ε α := ⟨fun world => (.error error, world)⟩

/-- Go on with the value of an action. A failure ends everything. -/
def andThen (action : Action ω ε α) (next : α → Action ω ε β) : Action ω ε β where
  run world :=
    match action.run world with
    | (.ok value, world) => (next value).run world
    | (.error error, world) => (.error error, world)

instance : Monad (Action ω ε) where
  pure := done
  bind := andThen

@[simp] theorem run_pure (value : α) (world : ω) :
    (pure value : Action ω ε α).run world = (.ok value, world) := rfl

@[simp] theorem run_done (value : α) (world : ω) :
    (done value : Action ω ε α).run world = (.ok value, world) := rfl

@[simp] theorem run_fail (error : ε) (world : ω) :
    (fail error : Action ω ε α).run world = (.error error, world) := rfl

theorem run_bind (action : Action ω ε α) (next : α → Action ω ε β) (world : ω) :
    (action >>= next).run world =
      match action.run world with
      | (.ok value, world) => (next value).run world
      | (.error error, world) => (.error error, world) := rfl

theorem run_bind_of_ok {action : Action ω ε α} {next : α → Action ω ε β} {world world' : ω} {value : α}
    (h : action.run world = (.ok value, world')) :
    (action >>= next).run world = (next value).run world' := by
  rw [run_bind, h]

theorem run_bind_of_error {action : Action ω ε α} {next : α → Action ω ε β} {world world' : ω} {error : ε}
    (h : action.run world = (.error error, world')) :
    (action >>= next).run world = (.error error, world') := by
  rw [run_bind, h]

def ofExcept (result : Except ε α) : Action ω ε α := ⟨fun world => (result, world)⟩

@[simp] theorem run_ofExcept (result : Except ε α) (world : ω) :
    (ofExcept result).run world = (result, world) := rfl

def mapError (tell : ε → ε') (action : Action ω ε α) : Action ω ε' α where
  run world :=
    let (result, world) := action.run world
    (result.mapError tell, world)

@[simp] theorem run_mapError (tell : ε → ε') (action : Action ω ε α) (world : ω) :
    (action.mapError tell).run world = ((action.run world).1.mapError tell, (action.run world).2) := rfl

theorem mapError_id (action : Action ω ε α) : action.mapError id = action := by
  unfold mapError
  congr
  funext world
  generalize action.run world = answer
  rcases answer with ⟨_ | _, _⟩ <;> rfl

theorem mapError_mapError {ε'' : Type} (tell : ε → ε') (tell' : ε' → ε'') (action : Action ω ε α) :
    (action.mapError tell).mapError tell' = action.mapError (tell' ∘ tell) := by
  unfold mapError
  congr
  funext world
  dsimp only
  rw [mapError_comp]

theorem run_mapError_eq_ok_iff {tell : ε → ε'} {action : Action ω ε α} {world after : ω} {value : α} :
    (action.mapError tell).run world = (.ok value, after) ↔ action.run world = (.ok value, after) := by
  rw [run_mapError]
  generalize action.run world = answer
  rcases answer with ⟨_ | _, _⟩ <;> simp

theorem run_mapError_eq_error_iff {tell : ε → ε'} {action : Action ω ε α} {world after : ω} {told : ε'} :
    (action.mapError tell).run world = (.error told, after)
      ↔ ∃ error, action.run world = (.error error, after) ∧ tell error = told := by
  rw [run_mapError]
  generalize action.run world = answer
  constructor
  . intro h
    rcases answer with ⟨_ | _, _⟩ <;> cases h
    exact ⟨_, rfl, rfl⟩
  . intro ⟨error, hanswer, htold⟩
    rw [hanswer, ← htold]
    rfl

def outcome (action : Action ω ε α) : Action ω ε' (Except ε α) where
  run world :=
    let (result, world) := action.run world
    (.ok result, world)

@[simp] theorem run_outcome (action : Action ω ε α) (world : ω) :
    (action.outcome : Action ω ε' (Except ε α)).run world = (.ok (action.run world).1, (action.run world).2) := rfl

def modify (change : ω → ω) : Action ω ε Unit := ⟨fun world => (.ok (), change world)⟩

@[simp] theorem run_modify (change : ω → ω) (world : ω) :
    (modify change : Action ω ε Unit).run world = (.ok (), change world) := rfl

def within {σ : Type} (part : σ → ω) (put : ω → σ → σ) (action : Action ω ε α) : Action σ ε α where
  run world :=
    let (result, inner) := action.run (part world)
    (result, put inner world)

@[simp] theorem run_within {σ : Type} (part : σ → ω) (put : ω → σ → σ) (action : Action ω ε α) (world : σ) :
    (action.within part put).run world =
      ((action.run (part world)).1, put (action.run (part world)).2 world) := rfl

def beside {σ : Type} (action : Action ω ε α) : Action (σ × ω) ε α :=
  action.within (·.2) fun world pair => (pair.1, world)

@[simp] theorem run_beside {σ : Type} (action : Action ω ε α) (memory : σ) (world : ω) :
    (action.beside : Action (σ × ω) ε α).run (memory, world) =
      ((action.run world).1, memory, (action.run world).2) := rfl

def inspect {σ : Type} : Action (σ × ω) ε σ := ⟨fun pair => (.ok pair.1, pair)⟩

@[simp] theorem run_inspect {σ : Type} (memory : σ) (world : ω) :
    (inspect : Action (σ × ω) ε σ).run (memory, world) = (.ok memory, memory, world) := rfl

def revise {σ : Type} (change : σ → σ) : Action (σ × ω) ε Unit :=
  ⟨fun (memory, world) => (.ok (), change memory, world)⟩

@[simp] theorem run_revise {σ : Type} (change : σ → σ) (memory : σ) (world : ω) :
    (revise change : Action (σ × ω) ε Unit).run (memory, world) = (.ok (), change memory, world) := rfl

end Action
end BeaconSentry
