import StartStep.Provider

/-!
# A run, part by part

A run carries three things side by side: what was asked, what was logged and
how it ended. `>>=` is the only thing that mixes them, and it mixes less than
its definition suggests. The ending of a composed run depends on the endings of
its parts alone (`result_bind`), so a statement about what a plan or a
resolution returns can be proved as if nothing were recorded. What was asked
does depend on the endings, because a failed part is the last one: that is the
one place where `calls_bind_of_ok` and `calls_bind_of_error` have to be told
apart.
-/

namespace StartStep

/-! ## The failing computations underneath

The two equations by which a computation that can fail is read. -/

@[simp] theorem ok_bind {ε α β : Type} (a : α) (f : α → Except ε β) :
    ((Except.ok a : Except ε α) >>= f) = f a := rfl

@[simp] theorem error_bind {ε α β : Type} (e : ε) (f : α → Except ε β) :
    ((Except.error e : Except ε α) >>= f) = .error e := rfl

/-- A composition that succeeds went through both of its parts. -/
theorem bind_eq_ok {ε α β : Type} {x : Except ε α} {f : α → Except ε β}
    {b : β} : (x >>= f) = .ok b ↔ ∃ a, x = .ok a ∧ f a = .ok b := by
  cases x with
  | error e => simp
  | ok a => simp

/-- A composition that fails did so in one of its parts. -/
theorem bind_eq_error {ε α β : Type} {x : Except ε α} {f : α → Except ε β}
    {e : ε} : (x >>= f) = .error e ↔ x = .error e ∨ ∃ a, x = .ok a ∧ f a = .error e := by
  cases x with
  | error e' => simp
  | ok a => simp

theorem exists_of_map_eq_ok {ε α β : Type} {x : Except ε α} {f : α → β} {b : β}
    (h : x.map f = .ok b) : ∃ a, x = .ok a ∧ f a = b := by
  cases x with
  | error e => simp [Except.map] at h
  | ok a => exact ⟨a, rfl, Except.ok.inj h⟩

namespace Run

variable {α β : Type}

@[simp] theorem result_pure (a : α) : (pure a : Run α).result = .ok a := rfl

@[simp] theorem calls_pure (a : α) : (pure a : Run α).calls = [] := rfl

@[simp] theorem result_ofExcept (r : Except Failure α) : (ofExcept r).result = r := rfl

@[simp] theorem calls_ofExcept (r : Except Failure α) : (ofExcept r).calls = [] := rfl

@[simp] theorem result_ask (call : Call) (r : Except Failure α) :
    (ask call r).result = r := rfl

@[simp] theorem calls_ask (call : Call) (r : Except Failure α) :
    (ask call r).calls = [call] := rfl

@[simp] theorem result_log (e : Event) : (log e).result = .ok () := rfl

@[simp] theorem calls_log (e : Event) : (log e).calls = [] := rfl

@[simp] theorem result_draw (n : Nat) (r : Except Failure α) :
    (draw n r).result = r := rfl

@[simp] theorem calls_draw (n : Nat) (r : Except Failure α) :
    (draw n r).calls = List.replicate n .pull := rfl

/-- How a composed run ends is worked out from how its parts end. -/
@[simp] theorem result_bind (x : Run α) (f : α → Run β) :
    (x >>= f).result = x.result >>= fun a => (f a).result := by
  show (Run.bind x f).result = _
  unfold Run.bind
  split
  · next e h => rw [h]; rfl
  · next a h => rw [h]; rfl

theorem calls_bind_of_ok {x : Run α} {a : α} (h : x.result = .ok a) (f : α → Run β) :
    (x >>= f).calls = x.calls ++ (f a).calls := by
  show (Run.bind x f).calls = _
  unfold Run.bind
  rw [h]

theorem calls_bind_of_error {x : Run α} {e : Failure} (h : x.result = .error e)
    (f : α → Run β) : (x >>= f).calls = x.calls := by
  show (Run.bind x f).calls = _
  unfold Run.bind
  rw [h]

/-- What follows a part matters only for the result that the part has. -/
theorem bind_congr {x : Run α} {f g : α → Run β} (h : ∀ a, x.result = .ok a → f a = g a) :
    x >>= f = x >>= g := by
  show Run.bind x f = Run.bind x g
  unfold Run.bind
  split
  · rfl
  · next a hx => rw [h a hx]

/-- What is logged is logged by a part that is reached. -/
theorem mem_events_bind {x : Run α} {f : α → Run β} {e : Event} :
    e ∈ (x >>= f).events ↔ e ∈ x.events ∨ ∃ a, x.result = .ok a ∧ e ∈ (f a).events := by
  show e ∈ (Run.bind x f).events ↔ _
  unfold Run.bind
  split
  · next f h => simp [h]
  · next a h => simp [h]

/-! ## Runs that only take items

Reading a stream asks nothing and logs nothing, so what it amounts to is a
number of items taken and an ending: it is a `draw`, and two of them in a row
are one. -/

theorem draw_bind {m n : Nat} {a : α} {r : Except Failure β} {f : α → Run β}
    (h : f a = draw n r) : draw m (.ok a) >>= f = draw (m + n) r := by
  show Run.bind (draw m (.ok a)) f = _
  unfold Run.bind
  simp only [draw, h, List.replicate_append_replicate, List.append_nil]

theorem draw_error_bind (m : Nat) (e : Failure) (f : α → Run β) :
    draw m (.error e) >>= f = draw m (.error e) := rfl

end Run

end StartStep
