import FacetFilter.Event

/-!
# What a journaled computation ends in

Telling an event never changes how a computation goes on.  The result of every
stage can therefore be stated without its events: `Yields` names the value or
the fault, and a sequence of stages yields what its results give in sequence.
Where the events matter as well, `Tells` names both, and the events of a sequence
are those of its parts one after the other.
-/

namespace FacetFilter.Journaled

variable {α β : Type}

/-- The computation ends in `result`, whatever was told before it. -/
def Yields (computation : Journaled α) (result : Except Fault α) : Prop :=
  ∀ told, (computation.run.run told).1 = result

theorem Yields.outcome {computation : Journaled α} {result : Except Fault α}
    (hyields : Yields computation result) : computation.outcome.1 = result :=
  hyields []

theorem yields_pure (value : α) : Yields (pure value) (.ok value) := fun _ => rfl

theorem yields_throw (fault : Fault) : Yields (throw fault : Journaled α) (.error fault) :=
  fun _ => rfl

theorem yields_tell (event : Event) : Yields (tell event) (.ok ()) := fun _ => rfl

/-- A sequence yields what the results of its parts give in sequence. -/
theorem Yields.bind {computation : Journaled α} {next : α → Journaled β}
    {first : Except Fault α} (second : α → Except Fault β) (hfirst : Yields computation first)
    (hnext : ∀ value, first = .ok value → Yields (next value) (second value)) :
    Yields (computation >>= next) (first >>= second) := by
  intro told
  have hresult := hfirst told
  rw [ExceptT.run_bind, StateT.run_bind]
  generalize computation.run.run told = outcome at hresult
  obtain ⟨result, told'⟩ := outcome
  change result = first at hresult
  subst hresult
  cases result with
  | ok value => exact hnext value rfl told'
  | error fault => rfl

theorem Yields.bind_error {computation : Journaled α} {fault : Fault}
    (hyields : Yields computation (.error fault)) (next : α → Journaled β) :
    Yields (computation >>= next) (.error fault) :=
  hyields.bind (fun _ => .error fault) nofun

theorem Yields.map {computation : Journaled α} {result : Except Fault α} (change : α → β)
    (hyields : Yields computation result) :
    Yields (change <$> computation) (change <$> result) := by
  have hmap := hyields.bind (fun value => .ok (change value))
    fun value _ => yields_pure (change value)
  rwa [bind_pure_comp] at hmap

/-- Changing the value of a computation changes its result and none of its events. -/
theorem outcome_map (change : α → β) (computation : Journaled α) :
    (change <$> computation).outcome = (change <$> computation.outcome.1, computation.outcome.2) := by
  rw [Journaled.outcome, Journaled.outcome, ExceptT.run_map, StateT.run_map]
  rfl

/-- An event that is told first changes no result. -/
theorem Yields.after_tell {computation : Journaled α} {result : Except Fault α} (event : Event)
    (hyields : Yields computation result) :
    Yields (tell event >>= fun _ => computation) result :=
  (yields_tell event).bind (fun _ => result) fun _ _ => hyields

/-- An event that is told last changes no result. -/
theorem Yields.before_tell {computation : Journaled α} {result : Except Fault α}
    (event : α → Event) (hyields : Yields computation result) :
    Yields (computation >>= fun value => tell (event value) >>= fun _ => pure value) result := by
  have hbind := hyields.bind .ok
    fun value _ => (yields_pure value).after_tell (event value)
  cases result <;> exact hbind

/-- The value, unless there is a fault. -/
def settle (fault : Option Fault) (value : α) : Except Fault α :=
  match fault with
  | some fault => .error fault
  | none => .ok value

theorem map_settle (fault : Option Fault) (value : α) (change : α → β) :
    change <$> settle fault value = settle fault (change value) := by
  cases fault <;> rfl

/-- Of two computations in sequence, the first fault settles the result. -/
theorem Yields.bind_settle {computation : Journaled α} {next : α → Journaled β}
    {first second : Option Fault} {value : α} {result : β}
    (hfirst : Yields computation (settle first value))
    (hnext : Yields (next value) (settle second result)) :
    Yields (computation >>= next) (settle (first.or second) result) := by
  cases first with
  | some fault => exact hfirst.bind (fun _ => settle second result) nofun
  | none =>
      refine hfirst.bind (fun _ => settle second result) ?_
      intro other hother
      cases hother
      exact hnext

/-- A handler that passes every fault on changes no result. -/
theorem Yields.tryCatch {computation : Journaled α} {handler : Fault → Journaled α}
    {result : Except Fault α} (hyields : Yields computation result)
    (hhandler : ∀ fault, Yields (handler fault) (.error fault)) :
    Yields (tryCatch computation handler) result := by
  intro told
  have hresult := hyields told
  change (StateT.run (ExceptT.tryCatch computation handler) told).1 = result
  rw [ExceptT.tryCatch, ExceptT.mk, StateT.run_bind]
  rcases hrun : StateT.run computation told with ⟨first, told'⟩
  have hfirst : first = result := by
    rw [← hresult]
    exact (congrArg Prod.fst hrun).symm
  subst hfirst
  cases first with
  | ok value => rfl
  | error fault => exact hhandler fault told'

/-! ## Values that a computation may have -/

/-- The computation ends in `value` at least once, by what was told before it. -/
def MayYield (computation : Journaled α) (value : α) : Prop :=
  ∃ told, (computation.run.run told).1 = .ok value

theorem mayYield_of_outcome {computation : Journaled α} {value : α}
    (houtcome : computation.outcome.1 = .ok value) : MayYield computation value :=
  ⟨[], houtcome⟩

theorem MayYield.eq_of_pure {value other : α} (hpure : MayYield (pure value) other) :
    value = other := by
  obtain ⟨told, hresult⟩ := hpure
  exact Except.ok.inj hresult

theorem not_mayYield_throw {fault : Fault} {value : α} :
    ¬MayYield (throw fault : Journaled α) value := by
  rintro ⟨told, ⟨⟩⟩

/-- A sequence that ends in a value has come to it by a value of its first part. -/
theorem MayYield.of_bind {computation : Journaled α} {next : α → Journaled β} {value : β}
    (hbind : MayYield (computation >>= next) value) :
    ∃ first, MayYield computation first ∧ MayYield (next first) value := by
  obtain ⟨told, hresult⟩ := hbind
  rw [ExceptT.run_bind, StateT.run_bind] at hresult
  rcases hrun : computation.run.run told with ⟨first, told'⟩
  rw [hrun] at hresult
  cases first with
  | error fault => cases hresult
  | ok first => exact ⟨first, ⟨told, congrArg Prod.fst hrun⟩, told', hresult⟩

/-! ## Results with what is told of them -/

/-- The computation ends in `result` and tells `events`, whatever was told before it. -/
def Tells (computation : Journaled α) (result : Except Fault α) (events : List Event) : Prop :=
  ∀ told, computation.run.run told = (result, events.reverse ++ told)

variable {computation : Journaled α} {next : α → Journaled β} {value : α} {fault : Fault}
  {first second events : List Event}

theorem Tells.outcome {result : Except Fault α} (htells : Tells computation result events) :
    computation.outcome = (result, events) := by
  rw [Journaled.outcome, htells []]
  simp

theorem tells_pure (value : α) : Tells (pure value) (.ok value) [] := fun _ => rfl

theorem tells_throw (fault : Fault) : Tells (throw fault : Journaled α) (.error fault) [] :=
  fun _ => rfl

theorem tells_tell (event : Event) : Tells (tell event) (.ok ()) [event] := fun _ => rfl

/-- A value is handed on, and the events of what follows come after its own. -/
theorem Tells.bind {result : Except Fault β} (hfirst : Tells computation (.ok value) first)
    (hnext : Tells (next value) result second) :
    Tells (computation >>= next) result (first ++ second) := by
  intro told
  have hrest : (next value).run.run (first.reverse ++ told) =
      (result, (first ++ second).reverse ++ told) := by
    rw [hnext, List.reverse_append, List.append_assoc]
  rw [ExceptT.run_bind, StateT.run_bind, hfirst]
  exact hrest

/-- Nothing follows a fault. -/
theorem Tells.bind_error (hfault : Tells computation (.error fault) events)
    (next : α → Journaled β) : Tells (computation >>= next) (.error fault) events := by
  intro told
  rw [ExceptT.run_bind, StateT.run_bind, hfault]
  rfl

theorem Tells.map (change : α → β) (htells : Tells computation (.ok value) events) :
    Tells (change <$> computation) (.ok (change value)) events := by
  have hbind : Tells (computation >>= fun value => pure (change value)) (.ok (change value))
      (events ++ []) := htells.bind (tells_pure _)
  rwa [List.append_nil, bind_pure_comp] at hbind

theorem Tells.map_error (change : α → β) (htells : Tells computation (.error fault) events) :
    Tells (change <$> computation) (.error fault) events := by
  have hbind := htells.bind_error fun value => pure (change value)
  rwa [bind_pure_comp] at hbind

/-- An event that is told first comes first. -/
theorem Tells.after_tell {result : Except Fault α} (event : Event)
    (htells : Tells computation result events) :
    Tells (Journaled.tell event >>= fun _ => computation) result (event :: events) :=
  (tells_tell event).bind htells

/-- An event that is told of a value comes behind those of its computation. -/
theorem Tells.before_tell (event : α → Event) (htells : Tells computation (.ok value) events) :
    Tells (computation >>= fun value => Journaled.tell (event value) >>= fun _ => pure value)
      (.ok value) (events ++ [event value]) :=
  htells.bind ((tells_pure value).after_tell (event value))

/-- No handler sees a computation that ends in a value. -/
theorem Tells.tryCatch (handler : Fault → Journaled α)
    (htells : Tells computation (.ok value) events) :
    Tells (MonadExcept.tryCatch computation handler) (.ok value) events := by
  intro told
  change StateT.run (ExceptT.tryCatch computation handler) told = _
  have hrun : StateT.run computation told = (.ok value, events.reverse ++ told) := htells told
  rw [ExceptT.tryCatch, ExceptT.mk, StateT.run_bind, hrun]
  rfl

end FacetFilter.Journaled
