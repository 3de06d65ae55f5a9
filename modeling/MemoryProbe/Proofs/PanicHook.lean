import MemoryProbe.PanicHook

namespace MemoryProbe.PanicHook

variable {Memory Own : Type}

structure Reaction (Own : Type) where
  panic : Panic
  effects : List (HookEffect Own)

/-- What a hook does at panics one after another, remembering at each the ones before. -/
def reactions (hook : PanicHook Memory Own) : Memory → List Panic → List (Reaction Own)
  | _, [] => []
  | memory, panic :: rest =>
      let reacted := hook.react panic memory
      ⟨panic, reacted.record⟩ :: hook.reactions reacted.state rest

/-- The errors about a panic, one for each installation. -/
def errors (times : Nat) (panic : Panic) : List (HookEffect Own) :=
  List.replicate times (.logged .error ("Thread panicked: " ++ panic.shown))

def Reaction.logged (times : Nat) (reaction : Reaction Own) : Reaction Own :=
  { reaction with effects := reaction.effects ++ errors times reaction.panic }

private theorem errors_succ (times : Nat) (panic : Panic) :
    (errors (times + 1) panic : List (HookEffect Own)) =
      errors times panic ++ [.logged .error (logMessage panic)] :=
  List.replicate_succ'

variable (hook : PanicHook Memory Own)

private theorem map_panic_reactions (memory : Memory) (panics : List Panic) :
    (hook.reactions memory panics).map Reaction.panic = panics := by
  induction panics generalizing memory with
  | nil => rfl
  | cons panic rest induction =>
      rw [reactions, List.map_cons, induction]

/-! ## Installed hooks

An installation keeps the effects of the hook before it and what that remembers, and adds
one error. -/

private theorem react_logging (panic : Panic) (memory : Memory) :
    hook.logging.react panic memory =
      ⟨(), (hook.react panic memory).state,
        (hook.react panic memory).record ++ [.logged .error (logMessage panic)]⟩ :=
  rfl

theorem react_install (times : Nat) (panic : Panic) (memory : Memory) :
    (hook.install times).react panic memory =
      ⟨(), (hook.react panic memory).state,
        (hook.react panic memory).record ++ errors times panic⟩ := by
  induction times with
  | zero =>
      rw [install, errors, List.replicate_zero, List.append_nil]
  | succ times induction =>
      rw [install, react_logging, induction, List.append_assoc, errors_succ]

theorem reactions_install (times : Nat) (memory : Memory) (panics : List Panic) :
    (hook.install times).reactions memory panics =
      (hook.reactions memory panics).map (Reaction.logged times) := by
  induction panics generalizing memory with
  | nil => rfl
  | cons panic rest induction =>
      rw [reactions, react_install, induction, reactions, List.map_cons, Reaction.logged]

/-! ## Runs

A run over panics is the reactions to them in order, and every catcher gets its panic. -/

theorem raise_eq (panic : Panic) (memory : Memory) :
    hook.raise panic memory =
      ⟨.error panic, (hook.react panic memory).state, (hook.react panic memory).record⟩ := by
  have nothing := List.append_nil (hook.react panic memory).record
  exact congrArg (Outcome.mk _ _) nothing

theorem catchEach_value (memory : Memory) (panics : List Panic) :
    (hook.catchEach panics memory).value = panics.map some := by
  induction panics generalizing memory with
  | nil => rfl
  | cons panic rest induction =>
      simp only [catchEach, Traced.bind_value, Traced.pure_apply, raise_eq, caught?,
        induction, List.map_cons]

theorem catchEach_state (memory : Memory) (panics : List Panic) :
    (hook.catchEach panics memory).state =
      panics.foldl (fun before panic => (hook.react panic before).state) memory := by
  induction panics generalizing memory with
  | nil => rfl
  | cons panic rest induction =>
      simp only [catchEach, Traced.bind_state, Traced.pure_apply, raise_eq, induction,
        List.foldl_cons]

theorem catchEach_record (memory : Memory) (panics : List Panic) :
    (hook.catchEach panics memory).record =
      (hook.reactions memory panics).flatMap Reaction.effects := by
  induction panics generalizing memory with
  | nil => rfl
  | cons panic rest induction =>
      simp only [catchEach, Traced.bind_record, Traced.pure_apply, raise_eq, induction,
        List.append_nil, reactions, List.flatMap_cons]

/-- Under a hook installed any number of times over any other, what happens at panics one
after another is, panic by panic, what the other hook does at it once, and then one error
for each installation, with the panic as it is shown. The other hook remembers what it
does without the installations, and every panic gets to its catcher. -/
theorem installed_hooks_nest (times : Nat) (panics : List Panic) (memory : Memory) :
    (hook.reactions memory panics).map Reaction.panic = panics ∧
      ((hook.install times).catchEach panics memory).record =
        (hook.reactions memory panics).flatMap (fun reaction =>
          reaction.effects ++
            List.replicate times
              (.logged .error ("Thread panicked: " ++ reaction.panic.shown))) ∧
      ((hook.install times).catchEach panics memory).state =
        (hook.catchEach panics memory).state ∧
      ((hook.install times).catchEach panics memory).value = panics.map some := by
  refine ⟨hook.map_panic_reactions memory panics, ?record, ?state,
    (hook.install times).catchEach_value memory panics⟩
  case record =>
    rw [catchEach_record, reactions_install, List.flatMap_map]
    rfl
  case state =>
    simp only [catchEach_state, react_install]

example : (noting.install 2).catchAll "PLACE" ["late", "lost"] =
    ⟨[true, true],
      [.noted, .logged .error "Thread panicked: panicked at PLACE:\nlate",
        .logged .error "Thread panicked: panicked at PLACE:\nlate",
        .noted, .logged .error "Thread panicked: panicked at PLACE:\nlost",
        .logged .error "Thread panicked: panicked at PLACE:\nlost"]⟩ := by
  decide

end MemoryProbe.PanicHook
