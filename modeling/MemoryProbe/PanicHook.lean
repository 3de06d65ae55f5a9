import MemoryProbe.Traced

namespace MemoryProbe

/-- A panic is shown with its place in the source, and with its text where it has one. -/
structure Panic where
  place : String
  text : Option String
  deriving DecidableEq, Repr

def Panic.shown (panic : Panic) : String :=
  match panic.text with
  | none => "panicked at " ++ panic.place
  | some text => "panicked at " ++ panic.place ++ ":\n" ++ text

/-! ## Panic hooks -/

inductive HookEffect (Own : Type) where
  | own (effect : Own)
  | logged (level : Log.Level) (message : String)
  deriving DecidableEq, Repr

/-- A hook runs at every panic. It has effects of its own, can log, and may remember the
panics before. -/
structure PanicHook (Memory Own : Type) where
  react : Panic → Traced Memory (HookEffect Own) Unit

namespace PanicHook

variable {Memory Own : Type}

def logMessage (panic : Panic) : String :=
  "Thread panicked: " ++ panic.shown

/-- The program's hook runs the one it wraps and then logs the panic as an error. -/
def logging (previous : PanicHook Memory Own) : PanicHook Memory Own where
  react panic := do
    previous.react panic
    Traced.note (.logged .error (logMessage panic))

/-- Every installation wraps the hook in place. -/
def install : Nat → PanicHook Memory Own → PanicHook Memory Own
  | 0, hook => hook
  | times + 1, hook => .logging (install times hook)

/-! ## Panics under a hook -/

/-- A panic runs the hook in place and goes on to its catcher. -/
def raise (hook : PanicHook Memory Own) (panic : Panic) :
    Traced Memory (HookEffect Own) (Except Panic Unit) := do
  hook.react panic
  return .error panic

def caught? : Except Panic Unit → Option Panic
  | .ok () => none
  | .error panic => some panic

/-- Panics one after another, each under a catcher of its own. -/
def catchEach (hook : PanicHook Memory Own) :
    List Panic → Traced Memory (HookEffect Own) (List (Option Panic))
  | [] => return []
  | panic :: rest => do
      let outcome ← hook.raise panic
      let later ← hook.catchEach rest
      return caught? outcome :: later

end PanicHook

/-! ## Noted panics

Hooks that remember nothing and at most take a note. -/

abbrev PanicEffect : Type :=
  HookEffect Unit

@[match_pattern]
abbrev PanicEffect.noted : PanicEffect :=
  .own ()

structure PanicRun where
  caught : List Bool
  effects : List PanicEffect
  deriving DecidableEq, Repr

namespace PanicHook

def silent : PanicHook Unit Unit where
  react _ := return ()

def noting : PanicHook Unit Unit where
  react _ := Traced.note PanicEffect.noted

/-- All panics happen in one place. -/
def catchAll (hook : PanicHook Unit Unit) (place : String) (texts : List String) : PanicRun :=
  let outcome := hook.catchEach (texts.map fun text => ⟨place, some text⟩) ()
  ⟨outcome.value.map Option.isSome, outcome.record⟩

end PanicHook

end MemoryProbe
