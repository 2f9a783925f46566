import Gradual.Diagnostic.Basic

/-!
# The log of diagnostics

Diagnostics go to the end of a log that is handed from step to step. Nothing in a check reads the
log, and `report` is the only way to write.
-/

namespace Gradual

abbrev Log := Array Diagnostic

structure CheckM (α : Type) where
  run : Log → α × Log

namespace CheckM

variable {α β : Type}

instance : Monad CheckM where
  pure a := ⟨fun log => (a, log)⟩
  bind x f := ⟨fun log => (f (x.run log).1).run (x.run log).2⟩

@[simp] theorem run_pure (a : α) (log : Log) : (pure a : CheckM α).run log = (a, log) := rfl

@[simp] theorem run_bind (x : CheckM α) (f : α → CheckM β) (log : Log) :
    (x >>= f).run log = (f (x.run log).1).run (x.run log).2 := rfl

instance : LawfulMonad CheckM :=
  LawfulMonad.mk' CheckM (fun _ => rfl) (fun _ _ => rfl) (fun _ _ _ => rfl)

end CheckM

def report (cause : Cause) (position : Position) : CheckM Unit :=
  ⟨fun log => ((), log.push ⟨cause, position⟩)⟩

@[simp] theorem report_run (cause : Cause) (position : Position) (log : Log) :
    (report cause position).run log = ((), log.push ⟨cause, position⟩) := rfl

/-! ## Checks of one type -/

def Requirement.check (r : Requirement) (operator : String) (found : Ty) (position : Position) :
    CheckM Unit :=
  if r.admits found then pure () else report (.operand r operator found) position

def Site.check (site : Site) (expected received : Ty) (position : Position) : CheckM Unit :=
  if received.assignable expected then pure ()
  else report (.mismatch site expected received) position

end Gradual
