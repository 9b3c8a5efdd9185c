import RefDoc.Extension.Plugin
import RefDoc.Extension.Template
import RefDoc.Proofs.Desk

/-!
# Making and loading extensions

What is loaded has just been made by the catalog, on the desk as it was then
(`ResolvedPlugin.load_run`, `Template.load_run`). The files stay as they are, and whether loading
goes well depends on them alone, whatever is noted and logged meanwhile (`Attempt.JudgedBy`).
-/

namespace RefDoc

variable {σ α β γ δ : Type}

/-! ### Results that fail alike -/

/-- One fails just as the other does. -/
def FailsAs (r : Except Error α) (r' : Except Error β) : Prop := ∀ e, r = .error e ↔ r' = .error e

theorem failsAs_error (e : Error) :
    FailsAs (.error e : Except Error α) (.error e : Except Error β) := fun _ => by simp

theorem failsAs_map (f : α → β) (r : Except Error α) : FailsAs (r.map f) r := by
  cases r <;> simp [FailsAs, Except.map]

theorem FailsAs.exists_ok_iff {r : Except Error α} {r' : Except Error β} (h : FailsAs r r') :
    (∃ v, r = .ok v) ↔ ∃ w, r' = .ok w := by
  cases r with
  | error e => simp [(h e).mp rfl]
  | ok v =>
    cases r' with
    | error e => cases (h e).mpr rfl
    | ok w => simp

namespace Attempt

/-- The attempt fails just as the files say, and leaves them as they are. -/
def JudgedBy (a : Attempt σ α) (f : FileTree → Except Error β) : Prop :=
  ∀ desk, FailsAs (a.run.run desk).1 (f desk.files) ∧ (a.run.run desk).2.1.files = desk.files

theorem JudgedBy.bind {a : Attempt σ α} {f : FileTree → Except Error β} {g : α → Attempt σ γ}
    {h : β → FileTree → Except Error δ} (first : a.JudgedBy f)
    (next : ∀ v w, (g v).JudgedBy (h w)) : (a >>= g).JudgedBy fun t => f t >>= fun w => h w t := by
  intro desk
  obtain ⟨fails, files⟩ := first desk
  rw [bind_run]
  rcases ran : a.run.run desk with ⟨e | v, after, log⟩ <;> rw [ran] at fails files
  · have judged : f desk.files = .error e := (fails e).mp rfl
    simp only [judged]
    exact ⟨failsAs_error e, files⟩
  · obtain ⟨w, judged⟩ := fails.exists_ok_iff.mp ⟨v, rfl⟩
    obtain ⟨fails', files'⟩ := next v w after
    have files : after.files = desk.files := files
    rw [files] at fails' files'
    simp only [judged]
    exact ⟨fails', files'⟩

end Attempt

/-! ### Plugins -/

namespace ResolvedPlugin

/-- What loading the plugin gives on a desk. -/
def loaded (catalog : Catalog σ) (p : ResolvedPlugin) (desk : Desk σ) :
    Except Error (LoadedPlugin σ) :=
  (p.implementation desk.files catalog).map fun found =>
    { specifier := p.specifier, plugin := found.2.made desk }

theorem load_run (catalog : Catalog σ) (p : ResolvedPlugin) (desk : Desk σ) :
    ∃ notes log,
      (p.load catalog).run.run desk = (p.loaded catalog desk, { desk with notes }, log) := by
  simp only [load, loaded, Attempt.bind_run, Attempt.files_run, Attempt.ofExcept_run,
    Attempt.act_run]
  cases p.implementation desk.files catalog with
  | error e => exact ⟨desk.notes, [], rfl⟩
  | ok found => exact ⟨_, _, rfl⟩

theorem judgedBy_load (catalog : Catalog σ) (p : ResolvedPlugin) :
    (p.load catalog).JudgedBy fun t => p.implementation t catalog := by
  intro desk
  obtain ⟨notes, log, ran⟩ := load_run catalog p desk
  rw [ran]
  exact ⟨failsAs_map _ _, rfl⟩

end ResolvedPlugin

/-! ### Templates -/

namespace Template

/-- What loading the template gives on a desk. -/
def loaded (catalog : Catalog σ) (location : Location) (desk : Desk σ) :
    Except Error (Template σ) :=
  (implementation desk.files catalog location).map fun found => found.2.made desk

theorem load_run (catalog : Catalog σ) (location : Location) (desk : Desk σ) :
    ∃ notes log, (load catalog location).run.run desk =
      (loaded catalog location desk, { desk with notes }, log) := by
  simp only [load, loaded, Attempt.bind_run, Attempt.files_run, Attempt.ofExcept_run,
    Attempt.act_run]
  cases implementation desk.files catalog location with
  | error e => exact ⟨desk.notes, [], rfl⟩
  | ok found => exact ⟨_, _, rfl⟩

theorem judgedBy_load (catalog : Catalog σ) (location : Location) :
    (load catalog location).JudgedBy fun t => implementation t catalog location := by
  intro desk
  obtain ⟨notes, log, ran⟩ := load_run catalog location desk
  rw [ran]
  exact ⟨failsAs_map _ _, rfl⟩

end Template

end RefDoc
