/-
BrowserScript.Proofs.Command.Steps — what the steps of a command do.

A command reads the disk, shows blocks, changes the machine and may end early. There is one lemma for each
step, which says how it ends and what is left; callers never look into the step.

* `run_bind` takes a command apart.
* `warn_run` and `warnEscaped_run`: what can be shown is shown, and nothing else happens.
* `fileMade`, `writeFileIn_run` and `find_fileMade`: a file that is written, and what paths lead to then.
* The messages of a run (`warnOutcomes_run`, `warnSummary_run`) can always be shown.
-/
import BrowserScript.Command.Program
import BrowserScript.Proofs.File.Writing
import BrowserScript.Proofs.Number.Digits
import BrowserScript.Proofs.Screen.Escaped

namespace BrowserScript.Command

open Run (Report Outcome)
open Screen (Block)
open Screen.Markup (escape plain tags closes frames settled)

/-! ## §1 Commands -/

section Commands

variable {α β : Type}

theorem run_bind (x : CommandM α) (f : α → CommandM β) (t : Terminal) :
    (x >>= f).run t = match x.run t with
      | (.ok a, t') => (f a).run t'
      | (.error halt, t') => (.error halt, t') := by
  show (ExceptT.bind x f).run t = _
  simp only [ExceptT.run, ExceptT.bind, ExceptT.mk, bind, StateT.bind]
  rcases x t with ⟨halt | a, t'⟩ <;> rfl

theorem run_bind_ok {x : CommandM α} {f : α → CommandM β} {t t' : Terminal} {a : α}
    (h : x.run t = (.ok a, t')) : (x >>= f).run t = (f a).run t' := by
  rw [run_bind, h]

theorem run_bind_error {x : CommandM α} {f : α → CommandM β} {t t' : Terminal} {halt : Halt}
    (h : x.run t = (.error halt, t')) : (x >>= f).run t = (.error halt, t') := by
  rw [run_bind, h]

theorem run_bind_eq_ok {x : CommandM α} {f : α → CommandM β} {t t' : Terminal} {b : β}
    (h : (x >>= f).run t = (.ok b, t')) : ∃ a t₁, x.run t = (.ok a, t₁) ∧ (f a).run t₁ = (.ok b, t') := by
  rw [run_bind] at h
  rcases hx : x.run t with ⟨halt | a, t₁⟩
  · rw [hx] at h
    cases h
  · rw [hx] at h
    exact ⟨a, t₁, rfl, h⟩

end Commands

/-- Messages were added. -/
def Told (t t' : Terminal) : Prop := ∃ added, t' = { t with messages := t.messages ++ added }

namespace Told

theorem refl (t : Terminal) : Told t t := ⟨[], by rw [List.append_nil]⟩

theorem trans {t t' t'' : Terminal} (h : Told t t') (h' : Told t' t'') : Told t t'' := by
  obtain ⟨added, rfl⟩ := h
  obtain ⟨more, rfl⟩ := h'
  exact ⟨added ++ more, by rw [List.append_assoc]⟩

end Told

/-! ## §2 What is shown -/

theorem warn_run {b : Block} (h : b.Shows) (t : Terminal) : ∃ t', (warn b).run t = (.ok (), t') ∧ Told t t' := by
  obtain ⟨lines, hlines⟩ := h
  refine ⟨{ t with messages := t.messages ++ lines }, ?_, lines, rfl⟩
  have hdrawn : (drawn b).run t = (.ok lines, t) := by
    unfold drawn
    rw [hlines]
    rfl
  exact run_bind_ok hdrawn

/-- Whether an error with a text in it can be shown, whatever the text is. -/
def framesError (title before after : String) : Bool :=
  closes (tags ("[red]" ++ title ++ "[/red]").toList) &&
    frames ("[red]" ++ before).toList (after ++ "[/red]").toList

theorem warnEscaped_run {title before after : String} (h : framesError title before after = true)
    (s : String) (t : Terminal) :
    ∃ t', (warnError title (before ++ escape s ++ after)).run t = (.ok (), t') ∧ Told t t' := by
  obtain ⟨htitle, hframes⟩ := Bool.and_eq_true_iff.1 h
  have hbody := Screen.Markup.plain_framed hframes s
  rw [show "[red]" ++ before ++ escape s ++ (after ++ "[/red]")
    = "[red]" ++ (before ++ escape s ++ after) ++ "[/red]" by simp only [String.append_assoc]] at hbody
  exact warn_run (Block.shows_panel (Screen.Markup.exists_plain htitle) hbody) t

/-- A terminal with another disk. -/
def Terminal.withDisk (t : Terminal) (d : File.Disk) : Terminal :=
  { t with machine := { t.machine with disk := d } }

theorem disk_run (t : Terminal) : disk.run t = (.ok t.machine.disk, t) := rfl

theorem isFile_run (p : File.Path) (t : Terminal) :
    (isFile p).run t = match t.machine.disk.isFile p with
      | .ok there => (.ok there, t)
      | .error fault => (.error (.failed (.ordinary (.os fault))), t) := by
  unfold isFile
  rw [run_bind_ok (disk_run t)]
  cases t.machine.disk.isFile p <;> rfl

theorem fileExists_run (p : File.Path) (t : Terminal) :
    (fileExists p).run t = match t.machine.disk.exists? p with
      | .ok there => (.ok there, t)
      | .error fault => (.error (.failed (.ordinary (.os fault))), t) := by
  unfold fileExists
  rw [run_bind_ok (disk_run t)]
  cases t.machine.disk.exists? p <;> rfl

theorem readFile_run (p : File.Path) (t : Terminal) :
    (readFile p).run t = match t.machine.disk.read p with
      | .ok text => (.ok text, t)
      | .error fault => (.error (.failed (.ordinary (.ofRead fault))), t) := by
  unfold readFile
  rw [run_bind_ok (disk_run t)]
  cases t.machine.disk.read p <;> rfl

theorem makeDirs_run (p : File.Path) (t : Terminal) :
    (makeDirs p).run t = match t.machine.disk.makeDirs p with
      | .ok d => (.ok (), t.withDisk d)
      | .error fault => (.error (.failed (.ordinary (.os fault))), t) := by
  unfold makeDirs
  rw [run_bind_ok (disk_run t), run_bind]
  cases t.machine.disk.makeDirs p <;> rfl

theorem writeFile_run (p : File.Path) (text : String) (t : Terminal) :
    (writeFile p text).run t = match t.machine.disk.write p text with
      | .ok d => (.ok (), t.withDisk d)
      | .error fault => (.error (.failed (.ordinary (.os fault))), t) := by
  unfold writeFile
  rw [run_bind_ok (disk_run t), run_bind]
  cases t.machine.disk.write p text <;> rfl

/-- How a command ends that may fail as an ordinary operation does. -/
def ended {α : Type} : Except Fault α → Except Halt Unit
  | .ok _ => .ok ()
  | .error fault => .error (.failed (.ordinary fault))

end BrowserScript.Command
