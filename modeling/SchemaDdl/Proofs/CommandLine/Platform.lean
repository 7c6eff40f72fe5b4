import SchemaDdl.CommandLine.Run

/-!
# What is relied on about the system

The system is a world that the acts of a platform may change.  A `View` tells what of a world the
command line can leave a trace in: standard output and the files.  `Platform.Lawful` names what is
relied on: finding something out changes nothing, what is printed comes after what was printed
before, a line to the user leaves no trace, and a file is written completely or not at all.
-/

namespace SchemaDdl.CommandLine

variable {σ ε α β : Type}

/-! ## Traces -/

/-- Where a path leads, whether or not something stands there. -/
inductive Place (File : Type)
  | file (f : File)
  /-- Standard output, under whatever name. -/
  | output
  /-- What keeps nothing that is written to it, as the null device. -/
  | elsewhere

/-- What of a world the command line can leave a trace in.  What the user is told besides the output
is no part of it, wherever it goes. -/
structure View (σ : Type) where
  File : Type
  place : σ → String → Place File
  content : σ → File → Option ByteArray
  /-- What has come out on standard output. -/
  stdout : σ → ByteArray

namespace View

/-- Nothing came out, and no file was created or changed. -/
structure Same (V : View σ) (before after : σ) : Prop where
  stdout : V.stdout after = V.stdout before
  content : ∀ f, V.content after f = V.content before f

/-- A text came out, and no file was created or changed. -/
structure Prints (V : View σ) (before : σ) (text : String) (after : σ) : Prop where
  stdout : V.stdout after = V.stdout before ++ text.toUTF8
  content : ∀ f, V.content after f = V.content before f

/-- A text went where a path leads: a file holds it and nothing else changed, or it came out because
the path leads to standard output, or it is not kept. -/
inductive Writes (V : View σ) (before : σ) (path text : String) (after : σ) : Prop
  | file (f : V.File) (place : V.place before path = .file f)
      (here : V.content after f = some text.toUTF8)
      (others : ∀ g, g ≠ f → V.content after g = V.content before g)
      (stdout : V.stdout after = V.stdout before)
  | output (place : V.place before path = .output) (prints : V.Prints before text after)
  | elsewhere (place : V.place before path = .elsewhere) (same : V.Same before after)

variable {V : View σ} {before between after : σ} {path text : String}

theorem Same.refl (V : View σ) (w : σ) : V.Same w w := ⟨rfl, fun _ => rfl⟩

theorem Same.trans (h₁ : V.Same before between) (h₂ : V.Same between after) :
    V.Same before after :=
  ⟨h₂.stdout.trans h₁.stdout, fun f => (h₂.content f).trans (h₁.content f)⟩

theorem Prints.trans_same (h₁ : V.Prints before text between) (h₂ : V.Same between after) :
    V.Prints before text after :=
  ⟨h₂.stdout.trans h₁.stdout, fun f => (h₂.content f).trans (h₁.content f)⟩

theorem Writes.trans_same (h₁ : V.Writes before path text between) (h₂ : V.Same between after) :
    V.Writes before path text after := by
  cases h₁ with
  | file f place here others stdout =>
    exact .file f place ((h₂.content f).trans here)
      (fun g hg => (h₂.content g).trans (others g hg)) (h₂.stdout.trans stdout)
  | output place prints => exact .output place (prints.trans_same h₂)
  | elsewhere place same => exact .elsewhere place (same.trans h₂)

end View

/-! ## Acts -/

/-- An act that only finds something out. -/
def Reads (x : StateM σ α) : Prop := ∀ w, (x.run w).2 = w

/-- What an act that may fail gives in a world. -/
def result (x : ExceptT ε (StateM σ) α) (w : σ) : Except ε α := (x.run.run w).1

/-- The world after an act that may fail. -/
def after (x : ExceptT ε (StateM σ) α) (w : σ) : σ := (x.run.run w).2

theorem reads_pure (a : α) : Reads (pure a : StateM σ α) := fun _ => rfl

theorem Reads.run_bind {x : StateM σ α} (hx : Reads x) (f : α → StateM σ β) (w : σ) :
    (x >>= f).run w = (f (x.run w).1).run w := by
  have hworld : (x.run w).2 = w := hx w
  change (f (x.run w).1).run (x.run w).2 = _
  rw [hworld]

section Failing

variable {x : ExceptT ε (StateM σ) α} {f : α → ExceptT ε (StateM σ) β} {w : σ} {a : α}

/-- What comes next starts in the world that is left, unless something failed. -/
theorem run_run_bind (x : ExceptT ε (StateM σ) α) (f : α → ExceptT ε (StateM σ) β) (w : σ) :
    (x >>= f).run.run w = match result x w with
      | .ok a => (f a).run.run (after x w)
      | .error e => (.error e, after x w) := by
  change (ExceptT.bindCont f (result x w)).run (after x w) = _
  cases result x w <;> rfl

@[simp] theorem result_pure (a : α) (w : σ) : result (pure a : ExceptT ε (StateM σ) α) w = .ok a :=
  rfl

@[simp] theorem result_lift (x : StateM σ α) (w : σ) :
    result (liftM x : ExceptT ε (StateM σ) α) w = .ok (x.run w).1 := rfl

@[simp] theorem result_adapt {δ : Type} (g : ε → δ) (x : ExceptT ε (StateM σ) α) (w : σ) :
    result (x.adapt g) w = (result x w).mapError g := rfl

theorem result_adapt_eq_ok_iff {δ : Type} (g : ε → δ) :
    result (x.adapt g) w = .ok a ↔ result x w = .ok a := by
  rw [result_adapt]
  constructor
  · intro h
    cases hx : result x w with
    | ok b =>
      rw [hx] at h
      cases h
      rfl
    | error e =>
      rw [hx] at h
      cases h
  · intro h
    rw [h]
    rfl

theorem Reads.lift {x : StateM σ α} (h : Reads x) :
    Reads (liftM x : ExceptT ε (StateM σ) α).run := h

theorem Reads.adapt {δ : Type} (h : Reads x.run) (g : ε → δ) : Reads (x.adapt g).run := h

theorem Reads.after_eq (h : Reads x.run) (w : σ) : after x w = w := h w

theorem Reads.run_bind_of_ok (hx : Reads x.run) (f : α → ExceptT ε (StateM σ) β)
    (h : result x w = .ok a) : (x >>= f).run.run w = (f a).run.run w := by
  simp only [run_run_bind, h, hx.after_eq]

theorem Reads.result_bind_eq_ok_iff {b : β} (hx : Reads x.run) :
    result (x >>= f) w = .ok b ↔ ∃ a, result x w = .ok a ∧ result (f a) w = .ok b := by
  rw [result, run_run_bind, hx.after_eq]
  cases result x w with
  | ok a => simp [result]
  | error e => simp

theorem Reads.bind (hx : Reads x.run) (hf : ∀ a, Reads (f a).run) :
    Reads (x >>= f).run := by
  intro w
  rw [run_run_bind, hx.after_eq]
  cases result x w with
  | ok a => exact hf a w
  | error e => rfl

end Failing

/-! ## Acts that fail without a trace -/

section Safe

variable {V : View σ} {x : ExceptT ε (StateM σ) α} {f : α → ExceptT ε (StateM σ) β}

/-- Wherever the act fails, it has left no trace. -/
def Safe (V : View σ) (x : ExceptT ε (StateM σ) α) : Prop :=
  ∀ w e, result x w = .error e → V.Same w (after x w)

theorem Safe.adapt {δ : Type} (h : Safe V x) (g : ε → δ) : Safe V (x.adapt g) := by
  intro w e herror
  rw [result_adapt] at herror
  cases hx : result x w with
  | ok a =>
    rw [hx] at herror
    cases herror
  | error e => exact h w e hx

theorem safe_lift (x : StateM σ α) : Safe V (liftM x : ExceptT ε (StateM σ) α) := by
  intro w e herror
  cases herror

theorem Reads.safe_bind (hx : Reads x.run) (hf : ∀ a, Safe V (f a)) : Safe V (x >>= f) := by
  intro w e herror
  rw [result, run_run_bind, hx.after_eq] at herror
  rw [after, run_run_bind, hx.after_eq]
  cases h : result x w with
  | ok a =>
    rw [h] at herror
    exact hf a w e herror
  | error e => exact .refl V w

/-- After an act that may fail comes one that does not. -/
theorem Safe.bind_lift (hx : Safe V x) (g : α → StateM σ β) :
    Safe V (x >>= fun a => (liftM (g a) : ExceptT ε (StateM σ) β)) := by
  intro w e herror
  rw [result, run_run_bind] at herror
  rw [after, run_run_bind]
  cases h : result x w with
  | ok a =>
    rw [h] at herror
    cases herror
  | error e => exact hx w e h

end Safe

/-! ## Platforms -/

namespace Platform

/-- What is relied on: what is found out is found out only, so that a file can be read again (which
a pipe cannot), what is printed comes out, and a file is written completely or not at all. -/
structure Lawful (P : Platform (StateM σ)) (V : View σ) : Prop where
  parse : ∀ args, Reads (P.parse args)
  configDirectory : Reads P.configDirectory
  holds : ∀ path, Reads (P.holds path)
  read : ∀ path, Reads (P.read path)
  print : ∀ text w, V.Prints w text ((P.print text).run w).2
  tell : ∀ line w, V.Same w ((P.tell line).run w).2
  write : ∀ path text w, ((P.write path text).run w).1 = .ok () →
    V.Writes w path text ((P.write path text).run w).2
  write_refused : ∀ path text w reason, ((P.write path text).run w).1 = .error reason →
    V.Same w ((P.write path text).run w).2

section Found

variable (P : Platform (StateM σ)) (w : σ)

/-- What the arguments ask for in a world. -/
def asks (args : List String) : Except Exit Invocation := ((P.parse args).run w).1

/-- The directory of the user's configuration in a world. -/
def directory : Option String := (P.configDirectory.run w).1

/-- Something stands at a path in a world. -/
def stands (path : String) : Bool := ((P.holds path).run w).1

/-- What is read at a path in a world. -/
def textAt (path : String) : Except String String := ((P.read path).run w).1

/-- The exit code of a run that starts in a world. -/
def exitCode (args : List String) : Nat := ((P.run args).run w).1

/-- The world after a run that starts in a world. -/
def afterRun (args : List String) : σ := ((P.run args).run w).2

/-- Two worlds with the same files and the same environment, as far as a platform can find out. -/
structure Alike (w₁ w₂ : σ) : Prop where
  directory : P.directory w₁ = P.directory w₂
  stands : ∀ path, P.stands w₁ path = P.stands w₂ path
  textAt : ∀ path, P.textAt w₁ path = P.textAt w₂ path

theorem Alike.refl (P : Platform (StateM σ)) (w : σ) : P.Alike w w :=
  ⟨rfl, fun _ => rfl, fun _ => rfl⟩

end Found

end Platform

end SchemaDdl.CommandLine
