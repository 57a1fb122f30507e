import Groupwise.Command.Error
import Groupwise.Proofs.Lockstep

/-!
# Journals of commands

A command asks its host for what it needs to know, and tells it what to do. `Host.journaled` is a
host that does the same as another one and keeps a journal: of the files that were read, of the
seeds that were drawn, and of what was to be appended to files. The journal does not change what a
command does, and it says where the results of the command come from: `Journaled` relates a command
with a journal to the same command without one, and says what the journal has in the end.
-/

namespace Groupwise

variable {m : Type → Type} [Monad m] {ε ε' α β : Type}

/-- What a host was asked, and what it answered. -/
structure Journal where
  reads : List (String × Except ReadFault (List UInt8))
  seeds : List Nat
  appended : List (String × List UInt8)

namespace Journal

def empty : Journal := ⟨[], [], []⟩

def noteRead (path : String) (answer : Except ReadFault (List UInt8)) (j : Journal) : Journal :=
  { j with reads := j.reads ++ [(path, answer)] }

def noteSeed (seed : Nat) (j : Journal) : Journal := { j with seeds := j.seeds ++ [seed] }

def noteAppended (path : String) (bytes : List UInt8) (j : Journal) : Journal :=
  { j with appended := j.appended ++ [(path, bytes)] }

end Journal

/-- Do something, and note what came of it. -/
def noting (note : β → Journal → Journal) (x : m β) : StateT Journal m β :=
  fun j => (fun b => (b, note b j)) <$> x

/-- Do something that is not worth a note. -/
def unnoted (x : m β) : StateT Journal m β := noting (fun _ j => j) x

/-- The host that keeps a journal. -/
def Host.journaled (h : Host m) : Host (StateT Journal m) where
  lookup := h.lookup
  machine := h.machine
  overflow := h.overflow
  read path := noting (Journal.noteRead path) (h.read path)
  create path := unnoted (h.create path)
  write path bytes := unnoted (h.write path bytes)
  ensure path := unnoted (h.ensure path)
  append path bytes := noting (fun _ => Journal.noteAppended path bytes) (h.append path bytes)
  print line := unnoted (h.print line)
  complain line := unnoted (h.complain line)
  now := unnoted h.now
  newId := unnoted h.newId
  newSeed := noting Journal.noteSeed h.newSeed
  schedule := h.schedule

/-! ### Commands with a journal -/

/-- From a journal with `pre` on, the first computation does what the second one does, and in the
end the outcome and the journal have `post`. -/
def Journaled (pre : Journal → Prop) (post : Except ε α → Journal → Prop)
    (x : ExceptT ε (StateT Journal m) α) (y : ExceptT ε m α) : Prop :=
  ∀ j, pre j → Lockstep (fun p r => p.1 = r ∧ post r p.2) (x.run.run j) y.run

variable [LawfulMonad m] {pre : Journal → Prop}

lemma lockstep_noting (note : β → Journal → Journal) (x : m β) (j : Journal) :
    Lockstep (fun p b => p.1 = b ∧ p.2 = note b j) ((noting note x).run j) x := by
  have h : Lockstep (fun p b => p.1 = b ∧ p.2 = note b j) ((fun b => (b, note b j)) <$> x)
      (id <$> x) :=
    (Lockstep.same (r := Eq) (fun _ => rfl) x).map fun a b hab => hab ▸ ⟨rfl, rfl⟩
  rwa [id_map] at h

namespace Journaled

variable {post post' : Except ε α → Journal → Prop} {x : ExceptT ε (StateT Journal m) α}
  {y : ExceptT ε m α}

lemma pure {a : α} (h : ∀ j, pre j → post (.ok a) j) :
    Journaled pre post (Pure.pure a) (Pure.pure a : ExceptT ε m α) := by
  intro j hj
  simp only [ExceptT.run_pure, StateT.run_pure]
  exact .pure ⟨rfl, h j hj⟩

lemma throw {e : ε} (h : ∀ j, pre j → post (.error e) j) :
    Journaled pre post (MonadExcept.throw e) (MonadExcept.throw e : ExceptT ε m α) :=
  fun j hj => .pure ⟨rfl, h j hj⟩

lemma mono (h : Journaled pre post x y) (hpost : ∀ r j, post r j → post' r j) :
    Journaled pre post' x y :=
  fun j hj => (h j hj).mono fun _ r hr => ⟨hr.1, hpost r _ hr.2⟩

lemma bind {post : Except ε β → Journal → Prop} {mid : Except ε α → Journal → Prop}
    {f : α → ExceptT ε (StateT Journal m) β} {g : α → ExceptT ε m β} (h : Journaled pre mid x y)
    (hok : ∀ a, Journaled (mid (.ok a)) post (f a) (g a))
    (herror : ∀ e j, mid (.error e) j → post (.error e) j) :
    Journaled pre post (x >>= f) (y >>= g) := by
  intro j hj
  simp only [ExceptT.run_bind, StateT.run_bind]
  refine (h j hj).bind ?_
  rintro ⟨r, j'⟩ r' ⟨hr, hmid⟩
  obtain rfl : r = r' := hr
  cases r with
  | ok a => exact hok a j' hmid
  | error e =>
    simp only [StateT.run_pure]
    exact .pure ⟨rfl, herror e j' hmid⟩

/-- The errors are those of a larger computation. -/
lemma attempt {post : Except CommandError α → Journal → Prop} (wrap : ε → CommandError)
    {x : StateT Journal m (Except ε α)} {y : m (Except ε α)}
    (h : Journaled pre (fun r j => post (r.mapError wrap) j) (ExceptT.mk x) (ExceptT.mk y)) :
    Journaled pre post (Host.attempt wrap x) (Host.attempt wrap y) := by
  intro j hj
  have hx : (Host.attempt wrap x).run.run j =
      (fun p => (p.1.mapError wrap, p.2)) <$> x.run j := StateT.run_map _ _ _
  rw [hx]
  refine (h j hj).map ?_
  rintro ⟨r, j'⟩ r' ⟨hr, hpost⟩
  obtain rfl : r = r' := hr
  exact ⟨rfl, hpost⟩

lemma check {post : Except CommandError α → Journal → Prop} {wrap : ε → CommandError}
    {r : Except ε α} (h : ∀ j, pre j → post (r.mapError wrap) j) :
    Journaled pre post (Host.check wrap r) (Host.check wrap r : Host.Step m α) :=
  attempt wrap fun j hj => .pure ⟨rfl, h j hj⟩

lemma mk_noting (note : Except ε α → Journal → Journal) (y : m (Except ε α)) :
    Journaled pre (fun r j => ∃ i, pre i ∧ j = note r i) (ExceptT.mk (noting note y))
      (ExceptT.mk y) :=
  fun j hj => (lockstep_noting note y j).mono fun _ _ hr => ⟨hr.1, j, hj, hr.2⟩

lemma lift_noting (note : α → Journal → Journal) (y : m α) :
    Journaled pre (fun r j => ∃ a i, r = .ok a ∧ pre i ∧ j = note a i)
      (liftM (noting note y)) (liftM y : ExceptT ε m α) := by
  intro j hj
  have hx : (liftM (noting note y) : ExceptT ε (StateT Journal m) α).run.run j =
      (fun p => (.ok p.1, p.2)) <$> (noting note y).run j := StateT.run_map _ _ _
  have hy : (liftM y : ExceptT ε m α).run = .ok <$> y := rfl
  rw [hx, hy]
  refine (lockstep_noting note y j).map ?_
  rintro ⟨a, i⟩ b ⟨hab, hi⟩
  obtain rfl : a = b := hab
  exact ⟨rfl, a, j, rfl, hj, hi⟩

end Journaled

/-! ### What journals keep -/

/-- The journal has `inv` all the time, and the result has `Q` if there is one. -/
def Keeps (inv : Journal → Prop) (Q : α → Prop) (x : ExceptT ε (StateT Journal m) α)
    (y : ExceptT ε m α) : Prop :=
  Journaled inv (fun r j => inv j ∧ ∀ a, r = .ok a → Q a) x y

namespace Keeps

variable {inv : Journal → Prop} {Q Q' : α → Prop} {x : ExceptT ε (StateT Journal m) α}
  {y : ExceptT ε m α}

lemma pure {a : α} (h : Q a) : Keeps inv Q (Pure.pure a) (Pure.pure a : ExceptT ε m α) :=
  Journaled.pure fun _ hj => ⟨hj, fun _ hab => Except.ok.inj hab ▸ h⟩

lemma mono (h : Keeps inv Q x y) (hQ : ∀ a, Q a → Q' a) : Keeps inv Q' x y :=
  Journaled.mono h fun _ _ hr => ⟨hr.1, fun a ha => hQ a (hr.2 a ha)⟩

lemma bind {Q' : β → Prop} {f : α → ExceptT ε (StateT Journal m) β} {g : α → ExceptT ε m β}
    (h : Keeps inv Q x y) (hfg : ∀ a, Q a → Keeps inv Q' (f a) (g a)) :
    Keeps inv Q' (x >>= f) (y >>= g) :=
  Journaled.bind h (fun a j hj => hfg a (hj.2 a rfl) j hj.1)
    fun _ _ hj => ⟨hj.1, fun _ ha => by cases ha⟩

lemma attempt (wrap : ε → CommandError) {x : StateT Journal m (Except ε α)}
    {y : m (Except ε α)} (h : Keeps inv Q (ExceptT.mk x) (ExceptT.mk y)) :
    Keeps inv Q (Host.attempt wrap x) (Host.attempt wrap y) := by
  refine Journaled.attempt wrap (Journaled.mono h ?_)
  rintro (e | a) j ⟨hj, hQ⟩
  · exact ⟨hj, fun a ha => by cases ha⟩
  · exact ⟨hj, fun b hab => Except.ok.inj hab ▸ hQ a rfl⟩

lemma throw (e : ε) : Keeps inv Q (MonadExcept.throw e) (MonadExcept.throw e : ExceptT ε m α) :=
  Journaled.throw fun _ hj => ⟨hj, fun _ ha => by cases ha⟩

lemma ofExcept (r : Except ε α) :
    Keeps inv (r = .ok ·) (MonadExcept.ofExcept r) (MonadExcept.ofExcept r : ExceptT ε m α) := by
  cases r with
  | ok a => exact pure rfl
  | error e => exact throw e

lemma check (wrap : ε → CommandError) (r : Except ε α) :
    Keeps inv (r = .ok ·) (Host.check wrap r) (Host.check wrap r : Host.Step m α) := by
  refine attempt wrap ?_
  cases r with
  | ok a => exact pure rfl
  | error e => exact throw e

lemma mk_noting {note : Except ε α → Journal → Journal} (hnote : ∀ r j, inv j → inv (note r j))
    (y : m (Except ε α)) :
    Keeps inv (fun _ => True) (ExceptT.mk (noting note y)) (ExceptT.mk y) := by
  refine (Journaled.mk_noting note y).mono ?_
  rintro r j ⟨i, hi, rfl⟩
  exact ⟨hnote r i hi, fun _ _ => trivial⟩

lemma lift_unnoted (y : m α) :
    Keeps inv (fun _ => True) (liftM (unnoted y)) (liftM y : ExceptT ε m α) := by
  refine (Journaled.lift_noting _ y).mono ?_
  rintro r j ⟨a, i, -, hi, rfl⟩
  exact ⟨hi, fun _ _ => trivial⟩

lemma foldlM {σ : Type} {Q : σ → Prop} {f : σ → α → ExceptT ε (StateT Journal m) σ}
    {g : σ → α → ExceptT ε m σ} {as : List α}
    (hfg : ∀ s, Q s → ∀ a ∈ as, Keeps inv Q (f s a) (g s a)) {s : σ} (hs : Q s) :
    Keeps inv Q (as.foldlM f s) (as.foldlM g s) := by
  induction as generalizing s with
  | nil => exact pure hs
  | cons a as ih =>
    rw [List.foldlM_cons, List.foldlM_cons]
    exact (hfg s hs a List.mem_cons_self).bind fun t ht =>
      ih (fun s hs a ha => hfg s hs a (List.mem_cons_of_mem _ ha)) ht

end Keeps

end Groupwise
