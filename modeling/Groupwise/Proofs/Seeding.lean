import Groupwise.Command.Memory
import Groupwise.Command.Run
import Groupwise.Proofs.Journaling
import Groupwise.Proofs.Running

/-!
# Where the seeds of manifests come from

A manifest says over which positions its run went: those of a generator with the seed it records,
or, without a seed, those of a table. The configuration has a seed for the generator, too, and
manifests copy it from there, so a run over a table records the seed that was configured for a
generator it never asks. `Host.run_seeds` says which seed is recorded, in all runs of any host: the
journal of the run tells which positions there are and where they come from, and what is recorded
is compared with it. `Host.seed_of_table` is a run over a table that records a seed.
-/

namespace Groupwise

/-! ### Shuffling -/

namespace Random

lemma perm_swapIfInBounds {α : Type} (xs : Array α) (i j : Nat) :
    (xs.swapIfInBounds i j).Perm xs := by
  rw [Array.swapIfInBounds]
  split_ifs
  · exact Array.swap_perm _ _
  · exact .refl xs
  · exact .refl xs

/-- What every step of a fold keeps, the whole fold keeps. -/
lemma run_foldlM_fst {σ α β : Type} {P : β → Prop} {f : β → α → StateM σ β}
    (hf : ∀ b a s, P b → P ((f b a).run s).1) (as : List α) {b : β} (hb : P b) (s : σ) :
    P ((as.foldlM f b).run s).1 := by
  induction as generalizing b s with
  | nil => exact hb
  | cons a as ih =>
    rw [List.foldlM_cons, StateT.run_bind]
    exact ih (hf b a s hb) _

lemma shuffle_perm {α : Type} (xs : List α) (r : Random) : ((shuffle xs).run r).1.Perm xs := by
  unfold shuffle
  split
  · exact .refl xs
  · rw [StateT.run_bind]
    refine run_foldlM_fst (P := fun state : Array α × Chooser => state.1.toList.Perm xs) ?_ _
      (.refl xs) r
    intro state i r hstate
    exact (perm_swapIfInBounds state.1 i _).toList.trans hstate

end Random

/-! ### Runs of an engine -/

namespace Engine

lemma seed_of_run {e : Engine Float} {reading : Reading Float} {kind : RunKind}
    {positions : List (Position Float)} {outcome : RunOutcome Float}
    (h : e.run reading kind positions = .ok outcome) : outcome.manifest.seed = e.config.seed := by
  obtain ⟨_, _, hm, -, -, hmanifest⟩ := run_eq_ok h
  rw [hmanifest]
  exact (manifest_eq_ok hm).2

end Engine

/-! ### What a journal tells of a run -/

/-- Where the positions of a run come from. The generator has not made any of them yet. -/
structure Source where
  config : Config Float
  generator : Generator
  positions : List (Position Float)

/-- The seed that manifests record: that of the generator unless the positions were read. -/
def Source.recordedSeed (s : Source) (input : Option String) : Option Nat :=
  if input.isNone then some s.generator.seed else s.config.seed

/-- Files with the answers to reading them. -/
abbrev Reads : Type := List (String × Except ReadFault (List UInt8))

/-- The document of overrides, if the options ask for one. -/
inductive ToldDocument : Option String → Reads → Option (Overrides Float) → Prop
  | absent : ToldDocument none [] none
  | read {path : String} {bytes : List UInt8} {text : String} {overrides : Overrides Float}
      (htext : Utf8.decode? bytes = some text)
      (hoverrides : Overrides.ofYaml? text = some overrides) :
      ToldDocument (some path) [(path, .ok bytes)] (some overrides)

/-- The seed of the generator is the one of the configuration, or it was drawn. -/
inductive ToldSeed : Option Nat → List Nat → Nat → Prop
  | configured (n : Nat) : ToldSeed (some n) [] n
  | drawn (n : Nat) : ToldSeed none [n] n

/-- The positions are those of a table, or they were generated. -/
inductive ToldPositions (size : Nat) (g : Generator) :
    Option String → Reads → List (Position Float) → Prop
  | generated : ToldPositions size g none [] (g.generate size).1
  | read {path : String} {bytes : List UInt8} {positions : List (Position Float)}
      (h : PositionTable.read bytes = .ok positions) :
      ToldPositions size g (some path) [(path, .ok bytes)] positions

/-- The journal tells the source. -/
def Journal.Tells {m : Type → Type} (h : Host m) (o : RunOptions) (j : Journal) (s : Source) :
    Prop :=
  ∃ document reads reads' seed,
    ToldDocument o.config reads document ∧
    s.config =
      Config.layered h.lookup document (.ofOptions o.batchSize o.threads o.size o.seed) ∧
    ToldSeed s.config.seed j.seeds seed ∧ s.generator = .ofSeed seed ∧
    ToldPositions s.config.datasetSize s.generator o.input reads' s.positions ∧
    j.reads = reads ++ reads'

/-- The manifest is that of a run over the positions of the source, and it records the seed. -/
def Describes (o : RunOptions) (s : Source) (m : Manifest) : Prop :=
  m.seed = s.recordedSeed o.input ∧
  ∃ (e : Engine Float) (reading : Reading Float) (kind : RunKind)
    (positions : List (Position Float)) (outcome : RunOutcome Float),
    e.config = { s.config with seed := s.recordedSeed o.input } ∧ positions.Perm s.positions ∧
    e.run reading kind positions = .ok outcome ∧ outcome.manifest = m

/-- The journal tells the source of the positions of a run that the manifest describes. -/
def Journal.Explains {m : Type → Type} (h : Host m) (o : RunOptions) (j : Journal)
    (manifest : Manifest) : Prop :=
  ∃ s, j.Tells h o s ∧ Describes o s manifest

/-- All that was appended are lines of manifests, and the journal explains them and all manifests
that came out. -/
def Journal.AccountsFor {m : Type → Type} (h : Host m) (o : RunOptions)
    (r : Except CommandError (List Manifest)) (j : Journal) : Prop :=
  (∀ e ∈ j.appended, ∃ manifest, e.2 = ManifestLog.line manifest ∧ j.Explains h o manifest) ∧
    ∀ ms, r = .ok ms → ∀ manifest ∈ ms, j.Explains h o manifest

/-- The journal tells the source, and all that was appended are lines of manifests that describe
runs over its positions. -/
def Journal.Logs {m : Type → Type} (h : Host m) (o : RunOptions) (s : Source) (j : Journal) :
    Prop :=
  j.Tells h o s ∧ ∀ e ∈ j.appended, ∃ m, e.2 = ManifestLog.line m ∧ Describes o s m

/-- When all manifests that come out describe runs, too, the journal accounts for them. -/
lemma Journal.Logs.accountsFor {m : Type → Type} {h : Host m} {o : RunOptions} {s : Source}
    {j : Journal} {r : Except CommandError (List Manifest)} (hj : j.Logs h o s)
    (hr : ∀ ms, r = .ok ms → ∀ manifest ∈ ms, Describes o s manifest) : j.AccountsFor h o r := by
  refine ⟨fun e he => ?_, fun ms hms manifest hm => ⟨s, hj.1, hr ms hms manifest hm⟩⟩
  obtain ⟨manifest, hline, hdescribes⟩ := hj.2 e he
  exact ⟨manifest, hline, s, hj.1, hdescribes⟩

/-! ### Iterations -/

section

variable {m : Type → Type} [Monad m] [LawfulMonad m] {inv : Journal → Prop} {h : Host m}

namespace Engine

lemma keeps_runEngine (e : Engine Float) (kind : RunKind) (positions : List (Position Float)) :
    Keeps inv (fun outcome => ∃ reading, e.run reading kind positions = .ok outcome)
      (h.journaled.runEngine e kind positions) (h.runEngine e kind positions) := by
  unfold Host.runEngine
  refine (Keeps.lift_unnoted h.newId).bind fun id _ => ?_
  refine (Keeps.lift_unnoted h.now).bind fun started _ => ?_
  have hschedule : h.journaled.schedule id = h.schedule id := rfl
  rw [hschedule]
  refine (Keeps.ofExcept _).bind fun m hm => ?_
  refine (Keeps.ofExcept _).bind fun result hresult => ?_
  refine (Keeps.lift_unnoted h.now).bind fun finished _ => ?_
  refine (Keeps.ofExcept _).mono fun outcome houtcome => ?_
  refine ⟨⟨id, started, finished, h.schedule id⟩, ?_⟩
  rw [run, hm, hresult]
  exact houtcome

/-- Reports keep what is known of every outcome. -/
lemma keeps_reports {Q : RunOutcome Float → Prop} (tolerance : Float) {baseline : RunOutcome Float}
    {run : Nat → Mode → ExceptT (EngineError Float) (StateT Journal m) (RunOutcome Float)}
    {run' : Nat → Mode → ExceptT (EngineError Float) m (RunOutcome Float)} (hbaseline : Q baseline)
    (hrun : ∀ n mode, Keeps inv Q (run n mode) (run' n mode)) (n : Nat) (modes : List Mode) :
    Keeps inv (fun rs => ∀ r ∈ rs, Q r.outcome) (reports tolerance baseline run n modes)
      (reports tolerance baseline run' n modes) := by
  induction modes generalizing n with
  | nil =>
    rw [reports, reports]
    exact Keeps.pure (by simp)
  | cons mode modes ih =>
    have hreport : ∀ outcome, Q outcome → Keeps inv (fun rs => ∀ r ∈ rs, Q r.outcome)
        (do let r ← MonadExcept.ofExcept (report tolerance baseline mode outcome)
            return r :: (← reports tolerance baseline run (n + 1) modes))
        (do let r ← MonadExcept.ofExcept (report tolerance baseline mode outcome)
            return r :: (← reports tolerance baseline run' (n + 1) modes)) := by
      intro outcome houtcome
      refine (Keeps.ofExcept _).bind fun r hr => (ih (n + 1)).bind fun rs hrs => Keeps.pure ?_
      rw [report_eq_ok hr]
      simpa using ⟨houtcome, hrs⟩
    rw [reports, reports]
    split_ifs
    · exact (Keeps.pure hbaseline).bind hreport
    · exact (hrun n mode).bind hreport

end Engine

namespace Host

/-- Every report is that of a run of the engine over the positions. -/
lemma keeps_compareModes (e : Engine Float) (grouping : Grouping) (modes : List Mode)
    (style : Style) (positions : List (Position Float)) :
    Keeps inv (fun rs => ∀ r ∈ rs, ∃ reading kind, e.run reading kind positions = .ok r.outcome)
      (h.journaled.compareModes e grouping modes style positions)
      (h.compareModes e grouping modes style positions) := by
  have hrun : ∀ (_ : Nat) (mode : Mode), Keeps inv
      (fun outcome => ∃ reading kind, e.run reading kind positions = .ok outcome)
      (h.journaled.runEngine e ⟨mode, style, grouping⟩ positions)
      (h.runEngine e ⟨mode, style, grouping⟩ positions) := fun _ mode =>
    (Engine.keeps_runEngine e _ positions).mono fun outcome ⟨reading, houtcome⟩ =>
      ⟨reading, _, houtcome⟩
  refine Keeps.attempt .engine ?_
  exact (hrun 0 .serialEager).bind fun baseline hbaseline =>
    Engine.keeps_reports _ hbaseline hrun 1 modes

/-- Something that is done for a file, if there is one. -/
lemma keeps_optional {path? : Option String} {f : String → Step (StateT Journal m) Unit}
    {g : String → Step m Unit} (hfg : ∀ path, Keeps inv (fun _ => True) (f path) (g path)) :
    Keeps inv (fun _ => True) (path?.forM f) (path?.forM g) := by
  cases path? with
  | none => exact Keeps.pure trivial
  | some path => exact hfg path

/-- A delivery prints, logs and writes a table, one after the other. -/
lemma deliver_eq (h : Host m) (o : RunOptions) (iteration : Nat) (table : Csv.TableWriter)
    (r : ModeReport Float) :
    h.deliver o iteration table r = do
      h.print (r.line iteration)
      o.manifest.forM fun path =>
        attempt .file (h.append path (ManifestLog.line r.outcome.manifest))
      match o.output with
      | none => return table
      | some path =>
        if iteration + 1 = o.rounds then do
          h.writeTable path (StatsTable.write table r.outcome.manifest.kind r.outcome.result).1
          return (StatsTable.write table r.outcome.manifest.kind r.outcome.result).2
        else return table := by
  unfold deliver
  cases o.manifest <;> cases o.output <;> simp [Option.forM]

variable {o : RunOptions} {s : Source}

/-- What is appended is the line of a manifest that describes a run. -/
lemma keeps_append {manifest : Manifest} (hmanifest : Describes o s manifest) (path : String) :
    Keeps (Journal.Logs h o s) (fun _ => True)
      (attempt .file (h.journaled.append path (ManifestLog.line manifest)))
      (attempt .file (h.append path (ManifestLog.line manifest))) := by
  refine Keeps.attempt .file (Keeps.mk_noting ?_ _)
  rintro _ j ⟨htells, hlines⟩
  refine ⟨htells, fun e he => ?_⟩
  rcases List.mem_append.1 he with he | he
  · exact hlines e he
  · rw [List.mem_singleton.1 he]
    exact ⟨manifest, rfl, hmanifest⟩

/-- The journal has nothing to say about what does not bear on manifests. -/
lemma keeps_unnoted {ε : Type} (wrap : ε → CommandError) (y : m (Except ε Unit)) :
    Keeps inv (fun _ => True) (attempt wrap (unnoted y)) (attempt wrap y) :=
  Keeps.attempt wrap (Keeps.mk_noting (fun _ _ hj => hj) y)

lemma keeps_deliver (iteration : Nat) (table : Csv.TableWriter) {r : ModeReport Float}
    (hr : Describes o s r.outcome.manifest) :
    Keeps (Journal.Logs h o s) (fun _ => True) (h.journaled.deliver o iteration table r)
      (h.deliver o iteration table r) := by
  rw [deliver_eq, deliver_eq]
  refine (Keeps.lift_unnoted _).bind fun _ _ => ?_
  refine (keeps_optional fun path => keeps_append hr path).bind fun _ _ => ?_
  cases o.output with
  | none => exact Keeps.pure trivial
  | some path =>
    dsimp only
    split_ifs
    · exact (keeps_unnoted _ _).bind fun _ _ => Keeps.pure trivial
    · exact Keeps.pure trivial

/-- All manifests of a plan for a source describe runs over its positions. -/
lemma keeps_runStyles {e : Engine Float} {positions : List (Position Float)}
    (hconfig : e.config = { s.config with seed := s.recordedSeed o.input })
    (hpositions : positions.Perm s.positions) (modes : List Mode) (iteration : Nat)
    (table : Csv.TableWriter) (styles : List Style) :
    Keeps (Journal.Logs h o s) (fun ms => ∀ m ∈ ms, Describes o s m)
      (h.journaled.runStyles o e modes positions iteration table styles)
      (h.runStyles o e modes positions iteration table styles) := by
  induction styles generalizing table with
  | nil =>
    rw [runStyles, runStyles]
    exact Keeps.pure (by simp)
  | cons style styles ih =>
    rw [runStyles, runStyles]
    refine (keeps_compareModes e o.grouping modes style positions).bind fun rs hrs => ?_
    have hdescribes : ∀ r ∈ rs, Describes o s r.outcome.manifest := by
      intro r hr
      obtain ⟨reading, kind, hrun⟩ := hrs r hr
      refine ⟨?_, e, reading, kind, positions, r.outcome, hconfig, hpositions, hrun, rfl⟩
      rw [Engine.seed_of_run hrun, hconfig]
    have hdeliver : Keeps (Journal.Logs h o s) (fun _ => True)
        (h.journaled.deliverAll o iteration table rs) (h.deliverAll o iteration table rs) :=
      Keeps.foldlM (fun table _ r hr => keeps_deliver iteration table (hdescribes r hr)) trivial
    refine hdeliver.bind fun table _ => (ih table).bind fun more hmore => Keeps.pure ?_
    intro manifest hm
    rcases List.mem_append.1 hm with hm | hm
    · obtain ⟨r, hr, rfl⟩ := List.mem_map.1 hm
      exact hdescribes r hr
    · exact hmore manifest hm

lemma keeps_iterate {p : RunPlan}
    (hconfig : p.config = { s.config with seed := s.recordedSeed o.input }) (iteration : Nat)
    (g : Generator) {positions : List (Position Float)} (hpositions : positions.Perm s.positions)
    (rounds : Nat) :
    Keeps (Journal.Logs h o s) (fun ms => ∀ m ∈ ms, Describes o s m)
      (h.journaled.iterate o p iteration g positions rounds)
      (h.iterate o p iteration g positions rounds) := by
  induction rounds generalizing iteration g positions with
  | zero =>
    rw [iterate, iterate]
    exact Keeps.pure (by simp)
  | succ rounds ih =>
    have hshuffled : (g.shuffle positions).1.Perm s.positions :=
      (Random.shuffle_perm positions g.random).trans hpositions
    rw [iterate, iterate]
    refine (Keeps.check .engine _).bind fun e he => ?_
    have hengine : e.config = { s.config with seed := s.recordedSeed o.input } :=
      (Engine.of_new he).1.trans hconfig
    refine (keeps_runStyles hengine hshuffled _ _ _ _).bind fun ms hms => ?_
    refine (Keeps.check .engine _).bind fun _ _ => ?_
    refine (ih (iteration + 1) _ hshuffled).bind fun more hmore => Keeps.pure ?_
    intro manifest hm
    exact (List.mem_append.1 hm).elim (hms manifest) (hmore manifest)

/-! ### Preparations -/

/-- Nothing has been appended yet, and the result and the journal have `P` if there is a result. -/
def SoFar {ε α : Type} (P : α → Journal → Prop) (r : Except ε α) (j : Journal) : Prop :=
  j.appended = [] ∧ ∀ a, r = .ok a → P a j

section

variable {ε α β : Type} {P : α → Journal → Prop} {j : Journal}

lemma SoFar.error (hj : j.appended = []) (e : ε) : SoFar P (.error e) j :=
  ⟨hj, fun _ ha => by cases ha⟩

lemma SoFar.ok (hj : j.appended = []) {a : α} (ha : P a j) : SoFar P (.ok a : Except ε α) j :=
  ⟨hj, fun _ hb => Except.ok.inj hb ▸ ha⟩

lemma SoFar.bind {pre : Journal → Prop} {P' : β → Journal → Prop}
    {x : ExceptT ε (StateT Journal m) α} {y : ExceptT ε m α}
    {f : α → ExceptT ε (StateT Journal m) β} {g : α → ExceptT ε m β}
    (hxy : Journaled pre (SoFar P) x y)
    (hfg : ∀ a, Journaled (fun j => j.appended = [] ∧ P a j) (SoFar P') (f a) (g a)) :
    Journaled pre (SoFar P') (x >>= f) (y >>= g) :=
  hxy.bind (fun a j hj => hfg a j ⟨hj.1, hj.2 a rfl⟩) fun e _ hj => .error hj.1 e

end

lemma journaled_readOverrides (path : String) :
    Journaled (· = .empty)
      (SoFar fun overrides j => ToldDocument (some path) j.reads (some overrides) ∧ j.seeds = [])
      (h.journaled.readOverrides path) (h.readOverrides path) := by
  have hread : Journaled (· = .empty)
      (SoFar fun bytes j => j.reads = [(path, .ok bytes)] ∧ j.seeds = [])
      (attempt (fun fault => .document fault.cause) (h.journaled.read path))
      (attempt (fun fault => .document fault.cause) (h.read path)) := by
    refine .attempt _ ((Journaled.mk_noting _ _).mono ?_)
    rintro (fault | bytes) j ⟨i, rfl, rfl⟩
    · exact .error rfl _
    · exact .ok rfl ⟨rfl, rfl⟩
  refine SoFar.bind hread fun bytes => ?_
  cases htext : Utf8.decode? bytes with
  | none => exact .throw fun j hj => .error hj.1 _
  | some text =>
    dsimp only
    cases hoverrides : Overrides.ofYaml? text with
    | none => exact .throw fun j hj => .error hj.1 _
    | some overrides =>
      refine .pure fun j hj => .ok hj.1 ?_
      obtain ⟨-, hreads, hseeds⟩ := hj
      exact ⟨hreads ▸ .read htext hoverrides, hseeds⟩

/-- The document of overrides is read, if the options ask for one. -/
lemma journaled_document (path? : Option String) :
    Journaled (· = .empty)
      (SoFar fun document j => ToldDocument path? j.reads document ∧ j.seeds = [])
      (path?.mapM h.journaled.readOverrides) (path?.mapM h.readOverrides) := by
  cases path? with
  | none => exact .pure fun j hj => hj ▸ .ok rfl ⟨.absent, rfl⟩
  | some path =>
    show Journaled _ _ (some <$> h.journaled.readOverrides path) (some <$> h.readOverrides path)
    rw [map_eq_pure_bind, map_eq_pure_bind]
    refine SoFar.bind (journaled_readOverrides path) fun overrides => ?_
    exact .pure fun j hj => .ok hj.1 hj.2

/-- The seed of the generator is the configured one, or it is drawn. -/
lemma journaled_generator (inv : Reads → Prop) (seed? : Option Nat) :
    Journaled (fun j => j.appended = [] ∧ inv j.reads ∧ j.seeds = [])
      (SoFar fun g j => inv j.reads ∧ ∃ seed, ToldSeed seed? j.seeds seed ∧ g = .ofSeed seed)
      (h.journaled.generator seed?) (h.generator seed?) := by
  cases seed? with
  | some seed =>
    refine .pure fun j hj => .ok hj.1 ⟨hj.2.1, seed, ?_, rfl⟩
    rw [hj.2.2]
    exact .configured seed
  | none =>
    have hdrawn : Journaled (fun j => j.appended = [] ∧ inv j.reads ∧ j.seeds = [])
        (SoFar fun seed j => inv j.reads ∧ ToldSeed none j.seeds seed)
        (liftM h.journaled.newSeed : Step (StateT Journal m) Nat) (liftM h.newSeed) := by
      refine (Journaled.lift_noting _ _).mono ?_
      rintro _ j ⟨seed, i, rfl, ⟨happended, hreads, hseeds⟩, rfl⟩
      refine .ok (j := i.noteSeed seed) happended ⟨hreads, ?_⟩
      show ToldSeed none (i.seeds ++ [seed]) seed
      rw [hseeds]
      exact .drawn seed
    refine SoFar.bind hdrawn fun seed => .pure fun j hj => SoFar.ok hj.1 ?_
    exact ⟨hj.2.1, seed, hj.2.2, rfl⟩

lemma journaled_readPositions {pre : Journal → Prop} (hpre : ∀ j, pre j → j.appended = [])
    (path : String) :
    Journaled pre
      (SoFar fun positions j => ∃ bytes i, PositionTable.read bytes = .ok positions ∧ pre i ∧
        j = i.noteRead path (.ok bytes))
      (h.journaled.readPositions path) (h.readPositions path) := by
  have hread : Journaled pre
      (SoFar fun bytes j => ∃ i, pre i ∧ j = i.noteRead path (.ok bytes))
      (attempt tableFault (h.journaled.read path)) (attempt tableFault (h.read path)) := by
    refine .attempt _ ((Journaled.mk_noting _ _).mono ?_)
    rintro (fault | bytes) j ⟨i, hi, rfl⟩
    · exact .error (j := i.noteRead path _) (hpre i hi) _
    · exact .ok (j := i.noteRead path _) (hpre i hi) ⟨i, hi, rfl⟩
  refine SoFar.bind hread fun bytes => .check fun j hj => ?_
  cases hpositions : PositionTable.read bytes with
  | error fault => exact .error hj.1 _
  | ok positions =>
    obtain ⟨happended, i, hi, hj⟩ := hj
    exact .ok happended ⟨bytes, i, hpositions, hi, hj⟩

/-- The positions are read if the options name a table, and otherwise they will be generated. -/
lemma journaled_table {pre : Journal → Prop} (hpre : ∀ j, pre j → j.appended = []) (p : RunPlan)
    (g : Generator) (path? : Option String) :
    Journaled pre
      (SoFar fun table j => ∃ i reads, pre i ∧
        ToldPositions p.config.datasetSize g path? reads (positions p table g).1 ∧
        j = { i with reads := i.reads ++ reads })
      (path?.mapM h.journaled.readPositions) (path?.mapM h.readPositions) := by
  cases path? with
  | none =>
    refine .pure fun j hj => .ok (hpre j hj) ⟨j, [], hj, .generated, ?_⟩
    rw [List.append_nil]
  | some path =>
    show Journaled _ _ (some <$> h.journaled.readPositions path) (some <$> h.readPositions path)
    rw [map_eq_pure_bind, map_eq_pure_bind]
    refine SoFar.bind (journaled_readPositions hpre path) fun ps => .pure fun j hj => ?_
    obtain ⟨happended, bytes, i, hps, hi, rfl⟩ := hj
    exact .ok happended ⟨i, _, hi, .read hps, rfl⟩

/-! ### Runs -/

/-- What a run does before anything is run: the plan, the generator and the table come out. -/
def prepare {m : Type → Type} [Monad m] (h : Host m) (o : RunOptions) :
    Step m (RunPlan × Generator × Option (List (Position Float))) := do
  let document ← o.config.mapM h.readOverrides
  let plan ← check id (RunPlan.make h.lookup document o)
  let g ← h.generator plan.config.seed
  let table ← o.input.mapM h.readPositions
  return (plan, g, table)

/-- What a run does when its positions are there. -/
def perform {m : Type → Type} [Monad m] (h : Host m) (o : RunOptions) (p : RunPlan) (g : Generator)
    (ps : List (Position Float)) : Step m (List Manifest) := do
  o.manifest.forM fun path => attempt .file (h.ensure path)
  o.output.forM fun path => attempt .table (h.create path)
  let manifests ← h.iterate o p 0 g ps o.rounds
  h.print "✓ All modes agree with serial-eager"
  return manifests

lemma run_eq (h : Host m) (o : RunOptions) :
    h.run o = h.prepare o >>= fun (p, g, table) =>
      h.perform o (p.seeded o.input g.seed) (positions p table g).2 (positions p table g).1 := by
  have hseed : ∀ (p : RunPlan) table (g : Generator), (positions p table g).2.seed = g.seed := by
    intro p table g
    cases table <;> rfl
  unfold run prepare perform
  simp only [hseed, bind_assoc, pure_bind]
  cases o.manifest <;> cases o.output <;> simp [Option.forM]

lemma keeps_perform {p : RunPlan}
    (hconfig : p.config = { s.config with seed := s.recordedSeed o.input }) (g : Generator)
    {ps : List (Position Float)} (hps : ps.Perm s.positions) :
    Keeps (Journal.Logs h o s) (fun ms => ∀ m ∈ ms, Describes o s m)
      (h.journaled.perform o p g ps) (h.perform o p g ps) := by
  unfold perform
  refine (keeps_optional fun path => keeps_unnoted _ _).bind fun _ _ => ?_
  refine (keeps_optional fun path => keeps_unnoted _ _).bind fun _ _ => ?_
  refine (keeps_iterate hconfig 0 g hps _).bind fun ms hms => ?_
  exact (Keeps.lift_unnoted _).bind fun _ _ => Keeps.pure hms

lemma config_of_make {lookup : String → Option String} {document : Option (Overrides Float)}
    {p : RunPlan} (hp : RunPlan.make lookup document o = .ok p) :
    p.config = Config.layered lookup document (.ofOptions o.batchSize o.threads o.size o.seed) := by
  unfold RunPlan.make at hp
  obtain ⟨_, -, hp⟩ := exists_of_bind_eq_ok hp
  obtain ⟨_, -, hp⟩ := exists_of_bind_eq_ok hp
  obtain ⟨_, -, hp⟩ := exists_of_bind_eq_ok hp
  obtain rfl := Except.ok.inj hp
  rfl

/-- The journal of the preparations tells the source. -/
lemma journaled_prepare (h : Host m) (o : RunOptions) :
    Journaled (· = .empty)
      (SoFar fun (p, g, table) j => j.Tells h o ⟨p.config, g, (positions p table g).1⟩)
      (h.journaled.prepare o) (h.prepare o) := by
  refine SoFar.bind (journaled_document o.config) fun document => ?_
  have hplan : Journaled
      (fun j => j.appended = [] ∧ ToldDocument o.config j.reads document ∧ j.seeds = [])
      (SoFar fun p j =>
        (ToldDocument o.config j.reads document ∧ p.config =
          Config.layered h.lookup document (.ofOptions o.batchSize o.threads o.size o.seed)) ∧
        j.seeds = [])
      (check id (RunPlan.make h.lookup document o) : Step (StateT Journal m) RunPlan)
      (check id (RunPlan.make h.lookup document o)) := by
    refine .check fun j hj => ?_
    cases hp : RunPlan.make h.lookup document o with
    | error cause => exact .error hj.1 _
    | ok p => exact .ok hj.1 ⟨⟨hj.2.1, config_of_make hp⟩, hj.2.2⟩
  refine SoFar.bind hplan fun p => ?_
  refine SoFar.bind (journaled_generator (fun reads => ToldDocument o.config reads document ∧
    p.config = Config.layered h.lookup document (.ofOptions o.batchSize o.threads o.size o.seed))
    p.config.seed) fun g => ?_
  refine SoFar.bind (journaled_table (fun _ hj => hj.1) p g o.input) fun table => ?_
  refine .pure fun j hj => .ok hj.1 ?_
  obtain ⟨-, i, reads', ⟨-, ⟨hdocument, hconfig⟩, seed, hseed, hg⟩, hpositions, rfl⟩ := hj
  exact ⟨document, i.reads, reads', seed, hdocument, hconfig, hseed, hg, hpositions, rfl⟩

/-- Where positions are generated, every manifest that a run appends or returns records the seed of
their generator, be it configured or drawn. Where they are read, it records the seed that a layer
of the configuration has, if one has it. -/
theorem run_seeds (h : Host m) (o : RunOptions) :
    Lockstep (fun p r => p.1 = r ∧ p.2.AccountsFor h o r)
      ((h.journaled.run o).run.run .empty) (h.run o).run := by
  suffices hrun : Journaled (· = .empty) (fun r j => j.AccountsFor h o r)
      (h.journaled.run o) (h.run o) from hrun .empty rfl
  rw [run_eq, run_eq]
  refine (journaled_prepare h o).bind (fun (p, g, table) => ?_) fun e j hj => ?_
  · have hconfig : (p.seeded o.input g.seed).config = { p.config with
        seed := Source.recordedSeed ⟨p.config, g, (positions p table g).1⟩ o.input } := by
      unfold RunPlan.seeded Source.recordedSeed
      split_ifs <;> rfl
    intro j hj
    have hperform := keeps_perform (h := h) (s := ⟨p.config, g, (positions p table g).1⟩) hconfig
      (positions p table g).2 (.refl _)
    refine (Journaled.mono hperform fun r j' hj' => ?_) j ⟨hj.2 _ rfl, by rw [hj.1]; simp⟩
    exact hj'.1.accountsFor hj'.2
  · rw [Journal.AccountsFor, hj.1]
    exact ⟨by simp, fun ms hms => by cases hms⟩

end Host

end

/-! ### Runs in memory -/

namespace Host

/-- One worker, no variables, and 42 for every seed that is drawn. -/
def quiet : Host (StateM Memory) := Memory.host (fun _ => none) ⟨1, Nat.one_pos⟩ 42

/-- One run over a table. -/
def tableOptions : RunOptions where
  input := some "in.csv"
  size := some 1
  seed := some 7
  grouping := .account
  mode := "serial-eager"
  style := "immutable"
  batchSize := none
  threads := some 1
  iterations := 1
  config := none
  output := none
  manifest := none

/-- One run over a position that is generated with a seed that is drawn. -/
def drawnOptions : RunOptions := { tableOptions with input := none, seed := none }

/-- A table with one position. -/
def tableMemory : Memory :=
  .ofFiles ["work"]
    [("in.csv", Utf8.encode "account,product,category,price,quantity\na,p,A,2.5,2\n")]

/-- A run with a seed that is drawn. -/
theorem run_seeds_drawn :
    ∃ manifest j, ((quiet.run drawnOptions).run.run tableMemory).1 = .ok [manifest] ∧
      Journal.AccountsFor quiet drawnOptions (.ok [manifest]) j ∧ manifest.seed = some 42 := by
  obtain ⟨⟨-, haccounts⟩, -⟩ := (run_seeds quiet drawnOptions).of_run tableMemory
  have hseeds : ((quiet.run drawnOptions).run.run tableMemory).1.toOption.map
      (·.map Manifest.seed) = some [some 42] := by
    decide +kernel
  cases hrun : ((quiet.run drawnOptions).run.run tableMemory).1 with
  | error e =>
    rw [hrun] at hseeds
    cases hseeds
  | ok manifests =>
    rw [hrun] at hseeds haccounts
    obtain ⟨manifest, rfl, hseed⟩ := List.map_eq_singleton_iff.1 (Option.some.inj hseeds)
    exact ⟨manifest, _, rfl, haccounts, hseed⟩

/-- A run over a table that records the seed that was configured. -/
theorem seed_of_table :
    ((quiet.run tableOptions).run.run tableMemory).1.toOption.map (·.map Manifest.seed) =
      some [some 7] := by
  decide +kernel

end Host

end Groupwise
