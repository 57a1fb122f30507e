import Groupwise.Command.Generate
import Groupwise.Command.Options
import Groupwise.Config.Yaml
import Groupwise.Manifest.Log
import Groupwise.Stats.Csv

/-!
# Running and comparing modes

The command aggregates positions in several modes and styles and compares each result with that of
the serial, eager mode. It does so several times, each time with the positions in another order. A
line is printed for each run, its manifest goes to a log, and the results of the last iteration go
to a table. The command stops at the first result that is wrong.
-/

namespace Groupwise

/-! ### Plans -/

/-- The items of a list of names with commas between them; `all` stands for all there are. -/
def parseNames {α : Type} (all : List α) (parse : String → Except NameError α) (s : String) :
    Except NameError (List α) :=
  if normalName s = "all" then .ok all
  else (s.toList.splitOn ',').mapM fun item => parse (String.ofList item)

/-- What is run: the valid configuration, the modes and the styles. -/
structure RunPlan where
  config : Config Float
  modes : List Mode
  styles : List Style

namespace RunPlan

/-- The plan of a run with the given options and document of overrides. -/
def make (lookup : String → Option String) (document : Option (Overrides Float))
    (o : RunOptions) : Except CommandError RunPlan := do
  let config := Config.layered lookup document (.ofOptions o.batchSize o.threads o.size o.seed)
  config.validate.mapError CommandError.config
  return { config := config
           modes := ← (parseNames Mode.all Mode.parse o.mode).mapError CommandError.name
           styles := ← (parseNames Style.all Style.parse o.style).mapError CommandError.name }

/-- The plan once the positions are there. Positions that were generated put the seed of their
generator into the configuration, and from there it goes into all manifests. -/
def seeded (p : RunPlan) (input : Option String) (seed : Nat) : RunPlan :=
  if input.isNone then { p with config := { p.config with seed := some seed } } else p

end RunPlan

/-! ### Lines -/

namespace Text

/-- The spaces that fill `s` up to a least width, counted in characters. -/
def filling (width : Nat) (s : String) : String :=
  String.ofList (List.replicate (width - s.length) ' ')

def alignLeft (width : Nat) (s : String) : String := s ++ filling width s

def alignRight (width : Nat) (s : String) : String := filling width s ++ s

end Text

/-- How often a run is repeated; once at least. -/
def RunOptions.rounds (o : RunOptions) : Nat := max o.iterations 1

/-- The line of a report. -/
def ModeReport.line (iteration : Nat) (r : ModeReport Float) : String :=
  let m := r.outcome.manifest
  Text.alignRight 3 (natText iteration) ++ " " ++
    Text.alignLeft 15 m.kind.mode.name ++ " " ++
    Text.alignLeft 10 m.kind.style.name ++
    " groups=" ++ Text.alignLeft 7 (natText m.groups) ++
    " batches=" ++ Text.alignLeft 5 (natText m.batches) ++ " " ++
    Text.alignRight 6 (natText m.duration) ++ "ms " ++
    if r.identical then "identical" else "within tolerance"

/-! ### Steps -/

namespace Host

variable {m : Type → Type} [Monad m]

/-- The document of overrides in a file. -/
def readOverrides (h : Host m) (path : String) : Step m (Overrides Float) := do
  let bytes ← attempt (fun fault => .document fault.cause) (h.read path)
  match Utf8.decode? bytes with
  | none => throw .documentNotText
  | some text =>
    match Overrides.ofYaml? text with
    | none => throw .badDocument
    | some overrides => return overrides

/-- The error of a table that cannot be read. -/
def tableFault : ReadFault → CommandError
  | .opening cause => .file cause
  | .reading cause => .table cause

/-- The positions of a table. -/
def readPositions (h : Host m) (path : String) : Step m (List (Position Float)) := do
  check .positions (PositionTable.read (← attempt tableFault (h.read path)))

/-- Run an engine; the clock is read before and after. -/
def runEngine (h : Host m) (e : Engine Float) (kind : RunKind) (positions : List (Position Float)) :
    ExceptT (EngineError Float) m (RunOutcome Float) := do
  let id ← h.newId
  let started ← h.now
  let schedule := h.schedule id
  let description ←
    MonadExcept.ofExcept (e.manifest id schedule kind positions.length started)
  let result ← MonadExcept.ofExcept (e.result schedule kind positions)
  let finished ← h.now
  MonadExcept.ofExcept (Engine.conclude description finished result)

/-- Compare the modes of a plan in one style. -/
def compareModes (h : Host m) (e : Engine Float) (grouping : Grouping) (modes : List Mode)
    (style : Style) (positions : List (Position Float)) : Step m (List (ModeReport Float)) :=
  attempt .engine <| ExceptT.run <| Engine.compareWith e.config.sumTolerance
    (fun _ mode => h.runEngine e ⟨mode, style, grouping⟩ positions) modes

/-- Show a report, log its manifest and, in the last iteration, write its result. -/
def deliver (h : Host m) (o : RunOptions) (iteration : Nat) (table : Csv.TableWriter)
    (r : ModeReport Float) : Step m Csv.TableWriter := do
  let manifest := r.outcome.manifest
  h.print (r.line iteration)
  if let some path := o.manifest then
    attempt .file (h.append path (ManifestLog.line manifest))
  match o.output with
  | none => return table
  | some path =>
    if iteration + 1 = o.rounds then
      let (bytes, table) := StatsTable.write table manifest.kind r.outcome.result
      h.writeTable path bytes
      return table
    else return table

/-- Deliver reports one after the other. -/
def deliverAll (h : Host m) (o : RunOptions) (iteration : Nat) (table : Csv.TableWriter)
    (rs : List (ModeReport Float)) : Step m Csv.TableWriter :=
  rs.foldlM (h.deliver o iteration) table

/-- Run all styles of a plan; the manifests of the runs come out. -/
def runStyles (h : Host m) (o : RunOptions) (e : Engine Float) (modes : List Mode)
    (positions : List (Position Float)) (iteration : Nat) :
    Csv.TableWriter → List Style → Step m (List Manifest)
  | _, [] => return []
  | table, style :: styles => do
    let reports ← h.compareModes e o.grouping modes style positions
    let table ← h.deliverAll o iteration table reports
    let more ← h.runStyles o e modes positions iteration table styles
    return reports.map (·.outcome.manifest) ++ more

/-- Run the iterations from number `iteration` on, of which `rounds` are left. -/
def iterate (h : Host m) (o : RunOptions) (p : RunPlan) (iteration : Nat) (g : Generator)
    (positions : List (Position Float)) : (rounds : Nat) → Step m (List Manifest)
  | 0 => return []
  | rounds + 1 => do
    let (positions, g) := g.shuffle positions
    let e ← check .engine (Engine.new h.overflow h.machine p.config)
    let manifests ←
      h.runStyles o e p.modes positions iteration StatsTable.writer p.styles
    check .engine (e.shutdown (List.replicate e.workers 0))
    return manifests ++ (← h.iterate o p (iteration + 1) g positions rounds)

/-- The positions of a run, and the generator behind them. -/
def positions (p : RunPlan) (table : Option (List (Position Float))) (g : Generator) :
    List (Position Float) × Generator :=
  match table with
  | some ps => (ps, g)
  | none => g.generate p.config.datasetSize

/-- Compare modes as the options say; the manifests of all runs come out. -/
def run (h : Host m) (o : RunOptions) : Step m (List Manifest) := do
  let document ← o.config.mapM h.readOverrides
  let plan ← check id (RunPlan.make h.lookup document o)
  let g ← h.generator plan.config.seed
  let table ← o.input.mapM h.readPositions
  if let some path := o.manifest then attempt .file (h.ensure path)
  if let some path := o.output then attempt .table (h.create path)
  let (positions, g) := positions plan table g
  let manifests ← h.iterate o (plan.seeded o.input g.seed) 0 g positions o.rounds
  h.print "✓ All modes agree with serial-eager"
  return manifests

end Host

end Groupwise
