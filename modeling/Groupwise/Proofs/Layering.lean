import Groupwise.Config.Layers
import Mathlib

/-!
# Layers of settings

A configuration has seven settings, of which a layer supplies some. Looked at setting by setting,
a layer on top of a configuration is the first of two options (`Config.get_apply`), so a stack of
layers is the first of many, from the top down (`Config.get_stack`). Layers can be merged before
they are put on a configuration (`Config.apply_over`), which is why putting one on twice changes
nothing.

The environment supplies a setting if its variable is there and can be read, whatever the other
variables hold.
-/

namespace Groupwise

variable {V : Type}

/-- The settings of a configuration. -/
inductive Setting
  | batchSize
  | parallelism
  | shutdownTimeoutMs
  | sumTolerance
  | datasetSize
  | seed
  | lockShards
deriving DecidableEq, Repr

namespace Setting

/-- What a setting can be set to. -/
abbrev Value (V : Type) : Setting → Type
  | sumTolerance => V
  | _ => Nat

/-- The variable of a setting. -/
def environmentName : Setting → String
  | batchSize => "AGGBY_BATCH_SIZE"
  | parallelism => "AGGBY_PARALLELISM"
  | shutdownTimeoutMs => "AGGBY_SHUTDOWN_TIMEOUT_MS"
  | sumTolerance => "AGGBY_SUM_TOLERANCE"
  | datasetSize => "AGGBY_DATASET_SIZE"
  | seed => "AGGBY_SEED"
  | lockShards => "AGGBY_LOCK_SHARDS"

/-- The text of a variable, if it can be read: a tolerance is a float, all else are words. -/
def parse : (s : Setting) → String → Option (s.Value Float)
  | sumTolerance => Literal.float?
  | batchSize | parallelism | shutdownTimeoutMs | datasetSize | seed | lockShards =>
    Literal.nat? wordBound

/-- What the command line says about a setting; it has no options for three of them. -/
def option (batchSize threads size seed : Option Nat) : (s : Setting) → Option (s.Value V)
  | .batchSize => batchSize
  | .parallelism => threads
  | .datasetSize => size
  | .seed => seed
  | .shutdownTimeoutMs | .sumTolerance | .lockShards => none

lemma environmentName_injective : Function.Injective environmentName := by
  intro s t h
  cases s <;> cases t <;> simp_all [environmentName]

/-- The variables that a program reads are those of the settings. -/
lemma mem_variableNames_iff {name : String} :
    name ∈ Overrides.variableNames ↔ ∃ s : Setting, s.environmentName = name := by
  constructor
  · intro h
    simp only [Overrides.variableNames, List.mem_cons, List.not_mem_nil, or_false] at h
    rcases h with rfl | rfl | rfl | rfl | rfl | rfl | rfl
    exacts [⟨.batchSize, rfl⟩, ⟨.parallelism, rfl⟩, ⟨.shutdownTimeoutMs, rfl⟩, ⟨.sumTolerance, rfl⟩,
      ⟨.datasetSize, rfl⟩, ⟨.seed, rfl⟩, ⟨.lockShards, rfl⟩]
  · rintro ⟨s, rfl⟩
    cases s <;> simp [Overrides.variableNames, environmentName]

end Setting

/-! ### A layer, setting by setting -/

/-- What a layer supplies for a setting. -/
def Overrides.get (o : Overrides V) : (s : Setting) → Option (s.Value V)
  | .batchSize => o.batchSize
  | .parallelism => o.parallelism
  | .shutdownTimeoutMs => o.shutdownTimeoutMs
  | .sumTolerance => o.sumTolerance
  | .datasetSize => o.datasetSize
  | .seed => o.seed
  | .lockShards => o.lockShards

/-- What a configuration has for a setting; three of them may be left open. -/
def Config.get (c : Config V) : (s : Setting) → Option (s.Value V)
  | .batchSize => c.batchSize
  | .parallelism => c.parallelism
  | .shutdownTimeoutMs => some c.shutdownTimeoutMs
  | .sumTolerance => some c.sumTolerance
  | .datasetSize => some c.datasetSize
  | .seed => c.seed
  | .lockShards => some c.lockShards

/-- Two layers in one: the settings of the upper one, and those of the lower one that the upper one
does not supply. -/
def Overrides.over (upper lower : Overrides V) : Overrides V where
  batchSize := upper.batchSize.or lower.batchSize
  parallelism := upper.parallelism.or lower.parallelism
  shutdownTimeoutMs := upper.shutdownTimeoutMs.or lower.shutdownTimeoutMs
  sumTolerance := upper.sumTolerance.or lower.sumTolerance
  datasetSize := upper.datasetSize.or lower.datasetSize
  seed := upper.seed.or lower.seed
  lockShards := upper.lockShards.or lower.lockShards

namespace Overrides

lemma ext_get {o o' : Overrides V} (h : ∀ s, o.get s = o'.get s) : o = o' := by
  cases o
  cases o'
  simp only [mk.injEq]
  exact ⟨h .batchSize, h .parallelism, h .shutdownTimeoutMs, h .sumTolerance, h .datasetSize,
    h .seed, h .lockShards⟩

@[simp] lemma get_empty (s : Setting) : ({} : Overrides V).get s = none := by cases s <;> rfl

@[simp] lemma get_over (upper lower : Overrides V) (s : Setting) :
    (upper.over lower).get s = (upper.get s).or (lower.get s) := by
  cases s <;> rfl

@[simp] lemma get_ofOptions (batchSize threads size seed : Option Nat) (s : Setting) :
    (ofOptions batchSize threads size seed : Overrides V).get s =
      s.option batchSize threads size seed := by
  cases s <;> rfl

@[simp] lemma get_ofEnvironment (lookup : String → Option String) (s : Setting) :
    (ofEnvironment lookup).get s = (lookup s.environmentName).bind s.parse := by
  cases s <;> rfl

lemma over_self (o : Overrides V) : o.over o = o :=
  ext_get fun s => by rw [get_over, Option.or_self]

/-- Only the variables of the settings matter. -/
theorem ofEnvironment_congr {lookup lookup' : String → Option String}
    (h : ∀ name ∈ variableNames, lookup name = lookup' name) :
    ofEnvironment lookup = ofEnvironment lookup' :=
  ext_get fun s => by
    rw [get_ofEnvironment, get_ofEnvironment, h _ (Setting.mem_variableNames_iff.2 ⟨s, rfl⟩)]

/-- A variable, readable or not, has no say in the settings of the others. -/
theorem get_ofEnvironment_update {s t : Setting} (h : t ≠ s) (lookup : String → Option String)
    (text : Option String) :
    (ofEnvironment (Function.update lookup s.environmentName text)).get t =
      (ofEnvironment lookup).get t := by
  have hname : t.environmentName ≠ s.environmentName := fun he =>
    h (Setting.environmentName_injective he)
  rw [get_ofEnvironment, get_ofEnvironment, Function.update_of_ne hname]

end Overrides

namespace Config

lemma ext_get {c c' : Config V} (h : ∀ s, c.get s = c'.get s) : c = c' := by
  cases c
  cases c'
  simp only [mk.injEq]
  exact ⟨h .batchSize, h .parallelism, Option.some.inj (h .shutdownTimeoutMs),
    Option.some.inj (h .sumTolerance), Option.some.inj (h .datasetSize), h .seed,
    Option.some.inj (h .lockShards)⟩

@[simp] lemma get_apply (c : Config V) (o : Overrides V) (s : Setting) :
    (c.apply o).get s = (o.get s).or (c.get s) := by
  cases s
  case batchSize | parallelism | seed => rfl
  all_goals exact Option.or_some.symm

/-! ### Stacks of layers -/

lemma apply_over (c : Config V) (upper lower : Overrides V) :
    (c.apply lower).apply upper = c.apply (upper.over lower) :=
  ext_get fun s => by simp only [get_apply, Overrides.get_over, Option.or_assoc]

lemma apply_apply_self (c : Config V) (o : Overrides V) : (c.apply o).apply o = c.apply o := by
  rw [apply_over, Overrides.over_self]

/-- Of a stack of layers, the first one from the top that supplies a setting decides. -/
theorem get_stack (layers : List (Overrides V)) (c : Config V) (s : Setting) :
    (layers.foldl apply c).get s = (layers.reverse.findSome? (·.get s)).or (c.get s) := by
  induction layers using List.reverseRecOn with
  | nil => rfl
  | append_singleton lower top ih =>
    rw [List.foldl_append, List.foldl_cons, List.foldl_nil, get_apply, ih, ← Option.or_assoc,
      List.reverse_append, List.reverse_singleton, List.singleton_append, List.findSome?_cons]
    cases top.get s <;> rfl

lemma layered_eq_stack (lookup : String → Option String) (document : Option (Overrides Float))
    (options : Overrides Float) :
    layered lookup document options =
      [Overrides.ofEnvironment lookup, document.getD {}, options].foldl apply default := rfl

lemma get_layered (lookup : String → Option String) (document : Option (Overrides Float))
    (batchSize threads size seed : Option Nat) (s : Setting) :
    (layered lookup document (.ofOptions batchSize threads size seed)).get s =
      [s.option batchSize threads size seed, document.bind (·.get s),
        (lookup s.environmentName).bind s.parse, default.get s].findSome? id := by
  have hdocument : (document.getD {}).get s = document.bind (·.get s) := by cases document <;> simp
  rw [layered_eq_stack, get_stack]
  simp only [List.reverse_cons, List.reverse_nil, List.nil_append, List.cons_append,
    List.findSome?_cons, List.findSome?_nil, id_eq, Overrides.get_ofOptions,
    Overrides.get_ofEnvironment, hdocument]
  -- the four layers are opaque by now; the first that supplies the setting ends both searches
  cases s.option batchSize threads size seed
  case some => rfl
  cases document.bind (·.get s)
  case some => rfl
  cases (lookup s.environmentName).bind s.parse
  case some => rfl
  cases default.get s <;> rfl

/-! ### Usable configurations -/

lemma validate_eq_ok_iff [Number V] (c : Config V) :
    c.validate = .ok () ↔
      c.batchSize ≠ some 0 ∧ c.parallelism ≠ some 0 ∧ c.lockShards ≠ 0 ∧
        Number.isNaN c.sumTolerance = false ∧ Number.lt c.sumTolerance Number.zero = false := by
  unfold validate
  split_ifs with hbatch hworkers hshards htolerance
  · exact iff_of_false nofun fun h => h.1 hbatch
  · exact iff_of_false nofun fun h => h.2.1 hworkers
  · exact iff_of_false nofun fun h => h.2.2.1 hshards
  · refine iff_of_false nofun fun h => ?_
    rw [h.2.2.2.1, h.2.2.2.2] at htolerance
    cases htolerance
  · rw [Bool.not_eq_true, Bool.or_eq_false_iff] at htolerance
    exact iff_of_true rfl ⟨hbatch, hworkers, hshards, htolerance⟩

/-- A configuration of floats can be used if no size is zero and the tolerance is a number that is
not negative. -/
lemma validate_eq_ok_iff_float (c : Config Float) :
    c.validate = .ok () ↔
      c.batchSize ≠ some 0 ∧ c.parallelism ≠ some 0 ∧ c.lockShards ≠ 0 ∧
        c.sumTolerance.isNaN = false ∧ ¬ c.sumTolerance < 0.0 := by
  rw [validate_eq_ok_iff]
  refine and_congr_right fun _ => and_congr_right fun _ => and_congr_right fun _ =>
    and_congr_right fun _ => ?_
  exact decide_eq_false_iff_not

/-! ### Settings of all layers -/

/-- Layers work setting by setting, and the upper one wins: of the command line, the document, the
environment and the defaults, the first that supplies a setting decides it; a setting that a layer
does not supply stays as it was; two documents are as good as one that has the settings of the
second and else those of the first, so a document put on twice is put on once. What comes out can be
used if no size is zero and the tolerance is a number that is not negative. -/
theorem layered_rightBiased :
    (∀ (lookup : String → Option String) (document : Option (Overrides Float))
        (batchSize threads size seed : Option Nat) (s : Setting),
      (layered lookup document (.ofOptions batchSize threads size seed)).get s =
        [s.option batchSize threads size seed, document.bind (·.get s),
          (lookup s.environmentName).bind s.parse, default.get s].findSome? id) ∧
    (∀ (lookup : String → Option String) (s : Setting), (ofEnvironment lookup).get s =
      if ((lookup s.environmentName).bind s.parse).isSome then
        (lookup s.environmentName).bind s.parse else default.get s) ∧
    (∀ (c : Config Float) (o : Overrides Float) (s : Setting),
      (c.apply o).get s = if (o.get s).isSome then o.get s else c.get s) ∧
    (∀ (c : Config Float) (lower upper : Overrides Float),
      (c.apply lower).apply upper = c.apply (upper.over lower) ∧
        ∀ s, (upper.over lower).get s = if (upper.get s).isSome then upper.get s else lower.get s) ∧
    (∀ (c : Config Float) (o : Overrides Float), (c.apply o).apply o = c.apply o) ∧
    ∀ c : Config Float, c.validate = .ok () ↔
      c.batchSize ≠ some 0 ∧ c.parallelism ≠ some 0 ∧ c.lockShards ≠ 0 ∧
        c.sumTolerance.isNaN = false ∧ ¬ c.sumTolerance < 0.0 := by
  refine ⟨get_layered, fun lookup s => ?_, fun c o s => ?_, fun c lower upper => ⟨?_, fun s => ?_⟩,
    apply_apply_self, validate_eq_ok_iff_float⟩
  · rw [ofEnvironment, get_apply, Overrides.get_ofEnvironment, Option.or_eq_bif, Bool.cond_eq_ite]
  · rw [get_apply, Option.or_eq_bif, Bool.cond_eq_ite]
  · exact apply_over c upper lower
  · rw [Overrides.get_over, Option.or_eq_bif, Bool.cond_eq_ite]

end Config

end Groupwise
